import Jargon.Text.Occurrences
import Jargon.Binary64.Basic
import Jargon.Decimal.Basic

/-!
# Buzzword density

A text is scored by its hits per word.  All arithmetic is binary floating point, so the synergy
level is the floor of a rounded product, not of the exact quotient.

* `Report.ofText_hits`, `Report.ofText_wordCount`   the counts of a report are those of its text.
-/

namespace Jargon

namespace Density

/-- scale of a score -/
def optimal : Binary64 := Decimal.round false ⟨95, -2⟩

/-- thousandths of a ratio of one -/
def thousand : Binary64 := .ofNat 1000

end Density

/-- one scoring of a text -/
structure Report where
  wordCount : Nat
  hits : Nat
  /-- hits per word -/
  ratio : Binary64
  /-- whole thousandths of the ratio -/
  synergyLevel : UInt64
  score : Binary64
  deriving DecidableEq, Repr

namespace Report

def ofCounts (wordCount hits : Nat) (coefficient : Binary64) : Report :=
  let ratio := Binary64.ofNat hits / Binary64.ofNat wordCount
  { wordCount, hits, ratio
    synergyLevel := (ratio * Density.thousand).floorUInt64
    score := ratio * coefficient * Density.optimal }

/-- scores a text against a list of entries -/
def ofText (text : String) (entries : List String) (coefficient : Binary64) : Report :=
  ofCounts (Text.wordCount text) (Text.hits text entries) coefficient

@[simp]
theorem ofText_wordCount (text : String) (entries : List String) (coefficient : Binary64) :
    (ofText text entries coefficient).wordCount = Text.wordCount text := rfl

@[simp]
theorem ofText_hits (text : String) (entries : List String) (coefficient : Binary64) :
    (ofText text entries coefficient).hits = Text.hits text entries := rfl

end Report

end Jargon
