import Jargon.Density

/-!
# Compliance of a text

A text complies if it has enough buzzwords, is long and vague, and means nothing.  Each check is a
strict comparison with a threshold, and a score that is not a number passes none of them.

* `Verdict.passes_iff`   the three checks, as one statement.
-/

namespace Jargon

structure Thresholds where
  /-- the score must be above -/
  minScore : Binary64
  /-- the score must be below -/
  maxScore : Binary64
  /-- the word count must be above -/
  minWordCount : UInt64
  /-- a hundred times the score must be above -/
  maxCoherencePercent : UInt32
  deriving DecidableEq, Repr

namespace Thresholds

def defaultMinScore : Binary64 := Decimal.round false ⟨25, -2⟩
def defaultMaxScore : Binary64 := Decimal.round false ⟨8, -1⟩
def defaultMinWordCount : UInt64 := 50
def defaultMaxCoherencePercent : UInt32 := 20

/-- what holds unless configured otherwise -/
def standard : Thresholds :=
  ⟨defaultMinScore, defaultMaxScore, defaultMinWordCount, defaultMaxCoherencePercent⟩

end Thresholds

/-- the checks of one text, with the scoring they rest on -/
structure Verdict where
  hasEnoughBuzzwords : Bool
  sufficientlyVague : Bool
  properlyMeaningless : Bool
  report : Report
  deriving DecidableEq, Repr

namespace Verdict

def percent (score : Binary64) : Binary64 := score * .ofNat 100

def ofReport (report : Report) (thresholds : Thresholds) : Verdict where
  hasEnoughBuzzwords := thresholds.minScore < report.score
  sufficientlyVague :=
    thresholds.minWordCount.toNat < report.wordCount && report.score < thresholds.maxScore
  properlyMeaningless := .ofNat thresholds.maxCoherencePercent.toNat < percent report.score
  report := report

def passes (v : Verdict) : Bool :=
  v.hasEnoughBuzzwords && v.sufficientlyVague && v.properlyMeaningless

theorem passes_iff (report : Report) (thresholds : Thresholds) :
    (ofReport report thresholds).passes = true ↔
      thresholds.minScore < report.score ∧
        (thresholds.minWordCount.toNat < report.wordCount ∧ report.score < thresholds.maxScore) ∧
        .ofNat thresholds.maxCoherencePercent.toNat < percent report.score := by
  simp [passes, ofReport, and_assoc]

end Verdict

end Jargon
