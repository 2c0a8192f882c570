import Jargon.Text.CharacterClass

/-!
# Lexicons

Three lists of entries from which all prose is made.  A lexicon that is read in has no empty list
and no blank entry; a list that is not replaced keeps its built-in contents.

* `WordList.check_eq_none_iff`   what a list has to satisfy;
* `Lexicon.ofLists_eq_ok_iff`    a lexicon is made exactly when its three lists do.
-/

namespace Jargon

/-! ### The lists and what is wrong with them -/

inductive WordList where
  | vocabulary
  | actionVerbs
  | conceptNouns
  deriving DecidableEq, Repr

/-- the name of a list, as a key of a configuration has it -/
def WordList.name : WordList → String
  | .vocabulary => "vocabulary"
  | .actionVerbs => "action_verbs"
  | .conceptNouns => "concept_nouns"

inductive LexiconError where
  | emptyList (list : WordList)
  | blankEntry (list : WordList) (index : Nat)
  deriving DecidableEq, Repr

def LexiconError.message : LexiconError → String
  | .emptyList list => "word list `" ++ list.name ++ "` must contain at least one entry"
  | .blankEntry list index =>
    "word list `" ++ list.name ++ "` has a blank entry at index " ++ toString index

/-- emptiness, or else the first blank entry -/
def WordList.check (list : WordList) (entries : List String) : Option LexiconError :=
  if entries.isEmpty then some (.emptyList list)
  else (Text.firstBlank? entries).map (.blankEntry list)

theorem WordList.check_eq_none_iff (list : WordList) (entries : List String) :
    list.check entries = none ↔ entries ≠ [] ∧ ∀ e ∈ entries, Text.isBlankText e = false := by
  unfold WordList.check
  split
  · simp_all
  · simp_all [Text.firstBlank?, List.findIdx?_eq_none_iff]

/-! ### Lexicons -/

structure Lexicon where
  /-- entries that are inserted and counted -/
  vocabulary : List String
  actionVerbs : List String
  conceptNouns : List String
  deriving DecidableEq, Repr

namespace Lexicon

def builtinVocabulary : List String :=
  ["synergy", "leverage", "paradigm", "disrupt", "innovate", "monetize", "optimize",
    "strategize", "actualize", "incentivize", "circle back", "touch base", "deep dive",
    "bandwidth", "runway", "low-hanging fruit", "move the needle", "boil the ocean",
    "drinking from the firehose", "bleeding edge", "best-of-breed", "core competency",
    "value-add", "game-changer", "win-win", "thought leadership", "business intelligence",
    "actionable insights"]

def builtinActionVerbs : List String :=
  ["leverage", "utilize", "facilitate", "streamline", "maximize", "optimize", "revolutionize",
    "transform", "empower", "enable", "orchestrate", "synthesize", "aggregate", "architect",
    "envision"]

def builtinConceptNouns : List String :=
  ["deliverables", "stakeholders", "bandwidth", "mindshare", "paradigm", "ecosystem",
    "value proposition", "synergies", "core competencies", "best practices", "action items",
    "key performance indicators", "return on investment", "total cost of ownership",
    "strategic initiatives"]

def builtin : Lexicon := ⟨builtinVocabulary, builtinActionVerbs, builtinConceptNouns⟩

/-- the first complaint about the lists in their order -/
def check (l : Lexicon) : Option LexiconError :=
  WordList.vocabulary.check l.vocabulary
    <|> WordList.actionVerbs.check l.actionVerbs
    <|> WordList.conceptNouns.check l.conceptNouns

/-- a lexicon of these lists, if nothing is wrong with them -/
def ofLists (vocabulary actionVerbs conceptNouns : List String) : Except LexiconError Lexicon :=
  let lexicon : Lexicon := ⟨vocabulary, actionVerbs, conceptNouns⟩
  match lexicon.check with
  | some e => .error e
  | none => .ok lexicon

theorem ofLists_eq_ok_iff {v a n : List String} {l : Lexicon} :
    ofLists v a n = .ok l ↔ l = ⟨v, a, n⟩ ∧ l.check = none := by
  unfold ofLists
  constructor
  · intro h
    dsimp only at h
    split at h
    · cases h
    · rename_i hc; cases h; exact ⟨rfl, hc⟩
  · rintro ⟨rfl, hc⟩
    simp [hc]

/-- lists that replace the built-in ones where they are set -/
structure Overrides where
  vocabulary : Option (List String)
  actionVerbs : Option (List String)
  conceptNouns : Option (List String)
  deriving DecidableEq, Repr

def ofOverrides (o : Overrides) : Except LexiconError Lexicon :=
  ofLists (o.vocabulary.getD builtinVocabulary) (o.actionVerbs.getD builtinActionVerbs)
    (o.conceptNouns.getD builtinConceptNouns)

end Lexicon

end Jargon
