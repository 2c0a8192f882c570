import Jargon.Config.Basic
import Jargon.Decimal.Layout
import Jargon.Text.Quoted

/-!
# Validity of a configuration

The conditions are looked at in one order and the first that fails is reported: the mode, the
scores (finite, not negative, in order), the percentage, the three lists, the level.

* `validate_eq_ok_iff`    a configuration is valid if no condition complains.
-/

namespace Jargon.Config

/-- names that the mode may have -/
def insertionModes : List String := ["first-space", "scatter"]

/-- names that the level may have -/
def logLevels : List String := ["trace", "debug", "info", "warn", "error"]

/-- the condition that fails, with what it found -/
inductive Complaint where
  | insertionMode (found : String)
  | scoresNotFinite
  | negativeScore (minScore : Binary64)
  | scoresOutOfOrder (minScore maxScore : Binary64)
  | percentTooLarge (found : UInt32)
  | emptyList (list : WordList)
  | blankEntry (list : WordList) (index : Nat)
  | logLevel (found : String)
  deriving DecidableEq, Repr

namespace Complaint

def oneOf (key : String) (names : List String) (found : String) : String :=
  key ++ " must be one of " ++ Text.quotedList names ++ ", got " ++ Text.quoted found

def message : Complaint → String
  | insertionMode found => oneOf "engine.insertion_mode" insertionModes found
  | scoresNotFinite => "compliance scores must be finite"
  | negativeScore x =>
    "compliance.min_score must be non-negative, got " ++ Decimal.Layout.plain.write x
  | scoresOutOfOrder x y =>
    "compliance.min_score (" ++ Decimal.Layout.plain.write x
      ++ ") must be below compliance.max_score (" ++ Decimal.Layout.plain.write y ++ ")"
  | percentTooLarge n => "compliance.max_coherence_percent must be at most 100, got " ++ toString n
  | emptyList list => "lexicon." ++ list.name ++ " must not be empty when set"
  | blankEntry list index =>
    "lexicon." ++ list.name ++ "[" ++ toString index ++ "] must not be blank"
  | logLevel found => oneOf "logging.level" logLevels found

end Complaint

/-! ### The conditions -/

def checkMode (c : Config) : Option Complaint :=
  if insertionModes.contains c.insertionMode then none else some (.insertionMode c.insertionMode)

def checkFinite (t : Thresholds) : Option Complaint :=
  if t.minScore.isFinite && t.maxScore.isFinite then none else some .scoresNotFinite

/-- zeros of both signs pass -/
def checkSign (t : Thresholds) : Option Complaint :=
  if t.minScore < .zero then some (.negativeScore t.minScore) else none

def checkOrder (t : Thresholds) : Option Complaint :=
  if t.maxScore ≤ t.minScore then some (.scoresOutOfOrder t.minScore t.maxScore) else none

def checkPercent (t : Thresholds) : Option Complaint :=
  if 100 < t.maxCoherencePercent then some (.percentTooLarge t.maxCoherencePercent) else none

/-- a list that is not set is not looked at -/
def checkList (list : WordList) : Option (List String) → Option Complaint
  | none => none
  | some entries =>
    if entries.isEmpty then some (.emptyList list)
    else (Text.firstBlank? entries).map (.blankEntry list)

def checkLevel (c : Config) : Option Complaint :=
  if logLevels.contains c.logLevel then none else some (.logLevel c.logLevel)

/-! ### The verdict on all of them -/

/-- what each condition says, in their order -/
def complaints (c : Config) : List (Option Complaint) :=
  [checkMode c, checkFinite c.compliance, checkSign c.compliance, checkOrder c.compliance,
    checkPercent c.compliance, checkList .vocabulary c.lexicon.vocabulary,
    checkList .actionVerbs c.lexicon.actionVerbs, checkList .conceptNouns c.lexicon.conceptNouns,
    checkLevel c]

def firstComplaint (said : List (Option Complaint)) : Option Complaint := said.findSome? id

def validate (c : Config) : Except Complaint Unit :=
  match firstComplaint c.complaints with
  | some complaint => .error complaint
  | none => .ok ()

theorem validate_eq_ok_iff (c : Config) :
    validate c = .ok () ↔ ∀ said ∈ c.complaints, said = none := by
  unfold validate firstComplaint
  constructor
  · intro h
    split at h
    · cases h
    · rename_i hn; simpa [List.findSome?_eq_none_iff] using hn
  · intro h
    have hn : c.complaints.findSome? id = none := by
      simpa [List.findSome?_eq_none_iff] using h
    rw [hn]

end Jargon.Config
