import Jargon.Lexicon
import Jargon.Random.Draw

/-!
# Generated prose

Templates filled with entries that are drawn one after the other, in the order in which they
stand in the template.  A briefing is a speech, a subject line, and a piece of bad news before and
after it was made harmless.
-/

namespace Jargon

/-! ### Briefings -/

structure Briefing where
  speech : String
  subject : String
  /-- as it was before -/
  badNews : String
  obfuscated : String
  deriving DecidableEq, Repr

namespace Briefing

/-- sentences of the speech -/
def units : Nat := 3

def defaultBadNews : String := "The project is three months behind schedule and over budget."

def display (b : Briefing) : String :=
  "Generated Corporate Speak:\n" ++ b.speech ++ "\n\nUrgent Email Subject:\n" ++ b.subject
    ++ "\n\nOriginal: " ++ b.badNews ++ "\nObfuscated:\n" ++ b.obfuscated

end Briefing

namespace Prose

/-! ### Templates -/

def sentenceText (verb noun verb₂ buzzword verb₃ noun₂ : String) : String :=
  "We need to " ++ verb ++ " our " ++ noun ++ " to " ++ verb₂ ++ " " ++ buzzword ++ " and "
    ++ verb₃ ++ " " ++ noun₂ ++ "."

def subjectText (verb noun : String) : String :=
  "URGENT: Need to " ++ verb ++ " " ++ noun ++ " by EOD"

/-- the first verb gets `ing` as it stands, so `leverage` becomes `leverageing` -/
def obfuscationText (verb noun verb₂ noun₂ verb₃ buzzword noun₃ : String) : String :=
  "We're strategically " ++ verb ++ "ing our " ++ noun ++ " to " ++ verb₂ ++ " " ++ noun₂
    ++ " and " ++ verb₃ ++ " " ++ buzzword ++ " across " ++ noun₃ ++ " going forward."

/-! ### Draws -/

/-- sentences to make for a number that may be negative: none if it is -/
def unitCount (units : Int) : Nat := units.toNat

open Draw

variable {σ : Type} [WordSource σ]

def sentence (l : Lexicon) : Draw σ String := do
  let verb ← pick l.actionVerbs
  let noun ← pick l.conceptNouns
  let verb₂ ← pick l.actionVerbs
  let buzzword ← pick l.vocabulary
  let verb₃ ← pick l.actionVerbs
  let noun₂ ← pick l.conceptNouns
  return sentenceText verb noun verb₂ buzzword verb₃ noun₂

/-- `text`, then `units` sentences with a space after each -/
def speechAfter (l : Lexicon) (text : String) : (units : Nat) → Draw σ String
  | 0 => return text
  | units + 1 => do
    let s ← sentence l
    speechAfter l (text ++ s ++ " ") units

def speech (l : Lexicon) (units : Nat) : Draw σ String := speechAfter l "" units

def subject (l : Lexicon) : Draw σ String := do
  let verb ← pick l.actionVerbs
  let noun ← pick l.conceptNouns
  return subjectText verb noun

/-- what is said in place of a message, which plays no part in it -/
def obfuscation (l : Lexicon) : Draw σ String := do
  let verb ← pick l.actionVerbs
  let noun ← pick l.conceptNouns
  let verb₂ ← pick l.actionVerbs
  let noun₂ ← pick l.conceptNouns
  let verb₃ ← pick l.actionVerbs
  let buzzword ← pick l.vocabulary
  let noun₃ ← pick l.conceptNouns
  return obfuscationText verb noun verb₂ noun₂ verb₃ buzzword noun₃

/-- speech, subject and obfuscation, drawn in this order -/
def briefing (l : Lexicon) (badNews : String) : Draw σ Briefing := do
  let speech ← speech l Briefing.units
  let subject ← subject l
  let obfuscated ← obfuscation l
  return { speech, subject, badNews, obfuscated }

end Prose

end Jargon
