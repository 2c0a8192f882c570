import Jargon.Config.Decode
import Jargon.Config.Validate
import Jargon.Toml.Document
import Jargon.Toml.Writer

/-!
# Texts of a configuration

A text is read as a document, the document as a configuration, and the configuration is validated.
A configuration is written as four sections, each under its header, with an empty line between two
of them; what is not set has no line.

* `parse_eq_ok_iff`   all three succeed.
-/

namespace Jargon

/-- why the content of a file is not to be had -/
inductive ReadFailure where
  | notFound
  | isDirectory
  /-- a part of the path is a file -/
  | notDirectory
  | notUtf8
  /-- whatever else the system says -/
  | other (description : String)
  deriving DecidableEq, Repr

def ReadFailure.message : ReadFailure → String
  | .notFound => "No such file or directory (os error 2)"
  | .isDirectory => "Is a directory (os error 21)"
  | .notDirectory => "Not a directory (os error 20)"
  | .notUtf8 => "stream did not contain valid UTF-8"
  | .other description => description

/-- the text of a file -/
def textOfBytes (bytes : ByteArray) : Except ReadFailure String :=
  match String.fromUTF8? bytes with
  | some text => .ok text
  | none => .error .notUtf8

inductive ConfigError where
  | read (e : ReadFailure)
  /-- the text is no document -/
  | document
  /-- the document does not fit the configuration -/
  | data (e : Config.Mismatch)
  | invalid (e : Config.Complaint)
  deriving DecidableEq, Repr

def ConfigError.message : ConfigError → String
  | .read e => "failed to read config file: " ++ e.message
  | .document => "not a TOML document"
  | .data e => e.message
  | .invalid e => "validation error: " ++ e.message

namespace Config

def parse (text : String) : Except ConfigError Config :=
  match Toml.read? text with
  | none => .error .document
  | some document =>
    match decode document with
    | .error e => .error (.data e)
    | .ok c =>
      match c.validate with
      | .error e => .error (.invalid e)
      | .ok () => .ok c

theorem parse_eq_ok_iff {text : String} {c : Config} :
    parse text = .ok c ↔
      ∃ document, Toml.read? text = some document ∧ decode document = .ok c ∧
        c.validate = .ok () := by
  unfold parse
  cases h : Toml.read? text with
  | none => simp
  | some document =>
    simp only [Option.some.injEq, exists_eq_left']
    cases hd : decode document with
    | error e => simp
    | ok c' =>
      dsimp only
      cases hv : c'.validate with
      | error e =>
        simp only [reduceCtorEq, Except.ok.injEq, false_iff, not_and]
        rintro rfl h'; rw [hv] at h'; cases h'
      | ok u =>
        simp only [Except.ok.injEq]
        constructor
        · rintro rfl; exact ⟨rfl, hv⟩
        · rintro ⟨rfl, -⟩; rfl

/-- from the bytes of a file, or from the reason why there are none -/
def ofFile (content : Except ReadFailure ByteArray) : Except ConfigError Config :=
  match content >>= textOfBytes with
  | .error e => .error (.read e)
  | .ok text => parse text

/-! ### Writing -/

open Toml

def renderEngine (c : Config) : String :=
  headerLine Section.engine.key ++ valueLine? Key.seed toString c.seed
    ++ valueLine Key.insertionMode (writeString c.insertionMode)

def renderCompliance (c : Config) : String :=
  headerLine Section.compliance.key
    ++ valueLine Key.minScore (writeFloat c.compliance.minScore)
    ++ valueLine Key.maxScore (writeFloat c.compliance.maxScore)
    ++ valueLine Key.minWordCount (toString c.compliance.minWordCount)
    ++ valueLine Key.maxCoherencePercent (toString c.compliance.maxCoherencePercent)

def renderLexicon (c : Config) : String :=
  headerLine Section.lexicon.key
    ++ valueLine? WordList.vocabulary.name writeStrings c.lexicon.vocabulary
    ++ valueLine? WordList.actionVerbs.name writeStrings c.lexicon.actionVerbs
    ++ valueLine? WordList.conceptNouns.name writeStrings c.lexicon.conceptNouns

def renderLogging (c : Config) : String :=
  headerLine Section.logging.key ++ valueLine Key.level (writeString c.logLevel)

def render (c : Config) : String :=
  c.renderEngine ++ "\n" ++ c.renderCompliance ++ "\n" ++ c.renderLexicon ++ "\n" ++ c.renderLogging

end Config

end Jargon
