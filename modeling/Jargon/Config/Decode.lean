import Jargon.Config.Basic
import Jargon.Decimal.Layout
import Jargon.Text.Quoted
import Jargon.Toml.Value

/-!
# A configuration from a table

A table is gone through in the order of its keys, and the first value that does not fit its field
is reported.  Keys that name no field are skipped, but no number behind them may overflow.  A
section may also be an array, which holds its fields in their order.

* `Fields.decodeTable_cons`   entry by entry;
* `decode`   sections are the fields of a document.
-/

namespace Jargon.Config

open Toml (Value Overflow)

/-! ### What was found in place of what -/

/-- what a field holds -/
inductive Expected where
  | unsigned64
  | size
  | unsigned32
  | float
  | string
  | sequence
  | record (s : Section)
  deriving DecidableEq, Repr

def Expected.text : Expected → String
  | .unsigned64 => "u64"
  | .size => "usize"
  | .unsigned32 => "u32"
  | .float => "f64"
  | .string => "a string"
  | .sequence => "a sequence"
  | .record .engine => "struct EngineConfig"
  | .record .compliance => "struct ComplianceConfig"
  | .record .lexicon => "struct LexiconConfig"
  | .record .logging => "struct LoggingConfig"

/-- whether an integer fits 64 bits, with or without a sign -/
def isWord (n : Int) : Bool := -((Nat.pow 2 63 : Nat) : Int) ≤ n && n < (UInt64.size : Int)

/-- an integer in a message, with its type if that is a wide one -/
def integerText (n : Int) : String :=
  "integer `" ++ toString n ++ "`" ++
    (if isWord n then "" else if n < (Nat.pow 2 127 : Nat) then " as i128" else " as u128")

/-- what a value is called in a message -/
def found : Value → String
  | .string text => "string " ++ Text.quoted text
  | .integer n => integerText n
  | .float x => "floating point `" ++ Decimal.Layout.withPoint.write x ++ "`"
  | .overflow _ => "number"
  | .boolean b => "boolean `" ++ toString b ++ "`"
  | .array _ => "sequence"
  | .dateTime _ | .table _ => "map"

inductive Mismatch where
  | type (found : String) (expected : Expected)
  | range (value : Int) (expected : Expected)
  | overflow (kind : Overflow)
  deriving DecidableEq, Repr

def Mismatch.message : Mismatch → String
  | .type found expected => "invalid type: " ++ found ++ ", expected " ++ expected.text
  | .range value expected =>
    "invalid value: " ++ integerText value ++ ", expected " ++ expected.text
  | .overflow kind => kind.message

/-- a value of another type; an overflow is reported as such -/
def refuse {α : Type} (expected : Expected) : Value → Except Mismatch α
  | .overflow kind => .error (.overflow kind)
  | v => .error (.type (found v) expected)

/-! ### Values of fields -/

/-- a natural number below `bound` -/
def natural (bound : Nat) (expected : Expected) : Value → Except Mismatch Nat
  | .integer n =>
    if isWord n then
      if 0 ≤ n ∧ n < bound then .ok n.toNat else .error (.range n expected)
    else refuse expected (.integer n)
  | v => refuse expected v

def unsigned64 (v : Value) : Except Mismatch UInt64 :=
  (natural UInt64.size .unsigned64 v).map UInt64.ofNat

def size (v : Value) : Except Mismatch UInt64 := (natural UInt64.size .size v).map UInt64.ofNat

def unsigned32 (v : Value) : Except Mismatch UInt32 :=
  (natural UInt32.size .unsigned32 v).map UInt32.ofNat

/-- an integer of 64 bits may stand for the nearest number -/
def float : Value → Except Mismatch Binary64
  | .float x => .ok x
  | .integer n =>
    if isWord n then .ok (.ratio (n < 0) n.natAbs 1) else refuse .float (.integer n)
  | v => refuse .float v

def string : Value → Except Mismatch String
  | .string text => .ok text
  | v => refuse .string v

def strings : Value → Except Mismatch (List String)
  | .array items => items.mapM string
  | v => refuse .sequence v

/-! ### Fields -/

/-- a key and what its value changes -/
structure Field where
  key : String
  set : Value → Config → Except Mismatch Config

abbrev Fields := List Field

namespace Fields

/-- the field of a key, or a look for overflows where there is none -/
def setEntry (fields : Fields) (c : Config) (entry : String × Value) : Except Mismatch Config :=
  match fields.find? (·.key == entry.1) with
  | some field => field.set entry.2 c
  | none =>
    match entry.2.firstOverflow? with
    | some kind => .error (.overflow kind)
    | none => .ok c

def decodeTable (fields : Fields) (entries : Toml.Table) (c : Config) :
    Except Mismatch Config :=
  entries.foldlM (setEntry fields) c

@[simp]
theorem decodeTable_cons (fields : Fields) (e : String × Value) (entries : Toml.Table)
    (c : Config) :
    decodeTable fields (e :: entries) c = setEntry fields c e >>= decodeTable fields entries := rfl

/-- items for which there is no field are not looked at -/
def decodeArray (fields : Fields) (items : List Value) (c : Config) : Except Mismatch Config :=
  (fields.zip items).foldlM (fun c (field, v) => field.set v c) c

/-- the value of a section; a date has no field -/
def decodeSection (fields : Fields) (s : Section) (v : Value) (c : Config) :
    Except Mismatch Config :=
  match v with
  | .table entries => fields.decodeTable entries c
  | .array items => fields.decodeArray items c
  | .dateTime _ => .ok c
  | v => refuse (.record s) v

end Fields

/-- the fields of a section in their order -/
def Section.fields : Section → Fields
  | .engine => [
      ⟨Key.seed, fun v c => do return { c with seed := some (← unsigned64 v) }⟩,
      ⟨Key.insertionMode, fun v c => do return { c with insertionMode := ← string v }⟩]
  | .compliance => [
      ⟨Key.minScore, fun v c => do return { c with compliance.minScore := ← float v }⟩,
      ⟨Key.maxScore, fun v c => do return { c with compliance.maxScore := ← float v }⟩,
      ⟨Key.minWordCount, fun v c => do return { c with compliance.minWordCount := ← size v }⟩,
      ⟨Key.maxCoherencePercent, fun v c => do
        return { c with compliance.maxCoherencePercent := ← unsigned32 v }⟩]
  | .lexicon => [
      ⟨WordList.vocabulary.name, fun v c => do
        return { c with lexicon.vocabulary := some (← strings v) }⟩,
      ⟨WordList.actionVerbs.name, fun v c => do
        return { c with lexicon.actionVerbs := some (← strings v) }⟩,
      ⟨WordList.conceptNouns.name, fun v c => do
        return { c with lexicon.conceptNouns := some (← strings v) }⟩]
  | .logging => [⟨Key.level, fun v c => do return { c with logLevel := ← string v }⟩]

def sections : List Section := [.engine, .compliance, .lexicon, .logging]

/-- a document has its sections as fields -/
def documentFields : Fields :=
  sections.map fun s => ⟨s.key, s.fields.decodeSection s⟩

/-- what the document leaves open holds as in the standard configuration -/
def decode (document : Toml.Table) : Except Mismatch Config :=
  documentFields.decodeTable document .standard

end Jargon.Config
