import Jargon.Binary64.Basic

/-!
# Values of a TOML document

A table lists its entries in ascending order of their keys, each key once.  A number literal whose
value has no room in its type is kept as an overflow: it is well-formed, and a fault only for
whoever looks at it.
-/

namespace Jargon.Toml

inductive Overflow where
  | integer
  | float
  deriving DecidableEq, Repr

def Overflow.message : Overflow → String
  | .integer => "integer number overflowed"
  | .float => "floating-point number overflowed"

inductive Value where
  | string (text : String)
  /-- at least `-2^127` and below `2^128` -/
  | integer (value : Int)
  | float (value : Binary64)
  | overflow (kind : Overflow)
  | boolean (value : Bool)
  | dateTime (text : String)
  | array (items : List Value)
  | table (entries : List (String × Value))

/-- entries in ascending order of their keys -/
abbrev Table := List (String × Value)

/-- an integer of any size; `none` is a literal that is no number in its base -/
def Value.ofInteger? : Option Int → Value
  | none => .overflow .integer
  | some n =>
    if -((Nat.pow 2 127 : Nat) : Int) ≤ n ∧ n < (Nat.pow 2 128 : Nat) then .integer n
    else .overflow .integer

/-- the value of a decimal literal; only a value that has become infinite overflows -/
def Value.ofRounded (x : Binary64) : Value :=
  if x.isFinite then .float x else .overflow .float

/-! ### Looking through a value -/

mutual

/-- the first overflow in a value, entries and items in their order -/
def Value.firstOverflow? : Value → Option Overflow
  | .overflow kind => some kind
  | .array items => itemsOverflow? items
  | .table entries => entriesOverflow? entries
  | .string _ | .integer _ | .float _ | .boolean _ | .dateTime _ => none

def itemsOverflow? : List Value → Option Overflow
  | [] => none
  | v :: rest => v.firstOverflow? <|> itemsOverflow? rest

def entriesOverflow? : List (String × Value) → Option Overflow
  | [] => none
  | e :: rest => entryOverflow? e <|> entriesOverflow? rest

def entryOverflow? : String × Value → Option Overflow
  | (_, v) => v.firstOverflow?

end

end Jargon.Toml
