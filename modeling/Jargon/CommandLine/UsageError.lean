import Jargon.CommandLine.Vocabulary
import Jargon.Text.ControlSequence

/-!
# Faults of a command line

A fault is told in one line; more may follow where a value brings a line end of its own.  What was
given is shown without terminal control.  In an integer, digits are taken from left to right, and the
first fault counts: a character that is no digit, or a digit with which the value leaves its range.

* `readUnsigned`, `readSigned`   an integer, or its fault;
* `UsageError.message`           what is said about a command line.
-/

namespace Jargon.CommandLine

/-! ### Integers -/

inductive IntegerFault where
  | empty
  | invalidDigit
  | tooLarge
  | tooSmall
  deriving DecidableEq, Repr

def IntegerFault.message : IntegerFault → String
  | .empty => "cannot parse integer from empty string"
  | .invalidDigit => "invalid digit found in string"
  | .tooLarge => "number too large to fit in target type"
  | .tooSmall => "number too small to fit in target type"

/-- the value of decimal digits behind `value`, none of which leads past `most` -/
def magnitude (most : Nat) (past : IntegerFault) (value : Nat) :
    List Char → Except IntegerFault Nat
  | [] => .ok value
  | c :: rest =>
    if !c.isDigit then .error .invalidDigit
    else
      let value := 10 * value + (c.toNat - '0'.toNat)
      if most < value then .error past else magnitude most past value rest

/-- an integer without a sign, or with a plus, of 64 bits -/
def readUnsigned (text : String) : Except IntegerFault UInt64 :=
  let digits : List Char → Except IntegerFault UInt64 := fun digits =>
    (magnitude (UInt64.size - 1) .tooLarge 0 digits).map UInt64.ofNat
  match text.toList with
  | [] => .error .empty
  | ['+'] => .error .invalidDigit
  | '+' :: rest => digits rest
  | text => digits text

/-- an integer of 64 bits with an optional sign -/
def readSigned (text : String) : Except IntegerFault Int :=
  match text.toList with
  | [] => .error .empty
  | ['+'] | ['-'] => .error .invalidDigit
  | '-' :: rest => (magnitude (Nat.pow 2 63) .tooSmall 0 rest).map fun n => -(n : Int)
  | '+' :: rest => (magnitude (Nat.pow 2 63 - 1) .tooLarge 0 rest).map Int.ofNat
  | text => (magnitude (Nat.pow 2 63 - 1) .tooLarge 0 text).map Int.ofNat

/-! ### Command lines -/

inductive UsageError where
  | unexpectedArgument (shown : String)
  | unknownVerb (text : String)
  | missingVerb
  | missingValue (o : Opt)
  | surplusValue (value : String) (o : Opt)
  | invalidValue (value : String) (o : Opt) (fault : IntegerFault)
  | repeated (o : Opt)
  deriving DecidableEq, Repr

/-- what was given, in single quotes -/
def shownInQuotes (given : String) : String := "'" ++ Text.withoutControl given ++ "'"

def UsageError.message : UsageError → String
  | .unexpectedArgument shown => "unexpected argument " ++ shownInQuotes shown ++ " found"
  | .unknownVerb text => "unrecognized subcommand " ++ shownInQuotes text
  | .missingVerb => "'" ++ programName ++ "' requires a subcommand but one was not provided"
  | .missingValue o => "a value is required for '" ++ o.display ++ "' but none was supplied"
  | .surplusValue value o =>
    "unexpected value " ++ shownInQuotes value ++ " for '" ++ o.display ++ "' found; no more were expected"
  | .invalidValue value o fault =>
    "invalid value " ++ shownInQuotes value ++ " for '" ++ o.display ++ "': " ++ fault.message
  | .repeated o => "the argument '" ++ o.display ++ "' cannot be used multiple times"

end Jargon.CommandLine
