import Jargon.Decimal.Layout
import Jargon.Toml.Chars

/-!
# Writing TOML

Strings, arrays of strings, floating point numbers and the lines they stand on.  A string is
written in the first form that holds it as it is, or else with escapes.

* `StringForm.choose`   which form that is.
-/

namespace Jargon.Toml

/-! ### Forms of a string -/

inductive StringForm where
  | basic
  | literal
  | basicLines
  | literalLines
  deriving DecidableEq, Repr

/-- longest run of a quote, the current run being `run` long and the longest so far `best` -/
def longestRunFrom (quote : Char) (run best : Nat) : List Char → Nat
  | [] => max run best
  | c :: rest =>
    if c = quote then longestRunFrom quote (run + 1) best rest
    else longestRunFrom quote 0 (max run best) rest

def longestRun (quote : Char) (text : List Char) : Nat := longestRunFrom quote 0 0 text

/-- a control that only an escape can stand for -/
def needsEscape (c : Char) : Bool := !isPlainChar c && c != '\n'

/-- characters that need no look at the text as a whole -/
def isSafeChar (c : Char) : Bool :=
  c.isAlphanum || c == '-' || c == '_' || c == '.' || c == '/' || c == ' ' || c == ':'

def StringForm.choose (text : List Char) : StringForm :=
  let controls := text.any needsEscape
  let escapes := text.contains '\\'
  let lines := text.contains '\n'
  let single := longestRun '\'' text
  let double := longestRun '"' text
  if text.all isSafeChar then .basic
  else if !controls && !escapes && double == 0 && !lines then .basic
  else if !controls && single == 0 && !lines then .literal
  else if !controls && !escapes && double ≤ 2 then .basicLines
  else if !controls && single ≤ 2 then .literalLines
  else if lines then .basicLines
  else .basic

/-! ### Escapes -/

/-- two digits of the code of a control -/
def controlCode (n : Nat) : List Char :=
  [Nat.digitChar (n / 16), Nat.digitChar (n % 16)].map Char.toUpper

/-- how a character other than a quote stands between double quotes -/
def escaped (c : Char) : List Char :=
  match c with
  | '\x08' => ['\\', 'b']
  | '\t' => ['\\', 't']
  | '\n' => ['\\', 'n']
  | '\x0c' => ['\\', 'f']
  | '\r' => ['\\', 'r']
  | '\\' => ['\\', '\\']
  | c =>
    if isPlainChar c then [c] else '\\' :: 'u' :: '0' :: '0' :: controlCode c.toNat

/-- between double quotes on one line -/
def escapedLine (text : List Char) : List Char :=
  text.flatMap fun c => if c = '"' then ['\\', '"'] else escaped c

/-- between three double quotes: of a run of quotes each third one is escaped -/
def escapedLines (run : Nat) : List Char → List Char
  | [] => []
  | c :: rest =>
    if c = '"' then
      if run = 2 then '\\' :: '"' :: escapedLines 0 rest else '"' :: escapedLines (run + 1) rest
    else if c = '\n' then '\n' :: escapedLines 0 rest
    else escaped c ++ escapedLines 0 rest

/-! ### Values -/

/-- after three opening quotes, so that a text with lines starts on its own -/
def opening (text : List Char) : List Char := if text.contains '\n' then ['\n'] else []

def stringChars (text : List Char) : List Char :=
  match StringForm.choose text with
  | .basic => '"' :: escapedLine text ++ ['"']
  | .literal => '\'' :: text ++ ['\'']
  | .basicLines => ['"', '"', '"'] ++ opening text ++ escapedLines 0 text ++ ['"', '"', '"']
  | .literalLines => ['\'', '\'', '\''] ++ opening text ++ text ++ ['\'', '\'', '\'']

def writeString (text : String) : String := String.ofList (stringChars text.toList)

/-- two strings or more stand on lines of their own -/
def writeStrings : List String → String
  | [] => "[]"
  | [text] => "[" ++ writeString text ++ "]"
  | texts =>
    "[\n" ++ String.join (texts.map fun text => "    " ++ writeString text ++ ",\n") ++ "]"

/-- shortest digits without an exponent, always with a point -/
def writeFloat (x : Binary64) : String :=
  if x.isNaN then "nan" else Decimal.Layout.withPoint.write x

/-! ### Lines -/

def headerLine (key : String) : String := "[" ++ key ++ "]\n"

def valueLine (key value : String) : String := key ++ " = " ++ value ++ "\n"

/-- no line for a value that is not set -/
def valueLine? {α : Type} (key : String) (write : α → String) : Option α → String
  | none => ""
  | some a => valueLine key (write a)

end Jargon.Toml
