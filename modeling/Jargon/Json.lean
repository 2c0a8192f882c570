import Jargon.Decimal.Layout

/-!
# JSON output

Values that are printed, and their text over several lines with two spaces for each level.
-/

namespace Jargon

inductive Json where
  | bool (b : Bool)
  | nat (n : Nat)
  | number (x : Binary64)
  | string (s : String)
  | object (members : List (String × Json))

namespace Json

/-! ### Strings -/

/-- two digits of the code of a control -/
def controlCode (n : Nat) : List Char := [Nat.digitChar (n / 16), Nat.digitChar (n % 16)]

def escaped (c : Char) : List Char :=
  match c with
  | '"' => ['\\', '"']
  | '\\' => ['\\', '\\']
  | '\x08' => ['\\', 'b']
  | '\t' => ['\\', 't']
  | '\n' => ['\\', 'n']
  | '\x0c' => ['\\', 'f']
  | '\r' => ['\\', 'r']
  | c => if c.toNat < 0x20 then '\\' :: 'u' :: '0' :: '0' :: controlCode c.toNat else [c]

def quoted (s : String) : String := String.ofList ('"' :: s.toList.flatMap escaped ++ ['"'])

/-- what is no finite number is `null` -/
def numberText (x : Binary64) : String :=
  if x.isFinite then Decimal.Layout.json.write x else "null"

/-! ### Layout -/

/-- the start of a line at some level -/
def lineStart (level : Nat) : String := String.ofList ('\n' :: List.replicate (2 * level) ' ')

mutual

/-- the text of a value whose first line stands at some level -/
def prettyAt (level : Nat) : Json → String
  | .bool b => if b then "true" else "false"
  | .nat n => toString n
  | .number x => numberText x
  | .string s => quoted s
  | .object [] => "\x7b\x7d"
  | .object members =>
    "\x7b" ++ prettyMembers (level + 1) members ++ lineStart level ++ "\x7d"

def prettyMembers (level : Nat) : List (String × Json) → String
  | [] => ""
  | [m] => lineStart level ++ prettyMember level m
  | m :: rest => lineStart level ++ prettyMember level m ++ "," ++ prettyMembers level rest

def prettyMember (level : Nat) : String × Json → String
  | (key, v) => quoted key ++ ": " ++ prettyAt level v

end

def pretty (v : Json) : String := prettyAt 0 v

end Json

end Jargon
