import Jargon.Toml.Chars

/-!
# Strings of a TOML document

Four forms: between double quotes with escapes, between single quotes without, and either of them
over several lines between three quotes.  The scanners go through the text character by character
and keep what they have read in reverse.

* `basicFrom`, `literal?`              the forms on one line;
* `foldedFrom`, `verbatimFrom`         the forms over several lines;
* `closing?`                           three quotes end a string, up to two more belong to it.
-/

namespace Jargon.Toml

/-! ### Escapes -/

/-- what an escape that has begun waits for -/
inductive Escape where
  | letter
  /-- so many more digits, after those that make up `value` -/
  | digits (missing : Nat) (value : Nat)
  deriving DecidableEq, Repr

/-- where one more character leads an escape -/
inductive Escape.Step where
  | wait (e : Escape)
  | done (c : Char)
  deriving DecidableEq, Repr

def hexDigit? (c : Char) : Option Nat :=
  if c.isDigit then some (c.toNat - '0'.toNat)
  else if 'a' ≤ c ∧ c ≤ 'f' then some (c.toNat - 'a'.toNat + 10)
  else if 'A' ≤ c ∧ c ≤ 'F' then some (c.toNat - 'A'.toNat + 10)
  else none

/-- a letter stands for a control, a quote or the backslash, or for a number of digits -/
def Escape.ofLetter? : Char → Option Escape.Step
  | 'b' => some (.done '\x08')
  | 't' => some (.done '\t')
  | 'n' => some (.done '\n')
  | 'f' => some (.done '\x0c')
  | 'r' => some (.done '\r')
  | 'e' => some (.done '\x1b')
  | '"' => some (.done '"')
  | '\\' => some (.done '\\')
  | 'x' => some (.wait (.digits 2 0))
  | 'u' => some (.wait (.digits 4 0))
  | 'U' => some (.wait (.digits 8 0))
  | _ => none

/-- surrogates and numbers past the last code point are no characters -/
def charOfNat? (n : Nat) : Option Char := if n.isValidChar then some (Char.ofNat n) else none

def Escape.step? (c : Char) : Escape → Option Escape.Step
  | .letter => ofLetter? c
  | .digits missing value => do
    let value := 16 * value + (← hexDigit? c)
    if missing ≤ 1 then return .done (← charOfNat? value)
    else return .wait (.digits (missing - 1) value)

/-! ### On one line -/

/-- up to the closing double quote -/
def basicFrom (escape : Option Escape) (read : List Char) : Reader (List Char)
  | [] => none
  | c :: rest =>
    match escape with
    | some e =>
      match e.step? c with
      | some (.wait e) => basicFrom (some e) read rest
      | some (.done d) => basicFrom none (d :: read) rest
      | none => none
    | none =>
      if c = '"' then some (read.reverse, rest)
      else if c = '\\' then basicFrom (some .letter) read rest
      else if isBasicChar c then basicFrom none (c :: read) rest
      else none

/-- up to the closing single quote -/
def literal? (text : List Char) : Option (List Char × List Char) :=
  match text.span isLiteralChar with
  | (read, '\'' :: rest) => some (read, rest)
  | _ => none

/-! ### Over several lines -/

/-- three quotes in front, how many of the next two are quotes as well, and the rest -/
def closing? (quote : Char) : Reader Nat
  | a :: b :: c :: rest =>
    if a = quote ∧ b = quote ∧ c = quote then
      let extra := ((rest.take 2).takeWhile (· == quote)).length
      some (extra, rest.drop extra)
    else none
  | _ => none

/-- whether a carriage return in front stands alone -/
def strayReturn : List Char → Bool
  | '\r' :: '\n' :: _ => false
  | '\r' :: _ => true
  | _ => false

/-- where a scan over several lines is -/
inductive Fold where
  | plain
  | escape (e : Escape)
  /-- blanks after a backslash: a line end must follow -/
  | awaitLineEnd
  /-- white space after the line end that a backslash hides -/
  | hidden
  deriving DecidableEq, Repr

def isLineSpace (c : Char) : Bool := isBlankChar c || c == '\n' || c == '\r'

/-- up to three closing double quotes; a backslash before a line end hides it and the white space
behind it -/
def foldedFrom (fold : Fold) (read : List Char) : Reader (List Char)
  | [] => none
  | c :: rest =>
    if strayReturn (c :: rest) then none
    else
      match if fold = .hidden ∧ isLineSpace c = false then Fold.plain else fold with
      | .plain =>
        match closing? '"' (c :: rest) with
        | some (extra, after) => some (read.reverse ++ List.replicate extra '"', after)
        | none =>
          if c = '\\' then foldedFrom (.escape .letter) read rest
          else if isBasicChar c || c == '"' || c == '\n' || c == '\r' then
            foldedFrom .plain (c :: read) rest
          else none
      | .hidden => foldedFrom .hidden read rest
      | .awaitLineEnd =>
        if isBlankChar c then foldedFrom .awaitLineEnd read rest
        else if c = '\n' || c = '\r' then foldedFrom .hidden read rest
        else none
      | .escape e =>
        if e = .letter ∧ isBlankChar c then foldedFrom .awaitLineEnd read rest
        else if e = .letter ∧ (c = '\n' ∨ c = '\r') then foldedFrom .hidden read rest
        else
          match e.step? c with
          | some (.wait e) => foldedFrom (.escape e) read rest
          | some (.done d) => foldedFrom .plain (d :: read) rest
          | none => none

/-- up to three closing single quotes -/
def verbatimFrom (read : List Char) : Reader (List Char)
  | [] => none
  | c :: rest =>
    match closing? '\'' (c :: rest) with
    | some (extra, after) => some (read.reverse ++ List.replicate extra '\'', after)
    | none =>
      if strayReturn (c :: rest) then none
      else if isPlainChar c || c == '\n' || c == '\r' then verbatimFrom (c :: read) rest
      else none

/-! ### Any form -/

/-- A string on one line: the only form a key may have. -/
def lineString? : Reader String
  | '"' :: rest => (basicFrom none [] rest).map fun (read, rest) => (String.ofList read, rest)
  | '\'' :: rest => (literal? rest).map fun (read, rest) => (String.ofList read, rest)
  | _ => none

/-- A string of any form; a line end right behind three opening quotes is dropped. -/
def string? : Reader String
  | '"' :: '"' :: '"' :: rest =>
    (foldedFrom .plain [] (dropNewline rest)).map fun (read, rest) => (String.ofList read, rest)
  | '\'' :: '\'' :: '\'' :: rest =>
    (verbatimFrom [] (dropNewline rest)).map fun (read, rest) => (String.ofList read, rest)
  | text => lineString? text

end Jargon.Toml
