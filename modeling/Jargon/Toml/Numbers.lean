import Jargon.Decimal.Basic
import Jargon.Toml.Strings
import Jargon.Toml.Value

/-!
# Numbers of a TOML document

Digits may be set apart by single underscores; a decimal number has no leading zero.  A decimal
integer with an underscore behind its first digits is well-formed whatever else is in it, if each
underscore stands between two hexadecimal digits; unless all digits are decimal it overflows.  An
underscore right behind a sign is read as if a zero stood before it.

* `number?`   integers of four bases, floating point numbers, infinity and `nan`.
-/

namespace Jargon.Toml

/-- the digits of a text that holds nothing else, single underscores between two digits apart -/
def separated? (isDigit : Char → Bool) : List Char → Option (List Char)
  | [] => none
  | [c] => if isDigit c then some [c] else none
  | c :: '_' :: rest => if isDigit c then (separated? isDigit rest).map (c :: ·) else none
  | c :: rest => if isDigit c then (separated? isDigit rest).map (c :: ·) else none

/-! ### Integers with a base -/

def valueInBase (base : Nat) (digits : List Char) : Nat :=
  digits.foldl (fun value c => base * value + (hexDigit? c).getD 0) 0

def isDigitInBase (base : Nat) (c : Char) : Bool :=
  match hexDigit? c with
  | some d => d < base
  | none => false

/-- what stands behind `0x`, `0o` or `0b`; nothing at all stands for no value -/
def inBase? (base : Nat) : List Char → Option Value
  | [] => some (.ofInteger? none)
  | text => (separated? (isDigitInBase base) text).map fun digits =>
      .ofInteger? (some (valueInBase base digits))

/-! ### Decimal numbers -/

/-- an optional sign, whether it is a minus, and what follows -/
def sign : List Char → Bool × List Char
  | '-' :: rest => (true, rest)
  | '+' :: rest => (false, rest)
  | text => (false, text)

def isDigitOrUnderscore (c : Char) : Bool := c.isDigit || c == '_'

/-- whether digits that stand first are too many for the zero in front of them -/
def hasLeadingZero : List Char → Bool
  | '0' :: _ :: _ => true
  | _ => false

/-- nothing, or an `e` with an optional sign and digits up to the end -/
def exponent? : List Char → Option Int
  | [] => some 0
  | e :: rest =>
    if e = 'e' ∨ e = 'E' then
      let (negative, rest) := sign rest
      (separated? Char.isDigit rest).map fun digits =>
        if negative then -(Decimal.digitsValue digits : Int) else Decimal.digitsValue digits
    else none

/-- an unsigned number with a point, an exponent or both; `zeros` allows zeros in front -/
def fractional? (negative zeros : Bool) (text : List Char) : Option Value := do
  let (whole, text) := text.span isDigitOrUnderscore
  let whole ← separated? Char.isDigit whole
  if !zeros && hasLeadingZero whole then none
  else
    let (fraction, text) ← match text with
      | '.' :: text => do
        let (fraction, text) := text.span isDigitOrUnderscore
        pure (← separated? Char.isDigit fraction, text)
      | text => pure ([], text)
    let exponent ← exponent? text
    return .ofRounded (Decimal.round negative (.ofParts whole fraction exponent))

/-- the characters of a text but for its underscores, each of which stands between two of a class -/
def joined? (isNeighbour : Char → Bool) : List Char → Option (List Char)
  | [] => some []
  | '_' :: _ => none
  | [c] => some [c]
  | c :: '_' :: d :: rest =>
    if isNeighbour c ∧ isNeighbour d then (joined? isNeighbour (d :: rest)).map (c :: ·) else none
  | c :: d :: rest => (joined? isNeighbour (d :: rest)).map (c :: ·)

/-- an unsigned integer of digits only, or with an underscore behind the first of them -/
def integer? (negative zeros : Bool) (text : List Char) : Option Value :=
  let isBegun := match text.dropWhile Char.isDigit with
    | [] => !text.isEmpty
    | c :: _ => c == '_'
  if isBegun && !text.contains ' ' && (zeros || !hasLeadingZero text) then
    (joined? (isDigitInBase 16) text).map fun chars =>
      .ofInteger? <| if chars.all Char.isDigit then
        let n : Int := Decimal.digitsValue chars
        some (if negative then -n else n)
      else none
  else none

/-- an unsigned decimal number: an integer if there is neither a point nor an exponent -/
def decimal? (negative zeros : Bool) (text : List Char) : Option Value :=
  if text.any fun c => c == '.' || c == 'e' || c == 'E' then fractional? negative zeros text
  else integer? negative zeros text

def signed? (negative : Bool) : List Char → Option Value
  | ['i', 'n', 'f'] => some (.float (.infinity negative))
  | ['n', 'a', 'n'] => some (.float .nan)
  | '_' :: text => decimal? negative true ('0' :: '_' :: text)
  | text => decimal? negative false text

/-- a whole number literal -/
def number? : List Char → Option Value
  | '0' :: 'x' :: text => inBase? 16 text
  | '0' :: 'o' :: text => inBase? 8 text
  | '0' :: 'b' :: text => inBase? 2 text
  | ['i', 'n', 'f'] => some (.float (.infinity false))
  | ['n', 'a', 'n'] => some (.float .nan)
  | '-' :: text => signed? true text
  | '+' :: text => signed? false text
  | text => decimal? false false text

end Jargon.Toml
