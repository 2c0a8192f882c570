import Jargon.Binary64.Basic

/-!
# Decimal numbers and the binary number they stand for

A decimal is a natural number of digits and the power of ten they are counted in.  `round` gives
the nearest binary number, exactly and without a detour: the quotient of two natural numbers is
rounded once.
-/

namespace Jargon

/-- `digits * 10 ^ exponent` -/
structure Decimal where
  digits : Nat
  exponent : Int
  deriving DecidableEq, Repr

namespace Decimal

/-! ### Digits -/

def digitsValue (digits : List Char) : Nat :=
  digits.foldl (fun value c => 10 * value + (c.toNat - '0'.toNat)) 0

/-- the digits before and after the point, and the power of ten written behind them -/
def ofParts (whole fraction : List Char) (exponent : Int) : Decimal :=
  ⟨digitsValue (whole ++ fraction), exponent - fraction.length⟩

/-! ### Rounding -/

/-- The nearest binary number.  Past `10 ^ 400` and below `10 ^ -399` the answer is known without
forming the power. -/
def round (negative : Bool) (d : Decimal) : Binary64 :=
  if d.digits = 0 then .ofRank negative 0
  else if 400 < d.exponent then .infinity negative
  else if d.exponent + d.digits.log2 < -400 then .ofRank negative 0
  else if 0 ≤ d.exponent then .ratio negative (d.digits * Nat.pow 10 d.exponent.toNat) 1
  else .ratio negative d.digits (Nat.pow 10 (-d.exponent).toNat)

/-! ### Decimal text -/

/-- the leading decimal digits and what follows them -/
def spanDigits (text : List Char) : List Char × List Char := text.span Char.isDigit

/-- an `e` with an optional sign and at least one digit, up to the end; nothing means zero -/
def readExponent? : List Char → Option Int
  | [] => some 0
  | 'e' :: rest | 'E' :: rest =>
    let (negative, rest) := match rest with
      | '-' :: rest => (true, rest)
      | '+' :: rest => (false, rest)
      | rest => (false, rest)
    if rest.isEmpty || !rest.all Char.isDigit then none
    else some (if negative then -(digitsValue rest : Int) else digitsValue rest)
  | _ => none

/-- digits with at most one point, at least one digit, and an optional exponent -/
def read? (text : List Char) : Option Decimal :=
  let (whole, rest) := spanDigits text
  let (fraction, rest) := match rest with
    | '.' :: rest => spanDigits rest
    | rest => ([], rest)
  if whole.isEmpty && fraction.isEmpty then none
  else (readExponent? rest).map (ofParts whole fraction)

end Decimal

/-- an optional sign before a decimal, `inf` or `NaN` -/
def Binary64.read? (text : String) : Option Binary64 :=
  let (negative, magnitude) := match text.toList with
    | '-' :: rest => (true, rest)
    | '+' :: rest => (false, rest)
    | rest => (false, rest)
  if magnitude = "inf".toList then some (.infinity negative)
  else if magnitude = "NaN".toList then some .nan
  else (Decimal.read? magnitude).map (Decimal.round negative)

end Jargon
