import Jargon.Decimal.Shortest

/-!
# Layouts of floating point text

A layout is the record of the choices that are left once the shortest digits are known: between
which places of the point all zeros are written out, whether a whole number keeps `.0`, and how a
tie was broken.  Outside those places the form is `d.ddde-7`.

* `plain`      never an exponent, no point on whole numbers;
* `withPoint`  never an exponent, always a point;
* `field`      the form of a field in a log line;
* `json`       the form in a JSON document.
-/

namespace Jargon.Decimal

structure Layout where
  /-- least and greatest place of the point, counted from the first digit, that is written out;
  every place if absent -/
  places : Option (Int × Int)
  /-- whole numbers end with `.0` -/
  pointZero : Bool
  tie : Tie

namespace Layout

def plain : Layout := ⟨none, false, .up⟩
def withPoint : Layout := ⟨none, true, .up⟩
def field : Layout := ⟨some (-3, 16), true, .up⟩
def json : Layout := ⟨some (-4, 16), true, .even⟩

/-- whether zeros are written out for this place of the point -/
def writesOut (l : Layout) (place : Int) : Bool :=
  match l.places with
  | none => true
  | some (least, most) => least ≤ place && place ≤ most

/-- digits with a point, all zeros written out -/
def positional (l : Layout) (d : Decimal) : List Char :=
  let digits := Nat.toDigits 10 d.digits
  let place := digits.length + d.exponent
  if 0 ≤ d.exponent then
    digits ++ List.replicate d.exponent.toNat '0' ++ (if l.pointZero then ['.', '0'] else [])
  else if 0 < place then
    digits.take place.toNat ++ '.' :: digits.drop place.toNat
  else '0' :: '.' :: (List.replicate (-place).toNat '0' ++ digits)

/-- one digit, the others behind a point, and the power of ten of the first -/
def scientific (d : Decimal) : List Char :=
  let digits := Nat.toDigits 10 d.digits
  let mantissa := match digits with
    | first :: second :: rest => first :: '.' :: second :: rest
    | digits => digits
  mantissa ++ 'e' :: (toString (digits.length + d.exponent - 1)).toList

def magnitude (l : Layout) (rank : Nat) : List Char :=
  let d := shortest l.tie rank
  if rank = 0 || l.writesOut ((Nat.toDigits 10 d.digits).length + d.exponent) then l.positional d
  else scientific d

/-- the text of any number; negative zero keeps its sign -/
def write (l : Layout) : Binary64 → String
  | .nan => "NaN"
  | .infinity negative => if negative then "-inf" else "inf"
  | .finite negative rank =>
    String.ofList ((if negative then ['-'] else []) ++ l.magnitude rank)

end Layout

end Jargon.Decimal
