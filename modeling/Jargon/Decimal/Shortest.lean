import Jargon.Decimal.Basic

/-!
# The shortest decimal that reads back

For a finite magnitude the grids of one, two, up to seventeen digits are tried in turn.  On each
grid only the two neighbours of the value can read back, and the first grid on which one does
gives the answer: the nearer one, a tie being broken as asked.

* `round_neighbour?`   whatever a grid offers reads back as the magnitude.
-/

namespace Jargon.Decimal

/-- which of two neighbours at the same distance is written -/
inductive Tie where
  | up
  | even
  deriving DecidableEq, Repr

/-- position of the first digit of a positive magnitude in units: 1 for ones, 0 for tenths -/
def leadingPlace (units : Nat) : Int :=
  (Nat.toDigits 10 ((units * Nat.pow 10 400) >>> 1074)).length - 400

/-- last zeros moved into the exponent, at most `fuel` of them -/
def dropZeros : (fuel : Nat) → Decimal → Decimal
  | 0, d => d
  | fuel + 1, d =>
    if d.digits % 10 = 0 then dropZeros fuel ⟨d.digits / 10, d.exponent + 1⟩ else d

/-- whether the decimal is rounded to this rank -/
def readsBack (rank : Nat) (d : Decimal) : Bool :=
  round false d == .ofRank false rank

/-- whether the lower neighbour `below` is the better one, for a value `part / whole` above it -/
def prefersLow (tie : Tie) (below part whole : Nat) : Bool :=
  2 * part < whole || (2 * part == whole && tie == .even && below % 2 == 0)

/-- the better neighbour of the magnitude on the grid of `count` digits, if one reads back -/
def neighbour? (tie : Tie) (rank count : Nat) : Option Decimal :=
  let units := Binary64.unitsOfRank rank
  let exponent := leadingPlace units - count
  let num := units * Nat.pow 10 (-exponent).toNat
  let den := Nat.pow 10 exponent.toNat <<< 1074
  let below := num / den
  let low := dropZeros 20 ⟨below, exponent⟩
  let high := dropZeros 20 ⟨below + 1, exponent⟩
  let order := if prefersLow tie below (num % den) den then [low, high] else [high, low]
  order.find? (readsBack rank)

theorem round_neighbour? {tie : Tie} {rank count : Nat} {d : Decimal}
    (h : neighbour? tie rank count = some d) : round false d = .ofRank false rank := by
  have := List.find?_some (by simpa only [neighbour?] using h)
  simpa [readsBack] using this

/-- all digits of a magnitude in units -/
def exact (units : Nat) : Decimal := ⟨units * Nat.pow 5 1074, -1074⟩

/-- Zero is the digit zero; past seventeen digits, which never happens, all digits are kept. -/
def shortest (tie : Tie) (rank : Nat) : Decimal :=
  if rank = 0 then ⟨0, 0⟩
  else ((List.range 17).findSome? fun n => neighbour? tie rank (n + 1)).getD
    (exact (Binary64.unitsOfRank rank))

end Jargon.Decimal
