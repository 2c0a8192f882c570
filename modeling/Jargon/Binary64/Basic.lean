/-!
# Binary floating point with 64 bits

A number is kept by its place among the magnitudes: `rank` is the value of the low 63 bits of its
pattern, which grows with the magnitude.  Every finite magnitude is a whole number of *units* of
`2^-1074`, the least positive one.

* `ofUnits`           rounds a magnitude, given in half units and a remark whether something is
                      left over, to the nearest rank, a tie to the even one;
* `ratio`             rounds a quotient of natural numbers;
* `units_zero`        rank zero is zero.

All patterns that are not a number are one value, `nan`.
-/

namespace Jargon

/-- ranks below this one are finite -/
def Binary64.rankEnd : Nat := 0x7FF0000000000000

inductive Binary64 where
  | nan
  | infinity (negative : Bool)
  | finite (negative : Bool) (rank : Fin Binary64.rankEnd)
  deriving DecidableEq, Repr

namespace Binary64

/-! ### Magnitudes -/

/-- ranks with the same exponent: `2^52` -/
def binade : Nat := 0x10000000000000

/-- the magnitude of a rank in units of `2^-1074` -/
def unitsOfRank (rank : Nat) : Nat :=
  let exponent := rank / binade
  let fraction := rank % binade
  if exponent = 0 then fraction else (binade + fraction) <<< (exponent - 1)

@[simp]
theorem units_zero : unitsOfRank 0 = 0 := rfl

/-- The rank nearest to a magnitude of `halves` half units, or a little more if `inexact`.  Of two
neighbours at the same distance the even one is taken; ranks from `rankEnd` on are too large. -/
def roundRank (halves : Nat) (inexact : Bool) : Nat :=
  let shift := max 1 (halves.log2 - 52)
  let kept := halves >>> shift
  let lost := halves % (1 <<< shift)
  let half := 1 <<< (shift - 1)
  let up := half < lost || (lost == half && (inexact || kept % 2 == 1))
  (shift - 1) * binade + kept + up.toNat

/-- a rank past the finite ones stands for infinity -/
def ofRank (negative : Bool) (rank : Nat) : Binary64 :=
  if h : rank < rankEnd then .finite negative ⟨rank, h⟩ else .infinity negative

/-- the number nearest to `num / den`, for a positive `den` -/
def ratio (negative : Bool) (num den : Nat) : Binary64 :=
  let scaled := num <<< 1075
  ofRank negative (roundRank (scaled / den) (scaled % den != 0))

def zero : Binary64 := .finite false ⟨0, by decide⟩

/-- natural numbers up to `2^53` are kept exactly -/
def ofNat (n : Nat) : Binary64 := ratio false n 1

/-! ### Patterns -/

/-- the bit of the sign in a pattern -/
def signBit (negative : Bool) : Nat := if negative then 0x8000000000000000 else 0

/-- the 64 bits, sign first; one pattern stands for `nan` -/
def toBits : Binary64 → UInt64
  | .nan => 0x7FF8000000000000
  | .infinity negative => .ofNat (rankEnd + signBit negative)
  | .finite negative rank => .ofNat (rank.val + signBit negative)

/-! ### Arithmetic -/

def isFinite : Binary64 → Bool
  | .finite .. => true
  | _ => false

def isNaN : Binary64 → Bool
  | .nan => true
  | _ => false

/-- the exact product, rounded; infinity times zero is `nan` -/
def mul : Binary64 → Binary64 → Binary64
  | .nan, _ | _, .nan => .nan
  | .infinity a, .infinity b => .infinity (a != b)
  | .infinity a, .finite b rank | .finite b rank, .infinity a =>
    if rank.val = 0 then .nan else .infinity (a != b)
  | .finite a r, .finite b s =>
    ratio (a != b) (unitsOfRank r * unitsOfRank s) (1 <<< 2148)

/-- the exact quotient, rounded; zero over zero and infinity over infinity are `nan` -/
def div : Binary64 → Binary64 → Binary64
  | .nan, _ | _, .nan | .infinity _, .infinity _ => .nan
  | .infinity a, .finite b _ => .infinity (a != b)
  | .finite a _, .infinity b => .finite (a != b) ⟨0, by decide⟩
  | .finite a r, .finite b s =>
    if s.val = 0 then if r.val = 0 then .nan else .infinity (a != b)
    else ratio (a != b) (unitsOfRank r) (unitsOfRank s)

instance : Mul Binary64 := ⟨mul⟩
instance : Div Binary64 := ⟨div⟩

/-! ### Order -/

/-- Position on the line: zeros of both signs at 0, infinities at the ends; `nan` has none. -/
def place? : Binary64 → Option Int
  | .nan => none
  | .infinity negative => some (if negative then -(rankEnd : Int) else rankEnd)
  | .finite negative rank => some (if negative then -(rank.val : Int) else rank.val)

/-- false as soon as one side is `nan` -/
def blt (x y : Binary64) : Bool :=
  match x.place?, y.place? with
  | some a, some b => a < b
  | _, _ => false

/-- false as soon as one side is `nan` -/
def ble (x y : Binary64) : Bool :=
  match x.place?, y.place? with
  | some a, some b => a ≤ b
  | _, _ => false

instance : LT Binary64 := ⟨fun x y => x.blt y = true⟩
instance : LE Binary64 := ⟨fun x y => x.ble y = true⟩

instance (x y : Binary64) : Decidable (x < y) := inferInstanceAs (Decidable (x.blt y = true))
instance (x y : Binary64) : Decidable (x ≤ y) := inferInstanceAs (Decidable (x.ble y = true))

/-! ### Whole numbers -/

/-- The greatest integer below, held between 0 and `2^64 - 1`; `nan` gives 0. -/
def floorUInt64 : Binary64 → UInt64
  | .nan => 0
  | .infinity negative => if negative then 0 else .ofNat (UInt64.size - 1)
  | .finite negative rank =>
    if negative then 0 else .ofNat (min (unitsOfRank rank >>> 1074) (UInt64.size - 1))

end Binary64

end Jargon
