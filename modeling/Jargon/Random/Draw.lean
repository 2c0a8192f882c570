/-!
# Uniform draws

A source yields 64-bit words one after the other.  Every choice is made from these words, so two
sources that yield the same words make the same choices.  A word `v` proposes the index
`v * n / 2^64` below `n` and is accepted if the low half of the product is not past a limit that all
indices reach equally often.  A refused word is used up.

* `index_lt`        an index is below its bound, whatever the word;
* `below_eq_ok`     a draw below a positive bound succeeds, with an index below it;
* `pick_eq_ok`      so does the choice of an entry of a list that is not empty.
-/

namespace Jargon

/-! ### Sources -/

class WordSource (σ : Type) where
  next : σ → UInt64 × σ

/-- the words `current`, `current + step`, `current + 2 * step`, … modulo `2^64` -/
structure Stepper where
  current : UInt64
  step : UInt64
  deriving DecidableEq, Repr

instance : WordSource Stepper where
  next s := (s.current, { s with current := s.current + s.step })

/-! ### Failing accesses -/

/-- What a checked access can meet.  An engine over a well-formed lexicon meets none of them. -/
inductive Fault where
  /-- a draw below zero -/
  | emptyRange
  /-- an index at or past the end of its list -/
  | indexOutOfRange
  /-- a slice that ends before it starts or past the end of its text -/
  | sliceOutOfRange
  /-- a slice with an end inside a character -/
  | sliceOffBoundary
  deriving DecidableEq, Repr

def Fault.message : Fault → String
  | .emptyRange => "cannot draw from an empty range"
  | .indexOutOfRange => "index out of range"
  | .sliceOutOfRange => "slice out of range"
  | .sliceOffBoundary => "slice not on a character boundary"

/-! ### Draws -/

/-- choices made from a source of words -/
abbrev Draw (σ : Type) := StateT σ (Except Fault)

namespace Draw

/-- the greatest accepted low half: `n` doubled until it fills 64 bits, less one -/
def limit (n : Nat) : Nat := (n <<< (63 - n.log2)) - 1

def accepts (n : Nat) (word : UInt64) : Bool := word.toNat * n % UInt64.size ≤ limit n

def index (n : Nat) (word : UInt64) : Nat := word.toNat * n / UInt64.size

theorem index_lt {n : Nat} (h : 0 < n) (word : UInt64) : index n word < n := by
  have := word.toNat_lt_size
  rw [index, Nat.div_lt_iff_lt_mul (by decide), Nat.mul_comm n]
  exact Nat.mul_lt_mul_of_pos_right this h

variable {σ : Type} [WordSource σ]

/-- Refuses at most `patience` words.  The word behind them is taken whether it is accepted or not,
in place of a draw that does not come back. -/
def belowWithin (n : Nat) : (patience : Nat) → σ → Nat × σ
  | 0, s => let (word, s) := WordSource.next s; (index n word, s)
  | patience + 1, s =>
    let (word, s) := WordSource.next s
    if accepts n word then (index n word, s) else belowWithin n patience s

theorem belowWithin_lt {n : Nat} (h : 0 < n) (patience : Nat) (s : σ) :
    (belowWithin n patience s).1 < n := by
  induction patience generalizing s with
  | zero => exact index_lt h _
  | succ patience ih =>
    simp only [belowWithin]
    split
    · exact index_lt h _
    · exact ih _

/-- A draw has no bound of its own on the words that it refuses, and from a source that goes on
yielding refused words it never comes back.  This bound stands for that: after so many refusals one
word is taken as it is, which is an answer where there should be none. -/
def patience : Nat := UInt64.size

/-- an index below `n` -/
def below (n : Nat) : Draw σ Nat := fun s =>
  if n = 0 then .error .emptyRange else .ok (belowWithin n patience s)

theorem below_eq_ok {n : Nat} (h : 0 < n) (s : σ) :
    ∃ i s', below n s = .ok (i, s') ∧ i < n :=
  ⟨_, _, by rw [below, if_neg (by omega)], belowWithin_lt h _ s⟩

/-- an entry of a list -/
def pick (entries : List String) : Draw σ String := do
  let i ← below entries.length
  match entries[i]? with
  | some entry => pure entry
  | none => throw .indexOutOfRange

theorem pick_eq_ok {entries : List String} (h : entries ≠ []) (s : σ) :
    ∃ entry s', pick entries s = .ok (entry, s') ∧ entry ∈ entries := by
  obtain ⟨i, s', hi, hlt⟩ := below_eq_ok (List.length_pos_iff.2 h) s
  refine ⟨entries[i], s', ?_, List.getElem_mem hlt⟩
  simp only [pick, bind, StateT.bind, Except.bind, hi, List.getElem?_eq_getElem hlt]
  rfl

end Draw

end Jargon
