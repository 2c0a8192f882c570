import Jargon.Proofs.Decimal.ReadBack
import Jargon.Proofs.Toml.Escapes

/-!
# Every layout reads back

Zeros may be written out or not, and a whole number may keep its point or not: the text of a number
is read as this number.

* `written`              digits, a point with more of them behind it, and an exponent;
* `read?_positional`     all zeros are written out;
* `read?_scientific`     the power of ten of the first digit is written;
* `Layout.read?_write`   the text of any number in any layout.
-/

namespace Jargon.Decimal

open Binary64 (ofRank rankEnd)
open Toml (span_append)

/-! ## digits, point and exponent -/

/-- digits, a point with the digits behind it if there are any, and what stands at the end -/
def written (whole fraction tail : List Char) : List Char :=
  whole ++ if fraction = [] then tail else '.' :: (fraction ++ tail)

/-- an exponent, or nothing -/
structure IsTail (tail : List Char) (exponent : Int) : Prop where
  read : readExponent? tail = some exponent
  starts : ∀ c ∈ tail.head?, c = 'e'

theorem read?_written {whole fraction tail : List Char} {exponent : Int} (hne : whole ≠ [])
    (hwhole : ∀ c ∈ whole, c.isDigit = true) (hfraction : ∀ c ∈ fraction, c.isDigit = true)
    (htail : IsTail tail exponent) :
    read? (written whole fraction tail) = some (ofParts whole fraction exponent) := by
  have hempty : whole.isEmpty = false := List.isEmpty_eq_false_iff.mpr hne
  have hstart : ∀ c ∈ tail.head?, c.isDigit = false := by
    intro c hc
    rw [htail.starts c hc]
    rfl
  by_cases hnil : fraction = []
  · have hspan : spanDigits (whole ++ tail) = (whole, tail) := span_append hwhole hstart
    -- the match on the tail is decided by this
    have hpoint : ∀ rest, tail ≠ '.' :: rest := by
      rintro rest rfl
      exact absurd (htail.starts '.' rfl) (by decide)
    rw [written, if_pos hnil, hnil]
    simp only [read?, hspan, hempty, htail.read, Bool.false_and, Bool.false_eq_true, ↓reduceIte,
      Option.map_some]
  · have hspan : spanDigits (whole ++ '.' :: (fraction ++ tail)) =
        (whole, '.' :: (fraction ++ tail)) :=
      span_append hwhole fun d hd => by
        cases hd
        rfl
    have hspan' : spanDigits (fraction ++ tail) = (fraction, tail) := span_append hfraction hstart
    rw [written, if_neg hnil]
    simp only [read?, hspan, hspan', hempty, htail.read, Bool.false_and, Bool.false_eq_true,
      ↓reduceIte, Option.map_some]

theorem isTail_nil : IsTail [] 0 := ⟨rfl, nofun⟩

theorem readExponent?_digits {digits : List Char} (hne : digits ≠ [])
    (h : ∀ c ∈ digits, c.isDigit = true) (negative : Bool) :
    readExponent? ('e' :: ((if negative then ['-'] else []) ++ digits)) =
      some (if negative then -(digitsValue digits : Int) else digitsValue digits) := by
  have hall : digits.all Char.isDigit = true := List.all_eq_true.mpr h
  have hsign : ∀ c rest, c.isDigit = false → digits ≠ c :: rest := by
    rintro c rest hc rfl
    rw [h c List.mem_cons_self] at hc
    cases hc
  cases negative with
  | true => simp [readExponent?, hne, hall]
  | false =>
    have hminus : ∀ rest, digits ≠ '-' :: rest := fun rest => hsign '-' rest rfl
    have hplus : ∀ rest, digits ≠ '+' :: rest := fun rest => hsign '+' rest rfl
    simp [readExponent?, hne, hall]

/-- the exponent behind a number, as it is written -/
theorem isTail_toString (i : Int) : IsTail ('e' :: (toString i).toList) i := by
  refine ⟨?_, fun c hc => by cases hc; rfl⟩
  have hread : ∀ (n : Nat) (negative : Bool),
      readExponent? ('e' :: ((if negative then ['-'] else []) ++ Nat.toDigits 10 n)) =
        some (if negative then -(n : Int) else n) := by
    intro n negative
    rw [readExponent?_digits Nat.toDigits_ne_nil (fun c hc => isDigit_of_mem_toDigits hc),
      digitsValue_toDigits]
  cases i with
  | ofNat n =>
    have htext : (toString (Int.ofNat n)).toList = Nat.toDigits 10 n := String.toList_ofList
    rw [htext]
    exact hread n false
  | negSucc n =>
    have htext : (toString (Int.negSucc n)).toList = '-' :: Nat.toDigits 10 (n + 1) := by
      show ("-" ++ toString (n + 1)).toList = _
      rw [String.toList_append]
      exact congrArg (List.append _) String.toList_ofList
    rw [htext]
    exact hread (n + 1) true

theorem read?_pointed {whole fraction : List Char} (h : Pointed whole fraction) :
    read? (whole ++ '.' :: fraction) = some (ofParts whole fraction 0) := by
  have hread := read?_written h.whole_ne_nil h.whole_digits h.fraction_digits isTail_nil
  rwa [written, if_neg h.fraction_ne_nil, List.append_nil] at hread

theorem read?_digits {digits : List Char} (hne : digits ≠ [])
    (h : ∀ c ∈ digits, c.isDigit = true) : read? digits = some (ofParts digits [] 0) := by
  have hread : read? (written digits [] []) = some (ofParts digits [] 0) :=
    read?_written hne h nofun isTail_nil
  rwa [written, if_pos rfl, List.append_nil] at hread

/-! ## one magnitude -/

/-- The zeros that are written out change the decimal, but not what it is rounded to. -/
theorem read?_positional (l : Layout) {d : Decimal} (h0 : d.digits = 0 → d.exponent = 0)
    {rank : Nat} (h : rank < rankEnd) (hd : round false d = ofRank false rank) :
    ∃ d', read? (l.positional d) = some d' ∧
      ∀ negative, round negative d' = ofRank negative rank := by
  by_cases he : 0 ≤ d.exponent
  · cases hpoint : l.pointZero with
    | true =>
      obtain ⟨whole, fraction, htext, hpointed, hparts⟩ := positional_of_nonneg he h0
      have hsame : l.positional d = Layout.withPoint.positional d := by
        unfold Layout.positional
        rw [hpoint]
        rfl
      refine ⟨_, by rw [hsame, htext, read?_pointed hpointed], fun negative => ?_⟩
      rw [hparts]
      exact round_zeros h he hd 1 negative
    | false =>
      have htext : l.positional d =
          Nat.toDigits 10 d.digits ++ List.replicate d.exponent.toNat '0' := by
        unfold Layout.positional
        dsimp only
        rw [if_pos he, hpoint, if_neg Bool.false_ne_true, List.append_nil]
      have hdigits : ∀ c ∈ Nat.toDigits 10 d.digits ++ List.replicate d.exponent.toNat '0',
          c.isDigit = true := fun c hc =>
        (List.mem_append.mp hc).elim isDigit_of_mem_toDigits (isDigit_zeros _ c)
      have hne : Nat.toDigits 10 d.digits ++ List.replicate d.exponent.toNat '0' ≠ [] :=
        List.append_ne_nil_of_left_ne_nil Nat.toDigits_ne_nil _
      refine ⟨_, by rw [htext, read?_digits hne hdigits], fun negative => ?_⟩
      rw [ofParts, List.append_nil, digitsValue_append_zeros, digitsValue_toDigits]
      exact round_zeros h he hd 0 negative
  · have hdigits : d.digits ≠ 0 := fun hzero => he (h0 hzero ▸ Int.le_refl 0)
    have hparts : ∃ whole fraction, l.positional d = whole ++ '.' :: fraction ∧
        Pointed whole fraction ∧ ofParts whole fraction 0 = d := by
      by_cases hp : 0 < ((Nat.toDigits 10 d.digits).length : Int) + d.exponent
      · exact positional_of_place_pos l he hdigits hp
      · exact positional_of_place_nonpos l he hp
    obtain ⟨whole, fraction, htext, hpointed, hparts⟩ := hparts
    refine ⟨d, by rw [htext, read?_pointed hpointed, hparts], fun negative => ?_⟩
    exact round_of_positive h hd negative

theorem read?_scientific (d : Decimal) : read? (Layout.scientific d) = some d := by
  have hdigits : ∀ c ∈ Nat.toDigits 10 d.digits, c.isDigit = true :=
    fun c hc => isDigit_of_mem_toDigits hc
  have hvalue := digitsValue_toDigits d.digits
  obtain ⟨first, rest, htext⟩ : ∃ first rest, Nat.toDigits 10 d.digits = first :: rest :=
    List.exists_cons_of_ne_nil Nat.toDigits_ne_nil
  rw [htext] at hdigits hvalue
  have hwritten : Layout.scientific d =
      written [first] rest ('e' :: (toString (rest.length + 1 + d.exponent - 1)).toList) := by
    unfold Layout.scientific written
    dsimp only
    rw [htext]
    cases rest <;> simp
  rw [hwritten, read?_written (List.cons_ne_nil _ _)
    (fun c hc => hdigits c (List.mem_cons.mpr (.inl (List.mem_singleton.mp hc))))
    (fun c hc => hdigits c (List.mem_cons_of_mem _ hc)) (isTail_toString _)]
  have hexponent : (rest.length + 1 + d.exponent - 1 : Int) - rest.length = d.exponent := by omega
  rw [ofParts, List.singleton_append, hvalue, hexponent]

/-- **What any layout makes of a magnitude is rounded to this magnitude.** -/
theorem read?_magnitude (l : Layout) (rank : Fin rankEnd) :
    ∃ d, read? (l.magnitude rank) = some d ∧ ∀ negative, round negative d = .finite negative rank := by
  have hround := round_shortest l.tie rank.isLt
  have hfinite : ∀ negative, ofRank negative rank = .finite negative rank :=
    fun negative => dif_pos rank.isLt
  have hzero : (shortest l.tie rank).digits = 0 → (shortest l.tie rank).exponent = 0 := by
    intro hd
    by_cases h0 : rank.val = 0
    · rw [h0]
      rfl
    · exact absurd hd (digits_shortest_ne_zero _ rank.isLt h0)
  unfold Layout.magnitude
  dsimp only
  split
  · obtain ⟨d, hread, hd⟩ := read?_positional l hzero rank.isLt (hround false)
    exact ⟨d, hread, fun negative => (hd negative).trans (hfinite negative)⟩
  · exact ⟨_, read?_scientific _, fun negative => (hround negative).trans (hfinite negative)⟩

/-! ## all numbers -/

/-- nothing is read that begins with neither a digit nor a point -/
theorem read?_eq_none {c : Char} {rest : List Char} (hdigit : c.isDigit = false) (hpoint : c ≠ '.') :
    read? (c :: rest) = none := by
  have hspan : spanDigits ([] ++ c :: rest) = ([], c :: rest) :=
    span_append nofun fun d hd => by
      cases hd
      exact hdigit
  have hne : ∀ tail, c :: rest ≠ '.' :: tail := fun tail h => hpoint (List.cons.inj h).1
  rw [List.nil_append] at hspan
  simp [read?, hspan]

/-- **The text of a number is read as this number**, whatever the layout. -/
theorem Layout.read?_write (l : Layout) (x : Binary64) : Binary64.read? (l.write x) = some x := by
  cases x with
  | nan =>
    show Binary64.read? "NaN" = _
    decide
  | infinity negative =>
    show Binary64.read? (if negative then "-inf" else "inf") = _
    cases negative <;> decide
  | finite negative rank =>
    obtain ⟨d, hread, hround⟩ := read?_magnitude l rank
    have hsign : ∀ c rest, c.isDigit = false → c ≠ '.' → l.magnitude rank ≠ c :: rest := by
      intro c rest hdigit hpoint htext
      rw [htext, read?_eq_none hdigit hpoint] at hread
      cases hread
    have hinf : l.magnitude rank ≠ ['i', 'n', 'f'] := hsign 'i' ['n', 'f'] rfl (by decide)
    have hnan : l.magnitude rank ≠ ['N', 'a', 'N'] := hsign 'N' ['a', 'N'] rfl (by decide)
    -- the match on the first character is decided by these two
    have hminus : ∀ rest, l.magnitude rank ≠ '-' :: rest := fun rest =>
      hsign '-' rest rfl (by decide)
    have hplus : ∀ rest, l.magnitude rank ≠ '+' :: rest := fun rest =>
      hsign '+' rest rfl (by decide)
    cases negative <;> simp [Layout.write, Binary64.read?, hinf, hnan, hread, hround]

end Jargon.Decimal
