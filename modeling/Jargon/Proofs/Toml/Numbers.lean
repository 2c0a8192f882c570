import Mathlib.Data.List.TakeWhile
import Jargon.Proofs.Decimal.ReadBack
import Jargon.Proofs.Toml.Strings
import Jargon.Toml.Document

/-!
# Written numbers read back

A number that is written with digits, a point and a sign is no date, no number in another base, and
has no leading zero, so it is read as the decimal number that it is.

* `bareValue?_natural`   a natural number;
* `bareValue?_float`     a floating point number, whichever it is.
-/

namespace Jargon.Toml

open Decimal (Pointed digitsValue)

/-! ## no date -/

theorem mem_of_twoDigits? {most value : Nat} {text rest : List Char}
    (h : twoDigits? most text = some (value, rest)) {c : Char} (hc : c ∈ rest) : c ∈ text.tail := by
  match text, h with
  | a :: b :: text, h =>
    simp only [twoDigits?] at h
    split at h
    · cases h
      exact List.mem_cons_of_mem b hc
    · cases h

theorem time?_eq_none {text : List Char} (h : ':' ∉ text) : time? text = none := by
  unfold time?
  cases ht : twoDigits? 23 text with
  | none => rfl
  | some p =>
    obtain ⟨hour, rest⟩ := p
    match rest, ht with
    | [], _ => rfl
    | c :: rest, ht =>
      have hc : c ≠ ':' := by
        rintro rfl
        exact h (List.mem_of_mem_tail (mem_of_twoDigits? ht List.mem_cons_self))
      simp only [Option.bind_eq_bind, Option.bind_some]
      split
      · rename_i heq
        cases heq
        exact absurd rfl hc
      · rfl

theorem date?_eq_none {text : List Char} (h : '-' ∉ text.tail) : date? text = none := by
  unfold date?
  cases hcentury : twoDigits? 99 text with
  | none => rfl
  | some p =>
    obtain ⟨century, text'⟩ := p
    cases hyear : twoDigits? 99 text' with
    | none =>
      simp only [Option.bind_eq_bind, Option.bind_some, hyear]
      rfl
    | some p =>
      obtain ⟨year, rest⟩ := p
      simp only [Option.bind_eq_bind, Option.bind_some, hyear]
      split
      · exact absurd (mem_of_twoDigits? hcentury
          (List.mem_of_mem_tail (mem_of_twoDigits? hyear List.mem_cons_self))) h
      · rfl

/-- without a colon, and without a dash but at the front, a text is neither date nor time -/
theorem isDateTime_eq_false {text : List Char} (ht : ':' ∉ text) (hd : '-' ∉ text.tail) :
    isDateTime text = false := by
  rw [Bool.eq_false_iff]
  intro h
  rw [isDateTime_iff, time?_eq_none ht, date?_eq_none hd] at h
  rcases h with h | h | ⟨c, rest, h, -⟩ <;> cases h

/-! ## digits -/

theorem ne_of_isDigit {c d : Char} (hc : c.isDigit = true) (hd : d.isDigit = false) : c ≠ d := by
  rintro rfl
  rw [hc] at hd
  cases hd

theorem not_mem_of_digits {text : List Char} {d : Char} (h : ∀ c ∈ text, c.isDigit = true)
    (hd : d.isDigit = false) : d ∉ text :=
  fun hm => ne_of_isDigit (h d hm) hd rfl

theorem separated?_digits {digits : List Char} (hne : digits ≠ [])
    (h : ∀ c ∈ digits, c.isDigit = true) : separated? Char.isDigit digits = some digits := by
  induction digits with
  | nil => exact absurd rfl hne
  | cons c digits ih =>
    have hc : c.isDigit = true := h c List.mem_cons_self
    cases digits with
    | nil => rw [separated?, if_pos hc]
    | cons d digits =>
      have hd : d ≠ '_' := ne_of_isDigit (h d (List.mem_cons_of_mem c List.mem_cons_self)) rfl
      have ih' := ih (List.cons_ne_nil d digits) (fun e he => h e (List.mem_cons_of_mem c he))
      rw [separated?, if_pos hc, ih']
      · rfl
      · exact List.cons_ne_nil d digits
      · intro rest heq
        exact hd (List.cons.inj heq).1

theorem joined?_digits (isNeighbour : Char → Bool) {digits : List Char}
    (h : ∀ c ∈ digits, c.isDigit = true) : joined? isNeighbour digits = some digits := by
  induction digits with
  | nil => rfl
  | cons c digits ih =>
    have hc : c ≠ '_' := ne_of_isDigit (h c List.mem_cons_self) rfl
    cases digits with
    | nil =>
      rw [joined?]
      exact hc
    | cons d digits =>
      have hd : d ≠ '_' := ne_of_isDigit (h d (List.mem_cons_of_mem c List.mem_cons_self)) rfl
      have ih' := ih (fun e he => h e (List.mem_cons_of_mem c he))
      rw [joined?, ih']
      · rfl
      · exact hc
      · intro e rest heq _
        exact hd heq

theorem hasLeadingZero_eq_false {whole : List Char} (h : whole.head? = some '0' → whole = ['0']) :
    hasLeadingZero whole = false := by
  unfold hasLeadingZero
  split
  · have := h rfl
    cases this
  · rfl

/-! ## unsigned numbers -/

/-- digits and points, so that no base, sign or word stands in front -/
def IsPlainNumber (text : List Char) : Prop := ∀ c ∈ text, c.isDigit = true ∨ c = '.'

theorem IsPlainNumber.not_mem {text : List Char} (h : IsPlainNumber text) {d : Char}
    (hd : d.isDigit = false) (hp : d ≠ '.') : d ∉ text := by
  intro hm
  rcases h d hm with hc | hc
  · exact ne_of_isDigit hc hd rfl
  · exact hp hc

theorem number?_of_plain {text : List Char} (h : IsPlainNumber text) :
    number? text = decimal? false false text := by
  unfold number?
  split
  · exact absurd (by simp) (h.not_mem (d := 'x') rfl (by decide))
  · exact absurd (by simp) (h.not_mem (d := 'o') rfl (by decide))
  · exact absurd (by simp) (h.not_mem (d := 'b') rfl (by decide))
  · exact absurd (by simp) (h.not_mem (d := 'i') rfl (by decide))
  · exact absurd (by simp) (h.not_mem (d := 'n') rfl (by decide))
  · exact absurd (by simp) (h.not_mem (d := '-') rfl (by decide))
  · exact absurd (by simp) (h.not_mem (d := '+') rfl (by decide))
  · rfl

theorem signed?_of_plain (negative : Bool) {text : List Char} (h : IsPlainNumber text) :
    signed? negative text = decimal? negative false text := by
  unfold signed?
  split
  · exact absurd (by simp) (h.not_mem (d := 'i') rfl (by decide))
  · exact absurd (by simp) (h.not_mem (d := 'n') rfl (by decide))
  · exact absurd (by simp) (h.not_mem (d := '_') rfl (by decide))
  · rfl

theorem decimal?_digits {digits : List Char} (hne : digits ≠ [])
    (h : ∀ c ∈ digits, c.isDigit = true) (hz : digits.head? = some '0' → digits = ['0']) :
    decimal? false false digits = some (.ofInteger? (some (digitsValue digits : Int))) := by
  have hpoint : (digits.any fun c => c == '.' || c == 'e' || c == 'E') = false := by
    rw [List.any_eq_false]
    intro c hc hor
    simp only [Bool.or_eq_true, beq_iff_eq] at hor
    rcases hor with (hor | hor) | hor
    · exact ne_of_isDigit (h c hc) rfl hor
    · exact ne_of_isDigit (h c hc) rfl hor
    · exact ne_of_isDigit (h c hc) rfl hor
  have hdrop : digits.dropWhile Char.isDigit = [] := List.dropWhile_eq_nil_iff.mpr h
  have hblank : digits.contains ' ' = false := by
    rw [List.contains_eq_mem, decide_eq_false_iff_not]
    exact not_mem_of_digits h rfl
  have hempty : digits.isEmpty = false := by
    rw [List.isEmpty_eq_false_iff]
    exact hne
  have hall : digits.all Char.isDigit = true := List.all_eq_true.mpr h
  rw [decimal?, hpoint, if_neg Bool.false_ne_true, integer?, hdrop]
  simp only [hempty, hblank, hasLeadingZero_eq_false hz, joined?_digits _ h, hall, Bool.not_false,
    Bool.false_or, Bool.and_self, Bool.false_eq_true, ↓reduceIte, Option.map_some]

theorem decimal?_pointed (negative : Bool) {whole fraction : List Char}
    (h : Pointed whole fraction) :
    decimal? negative false (whole ++ '.' :: fraction) =
      some (.ofRounded (Decimal.round negative (.ofParts whole fraction 0))) := by
  have hpoint :
      ((whole ++ '.' :: fraction).any fun c => c == '.' || c == 'e' || c == 'E') = true := by
    rw [List.any_eq_true]
    exact ⟨'.', by simp, rfl⟩
  have hclass : ∀ digits : List Char, (∀ c ∈ digits, c.isDigit = true) →
      ∀ c ∈ digits, isDigitOrUnderscore c = true := by
    intro digits hd c hc
    rw [isDigitOrUnderscore, hd c hc, Bool.true_or]
  have hwhole : (whole ++ '.' :: fraction).span isDigitOrUnderscore = (whole, '.' :: fraction) := by
    refine span_append (hclass whole h.whole_digits) ?_
    intro c hc
    cases hc
    rfl
  have hfraction : fraction.span isDigitOrUnderscore = (fraction, []) := by
    have hspan : (fraction ++ []).span isDigitOrUnderscore = (fraction, []) :=
      span_append (hclass fraction h.fraction_digits) (fun c hc => by cases hc)
    rwa [List.append_nil] at hspan
  rw [decimal?, hpoint, if_pos rfl, fractional?]
  simp only [hwhole, hfraction, separated?_digits h.whole_ne_nil h.whole_digits,
    separated?_digits h.fraction_ne_nil h.fraction_digits, hasLeadingZero_eq_false h.leading,
    Bool.not_false, Bool.and_false, Bool.false_eq_true, ↓reduceIte, Option.bind_eq_bind,
    Option.bind_some, exponent?]
  rfl

/-! ## values without brackets -/

/-- a character that a bare value goes on with, whatever follows it -/
def isInside (c : Char) : Bool := !(endsBareValue c || isBlankChar c)

theorem bareValue_append {chars : List Char} (h : ∀ c ∈ chars, isInside c = true)
    (rest : List Char) : bareValue (chars ++ '\n' :: rest) = (chars, '\n' :: rest) := by
  induction chars with
  | nil => rfl
  | cons c chars ih =>
    have hc := h c List.mem_cons_self
    rw [isInside, Bool.not_eq_true', Bool.or_eq_false_iff] at hc
    have ih' := ih (fun d hd => h d (List.mem_cons_of_mem c hd))
    rw [List.cons_append, bareValue, hc.1, hc.2, Bool.false_and, Bool.or_false,
      if_neg Bool.false_ne_true, ih']

theorem bareValue?_of_number {chars : List Char} {v : Value}
    (h : ∀ c ∈ chars, isInside c = true) (htrue : chars ≠ "true".toList)
    (hfalse : chars ≠ "false".toList) (hdate : isDateTime chars = false)
    (hv : number? chars = some v) (rest : List Char) :
    bareValue? (chars ++ '\n' :: rest) = some (v, '\n' :: rest) := by
  rw [bareValue?, bareValue_append h]
  simp only [htrue, hfalse, hdate, hv, Bool.false_eq_true, ↓reduceIte, Option.map_some]

theorem isInside_of_isDigit {c : Char} (h : c.isDigit = true) : isInside c = true := by
  have hne : ∀ {d : Char}, d.isDigit = false → (c == d) = false := by
    intro d hd
    rw [beq_eq_false_iff_ne]
    exact ne_of_isDigit h hd
  simp only [isInside, endsBareValue, isBlankChar, hne (d := '=') rfl, hne (d := ',') rfl,
    hne (d := '[') rfl, hne (d := ']') rfl, hne (d := '\x7b') rfl, hne (d := '\x7d') rfl,
    hne (d := '#') rfl, hne (d := '\r') rfl, hne (d := '\n') rfl, hne (d := ' ') rfl,
    hne (d := '\t') rfl, Bool.or_self, Bool.not_false]

theorem IsPlainNumber.isInside {text : List Char} (h : IsPlainNumber text) :
    ∀ c ∈ text, isInside c = true := by
  intro c hc
  rcases h c hc with hd | rfl
  · exact isInside_of_isDigit hd
  · rfl

/-- a minus, if there is one -/
def minus (negative : Bool) : List Char := if negative then ['-'] else []

theorem eq_of_mem_minus {negative : Bool} {c : Char} (h : c ∈ minus negative) : c = '-' := by
  cases negative with
  | false => cases h
  | true => exact List.mem_singleton.mp h

/-- a number with or without a minus, and nothing else, stands in front of the line end -/
theorem bareValue?_of_plain {text : List Char} (h : IsPlainNumber text) {v : Value}
    (negative : Bool) (hv : decimal? negative false text = some v) (rest : List Char) :
    bareValue? (minus negative ++ text ++ '\n' :: rest) = some (v, '\n' :: rest) := by
  have hother : ∀ {d : Char}, d.isDigit = false → d ≠ '.' → d ≠ '-' →
      d ∉ minus negative ++ text := by
    intro d hd hp hm hmem
    rcases List.mem_append.mp hmem with hmem | hmem
    · exact hm (eq_of_mem_minus hmem)
    · exact h.not_mem hd hp hmem
  have hword : ∀ word : List Char, 'e' ∈ word → minus negative ++ text ≠ word := by
    rintro word hmem rfl
    exact hother rfl (by decide) (by decide) hmem
  apply bareValue?_of_number
  · intro c hc
    rcases List.mem_append.mp hc with hc | hc
    · rw [eq_of_mem_minus hc]
      rfl
    · exact h.isInside c hc
  · exact hword _ (by decide)
  · exact hword _ (by decide)
  · apply isDateTime_eq_false
    · exact hother rfl (by decide) (by decide)
    · intro hmem
      cases negative with
      | false => exact h.not_mem rfl (by decide) (List.mem_of_mem_tail hmem)
      | true => exact h.not_mem rfl (by decide) hmem
  · cases negative with
    | false => exact (number?_of_plain h).trans hv
    | true =>
      show signed? true text = some v
      rw [signed?_of_plain true h, hv]

/-- **A natural number is read as itself.** -/
theorem bareValue?_natural {n : Nat} (hn : n < Nat.pow 2 128) (rest : List Char) :
    bareValue? (Nat.toDigits 10 n ++ '\n' :: rest) = some (.integer n, '\n' :: rest) := by
  have hdigits : ∀ c ∈ Nat.toDigits 10 n, c.isDigit = true :=
    fun c hc => Decimal.isDigit_of_mem_toDigits hc
  have hzero : (Nat.toDigits 10 n).head? = some '0' → Nat.toDigits 10 n = ['0'] := by
    intro hhead
    by_cases h0 : n = 0
    · rw [h0]
      rfl
    · exact absurd hhead (Decimal.head?_toDigits_ne h0)
  have hvalue : decimal? false false (Nat.toDigits 10 n) = some (.integer n) := by
    rw [decimal?_digits Nat.toDigits_ne_nil hdigits hzero, Decimal.digitsValue_toDigits,
      Value.ofInteger?, if_pos ⟨by omega, by omega⟩]
  exact bareValue?_of_plain (fun c hc => .inl (hdigits c hc)) false hvalue rest

/-- **A floating point number is read as itself**, zeros of both signs and infinities included. -/
theorem bareValue?_float (x : Binary64) (rest : List Char) :
    bareValue? ((writeFloat x).toList ++ '\n' :: rest) = some (.float x, '\n' :: rest) := by
  cases x with
  | nan =>
    show bareValue? (['n', 'a', 'n'] ++ '\n' :: rest) = _
    have hinside := List.all_eq_true.mp (show ['n', 'a', 'n'].all isInside = true from rfl)
    exact bareValue?_of_number hinside (by decide) (by decide) rfl rfl rest
  | infinity negative =>
    cases negative with
    | false =>
      show bareValue? (['i', 'n', 'f'] ++ '\n' :: rest) = _
      have hinside := List.all_eq_true.mp (show ['i', 'n', 'f'].all isInside = true from rfl)
      exact bareValue?_of_number hinside (by decide) (by decide) rfl rfl rest
    | true =>
      show bareValue? (['-', 'i', 'n', 'f'] ++ '\n' :: rest) = _
      have hinside := List.all_eq_true.mp (show ['-', 'i', 'n', 'f'].all isInside = true from rfl)
      exact bareValue?_of_number hinside (by decide) (by decide) rfl rfl rest
  | finite negative rank =>
    obtain ⟨whole, fraction, htext, hpointed, hround⟩ := Decimal.magnitude_withPoint rank
    have hplain : IsPlainNumber (whole ++ '.' :: fraction) := by
      intro c hc
      rw [List.mem_append, List.mem_cons] at hc
      rcases hc with hc | hc | hc
      · exact .inl (hpointed.whole_digits c hc)
      · exact .inr hc
      · exact .inl (hpointed.fraction_digits c hc)
    have hvalue : decimal? negative false (whole ++ '.' :: fraction) =
        some (.float (.finite negative rank)) := by
      rw [decimal?_pointed negative hpointed, hround]
      rfl
    have hwritten : (writeFloat (.finite negative rank)).toList =
        minus negative ++ (whole ++ '.' :: fraction) := by
      show (String.ofList _).toList = _
      rw [String.toList_ofList, htext]
      rfl
    rw [hwritten]
    exact bareValue?_of_plain hplain negative hvalue rest

end Jargon.Toml
