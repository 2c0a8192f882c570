import Jargon.Decimal.Layout
import Jargon.Proofs.Binary64.Rounding

/-!
# Decimal text reads back

The shortest decimal of a number is rounded to this number again, and so is the decimal that is
read off its digits on both sides of the point.

* `round_shortest`        the decimal;
* `Pointed`               digits on both sides of a point;
* `magnitude_withPoint`   the text of a magnitude and the decimal read off it.
-/

namespace Jargon.Decimal

open Binary64 (ofRank ratio unitsOfRank rankEnd binade)

/-! ## the sign -/

/-- rounding finds a rank, whatever the sign is -/
theorem round_eq_ofRank (d : Decimal) :
    ∃ rank, ∀ negative, round negative d = ofRank negative rank := by
  unfold round
  by_cases h0 : d.digits = 0
  · exact ⟨0, fun negative => if_pos h0⟩
  · by_cases h1 : 400 < d.exponent
    · exact ⟨rankEnd, fun negative => by rw [if_neg h0, if_pos h1]; rfl⟩
    · by_cases h2 : d.exponent + d.digits.log2 < -400
      · exact ⟨0, fun negative => by rw [if_neg h0, if_neg h1, if_pos h2]⟩
      · by_cases h3 : 0 ≤ d.exponent
        · exact ⟨_, fun negative => by rw [if_neg h0, if_neg h1, if_neg h2, if_pos h3]; rfl⟩
        · exact ⟨_, fun negative => by rw [if_neg h0, if_neg h1, if_neg h2, if_neg h3]; rfl⟩

theorem round_of_positive {d : Decimal} {rank : Nat} (h : rank < rankEnd)
    (hd : round false d = ofRank false rank) (negative : Bool) :
    round negative d = ofRank negative rank := by
  obtain ⟨r, hr⟩ := round_eq_ofRank d
  rw [hr false] at hd
  rw [hr, Binary64.ofRank_injective h hd]

/-! ## the shortest decimal -/

/-- a power of five under the same power of ten leaves a power of two -/
theorem round_fives (negative : Bool) {units n : Nat} (hu : units ≠ 0) (hn : 0 < n) :
    round negative ⟨units * Nat.pow 5 n, -n⟩ = ratio negative units (1 <<< n) := by
  have hpos : 0 < Nat.pow 5 n := Nat.pow_pos (by decide)
  have hne : units * Nat.pow 5 n ≠ 0 := Nat.mul_ne_zero hu (Nat.pos_iff_ne_zero.mp hpos)
  have hlog : n ≤ (units * Nat.pow 5 n).log2 := by
    rw [Nat.le_log2 hne]
    calc 2 ^ n ≤ 5 ^ n := Nat.pow_le_pow_left (by decide) n
      _ ≤ units * 5 ^ n := Nat.le_mul_of_pos_left _ (Nat.pos_of_ne_zero hu)
  have hten : Nat.pow 10 n = Nat.pow 5 n * (1 <<< n) := by
    rw [Nat.one_shiftLeft]
    exact Nat.mul_pow 5 2 n
  unfold round
  dsimp only
  rw [if_neg hne, if_neg (by omega), if_neg (by omega), if_neg (by omega), Int.neg_neg,
    Int.toNat_natCast, hten, Nat.mul_comm units, Binary64.ratio_mul_left negative hpos]

theorem round_exact (negative : Bool) {units : Nat} (hu : units ≠ 0) :
    round negative (exact units) = ratio negative units (1 <<< 1074) := by
  have hexact : exact units = ⟨units * Nat.pow 5 1074, -1074⟩ := rfl
  -- the exponent is made a variable, so that no power of it is formed
  obtain ⟨n, hn⟩ : ∃ n, 1074 = n := ⟨1074, rfl⟩
  have hn' : (1074 : Int) = n := congrArg Nat.cast hn
  rw [hexact, hn', hn]
  exact round_fives negative hu (by omega)

theorem unitsOfRank_ne_zero {rank : Nat} (h : rank ≠ 0) : unitsOfRank rank ≠ 0 := by
  have hb : 0 < binade := by decide
  by_cases he : rank / binade = 0
  · have hdiv := Nat.div_add_mod rank binade
    rw [unitsOfRank, if_pos he]
    rw [he] at hdiv
    omega
  · rw [unitsOfRank, if_neg he, Nat.shiftLeft_eq]
    exact Nat.mul_ne_zero (by omega) (Nat.pos_iff_ne_zero.mp (Nat.two_pow_pos _))

/-- **The shortest decimal of a rank is rounded to this rank.** -/
theorem round_shortest (tie : Tie) {rank : Nat} (h : rank < rankEnd) (negative : Bool) :
    round negative (shortest tie rank) = ofRank negative rank := by
  by_cases h0 : rank = 0
  · rw [shortest, if_pos h0, h0]
    rfl
  · rw [shortest, if_neg h0]
    cases hf : (List.range 17).findSome? fun n => neighbour? tie rank (n + 1) with
    | some d =>
      obtain ⟨n, -, hn⟩ := List.exists_of_findSome?_eq_some hf
      exact round_of_positive h (round_neighbour? hn) negative
    | none =>
      rw [Option.getD_none, round_exact negative (unitsOfRank_ne_zero h0),
        Binary64.ratio_unitsOfRank]

theorem digits_shortest_ne_zero (tie : Tie) {rank : Nat} (h : rank < rankEnd) (h0 : rank ≠ 0) :
    (shortest tie rank).digits ≠ 0 := by
  intro hd
  have hr := round_shortest tie h false
  rw [round, if_pos hd] at hr
  exact h0 (Binary64.ofRank_injective h hr).symm

/-! ## digits -/

theorem digitsValue_toDigits (n : Nat) : digitsValue (Nat.toDigits 10 n) = n :=
  Nat.ofDigitChars_toDigits (by decide) (by decide)

theorem isDigit_of_mem_toDigits {n : Nat} {c : Char} (h : c ∈ Nat.toDigits 10 n) :
    c.isDigit = true :=
  Nat.isDigit_of_mem_toDigits (by decide) (by decide) h

/-- no zero stands in front of a positive number -/
theorem head?_toDigits_ne {n : Nat} (h : n ≠ 0) : (Nat.toDigits 10 n).head? ≠ some '0' := by
  induction n using Nat.strongRecOn with
  | ind n ih =>
    by_cases hlt : n < 10
    · have hall : ∀ k, k < 10 → k ≠ 0 → [k.digitChar].head? ≠ some '0' := by decide
      rw [Nat.toDigits_of_lt_base hlt]
      exact hall n hlt h
    · have ih' := ih (n / 10) (by omega) (by omega)
      obtain ⟨c, rest, hc⟩ :=
        List.exists_cons_of_ne_nil (Nat.toDigits_ne_nil (b := 10) (n := n / 10))
      rw [Nat.toDigits_of_base_le (by decide) (by omega), hc]
      rw [hc] at ih'
      exact ih'

theorem digitsValue_append_zeros (digits : List Char) (n : Nat) :
    digitsValue (digits ++ List.replicate n '0') = digitsValue digits * Nat.pow 10 n := by
  have hz : Nat.ofDigitChars 10 (List.replicate n '0') (digitsValue digits) =
      Nat.pow 10 n * digitsValue digits := Nat.ofDigitChars_replicate_zero
  rw [Nat.mul_comm]
  exact (Nat.ofDigitChars_append 0).trans hz

theorem digitsValue_zeros_append (digits : List Char) (n : Nat) :
    digitsValue (List.replicate n '0' ++ digits) = digitsValue digits := by
  have hz : Nat.ofDigitChars 10 (List.replicate n '0') 0 = Nat.pow 10 n * 0 :=
    Nat.ofDigitChars_replicate_zero
  refine (Nat.ofDigitChars_append 0).trans ?_
  rw [hz]
  rfl

/-! ## digits with a point -/

/-- at least one digit on either side of the point, and no zero too many in front -/
structure Pointed (whole fraction : List Char) : Prop where
  whole_ne_nil : whole ≠ []
  fraction_ne_nil : fraction ≠ []
  whole_digits : ∀ c ∈ whole, c.isDigit = true
  fraction_digits : ∀ c ∈ fraction, c.isDigit = true
  leading : whole.head? = some '0' → whole = ['0']

/-- a whole number keeps its value if all its zeros are written, and some more behind a point -/
theorem round_zeros {d : Decimal} {rank : Nat} (h : rank < rankEnd) (he : 0 ≤ d.exponent)
    (hd : round false d = ofRank false rank) (k : Nat) (negative : Bool) :
    round negative ⟨d.digits * Nat.pow 10 (d.exponent.toNat + k), -k⟩ = ofRank negative rank := by
  rw [← round_of_positive h hd negative]
  by_cases h0 : d.digits = 0
  · unfold round
    rw [h0, if_pos (Nat.zero_mul _), if_pos rfl]
  · have hle : ¬ 400 < d.exponent := by
      intro hlt
      rw [round, if_neg h0, if_pos hlt] at hd
      exact absurd (Binary64.ofRank_injective (r := rankEnd) h hd) (by omega)
    have hlow : ¬ d.exponent + (d.digits.log2 : Int) < -400 := by omega
    have hten : d.digits * Nat.pow 10 (d.exponent.toNat + k) =
        Nat.pow 10 k * (d.digits * Nat.pow 10 d.exponent.toNat) := by
      rw [Nat.mul_left_comm, Nat.mul_comm (Nat.pow 10 k)]
      exact congrArg _ (Nat.pow_add 10 d.exponent.toNat k)
    have hpos : 0 < Nat.pow 10 k := Nat.pow_pos (by decide)
    have hpos' : 0 < Nat.pow 10 d.exponent.toNat := Nat.pow_pos (by decide)
    have hne : d.digits * Nat.pow 10 (d.exponent.toNat + k) ≠ 0 :=
      Nat.mul_ne_zero h0 (Nat.pos_iff_ne_zero.mp (Nat.pow_pos (by decide)))
    have hlog : k ≤ (d.digits * Nat.pow 10 (d.exponent.toNat + k)).log2 := by
      rw [Nat.le_log2 hne, hten]
      calc 2 ^ k ≤ 10 ^ k := Nat.pow_le_pow_left (by decide) k
        _ ≤ 10 ^ k * (d.digits * Nat.pow 10 d.exponent.toNat) :=
          Nat.le_mul_of_pos_right _ (Nat.mul_pos (Nat.pos_of_ne_zero h0) hpos')
    calc round negative ⟨d.digits * Nat.pow 10 (d.exponent.toNat + k), -k⟩
        = ratio negative (d.digits * Nat.pow 10 (d.exponent.toNat + k)) (Nat.pow 10 k) := by
          unfold round
          dsimp only
          rw [if_neg hne, if_neg (by omega), if_neg (by omega)]
          cases k with
          | zero =>
            have hzero : (0 : Int) ≤ -((0 : Nat) : Int) := Int.le_refl 0
            rw [if_pos hzero]
            show ratio negative (_ * 1) 1 = _
            rw [Nat.mul_one]
          | succ k =>
            rw [if_neg (by omega), Int.neg_neg, Int.toNat_natCast]
      _ = ratio negative (d.digits * Nat.pow 10 d.exponent.toNat) 1 := by
          rw [hten, ← Binary64.ratio_mul_left negative hpos _ 1, Nat.mul_one]
      _ = round negative d := by
          rw [round, if_neg h0, if_neg hle, if_neg hlow, if_pos he]

theorem isDigit_zeros (n : Nat) : ∀ c ∈ List.replicate n '0', c.isDigit = true := by
  intro c hc
  rw [List.eq_of_mem_replicate hc]
  rfl

/-- whole numbers -/
theorem positional_of_nonneg {d : Decimal} (he : 0 ≤ d.exponent)
    (h0 : d.digits = 0 → d.exponent = 0) :
    ∃ whole fraction, Layout.withPoint.positional d = whole ++ '.' :: fraction ∧
      Pointed whole fraction ∧
      ofParts whole fraction 0 = ⟨d.digits * Nat.pow 10 (d.exponent.toNat + 1), -1⟩ := by
  have hne : Nat.toDigits 10 d.digits ≠ [] := Nat.toDigits_ne_nil
  refine ⟨Nat.toDigits 10 d.digits ++ List.replicate d.exponent.toNat '0', ['0'], ?_, ?_, ?_⟩
  · unfold Layout.positional
    dsimp only
    rw [if_pos he]
    rfl
  · refine ⟨by simp, by simp, ?_, isDigit_zeros 1, ?_⟩
    · intro c hc
      exact (List.mem_append.mp hc).elim isDigit_of_mem_toDigits (isDigit_zeros _ c)
    · intro hhead
      have hhead : (Nat.toDigits 10 d.digits).head? = some '0' := by
        obtain ⟨c, rest, hc⟩ := List.exists_cons_of_ne_nil hne
        rw [hc] at hhead ⊢
        exact hhead
      by_cases hd : d.digits = 0
      · rw [h0 hd, hd]
        rfl
      · exact absurd hhead (head?_toDigits_ne hd)
  · have happ : Nat.toDigits 10 d.digits ++ List.replicate d.exponent.toNat '0' ++ ['0'] =
        Nat.toDigits 10 d.digits ++ List.replicate (d.exponent.toNat + 1) '0' := by
      rw [List.append_assoc, List.replicate_succ']
    rw [ofParts, happ, digitsValue_append_zeros, digitsValue_toDigits]
    rfl

/-- numbers whose point stands between two digits -/
theorem positional_of_place_pos (l : Layout) {d : Decimal} (he : ¬ 0 ≤ d.exponent)
    (h0 : d.digits ≠ 0) (hp : 0 < ((Nat.toDigits 10 d.digits).length : Int) + d.exponent) :
    ∃ whole fraction, l.positional d = whole ++ '.' :: fraction ∧
      Pointed whole fraction ∧ ofParts whole fraction 0 = d := by
  obtain ⟨place, hplace⟩ : ∃ place : Nat,
      (place : Int) = ((Nat.toDigits 10 d.digits).length : Int) + d.exponent :=
    ⟨_, Int.toNat_of_nonneg (by omega)⟩
  have hdrop : ((Nat.toDigits 10 d.digits).drop place).length ≠ 0 := by
    rw [List.length_drop]
    omega
  have htake : (Nat.toDigits 10 d.digits).take place ≠ [] := by
    intro hnil
    have := congrArg List.length hnil
    rw [List.length_take, List.length_nil] at this
    omega
  refine ⟨(Nat.toDigits 10 d.digits).take place, (Nat.toDigits 10 d.digits).drop place, ?_, ?_, ?_⟩
  · unfold Layout.positional
    dsimp only
    rw [if_neg he, if_pos hp, ← hplace]
    rfl
  · refine ⟨htake, fun hnil => hdrop (congrArg List.length hnil), ?_, ?_, ?_⟩
    · intro c hc
      exact isDigit_of_mem_toDigits (List.mem_of_mem_take hc)
    · intro c hc
      exact isDigit_of_mem_toDigits (List.mem_of_mem_drop hc)
    · intro hhead
      rw [List.head?_take, if_neg (by omega)] at hhead
      exact absurd hhead (head?_toDigits_ne h0)
  · rw [ofParts, List.take_append_drop, digitsValue_toDigits, List.length_drop]
    have hexp : (0 : Int) - ((Nat.toDigits 10 d.digits).length - place : Nat) = d.exponent := by
      omega
    rw [hexp]

/-- numbers below one whose first digits are zeros -/
theorem positional_of_place_nonpos (l : Layout) {d : Decimal} (he : ¬ 0 ≤ d.exponent)
    (hp : ¬ 0 < ((Nat.toDigits 10 d.digits).length : Int) + d.exponent) :
    ∃ whole fraction, l.positional d = whole ++ '.' :: fraction ∧
      Pointed whole fraction ∧ ofParts whole fraction 0 = d := by
  obtain ⟨zeros, hzeros⟩ : ∃ zeros : Nat,
      (zeros : Int) = -(((Nat.toDigits 10 d.digits).length : Int) + d.exponent) :=
    ⟨_, Int.toNat_of_nonneg (by omega)⟩
  refine ⟨['0'], List.replicate zeros '0' ++ Nat.toDigits 10 d.digits, ?_, ?_, ?_⟩
  · unfold Layout.positional
    dsimp only
    rw [if_neg he, if_neg hp, ← hzeros]
    rfl
  · refine ⟨by simp, by simp, isDigit_zeros 1, ?_, fun _ => rfl⟩
    intro c hc
    exact (List.mem_append.mp hc).elim (isDigit_zeros _ c) isDigit_of_mem_toDigits
  · have hval : digitsValue (['0'] ++ (List.replicate zeros '0' ++ Nat.toDigits 10 d.digits)) =
        d.digits := by
      rw [← List.append_assoc]
      exact (digitsValue_zeros_append _ (zeros + 1)).trans (digitsValue_toDigits _)
    have hexp : (0 : Int) - (zeros + (Nat.toDigits 10 d.digits).length : Nat) = d.exponent := by
      omega
    rw [ofParts, hval, List.length_append, List.length_replicate, hexp]

/-- **What is read off the digits of a magnitude is rounded to this magnitude.** -/
theorem magnitude_withPoint (rank : Fin rankEnd) :
    ∃ whole fraction, Layout.withPoint.magnitude rank = whole ++ '.' :: fraction ∧
      Pointed whole fraction ∧
      ∀ negative, round negative (ofParts whole fraction 0) = .finite negative rank := by
  have hr := round_shortest Layout.withPoint.tie rank.isLt
  have hfin : ∀ negative, ofRank negative rank = .finite negative rank :=
    fun negative => dif_pos rank.isLt
  have hpos : Layout.withPoint.magnitude rank =
      Layout.withPoint.positional (shortest Layout.withPoint.tie rank) := by
    unfold Layout.magnitude
    dsimp only
    rw [show ∀ place, Layout.withPoint.writesOut place = true from fun _ => rfl, Bool.or_true,
      if_pos rfl]
  rw [hpos]
  by_cases he : 0 ≤ (shortest Layout.withPoint.tie rank).exponent
  · have hzero : (shortest Layout.withPoint.tie rank).digits = 0 →
        (shortest Layout.withPoint.tie rank).exponent = 0 := by
      intro hd
      by_cases h0 : rank.val = 0
      · rw [h0]
        rfl
      · exact absurd hd (digits_shortest_ne_zero _ rank.isLt h0)
    obtain ⟨whole, fraction, ht, hd, hp⟩ := positional_of_nonneg he hzero
    refine ⟨whole, fraction, ht, hd, fun negative => ?_⟩
    rw [hp, ← hfin]
    exact round_zeros rank.isLt he (hr false) 1 negative
  · have h0 : (shortest Layout.withPoint.tie rank).digits ≠ 0 := by
      apply digits_shortest_ne_zero _ rank.isLt
      intro h0
      rw [h0] at he
      exact he (Int.le_refl 0)
    have hparts : ∃ whole fraction, Layout.withPoint.positional
        (shortest Layout.withPoint.tie rank) = whole ++ '.' :: fraction ∧ Pointed whole fraction ∧
        ofParts whole fraction 0 = shortest Layout.withPoint.tie rank := by
      by_cases hp :
          0 < ((Nat.toDigits 10 (shortest Layout.withPoint.tie rank).digits).length : Int) +
            (shortest Layout.withPoint.tie rank).exponent
      · exact positional_of_place_pos _ he h0 hp
      · exact positional_of_place_nonpos _ he hp
    obtain ⟨whole, fraction, ht, hd, hp⟩ := hparts
    refine ⟨whole, fraction, ht, hd, fun negative => ?_⟩
    rw [hp, hr, hfin]

end Jargon.Decimal
