import Mathlib.Tactic.Linarith
import Jargon.Proofs.Binary64.Order
import Jargon.Proofs.Binary64.Rounding

/-!
# How far rounding goes

A magnitude with all its 53 digits is rounded by at most one part in `2^53`.  Magnitudes are
compared as quotients of natural numbers, so nothing is lost on either side.

* `keptDigits_cases`        when the last digit that is kept goes up;
* `unitsOfRank_roundRank`   a rounded magnitude is its digits and their place;
* `Near`                    a magnitude in units, and the quotient it stands for;
* `ratio_near`              a quotient is rounded to a number near it;
* `exists_ofNat`            natural numbers below `2^53` are kept exactly.
-/

namespace Jargon.Binary64

/-! ## one rounding -/

/-- the digits of a magnitude in half units above the last `t + 1`, the last of them rounded -/
def keptDigits (t halves : ℕ) (inexact : Bool) : ℕ :=
  halves / 2 ^ (t + 1) +
    (decide (2 ^ t < halves % 2 ^ (t + 1)) || (halves % 2 ^ (t + 1) == 2 ^ t &&
      (inexact || halves / 2 ^ (t + 1) % 2 == 1))).toNat

theorem roundRank_eq {halves t : ℕ} (ht : halves.log2 = 53 + t) (inexact : Bool) :
    roundRank halves inexact = t * binade + keptDigits t halves inexact := by
  have hshift : max 1 (halves.log2 - 52) = t + 1 := by omega
  unfold roundRank keptDigits
  simp only [hshift, Nat.shiftRight_eq_div_pow, Nat.one_shiftLeft, Nat.add_sub_cancel]
  rw [Nat.add_assoc]

/-- the last digit goes up if more than half of it is lost, or half and it is odd -/
theorem keptDigits_cases (t halves : ℕ) (inexact : Bool) :
    (keptDigits t halves inexact = halves / 2 ^ (t + 1) + 1 ∧ 2 ^ t ≤ halves % 2 ^ (t + 1)) ∨
      (keptDigits t halves inexact = halves / 2 ^ (t + 1) ∧
        (halves % 2 ^ (t + 1) < 2 ^ t ∨ (halves % 2 ^ (t + 1) = 2 ^ t ∧ inexact = false))) := by
  unfold keptDigits
  generalize hup : (decide (2 ^ t < halves % 2 ^ (t + 1)) || (halves % 2 ^ (t + 1) == 2 ^ t &&
    (inexact || halves / 2 ^ (t + 1) % 2 == 1))) = up
  cases up with
  | true =>
    left
    simp only [Bool.or_eq_true, Bool.and_eq_true, decide_eq_true_eq, beq_iff_eq] at hup
    exact ⟨rfl, hup.elim Nat.le_of_lt fun h => h.1.ge⟩
  | false =>
    right
    simp only [Bool.or_eq_false_iff, Bool.and_eq_false_iff, decide_eq_false_iff_not,
      beq_eq_false_iff_ne] at hup
    refine ⟨rfl, ?_⟩
    obtain ⟨hle, hne | ⟨hexact, -⟩⟩ := hup
    · exact .inl (by omega)
    · rcases Nat.lt_or_eq_of_le (Nat.not_lt.mp hle) with hlt | heq
      · exact .inl hlt
      · exact .inr ⟨heq, hexact⟩

/-- what is kept before rounding has 53 digits -/
theorem binade_le_div {halves t : ℕ} (hne : halves ≠ 0) (ht : halves.log2 = 53 + t) :
    binade ≤ halves / 2 ^ (t + 1) ∧ halves / 2 ^ (t + 1) < 2 * binade := by
  have hpos := Nat.two_pow_pos (t + 1)
  constructor
  · rw [Nat.le_div_iff_mul_le hpos]
    calc binade * 2 ^ (t + 1) = 2 ^ (52 + (t + 1)) := (pow_add 2 52 (t + 1)).symm
      _ = 2 ^ halves.log2 := by rw [ht]; congr 1; omega
      _ ≤ halves := Nat.log2_self_le hne
  · rw [Nat.div_lt_iff_lt_mul hpos]
    calc halves < 2 ^ (halves.log2 + 1) := Nat.lt_log2_self
      _ = 2 ^ (53 + (t + 1)) := by rw [ht]; congr 1
      _ = 2 * binade * 2 ^ (t + 1) := pow_add 2 53 (t + 1)

theorem unitsOfRank_roundRank {halves t : ℕ} (hne : halves ≠ 0) (ht : halves.log2 = 53 + t)
    (inexact : Bool) :
    unitsOfRank (roundRank halves inexact) = keptDigits t halves inexact * 2 ^ t := by
  obtain ⟨hlo, hhi⟩ := binade_le_div hne ht
  have hcases := keptDigits_cases t halves inexact
  rw [roundRank_eq ht, unitsOfRank_add t (by omega) (by omega)]

theorem log2_shiftRight {k m : ℕ} (h : m >>> k ≠ 0) : m.log2 = (m >>> k).log2 + k := by
  have hne : m ≠ 0 := by
    rintro rfl
    exact h (Nat.zero_shiftRight k)
  have hlo := Nat.log2_self_le h
  have hhi := Nat.lt_log2_self (n := m >>> k)
  rw [Nat.shiftRight_eq_div_pow] at hlo hhi ⊢
  rw [Nat.le_div_iff_mul_le (Nat.two_pow_pos k), ← Nat.pow_add] at hlo
  rw [Nat.div_lt_iff_lt_mul (Nat.two_pow_pos k), ← Nat.pow_add, Nat.add_right_comm] at hhi
  exact (Nat.log2_eq_iff hne).mpr ⟨hlo, hhi⟩

/-- a magnitude rounded, with its digits counted from the `k`-th on, which takes fewer steps -/
def unitsFrom (k halves : ℕ) (inexact : Bool) : ℕ :=
  let t := (halves >>> k).log2 + k - 53
  keptDigits t halves inexact * 2 ^ t

theorem unitsFrom_eq {k halves : ℕ} (hk : 53 ≤ k) (h : halves >>> k ≠ 0) (inexact : Bool) :
    unitsFrom k halves inexact = unitsOfRank (roundRank halves inexact) := by
  have hne : halves ≠ 0 := by
    rintro rfl
    exact h (Nat.zero_shiftRight k)
  have ht : halves.log2 = 53 + ((halves >>> k).log2 + k - 53) := by
    rw [log2_shiftRight h]
    omega
  exact (unitsOfRank_roundRank hne ht inexact).symm

/-- `units` is `num / den` but for one part in `2 ^ 53` -/
structure Near (units num den : ℕ) : Prop where
  le : units * den * 2 ^ 53 ≤ num * 2 ^ 53 + num
  ge : num * 2 ^ 53 ≤ units * den * 2 ^ 53 + num

theorem Near.of_error {units num den error : ℕ} (hsmall : error * 2 ^ 53 ≤ num)
    (hgain : units * den ≤ num + error) (hloss : num ≤ units * den + error) :
    Near units num den := by
  constructor
  · calc units * den * 2 ^ 53 ≤ (num + error) * 2 ^ 53 := Nat.mul_le_mul_right _ hgain
      _ = num * 2 ^ 53 + error * 2 ^ 53 := Nat.add_mul _ _ _
      _ ≤ num * 2 ^ 53 + num := Nat.add_le_add_left hsmall _
  · calc num * 2 ^ 53 ≤ (units * den + error) * 2 ^ 53 := Nat.mul_le_mul_right _ hloss
      _ = units * den * 2 ^ 53 + error * 2 ^ 53 := Nat.add_mul _ _ _
      _ ≤ units * den * 2 ^ 53 + num := Nat.add_le_add_left hsmall _

/-- at most half of the last digit is gained or lost, and there are `2 ^ 52` of them or more -/
theorem near_roundRank {num den : ℕ} (hden : 0 < den) (h : 2 ^ 53 ≤ num / den) :
    Near (2 * unitsOfRank (roundRank (num / den) (num % den != 0))) num den := by
  have hne : num / den ≠ 0 := by omega
  obtain ⟨t, ht⟩ : ∃ t, (num / den).log2 = 53 + t :=
    Nat.exists_eq_add_of_le ((Nat.le_log2 hne).mpr h)
  have hkept := (binade_le_div hne ht).1
  have hlost := Nat.mod_lt (num / den) (Nat.two_pow_pos (t + 1))
  have hhalves := Nat.div_add_mod' (num / den) (2 ^ (t + 1))
  have hcases := keptDigits_cases t (num / den) (num % den != 0)
  rw [unitsOfRank_roundRank hne ht]
  generalize keptDigits t (num / den) (num % den != 0) = digits at hcases ⊢
  generalize num / den / 2 ^ (t + 1) = kept at hkept hhalves hcases
  generalize num / den % 2 ^ (t + 1) = lost at hlost hhalves hcases
  have hrest := Nat.mod_lt num hden
  have hnum : num = kept * 2 ^ (t + 1) * den + (lost * den + num % den) := by
    rw [← add_assoc, ← Nat.add_mul, hhalves]
    exact (Nat.div_add_mod' num den).symm
  have hsmall : 2 ^ t * den * 2 ^ 53 ≤ num := by
    calc 2 ^ t * den * 2 ^ 53 = binade * 2 ^ (t + 1) * den := by
          rw [show binade = 2 ^ 52 from rfl]
          ring
      _ ≤ kept * 2 ^ (t + 1) * den := by gcongr
      _ ≤ num := hnum ▸ Nat.le_add_right _ _
  have hbelow : lost * den + num % den < 2 * (2 ^ t * den) := by
    calc lost * den + num % den < lost * den + den := Nat.add_lt_add_left hrest _
      _ = (lost + 1) * den := by ring
      _ ≤ 2 ^ (t + 1) * den := Nat.mul_le_mul_right _ hlost
      _ = 2 * (2 ^ t * den) := by ring
  rcases hcases with ⟨rfl, hhalf⟩ | ⟨rfl, hhalf⟩
  · have hrounded : 2 * ((kept + 1) * 2 ^ t) * den =
        kept * 2 ^ (t + 1) * den + 2 * (2 ^ t * den) := by ring
    have habove : 2 ^ t * den ≤ lost * den := Nat.mul_le_mul_right _ hhalf
    exact .of_error hsmall (by omega) (by omega)
  · have hrounded : 2 * (digits * 2 ^ t) * den = digits * 2 ^ (t + 1) * den := by ring
    have hlow : lost * den + num % den ≤ 2 ^ t * den := by
      rcases hhalf with hlt | ⟨rfl, hexact⟩
      · calc lost * den + num % den ≤ lost * den + den := Nat.add_le_add_left hrest.le _
          _ = (lost + 1) * den := by ring
          _ ≤ 2 ^ t * den := Nat.mul_le_mul_right _ hlt
      · rw [bne_eq_false_iff_eq] at hexact
        rw [hexact, Nat.add_zero]
    exact .of_error hsmall (by omega) (by omega)

namespace Near

variable {units num den : ℕ}

theorem units_le (h : Near units num den) : units * den ≤ 2 * num := by
  have hle : units * den * 2 ^ 53 ≤ 2 * num * 2 ^ 53 := h.le.trans (by omega)
  exact Nat.le_of_mul_le_mul_right hle (Nat.two_pow_pos 53)

theorem le_units (h : Near units num den) : num ≤ 2 * (units * den) := by
  have hge := h.ge
  omega

theorem mul_pred_le (h : Near units num den) : num * (2 ^ 53 - 1) ≤ units * den * 2 ^ 53 := by
  rw [Nat.mul_sub, Nat.mul_one, Nat.sub_le_iff_le_add]
  exact h.ge

theorem lt {e : ℕ} (h : Near units num den) (hhi : num < den * 2 ^ e) :
    units < 2 ^ (e + 1) := by
  have hlt : units * den < 2 ^ (e + 1) * den := by
    calc units * den ≤ 2 * num := h.units_le
      _ < 2 * (den * 2 ^ e) := by omega
      _ = 2 ^ (e + 1) * den := by rw [pow_succ]; ring
  exact Nat.lt_of_mul_lt_mul_right hlt

theorem of_mul_right {k : ℕ} (hk : 0 < k) (h : Near units (num * k) (den * k)) :
    Near units num den := by
  obtain ⟨hle, hge⟩ := h
  constructor
  · refine Nat.le_of_mul_le_mul_right ?_ hk
    linarith
  · refine Nat.le_of_mul_le_mul_right ?_ hk
    linarith

theorem of_double (h : Near (2 * units) (2 * num) den) : Near units num den := by
  obtain ⟨hle, hge⟩ := h
  constructor <;> linarith

end Near

/-! ## quotients -/

/-- units in one -/
def oneUnits : ℕ := 1 <<< 1074

-- `Nat.one_shiftLeft` has the power of `Nat`, not that of a monoid; on exponents as large as these
-- a rewrite must not unfold one to find the other
theorem one_shiftLeft_eq (n : ℕ) : 1 <<< n = 2 ^ n := Nat.one_shiftLeft n

theorem shiftRight_eq_div (m n : ℕ) : m >>> n = m / 1 <<< n := by
  rw [Nat.shiftRight_eq_div_pow, one_shiftLeft_eq]

theorem one_shiftLeft_add (n m : ℕ) : 1 <<< (n + m) = (1 <<< n) * (1 <<< m) := by
  rw [one_shiftLeft_eq, one_shiftLeft_eq, one_shiftLeft_eq, pow_add]

theorem oneUnits_eq : oneUnits = 2 ^ 1074 := one_shiftLeft_eq 1074

theorem oneUnits_pos : 0 < oneUnits := by
  rw [oneUnits_eq]
  exact pow_pos (by decide) 1074

theorem lt_rankEnd_of_units {rank : ℕ} (h : unitsOfRank rank < 2 ^ (52 + 2046)) :
    rank < rankEnd := by
  have hend : rankEnd = 2046 * binade + binade := by decide
  have hunits := unitsOfRank_add 2046 (le_refl binade) (by decide)
  have hpow : binade * 2 ^ 2046 = 2 ^ (52 + 2046) := by
    rw [show binade = 2 ^ 52 from rfl, pow_add]
  rw [← unitsOfRank_strictMono.lt_iff_lt, hend, hunits, hpow]
  exact h

theorem rank_of_ratio {negative : Bool} {num den : ℕ} {rank : Fin rankEnd}
    (h : ratio negative num den = .finite negative rank) :
    rank.val = roundRank (num <<< 1075 / den) (num <<< 1075 % den != 0) := by
  unfold ratio ofRank at h
  dsimp only at h
  split at h
  · cases h
    rfl
  · cases h

/-- a quotient by one has no half of a last digit to lose -/
theorem rank_of_ratio_one {negative : Bool} {num : ℕ} {rank : Fin rankEnd}
    (h : ratio negative num oneUnits = .finite negative rank) :
    rank.val = roundRank (2 * num) false := by
  have hrank := rank_of_ratio h
  rwa [show 1075 = 1074 + 1 from rfl, oneUnits, shiftLeft_succ_div, shiftLeft_succ_mod] at hrank

theorem ratio_zero (negative : Bool) (den : ℕ) :
    ratio negative 0 den = .finite negative ⟨0, by decide⟩ := by
  show ofRank negative (roundRank (0 <<< 1075 / den) (0 <<< 1075 % den != 0)) = _
  rw [Nat.zero_shiftLeft, Nat.zero_div, Nat.zero_mod]
  rfl

/-- **A quotient is rounded to a number near it**, if it is neither too small for all its digits nor
too large. -/
theorem ratio_near (negative : Bool) {num den : ℕ} (hden : 0 < den)
    (hlo : num ≠ 0 → 2 ^ 52 * den ≤ num * oneUnits) (hhi : num < den * 2 ^ 64) :
    ∃ rank : Fin rankEnd, ratio negative num den = .finite negative rank ∧
      Near (unitsOfRank rank) (num * oneUnits) den := by
  rcases Nat.eq_zero_or_pos num with rfl | hpos
  · refine ⟨_, ratio_zero negative den, ?_⟩
    rw [Nat.zero_mul]
    exact ⟨by rw [units_zero]; omega, by omega⟩
  · have hdouble : num <<< 1075 = 2 * (num * oneUnits) := by
      rw [show 1075 = 1074 + 1 from rfl, shiftLeft_succ_eq, ← oneUnits, Nat.mul_assoc]
    have hhalves : 2 ^ 53 ≤ 2 * (num * oneUnits) / den := by
      rw [Nat.le_div_iff_mul_le hden]
      have := hlo hpos.ne'
      omega
    have hnear := (near_roundRank hden hhalves).of_double
    rw [← hdouble] at hnear
    have hscaled : num * oneUnits < den * 2 ^ (64 + 1074) := by
      rw [pow_add, ← Nat.mul_assoc, ← oneUnits_eq]
      exact Nat.mul_lt_mul_of_pos_right hhi oneUnits_pos
    have hlt := lt_rankEnd_of_units ((hnear.lt hscaled).trans
      (pow_lt_pow_right₀ (by decide) (by decide)))
    refine ⟨⟨_, hlt⟩, ?_, hnear⟩
    show ofRank negative (roundRank (num <<< 1075 / den) (num <<< 1075 % den != 0)) = _
    rw [ofRank, dif_pos hlt]

/-! ## natural numbers -/

theorem ofNat_of_units {n rank : ℕ} (h : rank < rankEnd)
    (hunits : unitsOfRank rank = n * oneUnits) : ofNat n = .finite false ⟨rank, h⟩ := by
  have hscaled := ratio_mul_left false oneUnits_pos n 1
  rw [Nat.mul_one, Nat.mul_comm, ← hunits, oneUnits, ratio_unitsOfRank] at hscaled
  rw [ofNat, ← hscaled, ofRank, dif_pos h]

/-- the digits of a natural number, moved up to the 53 that a number has -/
theorem exists_rank_of_lt {n : ℕ} (h : n < 2 ^ 53) :
    ∃ rank, rank < rankEnd ∧ unitsOfRank rank = n * oneUnits := by
  rcases Nat.eq_zero_or_pos n with rfl | hpos
  · exact ⟨0, by decide, by rw [units_zero, Nat.zero_mul]⟩
  · have hlog : n.log2 ≤ 52 := Nat.le_of_lt_succ ((Nat.log2_lt hpos.ne').mpr h)
    have hlo : binade ≤ n * 2 ^ (52 - n.log2) := by
      calc binade = 2 ^ (n.log2 + (52 - n.log2)) := by rw [Nat.add_sub_cancel' hlog]; rfl
        _ = 2 ^ n.log2 * 2 ^ (52 - n.log2) := pow_add _ _ _
        _ ≤ n * 2 ^ (52 - n.log2) := Nat.mul_le_mul_right _ (Nat.log2_self_le hpos.ne')
    have hhi : n * 2 ^ (52 - n.log2) ≤ 2 * binade := by
      calc n * 2 ^ (52 - n.log2) ≤ 2 ^ (n.log2 + 1) * 2 ^ (52 - n.log2) :=
            Nat.mul_le_mul_right _ Nat.lt_log2_self.le
        _ = 2 ^ (n.log2 + 1 + (52 - n.log2)) := (pow_add _ _ _).symm
        _ = 2 * binade := by rw [show n.log2 + 1 + (52 - n.log2) = 53 by omega]; rfl
    refine ⟨(1022 + n.log2) * binade + n * 2 ^ (52 - n.log2), ?_, ?_⟩
    · have hk : (1022 + n.log2) * binade ≤ 1074 * binade := Nat.mul_le_mul_right _ (by omega)
      have hend : 1074 * binade + 2 * binade < rankEnd := by decide
      omega
    · rw [unitsOfRank_add _ hlo hhi, Nat.mul_assoc, ← pow_add, oneUnits_eq,
        show 52 - n.log2 + (1022 + n.log2) = 1074 by omega]

/-- **A natural number below `2 ^ 53` is kept exactly.** -/
theorem exists_ofNat {n : ℕ} (h : n < 2 ^ 53) :
    ∃ rank : Fin rankEnd, ofNat n = .finite false rank ∧ unitsOfRank rank = n * oneUnits := by
  obtain ⟨rank, hlt, hunits⟩ := exists_rank_of_lt h
  exact ⟨⟨rank, hlt⟩, ofNat_of_units hlt hunits, hunits⟩

theorem finite_lt_ofNat_iff {rank : Fin rankEnd} {n : ℕ} (h : n < 2 ^ 53) :
    .finite false rank < ofNat n ↔ unitsOfRank rank < n * oneUnits := by
  obtain ⟨r, hr, hunits⟩ := exists_ofNat h
  rw [hr, finite_lt_iff, ← unitsOfRank_strictMono.lt_iff_lt, hunits]

/-- a quotient of natural numbers, before it is rounded -/
theorem ofNat_div {n m : ℕ} (hn : n < 2 ^ 53) (hm : m < 2 ^ 53) (hpos : 0 < m) :
    ofNat n / ofNat m = ratio false n m := by
  obtain ⟨r, hr, hru⟩ := exists_ofNat hn
  obtain ⟨s, hs, hsu⟩ := exists_ofNat hm
  have hne : s.val ≠ 0 := by
    intro h0
    rw [h0, units_zero] at hsu
    exact absurd hsu.symm (Nat.mul_ne_zero hpos.ne' oneUnits_pos.ne')
  rw [hr, hs]
  show (if s.val = 0 then _ else ratio (false != false) (unitsOfRank r) (unitsOfRank s)) = _
  rw [if_neg hne, hru, hsu, Nat.mul_comm n, Nat.mul_comm m]
  exact ratio_mul_left false oneUnits_pos n m

/-- a product with a natural number, before it is rounded -/
theorem finite_mul_ofNat (rank : Fin rankEnd) {n : ℕ} (hn : n < 2 ^ 53) :
    .finite false rank * ofNat n = ratio false (unitsOfRank rank * n) oneUnits := by
  obtain ⟨r, hr, hru⟩ := exists_ofNat hn
  rw [hr]
  show ratio (false != false) (unitsOfRank rank * unitsOfRank r) (1 <<< 2148) = _
  rw [hru, show 2148 = 1074 + 1074 from rfl, one_shiftLeft_add, ← oneUnits, ← Nat.mul_assoc,
    Nat.mul_comm _ oneUnits]
  exact ratio_mul_left false oneUnits_pos _ _

/-- below `2 ^ 64` the floor is not held -/
theorem toNat_floorUInt64 {rank : Fin rankEnd} (h : unitsOfRank rank < 2 ^ 64 * oneUnits) :
    (finite false rank).floorUInt64.toNat = unitsOfRank rank / oneUnits := by
  have hlt : unitsOfRank rank / oneUnits < 2 ^ 64 := (Nat.div_lt_iff_lt_mul oneUnits_pos).mpr h
  have hle : unitsOfRank rank / oneUnits ≤ UInt64.size - 1 := Nat.le_sub_one_of_lt hlt
  show (UInt64.ofNat (min (unitsOfRank rank >>> 1074) (UInt64.size - 1))).toNat = _
  rw [shiftRight_eq_div, ← oneUnits, Nat.min_eq_left hle]
  exact UInt64.toNat_ofNat_of_lt hlt

end Jargon.Binary64
