import Jargon.Binary64.Basic

/-!
# Rounding what needs no rounding

A magnitude that a rank stands for is rounded to this rank, and a quotient depends on nothing but
its value.

* `roundRank_double`   the units of a rank, counted in halves;
* `ratio_mul_left`     a factor of both parts of a quotient;
* `ratio_unitsOfRank`  the magnitude of a rank as a quotient.
-/

namespace Jargon.Binary64

/-! ## exact magnitudes -/

/-- no digit is lost if the half units are a multiple of what the shift cuts off -/
theorem roundRank_shiftLeft {kept shift : Nat} (h : max 1 ((kept <<< shift).log2 - 52) = shift) :
    roundRank (kept <<< shift) false = (shift - 1) * binade + kept := by
  have hk : (kept <<< shift) >>> shift = kept := Nat.shiftLeft_shiftRight kept shift
  have hl : (kept <<< shift) % (1 <<< shift) = 0 := by
    rw [Nat.shiftLeft_eq, Nat.one_shiftLeft, Nat.mul_mod_left]
  have hh : 0 < 1 <<< (shift - 1) := by
    rw [Nat.one_shiftLeft]
    exact Nat.two_pow_pos _
  have hne : ((0 : Nat) == 1 <<< (shift - 1)) = false := by
    rw [beq_eq_false_iff_ne]
    omega
  unfold roundRank
  simp only [h, hk, hl, hne, Bool.false_and, Bool.or_false, decide_eq_false (Nat.not_lt_zero _),
    Bool.toNat_false, Nat.add_zero]

/-- a rank that counts units itself -/
theorem roundRank_of_lt {rank : Nat} (h : rank < binade) : roundRank (rank <<< 1) false = rank := by
  have hlog : (rank <<< 1).log2 ≤ 52 := by
    by_cases h0 : rank <<< 1 = 0
    · rw [h0, Nat.log2_zero]
      exact Nat.zero_le _
    · have hlt : rank <<< 1 < 2 ^ 53 := by
        rw [Nat.shiftLeft_eq]
        unfold binade at h
        omega
      exact Nat.le_of_lt_succ ((Nat.log2_lt h0).mpr hlt)
  rw [roundRank_shiftLeft (by omega), Nat.sub_self, Nat.zero_mul, Nat.zero_add]

/-- a magnitude with all its 53 digits -/
theorem roundRank_of_ge {kept shift : Nat} (hs : 1 ≤ shift) (hlo : binade ≤ kept)
    (hhi : kept < 2 * binade) :
    roundRank (kept <<< shift) false = (shift - 1) * binade + kept := by
  apply roundRank_shiftLeft
  have hlog : (kept <<< shift).log2 = 52 + shift := by
    have hne : kept <<< shift ≠ 0 := by
      rw [Nat.shiftLeft_eq]
      have := Nat.mul_pos (show 0 < kept by unfold binade at hlo; omega) (Nat.two_pow_pos shift)
      omega
    rw [Nat.log2_eq_iff hne, Nat.shiftLeft_eq, Nat.add_right_comm, Nat.pow_add, Nat.pow_add]
    constructor
    · exact Nat.mul_le_mul_right _ hlo
    · exact Nat.mul_lt_mul_of_pos_right hhi (Nat.two_pow_pos shift)
  omega

/-- **The magnitude of a rank, in half units, is rounded to this rank.** -/
theorem roundRank_double (rank : Nat) : roundRank (2 * unitsOfRank rank) false = rank := by
  have hb : 0 < binade := by decide
  have hmod := Nat.mod_lt rank hb
  have hdiv := Nat.div_add_mod rank binade
  by_cases he : rank / binade = 0
  · have hu : unitsOfRank rank = rank := by
      rw [unitsOfRank, if_pos he]
      rw [he] at hdiv
      omega
    have hlt : rank < binade := by
      rw [he] at hdiv
      omega
    have hd : 2 * rank = rank <<< 1 := by
      rw [Nat.shiftLeft_eq]
      omega
    rw [hu, hd, roundRank_of_lt hlt]
  · obtain ⟨k, hk⟩ := Nat.exists_eq_succ_of_ne_zero he
    have hd : 2 * unitsOfRank rank = (binade + rank % binade) <<< (k + 1) := by
      rw [unitsOfRank, if_neg he, hk, Nat.shiftLeft_eq, Nat.shiftLeft_eq, Nat.succ_sub_one,
        Nat.pow_succ]
      ac_rfl
    rw [hd, roundRank_of_ge (by omega) (Nat.le_add_right _ _) (by omega), Nat.add_sub_cancel]
    rw [hk, Nat.mul_comm, Nat.succ_mul] at hdiv
    omega

/-! ## quotients -/

theorem ratio_mul_left (negative : Bool) {k : Nat} (hk : 0 < k) (num den : Nat) :
    ratio negative (k * num) (k * den) = ratio negative num den := by
  have hs : (k * num) <<< 1075 = k * (num <<< 1075) := by
    rw [Nat.shiftLeft_eq, Nat.shiftLeft_eq, Nat.mul_assoc]
  have hne : (k * (num <<< 1075 % den) != 0) = (num <<< 1075 % den != 0) := by
    rw [Bool.eq_iff_iff, bne_iff_ne, bne_iff_ne, ne_eq, Nat.mul_eq_zero, not_or]
    exact ⟨fun h => h.2, fun h => ⟨Nat.pos_iff_ne_zero.mp hk, h⟩⟩
  unfold ratio
  simp only [hs, Nat.mul_div_mul_left _ _ hk, Nat.mul_mod_mul_left, hne]

theorem shiftLeft_succ_eq (num n : Nat) : num <<< (n + 1) = 2 * num * (1 <<< n) := by
  rw [Nat.shiftLeft_eq, Nat.one_shiftLeft, Nat.pow_succ]
  ac_rfl

theorem shiftLeft_succ_div (num n : Nat) : num <<< (n + 1) / (1 <<< n) = 2 * num := by
  rw [shiftLeft_succ_eq, Nat.mul_div_cancel _ (by rw [Nat.one_shiftLeft]; exact Nat.two_pow_pos n)]

theorem shiftLeft_succ_mod (num n : Nat) : num <<< (n + 1) % (1 <<< n) = 0 := by
  rw [shiftLeft_succ_eq, Nat.mul_mod_left]

/-- **The magnitude of a rank is the number of this rank.** -/
theorem ratio_unitsOfRank (negative : Bool) (rank : Nat) :
    ratio negative (unitsOfRank rank) (1 <<< 1074) = ofRank negative rank := by
  show ofRank negative (roundRank (unitsOfRank rank <<< (1074 + 1) / (1 <<< 1074))
    (unitsOfRank rank <<< (1074 + 1) % (1 <<< 1074) != 0)) = _
  rw [shiftLeft_succ_div, shiftLeft_succ_mod]
  show ofRank negative (roundRank (2 * unitsOfRank rank) false) = _
  rw [roundRank_double]

theorem ofRank_injective {negative : Bool} {r rank : Nat} (h : rank < rankEnd)
    (he : ofRank negative r = ofRank negative rank) : r = rank := by
  unfold ofRank at he
  rw [dif_pos h] at he
  split at he
  · cases he
    rfl
  · cases he

end Jargon.Binary64
