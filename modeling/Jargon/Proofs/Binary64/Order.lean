import Mathlib.Data.EReal.Basic
import Mathlib.Data.Int.ConditionallyCompleteOrder
import Jargon.Binary64.Basic

/-!
# The order of the doubles is that of the real line

Ranks grow with the magnitudes they stand for, so comparing ranks compares real numbers.  The
infinities are the ends of the line, and the zeros of both signs are one number.

* `unitsOfRank_add`          the magnitude of a rank that is not below all binades;
* `unitsOfRank_strictMono`   a greater rank is a greater magnitude;
* `lt_iff_value`, `le_iff_value`   the two comparisons;
* `isFinite_iff_value`       finite numbers are those that are real.
-/

namespace Jargon.Binary64

/-! ## magnitudes grow -/

theorem unitsOfRank_of_lt {rank : ℕ} (h : rank < binade) : unitsOfRank rank = rank := by
  unfold unitsOfRank
  rw [Nat.div_eq_of_lt h, Nat.mod_eq_of_lt h]
  rfl

/-- also for the first rank of the next binade -/
theorem unitsOfRank_add (k : ℕ) {m : ℕ} (hlo : binade ≤ m) (hhi : m ≤ 2 * binade) :
    unitsOfRank (k * binade + m) = m * 2 ^ k := by
  have hb : 0 < binade := by decide
  have hbelow : ∀ (k f : ℕ), f < binade →
      unitsOfRank (k * binade + (binade + f)) = (binade + f) * 2 ^ k := by
    intro k f hf
    have hsum : k * binade + (binade + f) = f + binade * (k + 1) := by ring
    have hdiv : (k * binade + (binade + f)) / binade = k + 1 := by
      rw [hsum, Nat.add_mul_div_left _ _ hb, Nat.div_eq_of_lt hf, Nat.zero_add]
    have hmod : (k * binade + (binade + f)) % binade = f := by
      rw [hsum, Nat.add_mul_mod_self_left, Nat.mod_eq_of_lt hf]
    unfold unitsOfRank
    rw [hdiv, hmod, if_neg (Nat.succ_ne_zero k), Nat.add_sub_cancel, Nat.shiftLeft_eq]
  obtain ⟨f, rfl⟩ := Nat.exists_eq_add_of_le hlo
  rcases Nat.lt_or_ge f binade with hf | hf
  · exact hbelow k f hf
  · have hf' : f = binade := by omega
    have hnext := hbelow (k + 1) 0 hb
    rw [hf']
    have hsum : (k + 1) * binade + (binade + 0) = k * binade + (binade + binade) := by ring
    rw [← hsum, hnext]
    ring

theorem exists_eq_add_of_binade_le {rank : ℕ} (h : binade ≤ rank) :
    ∃ k m, rank = k * binade + m ∧ binade ≤ m ∧ m < 2 * binade := by
  have hb : 0 < binade := by decide
  have hpos : 1 ≤ rank / binade := (Nat.one_le_div_iff hb).mpr h
  have hdiv := Nat.div_add_mod rank binade
  have hmod := Nat.mod_lt rank hb
  obtain ⟨k, hk⟩ := Nat.exists_eq_add_of_le hpos
  refine ⟨k, binade + rank % binade, ?_, Nat.le_add_right _ _, by omega⟩
  rw [hk] at hdiv
  calc rank = binade * (1 + k) + rank % binade := hdiv.symm
    _ = k * binade + (binade + rank % binade) := by ring

/-- **A greater rank is a greater magnitude.** -/
theorem unitsOfRank_strictMono : StrictMono unitsOfRank := by
  refine strictMono_nat_of_lt_succ fun rank => ?_
  rcases Nat.lt_or_ge rank binade with h | h
  · rw [unitsOfRank_of_lt h]
    rcases Nat.lt_or_ge (rank + 1) binade with h' | h'
    · rw [unitsOfRank_of_lt h']
      exact Nat.lt_succ_self rank
    · have hnext := unitsOfRank_add 0 h' (by omega)
      rw [Nat.zero_mul, Nat.zero_add, pow_zero, mul_one] at hnext
      rw [hnext]
      exact Nat.lt_succ_self rank
  · obtain ⟨k, m, rfl, hlo, hhi⟩ := exists_eq_add_of_binade_le h
    rw [add_assoc, unitsOfRank_add k hlo hhi.le, unitsOfRank_add k (by omega) (by omega)]
    exact Nat.mul_lt_mul_of_pos_right (Nat.lt_succ_self m) (Nat.two_pow_pos k)

/-! ## numbers on the line -/

/-- the real number of a rank -/
noncomputable def magnitude (rank : ℕ) : ℝ := unitsOfRank rank / 2 ^ 1074

/-- where a double stands on the real line with its two ends; `nan` stands nowhere -/
noncomputable def value? : Binary64 → Option EReal
  | .nan => none
  | .infinity false => some ⊤
  | .infinity true => some ⊥
  | .finite false rank => some (magnitude rank : ℝ)
  | .finite true rank => some (-magnitude rank : ℝ)

@[simp]
theorem magnitude_zero : magnitude 0 = 0 := by
  rw [magnitude, units_zero, Nat.cast_zero, zero_div]

theorem magnitude_strictMono : StrictMono magnitude := by
  intro r s h
  have hunits : (unitsOfRank r : ℝ) < unitsOfRank s := Nat.cast_lt.mpr (unitsOfRank_strictMono h)
  exact div_lt_div_of_pos_right hunits (by positivity)

/-- the real number of a place between the ends -/
noncomputable def signed (place : ℤ) : ℝ := place.sign * magnitude place.natAbs

theorem signed_natCast (n : ℕ) : signed n = magnitude n := by
  cases n with
  | zero => simp [signed]
  | succ n => rw [signed, Int.sign_natCast_of_ne_zero n.succ_ne_zero, Int.cast_one, one_mul,
      Int.natAbs_natCast]

theorem signed_neg (place : ℤ) : signed (-place) = -signed place := by
  rw [signed, signed, Int.sign_neg, Int.natAbs_neg, Int.cast_neg, neg_mul]

theorem signed_strictMono : StrictMono signed := by
  refine strictMono_int_of_lt_succ fun place => ?_
  rcases place with n | n
  · have hlt := magnitude_strictMono (Nat.lt_succ_self n)
    rwa [← signed_natCast, ← signed_natCast] at hlt
  · have hlt := magnitude_strictMono (Nat.lt_succ_self n)
    rw [← signed_natCast, ← signed_natCast] at hlt
    have hnext : Int.negSucc n + 1 = -(n : ℤ) := by omega
    rw [hnext, Int.negSucc_eq, signed_neg, signed_neg]
    exact neg_lt_neg hlt

/-- the line with its ends, by places -/
noncomputable def line (place : ℤ) : EReal :=
  if place = rankEnd then ⊤ else if place = -rankEnd then ⊥ else (signed place : ℝ)

theorem line_strictMonoOn : StrictMonoOn line (Set.Icc (-rankEnd) rankEnd) := by
  intro p hp q hq hlt
  rw [Set.mem_Icc] at hp hq
  have hpTop : p ≠ rankEnd := by omega
  have hqBot : q ≠ -rankEnd := by omega
  unfold line
  rw [if_neg hpTop, if_neg hqBot]
  by_cases hqTop : q = rankEnd
  · rw [if_pos hqTop]
    by_cases hpBot : p = -rankEnd
    · rw [if_pos hpBot]
      exact bot_lt_top
    · rw [if_neg hpBot]
      exact EReal.coe_lt_top _
  · rw [if_neg hqTop]
    by_cases hpBot : p = -rankEnd
    · rw [if_pos hpBot]
      exact EReal.bot_lt_coe _
    · rw [if_neg hpBot]
      exact EReal.coe_lt_coe_iff.mpr (signed_strictMono hlt)

theorem value?_eq_map_line (x : Binary64) : x.value? = x.place?.map line := by
  rcases x with _ | negative | ⟨negative, rank⟩
  · rfl
  · cases negative
    · rfl
    · rfl
  · have hrank := rank.isLt
    cases negative
    · have htop : ((rank.val : ℕ) : ℤ) ≠ rankEnd := by omega
      have hbot : ((rank.val : ℕ) : ℤ) ≠ -rankEnd := by omega
      show _ = some (line (rank.val : ℤ))
      rw [line, if_neg htop, if_neg hbot, signed_natCast]
      rfl
    · have htop : -((rank.val : ℕ) : ℤ) ≠ rankEnd := by omega
      have hbot : -((rank.val : ℕ) : ℤ) ≠ -rankEnd := by omega
      show _ = some (line (-(rank.val : ℤ)))
      rw [line, if_neg htop, if_neg hbot, signed_neg, signed_natCast]
      rfl

theorem place?_mem {x : Binary64} {place : ℤ} (h : x.place? = some place) :
    place ∈ Set.Icc (-rankEnd : ℤ) rankEnd := by
  rw [Set.mem_Icc]
  rcases x with _ | negative | ⟨negative, rank⟩
  · cases h
  · cases negative <;> cases h <;> decide
  · have hrank := rank.isLt
    cases negative <;> cases h <;> constructor <;> omega

/-- **Doubles are compared as what they stand for.** -/
theorem lt_iff_value {x y : Binary64} :
    x < y ↔ ∃ a b, x.value? = some a ∧ y.value? = some b ∧ a < b := by
  rw [value?_eq_map_line, value?_eq_map_line]
  show x.blt y = true ↔ _
  unfold blt
  cases hx : x.place? with
  | none => simp
  | some p =>
    cases hy : y.place? with
    | none => simp
    | some q => simp [line_strictMonoOn.lt_iff_lt (place?_mem hx) (place?_mem hy)]

theorem le_iff_value {x y : Binary64} :
    x ≤ y ↔ ∃ a b, x.value? = some a ∧ y.value? = some b ∧ a ≤ b := by
  rw [value?_eq_map_line, value?_eq_map_line]
  show x.ble y = true ↔ _
  unfold ble
  cases hx : x.place? with
  | none => simp
  | some p =>
    cases hy : y.place? with
    | none => simp
    | some q => simp [line_strictMonoOn.le_iff_le (place?_mem hx) (place?_mem hy)]

theorem finite_lt_iff {r s : Fin rankEnd} : finite false r < finite false s ↔ r.val < s.val := by
  show decide ((r.val : ℤ) < s.val) = true ↔ _
  rw [decide_eq_true_iff, Int.ofNat_lt]

theorem isFinite_iff_value {x : Binary64} :
    x.isFinite = true ↔ ∃ r : ℝ, x.value? = some (r : EReal) := by
  rcases x with _ | negative | ⟨negative, rank⟩
  · exact ⟨nofun, fun ⟨_, hr⟩ => nomatch hr⟩
  · refine ⟨nofun, fun ⟨r, hr⟩ => ?_⟩
    cases negative
    · exact absurd (Option.some.inj hr).symm (EReal.coe_ne_top r)
    · exact absurd (Option.some.inj hr).symm (EReal.coe_ne_bot r)
  · cases negative
    · exact iff_of_true rfl ⟨_, rfl⟩
    · exact iff_of_true rfl ⟨_, rfl⟩

theorem value?_zero : zero.value? = some 0 := by
  show some ((magnitude 0 : ℝ) : EReal) = some 0
  rw [magnitude_zero, EReal.coe_zero]

end Jargon.Binary64
