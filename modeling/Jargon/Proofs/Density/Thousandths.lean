import Jargon.Density
import Jargon.Proofs.Binary64.Accuracy
import Jargon.Proofs.Text.Packing

/-!
# The synergy level against exact thousandths

The level is the floor of a product that was rounded twice, once as a quotient and once as a
product.  Each rounding moves it by at most one part in `2^53`.

* `exists_product`       the two roundings;
* `level_bounds`         so the level is a floor of the exact thousandths, moved by two parts;
* `level_of_not_dvd`     between two whole numbers it is not moved at all;
* `level_of_dvd`         a whole number may be missed, by one;
* `Floored`, `synergyLevel_floored`   all together.
-/

namespace Jargon.Report

open Binary64 (ofNat unitsOfRank roundRank rankEnd oneUnits unitsFrom Near)

/-! ## two roundings -/

theorem le_oneUnits : 2 ^ 106 ≤ oneUnits := by
  rw [Binary64.oneUnits_eq]
  exact pow_le_pow_right₀ (by decide) (by decide)

section

variable {h w : ℕ}

/-- the quotient of the counts, rounded -/
theorem exists_quotient (hh : h < 2 ^ 53) (hw : w < 2 ^ 53) (hpos : 0 < w) :
    ∃ q : Fin rankEnd, ofNat h / ofNat w = .finite false q ∧
      Near (unitsOfRank q) (h * oneUnits) w := by
  rw [Binary64.ofNat_div hh hw hpos]
  refine Binary64.ratio_near false hpos (fun hne => ?_) (by omega)
  have hle := le_oneUnits
  calc 2 ^ 52 * w ≤ 2 ^ 106 := by omega
    _ ≤ 1 * oneUnits := by omega
    _ ≤ h * oneUnits := Nat.mul_le_mul_right _ (Nat.one_le_iff_ne_zero.mpr hne)

/-- the quotient is not too large for the product -/
theorem quotient_lt {q : ℕ} (hh : h < 2 ^ 53) (hpos : 0 < w) (hnear : Near q (h * oneUnits) w) :
    q < 2 ^ 54 * oneUnits := by
  have hunits := hnear.units_le
  have hq : q * 1 ≤ q * w := Nat.mul_le_mul_left _ hpos
  have hh' : h * oneUnits < 2 ^ 53 * oneUnits :=
    Nat.mul_lt_mul_of_pos_right hh Binary64.oneUnits_pos
  omega

/-- nor too small -/
theorem le_quotient {q : ℕ} (hw : w < 2 ^ 53) (hnear : Near q (h * oneUnits) w) (hne : q * w ≠ 0) :
    2 ^ 52 ≤ q := by
  have hone := le_oneUnits
  have hupper := hnear.units_le
  have hlower := hnear.le_units
  have hh : h ≠ 0 := by
    rintro rfl
    omega
  have hh' : oneUnits ≤ h * oneUnits := Nat.le_mul_of_pos_left _ (Nat.pos_of_ne_zero hh)
  by_contra hlt
  have hsmall : q * w < 2 ^ 52 * 2 ^ 53 := Nat.mul_lt_mul'' (Nat.not_le.mp hlt) hw
  omega

/-- a thousand times the quotient, rounded again -/
theorem exists_product (hh : h < 2 ^ 53) (hw : w < 2 ^ 53) (hpos : 0 < w) :
    ∃ q p : Fin rankEnd, ofNat h / ofNat w * Density.thousand = .finite false p ∧
      Near (unitsOfRank q) (h * oneUnits) w ∧ Near (unitsOfRank p) (unitsOfRank q * 1000) 1 := by
  obtain ⟨q, hq, hnear⟩ := exists_quotient hh hw hpos
  have hlarge := quotient_lt hh hpos hnear
  have hsmall (hne : unitsOfRank q * 1000 ≠ 0) :
      2 ^ 52 * oneUnits ≤ unitsOfRank q * 1000 * oneUnits := by
    have hq0 := Nat.ne_zero_of_mul_ne_zero_left hne
    have hunits := le_quotient hw hnear (Nat.mul_ne_zero hq0 hpos.ne')
    exact Nat.mul_le_mul_right _ (by omega)
  obtain ⟨p, hp, hproduct⟩ := Binary64.ratio_near false Binary64.oneUnits_pos hsmall (by omega)
  refine ⟨q, p, ?_, hnear, ?_⟩
  · rw [hq, Density.thousand, Binary64.finite_mul_ofNat q (by omega), hp]
  · exact Near.of_mul_right Binary64.oneUnits_pos (by rwa [Nat.one_mul])

/-! ## the floor -/

theorem exists_level (hh : h < 2 ^ 53) (hw : w < 2 ^ 53) (hpos : 0 < w) (coefficient : Binary64) :
    ∃ q p : Fin rankEnd, ofNat h / ofNat w * Density.thousand = .finite false p ∧
      Near (unitsOfRank q) (h * oneUnits) w ∧ Near (unitsOfRank p) (unitsOfRank q * 1000) 1 ∧
      (ofCounts w h coefficient).synergyLevel.toNat = unitsOfRank p / oneUnits := by
  obtain ⟨q, p, hp, hquotient, hproduct⟩ := exists_product hh hw hpos
  have hlarge := quotient_lt hh hpos hquotient
  have hunits := hproduct.le
  refine ⟨q, p, hp, hquotient, hproduct, ?_⟩
  show (ofNat h / ofNat w * Density.thousand).floorUInt64.toNat = _
  rw [hp, Binary64.toNat_floorUInt64]
  omega

/-- two roundings, one after the other, move a magnitude by two parts at most -/
theorem near_near {q p one : ℕ} (hq : Near q (h * one) w) (hp : Near p (q * 1000) 1) :
    p * w * 2 ^ 106 ≤ 1000 * h * (2 ^ 53 + 1) ^ 2 * one ∧
      1000 * h * (2 ^ 53 - 1) ^ 2 * one ≤ p * w * 2 ^ 106 := by
  constructor
  · calc p * w * 2 ^ 106 = p * 1 * 2 ^ 53 * (w * 2 ^ 53) := by ring
      _ ≤ (q * 1000 * 2 ^ 53 + q * 1000) * (w * 2 ^ 53) := Nat.mul_le_mul_right _ hp.le
      _ = q * w * 2 ^ 53 * (1000 * (2 ^ 53 + 1)) := by ring
      _ ≤ (h * one * 2 ^ 53 + h * one) * (1000 * (2 ^ 53 + 1)) := Nat.mul_le_mul_right _ hq.le
      _ = 1000 * h * (2 ^ 53 + 1) ^ 2 * one := by ring
  · calc 1000 * h * (2 ^ 53 - 1) ^ 2 * one
        = h * one * (2 ^ 53 - 1) * (1000 * (2 ^ 53 - 1)) := by ring
      _ ≤ q * w * 2 ^ 53 * (1000 * (2 ^ 53 - 1)) := Nat.mul_le_mul_right _ hq.mul_pred_le
      _ = q * 1000 * (2 ^ 53 - 1) * (w * 2 ^ 53) := by ring
      _ ≤ p * 1 * 2 ^ 53 * (w * 2 ^ 53) := Nat.mul_le_mul_right _ hp.mul_pred_le
      _ = p * w * 2 ^ 106 := by ring

/-- **The level is a floor of the exact thousandths, moved by at most two parts in `2 ^ 53`.** -/
theorem level_bounds (hh : h < 2 ^ 53) (hw : w < 2 ^ 53) (hpos : 0 < w) (coefficient : Binary64) :
    (ofCounts w h coefficient).synergyLevel.toNat * (w * 2 ^ 106) ≤ 1000 * h * (2 ^ 53 + 1) ^ 2 ∧
      1000 * h * (2 ^ 53 - 1) ^ 2 <
        ((ofCounts w h coefficient).synergyLevel.toNat + 1) * (w * 2 ^ 106) := by
  obtain ⟨q, p, -, hquotient, hproduct, hlevel⟩ := exists_level hh hw hpos coefficient
  obtain ⟨hupper, hlower⟩ := near_near hquotient hproduct
  have hone := Binary64.oneUnits_pos
  have hfloor := Nat.div_mul_le_self (unitsOfRank p) oneUnits
  have hnext := Nat.lt_div_mul_add (a := unitsOfRank p) hone
  rw [hlevel]
  generalize unitsOfRank p / oneUnits = level at hfloor hnext ⊢
  constructor
  · refine Nat.le_of_mul_le_mul_right ?_ hone
    calc level * (w * 2 ^ 106) * oneUnits = level * oneUnits * (w * 2 ^ 106) := by ring
      _ ≤ unitsOfRank p * (w * 2 ^ 106) := Nat.mul_le_mul_right _ hfloor
      _ = unitsOfRank p * w * 2 ^ 106 := (Nat.mul_assoc _ _ _).symm
      _ ≤ _ := hupper
  · refine Nat.lt_of_mul_lt_mul_right (a := oneUnits) ?_
    calc 1000 * h * (2 ^ 53 - 1) ^ 2 * oneUnits ≤ unitsOfRank p * w * 2 ^ 106 := hlower
      _ = unitsOfRank p * (w * 2 ^ 106) := Nat.mul_assoc _ _ _
      _ < (level * oneUnits + oneUnits) * (w * 2 ^ 106) :=
          Nat.mul_lt_mul_of_pos_right hnext (by positivity)
      _ = (level + 1) * (w * 2 ^ 106) * oneUnits := by ring

/-! ## whole numbers -/

/-- so little is moved that no whole number is passed, but one may no longer be reached -/
theorem level_between (hX : 1000 * h < 2 ^ 52) (hw : w < 2 ^ 53) (hpos : 0 < w)
    (coefficient : Binary64) :
    (ofCounts w h coefficient).synergyLevel.toNat * w ≤ 1000 * h ∧
      1000 * h ≤ ((ofCounts w h coefficient).synergyLevel.toNat + 1) * w := by
  have hh : h < 2 ^ 53 := by omega
  obtain ⟨hupper, hlower⟩ := level_bounds hh hw hpos coefficient
  rw [← Nat.mul_assoc] at hupper hlower
  norm_num at hupper hlower
  constructor <;> omega

theorem level_of_not_dvd (hX : 1000 * h < 2 ^ 52) (hw : w < 2 ^ 53) (hpos : 0 < w)
    (coefficient : Binary64) (hdvd : ¬ w ∣ 1000 * h) :
    (ofCounts w h coefficient).synergyLevel.toNat = 1000 * h / w := by
  obtain ⟨hle, hge⟩ := level_between hX hw hpos coefficient
  have hne : 1000 * h ≠ ((ofCounts w h coefficient).synergyLevel.toNat + 1) * w :=
    fun heq => hdvd ⟨_, heq.trans (Nat.mul_comm _ _)⟩
  exact (Nat.div_eq_of_lt_le hle (lt_of_le_of_ne hge hne)).symm

/-- the doubles cannot tell a thousandth of this whole number from a smaller one -/
def FallsShort (n : ℕ) : Prop := ofNat n / Density.thousand * Density.thousand < ofNat n

instance (n : ℕ) : Decidable (FallsShort n) := inferInstanceAs (Decidable (_ < _))

/-- the quotient of the counts is that of the whole number and a thousand -/
theorem level_of_dvd {n : ℕ} (hX : 1000 * h < 2 ^ 52) (hw : w < 2 ^ 53) (hpos : 0 < w)
    (coefficient : Binary64) (hn : 1000 * h = n * w) :
    (ofCounts w h coefficient).synergyLevel.toNat = if FallsShort n then n - 1 else n := by
  have hh : h < 2 ^ 53 := by omega
  have hn' : n < 2 ^ 53 := by
    have hle : n ≤ n * w := Nat.le_mul_of_pos_right n hpos
    omega
  obtain ⟨q, p, hp, -, -, hlevel⟩ := exists_level hh hw hpos coefficient
  have hsame : ofNat h / ofNat w = ofNat n / ofNat 1000 := by
    rw [Binary64.ofNat_div hh hw hpos, Binary64.ofNat_div hn' (by decide) (by decide),
      ← Binary64.ratio_mul_left false (k := 1000) (by decide) h w,
      ← Binary64.ratio_mul_left false hpos n 1000, hn, Nat.mul_comm n, Nat.mul_comm 1000]
  have hfalls : FallsShort n ↔ (ofCounts w h coefficient).synergyLevel.toNat < n := by
    rw [FallsShort, Density.thousand, ← hsame, ← Density.thousand, hp,
      Binary64.finite_lt_ofNat_iff hn', hlevel, Nat.div_lt_iff_lt_mul Binary64.oneUnits_pos]
  obtain ⟨hupper, hlower⟩ := level_between hX hw hpos coefficient
  rw [hn] at hupper hlower
  have hlevelLe := Nat.le_of_mul_le_mul_right hupper hpos
  have hlevelGe := Nat.le_of_mul_le_mul_right hlower hpos
  by_cases hf : FallsShort n
  · rw [if_pos hf]
    have hlt := hfalls.mp hf
    omega
  · rw [if_neg hf]
    have hge := Nat.not_lt.mp (hfalls.not.mp hf)
    omega

end

/-! ## densities up to one -/

/-- a thousandth of a whole number times a thousand, both rounded, in units -/
def regained (n : ℕ) : ℕ :=
  unitsOfRank (roundRank
    (2 * (unitsOfRank (roundRank (n <<< 1075 / 1000) (n <<< 1075 % 1000 != 0)) * 1000)) false)

theorem fallsShort_iff {n : ℕ} (hn : n < 2 ^ 53) : FallsShort n ↔ regained n < n * oneUnits := by
  have hw : 1000 < 2 ^ 53 := by decide
  obtain ⟨q, hq, -⟩ := exists_quotient hn hw (by decide)
  obtain ⟨-, p, hp, -⟩ := exists_product hn hw (by decide)
  rw [Density.thousand] at hp
  have hfalls : FallsShort n ↔ unitsOfRank p < n * oneUnits := by
    rw [FallsShort, Density.thousand, hp, Binary64.finite_lt_ofNat_iff hn]
  rw [hq, Binary64.finite_mul_ofNat q hw] at hp
  rw [Binary64.ofNat_div hn hw (by decide)] at hq
  rw [hfalls, regained, Binary64.rank_of_ratio_one hp, Binary64.rank_of_ratio hq]

/-- whether a whole number is regained, by fewer steps -/
def Regains (n : ℕ) : Bool :=
  let quotient := n <<< 1075
  let product := 2 * (unitsFrom 1060 (quotient / 1000) (quotient % 1000 != 0) * 1000)
  (quotient / 1000) >>> 1060 != 0 && product >>> 1060 != 0 &&
    n * oneUnits ≤ unitsFrom 1060 product false

theorem not_fallsShort_of_regains {n : ℕ} (hn : n < 2 ^ 53) (h : Regains n = true) :
    ¬ FallsShort n := by
  simp only [Regains, Bool.and_eq_true, bne_iff_ne, decide_eq_true_eq] at h
  obtain ⟨⟨hquotient, hproduct⟩, hle⟩ := h
  rw [Binary64.unitsFrom_eq (by omega) hproduct, Binary64.unitsFrom_eq (by omega) hquotient] at hle
  rw [fallsShort_iff hn]
  exact Nat.not_lt.mpr hle

theorem not_fallsShort_of_le {n : ℕ} (h : n ≤ 1000) : ¬ FallsShort n := by
  have hall : ∀ n ∈ List.range 1001, n = 0 ∨ Regains n = true := by decide +kernel
  rcases hall n (List.mem_range.mpr (by omega)) with rfl | hn
  · decide +kernel
  · exact not_fallsShort_of_regains (by omega) hn

/-! ## the level of a text -/

/-- the level of a report by its own counts, in whole numbers -/
structure Floored (r : Report) : Prop where
  /-- up to a density of one the floor is exact -/
  exact_of_le : 1000 * r.hits < 2 ^ 52 → r.hits ≤ r.wordCount →
    r.synergyLevel.toNat = 1000 * r.hits / r.wordCount
  /-- above it, too, unless a whole number of thousandths falls short -/
  exact_of_not : 1000 * r.hits < 2 ^ 52 →
    ¬ (r.wordCount ∣ 1000 * r.hits ∧ FallsShort (1000 * r.hits / r.wordCount)) →
    r.synergyLevel.toNat = 1000 * r.hits / r.wordCount
  /-- and then it is missed by one -/
  short : 1000 * r.hits < 2 ^ 52 → r.wordCount ∣ 1000 * r.hits →
    FallsShort (1000 * r.hits / r.wordCount) →
    r.synergyLevel.toNat + 1 = 1000 * r.hits / r.wordCount
  /-- whatever the counts are, the floor is that of a density moved by two parts in `2 ^ 53` -/
  bounds : 1000 * r.hits * (2 ^ 53 - 1) ^ 2 / (r.wordCount * 2 ^ 106) ≤ r.synergyLevel.toNat ∧
    r.synergyLevel.toNat ≤ 1000 * r.hits * (2 ^ 53 + 1) ^ 2 / (r.wordCount * 2 ^ 106)

theorem floored_ofCounts {h w : ℕ} (hh : h < 2 ^ 53) (hw : w < 2 ^ 53) (hpos : 0 < w)
    (coefficient : Binary64) : Floored (ofCounts w h coefficient) := by
  have hexact (hX : 1000 * h < 2 ^ 52) (hnot : ¬ (w ∣ 1000 * h ∧ FallsShort (1000 * h / w))) :
      (ofCounts w h coefficient).synergyLevel.toNat = 1000 * h / w := by
    by_cases hdvd : w ∣ 1000 * h
    · have hn := (Nat.div_mul_cancel hdvd).symm
      rw [level_of_dvd hX hw hpos coefficient hn, if_neg fun hf => hnot ⟨hdvd, hf⟩]
    · exact level_of_not_dvd hX hw hpos coefficient hdvd
  have hshort (hX : 1000 * h < 2 ^ 52) (hdvd : w ∣ 1000 * h) (hf : FallsShort (1000 * h / w)) :
      (ofCounts w h coefficient).synergyLevel.toNat + 1 = 1000 * h / w := by
    have hn := (Nat.div_mul_cancel hdvd).symm
    have hge : 1000 < 1000 * h / w := Nat.not_le.mp fun hle => not_fallsShort_of_le hle hf
    rw [level_of_dvd hX hw hpos coefficient hn, if_pos hf]
    omega
  obtain ⟨hupper, hlower⟩ := level_bounds hh hw hpos coefficient
  have hpos' : 0 < w * 2 ^ 106 := by positivity
  have hlower' := Nat.le_of_lt_succ ((Nat.div_lt_iff_lt_mul hpos').mpr hlower)
  have hupper' := (Nat.le_div_iff_mul_le hpos').mpr hupper
  refine ⟨fun hX hle => hexact hX fun hnot => ?_, hexact, hshort, hlower', hupper'⟩
  have hn : 1000 * h / w ≤ 1000 := Nat.div_le_of_le_mul (by
    rw [Nat.mul_comm]
    exact Nat.mul_le_mul_right 1000 hle)
  exact not_fallsShort_of_le hn hnot.2

/-- **The synergy level of a text is the floor of its exact thousandths**, but for whole numbers
above a thousand that the doubles fall short of, and but for counts that are too large. -/
theorem synergyLevel_floored (text : String) (entries : List String) (coefficient : Binary64)
    (hhits : Text.hits text entries < 2 ^ 53) (hwords : Text.wordCount text < 2 ^ 53) :
    Floored (ofText text entries coefficient) :=
  floored_ofCounts hhits hwords (Nat.succ_pos _) coefficient

/-- five hits in four words are a whole number of thousandths that does not fall short -/
theorem synergyLevel_floored_fiveInFour :
    Text.hits "win-win win win win" ["win"] < 2 ^ 53 ∧
      Text.wordCount "win-win win win win" < 2 ^ 53 ∧
      (ofText "win-win win win win" ["win"] (ofNat 1)).synergyLevel.toNat = 1250 := by
  have hhits : Text.hits "win-win win win win" ["win"] = 5 := by decide +kernel
  have hwords : Text.wordCount "win-win win win win" = 4 := by decide +kernel
  have hfewHits : Text.hits "win-win win win win" ["win"] < 2 ^ 53 := by omega
  have hfewWords : Text.wordCount "win-win win win win" < 2 ^ 53 := by omega
  have hexact := (synergyLevel_floored _ _ (ofNat 1) hfewHits hfewWords).exact_of_not
  rw [ofText_hits, ofText_wordCount, hhits, hwords] at hexact
  exact ⟨hfewHits, hfewWords, hexact (by decide) (by decide +kernel)⟩

/-! ### whole numbers that are missed -/

/-- two hundred words, of which the first is a hit twice -/
def winners : List Char :=
  ['w', 'i', 'n', '-', 'w', 'i', 'n'] ++ (List.replicate 199 [' ', 'w', 'i', 'n']).flatten

theorem wordCount_winners : Text.wordCount (String.ofList winners) = 200 := by
  rw [Text.wordCount, String.toList_ofList]
  decide +kernel

theorem hits_winners : Text.hits (String.ofList winners) ["win"] = 201 := by
  rw [Text.hits_eq_hitsIn, String.toList_ofList, Text.hitsIn_cons]
  decide +kernel

theorem hits_replicate (text entry : String) (n : ℕ) :
    Text.hits text (List.replicate n entry) = n * Text.countOccurrences text entry := by
  induction n with
  | zero => simp
  | succ n ih => simp [List.replicate_succ, ih, Nat.succ_mul, Nat.add_comm]

/-- a list that names one entry so often that the doubles cannot hold a thousand times its length -/
def manyEntries : List String := List.replicate (2 ^ 53 - 1) "a"

theorem hits_manyEntries : Text.hits "a" manyEntries = 2 ^ 53 - 1 := by
  have hone : Text.countOccurrences "a" "a" = 1 := by decide +kernel
  rw [manyEntries, hits_replicate, hone, Nat.mul_one]

/-- one thousandth is missed in two hundred words, and more where the hits are too many -/
theorem synergyLevel_misses :
    (Text.hits (String.ofList winners) ["win"] = 201 ∧
      Text.wordCount (String.ofList winners) = 200 ∧
      (ofText (String.ofList winners) ["win"] (ofNat 1)).synergyLevel.toNat = 1004 ∧
      1000 * 201 / 200 = 1005) ∧
    Text.hits "a" manyEntries = 2 ^ 53 - 1 ∧ Text.wordCount "a" = 1 ∧
      (ofText "a" manyEntries (ofNat 1)).synergyLevel.toNat ≠ 1000 * (2 ^ 53 - 1) / 1 := by
  have hwords : Text.wordCount "a" = 1 := by decide +kernel
  refine ⟨⟨hits_winners, wordCount_winners, ?_, by decide⟩, hits_manyEntries, hwords, ?_⟩
  · rw [ofText, hits_winners, wordCount_winners]
    decide +kernel
  · rw [ofText, hits_manyEntries, hwords]
    decide +kernel

end Jargon.Report
