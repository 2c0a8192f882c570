import Mathlib.Data.Set.Card
import Jargon.Injection
import Jargon.Proofs.Random.Draw

/-!
# Every index has the same weight

The words that are accepted for one index are consecutive.  They start with the least factor that
takes the bound to the block of the index, and there are as many of them as the bound may be
multiplied with, by doubling it, before it needs more than 64 digits.  So no index is drawn from
more words than another.

* `leadingZeros`               how often a bound may be doubled;
* `accepts_and_index_eq_iff`   the words of an index are an interval;
* `ncard_accepts_index`        there are `2 ^ leadingZeros n` of them;
* `FirstAccepted`              a source that refuses some words and then has one that is accepted;
* `below_of_firstAccepted`     that word decides, and no other one;
* `choice_uniform`             so entries and slots are drawn from equally many words.
-/

namespace Jargon.Draw

/-! ## the limit -/

/-- zeros in front of a bound that is written with 64 binary digits -/
def leadingZeros (n : Nat) : Nat := 63 - n.log2

section

variable {n : Nat} (hpos : 0 < n) (hlt : n < UInt64.size)
include hpos hlt

/-- doubled that often, a bound has its highest digit set -/
theorem doubled_bounds :
    2 ^ 63 ≤ n * 2 ^ leadingZeros n ∧ n * 2 ^ leadingZeros n < UInt64.size := by
  have hne : n ≠ 0 := Nat.pos_iff_ne_zero.mp hpos
  have hlog : n.log2 < 64 := (Nat.log2_lt hne).mpr hlt
  have hpow : ∀ k, 2 ^ (n.log2 + k) * 2 ^ leadingZeros n = 2 ^ (63 + k) := by
    intro k
    rw [← Nat.pow_add]
    congr 1
    show n.log2 + k + (63 - n.log2) = 63 + k
    omega
  constructor
  · calc 2 ^ 63 = 2 ^ (n.log2 + 0) * 2 ^ leadingZeros n := (hpow 0).symm
      _ ≤ n * 2 ^ leadingZeros n := Nat.mul_le_mul_right _ (Nat.log2_self_le hne)
  · calc n * 2 ^ leadingZeros n < 2 ^ (n.log2 + 1) * 2 ^ leadingZeros n :=
        Nat.mul_lt_mul_of_pos_right Nat.lt_log2_self (Nat.two_pow_pos _)
      _ = UInt64.size := hpow 1

theorem accepts_iff (word : UInt64) :
    accepts n word = true ↔ word.toNat * n % UInt64.size < n * 2 ^ leadingZeros n := by
  have hbounds := doubled_bounds hpos hlt
  have hlimit : limit n = n * 2 ^ leadingZeros n - 1 := by
    rw [limit, Nat.shiftLeft_eq, leadingZeros]
  rw [accepts, decide_eq_true_eq, hlimit]
  omega

/-! ## the words of an index -/

/-- the least factor with which a bound reaches `a` -/
def reach (n a : Nat) : Nat := (a + (n - 1)) / n

omit hlt in
theorem reach_le_iff (a v : Nat) : reach n a ≤ v ↔ a ≤ v * n := by
  rw [reach, Nat.div_le_iff_le_mul_add_pred hpos, Nat.mul_comm n v]
  omega

omit hlt in
theorem reach_add_mul (a k : Nat) : reach n (a + n * k) = reach n a + k := by
  rw [reach, reach, Nat.add_right_comm, Nat.add_mul_div_left _ _ hpos]

omit hpos hlt in
/-- a product in the block of `i`, and in front of the place `m` of that block -/
theorem div_eq_and_mod_lt_iff {m size : Nat} (hm : m ≤ size) (i p : Nat) :
    p % size < m ∧ p / size = i ↔ i * size ≤ p ∧ p < i * size + m := by
  have hsplit := Nat.div_add_mod' p size
  constructor
  · rintro ⟨hmod, rfl⟩
    omega
  · rintro ⟨hle, hend⟩
    have hquot : p / size = i := by
      apply Nat.div_eq_of_lt_le hle
      rw [Nat.succ_mul]
      omega
    rw [hquot] at hsplit
    exact ⟨by omega, hquot⟩

/-- **The words that are accepted for an index are consecutive.** -/
theorem accepts_and_index_eq_iff (i : Nat) (word : UInt64) :
    accepts n word = true ∧ index n word = i ↔
      reach n (i * UInt64.size) ≤ word.toNat ∧
        word.toNat < reach n (i * UInt64.size) + 2 ^ leadingZeros n := by
  have hfits := Nat.le_of_lt (doubled_bounds hpos hlt).2
  rw [accepts_iff hpos hlt, index, div_eq_and_mod_lt_iff hfits, ← reach_le_iff hpos,
    ← reach_add_mul hpos, ← Nat.not_le, ← Nat.not_le (b := word.toNat), reach_le_iff hpos (_ + _)]

/-- they are words of 64 bits -/
theorem reach_add_le {i : Nat} (hi : i < n) :
    reach n (i * UInt64.size) + 2 ^ leadingZeros n ≤ UInt64.size := by
  have hfits := Nat.le_of_lt (doubled_bounds hpos hlt).2
  rw [← reach_add_mul hpos, reach_le_iff hpos]
  calc i * UInt64.size + n * 2 ^ leadingZeros n ≤ i * UInt64.size + UInt64.size :=
        Nat.add_le_add_left hfits _
    _ = (i + 1) * UInt64.size := (Nat.succ_mul i _).symm
    _ ≤ n * UInt64.size := Nat.mul_le_mul_right _ hi
    _ = UInt64.size * n := Nat.mul_comm n _

/-- **All indices have the same weight.** -/
theorem ncard_accepts_index {i : Nat} (hi : i < n) :
    {word : UInt64 | accepts n word = true ∧ index n word = i}.ncard = 2 ^ leadingZeros n := by
  have hend := reach_add_le hpos hlt hi
  have hword : ∀ k, k < 2 ^ leadingZeros n →
      (UInt64.ofNat (reach n (i * UInt64.size) + k)).toNat = reach n (i * UInt64.size) + k :=
    fun k hk => UInt64.toNat_ofNat_of_lt' (by omega)
  apply Set.ncard_eq_of_bijective fun k _ => UInt64.ofNat (reach n (i * UInt64.size) + k)
  · intro word hmem
    obtain ⟨hle, hbefore⟩ := (accepts_and_index_eq_iff hpos hlt i word).mp hmem
    refine ⟨word.toNat - reach n (i * UInt64.size), by omega, ?_⟩
    show UInt64.ofNat (reach n (i * UInt64.size) + (word.toNat - _)) = word
    rw [Nat.add_sub_cancel' hle, UInt64.ofNat_toNat]
  · intro k hk
    show accepts n _ = true ∧ index n _ = i
    rw [accepts_and_index_eq_iff hpos hlt, hword k hk]
    omega
  · intro j k hj hk heq
    have hnat := congrArg UInt64.toNat heq
    rw [hword j hj, hword k hk] at hnat
    exact Nat.add_left_cancel hnat

end

/-! ## the word that decides -/

variable {σ : Type} [WordSource σ]

/-- A source that refuses some words for a bound and then has one that is accepted; the last source
is the one behind that word. -/
inductive FirstAccepted (n : Nat) : (refused : Nat) → σ → UInt64 → σ → Prop
  | now {s s' : σ} {word : UInt64} (h : WordSource.next s = (word, s'))
      (ha : accepts n word = true) : FirstAccepted n 0 s word s'
  | later {s s₁ s' : σ} {other word : UInt64} {refused : Nat}
      (h : WordSource.next s = (other, s₁)) (hr : accepts n other = false)
      (hrest : FirstAccepted n refused s₁ word s') : FirstAccepted n (refused + 1) s word s'

section

variable {n refused : Nat} {s s' : σ} {word : UInt64}

/-- the draw looks at the words one after the other, and takes the first one that is accepted -/
theorem belowWithin_of_firstAccepted (h : FirstAccepted n refused s word s') {patience : Nat}
    (hp : refused ≤ patience) : belowWithin n patience s = (index n word, s') := by
  induction h generalizing patience with
  | now h ha =>
    cases patience with
    | zero => rw [belowWithin, h]
    | succ patience =>
      rw [belowWithin, h]
      exact if_pos ha
  | later h hr _ ih =>
    cases patience with
    | zero => exact absurd hp (Nat.not_succ_le_zero _)
    | succ patience =>
      rw [belowWithin, h]
      show (if accepts n _ = true then _ else _) = _
      rw [if_neg (by rw [hr]; decide)]
      exact ih (Nat.le_of_succ_le_succ hp)

theorem below_of_firstAccepted (h : FirstAccepted n refused s word s') (hpos : 0 < n)
    (hp : refused ≤ patience) : below n s = .ok (index n word, s') := by
  rw [below, if_neg (Nat.pos_iff_ne_zero.mp hpos), belowWithin_of_firstAccepted h hp]

/-- the entry at that index -/
theorem pick_of_firstAccepted {entries : List String}
    (h : FirstAccepted entries.length refused s word s') (hp : refused ≤ patience)
    (hi : index entries.length word < entries.length) :
    pick entries s = .ok (entries[index entries.length word], s') := by
  have hbelow := below_of_firstAccepted h (Nat.zero_lt_of_lt hi) hp
  refine bind_eq_ok.mpr ⟨_, s', hbelow, ?_⟩
  rw [List.getElem?_eq_getElem hi]
  rfl

/-- the slot at that index, for a buzzword that was drawn before -/
theorem planOne_of_firstAccepted (h : FirstAccepted n refused s word s') (hpos : 0 < n)
    (hp : refused ≤ patience) {vocabulary : List String} {buzzword : String} {s₀ : σ}
    (hb : pick vocabulary s₀ = .ok (buzzword, s)) :
    Injection.planOne .scatter vocabulary n s₀ = .ok (⟨buzzword, some (index n word)⟩, s') := by
  have hbelow := below_of_firstAccepted h hpos hp
  refine bind_eq_ok.mpr ⟨buzzword, s, hb, ?_⟩
  rw [if_neg (Nat.pos_iff_ne_zero.mp hpos)]
  exact bind_eq_ok.mpr ⟨_, s', hbelow, rfl⟩

end

/-- **Entries and slots are drawn uniformly.**  Of all words of 64 bits, the same number is accepted
for each index of a list, and the first of them that the source has decides: an entry is the one at
its index, and so is a slot. -/
theorem choice_uniform {n : Nat} (hpos : 0 < n) (hlt : n < 2 ^ 64) :
    (∀ i < n, {word : UInt64 | accepts n word = true ∧ index n word = i}.ncard =
      2 ^ leadingZeros n) ∧
    (∀ word, accepts n word = true → index n word < n) ∧
    ∀ {refused : Nat} {s s' : σ} {word : UInt64}, FirstAccepted n refused s word s' →
      refused ≤ patience →
      (∀ entries : List String, entries.length = n → ∃ hi : index n word < entries.length,
        pick entries s = .ok (entries[index n word], s')) ∧
      ∀ vocabulary buzzword (s₀ : σ), pick vocabulary s₀ = .ok (buzzword, s) →
        Injection.planOne .scatter vocabulary n s₀ =
          .ok (⟨buzzword, some (index n word)⟩, s') := by
  refine ⟨fun i hi => ncard_accepts_index hpos hlt hi, fun word _ => index_lt hpos word, ?_⟩
  intro refused s s' word h hp
  constructor
  · rintro entries rfl
    exact ⟨index_lt hpos word, pick_of_firstAccepted h hp _⟩
  · intro vocabulary buzzword s₀ hb
    exact planOne_of_firstAccepted h hpos hp hb

/-- three entries or slots, and a source whose first word for them is refused -/
theorem choice_uniform_three :
    let entries := ["synergy", "deep dive", "win-win"]
    let s₀ : Stepper := ⟨0, 0x4000000000000000⟩
    let s : Stepper := ⟨0x4000000000000000, 0x4000000000000000⟩
    let s' : Stepper := ⟨0xC000000000000000, 0x4000000000000000⟩
    (0 < 3 ∧ 3 < 2 ^ 64 ∧ FirstAccepted 3 1 s 0x8000000000000000 s' ∧ 1 ≤ patience ∧
      pick ["synergy"] s₀ = .ok ("synergy", s)) ∧
    {word : UInt64 | accepts 3 word = true ∧ index 3 word = 2}.ncard = 2 ^ 62 ∧
    pick entries s = .ok ("deep dive", s') ∧
    Injection.planOne .scatter ["synergy"] 3 s₀ = .ok (⟨"synergy", some 1⟩, s') := by
  intro entries s₀ s s'
  have hrefused : WordSource.next s =
      (0x4000000000000000, ⟨0x8000000000000000, 0x4000000000000000⟩) := by decide +kernel
  have hnext : WordSource.next (⟨0x8000000000000000, 0x4000000000000000⟩ : Stepper) =
      (0x8000000000000000, s') := by decide +kernel
  have hword : FirstAccepted 3 1 s 0x8000000000000000 s' :=
    .later hrefused (by decide) (.now hnext (by decide))
  have hpos : 0 < 3 := by decide
  have hlt : 3 < 2 ^ 64 := by decide
  have hpatience : 1 ≤ patience := Nat.le_of_ble_eq_true rfl
  have honly : FirstAccepted ["synergy"].length 0 s₀ 0 s := .now (by decide +kernel) (by decide)
  have hb : pick ["synergy"] s₀ = .ok ("synergy", s) :=
    pick_of_firstAccepted honly (Nat.zero_le _) (by decide)
  obtain ⟨hweight, -, hdecides⟩ := choice_uniform (σ := Stepper) hpos hlt
  obtain ⟨hentry, hslot⟩ := hdecides hword hpatience
  obtain ⟨_, hpick⟩ := hentry entries rfl
  exact ⟨⟨hpos, hlt, hword, hpatience, hb⟩, hweight 2 (by decide), hpick,
    hslot ["synergy"] "synergy" s₀ hb⟩

end Jargon.Draw
