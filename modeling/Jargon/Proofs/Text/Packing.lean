import Jargon.Text.Occurrences

/-!
# Occurrences that do not overlap

A packing is a choice of occurrences of a needle of which no two overlap.  The count from the left
is the size of a packing, and of a largest one; so it is by packings that counts of a text are
compared with counts of its parts.

* `scanCount_maximum`    no packing has more occurrences than the count from the left;
* `Packing.split`        where a text is cut in two, at most one occurrence is cut, too;
* `le_scanCount_append`, `scanCount_append_le`, `scanCount_append_of_not_straddles`
                         the count of a text and the counts of its two parts;
* `hitsIn_append_le`     the same for a list of entries of which only one can be cut.
-/

namespace Jargon.Text

/-! ## packings -/

/-- `n` occurrences of the needle, of which no two overlap -/
inductive Packing (needle : List Char) : List Char → Nat → Prop
  | zero (text : List Char) : Packing needle text 0
  | more (before : List Char) {rest : List Char} {n : Nat} (h : Packing needle rest n) :
      Packing needle (before ++ (needle ++ rest)) (n + 1)

namespace Packing

variable {needle text a b : List Char} {m n : Nat}

theorem prepend (h : Packing needle text n) (before : List Char) :
    Packing needle (before ++ text) n := by
  cases h with
  | zero => exact zero _
  | more inner h =>
    rw [← List.append_assoc]
    exact more (before ++ inner) h

theorem one (needle before : List Char) : Packing needle (before ++ needle) 1 := by
  have hzero : Packing needle [] 0 := zero []
  have hone := hzero.more before
  rwa [List.append_nil] at hone

theorem append (ha : Packing needle a m) (hb : Packing needle b n) :
    Packing needle (a ++ b) (m + n) := by
  induction ha with
  | zero a =>
    rw [Nat.zero_add]
    exact hb.prepend a
  | more before _ ih =>
    rw [Nat.succ_add, List.append_assoc, List.append_assoc]
    exact more before ih

/-- what is dropped is too short to hold more than the first occurrence -/
theorem drop (h : Packing needle text (n + 1)) {k : Nat} (hk : k ≤ needle.length) :
    Packing needle (text.drop k) n := by
  cases h with
  | more before h =>
    have hle : k ≤ (before ++ needle).length := by
      rw [List.length_append]
      omega
    rw [← List.append_assoc, List.drop_append_of_le_length hle]
    exact h.prepend _

/-- where no occurrence starts, a character can be left out -/
theorem tail {c : Char} (h : Packing needle (c :: text) n) (hn : ¬ needle <+: c :: text) :
    Packing needle text n := by
  generalize hs : c :: text = whole at h hn
  cases h with
  | zero => exact zero _
  | more before h =>
    cases before with
    | nil => exact absurd (List.prefix_append _ _) hn
    | cons d before =>
      obtain ⟨-, rfl⟩ := List.cons.inj hs
      exact more before h

theorem eq_zero (h : Packing needle [] n) (hne : needle ≠ []) : n = 0 := by
  generalize hs : ([] : List Char) = whole at h
  cases h with
  | zero => rfl
  | more before h =>
    have hnil := List.append_eq_nil_iff.mp (List.append_eq_nil_iff.mp hs.symm).2
    exact absurd hnil.1 hne

end Packing

/-! ## the count from the left -/

/-- `countOccurrences` of characters -/
def scanCount (needle text : List Char) : Nat :=
  if needle = [] then 0 else countFrom needle 0 0 text

theorem countOccurrences_eq (text needle : String) :
    countOccurrences text needle = scanCount needle.toList text.toList := by
  unfold countOccurrences scanCount
  by_cases h : needle = ""
  · rw [h]
    rfl
  · rw [if_neg (by simpa using h), if_neg (by simpa using h)]

theorem scanCount_eq {needle : List Char} (hne : needle ≠ []) (text : List Char) :
    scanCount needle text = countFrom needle 0 0 text := if_neg hne

theorem countFrom_hit {needle rest : List Char} {c : Char} (h : needle <+: c :: rest) :
    countFrom needle 0 0 (c :: rest) = countFrom needle 0 (needle.length - 1) rest + 1 := by
  rw [countFrom, if_pos (List.isPrefixOf_iff_prefix.mpr h), countFrom_eq_add, Nat.add_comm]

theorem countFrom_miss {needle rest : List Char} {c : Char} (h : ¬ needle <+: c :: rest) :
    countFrom needle 0 0 (c :: rest) = countFrom needle 0 0 rest := by
  rw [countFrom, if_neg fun hp => h (List.isPrefixOf_iff_prefix.mp hp)]

/-- behind the characters that are covered, the count takes every occurrence it can -/
theorem packing_countFrom {needle : List Char} (hne : needle ≠ []) (text : List Char)
    (covered : Nat) : Packing needle (text.drop covered) (countFrom needle 0 covered text) := by
  induction text generalizing covered with
  | nil =>
    cases covered <;> exact .zero _
  | cons c rest ih =>
    cases covered with
    | succ covered => exact ih covered
    | zero =>
      by_cases hp : needle <+: c :: rest
      · rw [countFrom_hit hp]
        obtain ⟨after, hafter⟩ := hp
        have hrest : rest.drop (needle.length - 1) = after := by
          obtain ⟨d, needle, rfl⟩ := List.exists_cons_of_ne_nil hne
          obtain ⟨-, rfl⟩ := List.cons.inj hafter
          exact List.drop_left
        have hmore := ih (needle.length - 1)
        rw [hrest] at hmore
        rw [List.drop_zero, ← hafter]
        exact hmore.more []
      · rw [countFrom_miss hp]
        exact (ih 0).prepend [c]

/-- taking an occurrence as early as possible leaves room for all the others but one -/
theorem packing_le_countFrom {needle : List Char} (hne : needle ≠ []) (text : List Char)
    (covered n : Nat) (h : Packing needle (text.drop covered) n) :
    n ≤ countFrom needle 0 covered text := by
  induction text generalizing covered n with
  | nil =>
    rw [List.drop_nil] at h
    rw [h.eq_zero hne]
    exact Nat.zero_le _
  | cons c rest ih =>
    cases covered with
    | succ covered => exact ih covered n h
    | zero =>
      by_cases hp : needle <+: c :: rest
      · rw [countFrom_hit hp]
        cases n with
        | zero => exact Nat.zero_le _
        | succ n =>
          have hpos : needle.length = needle.length - 1 + 1 :=
            (Nat.sub_add_cancel (List.length_pos_iff.mpr hne)).symm
          have hdrop := h.drop (Nat.le_refl needle.length)
          rw [List.drop_zero, hpos, List.drop_succ_cons] at hdrop
          exact Nat.succ_le_succ (ih _ n hdrop)
      · rw [countFrom_miss hp]
        exact ih 0 n (h.tail hp)

/-- **The count from the left is the size of a largest packing.** -/
theorem scanCount_maximum {needle : List Char} (hne : needle ≠ []) (text : List Char) :
    Packing needle text (scanCount needle text) ∧
      ∀ n, Packing needle text n → n ≤ scanCount needle text := by
  rw [scanCount_eq hne]
  exact ⟨packing_countFrom hne text 0, packing_le_countFrom hne text 0⟩

/-! ## cuts -/

/-- whether an occurrence could lie on both sides of the cut between `a` and `b` -/
def Straddles (needle a b : List Char) : Prop :=
  ∃ u v, needle = u ++ v ∧ u ≠ [] ∧ v ≠ [] ∧ u <:+ a ∧ v <+: b

theorem Straddles.prepend {needle a b : List Char} (h : Straddles needle a b)
    (before : List Char) : Straddles needle (before ++ a) b := by
  obtain ⟨u, v, hn, hu, hv, hua, hvb⟩ := h
  exact ⟨u, v, hn, hu, hv, hua.trans (List.suffix_append _ _), hvb⟩

/-- at most the one occurrence that is cut belongs to neither part -/
theorem Packing.split {needle text : List Char} {n : Nat} (h : Packing needle text n) :
    ∀ {a b : List Char}, text = a ++ b → ∃ i j, Packing needle a i ∧ Packing needle b j ∧
      (n ≤ i + j ∨ (n ≤ i + j + 1 ∧ Straddles needle a b)) := by
  induction h with
  | zero text =>
    intro a b _
    exact ⟨0, 0, .zero a, .zero b, .inl (Nat.le_refl 0)⟩
  | @more before rest n hrest ih =>
    intro a b hab
    rcases List.append_eq_append_iff.mp hab with ⟨extra, ha, hextra⟩ | ⟨extra, -, hb⟩
    · rcases List.append_eq_append_iff.mp hextra with ⟨inner, hin, hr⟩ | ⟨v, hv, hb⟩
      -- the first occurrence lies in `a`, and so the others decide
      · obtain ⟨i, j, hi, hj, hn⟩ := ih hr
        subst ha hin
        refine ⟨i + 1, j, hi.more before, hj, ?_⟩
        rcases hn with hn | ⟨hn, hs⟩
        · exact .inl (by omega)
        · exact .inr ⟨by omega, (hs.prepend needle).prepend before⟩
      -- it ends in `b`, where the others lie
      · subst ha hb
        by_cases hu : extra = []
        · subst hu hv
          exact ⟨0, n + 1, .zero _, hrest.more [], .inl (by omega)⟩
        · by_cases hve : v = []
          · subst hve
            rw [List.append_nil] at hv
            subst hv
            exact ⟨1, n, .one needle before, hrest, .inl (by omega)⟩
          · exact ⟨0, n, .zero _, hrest.prepend v, .inr ⟨by omega, extra, v, hv, hu, hve,
              List.suffix_append _ _, List.prefix_append _ _⟩⟩
    · subst hb
      exact ⟨0, n + 1, .zero a, hrest.more extra, .inl (by omega)⟩

/-- **Putting texts together loses no occurrence.** -/
theorem le_scanCount_append (needle a b : List Char) :
    scanCount needle a + scanCount needle b ≤ scanCount needle (a ++ b) := by
  by_cases hne : needle = []
  · rw [hne]
    exact Nat.le_refl 0
  · exact (scanCount_maximum hne (a ++ b)).2 _
      ((scanCount_maximum hne a).1.append (scanCount_maximum hne b).1)

theorem scanCount_append_cases (needle a b : List Char) :
    scanCount needle (a ++ b) ≤ scanCount needle a + scanCount needle b ∨
      (scanCount needle (a ++ b) ≤ scanCount needle a + scanCount needle b + 1 ∧
        Straddles needle a b) := by
  by_cases hne : needle = []
  · rw [hne]
    exact .inl (Nat.le_refl 0)
  · obtain ⟨i, j, hi, hj, hn⟩ := (scanCount_maximum hne (a ++ b)).1.split rfl
    have hia := (scanCount_maximum hne a).2 i hi
    have hjb := (scanCount_maximum hne b).2 j hj
    rcases hn with hn | ⟨hn, hs⟩
    · exact .inl (by omega)
    · exact .inr ⟨by omega, hs⟩

/-- **A cut loses at most one occurrence.** -/
theorem scanCount_append_le (needle a b : List Char) :
    scanCount needle (a ++ b) ≤ scanCount needle a + scanCount needle b + 1 := by
  rcases scanCount_append_cases needle a b with h | ⟨h, -⟩
  · exact Nat.le_succ_of_le h
  · exact h

theorem scanCount_append_of_not_straddles {needle a b : List Char}
    (h : ¬ Straddles needle a b) :
    scanCount needle (a ++ b) = scanCount needle a + scanCount needle b := by
  apply Nat.le_antisymm _ (le_scanCount_append needle a b)
  rcases scanCount_append_cases needle a b with hle | ⟨-, hs⟩
  · exact hle
  · exact absurd hs h

theorem scanCount_self_pos {needle : List Char} (hne : needle ≠ []) :
    0 < scanCount needle needle :=
  (scanCount_maximum hne needle).2 1 (.one needle [])

/-! ## lists of entries -/

/-- `hits` of characters -/
def hitsIn (entries : List String) (text : List Char) : Nat := hits (String.ofList text) entries

theorem hits_eq_hitsIn (text : String) (entries : List String) :
    hits text entries = hitsIn entries text.toList := by
  rw [hitsIn, String.ofList_toList]

@[simp]
theorem hitsIn_cons (entry : String) (entries : List String) (text : List Char) :
    hitsIn (entry :: entries) text = scanCount entry.toList text + hitsIn entries text := by
  simp [hitsIn, countOccurrences_eq]

theorem le_hitsIn_append (entries : List String) (a b : List Char) :
    hitsIn entries a + hitsIn entries b ≤ hitsIn entries (a ++ b) := by
  induction entries with
  | nil => exact Nat.le_refl 0
  | cons entry entries ih =>
    have hentry := le_scanCount_append entry.toList a b
    simp only [hitsIn_cons]
    omega

theorem hitsIn_append_of_not_straddles {entries : List String} {a b : List Char}
    (h : ∀ entry ∈ entries, ¬ Straddles entry.toList a b) :
    hitsIn entries (a ++ b) = hitsIn entries a + hitsIn entries b := by
  induction entries with
  | nil => rfl
  | cons entry entries ih =>
    have hentry := scanCount_append_of_not_straddles (h entry List.mem_cons_self)
    have hrest := ih fun other hm => h other (List.mem_cons_of_mem _ hm)
    simp only [hitsIn_cons]
    omega

/-- **A cut that only one entry can straddle loses at most one hit.** -/
theorem hitsIn_append_le {entries : List String} {a b : List Char}
    (h : entries.Pairwise fun e f => ¬ (Straddles e.toList a b ∧ Straddles f.toList a b)) :
    hitsIn entries (a ++ b) ≤ hitsIn entries a + hitsIn entries b + 1 := by
  induction entries with
  | nil => exact Nat.zero_le _
  | cons entry entries ih =>
    obtain ⟨hentry, hentries⟩ := List.pairwise_cons.mp h
    simp only [hitsIn_cons]
    by_cases hs : Straddles entry.toList a b
    · have hone := scanCount_append_le entry.toList a b
      have hrest := hitsIn_append_of_not_straddles fun other hm hother =>
        hentry other hm ⟨hs, hother⟩
      omega
    · have hnone := scanCount_append_of_not_straddles hs
      have hrest := ih hentries
      omega

theorem hitsIn_pos_of_mem {entries : List String} {entry : String} (hm : entry ∈ entries)
    (hne : entry ≠ "") : 0 < hitsIn entries entry.toList := by
  induction entries with
  | nil => exact absurd hm List.not_mem_nil
  | cons first entries ih =>
    rw [hitsIn_cons]
    rcases List.mem_cons.mp hm with rfl | hm
    · exact Nat.add_pos_left (scanCount_self_pos (by simpa using hne)) _
    · exact Nat.add_pos_right _ (ih hm)

end Jargon.Text
