import Mathlib.Data.Finset.Max
import Mathlib.Order.Interval.Finset.Nat
import Jargon.Proofs.Text.Packing

/-!
# Places of occurrences

An occurrence takes up as many characters as the needle has, from its place on.  Any choice of
occurrences is a set of places, and a packing is such a set in the order of the text.

* `NonOverlapping.packing`, `Packing.exists_places`   from places to a packing and back;
* `countOccurrences_isGreatest`   so the count from the left is the size of a largest set.
-/

namespace Jargon.Text

/-- places where the needle stands in the text, of which no two share a character -/
structure NonOverlapping (needle text : List Char) (places : Finset ℕ) : Prop where
  occurs : ∀ p ∈ places, needle <+: text.drop p
  disjoint : (places : Set ℕ).PairwiseDisjoint fun p => Finset.Ico p (p + needle.length)

namespace NonOverlapping

variable {needle text : List Char} {places : Finset ℕ}

theorem add_le (h : NonOverlapping needle text places) (hne : needle ≠ []) {p q : ℕ}
    (hp : p ∈ places) (hq : q ∈ places) (hlt : p < q) : p + needle.length ≤ q := by
  have hpos := List.length_pos_iff.mpr hne
  by_contra hcross
  have hdisjoint := Finset.disjoint_left.mp (h.disjoint hp hq (Nat.ne_of_lt hlt))
  have hleft : q ∈ Finset.Ico p (p + needle.length) := Finset.mem_Ico.mpr ⟨hlt.le, by omega⟩
  have hright : q ∈ Finset.Ico q (q + needle.length) := Finset.mem_Ico.mpr ⟨le_rfl, by omega⟩
  exact hdisjoint hleft hright

theorem of_add_le (hoccurs : ∀ p ∈ places, needle <+: text.drop p)
    (h : ∀ p ∈ places, ∀ q ∈ places, p < q → p + needle.length ≤ q) :
    NonOverlapping needle text places := by
  refine ⟨hoccurs, fun p hp q hq hpq => Finset.disjoint_left.mpr fun i hi hj => ?_⟩
  rw [Finset.mem_Ico] at hi hj
  rcases Nat.lt_or_gt_of_ne hpq with hlt | hlt
  · have := h p hp q hq hlt
    omega
  · have := h q hq p hp hlt
    omega

theorem subset {fewer : Finset ℕ} (h : NonOverlapping needle text places) (hs : fewer ⊆ places) :
    NonOverlapping needle text fewer :=
  ⟨fun p hp => h.occurs p (hs hp), h.disjoint.subset (Finset.coe_subset.mpr hs)⟩

/-- the places behind `offset`, taken from the first on -/
theorem packing_drop (hne : needle ≠ []) (h : NonOverlapping needle text places) (offset : ℕ)
    (hle : ∀ p ∈ places, offset ≤ p) : Packing needle (text.drop offset) places.card := by
  induction places using Finset.induction_on_min generalizing offset with
  | empty => exact .zero _
  | insert p places hmin ih =>
    have hp := Finset.mem_insert_self p places
    have hrest := ih (h.subset (Finset.subset_insert p places)) (p + needle.length)
      fun q hq => h.add_le hne hp (Finset.mem_insert_of_mem hq) (hmin q hq)
    obtain ⟨rest, hp'⟩ := h.occurs p hp
    have hdrop : text.drop (p + needle.length) = rest := by
      rw [← List.drop_drop, ← hp', List.drop_left]
    have hcut : text.drop offset =
        (text.drop offset).take (p - offset) ++ (needle ++ rest) := by
      have hsum : offset + (p - offset) = p := Nat.add_sub_cancel' (hle p hp)
      have hbehind : (text.drop offset).drop (p - offset) = needle ++ rest := by
        rw [List.drop_drop, hsum, hp']
      rw [← hbehind, List.take_append_drop]
    rw [Finset.card_insert_of_notMem fun hin => Nat.lt_irrefl p (hmin p hin), hcut]
    rw [hdrop] at hrest
    exact hrest.more _

theorem packing (hne : needle ≠ []) (h : NonOverlapping needle text places) :
    Packing needle text places.card :=
  h.packing_drop hne 0 fun p _ => Nat.zero_le p

/-- one more occurrence in front: its place, and all others behind its end -/
theorem more (hne : needle ≠ []) (h : NonOverlapping needle text places) (before : List Char) :
    NonOverlapping needle (before ++ (needle ++ text))
      (insert before.length (places.image (before.length + needle.length + ·))) := by
  have hpos := List.length_pos_iff.mpr hne
  have hbehind : ∀ q ∈ places.image (before.length + needle.length + ·),
      ∃ p ∈ places, before.length + needle.length + p = q := fun _ => Finset.mem_image.mp
  refine of_add_le ?_ ?_
  · intro q hq
    rcases Finset.mem_insert.mp hq with rfl | hq
    · rw [List.drop_left]
      exact List.prefix_append _ _
    · obtain ⟨p, hp, rfl⟩ := hbehind q hq
      rw [← List.append_assoc, ← List.length_append, List.drop_length_add_append]
      exact h.occurs p hp
  · intro q hq r hr hlt
    rcases Finset.mem_insert.mp hr with rfl | hr
    · rcases Finset.mem_insert.mp hq with rfl | hq
      · omega
      · obtain ⟨p, -, rfl⟩ := hbehind q hq
        omega
    · obtain ⟨p', hp', rfl⟩ := hbehind r hr
      rcases Finset.mem_insert.mp hq with rfl | hq
      · omega
      · obtain ⟨p, hp, rfl⟩ := hbehind q hq
        have := h.add_le hne hp hp' (by omega)
        omega

theorem card_more (hne : needle ≠ []) (places : Finset ℕ) (before : List Char) :
    (insert before.length (places.image (before.length + needle.length + ·))).card =
      places.card + 1 := by
  have hpos := List.length_pos_iff.mpr hne
  rw [Finset.card_insert_of_notMem, Finset.card_image_of_injective _ (add_right_injective _)]
  intro hin
  obtain ⟨p, -, hp⟩ := Finset.mem_image.mp hin
  omega

end NonOverlapping

theorem Packing.exists_places {needle text : List Char} {n : ℕ} (hne : needle ≠ [])
    (h : Packing needle text n) :
    ∃ places, NonOverlapping needle text places ∧ places.card = n := by
  induction h with
  | zero text => exact ⟨∅, .of_add_le (by simp) (by simp), rfl⟩
  | more before _ ih =>
    obtain ⟨places, hplaces, rfl⟩ := ih
    exact ⟨_, hplaces.more hne before, NonOverlapping.card_more hne places before⟩

/-- **The count from the left is the size of a largest set of occurrences without overlap.**  So
texts that are put together have at least the occurrences of both. -/
theorem countOccurrences_isGreatest {needle : String} (hne : needle ≠ "") :
    (∀ text : String, IsGreatest
      {n | ∃ places, NonOverlapping needle.toList text.toList places ∧ places.card = n}
      (countOccurrences text needle)) ∧
    ∀ a b : String, countOccurrences a needle + countOccurrences b needle ≤
      countOccurrences (a ++ b) needle := by
  have hchars : needle.toList ≠ [] := by simpa using hne
  constructor
  · intro text
    rw [countOccurrences_eq]
    obtain ⟨hattained, hmax⟩ := scanCount_maximum hchars text.toList
    refine ⟨hattained.exists_places hchars, ?_⟩
    rintro n ⟨places, hplaces, rfl⟩
    exact hmax _ (hplaces.packing hchars)
  · intro a b
    rw [countOccurrences_eq, countOccurrences_eq, countOccurrences_eq, String.toList_append]
    exact le_scanCount_append _ _ _

/-- two of the three occurrences of an entry that overlaps itself, and one across the join -/
theorem countOccurrences_isGreatest_winWin :
    "win-win" ≠ "" ∧
      IsGreatest {n | ∃ places,
        NonOverlapping "win-win".toList "win-win-win-win".toList places ∧ places.card = n} 2 ∧
      countOccurrences "win-" "win-win" + countOccurrences "win-win-win" "win-win" ≤
        countOccurrences ("win-" ++ "win-win-win") "win-win" := by
  have hne : "win-win" ≠ "" := by decide
  obtain ⟨hgreatest, happend⟩ := countOccurrences_isGreatest hne
  have hcount : countOccurrences "win-win-win-win" "win-win" = 2 := by decide +kernel
  refine ⟨hne, ?_, happend _ _⟩
  rw [← hcount]
  exact hgreatest _

end Jargon.Text
