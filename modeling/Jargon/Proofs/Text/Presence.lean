import Mathlib.Algebra.BigOperators.Fin
import Mathlib.Algebra.Order.BigOperators.Group.Finset
import Mathlib.Data.Fintype.Fin
import Jargon.Proofs.Text.Packing

/-!
# Presence and counts

Presence asks whether an entry stands anywhere in a text; the count goes through the text from the
left and skips what it has taken.  One occurrence, wherever it stands, is a packing, and the count
is the size of a largest one.  So it finds an occurrence where there is one, also of an entry that
overlaps itself.  The empty entry stands everywhere, and is neither present nor counted.

* `one_le_countOccurrences_iff`   which entries are counted at all;
* `distinctPresent_eq_card`       presence as a number of positions of the list;
* `hits_eq_sum_countedAt`         hits as a sum over the same positions;
* `presence_agrees`               what this says of the two numbers.
-/

namespace Jargon.Text

/-! ## one needle -/

theorem Packing.occurs {needle text : List Char} {n : ℕ} (h : Packing needle text (n + 1)) :
    needle <:+: text := by
  cases h with
  | more before h =>
    rw [← List.append_assoc]
    exact List.infix_append before needle _

theorem one_le_scanCount_iff {needle : List Char} (hne : needle ≠ []) (text : List Char) :
    1 ≤ scanCount needle text ↔ needle <:+: text := by
  obtain ⟨hattained, hmax⟩ := scanCount_maximum hne text
  constructor
  · intro h
    obtain ⟨n, hn⟩ := Nat.exists_eq_add_of_le' h
    rw [hn] at hattained
    exact hattained.occurs
  -- an occurrence that the count skips still shows that it has taken another one
  · rintro ⟨before, after, rfl⟩
    have hone : Packing needle (before ++ needle) 1 := .one needle before
    exact hmax 1 (hone.append (.zero after))

theorem one_le_countOccurrences_iff (text needle : String) :
    1 ≤ countOccurrences text needle ↔ needle ≠ "" ∧ needle.toList <:+: text.toList := by
  rw [countOccurrences_eq]
  by_cases hne : needle = ""
  · subst hne
    exact iff_of_false (Nat.not_succ_le_zero 0) fun h => h.1 rfl
  · rw [one_le_scanCount_iff (by simpa using hne), and_iff_right hne]

/-- the test that `distinctPresent` makes of each entry -/
theorem isPresent_iff (text entry : String) :
    (!entry.isEmpty && occursIn entry.toList text.toList) = true ↔
      1 ≤ countOccurrences text entry := by
  rw [one_le_countOccurrences_iff]
  simp [occursIn_iff]

/-! ## the positions of a list -/

/-- positions of the list whose entry is counted at least once -/
def countedAt (text : String) (entries : List String) : Finset (Fin entries.length) :=
  Finset.univ.filter fun i => 1 ≤ countOccurrences text entries[i]

theorem mem_countedAt {text : String} {entries : List String} {i : Fin entries.length} :
    i ∈ countedAt text entries ↔ 1 ≤ countOccurrences text entries[i] := by
  rw [countedAt, Finset.mem_filter, and_iff_right (Finset.mem_univ i)]

theorem notMem_countedAt {text : String} {entries : List String} {i : Fin entries.length} :
    i ∉ countedAt text entries ↔ countOccurrences text entries[i] = 0 := by
  rw [mem_countedAt, Nat.one_le_iff_ne_zero, not_not]

/-- the first position, and the others behind it -/
theorem card_countedAt_cons (text entry : String) (entries : List String) :
    (countedAt text (entry :: entries)).card =
      (if 1 ≤ countOccurrences text entry then 1 else 0) + (countedAt text entries).card :=
  Fin.card_filter_univ_succ' _

theorem distinctPresent_eq_card (text : String) (entries : List String) :
    distinctPresent text entries = (countedAt text entries).card := by
  induction entries with
  | nil => rfl
  | cons entry entries ih =>
    rw [card_countedAt_cons, ← ih, distinctPresent, List.countP_cons, ← distinctPresent,
      if_congr (isPresent_iff text entry) rfl rfl, Nat.add_comm]

theorem hits_eq_sum (text : String) (entries : List String) :
    hits text entries = ∑ i : Fin entries.length, countOccurrences text entries[i] := by
  induction entries with
  | nil => simp
  | cons entry entries ih =>
    calc hits text (entry :: entries)
      _ = countOccurrences text entry +
            ∑ i : Fin entries.length, countOccurrences text entries[i] := by rw [hits_cons, ih]
      _ = ∑ i : Fin (entry :: entries).length, countOccurrences text (entry :: entries)[i] :=
          (Fin.sum_univ_succ fun i : Fin (entry :: entries).length =>
            countOccurrences text (entry :: entries)[i]).symm

/-- the other positions add nothing -/
theorem hits_eq_sum_countedAt (text : String) (entries : List String) :
    hits text entries = ∑ i ∈ countedAt text entries, countOccurrences text entries[i] := by
  rw [hits_eq_sum]
  exact (Finset.sum_subset (Finset.subset_univ _) fun _ _ h => notMem_countedAt.mp h).symm

theorem card_countedAt_le_hits (text : String) (entries : List String) :
    (countedAt text entries).card ≤ hits text entries := by
  rw [hits_eq_sum_countedAt, Finset.card_eq_sum_ones]
  exact Finset.sum_le_sum fun _ hi => mem_countedAt.mp hi

theorem hits_eq_zero_iff (text : String) (entries : List String) :
    hits text entries = 0 ↔ countedAt text entries = ∅ := by
  rw [hits_eq_sum, Finset.sum_eq_zero_iff, Finset.eq_empty_iff_forall_notMem]
  constructor
  · intro h i
    exact notMem_countedAt.mpr (h i (Finset.mem_univ i))
  · intro h i _
    exact notMem_countedAt.mp (h i)

/-! ## the two numbers -/

/-- **Presence and counting agree.**  An entry is counted at all iff it is not empty and stands in
the text, so the entries that are present are those at the positions with a count.  There are no
more of them than hits, nor than entries, and there are none iff there is no hit. -/
theorem presence_agrees (text : String) (entries : List String) :
    (∀ entry, 1 ≤ countOccurrences text entry ↔ entry ≠ "" ∧ entry.toList <:+: text.toList) ∧
    distinctPresent text entries = (countedAt text entries).card ∧
    distinctPresent text entries ≤ hits text entries ∧
    distinctPresent text entries ≤ entries.length ∧
    (distinctPresent text entries = 0 ↔ hits text entries = 0) := by
  have hcard := distinctPresent_eq_card text entries
  refine ⟨one_le_countOccurrences_iff text, hcard, ?_, List.countP_le_length, ?_⟩
  · rw [hcard]
    exact card_countedAt_le_hits text entries
  · rw [hcard, Finset.card_eq_zero, hits_eq_zero_iff]

/-- an entry that overlaps itself, the empty one, and one inside another -/
example :
    distinctPresent "win-win-win-win" ["win-win", "", "runway", "win"] = 2 ∧
      hits "win-win-win-win" ["win-win", "", "runway", "win"] = 6 := by
  decide

end Jargon.Text
