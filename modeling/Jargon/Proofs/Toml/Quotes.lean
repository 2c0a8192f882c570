import Jargon.Toml.Strings
import Jargon.Toml.Writer

/-!
# Runs of quotes

A string over several lines ends with the first three quotes in a row, and up to two more belong to
it.  So what counts of a text is how many quotes it begins with, at each of its places.

* `leading_le_longestRun`   no place has more of them than the longest run;
* `closing?_append`         which quotes end a string.
-/

namespace Jargon.Toml

/-! ## runs of a quote -/

/-- how many quotes a text begins with -/
def leading (quote : Char) (text : List Char) : Nat := (text.takeWhile (· == quote)).length

@[simp]
theorem leading_cons_self (quote : Char) (text : List Char) :
    leading quote (quote :: text) = leading quote text + 1 := by
  unfold leading
  rw [List.takeWhile_cons_of_pos (by simp)]
  rfl

@[simp]
theorem leading_cons_of_ne {quote c : Char} (h : c ≠ quote) (text : List Char) :
    leading quote (c :: text) = 0 := by
  unfold leading
  rw [List.takeWhile_cons_of_neg (by simpa using h)]
  rfl

theorem longestRunFrom_mono (quote : Char) (text : List Char) {run run' best best' : Nat}
    (hr : run ≤ run') (hb : best ≤ best') :
    longestRunFrom quote run best text ≤ longestRunFrom quote run' best' text := by
  induction text generalizing run run' best best' with
  | nil =>
    simp only [longestRunFrom]
    omega
  | cons c text ih =>
    rw [longestRunFrom, longestRunFrom]
    split
    · exact ih (by omega) hb
    · exact ih (Nat.le_refl 0) (by omega)

theorem longestRun_tail (quote c : Char) (text : List Char) :
    longestRun quote text ≤ longestRun quote (c :: text) := by
  rw [longestRun, longestRun, longestRunFrom]
  split
  · exact longestRunFrom_mono quote text (Nat.zero_le _) (Nat.le_refl 0)
  · exact longestRunFrom_mono quote text (Nat.le_refl 0) (Nat.zero_le _)

theorem best_le_longestRunFrom (quote : Char) (text : List Char) (run best : Nat) :
    best ≤ longestRunFrom quote run best text := by
  induction text generalizing run best with
  | nil => exact Nat.le_max_right run best
  | cons c text ih =>
    rw [longestRunFrom]
    split
    · exact ih (run + 1) best
    · exact Nat.le_trans (Nat.le_max_right run best) (ih 0 _)

theorem leading_le_longestRunFrom (quote : Char) (text : List Char) (run best : Nat) :
    run + leading quote text ≤ longestRunFrom quote run best text := by
  induction text generalizing run best with
  | nil => exact Nat.le_max_left run best
  | cons c text ih =>
    rw [longestRunFrom]
    split
    · rename_i h
      rw [h, leading_cons_self]
      have := ih (run + 1) best
      omega
    · rename_i h
      rw [leading_cons_of_ne h]
      exact Nat.le_trans (Nat.le_max_left run best) (best_le_longestRunFrom quote text 0 _)

theorem leading_le_longestRun (quote : Char) (text : List Char) :
    leading quote text ≤ longestRun quote text := by
  have := leading_le_longestRunFrom quote text 0 0
  rwa [Nat.zero_add] at this

theorem not_mem_of_longestRun_eq_zero {quote : Char} {text : List Char}
    (h : longestRun quote text = 0) : quote ∉ text := by
  induction text with
  | nil => exact List.not_mem_nil
  | cons c text ih =>
    have hl := leading_le_longestRun quote (c :: text)
    have ht := longestRun_tail quote c text
    rw [List.mem_cons, not_or]
    refine ⟨?_, ih (by omega)⟩
    rintro rfl
    rw [leading_cons_self] at hl
    omega

@[simp]
theorem leading_replicate (quote : Char) (n : Nat) :
    leading quote (List.replicate n quote) = n := by
  induction n with
  | zero => rfl
  | succ n ih => simp [List.replicate_succ, ih]

/-! ## the end over several lines -/

theorem closing?_replicate {quote : Char} {n : Nat} (hn : n ≤ 2) {rest : List Char}
    (hr : rest.head? ≠ some quote) :
    closing? quote (List.replicate n quote ++ quote :: quote :: quote :: rest) =
      some (n, rest) := by
  have hstop : ∀ m, (rest.take m).takeWhile (· == quote) = [] := by
    intro m
    cases rest with
    | nil => rw [List.take_nil, List.takeWhile_nil]
    | cons c rest =>
      cases m with
      | zero => rfl
      | succ m =>
        rw [List.take_succ_cons, List.takeWhile_cons_of_neg]
        simpa using hr
  match n, hn with
  | 0, _ => simp [closing?, hstop 2]
  | 1, _ => simp [closing?, List.replicate, hstop 1]
  | 2, _ => simp [closing?, List.replicate]

/-- **A text with less than three quotes in front does not end before its own end.**  If it is all
quotes, they belong to it, and the three behind it are the ones that end it. -/
theorem closing?_append {quote : Char} {text rest : List Char} (hl : leading quote text ≤ 2)
    (hr : rest.head? ≠ some quote) :
    (∃ n, text = List.replicate n quote ∧
        closing? quote (text ++ quote :: quote :: quote :: rest) = some (n, rest)) ∨
      closing? quote (text ++ quote :: quote :: quote :: rest) = none := by
  by_cases hall : ∀ c ∈ text, c = quote
  · have ht : text = List.replicate text.length quote := List.eq_replicate_of_mem hall
    rw [ht, leading_replicate] at hl
    refine .inl ⟨text.length, ht, ?_⟩
    have hc := closing?_replicate hl hr
    rwa [← ht] at hc
  · right
    match text, hl, hall with
    | [], _, hall => exact absurd (fun c hc => absurd hc List.not_mem_nil) hall
    | [a], _, hall =>
      have ha : a ≠ quote := by simpa using hall
      exact if_neg fun h => ha h.1
    | [a, b], _, hall => exact if_neg fun h => hall (by simp [h.1, h.2.1])
    | a :: b :: c :: text, hl, _ =>
      refine if_neg fun h => ?_
      simp only [h, leading_cons_self] at hl
      omega

end Jargon.Toml
