import Jargon.Engine.Operation
import Jargon.Proofs.Injection.Plan

/-!
# Injection as repeated insertion

In the mode `firstSpace` an injection gives what a loop would that puts one buzzword after the
other behind the first space of the text as it then stands.  The first space never moves, since
everything is put behind it: so the loop builds a stack there, newest first.

* `insertAfterSpace`, `insertEach`   one turn of the loop, and the loop;
* `foldl_insertAfterFirst`           what the loop makes of a text with a space;
* `inject_eq_insertEach`             both give the same text and leave the same source.
-/

namespace Jargon.Injection

/-! ## the loop -/

/-- a word and a space behind the first space; nothing changes if there is no space -/
def insertAfterFirst (word : List Char) : List Char → List Char
  | [] => []
  | c :: rest => if c = ' ' then ' ' :: (word ++ ' ' :: rest) else c :: insertAfterFirst word rest

def insertAfterSpace (text word : String) : String :=
  String.ofList (insertAfterFirst word.toList text.toList)

/-- `count` times: draws a buzzword and puts it behind the first space of the text so far -/
def insertEach {σ : Type} [WordSource σ] (vocabulary : List String) :
    (count : Nat) → (text : String) → Draw σ String
  | 0, text => return text
  | count + 1, text => do
    let word ← Draw.pick vocabulary
    insertEach vocabulary count (insertAfterSpace text word)

/-! ## where its words end up -/

theorem insertAfterFirst_of_not_mem (word : List Char) {text : List Char} (h : ' ' ∉ text) :
    insertAfterFirst word text = text := by
  induction text with
  | nil => rfl
  | cons c rest ih =>
    have hc : c ≠ ' ' := fun e => h (e ▸ List.mem_cons_self)
    rw [insertAfterFirst, if_neg hc, ih fun hm => h (List.mem_cons_of_mem _ hm)]

theorem insertAfterFirst_cut (word : List Char) {a : List Char} (h : ' ' ∉ a) (b : List Char) :
    insertAfterFirst word (a ++ ' ' :: b) = a ++ ' ' :: (word ++ ' ' :: b) := by
  induction a with
  | nil => rw [List.nil_append, insertAfterFirst, if_pos rfl, List.nil_append]
  | cons c a ih =>
    have hc : c ≠ ' ' := fun e => h (e ▸ List.mem_cons_self)
    rw [List.cons_append, insertAfterFirst, if_neg hc, ih fun hm => h (List.mem_cons_of_mem _ hm),
      List.cons_append]

/-- the words stand behind the first space of the text it began with, the last one first -/
theorem foldl_insertAfterFirst {a : List Char} (h : ' ' ∉ a) (row : List String) (b : List Char) :
    row.foldl (fun text word => insertAfterFirst word.toList text) (a ++ ' ' :: b) =
      a ++ ' ' :: (stackChars row.reverse ++ b) := by
  induction row generalizing b with
  | nil => rfl
  | cons word row ih =>
    rw [List.foldl_cons, insertAfterFirst_cut _ h, ih, List.reverse_cons, stackChars_append,
      stackChars_cons, stackChars_nil]
    simp

theorem foldl_insertAfterFirst_of_not_mem {text : List Char} (h : ' ' ∉ text)
    (row : List String) :
    row.foldl (fun text word => insertAfterFirst word.toList text) text = text := by
  induction row with
  | nil => rfl
  | cons word row ih => rw [List.foldl_cons, insertAfterFirst_of_not_mem _ h, ih]

theorem foldl_insertAfterSpace (row : List String) (text : String) :
    row.foldl insertAfterSpace text = String.ofList
      (row.foldl (fun text word => insertAfterFirst word.toList text) text.toList) := by
  induction row generalizing text with
  | nil => exact String.ofList_toList.symm
  | cons word row ih =>
    rw [List.foldl_cons, ih, List.foldl_cons, insertAfterSpace, String.toList_ofList]

/-- the loop draws its words as a plan does -/
theorem insertEach_eq_words {σ : Type} [WordSource σ] (vocabulary : List String) (count : Nat)
    (text : String) :
    (insertEach vocabulary count text : Draw σ String) =
      (fun row => row.foldl insertAfterSpace text) <$> words vocabulary count := by
  induction count generalizing text with
  | zero => rw [insertEach, words, map_pure]; rfl
  | succ count ih =>
    rw [insertEach, words]
    simp only [ih, map_eq_pure_bind, bind_assoc, pure_bind]
    rfl

/-! ## the stack of the first space -/

theorem foldl_hold_first (row stack : List String) :
    (row.map fun buzzword => (⟨buzzword, some 0⟩ : Insertion)).foldl hold [stack] =
      [row.reverse ++ stack] := by
  induction row generalizing stack with
  | nil => rfl
  | cons word row ih =>
    show (row.map fun buzzword => (⟨buzzword, some 0⟩ : Insertion)).foldl hold [word :: stack] = _
    rw [ih]
    simp

/-- **Weaving the stack of the first space is inserting its words one by one.** -/
theorem weave_firstSpace (row : List String) (text : List Char) :
    weave text (planned (slots .firstSpace text).length
      (row.map fun buzzword => ⟨buzzword, fixedSlot (slots .firstSpace text).length⟩)) =
      row.foldl (fun text word => insertAfterFirst word.toList text) text := by
  by_cases hs : ' ' ∈ text
  · obtain ⟨a, b, rfl, ha⟩ := List.eq_append_cons_of_mem hs
    have hn : (slots .firstSpace (a ++ ' ' :: b)).length = 1 := by
      rw [slots, slotsFrom_cut ha]
      rfl
    have hp : planned 1 (row.map fun buzzword => ⟨buzzword, fixedSlot 1⟩) = [row.reverse ++ []] :=
      foldl_hold_first row []
    rw [hn, hp, weave_cut ha, weave_nil, foldl_insertAfterFirst ha, List.append_nil]
  · rw [weave_of_not_mem hs, foldl_insertAfterFirst_of_not_mem hs]

end Jargon.Injection

namespace Jargon.Engine

open Injection

/-- **In the mode `firstSpace` an injection is the loop of insertions**, as many as the text it is
given requires: it succeeds, with the same text and the same source afterwards. -/
theorem inject_eq_insertEach {σ : Type} [WordSource σ] (e : Engine σ) (hm : e.mode = .firstSpace)
    (hv : e.lexicon.vocabulary ≠ []) (text : String) :
    ∃ out source,
      inject text e = .ok (out, { e with source }) ∧
      insertEach e.lexicon.vocabulary (e.required text) text e.source = .ok (out, source) := by
  obtain ⟨made, source, hp⟩ := exists_plan .firstSpace hv (slots .firstSpace text.toList).length
    (e.required text) e.source
  have hp' := hp
  rw [plan_eq_words (.inl rfl)] at hp'
  obtain ⟨row, hrow, rfl⟩ := Draw.map_eq_ok.mp hp'
  refine ⟨row.foldl insertAfterSpace text, source, generate_eq_ok.mpr ⟨source, ?_, rfl⟩, ?_⟩
  · rw [hm]
    exact inject_eq_ok_iff.mpr
      ⟨_, hp, by rw [weave_firstSpace, foldl_insertAfterSpace]⟩
  · rw [insertEach_eq_words]
    exact Draw.map_eq_ok.mpr ⟨row, hrow, rfl⟩

/-- an entry of two words, and a text whose space stands last behind a character of two bytes -/
theorem inject_eq_insertEach_twoWords :
    let e : Engine Stepper := ofLexicon ⟨["deep dive"], ["empower"], ["paradigm"]⟩ ⟨0, 1⟩
    e.mode = .firstSpace ∧ e.lexicon.vocabulary ≠ [] ∧ ∃ out source,
      inject "é " e = .ok (out, { e with source }) ∧
      insertEach e.lexicon.vocabulary (e.required "é ") "é " e.source = .ok (out, source) := by
  intro e
  exact ⟨rfl, by decide, inject_eq_insertEach e rfl (by decide) "é "⟩

example : ((inject "é " (ofLexicon ⟨["deep dive"], ["empower"], ["paradigm"]⟩
    (⟨0, 1⟩ : Stepper))).toOption.map (·.1)) = some "é deep dive deep dive deep dive " := by
  decide +kernel

end Jargon.Engine
