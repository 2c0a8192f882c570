import Jargon.Proofs.Injection.Weave

/-!
# What an injection copies of its text

A text is copied in pieces, each up to and with a slot, the last one to its end.  The pieces lie in
the text one behind the other, and no character is cut.

* `copiedRanges`            the pieces, in bytes;
* `LiesIn`                  what a piece has to satisfy;
* `liesIn_of_slots`         the pieces between the slots of a text do.
-/

namespace Jargon.Injection

/-- up to and with each slot, and then the rest; the first piece starts at `copied` -/
def copiedRanges (size copied : Nat) : List Nat → List (Nat × Nat)
  | [] => [(copied, size)]
  | slot :: more => (copied, slot + 1) :: copiedRanges size (slot + 1) more

/-- a piece of the text from one boundary of its characters to another -/
structure LiesIn (text : String) (piece : Nat × Nat) : Prop where
  ordered : piece.1 ≤ piece.2
  bounded : piece.2 ≤ text.utf8ByteSize
  start : String.Pos.Raw.IsValid text ⟨piece.1⟩
  stop : String.Pos.Raw.IsValid text ⟨piece.2⟩

theorem utf8ByteSize_ofList (chars : List Char) :
    (String.ofList chars).utf8ByteSize = byteLength chars := by
  induction chars with
  | nil => rfl
  | cons c rest ih =>
    rw [String.ofList_cons, String.utf8ByteSize_append, String.utf8ByteSize_singleton, ih,
      byteLength]

theorem isValid_byteLength (a b : List Char) :
    String.Pos.Raw.IsValid (String.ofList (a ++ b)) ⟨byteLength a⟩ := by
  rw [String.Pos.Raw.isValid_iff_exists_append]
  refine ⟨String.ofList a, String.ofList b, String.ofList_append, ?_⟩
  rw [← utf8ByteSize_ofList]
  rfl

/-- a piece that leaves `done` in front of it and `rest` behind it -/
theorem liesIn_middle (done piece rest : List Char) :
    LiesIn (String.ofList (done ++ (piece ++ rest)))
      (byteLength done, byteLength (done ++ piece)) := by
  have hstop := isValid_byteLength (done ++ piece) rest
  rw [List.append_assoc] at hstop
  refine ⟨?_, ?_, isValid_byteLength done (piece ++ rest), hstop⟩
  · rw [byteLength_append]
    exact Nat.le_add_right _ _
  · rw [utf8ByteSize_ofList, ← List.append_assoc, byteLength_append _ rest]
    exact Nat.le_add_right _ _

/-- the induction is on the slots; `done` has been copied, and they are slots of `rest` -/
theorem liesIn_of_copiedRanges (used : List Nat) (done rest : List Char)
    (h : used <+: slotsFrom (byteLength done) rest) :
    ∀ piece ∈ copiedRanges (byteLength (done ++ rest)) (byteLength done) used,
      LiesIn (String.ofList (done ++ rest)) piece := by
  induction used generalizing done rest with
  | nil =>
    intro piece hp
    obtain rfl := List.mem_singleton.mp hp
    have hall := liesIn_middle done rest []
    rwa [List.append_nil] at hall
  | cons slot used ih =>
    have hs : ' ' ∈ rest := by
      apply Decidable.byContradiction
      intro hs
      rw [slotsFrom_of_not_mem hs] at h
      exact absurd (List.prefix_nil.mp h) (List.cons_ne_nil _ _)
    obtain ⟨a, b, rfl, ha⟩ := List.eq_append_cons_of_mem hs
    rw [slotsFrom_cut ha, List.cons_prefix_cons] at h
    obtain ⟨rfl, h⟩ := h
    have hnext : byteLength done + byteLength a + 1 = byteLength (done ++ (a ++ [' '])) := by
      rw [byteLength_append, byteLength_append, Nat.add_assoc]
      rfl
    have htext : done ++ (a ++ ' ' :: b) = done ++ ((a ++ [' ']) ++ b) := by
      rw [List.append_assoc a, List.singleton_append]
    intro piece hp
    rw [copiedRanges, hnext, htext] at hp
    rw [htext]
    rcases List.mem_cons.mp hp with rfl | hp
    · exact liesIn_middle done (a ++ [' ']) b
    · rw [hnext] at h
      rw [← List.append_assoc] at hp ⊢
      exact ih (done ++ (a ++ [' '])) b h piece hp

theorem slots_initial (mode : InsertionMode) (text : List Char) :
    slots mode text <+: slotsFrom 0 text := by
  cases mode with
  | firstSpace => exact List.take_prefix 1 _
  | scatter => exact List.prefix_refl _

/-- **The pieces between the slots of a text lie in it.** -/
theorem liesIn_of_slots (mode : InsertionMode) (text : String) :
    ∀ piece ∈ copiedRanges text.utf8ByteSize 0 (slots mode text.toList), LiesIn text piece := by
  have h := liesIn_of_copiedRanges (slots mode text.toList) [] text.toList
    (slots_initial mode text.toList)
  rwa [List.nil_append, ← utf8ByteSize_ofList, String.ofList_toList] at h

end Jargon.Injection
