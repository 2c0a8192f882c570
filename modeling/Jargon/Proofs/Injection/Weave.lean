import Jargon.Injection

/-!
# Stacks woven into a text

What the one-pass assembly makes, said of the text alone: right behind its `i`-th space stands the
`i`-th stack.  Places in bytes and slices have gone from the description, and with them every way
to fail.

* `weave`                  the text with its stacks;
* `weave_append`           a text that is cut in two is woven part by part;
* `assemble_slotsFrom`     the assembly over all spaces gives the woven text;
* `stack_eq_ok`            the stacks of a plan that stays within the slots;
* `carryOut_eq_ok`         the two together.
-/

namespace Jargon.Injection

/-! ## the woven text -/

/-- the characters that a stack brings into a text -/
def stackChars (stack : List String) : List Char :=
  stack.flatMap fun buzzword => buzzword.toList ++ [' ']

@[simp]
theorem stackChars_nil : stackChars [] = [] := rfl

@[simp]
theorem stackChars_cons (buzzword : String) (stack : List String) :
    stackChars (buzzword :: stack) = buzzword.toList ++ ' ' :: stackChars stack := by
  simp [stackChars]

@[simp]
theorem stackChars_append (a b : List String) :
    stackChars (a ++ b) = stackChars a ++ stackChars b := List.flatMap_append

/-- the text with the `i`-th stack right behind its `i`-th space -/
def weave : List Char → List (List String) → List Char
  | text, [] => text
  | [], _ :: _ => []
  | c :: rest, stack :: held =>
    if c = ' ' then ' ' :: (stackChars stack ++ weave rest held)
    else c :: weave rest (stack :: held)

@[simp]
theorem weave_nil (text : List Char) : weave text [] = text := by cases text <;> rfl

@[simp]
theorem weave_empty (held : List (List String)) : weave [] held = [] := by cases held <;> rfl

@[simp]
theorem weave_space (rest : List Char) (stack : List String) (held : List (List String)) :
    weave (' ' :: rest) (stack :: held) = ' ' :: (stackChars stack ++ weave rest held) := by
  rw [weave, if_pos rfl]

@[simp]
theorem weave_cons_of_ne {c : Char} (h : c ≠ ' ') (rest : List Char) (held : List (List String)) :
    weave (c :: rest) held = c :: weave rest held := by
  cases held with
  | nil => simp
  | cons stack held => rw [weave, if_neg h]

theorem weave_append (a b : List Char) (held more : List (List String))
    (h : held.length = a.count ' ') :
    weave (a ++ b) (held ++ more) = weave a held ++ weave b more := by
  induction a generalizing held with
  | nil =>
    obtain rfl : held = [] := List.eq_nil_of_length_eq_zero h
    simp
  | cons c a ih =>
    by_cases hc : c = ' '
    · subst hc
      rw [List.count_cons_self] at h
      obtain ⟨stack, held, rfl⟩ := List.exists_cons_of_length_eq_add_one h
      have hl : held.length = a.count ' ' := Nat.succ.inj h
      simp [ih held hl]
    · rw [List.count_cons_of_ne hc] at h
      simp [hc, ih held h]

theorem weave_of_not_mem {text : List Char} (h : ' ' ∉ text) (held : List (List String)) :
    weave text held = text := by
  have h0 : ([] : List (List String)).length = text.count ' ' := by
    rw [List.count_eq_zero.mpr h]; rfl
  simpa using weave_append text [] [] held h0

/-- the first stack goes behind the first space -/
theorem weave_cut {a : List Char} (h : ' ' ∉ a) (b : List Char) (stack : List String)
    (held : List (List String)) :
    weave (a ++ ' ' :: b) (stack :: held) = a ++ ' ' :: (stackChars stack ++ weave b held) := by
  simpa using weave_append a (' ' :: b) [] (stack :: held) (List.count_eq_zero.mpr h).symm

/-- a text with more than `g` spaces, cut at the one with `g` spaces before it -/
theorem exists_cut_at_space {text : List Char} {g : Nat} (h : g < text.count ' ') :
    ∃ a b, text = a ++ ' ' :: b ∧ a.count ' ' = g := by
  induction text generalizing g with
  | nil => exact absurd h (Nat.not_lt_zero g)
  | cons c rest ih =>
    by_cases hc : c = ' '
    · subst hc
      cases g with
      | zero => exact ⟨[], rest, rfl, rfl⟩
      | succ g =>
        rw [List.count_cons_self] at h
        obtain ⟨a, b, hab, ha⟩ := ih (Nat.lt_of_succ_lt_succ h)
        exact ⟨' ' :: a, b, by rw [hab]; rfl, by rw [List.count_cons_self, ha]⟩
    · rw [List.count_cons_of_ne hc] at h
      obtain ⟨a, b, hab, ha⟩ := ih h
      exact ⟨c :: a, b, by rw [hab]; rfl, by rw [List.count_cons_of_ne hc, ha]⟩

/-! ## the assembly -/

/-- bytes of a text -/
def byteLength : List Char → Nat
  | [] => 0
  | c :: rest => c.utf8Size + byteLength rest

@[simp]
theorem byteLength_append (a b : List Char) :
    byteLength (a ++ b) = byteLength a + byteLength b := by
  induction a with
  | nil => exact (Nat.zero_add _).symm
  | cons c a ih => rw [List.cons_append, byteLength, byteLength, ih, Nat.add_assoc]

theorem slotsFrom_of_not_mem {text : List Char} (h : ' ' ∉ text) (offset : Nat) :
    slotsFrom offset text = [] := by
  apply List.eq_nil_of_length_eq_zero
  rw [length_slotsFrom, List.count_eq_zero.mpr h]

theorem slotsFrom_append (a b : List Char) (offset : Nat) :
    slotsFrom offset (a ++ b) = slotsFrom offset a ++ slotsFrom (offset + byteLength a) b := by
  induction a generalizing offset with
  | nil => rfl
  | cons c a ih =>
    rw [List.cons_append, slotsFrom, slotsFrom, ih, byteLength, ← Nat.add_assoc]
    split <;> rfl

theorem slotsFrom_cut {a : List Char} (h : ' ' ∉ a) (b : List Char) (offset : Nat) :
    slotsFrom offset (a ++ ' ' :: b) =
      (offset + byteLength a) :: slotsFrom (offset + byteLength a + 1) b := by
  rw [slotsFrom_append, slotsFrom_of_not_mem h, List.nil_append, slotsFrom, if_pos rfl]
  rfl

theorem push_append (taken : String) (c : Char) (rest : List Char) :
    taken.push c ++ String.ofList rest = taken ++ String.ofList (c :: rest) := by
  apply String.toList_inj.mp
  simp

/-- a cut at the end of a part of the text moves this part -/
theorem cut_append (a b : List Char) (taken : String) :
    cut (byteLength a) taken (a ++ b) = .ok (taken ++ String.ofList a, b) := by
  induction a generalizing taken with
  | nil => simp [byteLength]
  | cons c a ih =>
    obtain ⟨n, hn⟩ : ∃ n, c.utf8Size + byteLength a = n + 1 :=
      Nat.exists_eq_add_one.mpr (Nat.add_pos_left c.utf8Size_pos _)
    have hle : c.utf8Size ≤ n + 1 := by omega
    have hsub : n + 1 - c.utf8Size = byteLength a := by omega
    rw [byteLength, hn, List.cons_append, cut, if_pos hle, hsub, ih, push_append]

theorem unstack_eq (taken : String) (stack : List String) :
    unstack taken stack = taken ++ String.ofList (stackChars stack) := by
  induction stack generalizing taken with
  | nil => simp [unstack]
  | cons buzzword stack ih =>
    show unstack (taken ++ buzzword ++ " ") stack = _
    rw [ih]
    apply String.toList_inj.mp
    simp

/-- the assembly over all spaces never fails -/
theorem assemble_slotsFrom (held : List (List String)) :
    ∀ (copied : Nat) (text : List Char) (taken : String),
      assemble copied text taken ((slotsFrom copied text).zip held)
        = .ok (taken ++ String.ofList (weave text held)) := by
  induction held with
  | nil => intro copied text taken; simp [assemble]
  | cons stack held ih =>
    intro copied text taken
    by_cases hs : ' ' ∈ text
    · obtain ⟨a, b, rfl, ha⟩ := List.eq_append_cons_of_mem hs
      have hbytes : copied + byteLength a + 1 - copied = byteLength (a ++ [' ']) := by
        rw [byteLength_append, Nat.add_assoc, Nat.add_sub_cancel_left]
        rfl
      have hcut := cut_append (a ++ [' ']) b taken
      rw [List.append_assoc, List.singleton_append, ← hbytes] at hcut
      rw [slotsFrom_cut ha, List.zip_cons_cons, assemble, if_neg (by omega), hcut]
      show assemble (copied + byteLength a + 1) b
        (unstack (taken ++ String.ofList (a ++ [' '])) stack)
        ((slotsFrom (copied + byteLength a + 1) b).zip held) = _
      rw [ih, unstack_eq, weave_cut ha]
      congr 1
      apply String.toList_inj.mp
      simp
    · rw [slotsFrom_of_not_mem hs, weave_of_not_mem hs]
      rfl

/-! ## the stacks of a plan -/

theorem exists_cut_of_lt {α : Type} {l : List α} {g : Nat} (h : g < l.length) :
    ∃ a x b, l = a ++ x :: b ∧ a.length = g :=
  ⟨l.take g, l[g], l.drop (g + 1), by rw [List.getElem_cons_drop, List.take_append_drop],
    List.length_take_of_le (Nat.le_of_lt h)⟩

theorem modify_cut {α : Type} (a b : List α) (x : α) (f : α → α) :
    (a ++ x :: b).modify a.length f = a ++ f x :: b := by
  induction a with
  | nil => rfl
  | cons y a ih => rw [List.cons_append, List.length_cons, List.modify_succ_cons, ih]; rfl

/-- all slots of a plan are below `slotCount` -/
def Fits (slotCount : Nat) (plan : List Insertion) : Prop :=
  ∀ i ∈ plan, ∀ slot, i.slot = some slot → slot < slotCount

/-- what `push` makes of the stacks if the slot is one of them -/
def hold (held : List (List String)) (i : Insertion) : List (List String) :=
  match i.slot with
  | none => held
  | some slot => held.modify slot (i.buzzword :: ·)

@[simp]
theorem length_hold (held : List (List String)) (i : Insertion) :
    (hold held i).length = held.length := by
  unfold hold
  split
  · rfl
  · exact List.length_modify _ _ _

theorem push_eq_ok {held : List (List String)} {i : Insertion}
    (h : ∀ slot, i.slot = some slot → slot < held.length) :
    push held.toArray i = .ok (hold held i).toArray := by
  unfold push hold
  cases hi : i.slot with
  | none => rfl
  | some slot =>
    show (if slot < held.toArray.size then _ else _) = _
    rw [if_pos (by simpa using h slot hi), List.modify_toArray]

theorem foldlM_push_eq_ok (plan : List Insertion) (held : List (List String))
    (h : Fits held.length plan) :
    plan.foldlM push held.toArray = .ok (plan.foldl hold held).toArray := by
  induction plan generalizing held with
  | nil => rfl
  | cons i plan ih =>
    have hi := h i List.mem_cons_self
    have hrest : Fits (hold held i).length plan := by
      intro j hj
      rw [length_hold]
      exact h j (List.mem_cons_of_mem _ hj)
    rw [List.foldlM_cons, push_eq_ok hi]
    exact ih (hold held i) hrest

/-- the stacks of a plan, one for each slot -/
def planned (slotCount : Nat) (plan : List Insertion) : List (List String) :=
  plan.foldl hold (List.replicate slotCount [])

@[simp]
theorem length_foldl_hold (plan : List Insertion) (held : List (List String)) :
    (plan.foldl hold held).length = held.length := by
  induction plan generalizing held with
  | nil => rfl
  | cons i plan ih => simp [ih]

@[simp]
theorem length_planned (slotCount : Nat) (plan : List Insertion) :
    (planned slotCount plan).length = slotCount := by simp [planned]

theorem stack_eq_ok {slotCount : Nat} {plan : List Insertion} (h : Fits slotCount plan) :
    stack slotCount plan = .ok (planned slotCount plan).toArray := by
  have hf : Fits (List.replicate slotCount ([] : List String)).length plan := by
    rwa [List.length_replicate]
  rw [stack, ← List.toArray_replicate]
  exact foldlM_push_eq_ok plan _ hf

/-! ## a plan carried out -/

/-- a mode leaves out slots from the end only, so their stacks are those of the first spaces -/
theorem slots_zip (mode : InsertionMode) (text : List Char) {held : List (List String)}
    (h : held.length = (slots mode text).length) :
    (slots mode text).zip held = (slotsFrom 0 text).zip held := by
  cases mode with
  | scatter => rfl
  | firstSpace =>
    rw [slots] at h ⊢
    cases hs : slotsFrom 0 text with
    | nil => rfl
    | cons slot more =>
      rw [hs] at h
      obtain ⟨stack, rfl⟩ := List.length_eq_one_iff.mp h
      simp

theorem carryOut_eq_ok {mode : InsertionMode} {text : String} {plan : List Insertion}
    (h : Fits (slots mode text.toList).length plan) :
    carryOut (slots mode text.toList) plan text =
      .ok (String.ofList (weave text.toList (planned (slots mode text.toList).length plan))) := by
  have hz := slots_zip mode text.toList (length_planned _ plan)
  have ha := assemble_slotsFrom (planned (slots mode text.toList).length plan) 0 text.toList ""
  rw [← hz, String.empty_append] at ha
  rw [carryOut, stack_eq_ok h]
  exact ha

end Jargon.Injection
