import Jargon.Proofs.Injection.Plan

/-!
# What the stacks of a plan hold

Whatever slots the buzzwords of a plan go to, its stacks hold each of them once and nothing else.

* `flatten_modify`          one insertion puts one buzzword on one stack;
* `flatten_planned`         the stacks of a plan hold its buzzwords, in some order;
* `length_flatten_planned`, `mem_vocabulary_of_planned`
                            how many these are, and where they come from.
-/

namespace Jargon.Injection

/-! ## one insertion -/

theorem flatten_modify {held : List (List String)} {slot : Nat} (h : slot < held.length)
    (buzzword : String) :
    (held.modify slot (buzzword :: ·)).flatten.Perm (buzzword :: held.flatten) := by
  obtain ⟨before, stack, after, rfl, rfl⟩ := exists_cut_of_lt h
  rw [modify_cut, List.flatten_append, List.flatten_append, List.flatten_cons, List.flatten_cons,
    List.cons_append]
  exact List.perm_middle

/-! ## all of them -/

theorem flatten_foldl_hold {plan : List Insertion} {held : List (List String)}
    (hf : Fits held.length plan) (hs : ∀ i ∈ plan, i.slot ≠ none) :
    (plan.foldl hold held).flatten.Perm (plan.map Insertion.buzzword ++ held.flatten) := by
  induction plan generalizing held with
  | nil => exact .refl _
  | cons i plan ih =>
    obtain ⟨slot, hslot⟩ := Option.ne_none_iff_exists'.mp (hs i List.mem_cons_self)
    have hlt := hf i List.mem_cons_self slot hslot
    have hone : (hold held i).flatten.Perm (i.buzzword :: held.flatten) := by
      rw [hold, hslot]
      exact flatten_modify hlt i.buzzword
    have hrest : Fits (hold held i).length plan := by
      rw [length_hold]
      exact fun j hj => hf j (List.mem_cons_of_mem _ hj)
    have hall := ih hrest fun j hj => hs j (List.mem_cons_of_mem _ hj)
    exact hall.trans ((hone.append_left _).trans List.perm_middle)

/-- **The stacks of a plan hold its buzzwords.** -/
theorem flatten_planned {slotCount : Nat} {plan : List Insertion} (hf : Fits slotCount plan)
    (hs : ∀ i ∈ plan, i.slot ≠ none) :
    (planned slotCount plan).flatten.Perm (plan.map Insertion.buzzword) := by
  have hlen : (List.replicate slotCount ([] : List String)).length = slotCount :=
    List.length_replicate
  have hnil : (List.replicate slotCount ([] : List String)).flatten = [] := by
    rw [List.flatten_eq_nil_iff]
    exact fun stack hm => List.eq_of_mem_replicate hm
  have hf' : Fits (List.replicate slotCount ([] : List String)).length plan := hlen.symm ▸ hf
  have hall := flatten_foldl_hold hf' hs
  rwa [hnil, List.append_nil] at hall

section

variable {σ : Type} [WordSource σ] {mode : InsertionMode} {vocabulary : List String}
  {slotCount count : Nat} {made : List Insertion} {s s' : σ}

/-- the buzzwords of a drawn plan are on the stacks, if there is a slot at all -/
theorem flatten_planned_of_plan (hn : slotCount ≠ 0)
    (h : plan mode vocabulary slotCount count s = .ok (made, s')) :
    (planned slotCount made).flatten.Perm (made.map Insertion.buzzword) :=
  flatten_planned (plan_fits h) (plan_forall (fun _ _ _ => planOne_slot_ne_none hn) h).2

theorem length_flatten_planned (hn : slotCount ≠ 0)
    (h : plan mode vocabulary slotCount count s = .ok (made, s')) :
    (planned slotCount made).flatten.length = count := by
  rw [(flatten_planned_of_plan hn h).length_eq, List.length_map]
  exact (plan_forall (P := fun _ => True) (fun _ _ _ _ => trivial) h).1

theorem mem_vocabulary_of_planned (hn : slotCount ≠ 0)
    (h : plan mode vocabulary slotCount count s = .ok (made, s')) :
    ∀ stack ∈ planned slotCount made, ∀ word ∈ stack, word ∈ vocabulary := by
  intro stack hstack word hword
  have hmem : word ∈ made.map Insertion.buzzword :=
    (flatten_planned_of_plan hn h).subset (List.mem_flatten.mpr ⟨stack, hstack, hword⟩)
  obtain ⟨i, hi, rfl⟩ := List.mem_map.mp hmem
  exact (plan_forall (fun _ _ _ hone => (planOne_fits hone).1) h).2 i hi

end

end Jargon.Injection
