import Jargon.Proofs.Injection.Weave
import Jargon.Proofs.Random.Draw

/-!
# Plans of an injection

Which draws a plan is made of, and that every plan can be carried out.

* `plan_forall`          a plan is as long as it is asked for, and what holds of each insertion;
* `plan_fits`            a plan keeps to the slots there are;
* `exists_plan`          there is one, whatever the source, as long as there are buzzwords;
* `inject_eq_ok_iff`     an injection is a plan and the text woven with its stacks;
* `plan_eq_words`        without a choice of slots a plan is a row of buzzwords.
-/

namespace Jargon.Injection

variable {σ : Type} [WordSource σ]

/-! ## one insertion -/

theorem planOne_fits {mode : InsertionMode} {vocabulary : List String} {slotCount : Nat}
    {i : Insertion} {s s' : σ} (h : planOne mode vocabulary slotCount s = .ok (i, s')) :
    i.buzzword ∈ vocabulary ∧ ∀ slot, i.slot = some slot → slot < slotCount := by
  obtain ⟨buzzword, s₁, hb, h⟩ := Draw.bind_eq_ok.mp h
  have hmem := Draw.pick_eq_ok_mem hb
  by_cases hn : slotCount = 0
  · rw [if_pos hn] at h
    obtain ⟨rfl, -⟩ := Draw.pure_eq_ok.mp h
    exact ⟨hmem, fun slot hs => nomatch hs⟩
  · rw [if_neg hn] at h
    cases mode with
    | firstSpace =>
      obtain ⟨rfl, -⟩ := Draw.pure_eq_ok.mp h
      refine ⟨hmem, fun slot hs => ?_⟩
      cases hs
      exact Nat.pos_of_ne_zero hn
    | scatter =>
      obtain ⟨g, s₂, hg, h⟩ := Draw.bind_eq_ok.mp h
      obtain ⟨rfl, -⟩ := Draw.pure_eq_ok.mp h
      refine ⟨hmem, fun slot hs => ?_⟩
      cases hs
      exact Draw.below_eq_ok_lt hg

theorem planOne_slot_ne_none {mode : InsertionMode} {vocabulary : List String} {slotCount : Nat}
    (hn : slotCount ≠ 0) {i : Insertion} {s s' : σ}
    (h : planOne mode vocabulary slotCount s = .ok (i, s')) : i.slot ≠ none := by
  obtain ⟨buzzword, s₁, -, h⟩ := Draw.bind_eq_ok.mp h
  rw [if_neg hn] at h
  cases mode with
  | firstSpace =>
    obtain ⟨rfl, -⟩ := Draw.pure_eq_ok.mp h
    exact nofun
  | scatter =>
    obtain ⟨g, s₂, -, h⟩ := Draw.bind_eq_ok.mp h
    obtain ⟨rfl, -⟩ := Draw.pure_eq_ok.mp h
    exact nofun

theorem exists_planOne (mode : InsertionMode) {vocabulary : List String} (hv : vocabulary ≠ [])
    (slotCount : Nat) (s : σ) : ∃ i s', planOne mode vocabulary slotCount s = .ok (i, s') := by
  obtain ⟨buzzword, s₁, hb, -⟩ := Draw.pick_eq_ok hv s
  by_cases hn : slotCount = 0
  · refine ⟨⟨buzzword, none⟩, s₁, Draw.bind_eq_ok.mpr ⟨buzzword, s₁, hb, ?_⟩⟩
    rw [if_pos hn]
    rfl
  · cases mode with
    | firstSpace =>
      refine ⟨⟨buzzword, some 0⟩, s₁, Draw.bind_eq_ok.mpr ⟨buzzword, s₁, hb, ?_⟩⟩
      rw [if_neg hn]
      rfl
    | scatter =>
      obtain ⟨g, s₂, hg, -⟩ := Draw.below_eq_ok (Nat.pos_of_ne_zero hn) s₁
      refine ⟨⟨buzzword, some g⟩, s₂, Draw.bind_eq_ok.mpr ⟨buzzword, s₁, hb, ?_⟩⟩
      rw [if_neg hn]
      exact Draw.bind_eq_ok.mpr ⟨g, s₂, hg, rfl⟩

/-! ## all of them -/

theorem plan_succ_eq_ok_iff {mode : InsertionMode} {vocabulary : List String}
    {slotCount count : Nat} {made : List Insertion} {s s' : σ} :
    plan mode vocabulary slotCount (count + 1) s = .ok (made, s') ↔
      ∃ first s₁ rest, planOne mode vocabulary slotCount s = .ok (first, s₁) ∧
        plan mode vocabulary slotCount count s₁ = .ok (rest, s') ∧ made = first :: rest :=
  Draw.cons_eq_ok

/-- what holds of every insertion that is drawn holds of a whole plan -/
theorem plan_forall {mode : InsertionMode} {vocabulary : List String} {slotCount count : Nat}
    {P : Insertion → Prop}
    (hP : ∀ i (s s' : σ), planOne mode vocabulary slotCount s = .ok (i, s') → P i)
    {made : List Insertion} {s s' : σ}
    (h : plan mode vocabulary slotCount count s = .ok (made, s')) :
    made.length = count ∧ ∀ i ∈ made, P i := by
  induction count generalizing made s s' with
  | zero =>
    obtain ⟨rfl, -⟩ := Draw.pure_eq_ok.mp h
    exact ⟨rfl, fun i hi => absurd hi List.not_mem_nil⟩
  | succ count ih =>
    obtain ⟨first, s₁, rest, h1, h2, rfl⟩ := plan_succ_eq_ok_iff.mp h
    obtain ⟨hlen, hall⟩ := ih h2
    refine ⟨congrArg Nat.succ hlen, fun i hi => ?_⟩
    rcases List.mem_cons.mp hi with rfl | hi
    · exact hP _ _ _ h1
    · exact hall i hi

theorem plan_fits {mode : InsertionMode} {vocabulary : List String} {slotCount count : Nat}
    {made : List Insertion} {s s' : σ}
    (h : plan mode vocabulary slotCount count s = .ok (made, s')) : Fits slotCount made :=
  (plan_forall (fun _ _ _ hone => (planOne_fits hone).2) h).2

theorem exists_plan (mode : InsertionMode) {vocabulary : List String} (hv : vocabulary ≠ [])
    (slotCount count : Nat) (s : σ) :
    ∃ made s', plan mode vocabulary slotCount count s = .ok (made, s') := by
  induction count generalizing s with
  | zero => exact ⟨[], s, rfl⟩
  | succ count ih =>
    obtain ⟨first, s₁, h1⟩ := exists_planOne mode hv slotCount s
    obtain ⟨rest, s₂, h2⟩ := ih s₁
    exact ⟨first :: rest, s₂, plan_succ_eq_ok_iff.mpr ⟨first, s₁, rest, h1, h2, rfl⟩⟩

/-- an injection succeeds exactly when its draws do -/
theorem inject_eq_ok_iff {mode : InsertionMode} {vocabulary : List String} {count : Nat}
    {text out : String} {s s' : σ} :
    inject mode vocabulary count text s = .ok (out, s') ↔
      ∃ made, plan mode vocabulary (slots mode text.toList).length count s = .ok (made, s') ∧
        out = String.ofList
          (weave text.toList (planned (slots mode text.toList).length made)) := by
  have hlift : ∀ (made : List Insertion) (s₁ : σ), Fits (slots mode text.toList).length made →
      (liftM (carryOut (slots mode text.toList) made text) : Draw σ String) s₁ =
        .ok (String.ofList
          (weave text.toList (planned (slots mode text.toList).length made)), s₁) := by
    intro made s₁ hf
    rw [carryOut_eq_ok hf]
    rfl
  constructor
  · intro h
    obtain ⟨made, s₁, hp, h⟩ := Draw.bind_eq_ok.mp h
    have hc := hlift made s₁ (plan_fits hp)
    obtain ⟨ho, hs⟩ := Prod.mk.inj (Except.ok.inj (hc.symm.trans h))
    exact ⟨made, by rw [← hs]; exact hp, ho.symm⟩
  · rintro ⟨made, hp, rfl⟩
    exact Draw.bind_eq_ok.mpr ⟨made, s', hp, hlift made s' (plan_fits hp)⟩

/-! ## plans without a choice of slots -/

/-- `count` buzzwords, drawn one after the other -/
def words (vocabulary : List String) : (count : Nat) → Draw σ (List String)
  | 0 => return []
  | count + 1 => do
    let first ← Draw.pick vocabulary
    let rest ← words vocabulary count
    return first :: rest

/-- the slot of every insertion, unless it is drawn -/
def fixedSlot (slotCount : Nat) : Option Nat := if slotCount = 0 then none else some 0

theorem planOne_eq_pick {mode : InsertionMode} {slotCount : Nat}
    (h : mode = .firstSpace ∨ slotCount = 0) (vocabulary : List String) :
    (planOne mode vocabulary slotCount : Draw σ Insertion) =
      (fun buzzword => ⟨buzzword, fixedSlot slotCount⟩) <$> Draw.pick vocabulary := by
  rw [map_eq_pure_bind, planOne]
  congr 1
  funext buzzword
  by_cases hn : slotCount = 0
  · rw [if_pos hn, fixedSlot, if_pos hn]
  · obtain rfl := h.resolve_right hn
    rw [if_neg hn, fixedSlot, if_neg hn]

theorem plan_eq_words {mode : InsertionMode} {slotCount : Nat}
    (h : mode = .firstSpace ∨ slotCount = 0) (vocabulary : List String) (count : Nat) :
    (plan mode vocabulary slotCount count : Draw σ (List Insertion)) =
      (fun row => row.map fun buzzword => ⟨buzzword, fixedSlot slotCount⟩)
        <$> words vocabulary count := by
  induction count with
  | zero => rw [plan, words, map_pure]; rfl
  | succ count ih =>
    rw [plan, words, planOne_eq_pick h, ih]
    simp only [map_eq_pure_bind, bind_assoc, pure_bind]
    rfl

end Jargon.Injection
