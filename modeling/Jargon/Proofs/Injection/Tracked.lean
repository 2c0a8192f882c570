import Jargon.Engine.Operation
import Jargon.Proofs.Injection.Plan

/-!
# Injection at tracked gaps

In the mode `scatter` an injection gives what a loop would that keeps the text together with the
places of the spaces it began with, and puts each buzzword behind one of them.  What is put in
moves the later gaps; the spaces it brings are no gaps.

* `Tracked.insert`, `scatterEach`   one turn of the loop, and the loop;
* `insert_woven`            a turn puts one more word on one stack;
* `scatterEach_woven`       so the loop weaves the stacks of its plan into the text;
* `inject_eq_scatterEach`   both give the same text and leave the same source.
-/

namespace Jargon.Injection

/-! ## the loop -/

/-- places of the spaces in characters, the first character being at `offset` -/
def placesFrom (offset : Nat) : List Char → List Nat
  | [] => []
  | c :: rest =>
    if c = ' ' then offset :: placesFrom (offset + 1) rest else placesFrom (offset + 1) rest

/-- a text that grows, and where the spaces it began with stand by now -/
structure Tracked where
  text : List Char
  gaps : List Nat

namespace Tracked

/-- all spaces of a text are its gaps -/
def ofText (text : List Char) : Tracked := ⟨text, placesFrom 0 text⟩

/-- a word and a space right behind a gap; the gaps after it move -/
def insert (t : Tracked) (gap : Nat) (word : String) : Tracked :=
  match t.gaps[gap]? with
  | none => t
  | some place =>
    { text := t.text.take (place + 1) ++ (word.toList ++ ' ' :: t.text.drop (place + 1))
      gaps := t.gaps.take (gap + 1) ++ (t.gaps.drop (gap + 1)).map (· + (word.length + 1)) }

end Tracked

/-- `count` times: draws a buzzword, then one of the gaps, and puts the one behind the other -/
def scatterEach {σ : Type} [WordSource σ] (vocabulary : List String) :
    (count : Nat) → Tracked → Draw σ String
  | 0, t => return String.ofList t.text
  | count + 1, t => do
    let word ← Draw.pick vocabulary
    let gap ← Draw.below t.gaps.length
    scatterEach vocabulary count (t.insert gap word)

/-! ## the gaps of a woven text -/

/-- places in the woven text of the spaces that have a stack -/
def wovenPlaces (offset : Nat) : List Char → List (List String) → List Nat
  | _, [] => []
  | [], _ :: _ => []
  | c :: rest, stack :: held =>
    if c = ' ' then offset :: wovenPlaces (offset + 1 + (stackChars stack).length) rest held
    else wovenPlaces (offset + 1) rest (stack :: held)

@[simp]
theorem wovenPlaces_nil (offset : Nat) (text : List Char) : wovenPlaces offset text [] = [] := by
  cases text <;> rfl

@[simp]
theorem wovenPlaces_empty (offset : Nat) (held : List (List String)) :
    wovenPlaces offset [] held = [] := by
  cases held <;> rfl

@[simp]
theorem wovenPlaces_space (offset : Nat) (rest : List Char) (stack : List String)
    (held : List (List String)) :
    wovenPlaces offset (' ' :: rest) (stack :: held) =
      offset :: wovenPlaces (offset + 1 + (stackChars stack).length) rest held := by
  rw [wovenPlaces, if_pos rfl]

@[simp]
theorem wovenPlaces_cons_of_ne {c : Char} (h : c ≠ ' ') (offset : Nat) (rest : List Char)
    (held : List (List String)) :
    wovenPlaces offset (c :: rest) held = wovenPlaces (offset + 1) rest held := by
  cases held with
  | nil => simp
  | cons stack held => rw [wovenPlaces, if_neg h]

theorem wovenPlaces_shift (text : List Char) (held : List (List String)) (offset by_ : Nat) :
    wovenPlaces (offset + by_) text held = (wovenPlaces offset text held).map (· + by_) := by
  induction text generalizing held offset with
  | nil => simp
  | cons c rest ih =>
    by_cases hc : c = ' '
    · subst hc
      cases held with
      | nil => simp
      | cons stack held =>
        have e : offset + by_ + 1 + (stackChars stack).length =
            offset + 1 + (stackChars stack).length + by_ := by omega
        simp [e, ih]
    · simp [hc, Nat.add_right_comm offset by_ 1, ih]

theorem wovenPlaces_append (a b : List Char) (held more : List (List String)) (offset : Nat)
    (h : held.length = a.count ' ') :
    wovenPlaces offset (a ++ b) (held ++ more) =
      wovenPlaces offset a held ++ wovenPlaces (offset + (weave a held).length) b more := by
  induction a generalizing held offset with
  | nil =>
    obtain rfl : held = [] := List.eq_nil_of_length_eq_zero h
    simp
  | cons c a ih =>
    by_cases hc : c = ' '
    · subst hc
      rw [List.count_cons_self] at h
      obtain ⟨stack, held, rfl⟩ := List.exists_cons_of_length_eq_add_one h
      have hl : held.length = a.count ' ' := Nat.succ.inj h
      have e : offset + 1 + (stackChars stack).length + (weave a held).length =
          offset + (weave (' ' :: a) (stack :: held)).length := by
        rw [weave_space, List.length_cons, List.length_append]
        omega
      rw [List.cons_append, List.cons_append, wovenPlaces_space, wovenPlaces_space, ih held _ hl, e,
        List.cons_append]
    · rw [List.count_cons_of_ne hc] at h
      have e : offset + 1 + (weave a held).length = offset + (weave (c :: a) held).length := by
        rw [weave_cons_of_ne hc, List.length_cons]
        omega
      rw [List.cons_append, wovenPlaces_cons_of_ne hc, wovenPlaces_cons_of_ne hc, ih held _ h, e]

theorem length_wovenPlaces (text : List Char) (held : List (List String)) (offset : Nat)
    (h : held.length = text.count ' ') : (wovenPlaces offset text held).length = held.length := by
  induction text generalizing held offset with
  | nil => simp [h]
  | cons c rest ih =>
    by_cases hc : c = ' '
    · subst hc
      rw [List.count_cons_self] at h
      obtain ⟨stack, held, rfl⟩ := List.exists_cons_of_length_eq_add_one h
      simp [ih held _ (Nat.succ.inj h)]
    · rw [List.count_cons_of_ne hc] at h
      simp [hc, ih held _ h]

/-- the text with its stacks, each stack behind a gap -/
def woven (text : List Char) (held : List (List String)) : Tracked :=
  ⟨weave text held, wovenPlaces 0 text held⟩

theorem weave_replicate (text : List Char) (n : Nat) : weave text (List.replicate n []) = text := by
  induction text generalizing n with
  | nil => simp
  | cons c rest ih =>
    by_cases hc : c = ' '
    · subst hc
      cases n with
      | zero => simp
      | succ n => simp [List.replicate_succ, ih]
    · simp [hc, ih]

theorem wovenPlaces_replicate (text : List Char) (offset : Nat) :
    wovenPlaces offset text (List.replicate (text.count ' ') []) = placesFrom offset text := by
  induction text generalizing offset with
  | nil => rfl
  | cons c rest ih =>
    by_cases hc : c = ' '
    · subst hc
      simp [List.replicate_succ, ih, placesFrom]
    · simp [hc, ih, placesFrom]

/-- empty stacks change nothing -/
theorem woven_replicate (text : List Char) :
    woven text (List.replicate (text.count ' ') []) = .ofText text := by
  rw [woven, weave_replicate, wovenPlaces_replicate]
  rfl

/-! ## one turn of the loop -/

theorem Tracked.insert_cut (front back : List Char) (c : Char) (before after : List Nat)
    (word : String) :
    insert ⟨front ++ c :: back, before ++ front.length :: after⟩ before.length word =
      ⟨front ++ c :: (word.toList ++ ' ' :: back),
        before ++ front.length :: after.map (· + (word.length + 1))⟩ := by
  have hplace : (before ++ front.length :: after)[before.length]? = some front.length := by
    rw [List.getElem?_append_right (Nat.le_refl _), Nat.sub_self]
    rfl
  unfold insert
  rw [hplace]
  show Tracked.mk _ _ = Tracked.mk _ _
  rw [List.take_length_add_append, List.drop_length_add_append, List.take_length_add_append,
    List.drop_length_add_append]
  simp

/-- **A turn of the loop puts one word on the stack of its gap.** -/
theorem insert_woven {text : List Char} {held : List (List String)} {gap : Nat}
    (h : held.length = text.count ' ') (hg : gap < held.length) (word : String) :
    (woven text held).insert gap word = woven text (held.modify gap (word :: ·)) := by
  obtain ⟨before, stack, after, rfl, rfl⟩ := exists_cut_of_lt hg
  obtain ⟨a, b, rfl, ha⟩ := exists_cut_at_space (h ▸ hg)
  have hwoven : ∀ stack', woven (a ++ ' ' :: b) (before ++ stack' :: after) =
      ⟨weave a before ++ ' ' :: (stackChars stack' ++ weave b after),
        wovenPlaces 0 a before ++ (weave a before).length ::
          wovenPlaces ((weave a before).length + 1 + (stackChars stack').length) b after⟩ := by
    intro stack'
    rw [woven, weave_append a _ before _ ha.symm, weave_space,
      wovenPlaces_append a _ before _ 0 ha.symm, wovenPlaces_space, Nat.zero_add]
  have hshift : (weave a before).length + 1 + (stackChars (word :: stack)).length =
      (weave a before).length + 1 + (stackChars stack).length + (word.length + 1) := by
    rw [stackChars_cons, List.length_append, List.length_cons, String.length_toList]
    omega
  have hgap : before.length = (wovenPlaces 0 a before).length :=
    (length_wovenPlaces a before 0 ha.symm).symm
  rw [modify_cut, hwoven stack, hwoven (word :: stack), hshift,
    wovenPlaces_shift b after _ (word.length + 1), hgap, Tracked.insert_cut, stackChars_cons,
    List.append_assoc, List.cons_append]

/-! ## the loop as a whole -/

/-- the loop follows a plan: its words end up on the stacks of their slots -/
theorem scatterEach_woven {σ : Type} [WordSource σ] {vocabulary : List String} {text : List Char}
    {count : Nat} {held : List (List String)} {made : List Insertion} {s s' : σ}
    (hpos : ' ' ∈ text) (h : held.length = text.count ' ')
    (hplan : plan .scatter vocabulary held.length count s = .ok (made, s')) :
    scatterEach vocabulary count (woven text held) s =
      .ok (String.ofList (weave text (made.foldl hold held)), s') := by
  induction count generalizing held made s with
  | zero =>
    obtain ⟨rfl, rfl⟩ := Draw.pure_eq_ok.mp hplan
    rfl
  | succ count ih =>
    obtain ⟨first, s₂, rest, hfirst, hrest, rfl⟩ := plan_succ_eq_ok_iff.mp hplan
    obtain ⟨word, s₁, hword, hfirst⟩ := Draw.bind_eq_ok.mp hfirst
    have hne : held.length ≠ 0 := by
      rw [h]
      exact Nat.pos_iff_ne_zero.mp (List.count_pos_iff.mpr hpos)
    rw [if_neg hne] at hfirst
    obtain ⟨gap, s₄, hgap, hfirst⟩ := Draw.bind_eq_ok.mp hfirst
    obtain ⟨rfl, rfl⟩ := Draw.pure_eq_ok.mp hfirst
    have hlt := Draw.below_eq_ok_lt hgap
    have hgaps : (woven text held).gaps.length = held.length := length_wovenPlaces text held 0 h
    have hlen : (held.modify gap (word :: ·)).length = held.length := List.length_modify _ _ _
    refine Draw.bind_eq_ok.mpr ⟨word, s₁, hword, Draw.bind_eq_ok.mpr ⟨gap, s₂, ?_, ?_⟩⟩
    · rw [hgaps]
      exact hgap
    · rw [insert_woven h hlt]
      exact ih (hlen.trans h) (hlen ▸ hrest)

end Jargon.Injection

namespace Jargon.Engine

open Injection

/-- **In the mode `scatter` an injection is the loop over tracked gaps**, with as many turns as the
text it is given requires; a text without a gap stays as it is, and uses up the words alone. -/
theorem inject_eq_scatterEach {σ : Type} [WordSource σ] (e : Engine σ) (hm : e.mode = .scatter)
    (hv : e.lexicon.vocabulary ≠ []) (text : String) :
    (' ' ∈ text.toList → ∃ out source,
      inject text e = .ok (out, { e with source }) ∧
      scatterEach e.lexicon.vocabulary (e.required text) (.ofText text.toList) e.source =
        .ok (out, source)) ∧
    (' ' ∉ text.toList → ∃ row source,
      inject text e = .ok (text, { e with source }) ∧
      words e.lexicon.vocabulary (e.required text) e.source = .ok (row, source)) := by
  have hn : (slots .scatter text.toList).length = text.toList.count ' ' :=
    length_slotsFrom text.toList 0
  obtain ⟨made, source, hplan⟩ := exists_plan .scatter hv (text.toList.count ' ')
    (e.required text) e.source
  have hinject : inject text e = .ok
      (String.ofList (weave text.toList (planned (text.toList.count ' ') made)),
        { e with source }) := by
    refine generate_eq_ok.mpr ⟨source, ?_, rfl⟩
    rw [hm]
    exact inject_eq_ok_iff.mpr ⟨made, by rw [hn]; exact hplan, by rw [hn]⟩
  constructor
  · intro hs
    refine ⟨_, source, hinject, ?_⟩
    rw [← woven_replicate]
    exact scatterEach_woven hs List.length_replicate (by rw [List.length_replicate]; exact hplan)
  · intro hs
    rw [weave_of_not_mem hs, String.ofList_toList] at hinject
    rw [plan_eq_words (.inr (List.count_eq_zero.mpr hs))] at hplan
    obtain ⟨row, hrow, -⟩ := Draw.map_eq_ok.mp hplan
    exact ⟨row, source, hinject, hrow⟩

/-- a text with two gaps, and one without -/
theorem inject_eq_scatterEach_twoGaps :
    let e : Engine Stepper :=
      { ofLexicon ⟨["deep dive", "synergy"], ["empower"], ["paradigm"]⟩ ⟨0, 0x3000000000000000⟩ with
        mode := .scatter }
    (e.mode = .scatter ∧ e.lexicon.vocabulary ≠ [] ∧ ' ' ∈ "a é b".toList ∧ ' ' ∉ "aéb".toList) ∧
    (∃ out source, inject "a é b" e = .ok (out, { e with source }) ∧
      scatterEach e.lexicon.vocabulary (e.required "a é b") (.ofText "a é b".toList) e.source =
        .ok (out, source)) ∧
    ∃ row source, inject "aéb" e = .ok ("aéb", { e with source }) ∧
      words e.lexicon.vocabulary (e.required "aéb") e.source = .ok (row, source) := by
  intro e
  exact ⟨⟨rfl, by decide, by decide, by decide⟩,
    (inject_eq_scatterEach e rfl (by decide) "a é b").1 (by decide),
    (inject_eq_scatterEach e rfl (by decide) "aéb").2 (by decide)⟩

example : (inject "a é b" ({ ofLexicon ⟨["deep dive", "synergy"], ["empower"], ["paradigm"]⟩
    (⟨0, 0x3000000000000000⟩ : Stepper) with mode := .scatter })).toOption.map (·.1) =
      some "a synergy deep dive é synergy b" := by
  decide +kernel

end Jargon.Engine
