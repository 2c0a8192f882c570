import Jargon.Proofs.Engine.Safety

/-!
# Scoring and generation are apart

Generation reads the lexicon, the mode and the source, and moves the source; scoring reads the
lexicon, the thresholds and the coefficient, and records a level, which nothing reads.  So each of
the two goes on as if the other had not happened.

* `Operation.Pruned`      a run of which some operations are left out;
* `Unwinds`               what one operation may do to a view of the engine;
* `Unwinds.run`           then answers that depend on the view survive in a pruned run;
* `unwinds_generation`, `unwinds_scoring`   the two views;
* `synergyLevel_of_run`   the level is that of the last recorded scoring;
* `scoring_apart_from_generation`   all of this for engines that can be made.
-/

namespace Jargon

namespace Operation

/-- `fewer` is a run of which some operations that satisfy `p` are left out -/
inductive Pruned (p : Operation → Bool) : (fewer ops : List Operation) → Prop
  | nil : Pruned p [] []
  | keep (op : Operation) {fewer ops : List Operation} (h : Pruned p fewer ops) :
      Pruned p (op :: fewer) (op :: ops)
  | drop {op : Operation} (hp : p op = true) {fewer ops : List Operation}
      (h : Pruned p fewer ops) : Pruned p fewer (op :: ops)

/-- the text of the last scoring that is recorded -/
def lastRecorded? (ops : List Operation) : Option String := (ops.filterMap recorded?).getLast?

/-- the answers to those operations that satisfy `p` -/
def answersOf (p : Operation → Bool) (ops : List Operation) (answers : List Answer) :
    List Answer :=
  ((ops.zip answers).filter fun step => p step.1).map (·.2)

section

variable {p : Operation → Bool} {op : Operation} (ops : List Operation) (answer : Answer)
  (answers : List Answer)

@[simp]
theorem answersOf_cons_of_pos (h : p op = true) :
    answersOf p (op :: ops) (answer :: answers) = answer :: answersOf p ops answers := by
  rw [answersOf, List.zip_cons_cons, List.filter_cons, if_pos h, List.map_cons, answersOf]

@[simp]
theorem answersOf_cons_of_neg (h : p op = false) :
    answersOf p (op :: ops) (answer :: answers) = answersOf p ops answers := by
  rw [answersOf, List.zip_cons_cons, List.filter_cons, if_neg (Bool.eq_false_iff.mp h), answersOf]

end

end Operation

namespace Engine

open Operation

variable {σ : Type}

/-! ## the level of a run -/

theorem analyze_after (e : Engine σ) (op : Operation) (source : σ) (text : String) :
    (e.after op source).analyze text = e.analyze text := by
  rw [analyze, analyze, after]

@[simp]
theorem levelAfter_cons (e : Engine σ) (op : Operation) (source : σ) (ops : List Operation) :
    (e.after op source).levelAfter (lastRecorded? ops) =
      e.levelAfter (lastRecorded? (op :: ops)) := by
  have hlast : lastRecorded? (op :: ops) = (lastRecorded? ops).or op.recorded? := by
    rw [lastRecorded?, lastRecorded?, List.filterMap_cons]
    cases op.recorded? with
    | none => exact Option.or_none.symm
    | some text =>
      dsimp only
      rw [List.getLast?_cons]
      cases (ops.filterMap recorded?).getLast? <;> rfl
  rw [hlast]
  cases lastRecorded? ops with
  | none => rw [levelAfter, Option.none_or, after]
  | some text => rw [levelAfter, analyze_after, Option.some_or, levelAfter]

variable [WordSource σ]

/-! ## runs seen through a view -/

/-- What one operation does to a view of the engine: those that satisfy `p` answer, and change the
view, according to the view alone; the others do not change it. -/
structure Unwinds {α : Type} (p : Operation → Bool) (view : Engine σ → α) : Prop where
  kept : ∀ {op : Operation} {e f e' : Engine σ} {answer : Answer}, p op = true →
    view e = view f → perform op e = .ok (answer, e') →
    ∃ f', perform op f = .ok (answer, f') ∧ view e' = view f'
  other : ∀ {op : Operation} {e e' : Engine σ} {answer : Answer}, p op = false →
    perform op e = .ok (answer, e') → view e' = view e

/-- **Leaving out what a view does not see changes no answer that depends on it.** -/
theorem Unwinds.run {α : Type} {p : Operation → Bool} {view : Engine σ → α}
    (hu : Unwinds p view) {fewer ops : List Operation} (h : Pruned (fun op => !p op) fewer ops)
    {e f e' : Engine σ} {answers : List Answer} (hf : f.lexicon.Filled) (hv : view e = view f)
    (hrun : run ops e = .ok (answers, e')) :
    ∃ answers' f', run fewer f = .ok (answers', f') ∧
      answersOf p fewer answers' = answersOf p ops answers ∧ view e' = view f' := by
  induction h generalizing e f answers with
  | nil =>
    obtain ⟨rfl, rfl⟩ := run_nil_eq_ok_iff.mp hrun
    exact ⟨[], f, rfl, rfl, hv⟩
  | @keep op fewer ops h ih =>
    obtain ⟨answer, e₁, rest, hop, hops, rfl⟩ := run_cons_eq_ok_iff.mp hrun
    cases hp : p op with
    | true =>
      obtain ⟨f₁, hop', hv₁⟩ := hu.kept hp hv hop
      have hf₁ : f₁.lexicon.Filled := (lexicon_of_perform hop').symm ▸ hf
      obtain ⟨rest', f', hops', hsame, hv'⟩ := ih hf₁ hv₁ hops
      refine ⟨answer :: rest', f', run_cons_eq_ok_iff.mpr ⟨answer, f₁, rest', hop', hops', rfl⟩,
        ?_, hv'⟩
      rw [answersOf_cons_of_pos _ _ _ hp, answersOf_cons_of_pos _ _ _ hp, hsame]
    | false =>
      obtain ⟨answer', f₁, hop'⟩ := exists_perform hf op
      have hf₁ : f₁.lexicon.Filled := (lexicon_of_perform hop').symm ▸ hf
      have hv₁ : view e₁ = view f₁ :=
        (hu.other hp hop).trans (hv.trans (hu.other hp hop').symm)
      obtain ⟨rest', f', hops', hsame, hv'⟩ := ih hf₁ hv₁ hops
      refine ⟨answer' :: rest', f', run_cons_eq_ok_iff.mpr ⟨answer', f₁, rest', hop', hops', rfl⟩,
        ?_, hv'⟩
      rw [answersOf_cons_of_neg _ _ _ hp, answersOf_cons_of_neg _ _ _ hp, hsame]
  | @drop op hp fewer ops h ih =>
    obtain ⟨answer, e₁, rest, hop, hops, rfl⟩ := run_cons_eq_ok_iff.mp hrun
    have hp' : p op = false := by simpa using hp
    obtain ⟨rest', f', hops', hsame, hv'⟩ := ih hf ((hu.other hp' hop).trans hv) hops
    refine ⟨rest', f', hops', ?_, hv'⟩
    rw [answersOf_cons_of_neg _ _ _ hp', hsame]

/-! ## the two views -/

/-- an operation that generates nothing leaves the source where it is -/
theorem perform_of_not_generates {op : Operation} (h : op.generates = false)
    {e e' : Engine σ} {answer : Answer} (hop : perform op e = .ok (answer, e')) :
    e' = e.after op e.source ∧ ∀ f : Engine σ, f.lexicon = e.lexicon →
      f.thresholds = e.thresholds → f.coefficient = e.coefficient →
      perform op f = .ok (answer, f.after op f.source) := by
  obtain ⟨source, ha, rfl⟩ := perform_eq_ok_iff.mp hop
  obtain ⟨answer', hpure⟩ := exists_answered_eq_pure h e
  rw [hpure e rfl rfl rfl] at ha
  obtain ⟨rfl, rfl⟩ := Draw.pure_eq_ok.mp ha
  refine ⟨rfl, fun f hl ht hc => perform_eq_ok_iff.mpr ⟨f.source, ?_, rfl⟩⟩
  rw [hpure f hl ht hc]
  rfl

theorem unwinds_generation :
    Unwinds generates fun e : Engine σ => (e.lexicon, e.mode, e.source) where
  kept := by
    intro op e f e' answer h hv hop
    obtain ⟨hl, hm, hs⟩ := Prod.mk.inj hv |>.imp id Prod.mk.inj
    obtain ⟨source, ha, rfl⟩ := perform_eq_ok_iff.mp hop
    rw [answered_congr_of_generates h hl hm, hs] at ha
    refine ⟨f.after op source, perform_eq_ok_iff.mpr ⟨source, ha, rfl⟩, ?_⟩
    show (e.lexicon, e.mode, source) = (f.lexicon, f.mode, source)
    rw [hl, hm]
  other := by
    intro op e e' answer h hop
    obtain ⟨rfl, -⟩ := perform_of_not_generates h hop
    rfl

theorem unwinds_scoring :
    Unwinds (fun op => !op.generates) fun e : Engine σ =>
      (e.lexicon, e.thresholds, e.coefficient) where
  kept := by
    intro op e f e' answer h hv hop
    obtain ⟨hl, ht, hc⟩ := Prod.mk.inj hv |>.imp id Prod.mk.inj
    obtain ⟨rfl, hf⟩ := perform_of_not_generates (by simpa using h) hop
    exact ⟨f.after op f.source, hf f hl.symm ht.symm hc.symm, hv⟩
  other := by
    intro op e e' answer h hop
    obtain ⟨source, -, rfl⟩ := perform_eq_ok_iff.mp hop
    rfl

/-! ## what a run leaves -/

theorem synergyLevel_of_run {ops : List Operation} {e e' : Engine σ} {answers : List Answer}
    (h : run ops e = .ok (answers, e')) :
    e'.synergyLevel = e.levelAfter (lastRecorded? ops) := by
  induction ops generalizing e answers with
  | nil =>
    obtain ⟨-, rfl⟩ := run_nil_eq_ok_iff.mp h
    rfl
  | cons op ops ih =>
    obtain ⟨answer, f, rest, hop, hops, -⟩ := run_cons_eq_ok_iff.mp h
    obtain ⟨source, -, rfl⟩ := perform_eq_ok_iff.mp hop
    rw [ih hops, levelAfter_cons]

/-- what an engine is built with -/
theorem settings_of_run {ops : List Operation} {e e' : Engine σ} {answers : List Answer}
    (h : run ops e = .ok (answers, e')) :
    e'.lexicon = e.lexicon ∧ e'.mode = e.mode ∧ e'.thresholds = e.thresholds ∧
      e'.coefficient = e.coefficient := by
  induction ops generalizing e answers with
  | nil =>
    obtain ⟨-, rfl⟩ := run_nil_eq_ok_iff.mp h
    exact ⟨rfl, rfl, rfl, rfl⟩
  | cons op ops ih =>
    obtain ⟨answer, f, rest, hop, hops, -⟩ := run_cons_eq_ok_iff.mp h
    obtain ⟨source, -, rfl⟩ := perform_eq_ok_iff.mp hop
    have hrest := ih hops
    exact hrest

/-- **Scoring and generation are apart**, however the engine was made and whatever is done with it.
The level is that of the last scoring that was recorded; the settings stay; what is generated does
not depend on what is scored, nor the other way round; and a text complies exactly when all checks
of its verdict hold. -/
theorem scoring_apart_from_generation {e : Engine σ} (h : Constructed e) (ops : List Operation) :
    ∃ answers e', run ops e = .ok (answers, e') ∧
      e'.synergyLevel = (lastRecorded? ops).elim 0 (fun text =>
        (Report.ofText text e.lexicon.vocabulary e.coefficient).synergyLevel) ∧
      (e'.lexicon = e.lexicon ∧ e'.mode = e.mode ∧ e'.thresholds = e.thresholds ∧
        e'.coefficient = e.coefficient) ∧
      (∀ fewer, Pruned (fun op => !op.generates) fewer ops →
        ∃ answers' e'', run fewer e = .ok (answers', e'') ∧
          answersOf generates fewer answers' = answersOf generates ops answers) ∧
      (∀ fewer, Pruned generates fewer ops →
        ∃ answers' e'', run fewer e = .ok (answers', e'') ∧
          answersOf (fun op => !op.generates) fewer answers' =
            answersOf (fun op => !op.generates) ops answers) ∧
      ∀ text, perform (.verdict text) e' = .ok (.verdict (e'.verdict text), e') ∧
        ∃ e'', perform (.complies text) e' = .ok (.flag (e'.verdict text).passes, e'') := by
  have hfilled := h.lexicon.filled
  obtain ⟨answers, e', hrun, -⟩ := exists_run ops hfilled
  refine ⟨answers, e', hrun, ?level, settings_of_run hrun, ?generation, ?scoring, ?verdict⟩
  case level =>
    rw [synergyLevel_of_run hrun]
    cases lastRecorded? ops with
    | none => rw [levelAfter, h.synergyLevel, Option.elim_none]
    | some text => rw [levelAfter, analyze, Option.elim_some]
  case generation =>
    intro fewer hpruned
    obtain ⟨answers', e'', hfewer, hsame, -⟩ := unwinds_generation.run hpruned hfilled rfl hrun
    exact ⟨answers', e'', hfewer, hsame⟩
  case scoring =>
    intro fewer hpruned
    have hnot : Pruned (fun op => !!op.generates) fewer ops := by simpa using hpruned
    obtain ⟨answers', e'', hfewer, hsame, -⟩ := unwinds_scoring.run hnot hfilled rfl hrun
    exact ⟨answers', e'', hfewer, hsame⟩
  case verdict =>
    intro text
    exact ⟨rfl, _, perform_complies text e'⟩

/-- a recorded scoring between two generations, which are then made without it -/
theorem scoring_apart_from_generation_scoreBetween :
    let e : Engine Stepper := ofLexicon .builtin ⟨0, 1⟩
    Constructed e ∧
      ∃ answers e', run [.subject, .score "synergy", .inject "a b"] e = .ok (answers, e') ∧
        e'.synergyLevel =
          (Report.ofText "synergy" e.lexicon.vocabulary e.coefficient).synergyLevel ∧
        Pruned (fun op => !op.generates) [.subject, .inject "a b"]
          [.subject, .score "synergy", .inject "a b"] ∧
        ∃ answers' e'', run [.subject, .inject "a b"] e = .ok (answers', e'') ∧
          answersOf generates [.subject, .inject "a b"] answers' =
            answersOf generates [.subject, .score "synergy", .inject "a b"] answers := by
  intro e
  have he : Constructed e := .ofLexicon .builtin _
  have hpruned : Pruned (fun op => !op.generates) [.subject, .inject "a b"]
      [.subject, .score "synergy", .inject "a b"] :=
    .keep _ (.drop rfl (.keep _ .nil))
  obtain ⟨answers, e', hrun, hlevel, -, hgeneration, -⟩ :=
    scoring_apart_from_generation he [.subject, .score "synergy", .inject "a b"]
  exact ⟨he, answers, e', hrun, hlevel, hpruned, hgeneration _ hpruned⟩

end Engine

end Jargon
