import Mathlib.Data.List.Forall2
import Jargon.Proofs.Engine.Safety

/-!
# Texts reach the source through counts

How many words an operation takes from the source, and which entries it draws with them, does not
depend on what a text says: only on how many buzzwords it requires and, if slots are drawn, on how
many spaces it has.  Runs on different texts with the same counts therefore never get out of step.

* `performTraced`, `trace`   operations and runs that record which buzzwords an injection draws;
* `run_eq_map_trace`         a run is its trace with the record left out;
* `Operation.Alike`          the same operation, on texts with the same counts;
* `Step.Agree`               the same draws were made;
* `plan_words`               a plan draws the same buzzwords for all slots, unless it draws these;
* `exists_performTraced`     one operation on two texts;
* `exists_trace`             two runs;
* `runs_stay_in_step`        all of this for a lexicon that can be made.
-/

namespace Jargon

/-! ## what is recorded -/

/-- an operation with its answer and the buzzwords that an injection drew for it, in order -/
structure Step where
  operation : Operation
  answer : Answer
  drawn : List String
  deriving DecidableEq, Repr

namespace Injection

variable {σ : Type} [WordSource σ]

/-- an injection that also gives the buzzwords it drew -/
def injectTraced (mode : InsertionMode) (vocabulary : List String) (count : Nat) (text : String) :
    Draw σ (List String × String) := do
  let slots := slots mode text.toList
  let plan ← plan mode vocabulary slots.length count
  let out ← carryOut slots plan text
  return (plan.map Insertion.buzzword, out)

theorem inject_eq_map_injectTraced (mode : InsertionMode) (vocabulary : List String) (count : Nat)
    (text : String) :
    (inject mode vocabulary count text : Draw σ String) =
      Prod.snd <$> injectTraced mode vocabulary count text := by
  rw [inject, injectTraced]
  simp only [map_eq_pure_bind, bind_assoc, pure_bind, bind_pure]

theorem inject_of_injectTraced {mode : InsertionMode} {vocabulary : List String} {count : Nat}
    {text out : String} {words : List String} {s s' : σ}
    (h : injectTraced mode vocabulary count text s = .ok ((words, out), s')) :
    inject mode vocabulary count text s = .ok (out, s') := by
  rw [inject_eq_map_injectTraced]
  exact Draw.map_eq_ok.mpr ⟨_, h, rfl⟩

/-- the buzzwords of a plan do not depend on the slots, unless these are drawn as well -/
theorem plan_words {mode : InsertionMode} {n n' : Nat} (hn : mode = .scatter → n = n')
    {vocabulary : List String} {count : Nat} {made : List Insertion} {s s' : σ}
    (h : plan mode vocabulary n count s = .ok (made, s')) :
    ∃ made', plan mode vocabulary n' count s = .ok (made', s') ∧
      made'.map Insertion.buzzword = made.map Insertion.buzzword := by
  cases mode with
  | scatter =>
    obtain rfl := hn rfl
    exact ⟨made, h, rfl⟩
  | firstSpace =>
    rw [plan_eq_words (.inl rfl)] at h ⊢
    obtain ⟨row, hrow, rfl⟩ := Draw.map_eq_ok.mp h
    refine ⟨_, Draw.map_eq_ok.mpr ⟨row, hrow, rfl⟩, ?_⟩
    rw [List.map_map, List.map_map]
    rfl

theorem injectTraced_eq_ok_of_plan {mode : InsertionMode} {vocabulary : List String} {count : Nat}
    {text : String} {made : List Insertion} {s s' : σ}
    (h : plan mode vocabulary (slots mode text.toList).length count s = .ok (made, s')) :
    ∃ out, injectTraced mode vocabulary count text s =
      .ok ((made.map Insertion.buzzword, out), s') := by
  obtain ⟨out, hout⟩ : ∃ out, carryOut (slots mode text.toList) made text = .ok out :=
    ⟨_, carryOut_eq_ok (plan_fits h)⟩
  refine ⟨out, Draw.bind_eq_ok.mpr ⟨made, s', h, Draw.bind_eq_ok.mpr ⟨out, s', ?_, rfl⟩⟩⟩
  rw [hout]
  rfl

theorem length_slots_of_count {mode : InsertionMode} {text text' : List Char}
    (h : mode = .scatter → text.count ' ' = text'.count ' ') :
    mode = .scatter → (slots mode text).length = (slots mode text').length := by
  rintro rfl
  rw [slots, slots, length_slotsFrom, length_slotsFrom, h rfl]

/-- one injection into two texts -/
theorem exists_injectTraced {mode : InsertionMode} {vocabulary : List String}
    (hv : vocabulary ≠ []) (count : Nat) {text text' : String}
    (h : mode = .scatter → text.toList.count ' ' = text'.toList.count ' ') (s : σ) :
    ∃ words out out' s', injectTraced mode vocabulary count text s = .ok ((words, out), s') ∧
      injectTraced mode vocabulary count text' s = .ok ((words, out'), s') := by
  obtain ⟨made, s', hplan⟩ := exists_plan mode hv (slots mode text.toList).length count s
  obtain ⟨made', hplan', hwords⟩ := plan_words (length_slots_of_count h) hplan
  obtain ⟨out, hout⟩ := injectTraced_eq_ok_of_plan hplan
  obtain ⟨out', hout'⟩ := injectTraced_eq_ok_of_plan hplan'
  exact ⟨_, out, out', s', hout, hwords ▸ hout'⟩

end Injection

theorem Prose.briefing_eq_map {σ : Type} [WordSource σ] (l : Lexicon) (badNews : String) :
    (briefing l badNews : Draw σ Briefing) =
      (fun b : Briefing => { b with badNews }) <$> briefing l "" := by
  rw [briefing, briefing]
  simp only [map_eq_pure_bind, bind_assoc, pure_bind]

/-! ## what is compared -/

/-- the same generation, on texts with the same counts -/
inductive Operation.Alike (mode : InsertionMode) (vocabulary : List String) :
    Operation → Operation → Prop
  | speech (units : Nat) : Alike mode vocabulary (.speech units) (.speech units)
  | subject : Alike mode vocabulary .subject .subject
  | obfuscate (message message' : String) :
      Alike mode vocabulary (.obfuscate message) (.obfuscate message')
  | briefing (badNews badNews' : String) :
      Alike mode vocabulary (.briefing badNews) (.briefing badNews')
  | inject {text text' : String}
      (required : Injection.required text vocabulary = Injection.required text' vocabulary)
      (spaces : mode = .scatter → text.toList.count ' ' = text'.toList.count ' ') :
      Alike mode vocabulary (.inject text) (.inject text')

/-- The same prose, and the same buzzwords for a text.  The news that a briefing repeats and the text
that an injection gives back may differ. -/
inductive Step.Agree : Step → Step → Prop
  | speech (units : Nat) (text : String) :
      Agree ⟨.speech units, .text text, []⟩ ⟨.speech units, .text text, []⟩
  | subject (text : String) : Agree ⟨.subject, .text text, []⟩ ⟨.subject, .text text, []⟩
  | obfuscate (message message' text : String) :
      Agree ⟨.obfuscate message, .text text, []⟩ ⟨.obfuscate message', .text text, []⟩
  | briefing (badNews badNews' speech subject obfuscated : String) :
      Agree ⟨.briefing badNews, .briefing { speech, subject, badNews, obfuscated }, []⟩
        ⟨.briefing badNews', .briefing { speech, subject, badNews := badNews', obfuscated }, []⟩
  | inject (text text' out out' : String) (words : List String) :
      Agree ⟨.inject text, .text out, words⟩ ⟨.inject text', .text out', words⟩

namespace Engine

open Operation (Alike)

variable {σ : Type} [WordSource σ]

/-! ## one operation -/

/-- an operation with its record -/
def performTraced (op : Operation) : Session σ Step :=
  match op with
  | .inject text =>
    (fun made => ⟨op, .text made.2, made.1⟩) <$> generate fun e =>
      Injection.injectTraced e.mode e.lexicon.vocabulary (e.required text) text
  | op => (fun answer => ⟨op, answer, []⟩) <$> perform op

theorem perform_eq_map_performTraced (op : Operation) :
    (perform op : Session σ Answer) = Step.answer <$> performTraced op := by
  cases op with
  | inject text =>
    rw [perform, inject, performTraced, Functor.map_map, map_generate, map_generate]
    congr 1
    funext e
    rw [Injection.inject_eq_map_injectTraced, Functor.map_map]
  | _ =>
    rw [performTraced, Functor.map_map]
    · exact (id_map' _).symm
    · exact nofun

theorem operation_of_performTraced {op : Operation} {step : Step} {e e' : Engine σ}
    (h : performTraced op e = .ok (step, e')) : step.operation = op := by
  cases op with
  | inject text =>
    obtain ⟨made, -, rfl⟩ := Draw.map_eq_ok.mp h
    rfl
  | _ =>
    obtain ⟨answer, -, rfl⟩ := Draw.map_eq_ok.mp h
    rfl

theorem performTraced_of_perform {op : Operation} {answer : Answer} {e e' : Engine σ}
    (h : perform op e = .ok (answer, e')) (hop : ∀ text, op ≠ .inject text) :
    performTraced op e = .ok (⟨op, answer, []⟩, e') := by
  rw [performTraced]
  · exact Draw.map_eq_ok.mpr ⟨answer, h, rfl⟩
  · exact hop

/-- **One operation on two texts with the same counts** makes the same draws. -/
theorem exists_performTraced {e : Engine σ} (h : e.lexicon.Filled) {op op' : Operation}
    (ha : Alike e.mode e.lexicon.vocabulary op op') :
    ∃ step step' source, performTraced op e = .ok (step, { e with source }) ∧
      performTraced op' e = .ok (step', { e with source }) ∧ step.Agree step' := by
  cases ha with
  | speech units =>
    obtain ⟨text, source, ht⟩ := Prose.total_speechAfter h "" units e.source
    have hop : perform (.speech units) e = .ok (.text text, { e with source }) :=
      map_generate_of_eq_ok ht Answer.text
    have hstep := performTraced_of_perform hop nofun
    exact ⟨_, _, source, hstep, hstep, .speech units text⟩
  | subject =>
    obtain ⟨text, source, ht⟩ := Prose.total_subject h e.source
    have hop : perform .subject e = .ok (.text text, { e with source }) :=
      map_generate_of_eq_ok ht Answer.text
    have hstep := performTraced_of_perform hop nofun
    exact ⟨_, _, source, hstep, hstep, .subject text⟩
  | obfuscate message message' =>
    obtain ⟨text, source, ht⟩ := Prose.total_obfuscation h e.source
    have hop : ∀ message, perform (.obfuscate message) e = .ok (.text text, { e with source }) :=
      fun _ => map_generate_of_eq_ok ht Answer.text
    exact ⟨_, _, source, performTraced_of_perform (hop message) nofun,
      performTraced_of_perform (hop message') nofun, .obfuscate message message' text⟩
  | briefing badNews badNews' =>
    obtain ⟨⟨speech, subject, _, obfuscated⟩, source, hb⟩ := Prose.total_briefing h "" e.source
    have hop : ∀ badNews, perform (.briefing badNews) e =
        .ok (.briefing { speech, subject, badNews, obfuscated }, { e with source }) := by
      intro badNews
      refine map_generate_of_eq_ok ?_ Answer.briefing
      rw [Prose.briefing_eq_map]
      exact Draw.map_eq_ok.mpr ⟨_, hb, rfl⟩
    exact ⟨_, _, source, performTraced_of_perform (hop badNews) nofun,
      performTraced_of_perform (hop badNews') nofun,
      .briefing badNews badNews' speech subject obfuscated⟩
  | @inject text text' required spaces =>
    obtain ⟨words, out, out', source, hout, hout'⟩ :=
      Injection.exists_injectTraced h.vocabulary (e.required text) spaces e.source
    have hrequired : e.required text = e.required text' := required
    exact ⟨_, _, source, map_generate_of_eq_ok hout _,
      map_generate_of_eq_ok (hrequired ▸ hout') _, .inject text text' out out' words⟩

/-! ## runs -/

/-- the records of operations performed one after the other -/
def trace : List Operation → Session σ (List Step)
  | [] => return []
  | op :: ops => do
    let step ← performTraced op
    let steps ← trace ops
    return step :: steps

theorem run_eq_map_trace (ops : List Operation) :
    (run ops : Session σ (List Answer)) = (fun steps => steps.map Step.answer) <$> trace ops := by
  induction ops with
  | nil => rw [trace, map_pure]; rfl
  | cons op ops ih =>
    rw [run_cons, ih, perform_eq_map_performTraced, trace]
    simp only [map_eq_pure_bind, bind_assoc, pure_bind, List.map_cons]

theorem trace_cons_eq_ok_iff {op : Operation} {ops : List Operation} {e e' : Engine σ}
    {steps : List Step} :
    trace (op :: ops) e = .ok (steps, e') ↔
      ∃ step f rest, performTraced op e = .ok (step, f) ∧ trace ops f = .ok (rest, e') ∧
        steps = step :: rest := Draw.cons_eq_ok

theorem operations_of_trace {ops : List Operation} {steps : List Step} {e e' : Engine σ}
    (h : trace ops e = .ok (steps, e')) : steps.map Step.operation = ops := by
  induction ops generalizing e steps with
  | nil =>
    obtain ⟨rfl, -⟩ := Draw.pure_eq_ok.mp h
    rfl
  | cons op ops ih =>
    obtain ⟨step, f, rest, hop, hops, rfl⟩ := trace_cons_eq_ok_iff.mp h
    rw [List.map_cons, operation_of_performTraced hop, ih hops]

theorem run_of_trace {ops : List Operation} {steps : List Step} {e e' : Engine σ}
    (h : trace ops e = .ok (steps, e')) : run ops e = .ok (steps.map Step.answer, e') := by
  rw [run_eq_map_trace]
  exact Draw.map_eq_ok.mpr ⟨steps, h, rfl⟩

/-- **Two runs on texts with the same counts** make the same draws, and leave the same engine. -/
theorem exists_trace {mode : InsertionMode} {vocabulary : List String} {ops ops' : List Operation}
    (ha : List.Forall₂ (Alike mode vocabulary) ops ops') {e : Engine σ} (h : e.lexicon.Filled)
    (hm : e.mode = mode) (hv : e.lexicon.vocabulary = vocabulary) :
    ∃ steps steps' e', trace ops e = .ok (steps, e') ∧ trace ops' e = .ok (steps', e') ∧
      List.Forall₂ Step.Agree steps steps' := by
  induction ha generalizing e with
  | nil => exact ⟨[], [], e, rfl, rfl, .nil⟩
  | cons hop _ ih =>
    subst hm hv
    obtain ⟨step, step', source, hstep, hstep', hsame⟩ := exists_performTraced h hop
    obtain ⟨steps, steps', e', hsteps, hsteps', hagree⟩ :=
      ih (e := { e with source }) h rfl rfl
    exact ⟨step :: steps, step' :: steps', e',
      trace_cons_eq_ok_iff.mpr ⟨step, _, steps, hstep, hsteps, rfl⟩,
      trace_cons_eq_ok_iff.mpr ⟨step', _, steps', hstep', hsteps', rfl⟩,
      .cons hsame hagree⟩

/-- **Texts reach the source through counts only.**  Two runs of the same generations, whose texts
require as many buzzwords and, if slots are drawn, have as many spaces, give the same prose, draw
the same buzzwords and leave the same source.  So a text without a space advances the source as one
with spaces does, when the first space is the only slot. -/
theorem runs_stay_in_step {e : Engine σ} (h : e.lexicon.Constructed) {ops ops' : List Operation}
    (ha : List.Forall₂ (Alike e.mode e.lexicon.vocabulary) ops ops') :
    (∃ steps steps' e', trace ops e = .ok (steps, e') ∧ trace ops' e = .ok (steps', e') ∧
      run ops e = .ok (steps.map Step.answer, e') ∧
      run ops' e = .ok (steps'.map Step.answer, e') ∧
      steps.map Step.operation = ops ∧ steps'.map Step.operation = ops' ∧
      List.Forall₂ Step.Agree steps steps') ∧
    (e.mode = .firstSpace → ∀ text text' : String, ' ' ∉ text.toList → ' ' ∈ text'.toList →
      e.required text = e.required text' →
      ∃ out out' e', inject text e = .ok (out, e') ∧ inject text' e = .ok (out', e')) := by
  constructor
  · obtain ⟨steps, steps', e', hsteps, hsteps', hagree⟩ := exists_trace ha h.filled rfl rfl
    exact ⟨steps, steps', e', hsteps, hsteps', run_of_trace hsteps, run_of_trace hsteps',
      operations_of_trace hsteps, operations_of_trace hsteps', hagree⟩
  · intro hm text text' _ _ hrequired
    have hspaces : e.mode = .scatter → text.toList.count ' ' = text'.toList.count ' ' :=
      fun hscatter => nomatch hm.symm.trans hscatter
    obtain ⟨words, out, out', source, hout, hout'⟩ :=
      Injection.exists_injectTraced h.filled.vocabulary (e.required text) hspaces e.source
    have hin := Injection.inject_of_injectTraced hout
    have hin' := Injection.inject_of_injectTraced hout'
    rw [hrequired] at hin'
    exact ⟨out, out', { e with source }, generate_eq_ok.mpr ⟨source, hin, rfl⟩,
      generate_eq_ok.mpr ⟨source, hin', rfl⟩⟩

/-- a text without a space beside one with a space -/
theorem runs_stay_in_step_oneSpace :
    let e : Engine Stepper := ofLexicon .builtin ⟨0, 1⟩
    let ops : List Operation := [.briefing "layoffs", .inject "synergy", .subject]
    let ops' : List Operation := [.briefing "", .inject "a b", .subject]
    e.lexicon.Constructed ∧ List.Forall₂ (Alike e.mode e.lexicon.vocabulary) ops ops' ∧
      (∃ steps steps' e', trace ops e = .ok (steps, e') ∧ trace ops' e = .ok (steps', e') ∧
        List.Forall₂ Step.Agree steps steps') ∧
      ∃ out out' e', inject "synergy" e = .ok (out, e') ∧ inject "a b" e = .ok (out', e') := by
  intro e ops ops'
  have hrequired : e.required "synergy" = e.required "a b" := by decide +kernel
  have ha : List.Forall₂ (Alike e.mode e.lexicon.vocabulary) ops ops' :=
    .cons (.briefing _ _) (.cons (.inject hrequired nofun) (.cons .subject .nil))
  obtain ⟨⟨steps, steps', e', hsteps, hsteps', -, -, -, -, hagree⟩, hone⟩ :=
    runs_stay_in_step .builtin ha
  exact ⟨.builtin, ha, ⟨steps, steps', e', hsteps, hsteps', hagree⟩,
    hone rfl "synergy" "a b" (by decide) (by decide) hrequired⟩

end Engine

end Jargon
