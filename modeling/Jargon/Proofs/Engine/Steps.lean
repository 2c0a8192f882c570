import Jargon.Engine.Operation
import Jargon.Proofs.Random.Draw

/-!
# What one operation does

Every operation is a draw for its answer, made from the engine's source, and a record of a synergy
level.  Some only draw, the others only record or do neither; the rest of the engine is never
touched.

* `answered`            the draw for the answer of an operation;
* `perform_eq_ok_iff`   what an operation answers and leaves, whichever it is;
* `answered_congr_of_generates`, `exists_answered_eq_pure`
                        which parts of the engine an answer depends on;
* `run_cons_eq_ok_iff`  a run, taken apart at its first operation.
-/

namespace Jargon

namespace Operation

/-- whether it makes prose, or puts buzzwords into a text -/
def generates : Operation → Bool
  | .speech _ | .subject | .obfuscate _ | .briefing _ | .inject _ => true
  | .required _ | .analyze _ | .report _ | .score _ | .verdict _ | .complies _ => false

/-- the text of a scoring that is recorded -/
def recorded? : Operation → Option String
  | .report text | .score text | .complies text => some text
  | .speech _ | .subject | .obfuscate _ | .briefing _ | .inject _ | .required _ | .analyze _
  | .verdict _ => none

end Operation

namespace Engine

variable {σ : Type}

/-- the level that is left if `text` is the last one whose scoring was recorded -/
def levelAfter (e : Engine σ) (text : Option String) : UInt64 :=
  match text with
  | some text => (e.analyze text).synergyLevel
  | none => e.synergyLevel

/-- the engine after an operation that left the source at `source` -/
def after (e : Engine σ) (op : Operation) (source : σ) : Engine σ :=
  { e with source, synergyLevel := e.levelAfter op.recorded? }

theorem after_of_recorded {op : Operation} {text : String} (h : op.recorded? = some text)
    (e : Engine σ) : e.after op e.source = e.record (e.analyze text) := by
  rw [after, h, levelAfter, record]

/-- what a generation draws may be changed before or after it is drawn -/
theorem map_generate {α β : Type} (make : Engine σ → Draw σ α) (f : α → β) :
    (f <$> generate make : Session σ β) = generate fun e => f <$> make e := by
  funext e
  show (generate make e >>= fun p => pure (f p.1, p.2)) = _
  rw [generate, generate]
  show _ = ((make e e.source >>= fun p => pure (f p.1, p.2)) >>= _)
  simp only [bind_assoc, pure_bind]

theorem map_generate_eq_ok {α β : Type} {make : Engine σ → Draw σ α} {f : α → β}
    {e e' : Engine σ} {b : β} :
    (f <$> generate make) e = .ok (b, e') ↔
      ∃ source, (f <$> make e) e.source = .ok (b, source) ∧ e' = { e with source } := by
  rw [map_generate, generate_eq_ok]

/-- what a generation draws for its engine, changed -/
theorem map_generate_of_eq_ok {α β : Type} {make : Engine σ → Draw σ α} {e : Engine σ} {a : α}
    {source : σ} (h : make e e.source = .ok (a, source)) (f : α → β) :
    (f <$> generate make) e = .ok (f a, { e with source }) :=
  map_generate_eq_ok.mpr ⟨source, Draw.map_eq_ok.mpr ⟨a, h, rfl⟩, rfl⟩

/-- two generations, one after the other, of which the second sees nothing new but the source -/
theorem generate_bind {α β : Type} (make : Engine σ → Draw σ α) {next : α → Engine σ → Draw σ β}
    (h : ∀ a (e : Engine σ) source, next a { e with source } = next a e) :
    (generate make >>= fun a => generate (next a) : Session σ β) =
      generate fun e => make e >>= fun a => next a e := by
  funext e
  show ((make e e.source >>= fun p => pure (p.1, { e with source := p.2 })) >>=
    fun p => generate (next p.1) p.2) =
      ((make e e.source >>= fun p => next p.1 e p.2) >>= fun p => pure (p.1, { e with source := p.2 }))
  simp only [bind_assoc, pure_bind, generate, h]

@[simp]
theorem record_thresholds (e : Engine σ) (r : Report) : (e.record r).thresholds = e.thresholds :=
  rfl

variable [WordSource σ]

/-- the draw for the answer of an operation; all but five draw nothing -/
def answered (e : Engine σ) : Operation → Draw σ Answer
  | .speech units => .text <$> Prose.speech e.lexicon units
  | .subject => .text <$> Prose.subject e.lexicon
  | .obfuscate _ => .text <$> Prose.obfuscation e.lexicon
  | .briefing badNews => .briefing <$> Prose.briefing e.lexicon badNews
  | .inject text =>
    .text <$> Injection.inject e.mode e.lexicon.vocabulary (e.required text) text
  | .required text => pure (.count (e.required text))
  | .analyze text => pure (.report (e.analyze text))
  | .report text => pure (.report (e.analyze text))
  | .score text => pure (.number (e.analyze text).score)
  | .verdict text => pure (.verdict (e.verdict text))
  | .complies text => pure (.flag (e.verdict text).passes)

/-! ## one operation -/

/-- an operation without a draw, which answers `a` and leaves `f` -/
theorem eq_ok_iff_of_pure {op : Operation} {e f e' : Engine σ} {a answer : Answer}
    (hp : perform op e = .ok (a, f)) (ha : e.answered op = pure a)
    (hf : f = e.after op e.source) :
    perform op e = .ok (answer, e') ↔
      ∃ source, e.answered op e.source = .ok (answer, source) ∧ e' = e.after op source := by
  rw [hp, ha, Except.ok.injEq, Prod.mk.injEq]
  constructor
  · rintro ⟨rfl, rfl⟩
    exact ⟨e.source, rfl, hf⟩
  · rintro ⟨source, h, rfl⟩
    obtain ⟨rfl, rfl⟩ := Draw.pure_eq_ok.mp h
    exact ⟨rfl, hf⟩

theorem perform_complies (text : String) (e : Engine σ) :
    perform (.complies text) e =
      .ok (.flag (e.verdict text).passes, e.record (e.analyze text)) := by
  have h : perform (.complies text) e =
      .ok (.flag (Verdict.ofReport (e.analyze text) (e.record (e.analyze text)).thresholds).passes,
        e.record (e.analyze text)) := rfl
  rw [h, record_thresholds, verdict]

/-- **What an operation answers and leaves.** -/
theorem perform_eq_ok_iff {op : Operation} {e e' : Engine σ} {answer : Answer} :
    perform op e = .ok (answer, e') ↔
      ∃ source, e.answered op e.source = .ok (answer, source) ∧ e' = e.after op source := by
  cases op with
  | speech units => exact map_generate_eq_ok
  | subject => exact map_generate_eq_ok
  | obfuscate message => exact map_generate_eq_ok
  | briefing badNews => exact map_generate_eq_ok
  | inject text => exact map_generate_eq_ok
  | required text => exact eq_ok_iff_of_pure rfl rfl rfl
  | analyze text => exact eq_ok_iff_of_pure rfl rfl rfl
  | report text => exact eq_ok_iff_of_pure rfl rfl (after_of_recorded rfl e).symm
  | score text => exact eq_ok_iff_of_pure rfl rfl (after_of_recorded rfl e).symm
  | verdict text => exact eq_ok_iff_of_pure rfl rfl rfl
  | complies text =>
    exact eq_ok_iff_of_pure (perform_complies text e) rfl (after_of_recorded rfl e).symm

/-! ## what an answer depends on -/

theorem answered_congr_of_generates {op : Operation} (h : op.generates = true) {e f : Engine σ}
    (hl : e.lexicon = f.lexicon) (hm : e.mode = f.mode) : e.answered op = f.answered op := by
  have hr : ∀ text, e.required text = f.required text := fun text => by
    rw [required, required, hl]
  cases op with
  | speech units => rw [answered, answered, hl]
  | subject => rw [answered, answered, hl]
  | obfuscate message => rw [answered, answered, hl]
  | briefing badNews => rw [answered, answered, hl]
  | inject text => rw [answered, answered, hl, hm, hr]
  | _ => cases h

/-- the answer of an operation that generates nothing is the same for all sources -/
theorem exists_answered_eq_pure {op : Operation} (h : op.generates = false) (e : Engine σ) :
    ∃ answer, ∀ f : Engine σ, f.lexicon = e.lexicon → f.thresholds = e.thresholds →
      f.coefficient = e.coefficient → f.answered op = pure answer := by
  have hr : ∀ f : Engine σ, f.lexicon = e.lexicon →
      ∀ text, f.required text = e.required text := fun f hl text => by
    rw [required, required, hl]
  have ha : ∀ f : Engine σ, f.lexicon = e.lexicon → f.coefficient = e.coefficient →
      ∀ text, f.analyze text = e.analyze text := fun f hl hc text => by
    rw [analyze, analyze, hl, hc]
  cases op with
  | required text =>
    exact ⟨.count (e.required text), fun f hl _ _ => by rw [answered, hr f hl]⟩
  | analyze text =>
    exact ⟨.report (e.analyze text), fun f hl _ hc => by rw [answered, ha f hl hc]⟩
  | report text =>
    exact ⟨.report (e.analyze text), fun f hl _ hc => by rw [answered, ha f hl hc]⟩
  | score text =>
    exact ⟨.number (e.analyze text).score, fun f hl _ hc => by rw [answered, ha f hl hc]⟩
  | verdict text =>
    exact ⟨.verdict (e.verdict text), fun f hl ht hc => by
      rw [answered, verdict, ha f hl hc, ht, verdict]⟩
  | complies text =>
    exact ⟨.flag (e.verdict text).passes, fun f hl ht hc => by
      rw [answered, verdict, ha f hl hc, ht, verdict]⟩
  | _ => cases h

/-! ## runs -/

theorem run_nil_eq_ok_iff {e e' : Engine σ} {answers : List Answer} :
    run [] e = .ok (answers, e') ↔ answers = [] ∧ e' = e := Draw.pure_eq_ok

theorem run_cons_eq_ok_iff {op : Operation} {ops : List Operation} {e e' : Engine σ}
    {answers : List Answer} :
    run (op :: ops) e = .ok (answers, e') ↔
      ∃ answer f rest, perform op e = .ok (answer, f) ∧ run ops f = .ok (rest, e') ∧
        answers = answer :: rest := Draw.cons_eq_ok

end Engine

end Jargon
