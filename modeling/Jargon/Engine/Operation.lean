import Jargon.Engine.Basic

/-!
# Operations of an engine

Each operation answers and leaves an engine.  Generating advances the source; scoring records a
synergy level; the lexicon, the mode, the thresholds and the coefficient stay as they are.

* `generate_eq_ok`   what a successful generation leaves;
* `run_cons`         a run is its operations one after the other.
-/

namespace Jargon

inductive Operation where
  /-- sentences -/
  | speech (units : Nat)
  | subject
  | obfuscate (message : String)
  | briefing (badNews : String)
  | inject (text : String)
  /-- how many buzzwords an injection would insert -/
  | required (text : String)
  /-- a scoring that is not recorded -/
  | analyze (text : String)
  /-- a scoring that is recorded -/
  | report (text : String)
  /-- the score of a recorded scoring -/
  | score (text : String)
  /-- the checks of a scoring that is not recorded -/
  | verdict (text : String)
  /-- whether all checks hold; the scoring is recorded -/
  | complies (text : String)
  deriving DecidableEq, Repr

inductive Answer where
  | text (text : String)
  | briefing (briefing : Briefing)
  | count (count : Nat)
  | report (report : Report)
  | number (number : Binary64)
  | verdict (verdict : Verdict)
  | flag (flag : Bool)
  deriving DecidableEq, Repr

/-- steps on an engine -/
abbrev Session (σ : Type) := StateT (Engine σ) (Except Fault)

namespace Engine

variable {σ : Type}

/-! ### Scoring -/

def analyze (e : Engine σ) (text : String) : Report :=
  .ofText text e.lexicon.vocabulary e.coefficient

def verdict (e : Engine σ) (text : String) : Verdict :=
  .ofReport (e.analyze text) e.thresholds

def required (e : Engine σ) (text : String) : Nat :=
  Injection.required text e.lexicon.vocabulary

/-- the engine after a scoring was recorded -/
def record (e : Engine σ) (r : Report) : Engine σ := { e with synergyLevel := r.synergyLevel }

/-- scores a text and records its synergy level -/
def report (text : String) : Session σ Report := do
  let r := (← get).analyze text
  modify fun e => e.record r
  return r

/-! ### Generating -/

/-- a choice made from the engine's source -/
def generate {α : Type} (make : Engine σ → Draw σ α) : Session σ α := fun e => do
  let (a, source) ← make e e.source
  return (a, { e with source })

theorem generate_eq_ok {α : Type} {make : Engine σ → Draw σ α} {e e' : Engine σ} {a : α} :
    generate make e = .ok (a, e') ↔
      ∃ s, make e e.source = .ok (a, s) ∧ e' = { e with source := s } := by
  unfold generate
  cases h : make e e.source with
  | error f => simp [bind, Except.bind]
  | ok p =>
    obtain ⟨b, s⟩ := p
    simp only [bind, Except.bind, pure, Except.pure, Except.ok.injEq, Prod.mk.injEq]
    constructor
    · rintro ⟨rfl, rfl⟩; exact ⟨s, ⟨rfl, rfl⟩, rfl⟩
    · rintro ⟨_, ⟨rfl, rfl⟩, rfl⟩; exact ⟨rfl, rfl⟩

variable [WordSource σ]

def speech (units : Nat) : Session σ String := generate fun e => Prose.speech e.lexicon units

def subject : Session σ String := generate fun e => Prose.subject e.lexicon

/-- the message has no part in the answer -/
def obfuscate (_message : String) : Session σ String :=
  generate fun e => Prose.obfuscation e.lexicon

def briefing (badNews : String) : Session σ Briefing :=
  generate fun e => Prose.briefing e.lexicon badNews

def inject (text : String) : Session σ String :=
  generate fun e => Injection.inject e.mode e.lexicon.vocabulary (e.required text) text

/-! ### Runs -/

def perform : Operation → Session σ Answer
  | .speech units => .text <$> speech units
  | .subject => .text <$> subject
  | .obfuscate message => .text <$> obfuscate message
  | .briefing badNews => .briefing <$> briefing badNews
  | .inject text => .text <$> inject text
  | .required text => return .count ((← get).required text)
  | .analyze text => return .report ((← get).analyze text)
  | .report text => .report <$> report text
  | .score text => return .number (← report text).score
  | .verdict text => return .verdict ((← get).verdict text)
  | .complies text => do
    let r ← report text
    return .flag (Verdict.ofReport r (← get).thresholds).passes

/-- the answers of operations performed one after the other -/
def run : List Operation → Session σ (List Answer)
  | [] => return []
  | op :: ops => do
    let answer ← perform op
    let answers ← run ops
    return answer :: answers

theorem run_cons (op : Operation) (ops : List Operation) :
    (run (op :: ops) : Session σ (List Answer)) =
      perform op >>= fun answer => run ops >>= fun answers => pure (answer :: answers) := rfl

end Engine

end Jargon
