import Mathlib.Data.Option.Basic
import Jargon.Engine.Basic
import Jargon.Proofs.Engine.Steps
import Jargon.Proofs.Injection.Ranges
import Jargon.Proofs.Injection.Plan

/-!
# No operation meets a failing access

Every way to come by a lexicon makes three lists with entries, and nothing that an engine does
changes them.  So there is an entry for every draw, a slot for every buzzword, and a text to copy
up to every slot.

* `Lexicon.Constructed`, `Engine.Constructed`   what can be made;
* `Constructed.check`, `Constructed.filled`   its lists are accepted, so they have entries;
* `exists_perform`         then every operation succeeds, and the lexicon stays;
* `exists_run`             so every run does;
* `never_faults`           all of this for what can be made.
-/

namespace Jargon

/-! ## what can be made -/

namespace Lexicon

/-- the ways to come by a lexicon -/
inductive Constructed : Lexicon → Prop
  | builtin : Constructed builtin
  | ofLists {vocabulary actionVerbs conceptNouns : List String} {l : Lexicon}
      (h : ofLists vocabulary actionVerbs conceptNouns = .ok l) : Constructed l
  | ofOverrides {o : Overrides} {l : Lexicon} (h : ofOverrides o = .ok l) : Constructed l

/-- each list has an entry -/
structure Filled (l : Lexicon) : Prop where
  vocabulary : l.vocabulary ≠ []
  actionVerbs : l.actionVerbs ≠ []
  conceptNouns : l.conceptNouns ≠ []

theorem filled_of_check {l : Lexicon} (h : l.check = none) : l.Filled := by
  rw [check, Option.orElse_eq_none, Option.orElse_eq_none] at h
  obtain ⟨hv, ha, hn⟩ := h
  exact ⟨((WordList.check_eq_none_iff _ _).mp hv).1, ((WordList.check_eq_none_iff _ _).mp ha).1,
    ((WordList.check_eq_none_iff _ _).mp hn).1⟩

theorem Constructed.check {l : Lexicon} (h : l.Constructed) : l.check = none := by
  cases h with
  | builtin => decide +kernel
  | ofLists h =>
    obtain ⟨-, hc⟩ := ofLists_eq_ok_iff.mp h
    exact hc
  | ofOverrides h =>
    obtain ⟨-, hc⟩ := ofLists_eq_ok_iff.mp h
    exact hc

theorem Constructed.filled {l : Lexicon} (h : l.Constructed) : l.Filled := filled_of_check h.check

end Lexicon

namespace Engine

/-- the ways to come by an engine that has not done anything yet -/
inductive Constructed : {σ : Type} → Engine σ → Prop
  | ofSeed (seed : UInt64) : Constructed (ofSeed seed)
  | ofConfig {c : Config} {clock : UInt64} {e : Engine KeyStream} (h : ofConfig c clock = .ok e) :
      Constructed e
  | ofLexicon {σ : Type} {l : Lexicon} (h : l.Constructed) (source : σ) :
      Constructed (ofLexicon l source)
  | withMode {σ : Type} {e : Engine σ} (h : Constructed e) (mode : InsertionMode) :
      Constructed { e with mode }
  | withThresholds {σ : Type} {e : Engine σ} (h : Constructed e) (thresholds : Thresholds) :
      Constructed { e with thresholds }

/-- an engine of a configuration has a lexicon of its lists and its thresholds, the factor of a new
engine, and nothing is recorded -/
theorem of_ofConfig {c : Config} {clock : UInt64} {e : Engine KeyStream}
    (h : ofConfig c clock = .ok e) :
    Lexicon.ofOverrides c.lexicon = .ok e.lexicon ∧ e.thresholds = c.compliance ∧
      e.coefficient = standardCoefficient ∧ e.synergyLevel = 0 := by
  unfold ofConfig at h
  split at h
  · cases h
  · rename_i l hl
    split at h
    · cases h
    · cases h
      exact ⟨hl, rfl, by rw [ofLexicon], rfl⟩

theorem Constructed.lexicon {σ : Type} {e : Engine σ} (h : Constructed e) :
    e.lexicon.Constructed := by
  induction h with
  | ofSeed seed => exact .builtin
  | ofConfig h => exact .ofOverrides (of_ofConfig h).1
  | ofLexicon h source => exact h
  | withMode h mode ih => exact ih
  | withThresholds h thresholds ih => exact ih

theorem Constructed.synergyLevel {σ : Type} {e : Engine σ} (h : Constructed e) :
    e.synergyLevel = 0 := by
  induction h with
  | ofSeed seed => rfl
  | ofConfig h => exact (of_ofConfig h).2.2.2
  | ofLexicon h source => rfl
  | withMode h mode ih => exact ih
  | withThresholds h thresholds ih => exact ih

end Engine

/-! ## draws from lists with entries -/

open Draw

variable {σ : Type} [WordSource σ]

namespace Prose

variable {l : Lexicon}

theorem total_sentence (h : l.Filled) : Total (sentence l : Draw σ String) :=
  (total_pick h.actionVerbs).bind fun _ => (total_pick h.conceptNouns).bind fun _ =>
    (total_pick h.actionVerbs).bind fun _ => (total_pick h.vocabulary).bind fun _ =>
      (total_pick h.actionVerbs).bind fun _ => (total_pick h.conceptNouns).bind fun _ =>
        total_pure _

theorem total_speechAfter (h : l.Filled) (text : String) (units : Nat) :
    Total (speechAfter l text units : Draw σ String) := by
  induction units generalizing text with
  | zero => exact total_pure text
  | succ units ih => exact (total_sentence h).bind fun s => ih (text ++ s ++ " ")

theorem total_subject (h : l.Filled) : Total (subject l : Draw σ String) :=
  (total_pick h.actionVerbs).bind fun _ => (total_pick h.conceptNouns).bind fun _ => total_pure _

theorem total_obfuscation (h : l.Filled) : Total (obfuscation l : Draw σ String) :=
  (total_pick h.actionVerbs).bind fun _ => (total_pick h.conceptNouns).bind fun _ =>
    (total_pick h.actionVerbs).bind fun _ => (total_pick h.conceptNouns).bind fun _ =>
      (total_pick h.actionVerbs).bind fun _ => (total_pick h.vocabulary).bind fun _ =>
        (total_pick h.conceptNouns).bind fun _ => total_pure _

theorem total_briefing (h : l.Filled) (badNews : String) :
    Total (briefing l badNews : Draw σ Briefing) :=
  (total_speechAfter h "" Briefing.units).bind fun _ => (total_subject h).bind fun _ =>
    (total_obfuscation h).bind fun _ => total_pure _

end Prose

theorem Injection.total_inject (mode : InsertionMode) {vocabulary : List String}
    (hv : vocabulary ≠ []) (count : Nat) (text : String) :
    Total (inject mode vocabulary count text : Draw σ String) := by
  intro s
  obtain ⟨made, s', hplan⟩ := exists_plan mode hv (slots mode text.toList).length count s
  exact ⟨_, s', inject_eq_ok_iff.mpr ⟨made, hplan, rfl⟩⟩

/-! ## operations and runs -/

namespace Engine

theorem total_answered {e : Engine σ} (h : e.lexicon.Filled) (op : Operation) :
    Total (e.answered op) := by
  cases op with
  | speech units => exact (Prose.total_speechAfter h "" units).map _
  | subject => exact (Prose.total_subject h).map _
  | obfuscate message => exact (Prose.total_obfuscation h).map _
  | briefing badNews => exact (Prose.total_briefing h badNews).map _
  | inject text => exact (Injection.total_inject e.mode h.vocabulary _ text).map _
  | _ => exact total_pure _

theorem exists_perform {e : Engine σ} (h : e.lexicon.Filled) (op : Operation) :
    ∃ answer e', perform op e = .ok (answer, e') := by
  obtain ⟨answer, source, ha⟩ := total_answered h op e.source
  exact ⟨answer, e.after op source, perform_eq_ok_iff.mpr ⟨source, ha, rfl⟩⟩

theorem lexicon_of_perform {op : Operation} {e e' : Engine σ} {answer : Answer}
    (h : perform op e = .ok (answer, e')) : e'.lexicon = e.lexicon := by
  obtain ⟨source, -, rfl⟩ := perform_eq_ok_iff.mp h
  rfl

/-- a run over a lexicon with entries succeeds, and leaves it -/
theorem exists_run (ops : List Operation) {e : Engine σ} (h : e.lexicon.Filled) :
    ∃ answers e', run ops e = .ok (answers, e') ∧ e'.lexicon = e.lexicon := by
  induction ops generalizing e with
  | nil => exact ⟨[], e, rfl, rfl⟩
  | cons op ops ih =>
    obtain ⟨answer, f, hop⟩ := exists_perform h op
    have hl := lexicon_of_perform hop
    obtain ⟨answers, e', hops, hl'⟩ := ih (hl.symm ▸ h)
    exact ⟨answer :: answers, e', run_cons_eq_ok_iff.mpr ⟨answer, f, answers, hop, hops, rfl⟩,
      hl'.trans hl⟩

/-- **No operation meets a failing access**, however the engine was made and whatever it has done.
There is an entry for every draw, a slot for every buzzword that is drawn, and each piece of a text
that is copied lies in the text. -/
theorem never_faults {e : Engine σ} (h : Constructed e) (ops : List Operation) :
    ∃ answers e', run ops e = .ok (answers, e') ∧
      (∀ op, ∃ answer e'', perform op e' = .ok (answer, e'')) ∧
      e'.lexicon.Filled ∧
      ∀ text : String,
        (∀ made source,
          Injection.plan e'.mode e'.lexicon.vocabulary
              (Injection.slots e'.mode text.toList).length (e'.required text) e'.source =
            .ok (made, source) →
          Injection.Fits (Injection.slots e'.mode text.toList).length made) ∧
        ∀ piece ∈ Injection.copiedRanges text.utf8ByteSize 0
            (Injection.slots e'.mode text.toList),
          Injection.LiesIn text piece := by
  have hfilled := h.lexicon.filled
  obtain ⟨answers, e', hrun, hl⟩ := exists_run ops hfilled
  rw [← hl] at hfilled
  refine ⟨answers, e', hrun, exists_perform hfilled, hfilled, fun text => ⟨?_, ?_⟩⟩
  · intro made source hplan
    exact Injection.plan_fits hplan
  · exact Injection.liesIn_of_slots e'.mode text

/-- lists of one entry each, a text with adjacent spaces behind a character of two bytes -/
theorem never_faults_adjacentSpaces :
    let l : Lexicon := ⟨["deep dive"], ["empower"], ["paradigm"]⟩
    let e : Engine Stepper := { ofLexicon l ⟨0, 1⟩ with mode := .scatter }
    Constructed e ∧ ∃ answers e', run [.briefing "", .complies "é  "] e = .ok (answers, e') ∧
      ∃ answer e'', perform (.inject "é  ") e' = .ok (answer, e'') := by
  intro l e
  have hl : Lexicon.ofLists ["deep dive"] ["empower"] ["paradigm"] = .ok l :=
    Lexicon.ofLists_eq_ok_iff.mpr ⟨rfl, by decide +kernel⟩
  have he : Constructed e := .withMode (.ofLexicon (.ofLists hl) _) .scatter
  obtain ⟨answers, e', hrun, hnext, -⟩ := never_faults he [.briefing "", .complies "é  "]
  exact ⟨he, answers, e', hrun, hnext (.inject "é  ")⟩

end Engine

end Jargon
