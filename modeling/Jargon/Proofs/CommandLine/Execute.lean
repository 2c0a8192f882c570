import Jargon.Proofs.CommandLine.Printed
import Jargon.Proofs.Engine.Steps

/-!
# What a subcommand comes to

The text that a subcommand prints is written out here, with its status and the engine that it
leaves.

* `operation?_of_given`   a subcommand with a text sees what the text resolves to, and no more;
* `Handles`               what is made of a text, whichever way it came;
* `Says`                  what is made of any subcommand;
* `execute_iff_handles`, `execute_eq_ok_iff`   nothing else is carried out.
-/

namespace Jargon.CommandLine

open Json (spelled)

/-! ## texts -/

theorem textOfBytes_toUTF8 (text : String) : textOfBytes text.toUTF8 = .ok text := by
  have hread : String.fromUTF8? text.toUTF8 = some text := dif_pos text.isValidUTF8
  rw [textOfBytes, hread]

/-- what was given to a subcommand in place of a text, if it takes one -/
def given? : Command → Option (Option String)
  | .inject given | .score given _ | .check given _ | .obfuscate given => some given
  | .speak _ | .subject | .demo _ | .config _ | .version _ => none

/-- the operation of a subcommand on its text -/
def operationOn? (text : String) : Command → Option Operation
  | .inject _ => some (.inject text)
  | .score _ _ => some (.report text)
  | .check _ _ => some (.complies text)
  | .obfuscate _ => some (.obfuscate text)
  | .speak _ | .subject | .demo _ | .config _ | .version _ => none

/-- a subcommand sees nothing of its text but what it resolves to -/
theorem operation?_of_given {command : Command} {given : Option String}
    (h : given? command = some given) (stdin : ByteArray) :
    operation? command stdin = (resolveText given stdin).map (operationOn? · command) := by
  have hbind : ∀ make : String → Operation,
      (do return some (make (← resolveText given stdin)) : Except Failure (Option Operation)) =
        (resolveText given stdin).map fun text => some (make text) := by
    intro make
    cases resolveText given stdin <;> rfl
  cases command with
  | inject given' => cases h; exact hbind .inject
  | score given' json => cases h; exact hbind .report
  | check given' json => cases h; exact hbind .complies
  | obfuscate given' => cases h; exact hbind .obfuscate
  | _ => cases h

section

variable {σ : Type}

/-! ## what is shown -/

/-! These hold for any scoring, so that no text is scored to see what is printed. -/

theorem shown_score (e : Engine σ) (given : Option String) (json : Bool) (op : Operation)
    (r : Report) : shown (.score given json) e op (.report r) =
      if json then spelled "" r.members else Decimal.Layout.plain.write r.score := by
  cases json with
  | false => rfl
  | true => exact pretty_reportJson r

theorem shown_check {e : Engine σ} (given : Option String) (json : Bool) {text : String}
    {r : Report} (h : e.analyze text = r) :
    shown (.check given json) (e.record r) (.complies text) (.flag (e.thresholds.Complies r)) =
      if json then spelled "" (e.thresholds.members r)
      else if e.thresholds.Complies r then "compliant" else "non-compliant" := by
  cases json with
  | false =>
    show (if decide (e.thresholds.Complies r) = true then _ else _) = _
    simp
  | true =>
    show (verdictJson (e.verdict text)).pretty = _
    rw [Engine.verdict, h, pretty_verdictJson]
    rfl

variable [WordSource σ]

/-- What a subcommand makes of a text, whichever way the text came. -/
inductive Handles (e : Engine σ) (text : String) : Command → Executed σ → Prop
  | inject {given : Option String} {out : String} {e' : Engine σ}
      (h : Engine.inject text e = .ok (out, e')) :
      Handles e text (.inject given) ⟨true, out ++ "\n", e'⟩
  | obfuscate {given : Option String} {out : String} {e' : Engine σ}
      (h : Engine.obfuscate text e = .ok (out, e')) :
      Handles e text (.obfuscate given) ⟨true, out ++ "\n", e'⟩
  | score {given : Option String} {json : Bool} {r : Report}
      (h : IsScoring text e.lexicon.vocabulary e.coefficient r) :
      Handles e text (.score given json)
        ⟨true,
          (if json then spelled "" r.members else Decimal.Layout.plain.write r.score) ++ "\n",
          { e with synergyLevel := r.synergyLevel }⟩
  | check {given : Option String} {json : Bool} {r : Report}
      (h : IsScoring text e.lexicon.vocabulary e.coefficient r) :
      Handles e text (.check given json)
        ⟨e.thresholds.Complies r,
          (if json then spelled "" (e.thresholds.members r)
            else if e.thresholds.Complies r then "compliant" else "non-compliant") ++ "\n",
          { e with synergyLevel := r.synergyLevel }⟩

/-- What a subcommand comes to: what it prints, whether it succeeds, and the engine it leaves. -/
inductive Says (e : Engine σ) (c : Config) (path : String) (build : BuildInfo) (stdin : ByteArray) :
    Command → Executed σ → Prop
  | text {command : Command} {given : Option String} {text : String} {x : Executed σ}
      (hgiven : given? command = some given) (htext : resolveText given stdin = .ok text)
      (h : Handles e text command x) : Says e c path build stdin command x
  | speak {units : Int} {out : String} {e' : Engine σ}
      (h : Engine.speech units.toNat e = .ok (out, e')) :
      Says e c path build stdin (.speak units) ⟨true, out ++ "\n", e'⟩
  | subject {out : String} {e' : Engine σ} (h : Engine.subject e = .ok (out, e')) :
      Says e c path build stdin .subject ⟨true, out ++ "\n", e'⟩
  | demo {badNews : Option String} {b : Briefing} {e' : Engine σ}
      (h : Engine.briefing (badNews.getD
        "The project is three months behind schedule and over budget.") e = .ok (b, e')) :
      Says e c path build stdin (.demo badNews)
        ⟨true, "Generated Corporate Speak:\n" ++ b.speech ++ "\n\nUrgent Email Subject:\n"
          ++ b.subject ++ "\n\nOriginal: " ++ b.badNews ++ "\nObfuscated:\n" ++ b.obfuscated
          ++ "\n", e'⟩
  | config : Says e c path build stdin (.config true) ⟨true, c.render ++ "\n", e⟩
  | configPath : Says e c path build stdin (.config false)
      ⟨true, "Configuration at '" ++ path ++ "' is valid." ++ "\n", e⟩
  | version : Says e c path build stdin (.version false)
      ⟨true, "buzzkit " ++ build.version ++ " (" ++ build.revision
        ++ (if build.dirty then "-dirty" else "") ++ ", " ++ build.profile ++ ")" ++ "\n", e⟩
  | versionJson : Says e c path build stdin (.version true)
      ⟨true, spelled "" build.members ++ "\n", e⟩

variable {command : Command} {e e' : Engine σ} {c : Config} {path : String} {build : BuildInfo}
  {stdin : ByteArray} {x : Executed σ}

/-! ## operations -/

theorem execute_of_operation {op : Operation} (hop : operation? command stdin = .ok (some op)) :
    execute command e c path build stdin = .ok x ↔ ∃ answer e',
      Engine.perform op e = .ok (answer, e') ∧
        x = ⟨succeeded answer, shown command e' op answer ++ "\n", e'⟩ := by
  unfold execute
  rw [hop]
  dsimp only [bind, Except.bind]
  cases h : Engine.perform op e with
  | error f => simp [throw, throwThe, MonadExceptOf.throw]
  | ok p =>
    obtain ⟨answer, e'⟩ := p
    simp only [pure, Except.pure, Except.ok.injEq, Prod.mk.injEq]
    constructor
    · rintro rfl
      exact ⟨answer, e', ⟨rfl, rfl⟩, rfl⟩
    · rintro ⟨_, _, ⟨rfl, rfl⟩, rfl⟩
      rfl

/-- a command whose operation makes something of the engine, which is then shown -/
theorem execute_of_map {α : Type} {make : Session σ α} {f : α → Answer} {op : Operation}
    (hop : operation? command stdin = .ok (some op)) (hmap : Engine.perform op = f <$> make) :
    execute command e c path build stdin = .ok x ↔ ∃ a e', make e = .ok (a, e') ∧
      x = ⟨succeeded (f a), shown command e' op (f a) ++ "\n", e'⟩ := by
  rw [execute_of_operation hop, hmap]
  constructor
  · rintro ⟨answer, e', h, rfl⟩
    obtain ⟨a, ha, rfl⟩ := Draw.map_eq_ok.mp h
    exact ⟨a, e', ha, rfl⟩
  · rintro ⟨a, e', h, rfl⟩
    exact ⟨f a, e', Draw.map_eq_ok.mpr ⟨a, h, rfl⟩, rfl⟩

theorem execute_of_none (hop : operation? command stdin = .ok none) :
    execute command e c path build stdin =
      .ok ⟨true, statement command c path build ++ "\n", e⟩ := by
  unfold execute
  rw [hop]
  rfl

/-! ## scoring -/

theorem perform_report_of_analyze {text : String} {r : Report} (h : e.analyze text = r) :
    Engine.perform (.report text) e = .ok (.report r, e.record r) := by
  rw [← h]
  rfl

theorem perform_complies_of_analyze {text : String} {r : Report} (h : e.analyze text = r) :
    Engine.perform (.complies text) e =
      .ok (.flag (e.thresholds.Complies r), e.record r) := by
  rw [Engine.perform_complies, Engine.verdict, h, Verdict.passes_ofReport]

/-- **A subcommand with a text handles this text, and does nothing else.** -/
theorem execute_iff_handles {given : Option String} {text : String}
    (hgiven : given? command = some given) (htext : resolveText given stdin = .ok text) :
    execute command e c path build stdin = .ok x ↔ Handles e text command x := by
  have hscoring : ∀ r, IsScoring text e.lexicon.vocabulary e.coefficient r ↔ e.analyze text = r :=
    fun r => isScoring_iff.trans eq_comm
  have hop : operation? command stdin = .ok (operationOn? text command) := by
    rw [operation?_of_given hgiven, htext]
    rfl
  cases command with
  | inject given' =>
    rw [execute_of_map hop rfl]
    constructor
    · rintro ⟨out, e', h, rfl⟩
      exact .inject h
    · intro h
      cases h with
      | inject h => exact ⟨_, _, h, rfl⟩
  | obfuscate given' =>
    rw [execute_of_map hop rfl]
    constructor
    · rintro ⟨out, e', h, rfl⟩
      exact .obfuscate h
    · intro h
      cases h with
      | obfuscate h => exact ⟨_, _, h, rfl⟩
  | score given' json =>
    obtain ⟨r, hr⟩ : ∃ r, e.analyze text = r := ⟨_, rfl⟩
    rw [execute_of_operation hop, perform_report_of_analyze hr]
    constructor
    · rintro ⟨answer, e', h, rfl⟩
      cases h
      rw [shown_score]
      exact .score ((hscoring r).mpr hr)
    · intro h
      cases h with
      | score h =>
        cases hr.symm.trans ((hscoring _).mp h)
        exact ⟨_, _, rfl, by rw [shown_score]; rfl⟩
  | check given' json =>
    obtain ⟨r, hr⟩ : ∃ r, e.analyze text = r := ⟨_, rfl⟩
    rw [execute_of_operation hop, perform_complies_of_analyze hr]
    constructor
    · rintro ⟨answer, e', h, rfl⟩
      cases h
      rw [shown_check given' json hr]
      exact .check ((hscoring r).mpr hr)
    · intro h
      cases h with
      | check h =>
        cases hr.symm.trans ((hscoring _).mp h)
        exact ⟨_, _, rfl, by rw [shown_check given' json hr]; rfl⟩
  | _ => cases hgiven

/-! ## any subcommand -/

theorem handles_of_says {given : Option String} {text : String}
    (h : Says e c path build stdin command x) (hgiven : given? command = some given)
    (htext : resolveText given stdin = .ok text) : Handles e text command x := by
  cases h with
  | text hgiven' htext' h =>
    cases hgiven.symm.trans hgiven'
    cases htext.symm.trans htext'
    exact h
  | _ => cases hgiven

theorem statement_version (c : Config) (path : String) (build : BuildInfo) :
    statement (.version false) c path build = "buzzkit " ++ build.version ++ " (" ++ build.revision
      ++ (if build.dirty then "-dirty" else "") ++ ", " ++ build.profile ++ ")" := by
  have hname : programName ++ " " = "buzzkit " := rfl
  show programName ++ " " ++ build.display = _
  rw [hname, BuildInfo.display]
  simp only [String.append_assoc]

theorem statement_versionJson (c : Config) (path : String) (build : BuildInfo) :
    statement (.version true) c path build = spelled "" build.members := pretty_buildJson build

/-- **What is carried out is what a subcommand says**, and all of it. -/
theorem execute_eq_ok_iff :
    execute command e c path build stdin = .ok x ↔ Says e c path build stdin command x := by
  constructor
  · intro h
    cases hgiven : given? command with
    | some given =>
      cases htext : resolveText given stdin with
      | error f =>
        unfold execute at h
        rw [operation?_of_given hgiven, htext] at h
        cases h
      | ok text => exact .text hgiven htext ((execute_iff_handles hgiven htext).mp h)
    | none =>
      cases command with
      | speak units =>
        obtain ⟨out, e', hout, rfl⟩ := (execute_of_map rfl rfl).mp h
        exact .speak hout
      | subject =>
        obtain ⟨out, e', hout, rfl⟩ := (execute_of_map rfl rfl).mp h
        exact .subject hout
      | demo badNews =>
        obtain ⟨b, e', hb, rfl⟩ := (execute_of_map rfl rfl).mp h
        exact .demo hb
      | config full =>
        rw [execute_of_none rfl] at h
        cases h
        cases full with
        | true => exact .config
        | false => exact .configPath
      | version json =>
        rw [execute_of_none rfl] at h
        cases h
        cases json with
        | true =>
          rw [statement_versionJson]
          exact .versionJson
        | false =>
          rw [statement_version]
          exact .version
      | _ => cases hgiven
  · intro h
    cases h with
    | text hgiven htext h => exact (execute_iff_handles hgiven htext).mpr h
    | speak h => exact (execute_of_map rfl rfl).mpr ⟨_, _, h, rfl⟩
    | subject h => exact (execute_of_map rfl rfl).mpr ⟨_, _, h, rfl⟩
    | demo h => exact (execute_of_map rfl rfl).mpr ⟨_, _, h, rfl⟩
    | config => exact execute_of_none rfl
    | configPath => exact execute_of_none rfl
    | version => rw [execute_of_none rfl, statement_version]
    | versionJson => rw [execute_of_none rfl, statement_versionJson]

end

end Jargon.CommandLine
