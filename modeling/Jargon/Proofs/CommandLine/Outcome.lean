import Jargon.CommandLine.Run
import Jargon.Proofs.CommandLine.Execute
import Jargon.Proofs.Config.Agreement
import Jargon.Proofs.Engine.Safety
import Jargon.Proofs.Text.Packing

/-!
# What a run comes to

A configuration that is refused ends a run before anything is printed.  One that is accepted always
makes an engine, and then the subcommand prints its text; only a check may still end with a status
other than zero, and it does so exactly when one of its three conditions fails.

* `HasContent`, `configOf`   what is at the path of the configuration, and what it is read as;
* `Config.Scoring`           the scoring of a text under what is configured;
* `exists_execute`           every subcommand says something;
* `Completes`                what a run comes to once a configuration was accepted;
* `run_outcome`              refused or answered, and checks that agree with each other.
-/

namespace Jargon

/-! ## the engine of a configuration -/

/-- the scoring of a text under what is configured -/
def Config.Scoring (c : Config) (text : String) (r : Report) : Prop :=
  IsScoring text (c.lexicon.vocabulary.getD Lexicon.builtinVocabulary) Engine.standardCoefficient r

theorem Engine.scoring_of_ofConfig {c : Config} {seed : Option UInt64} {clock : UInt64}
    {e : Engine KeyStream} (h : ofConfig { c with seed } clock = .ok e) {text : String} {r : Report}
    (hr : IsScoring text e.lexicon.vocabulary e.coefficient r) : c.Scoring text r := by
  obtain ⟨hlists, -, hcoefficient, -⟩ := of_ofConfig h
  obtain ⟨hlexicon, -⟩ := Lexicon.ofLists_eq_ok_iff.mp hlists
  have hvocabulary : e.lexicon.vocabulary = c.lexicon.vocabulary.getD Lexicon.builtinVocabulary :=
    congrArg Lexicon.vocabulary hlexicon
  rw [hvocabulary, hcoefficient] at hr
  exact hr

namespace CommandLine

open Json (spelled)

/-! ## the configuration -/

/-- what is at a path: nothing, or a file with a text -/
inductive HasContent : ConfigFile → Option String → Prop
  | missing : HasContent .missing none
  | present {bytes : ByteArray} {text : String} (h : textOfBytes bytes = .ok text) :
      HasContent (.present (.ok bytes)) (some text)

/-- what a content is read as -/
def configOf : Option String → Except ConfigError Config
  | none => .ok .standard
  | some text => Config.parse text

theorem loadConfig_of_hasContent {file : ConfigFile} {content : Option String}
    (h : HasContent file content) (path : String) :
    loadConfig path file = match configOf content with
      | .ok c => .ok (c, content.isSome)
      | .error e => .error (.config path e) := by
  cases h with
  | missing => rfl
  | @present bytes text h =>
    have hread : Config.ofFile (.ok bytes) = Config.parse text := by
      unfold Config.ofFile
      rw [show (Except.ok bytes >>= textOfBytes) = Except.ok text from h]
    rw [loadConfig, hread]
    rfl

theorem sound_of_configOf {content : Option String} {c : Config} (h : configOf content = .ok c) :
    c.insertionMode ∈ Config.insertionModes ∧ c.lexicon.Sound := by
  cases content with
  | none =>
    cases h
    exact ⟨by decide, fun list entries he => by cases list <;> cases he⟩
  | some text =>
    obtain ⟨-, -, -, hv⟩ := Config.parse_eq_ok_iff.mp h
    exact Config.sound_of_validate hv

/-- an engine is made of whatever was read, for every seed -/
theorem exists_engine {content : Option String} {c : Config} (h : configOf content = .ok c)
    (seed : Option UInt64) (clock : UInt64) :
    ∃ e, Engine.ofConfig (withSeed seed c) clock = .ok e := by
  obtain ⟨hmode, hsound⟩ := sound_of_configOf h
  exact Engine.exists_ofConfig_iff.mpr ⟨hmode, hsound⟩

/-! ## subcommands -/

theorem exists_resolveText {stdin : ByteArray} {input : String}
    (h : textOfBytes stdin = .ok input) (given : Option String) :
    ∃ text, resolveText given stdin = .ok text := by
  have hinput : inputText stdin = .ok (String.ofList (stripLineEnd input.toList)) := by
    rw [inputText, h]
  cases given with
  | none => exact ⟨_, hinput⟩
  | some text =>
    rw [resolveText]
    split
    · exact ⟨_, hinput⟩
    · exact ⟨text, rfl⟩

theorem exists_operation? {stdin : ByteArray} {input : String} (h : textOfBytes stdin = .ok input)
    (command : Command) : ∃ op, operation? command stdin = .ok op := by
  cases hgiven : given? command with
  | some given =>
    obtain ⟨text, htext⟩ := exists_resolveText h given
    rw [operation?_of_given hgiven, htext]
    exact ⟨_, rfl⟩
  | none =>
    cases command with
    | speak _ | subject | demo _ | config _ | version _ => exact ⟨_, rfl⟩
    | _ => cases hgiven

/-- **Every subcommand says something**, given an engine with entries and a text to be had. -/
theorem exists_execute {e : Engine KeyStream} (hfilled : e.lexicon.Filled) {stdin : ByteArray}
    {input : String} (hstdin : textOfBytes stdin = .ok input) (command : Command) (c : Config)
    (path : String) (build : BuildInfo) :
    ∃ x, execute command e c path build stdin = .ok x ∧ Says e c path build stdin command x := by
  have hexecute : ∃ x, execute command e c path build stdin = .ok x := by
    obtain ⟨op, hop⟩ := exists_operation? hstdin command
    cases op with
    | none => exact ⟨_, execute_of_none hop⟩
    | some op =>
      obtain ⟨answer, e', hperform⟩ := Engine.exists_perform hfilled op
      exact ⟨_, (execute_of_operation hop).mpr ⟨answer, e', hperform, rfl⟩⟩
  obtain ⟨x, hx⟩ := hexecute
  exact ⟨x, hx, execute_eq_ok_iff.mp hx⟩

/-! ## runs -/

/-- words that make a request, with a path and a standard input that can be read -/
structure Started (content : Option String) (words : List String) (s : Surroundings)
    (r : Request) : Prop where
  request : parse words = .ok r
  file : HasContent (s.file r.configPath) content
  stdin : ∃ input, textOfBytes s.stdin = .ok input

/-- a check of a text, in JSON or not -/
def Checks (r : Request) (s : Surroundings) (json : Bool) (text : String) : Prop :=
  ∃ given, r.command = .check given json ∧ resolveText given s.stdin = .ok text

/-- a scoring of a text, in JSON or not -/
def Scores (r : Request) (s : Surroundings) (json : Bool) (text : String) : Prop :=
  ∃ given, r.command = .score given json ∧ resolveText given s.stdin = .ok text

theorem run_of_error {content : Option String} {words : List String} {s : Surroundings}
    {r : Request} (h : Started content words s r) {e : ConfigError}
    (he : configOf content = .error e) :
    run words s = failed (.config r.configPath e) [] := by
  have hload := loadConfig_of_hasContent h.file r.configPath
  rw [he] at hload
  rw [run, h.request]
  exact respond_config_error hload

theorem run_of_ok {content : Option String} {words : List String} {s : Surroundings}
    {r : Request} (h : Started content words s r) {c : Config} (hc : configOf content = .ok c) :
    ∃ e x, Engine.ofConfig { c with seed := r.seed <|> c.seed } s.clock = .ok e ∧
      Says e { c with seed := r.seed <|> c.seed } r.configPath s.build s.stdin r.command x ∧
      (run words s).stdout = x.output ∧ (run words s).failure = none ∧
      (run words s).status = if x.succeeded then 0 else 1 := by
  obtain ⟨e, he⟩ := exists_engine hc r.seed s.clock
  obtain ⟨input, hinput⟩ := h.stdin
  obtain ⟨x, hexecute, hsays⟩ := exists_execute (Engine.Constructed.ofConfig he).lexicon.filled
    hinput r.command (withSeed r.seed c) r.configPath s.build
  have hload := loadConfig_of_hasContent h.file r.configPath
  rw [hc] at hload
  have hrun : ∃ log, run words s = answered x log := by
    rw [run, h.request]
    dsimp only
    rw [respond, hload]
    dsimp only
    rw [he]
    dsimp only
    rw [hexecute]
    exact ⟨_, rfl⟩
  obtain ⟨log, hrun⟩ := hrun
  rw [hrun]
  exact ⟨e, x, he, hsays, rfl, rfl, rfl⟩

/-- What a run comes to whose configuration is `c`.  The engine is made, and the subcommand has
printed its text.  The status of a check is whether the scoring of its text meets the three
conditions; JSON shows each of them, and the members of the scoring as a scoring prints them. -/
structure Completes (c : Config) (r : Request) (s : Surroundings) (o : Outcome) : Prop where
  said : ∃ e x, Engine.ofConfig { c with seed := r.seed <|> c.seed } s.clock = .ok e ∧
    Says e { c with seed := r.seed <|> c.seed } r.configPath s.build s.stdin r.command x ∧
    o.stdout = x.output
  failure : o.failure = none
  others : (∀ given json, r.command ≠ .check given json) → o.status = 0
  check : ∀ json text, Checks r s json text → ∃ report, c.Scoring text report ∧ report.Readable ∧
    (o.status = if c.compliance.Complies report then 0 else 1) ∧
    o.stdout = (if json then spelled "" (c.compliance.members report)
      else if c.compliance.Complies report then "compliant" else "non-compliant") ++ "\n"
  score : ∀ json text, Scores r s json text → ∃ report, c.Scoring text report ∧ report.Readable ∧
    o.stdout = (if json then spelled "" report.members
      else Decimal.Layout.plain.write report.score) ++ "\n"

/-- only a check may fail -/
theorem succeeded_of_says {e : Engine KeyStream} {c : Config} {path : String} {build : BuildInfo}
    {stdin : ByteArray} {command : Command} {x : Executed KeyStream}
    (h : Says e c path build stdin command x) (hne : ∀ given json, command ≠ .check given json) :
    x.succeeded = true := by
  cases h with
  | text _ _ h =>
    cases h with
    | check _ => exact absurd rfl (hne _ _)
    | _ => rfl
  | _ => rfl

theorem completes_run {content : Option String} {words : List String} {s : Surroundings}
    {r : Request} (h : Started content words s r) {c : Config} (hc : configOf content = .ok c) :
    Completes c r s (run words s) := by
  obtain ⟨e, x, he, hsays, hstdout, hfailure, hstatus⟩ := run_of_ok h hc
  have hscoring : ∀ text report, IsScoring text e.lexicon.vocabulary e.coefficient report →
      c.Scoring text report := fun text report => Engine.scoring_of_ofConfig he
  have hthresholds : e.thresholds = c.compliance := (Engine.of_ofConfig he).2.1
  refine ⟨⟨e, x, he, hsays, hstdout⟩, hfailure, fun hne => ?_, ?_, ?_⟩
  · rw [hstatus, succeeded_of_says hsays hne]
    rfl
  · rintro json text ⟨given, hcommand, htext⟩
    rw [hcommand] at hsays
    rw [hstdout, hstatus]
    cases handles_of_says hsays rfl htext with
    | @check _ _ report hreport =>
      rw [← hthresholds]
      exact ⟨report, hscoring text report hreport, report.readable, by simp, rfl⟩
  · rintro json text ⟨given, hcommand, htext⟩
    rw [hcommand] at hsays
    rw [hstdout]
    cases handles_of_says hsays rfl htext with
    | @score _ _ report hreport =>
      exact ⟨report, hscoring text report hreport, report.readable, rfl⟩

/-- **What a run comes to.**  If the configuration is refused, nothing is printed and the status is
one, whatever the subcommand.  Otherwise an engine is made of it and the subcommand completes.
Checks of one text under one configuration agree in their status, in JSON or not, wherever the text
comes from and whatever else the command lines say; their JSON shows what the status is made of, and
the scoring of the text as a scoring in JSON prints it. -/
theorem run_outcome {content : Option String} {words : List String} {s : Surroundings}
    {r : Request} (h : Started content words s r) :
    (∀ e, configOf content = .error e →
      (run words s).stdout = "" ∧ (run words s).status = 1 ∧
        (run words s).failure = some (.config r.configPath e)) ∧
      (∀ c, configOf content = .ok c → Completes c r s (run words s)) ∧
      (∀ json text, Checks r s json text →
        ∀ words' s' r' json', Started content words' s' r' → Checks r' s' json' text →
          (run words' s').status = (run words s).status) ∧
      ∀ c text, configOf content = .ok c → Checks r s true text →
        ∀ words' s' r', Started content words' s' r' → Scores r' s' true text →
          ∃ enough vague meaningless : Bool, ∃ members : List String,
            (run words s).stdout = spelled "" ["\"has_enough_buzzwords\": " ++ toString enough,
              "\"sufficiently_vague\": " ++ toString vague,
              "\"properly_meaningless\": " ++ toString meaningless,
              "\"report\": " ++ spelled "  " members] ++ "\n" ∧
            ((run words s).status = if enough && vague && meaningless then 0 else 1) ∧
            (run words' s').stdout = spelled "" members ++ "\n" := by
  refine ⟨fun e he => ?_, fun c hc => completes_run h hc, ?_, ?_⟩
  · rw [run_of_error h he]
    exact ⟨rfl, rfl, rfl⟩
  · intro json text hcheck words' s' r' json' h' hcheck'
    cases hc : configOf content with
    | error e =>
      rw [run_of_error h hc, run_of_error h' hc]
      rfl
    | ok c =>
      obtain ⟨report, hreport, -, hstatus, -⟩ := (completes_run h hc).check json text hcheck
      obtain ⟨report', hreport', -, hstatus', -⟩ :=
        (completes_run h' hc).check json' text hcheck'
      rw [hstatus, hstatus', hreport.unique hreport']
  · intro c text hc hcheck words' s' r' h' hscore
    obtain ⟨report, hreport, -, hstatus, hout⟩ := (completes_run h hc).check true text hcheck
    obtain ⟨report', hreport', -, hout'⟩ := (completes_run h' hc).score true text hscore
    cases hreport.unique hreport'
    refine ⟨c.compliance.EnoughBuzzwords report, c.compliance.Vague report,
      c.compliance.Meaningless report, report.members, hout, ?_, hout'⟩
    simp only [hstatus, Thresholds.and_eq_decide_complies, decide_eq_true_eq]

/-- a file that is no document ends even `version`; without a file, a check of one word fails, in
JSON or not, and a check of half as many buzzwords as words succeeds -/
theorem run_outcome_synergy :
    let build : BuildInfo := ⟨"0.1.0", "unknown", false, "release", 0, "rustc"⟩
    let broken : Surroundings := ⟨fun _ => .present (.ok "oops".toUTF8), "".toUTF8, none, 0, build⟩
    let bare (stdin : String) : Surroundings := ⟨fun _ => .missing, stdin.toUTF8, none, 0, build⟩
    let buzzing := String.ofList (List.replicate 26 "synergy a ".toList).flatten
    (run ["version"] broken).stdout = "" ∧ (run ["version"] broken).status = 1 ∧
      (run ["check", "synergy"] (bare "")).status = 1 ∧
      (run ["check", "--json", "-"] (bare "synergy\n")).status = 1 ∧
      (run ["check", "--json", "-"] (bare buzzing)).status = 0 ∧
      (run ["check", "--json", "-"] (bare buzzing)).stdout = "\x7b\n"
        ++ "  \"has_enough_buzzwords\": true,\n"
        ++ "  \"sufficiently_vague\": true,\n"
        ++ "  \"properly_meaningless\": true,\n"
        ++ "  \"report\": \x7b\n"
        ++ "    \"word_count\": 53,\n"
        ++ "    \"buzzword_hits\": 26,\n"
        ++ "    \"ratio\": 0.49056603773584906,\n"
        ++ "    \"synergy_level\": 490,\n"
        ++ "    \"score\": 0.4660377358490566\n"
        ++ "  \x7d\n\x7d\n" := by
  intro build broken bare buzzing
  have hstarted : ∀ words r stdin, parse words = .ok r → Started none words (bare stdin) r :=
    fun words r stdin hr => ⟨hr, .missing, stdin, textOfBytes_toUTF8 stdin⟩
  have hdash : ∀ stdin, resolveText (some "-") (bare stdin).stdin =
      .ok (String.ofList (stripLineEnd stdin.toList)) := by
    intro stdin
    rw [resolveText, if_pos rfl, inputText, textOfBytes_toUTF8]
  have hversion : Started (some "oops") ["version"] broken
      ⟨defaultConfigPath, 0, none, .version false⟩ :=
    ⟨rfl, .present (textOfBytes_toUTF8 "oops"), "", textOfBytes_toUTF8 ""⟩
  have hread : Toml.read? "oops" = none := Option.isNone_iff_eq_none.mp (by decide +kernel)
  have hrefused : configOf (some "oops") = .error .document := by
    rw [configOf, Config.parse, hread]
  obtain ⟨hout, hstatus, -⟩ := (run_outcome hversion).1 _ hrefused
  -- one word, as an argument and as a line
  have hword : Checks ⟨defaultConfigPath, 0, none, .check (some "synergy") false⟩ (bare "") false
      "synergy" := ⟨_, rfl, rfl⟩
  have hline : Checks ⟨defaultConfigPath, 0, none, .check (some "-") true⟩ (bare "synergy\n") true
      "synergy" := ⟨_, rfl, hdash _⟩
  have hjson := fun stdin => hstarted ["check", "--json", "-"] _ stdin rfl
  obtain ⟨-, hcompletes, hsame, -⟩ := run_outcome (hstarted ["check", "synergy"] _ "" rfl)
  have hone : (run ["check", "synergy"] (bare "")).status = 1 := by
    obtain ⟨report, hreport, -, hstatus, -⟩ :=
      (hcompletes .standard rfl).check false "synergy" hword
    rw [hstatus, isScoring_iff.mp hreport]
    decide +kernel
  have hone' := hsame false "synergy" hword _ _ _ true (hjson "synergy\n") hline
  -- many words; their characters are read off the text only once
  have hchars : buzzing.toList = (List.replicate 26 "synergy a ".toList).flatten :=
    String.toList_ofList
  have hstrip : stripLineEnd buzzing.toList = buzzing.toList := by
    rw [hchars]
    decide +kernel
  have hbuzzing : Checks ⟨defaultConfigPath, 0, none, .check (some "-") true⟩ (bare buzzing) true
      buzzing := by
    refine ⟨_, rfl, ?_⟩
    rw [hdash, hstrip, String.ofList_toList]
  have hwords : Text.wordCount buzzing = 53 := by
    rw [Text.wordCount, hchars]
    decide +kernel
  have hhits : Text.hits buzzing Lexicon.builtinVocabulary = 26 := by
    simp only [Text.hits, Text.countOccurrences_eq, hchars]
    decide +kernel
  obtain ⟨report, hreport, -, hzero, hprinted⟩ :=
    ((run_outcome (hjson buzzing)).2.1 .standard rfl).check true buzzing hbuzzing
  have hcounts : report = .ofCounts 53 26 Engine.standardCoefficient := by
    rw [isScoring_iff.mp hreport, Report.ofText, hwords]
    exact congrArg (Report.ofCounts 53 · Engine.standardCoefficient) hhits
  rw [hcounts] at hzero hprinted
  refine ⟨hout, hstatus, hone, hone'.trans hone, hzero.trans (by decide +kernel), ?_⟩
  rw [hprinted]
  decide +kernel

end CommandLine

end Jargon
