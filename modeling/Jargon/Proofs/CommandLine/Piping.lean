import Jargon.CommandLine.Run
import Jargon.Proofs.CommandLine.Execute

/-!
# Texts on the command line and on the standard input

A text may be an argument of a subcommand, or it may be read, and then one line end is dropped.
Nothing else is, so both ways lead to the same text, and what one subcommand prints arrives at the
next one.

* `IsLine`                   a text with at most one line end behind it;
* `stripLineEnd_eq_iff`      what is left of an input is the text that the input is a line of;
* `execute_congr`            a subcommand sees nothing of its text but what it resolves to;
* `execute_line`             it handles the text that the input is a line of;
* `argument_or_input`        arguments and inputs agree, and so do outputs and inputs.
-/

namespace Jargon.CommandLine

/-! ## lines -/

/-- A text as an input has it: with a line end of one kind or the other, or without one.  A text
that ends like the first half of a line end needs both characters, and one that ends like the second
half needs a line end. -/
inductive IsLine (text : List Char) : List Char → Prop
  | crlf : IsLine text (text ++ ['\r', '\n'])
  | lf (h : text.getLast? ≠ some '\r') : IsLine text (text ++ ['\n'])
  | bare (h : text.getLast? ≠ some '\n') : IsLine text text

theorem isLine_stripLineEnd (input : List Char) : IsLine (stripLineEnd input) input := by
  generalize hrev : input.reverse = reversed
  obtain rfl : input = reversed.reverse := by rw [← hrev, List.reverse_reverse]
  rw [stripLineEnd, List.reverse_reverse]
  split
  · rename_i rest
    rw [List.reverse_cons, List.reverse_cons, List.append_assoc]
    exact .crlf
  · rename_i rest hne
    rw [List.reverse_cons]
    refine .lf fun hlast => ?_
    rw [List.getLast?_reverse] at hlast
    obtain ⟨tail, rfl⟩ := List.head?_eq_some_iff.mp hlast
    exact hne tail rfl
  · rename_i hcrlf hlf
    refine .bare fun hlast => ?_
    rw [List.getLast?_reverse] at hlast
    obtain ⟨tail, rfl⟩ := List.head?_eq_some_iff.mp hlast
    exact hlf tail rfl

theorem stripLineEnd_of_isLine {text input : List Char} (h : IsLine text input) :
    stripLineEnd input = text := by
  cases h with
  | crlf =>
    rw [stripLineEnd, List.reverse_append]
    exact List.reverse_reverse text
  | lf h => exact stripLineEnd_newline text h
  | bare h =>
    unfold stripLineEnd
    split
    · rename_i hrev
      rw [← text.head?_reverse, hrev] at h
      exact absurd rfl h
    · rename_i hrev
      rw [← text.head?_reverse, hrev] at h
      exact absurd rfl h
    · rfl

/-- **An input is a line of exactly one text**, which is what is left of it. -/
theorem stripLineEnd_eq_iff {text input : List Char} :
    stripLineEnd input = text ↔ IsLine text input := by
  constructor
  · rintro rfl
    exact isLine_stripLineEnd input
  · exact stripLineEnd_of_isLine

theorem count_of_isLine {text input : List Char} (h : IsLine text input) :
    input.count ' ' = text.count ' ' := by
  cases h with
  | crlf => exact List.count_append
  | lf _ => exact List.count_append
  | bare _ => rfl

/-! ## the text of a subcommand -/

/-- whether the text is read from the standard input -/
def ReadsInput (given : Option String) : Prop := given = none ∨ given = some "-"

theorem resolveText_of_readsInput {given : Option String} (h : ReadsInput given)
    (input : String) :
    resolveText given input.toUTF8 = .ok (String.ofList (stripLineEnd input.toList)) := by
  have hinput : inputText input.toUTF8 = .ok (String.ofList (stripLineEnd input.toList)) := by
    rw [inputText, textOfBytes_toUTF8]
  rcases h with rfl | rfl
  · exact hinput
  · rw [resolveText, if_pos rfl, hinput]

theorem resolveText_of_isLine {given : Option String} (h : ReadsInput given)
    {text input : String} (hline : IsLine text.toList input.toList) :
    resolveText given input.toUTF8 = .ok text := by
  rw [resolveText_of_readsInput h, stripLineEnd_of_isLine hline, String.ofList_toList]

theorem given?_command {v : Verb} (hv : v.takesText = true) (s : Settings) :
    given? (command v s) = some s.text := by
  cases v with
  | inject | score | check | obfuscate => rfl
  | _ => cases hv

section

variable {σ : Type} {given given' : Option String} {stdin stdin' : ByteArray} (v : Verb)
  (s : Settings)

theorem operation?_congr (h : resolveText given stdin = resolveText given' stdin') :
    operation? (command v { s with text := given }) stdin =
      operation? (command v { s with text := given' }) stdin' := by
  cases hv : v.takesText with
  | true =>
    have hsame : ∀ text, operationOn? text (command v { s with text := given }) =
        operationOn? text (command v { s with text := given' }) := by
      intro text
      cases v <;> rfl
    rw [operation?_of_given (given?_command hv _), operation?_of_given (given?_command hv _)]
    simp only [h, hsame]
  | false =>
    cases v with
    | inject | score | check | obfuscate => cases hv
    | _ => rfl

/-- the text of an answer depends on the operation, and on whether it is to be structured -/
theorem shown_congr (given given' : Option String) :
    (shown (command v { s with text := given }) : Engine σ → Operation → Answer → String) =
      shown (command v { s with text := given' }) := by
  funext e op answer
  obtain ⟨config, verbosity, seed, units, json, badNews, full, text⟩ := s
  cases v with
  | score => cases json <;> cases answer <;> rfl
  | check => cases json <;> cases answer <;> cases op <;> rfl
  | _ => cases answer <;> rfl

theorem statement_congr (given given' : Option String) :
    statement (command v { s with text := given }) =
      statement (command v { s with text := given' }) := by
  cases v <;> rfl

variable [WordSource σ]

/-- A subcommand sees nothing of its text but what it resolves to: output, status and engine are the
same, and so is a failure. -/
theorem execute_congr (h : resolveText given stdin = resolveText given' stdin') (e : Engine σ)
    (c : Config) (path : String) (build : BuildInfo) :
    execute (command v { s with text := given }) e c path build stdin =
      execute (command v { s with text := given' }) e c path build stdin' := by
  unfold execute
  rw [operation?_congr v s h, shown_congr v s given given', statement_congr v s given given']

/-- a subcommand that reads a line handles the text that the input is a line of -/
theorem execute_line {v : Verb} (hv : v.takesText = true) (s : Settings) (hgiven : ReadsInput given)
    {text input : String} (hline : IsLine text.toList input.toList) {e : Engine σ} {c : Config}
    {path : String} {build : BuildInfo} {x : Executed σ} :
    execute (command v { s with text := given }) e c path build input.toUTF8 = .ok x ↔
      Handles e text (command v { s with text := given }) x :=
  execute_iff_handles (given?_command hv _) (resolveText_of_isLine hgiven hline)

theorem execute_output {cmd : Command} {e : Engine σ} {c : Config} {path : String}
    {build : BuildInfo} {stdin : ByteArray} {x : Executed σ}
    (h : execute cmd e c path build stdin = .ok x) : ∃ out, x.output = out ++ "\n" := by
  cases hop : operation? cmd stdin with
  | error f =>
    unfold execute at h
    rw [hop] at h
    cases h
  | ok op =>
    cases op with
    | none =>
      rw [execute_of_none hop] at h
      cases h
      exact ⟨_, rfl⟩
    | some op =>
      obtain ⟨answer, e', -, rfl⟩ := (execute_of_operation hop).mp h
      exact ⟨_, rfl⟩

/-- **A text in front of a subcommand and the same text on the standard input come to the same.**
An input is the line of one text, which has the spaces of the input, and a subcommand that reads it
handles this text.  The output of any command is the line of the text that it prints, so the next
command handles this text, as it does if the text stands in front of it. -/
theorem argument_or_input {given : Option String} (hgiven : ReadsInput given) :
    (∀ (v : Verb) (s : Settings) (e : Engine σ) (c : Config) (path : String) (build : BuildInfo)
      (text input : String) (unread : ByteArray), text ≠ "-" → IsLine text.toList input.toList →
        execute (command v { s with text := some text }) e c path build unread =
          execute (command v { s with text := given }) e c path build input.toUTF8) ∧
    (∀ input : String, ∃ text,
      (∀ other : String, IsLine other.toList input.toList ↔ other = text) ∧
      Text.wordCount text = Text.wordCount input ∧
      ∀ (v : Verb) (s : Settings) (e : Engine σ) (c : Config) (path : String) (build : BuildInfo)
        (x : Executed σ), v.takesText = true →
          (execute (command v { s with text := given }) e c path build input.toUTF8 = .ok x ↔
            Handles e text (command v { s with text := given }) x)) ∧
    ∀ (cmd : Command) (e : Engine σ) (c : Config) (path : String) (build : BuildInfo)
      (stdin : ByteArray) (x : Executed σ), execute cmd e c path build stdin = .ok x →
        ∃ out, x.output = out ++ "\n" ∧ (out.toList.getLast? ≠ some '\r' →
          ∀ (v : Verb) (s : Settings) (e' : Engine σ) (c' : Config) (path' : String)
            (build' : BuildInfo) (unread : ByteArray),
            (v.takesText = true → ∀ y,
              (execute (command v { s with text := given }) e' c' path' build' x.output.toUTF8 =
                  .ok y ↔ Handles e' out (command v { s with text := given }) y)) ∧
            (out ≠ "-" →
              execute (command v { s with text := given }) e' c' path' build' x.output.toUTF8 =
                execute (command v { s with text := some out }) e' c' path' build' unread)) := by
  have hargument : ∀ (v : Verb) (s : Settings) (e : Engine σ) (c : Config) (path : String)
      (build : BuildInfo) (text input : String) (unread : ByteArray), text ≠ "-" →
      IsLine text.toList input.toList →
        execute (command v { s with text := some text }) e c path build unread =
          execute (command v { s with text := given }) e c path build input.toUTF8 := by
    intro v s e c path build text input unread htext hline
    refine execute_congr v s ?_ e c path build
    rw [resolveText_given htext, resolveText_of_isLine hgiven hline]
  refine ⟨hargument, fun input => ?_, fun cmd e c path build stdin x h => ?_⟩
  · have hline : IsLine (String.ofList (stripLineEnd input.toList)).toList input.toList := by
      rw [String.toList_ofList]
      exact isLine_stripLineEnd input.toList
    refine ⟨_, fun other => ?_, ?_, fun v s e c path build x hv => execute_line hv s hgiven hline⟩
    · rw [← stripLineEnd_eq_iff]
      constructor
      · intro h
        rw [h, String.ofList_toList]
      · rintro rfl
        rw [String.toList_ofList]
    · rw [Text.wordCount, Text.wordCount, count_of_isLine hline]
  · obtain ⟨out, hout⟩ := execute_output h
    refine ⟨out, hout, fun hlast v s e' c' path' build' unread => ?_⟩
    have hline : IsLine out.toList x.output.toList := by
      rw [hout, String.toList_append]
      exact .lf hlast
    exact ⟨fun hv y => execute_line hv s hgiven hline,
      fun hdash => (hargument v s e' c' path' build' out x.output unread hdash hline).symm⟩

/-- A text that ends in a space and half a line end, in front of a subcommand and as a line; an input
with two line ends, of which one is counted; and the path of a configuration, printed by one
subcommand and scored by the next. -/
theorem argument_or_input_synergy :
    let s : Settings := { Settings.empty with json := true }
    let e : Engine Stepper := .ofLexicon .builtin ⟨0, 1⟩
    let build : BuildInfo := ⟨"0.1.0", "unknown", false, "release", 0, "rustc"⟩
    let scored (words : String) := "\x7b\n  \"word_count\": " ++ words ++ ",\n"
      ++ "  \"buzzword_hits\": 0,\n  \"ratio\": 0.0,\n  \"synergy_level\": 0,\n"
      ++ "  \"score\": 0.0\n\x7d\n"
    (ReadsInput (some "-") ∧ "synergy \r" ≠ "-" ∧
      IsLine "synergy \r".toList "synergy \r\r\n".toList) ∧
    execute (command .score { s with text := some "synergy \r" }) e .standard "x.toml" build .empty =
      execute (command .score { s with text := some "-" }) e .standard "x.toml" build
        "synergy \r\r\n".toUTF8 ∧
    (∃ x, execute (command .score { s with text := some "-" }) e .standard "x.toml" build
      "a  \n\n".toUTF8 = .ok x ∧ x.output = scored "3") ∧
    ∃ x y, execute (.config false) e .standard "x.toml" build .empty = .ok x ∧
      execute (command .score { s with text := some "-" }) e .standard "x.toml" build
        x.output.toUTF8 = .ok y ∧ y.output = scored "5" := by
  intro s e build scored
  have hgiven : ReadsInput (some "-") := .inr rfl
  have htext : "synergy \r" ≠ "-" := by decide
  have hline : IsLine "synergy \r".toList "synergy \r\r\n".toList := .crlf
  obtain ⟨hargument, hinput, hpipe⟩ := argument_or_input (σ := Stepper) hgiven
  refine ⟨⟨hgiven, htext, hline⟩, hargument .score s e _ _ _ _ _ _ htext hline, ?_, ?_⟩
  · obtain ⟨text, hother, -, hhandles⟩ := hinput "a  \n\n"
    obtain rfl : "a  \n" = text := (hother "a  \n").mp (.lf (by decide))
    refine ⟨_, (hhandles .score s e _ _ _ _ rfl).mpr (.score (isScoring_iff.mpr rfl)), ?_⟩
    decide +kernel
  · obtain ⟨out, hout, hnext⟩ := hpipe (.config false) e .standard "x.toml" build .empty _ rfl
    obtain rfl : "Configuration at 'x.toml' is valid." = out :=
      (String.append_left_inj "\n").mp hout
    obtain ⟨hhandles, -⟩ := hnext (by decide) .score s e .standard "x.toml" build .empty
    refine ⟨_, _, rfl, (hhandles rfl _).mpr (.score (isScoring_iff.mpr rfl)), ?_⟩
    decide +kernel

end

end Jargon.CommandLine
