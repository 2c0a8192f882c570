import Jargon.CommandLine.LogFilter
import Jargon.Config.Load
import Jargon.Json

/-!
# Subcommands at work

Each subcommand is at most one operation of the engine and a text made of its answer.

* `resolveText_given`       a text on the command line is taken as it is;
* `stripLineEnd_newline`    one line end is dropped from what is read;
* `execute`                 the text, whether the command succeeded, and the engine it leaves.
-/

namespace Jargon

/-! ### Builds -/

/-- What is known about a build: its version, the revision it was made from, and how it was made.
A run is given it from outside, like the clock. -/
structure BuildInfo where
  version : String
  revision : String
  /-- whether there were changes on top of the revision -/
  dirty : Bool
  profile : String
  /-- seconds since the epoch -/
  builtAt : UInt64
  /-- version line of the compiler -/
  compiler : String
  deriving DecidableEq, Repr

namespace BuildInfo

/-- version, then revision and profile in parentheses -/
def display (b : BuildInfo) : String :=
  b.version ++ " (" ++ b.revision ++ (if b.dirty then "-dirty" else "") ++ ", " ++ b.profile ++ ")"

end BuildInfo

namespace CommandLine

/-! ### Failures -/

inductive Failure where
  | config (path : String) (e : ConfigError)
  | input (e : ReadFailure)
  | engine (e : EngineError)
  | fault (f : Fault)
  deriving DecidableEq, Repr

namespace Failure

/-- what went wrong, and what it came from, the nearest cause first -/
def chain : Failure → String × List String
  | .config path e =>
    ("loading config from '" ++ path ++ "'",
      match e with
      | .read cause => [e.message, cause.message]
      | .invalid _ => [e.message]
      | .document | .data _ => ["failed to parse TOML: " ++ e.message, e.message])
  | .input e => ("reading text from stdin", [e.message])
  | .engine e =>
    (e.message,
      match e with
      | .lexicon cause => [cause.message]
      | .unknownMode _ => [])
  | .fault f => (f.message, [])

/-- causes are numbered if there are several -/
def text (f : Failure) : String :=
  let (message, causes) := f.chain
  match causes with
  | [] => message
  | [cause] => message ++ "\n\nCaused by:\n    " ++ cause
  | causes =>
    message ++ "\n\nCaused by:" ++
      String.join (causes.zipIdx.map fun (cause, i) => "\n    " ++ toString i ++ ": " ++ cause)

end Failure

/-! ### The text a command works on -/

/-- a text without one line end behind it -/
def stripLineEnd (text : List Char) : List Char :=
  match text.reverse with
  | '\n' :: '\r' :: rest => rest.reverse
  | '\n' :: rest => rest.reverse
  | _ => text

theorem stripLineEnd_newline (text : List Char) (h : text.getLast? ≠ some '\r') :
    stripLineEnd (text ++ ['\n']) = text := by
  rw [← text.head?_reverse] at h
  simp only [stripLineEnd, List.reverse_append, List.reverse_cons, List.reverse_nil, List.nil_append,
    List.singleton_append]
  split
  · rename_i heq
    simp only [List.cons.injEq, true_and] at heq
    rw [heq] at h
    simp at h
  · rename_i heq
    simp only [List.cons.injEq, true_and] at heq
    rw [← heq, List.reverse_reverse]
  · rename_i h1 h2; exact absurd rfl (h2 _)

def inputText (stdin : ByteArray) : Except Failure String :=
  match textOfBytes stdin with
  | .ok text => .ok (String.ofList (stripLineEnd text.toList))
  | .error e => .error (.input e)

/-- a text on the command line, or the standard input if there is none or a dash -/
def resolveText (given : Option String) (stdin : ByteArray) : Except Failure String :=
  match given with
  | some text => if text = "-" then inputText stdin else .ok text
  | none => inputText stdin

theorem resolveText_given {text : String} (h : text ≠ "-") (stdin : ByteArray) :
    resolveText (some text) stdin = .ok text := by simp [resolveText, h]

/-! ### Structured output -/

def reportJson (r : Report) : Json :=
  .object [("word_count", .nat r.wordCount), ("buzzword_hits", .nat r.hits),
    ("ratio", .number r.ratio), ("synergy_level", .nat r.synergyLevel.toNat),
    ("score", .number r.score)]

def verdictJson (v : Verdict) : Json :=
  .object [("has_enough_buzzwords", .bool v.hasEnoughBuzzwords),
    ("sufficiently_vague", .bool v.sufficientlyVague),
    ("properly_meaningless", .bool v.properlyMeaningless), ("report", reportJson v.report)]

def buildJson (b : BuildInfo) : Json :=
  .object [("version", .string b.version), ("git_hash", .string b.revision),
    ("git_dirty", .bool b.dirty), ("profile", .string b.profile),
    ("built_at", .nat b.builtAt.toNat), ("rustc", .string b.compiler)]

/-! ### Commands -/

/-- the operation of a command; a command that makes none needs no engine -/
def operation? (command : Command) (stdin : ByteArray) : Except Failure (Option Operation) :=
  match command with
  | .speak units => .ok (some (.speech (Prose.unitCount units)))
  | .inject text => do return some (.inject (← resolveText text stdin))
  | .score text _ => do return some (.report (← resolveText text stdin))
  | .check text _ => do return some (.complies (← resolveText text stdin))
  | .subject => .ok (some .subject)
  | .obfuscate text => do return some (.obfuscate (← resolveText text stdin))
  | .demo badNews => .ok (some (.briefing (badNews.getD Briefing.defaultBadNews)))
  | .config _ | .version _ => .ok none

/-- what a command notes before its operation -/
def warnings : Command → List Event
  | .speak units => if units < 0 then [.unitsClamped units] else []
  | _ => []

/-- the text of an answer, given the engine that is left and the operation -/
def shown {σ : Type} (command : Command) (e : Engine σ) (op : Operation) (answer : Answer) :
    String :=
  match answer, command, op with
  | .text text, _, _ => text
  | .briefing b, _, _ => b.display
  | .report r, .score _ true, _ => (reportJson r).pretty
  | .report r, _, _ => Decimal.Layout.plain.write r.score
  | .flag _, .check _ true, .complies text => (verdictJson (e.verdict text)).pretty
  | .flag passes, _, _ => if passes then "compliant" else "non-compliant"
  | .count n, _, _ => toString n
  | .number x, _, _ => Decimal.Layout.plain.write x
  | .verdict v, _, _ => (verdictJson v).pretty

/-- the text of a command without an operation -/
def statement (command : Command) (c : Config) (path : String) (build : BuildInfo) : String :=
  match command with
  | .config true => c.render
  | .config false => "Configuration at '" ++ path ++ "' is valid."
  | .version true => (buildJson build).pretty
  | _ => programName ++ " " ++ build.display

/-- only a check can fail -/
def succeeded : Answer → Bool
  | .flag passes => passes
  | _ => true

structure Executed (σ : Type) where
  succeeded : Bool
  output : String
  engine : Engine σ

/-- carries a command out; a line end follows its text -/
def execute {σ : Type} [WordSource σ] (command : Command) (e : Engine σ) (c : Config)
    (path : String) (build : BuildInfo) (stdin : ByteArray) : Except Failure (Executed σ) := do
  match ← operation? command stdin with
  | none => return ⟨true, statement command c path build ++ "\n", e⟩
  | some op =>
    match Engine.perform op e with
    | .error f => throw (.fault f)
    | .ok (answer, e) => return ⟨succeeded answer, shown command e op answer ++ "\n", e⟩

def commandEvents {σ : Type} (command : Command) (e : Engine σ) (stdin : ByteArray) :
    List Event :=
  match operation? command stdin with
  | .ok (some op) => warnings command ++ e.events op
  | _ => []

end CommandLine

end Jargon
