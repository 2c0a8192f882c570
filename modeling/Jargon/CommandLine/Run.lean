import Jargon.CommandLine.Execute
import Jargon.CommandLine.Scan

/-!
# A run of the program

From the words of the command line, the configuration file, the standard input and the
surroundings to what is printed and the exit status.

* `respond_config_error`   a configuration that cannot be loaded ends every command.
-/

namespace Jargon.CommandLine

inductive ConfigFile where
  | missing
  | present (content : Except ReadFailure ByteArray)

/-- what a run depends on besides its words -/
structure Surroundings where
  file : String → ConfigFile
  stdin : ByteArray
  /-- filter of the log lines, if the environment has one -/
  logFilter : Option String
  clock : UInt64
  build : BuildInfo

structure Outcome where
  status : UInt8
  stdout : String
  failure : Option Failure
  usage : Option UsageError
  log : List String

/-! ### Requests -/

/-- the configuration, and whether a file gave it -/
def loadConfig (path : String) (file : ConfigFile) : Except Failure (Config × Bool) :=
  match file with
  | .missing => .ok (.standard, false)
  | .present content =>
    match Config.ofFile content with
    | .ok c => .ok (c, true)
    | .error e => .error (.config path e)

/-- a seed of the command line counts before the configured one -/
def withSeed (seed : Option UInt64) (c : Config) : Config := { c with seed := seed <|> c.seed }

def failed (f : Failure) (log : List String) : Outcome := ⟨1, "", some f, none, log⟩

def answered {σ : Type} (x : Executed σ) (log : List String) : Outcome :=
  ⟨if x.succeeded then 0 else 1, x.output, none, none, log⟩

/-- the first note of a run -/
def configEvent (path : String) (fromFile : Bool) : Event :=
  if fromFile then .configLoaded path else .configMissing path

def respond (r : Request) (s : Surroundings) : Outcome :=
  match loadConfig r.configPath (s.file r.configPath) with
  | .error f => failed f []
  | .ok (c, fromFile) =>
    let c := withSeed r.seed c
    let filter := LogFilter.choose s.logFilter r.verbosity c.logLevel
    let lines (events : List Event) : List String := (events.filter filter.shows).map Event.line
    let loaded := configEvent r.configPath fromFile
    match Engine.ofConfig c s.clock with
    | .error e => failed (.engine e) (lines [loaded])
    | .ok e =>
      let events :=
        [loaded, .building (c.seed.getD s.clock) c.seed.isSome e.mode]
          ++ commandEvents r.command e s.stdin
      match execute r.command e c r.configPath s.build s.stdin with
      | .error f => failed f (lines events)
      | .ok x => answered x (lines events)

theorem respond_config_error {r : Request} {s : Surroundings} {f : Failure}
    (h : loadConfig r.configPath (s.file r.configPath) = .error f) :
    respond r s = failed f [] := by simp [respond, h]

/-! ### Runs -/

/-- what is printed where no request was made -/
def stopped (build : BuildInfo) : Stop → Outcome
  | .usage e => ⟨2, "", none, some e, []⟩
  | .summary => ⟨2, "", none, none, []⟩
  | .showVersion => ⟨0, programName ++ " " ++ build.version ++ "\n", none, none, []⟩
  | .showHelp => ⟨0, "", none, none, []⟩

def run (words : List String) (s : Surroundings) : Outcome :=
  match parse words with
  | .ok r => respond r s
  | .error stop => stopped s.build stop

end Jargon.CommandLine
