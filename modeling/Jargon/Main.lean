import Jargon.CommandLine.Run

/-!
# The program

Gathers the surroundings, runs, and prints.
-/

namespace Jargon.Main

open CommandLine

/-- this build, which is made from no known revision -/
def build : BuildInfo where
  version := "0.1.0"
  revision := "unknown"
  dirty := false
  profile := "debug"
  builtAt := 0
  compiler := ""

/-- a fault of the system with its number -/
def numbered (description : String) (code : UInt32) : ReadFailure :=
  .other (description ++ " (os error " ++ toString code ++ ")")

/-- why a file that is there could not be read -/
def readFailureOfError : IO.Error → ReadFailure
  | .noFileOrDirectory _ _ _ => .notFound
  | .inappropriateType _ 20 _ => .notDirectory
  | .inappropriateType _ 21 _ => .isDirectory
  | .permissionDenied _ code description | .resourceExhausted _ code description
  | .hardwareFault code description | .otherError code description => numbered description code
  | e => .other (toString e)

/-- whether a path leads somewhere -/
def leadsSomewhere (path : String) : IO Bool := do
  try
    let _ ← IO.FS.realPath path
    return true
  catch _ => return false

/-- the defaults hold only where nothing is at the path -/
def readConfig (path : String) : IO ConfigFile := do
  if ← leadsSomewhere path then
    try return .present (.ok (← IO.FS.readBinFile path))
    catch e => return .present (.error (readFailureOfError e))
  else return .missing

/-- whether a command reads the standard input -/
def readsInput : Command → Bool
  | .inject text | .score text _ | .check text _ | .obfuscate text => text.all (· == "-")
  | _ => false

/-- bytes up to the end of a stream -/
partial def readAll (input : IO.FS.Stream) (read : ByteArray) : IO ByteArray := do
  let chunk ← input.read 65536
  if chunk.isEmpty then return read else readAll input (read ++ chunk)

def surroundings (words : List String) : IO Surroundings := do
  let logFilter ← IO.getEnv "RUST_LOG"
  let clock := UInt64.ofNat (← IO.monoNanosNow)
  match parse words with
  | .error _ => return ⟨fun _ => .missing, .empty, logFilter, clock, build⟩
  | .ok r =>
    let file ← readConfig r.configPath
    let stdin ← if readsInput r.command then readAll (← IO.getStdin) .empty else pure .empty
    return ⟨fun _ => file, stdin, logFilter, clock, build⟩

/-- prints an outcome, and gives its status -/
def print (o : Outcome) : IO UInt32 := do
  for line in o.log do IO.eprintln line
  (← IO.getStdout).putStr o.stdout
  if let some f := o.failure then IO.eprintln ("Error: " ++ f.text)
  if let some e := o.usage then IO.eprintln ("error: " ++ e.message)
  return o.status.toUInt32

end Jargon.Main

def main (words : List String) : IO UInt32 := do
  Jargon.Main.print (Jargon.CommandLine.run words (← Jargon.Main.surroundings words))
