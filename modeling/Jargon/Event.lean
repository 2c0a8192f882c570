import Jargon.Decimal.Layout
import Jargon.Engine.Operation

/-!
# Events of a run

What an engine and the program around it note while they work, and the line each event is shown
as: its level, where it comes from, what happened, and the values that belong to it.

* `Engine.events`   what an operation notes, before it is performed.
-/

namespace Jargon

inductive LogLevel where
  | trace
  | debug
  | info
  | warn
  | error
  deriving DecidableEq, Repr

namespace LogLevel

/-- 1 for what is shown first and 5 for what is shown last -/
def rank : LogLevel → Nat
  | .error => 1
  | .warn => 2
  | .info => 3
  | .debug => 4
  | .trace => 5

/-- in capitals, as in a line -/
def label : LogLevel → String
  | .trace => "TRACE"
  | .debug => "DEBUG"
  | .info => "INFO"
  | .warn => "WARN"
  | .error => "ERROR"

end LogLevel

inductive Event where
  | configMissing (path : String)
  | configLoaded (path : String)
  | building (seed : UInt64) (seeded : Bool) (mode : InsertionMode)
  | unitsClamped (units : Int)
  | generating (units : Nat)
  | obfuscating (bytes : Nat)
  | noSpace (planned : Nat)
  | injected (planned inserted : Nat) (mode : InsertionMode)
  | scored (report : Report)
  deriving DecidableEq, Repr

namespace Event

def level : Event → LogLevel
  | .configMissing _ => .info
  | .unitsClamped _ => .warn
  | .noSpace _ => .trace
  | .configLoaded _ | .building .. | .generating _ | .obfuscating _ | .injected .. | .scored _ =>
    .debug

/-- where an event comes from -/
def target : Event → String
  | .configMissing _ | .configLoaded _ => "buzzkit"
  | _ => "buzzkit_core::engine"

def message : Event → String
  | .configMissing _ => "Config file not found, using defaults"
  | .configLoaded _ => "loaded configuration"
  | .building .. => "building engine from config"
  | .unitsClamped _ => "negative unit count clamped to zero"
  | .generating _ => "generating speech"
  | .obfuscating _ => "obfuscating message"
  | .noSpace _ => "no space to insert after, skipping"
  | .injected .. => "injected buzzwords"
  | .scored _ => "scored density"

/-- names and values -/
def fields : Event → List (String × String)
  | .configMissing path | .configLoaded path => [("path", path)]
  | .building seed seeded mode =>
    [("seed", toString seed), ("seeded", toString seeded), ("insertion_mode", mode.label)]
  | .unitsClamped units => [("units", toString units)]
  | .generating units => [("units", toString units)]
  | .obfuscating bytes => [("discarded_len", toString bytes)]
  | .noSpace planned => [("planned", toString planned)]
  | .injected planned inserted mode =>
    [("planned", toString planned), ("inserted", toString inserted), ("mode", mode.label)]
  | .scored r =>
    [("word_count", toString r.wordCount), ("hits", toString r.hits),
      ("synergy_level", toString r.synergyLevel), ("score", Decimal.Layout.field.write r.score)]

/-- whether an event has a field; what happened is one too -/
def hasField (e : Event) (name : String) : Bool :=
  name == "message" || e.fields.any fun (n, _) => n == name

def line (e : Event) : String :=
  e.level.label ++ " " ++ e.target ++ ": " ++ e.message
    ++ String.join (e.fields.map fun (name, value) => " " ++ name ++ "=" ++ value)

end Event

namespace Engine

variable {σ : Type}

/-- what an injection notes: a text without a slot gets nothing -/
def injectionEvents (e : Engine σ) (text : String) : List Event :=
  let planned := e.required text
  if (Injection.slots e.mode text.toList).isEmpty then
    [.noSpace planned, .injected planned 0 e.mode]
  else [.injected planned planned e.mode]

def events (e : Engine σ) : Operation → List Event
  | .speech units => [.generating units]
  | .obfuscate message => [.obfuscating message.utf8ByteSize]
  | .briefing badNews => [.generating Briefing.units, .obfuscating badNews.utf8ByteSize]
  | .inject text => e.injectionEvents text
  | .report text | .score text | .complies text => [.scored (e.analyze text)]
  | .subject | .required _ | .analyze _ | .verdict _ => []

end Engine

end Jargon
