import Jargon.Config.Basic
import Jargon.Injection
import Jargon.Prose
import Jargon.Random.KeyStream
import Jargon.Text.Quoted

/-!
# The engine

A lexicon and a random source, with the mode of insertion, the thresholds of compliance, and the
synergy level of the last recorded scoring.

* `ofConfig`   the lexicon is checked before the mode.
-/

namespace Jargon

structure Engine (σ : Type) where
  lexicon : Lexicon
  source : σ
  mode : InsertionMode
  thresholds : Thresholds
  synergyLevel : UInt64
  /-- factor of every score -/
  coefficient : Binary64
  deriving DecidableEq, Repr

/-- why a configuration gives no engine -/
inductive EngineError where
  | lexicon (e : LexiconError)
  | unknownMode (name : String)
  deriving DecidableEq, Repr

def EngineError.message : EngineError → String
  | .lexicon e => "invalid lexicon: " ++ e.message
  | .unknownMode name =>
    "invalid engine configuration: unknown insertion mode " ++ Text.quoted name

namespace Engine

/-- factor of a new engine -/
def standardCoefficient : Binary64 := .ofNat 1

def ofLexicon {σ : Type} (lexicon : Lexicon) (source : σ) : Engine σ where
  lexicon
  source
  mode := .firstSpace
  thresholds := .standard
  synergyLevel := 0
  coefficient := standardCoefficient

/-- built-in lexicon -/
def ofSeed (seed : UInt64) : Engine KeyStream := ofLexicon .builtin (.ofSeed seed)

/-- the mode of a name -/
def modeNamed (name : String) : Except EngineError InsertionMode :=
  match InsertionMode.ofName? name with
  | none => .error (.unknownMode name)
  | some mode => .ok mode

/-- the engine of a configuration, seeded by the clock if nothing else is set -/
def ofConfig (c : Config) (clock : UInt64) : Except EngineError (Engine KeyStream) :=
  match Lexicon.ofOverrides c.lexicon with
  | .error e => .error (.lexicon e)
  | .ok lexicon =>
    match modeNamed c.insertionMode with
    | .error e => .error e
    | .ok mode =>
      .ok { ofLexicon lexicon (KeyStream.ofSeed (c.seed.getD clock)) with
            mode, thresholds := c.compliance }

end Engine

end Jargon
