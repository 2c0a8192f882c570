import Jargon.Compliance
import Jargon.Lexicon

/-!
# Configuration

Everything that can be set, with what holds where nothing is, and the sections and keys by which it
is named.
-/

namespace Jargon

structure Config where
  /-- seed of the random source; the clock supplies one if unset -/
  seed : Option UInt64
  insertionMode : String
  compliance : Thresholds
  lexicon : Lexicon.Overrides
  /-- least level of the log lines shown -/
  logLevel : String
  deriving DecidableEq, Repr

namespace Config

def defaultInsertionMode : String := "first-space"
def defaultLogLevel : String := "info"

def standard : Config where
  seed := none
  insertionMode := defaultInsertionMode
  compliance := .standard
  lexicon := ⟨none, none, none⟩
  logLevel := defaultLogLevel

/-! ### Names -/

inductive Section where
  | engine
  | compliance
  | lexicon
  | logging
  deriving DecidableEq, Repr

def Section.key : Section → String
  | .engine => "engine"
  | .compliance => "compliance"
  | .lexicon => "lexicon"
  | .logging => "logging"

namespace Key

def seed : String := "seed"
def insertionMode : String := "insertion_mode"
def minScore : String := "min_score"
def maxScore : String := "max_score"
def minWordCount : String := "min_word_count"
def maxCoherencePercent : String := "max_coherence_percent"
def level : String := "level"

end Key

end Config

end Jargon
