/-!
# Subcommands and options

The words of the command line: which subcommand takes which options, which options take a value,
and how an option is shown in a message; and the request that they come to.
-/

namespace Jargon.CommandLine

inductive Verb where
  | speak
  | inject
  | score
  | check
  | subject
  | obfuscate
  | demo
  | config
  | version
  deriving DecidableEq, Repr

namespace Verb

def all : List Verb :=
  [.speak, .inject, .score, .check, .subject, .obfuscate, .demo, .config, .version]

def name : Verb → String
  | .speak => "speak"
  | .inject => "inject"
  | .score => "score"
  | .check => "check"
  | .subject => "subject"
  | .obfuscate => "obfuscate"
  | .demo => "demo"
  | .config => "config"
  | .version => "version"

def ofName? (text : String) : Option Verb := all.find? (·.name == text)

/-- whether a text may stand on the command line -/
def takesText : Verb → Bool
  | .inject | .score | .check | .obfuscate => true
  | _ => false

end Verb

inductive Opt where
  | config
  | verbose
  | seed
  | units
  | json
  | badNews
  | full
  | version
  | help
  deriving DecidableEq, Repr

namespace Opt

/-- the name behind two dashes -/
def long : Opt → String
  | .config => "config"
  | .verbose => "verbose"
  | .seed => "seed"
  | .units => "units"
  | .json => "json"
  | .badNews => "bad-news"
  | .full => "show"
  | .version => "version"
  | .help => "help"

/-- the letter behind one dash -/
def short? : Opt → Option Char
  | .config => some 'c'
  | .verbose => some 'v'
  | .units => some 'u'
  | .version => some 'V'
  | .help => some 'h'
  | .seed | .json | .badNews | .full => none

/-- name of the value of an option that takes one -/
def valueName? : Opt → Option String
  | .config => some "CONFIG"
  | .seed => some "SEED"
  | .units => some "UNITS"
  | .badNews => some "BAD_NEWS"
  | .verbose | .json | .full | .version | .help => none

def takesValue (o : Opt) : Bool := o.valueName?.isSome

/-- whether a value may start with a dash if it looks like a number -/
def allowsNegative (o : Opt) : Bool := o == .units

def display (o : Opt) : String :=
  "--" ++ o.long ++
    match o.valueName? with
    | some name => " <" ++ name ++ ">"
    | none => if o = .verbose then "..." else ""

end Opt

/-- before a subcommand, or behind it -/
inductive Level where
  | root
  | verb (v : Verb)
  deriving DecidableEq, Repr

namespace Level

/-- options of one level; the seed belongs to all of them -/
def options : Level → List Opt
  | .root => [.config, .verbose, .seed, .version, .help]
  | .verb .speak => [.units, .seed, .help]
  | .verb .score | .verb .check | .verb .version => [.json, .seed, .help]
  | .verb .demo => [.badNews, .seed, .help]
  | .verb .config => [.full, .seed, .help]
  | .verb _ => [.seed, .help]

def findLong? (l : Level) (name : String) : Option Opt := l.options.find? (·.long == name)

def findShort? (l : Level) (letter : Char) : Option Opt :=
  l.options.find? (·.short? == some letter)

def takesText : Level → Bool
  | .root => false
  | .verb v => v.takesText

end Level

/-! ### Requests -/

inductive Command where
  | speak (units : Int)
  | inject (text : Option String)
  | score (text : Option String) (json : Bool)
  | check (text : Option String) (json : Bool)
  | subject
  | obfuscate (text : Option String)
  | demo (badNews : Option String)
  | config (full : Bool)
  | version (json : Bool)
  deriving DecidableEq, Repr

structure Request where
  configPath : String
  /-- how often more log lines were asked for -/
  verbosity : Nat
  /-- takes the place of the configured seed -/
  seed : Option UInt64
  command : Command
  deriving DecidableEq, Repr

def programName : String := "buzzkit"

def defaultConfigPath : String := "buzzkit.toml"

def defaultUnits : Int := 3

end Jargon.CommandLine
