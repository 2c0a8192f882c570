import Jargon.CommandLine.UsageError

/-!
# Reading a command line

The words are gone through once.  An option that was given its value as a word of its own is
settled only when the next option, a text or the end of the words follows; a word that cannot be
placed is reported before that.  Words behind a subcommand are read, with its options, before the
options in front of it are settled.

* `scan`          the words of one level;
* `parse`         a whole command line.
-/

namespace Jargon.CommandLine

/-- why a command line makes no request -/
inductive Stop where
  | usage (e : UsageError)
  /-- no words at all: a summary of usage is shown in place of a message -/
  | summary
  | showVersion
  | showHelp
  deriving DecidableEq, Repr

/-- what the words of one level have set so far -/
structure Settings where
  config : Option String
  verbosity : Nat
  seed : Option UInt64
  units : Option Int
  json : Bool
  badNews : Option String
  full : Bool
  text : Option String
  deriving DecidableEq, Repr

namespace Settings

def empty : Settings := ⟨none, 0, none, none, false, none, false, none⟩

def isGiven (s : Settings) : Opt → Bool
  | .config => s.config.isSome
  | .seed => s.seed.isSome
  | .units => s.units.isSome
  | .json => s.json
  | .badNews => s.badNews.isSome
  | .full => s.full
  | .verbose => s.verbosity != 0
  | .version | .help => false

/-- whether any word was an option -/
def isUntouched (s : Settings) : Bool := s.config.isNone && s.verbosity == 0 && s.seed.isNone

/-- an option with its value; a second time is reported before a bad value -/
def give (s : Settings) (o : Opt) (value : String) : Except Stop Settings :=
  let integer {α : Type} (read : Except IntegerFault α) : Except Stop α :=
    match read with
    | .ok a => .ok a
    | .error fault => .error (.usage (.invalidValue value o fault))
  if s.isGiven o then .error (.usage (.repeated o))
  else
    match o with
    | .config =>
      if value.isEmpty then .error (.usage (.missingValue o))
      else .ok { s with config := some value }
    | .seed => do return { s with seed := some (← integer (readUnsigned value)) }
    | .units => do return { s with units := some (← integer (readSigned value)) }
    | .badNews => .ok { s with badNews := some value }
    | .verbose | .json | .full | .version | .help => .ok s

/-- an option without a value -/
def raise (s : Settings) (o : Opt) : Except Stop Settings :=
  match o with
  | .verbose => .ok { s with verbosity := s.verbosity + 1 }
  | .json =>
    if s.json then .error (.usage (.repeated o)) else .ok { s with json := true }
  | .full =>
    if s.full then .error (.usage (.repeated o)) else .ok { s with full := true }
  | .version => .error .showVersion
  | .help => .error .showHelp
  | .config | .seed | .units | .badNews => .ok s

end Settings

/-! ### One level -/

structure Progress where
  settings : Settings
  /-- an option that is not settled, and its value if that has come -/
  pending : Option (Opt × Option String)
  /-- whether two dashes have been passed: the rest is text -/
  trailing : Bool
  deriving DecidableEq, Repr

namespace Progress

def start : Progress := ⟨.empty, none, false⟩

/-- the option that the next word may be the value of -/
def awaiting? (p : Progress) : Option Opt :=
  match p.trailing, p.pending with
  | false, some (o, none) => some o
  | _, _ => none

def settle (p : Progress) : Except Stop Progress :=
  match p.pending with
  | none => .ok p
  | some (o, none) => .error (.usage (.missingValue o))
  | some (o, some value) => do
    return { p with settings := ← p.settings.give o value, pending := none }

/-- an option with the value that is attached to it -/
def attach (p : Progress) (o : Opt) (value : String) : Except Stop Progress := do
  let p ← p.settle
  return { p with settings := ← p.settings.give o value }

/-- an option alone: it takes effect, or waits for its value -/
def meet (p : Progress) (o : Opt) : Except Stop Progress := do
  let p ← p.settle
  if o.takesValue then return { p with pending := some (o, none) }
  else return { p with settings := ← p.settings.raise o }

/-- the value of the option that awaits one -/
def supply (p : Progress) (o : Opt) (value : String) : Progress :=
  { p with pending := some (o, some value) }

end Progress

/-- letters behind one dash; behind an option with a value comes the value, perhaps after `=` -/
def letters (l : Level) (p : Progress) : List Char → Except Stop Progress
  | [] => .ok p
  | c :: rest =>
    match l.findShort? c with
    | none => .error (.usage (.unexpectedArgument (String.ofList ['-', c])))
    | some o =>
      if o.takesValue then
        match rest with
        | [] => p.meet o
        | '=' :: value => p.attach o (String.ofList value)
        | value => p.attach o (String.ofList value)
      else do letters l (← p.meet o) rest

/-- a name behind two dashes, and what follows the first `=` -/
def longName (l : Level) (p : Progress) (word : List Char) : Except Stop Progress :=
  let (name, rest) := word.span (· != '=')
  match l.findLong? (String.ofList name), rest with
  | none, _ => .error (.usage (.unexpectedArgument (String.ofList ('-' :: '-' :: name))))
  | some o, [] => p.meet o
  | some o, _ :: value =>
    let value := String.ofList value
    if o.takesValue then p.attach o value else .error (.usage (.surplusValue value o))

/-- digits, perhaps with a point that is not the first character, or with an exponent -/
def looksNumeric (word : List Char) : Bool :=
  let (mantissa, rest) := word.span fun c => c != 'e' && c != 'E'
  let (whole, fraction) := mantissa.span Char.isDigit
  let mantissaFits := match fraction with
    | [] => true
    | '.' :: more => !whole.isEmpty && more.all Char.isDigit
    | _ => false
  let exponentFits := match rest with
    | [] => true
    | _ :: digits => !mantissa.isEmpty && !digits.isEmpty && digits.all Char.isDigit
  mantissaFits && exponentFits

def helpVerb : String := "help"

def isVerb (word : String) : Bool := word == helpVerb || (Verb.ofName? word).isSome

/-- a word that is text, or that stands where only a subcommand could -/
def place (l : Level) (p : Progress) (word : String) : Except Stop Progress :=
  if l.takesText && p.settings.text.isNone then do
    let p ← p.settle
    return { p with settings := { p.settings with text := some word } }
  else if l = .root ∧ ¬ (p.trailing ∧ isVerb word) then
    .error (.usage (.unknownVerb word))
  else .error (.usage (.unexpectedArgument word))

/-- a word that is no subcommand -/
def readWord (l : Level) (p : Progress) (word : String) : Except Stop Progress :=
  let valueOr (other : Except Stop Progress) : Except Stop Progress :=
    match p.awaiting? with
    | some o => .ok (p.supply o word)
    | none => other
  if p.trailing then place l p word
  else
    match word.toList with
    | ['-', '-'] => .ok { p with trailing := true }
    | '-' :: '-' :: rest => longName l p rest
    | '-' :: c :: rest =>
      if p.awaiting?.any Opt.allowsNegative && looksNumeric (c :: rest) then
        valueOr (place l p word)
      else letters l p (c :: rest)
    | _ => valueOr (place l p word)

/-- words behind the subcommand `help`: each must be a subcommand of the one before -/
def help (words : List String) : Stop :=
  match words with
  | [] => .showHelp
  | first :: rest =>
    if isVerb first then
      match rest with
      | [] => .showHelp
      | second :: _ => .usage (.unknownVerb second)
    else .usage (.unknownVerb first)

def expectsVerb (l : Level) (p : Progress) : Bool :=
  l = .root && !p.trailing && p.awaiting?.isNone

/-- reads the words of a level up to a subcommand, and gives what is left behind it -/
def scan (l : Level) (p : Progress) :
    List String → Except Stop (Progress × Option (Verb × List String))
  | [] => .ok (p, none)
  | word :: rest =>
    if expectsVerb l p && word == helpVerb then .error (help rest)
    else
      match if expectsVerb l p then Verb.ofName? word else none with
      | some v => .ok (p, some (v, rest))
      | none => do scan l (← readWord l p word) rest

/-! ### The whole line -/

def command (v : Verb) (s : Settings) : Command :=
  match v with
  | .speak => .speak (s.units.getD defaultUnits)
  | .inject => .inject s.text
  | .score => .score s.text s.json
  | .check => .check s.text s.json
  | .subject => .subject
  | .obfuscate => .obfuscate s.text
  | .demo => .demo s.badNews
  | .config => .config s.full
  | .version => .version s.json

/-- the seed behind the subcommand counts before the one in front of it -/
def request (root : Settings) (v : Verb) (inner : Settings) : Request where
  configPath := root.config.getD defaultConfigPath
  verbosity := root.verbosity
  seed := inner.seed <|> root.seed
  command := command v inner

def parse (words : List String) : Except Stop Request := do
  match ← scan .root .start words with
  | (p, some (v, rest)) =>
    let (inner, _) ← scan (.verb v) .start rest
    let inner ← inner.settle
    let root ← p.settle
    return request root.settings v inner.settings
  | (p, none) =>
    let root ← p.settle
    if root.settings.isUntouched then throw .summary else throw (.usage .missingVerb)

end Jargon.CommandLine
