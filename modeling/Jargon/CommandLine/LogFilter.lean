import Jargon.CommandLine.UsageError
import Jargon.Event
import Jargon.Text.Alphanumeric
import Jargon.Text.CharacterClass

/-!
# Which events are shown

A filter is a list of directives between commas.  A directive has the form
`target[span{field=value}]=level`, and all of its parts may be missing.  It is about the events whose
target starts with the given one and that have the field; a directive for a span or for the value of
a field is about no event, since all events are outside of spans.  Of the directives that are about
an event the most specific decides, and the later of two alike.

* `isFieldPattern`   what may stand as the value of a field;
* `LogFilter`        directives, read from a text;
* `LogFilter.choose`, `LogFilter.shows`   the filter of a run, and what it shows.
-/

namespace Jargon.CommandLine

/-! ### Patterns for the value of a field

The value in a directive is a number or a regular expression.  Its outline is checked: parentheses
and brackets are closed, something stands before a sign of repetition, and a backslash is not the
last character.  A brace would begin a count, which cannot be closed where the value itself stands in
braces. -/

/-- where in a pattern the next character stands -/
inductive PatternPlace where
  /-- with nothing before it that could be repeated -/
  | fresh
  /-- behind something that may be repeated -/
  | item
  /-- right behind the bracket that opens a class -/
  | classStart
  | inClass
  deriving DecidableEq, Repr

/-- whether the rest of a pattern is well-formed at a place with so many open parentheses -/
def isOutline (place : PatternPlace) (depth : Nat) : List Char → Bool
  | [] => (place == .fresh || place == .item) && depth == 0
  | ['\\'] => false
  | '\\' :: _ :: rest =>
    isOutline (if place = .fresh ∨ place = .item then .item else .inClass) depth rest
  | c :: rest =>
    match place with
    | .classStart => isOutline (if c = '^' then .classStart else .inClass) depth rest
    | .inClass => isOutline (if c = ']' then .item else .inClass) depth rest
    | place =>
      if c = '(' then isOutline .fresh (depth + 1) rest
      else if c = ')' then depth != 0 && isOutline .item (depth - 1) rest
      else if c = '[' then isOutline .classStart depth rest
      else if c = '|' then isOutline .fresh depth rest
      else if c = '*' ∨ c = '+' ∨ c = '?' then place == .item && isOutline .item depth rest
      else c != '\x7b' && isOutline .item depth rest

/-- a number with a plus, which is no pattern -/
def isPlusNumber : List Char → Bool
  | '+' :: rest =>
    rest.any Char.isDigit && rest.all (fun c => c.isDigit || c == '.') && rest.count '.' ≤ 1
  | _ => false

def isFieldPattern (text : List Char) : Bool := isPlusNumber text || isOutline .fresh 0 text

/-! ### Directives -/

structure Directive where
  /-- start of the targets it is about, unless it is about every target -/
  target : Option String
  field : Option String
  /-- whether it is about events in spans only -/
  spanned : Bool
  /-- greatest rank of a level that is shown; 0 shows nothing -/
  most : Nat
  deriving DecidableEq, Repr

abbrev LogFilter := List Directive

namespace Directive

def isAbout (d : Directive) (e : Event) : Bool :=
  !d.spanned && d.target.all (fun t => t.toList.isPrefixOf e.target.toList)
    && d.field.all e.hasField

/-- Whether a directive goes before another one, or is its like: the longer target goes before, then
a field, then the later field in the order of texts. -/
def isAtLeast (d other : Directive) : Bool :=
  let length := (d.target.getD "").length
  let otherLength := (other.target.getD "").length
  otherLength < length || (otherLength == length &&
    match d.field, other.field with
    | _, none => true
    | none, some _ => false
    | some field, some otherField => !decide (field < otherField))

/-! ### Reading a directive -/

def everything : Nat := 5

/-- the rank of a level by its name in any case -/
def namedRank? (text : List Char) : Option Nat :=
  match String.ofList (text.map Char.toLower) with
  | "off" => some 0
  | "error" => some 1
  | "warn" => some 2
  | "info" => some 3
  | "debug" => some 4
  | "trace" => some 5
  | _ => none

def levelRank? (text : List Char) : Option Nat :=
  match readUnsigned (String.ofList text) with
  | .ok n => if n.toNat ≤ everything then some n.toNat else none
  | .error _ => namedRank? text

/-- what stands behind the equals sign; nothing stands for everything -/
def givenRank? (text : List Char) : Option Nat :=
  if text.isEmpty then some everything else levelRank? text

def beginsTarget (c : Char) : Bool :=
  c == '-' || c == ':' || c == '_' || Text.alphanumeric.mem c.toNat

/-- A text without blanks at its ends, each character beside the one that is read for it.  The
blanks in front count where the parts are read, so that these begin as much earlier, and the second
component is what stands behind them. -/
def marked (text : List Char) : List (Char × Char) × List Char :=
  let trimmed := ((text.dropWhile Text.isBlank).reverse.dropWhile Text.isBlank).reverse
  (trimmed.zip text, text.drop trimmed.length)

/-- what is read up to a mark, and the text from there -/
def upTo (isMark : Char → Bool) (text : List (Char × Char)) : List Char × List (Char × Char) :=
  let (before, rest) := text.span fun (c, _) => !isMark c
  (before.map Prod.snd, rest)

/-- the end of a directive whose other parts have been read: nothing, or a level -/
def withLevel? (d : Directive) (behind : List Char) : List (Char × Char) → Option Directive
  | [] => some { d with most := everything }
  | ('=', _) :: rest => (givenRank? (rest.map Prod.snd ++ behind)).map fun most => { d with most }
  | _ => none

/-- a field, and its value if there is an equals sign -/
def withField? (d : Directive) (text : List Char) : Option Directive :=
  if text.isEmpty then none
  else
    let (field, rest) := text.span (· != '=')
    let d := { d with field := some (String.ofList field) }
    match rest with
    | [] => some d
    | _ :: value =>
      if isFieldPattern (value.takeWhile (· != '=')) then some { d with spanned := true } else none

def inBrackets? (d : Directive) (behind : List Char) (text : List (Char × Char)) :
    Option Directive :=
  match upTo (fun c => c == ']' || c == '\x7b') text with
  | (_, (']', _) :: rest) => withLevel? { d with spanned := true } behind rest
  | (span, ('\x7b', _) :: rest) => do
    let (field, ('\x7d', _) :: (']', _) :: rest) := upTo (· == '\x7d') rest | none
    let d ← withField? { d with spanned := !span.isEmpty } field
    withLevel? d behind rest
  | _ => none

/-- a directive about every event -/
def ofRank (most : Nat) : Directive := ⟨none, none, false, most⟩

def ofTarget (target : List Char) (most : Nat) : Directive :=
  ⟨some (String.ofList target), none, false, most⟩

def ofText? (text : List Char) : Option Directive :=
  match marked text with
  | ([], _) => none
  | (('[', _) :: rest, behind) => inBrackets? (ofRank everything) behind rest
  | ((c, d) :: rest, behind) =>
    if beginsTarget c then
      match upTo (fun c => c == '=' || c == '[') rest with
      | (target, ('[', _) :: rest) => inBrackets? (ofTarget (d :: target) everything) behind rest
      | (_, []) =>
        match levelRank? text with
        | some most => some (ofRank most)
        | none => some (ofTarget text everything)
      | (target, rest) => withLevel? (ofTarget (d :: target) everything) behind rest
    else none

end Directive

namespace LogFilter

/-- what stands between the commas -/
def parts : List Char → List (List Char)
  | [] => [[]]
  | c :: rest =>
    if c = ',' then [] :: parts rest
    else match parts rest with
      | [] => [[c]]
      | part :: more => (c :: part) :: more

/-- the filter without a directive shows errors -/
def errorsOnly : LogFilter := [.ofRank 1]

/-- directives between commas; nothing if one of them is none -/
def ofText? (text : String) : Option LogFilter :=
  match (parts text.toList).filter fun part => !part.isEmpty with
  | [] => some errorsOnly
  | given => given.mapM Directive.ofText?

def decisive? (f : LogFilter) (e : Event) : Option Directive :=
  f.foldl (fun best d =>
    if d.isAbout e && best.all d.isAtLeast then some d else best) none

def shows (f : LogFilter) (e : Event) : Bool :=
  match f.decisive? e with
  | some d => e.level.rank ≤ d.most
  | none => false

/-- the filter of a run: what the environment says, or else the verbosity, or else the level of
the configuration -/
def choose (environment : Option String) (verbosity : Nat) (level : String) : LogFilter :=
  match environment.bind ofText? with
  | some f => f
  | none =>
    let level := match verbosity with
      | 0 => level
      | 1 => "debug"
      | _ => "trace"
    (ofText? level).getD []

end LogFilter

end Jargon.CommandLine
