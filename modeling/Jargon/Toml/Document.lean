import Jargon.Toml.DateTime
import Jargon.Toml.Entries
import Jargon.Toml.Numbers

/-!
# Reading a TOML document

A document is read line by line into a table.  Arrays and inline tables may be nested eighty deep,
and a key may have eighty parts.  A loop over items carries the length of its text as a bound,
since each item takes at least one character.

* `value?`   a value with so many levels of nesting to spare;
* `read?`    the table of a whole document.
-/

namespace Jargon.Toml

/-- most levels of nesting, and most parts of a key -/
def depthLimit : Nat := 80

/-! ### Keys -/

def keyPart? : Reader String := fun text =>
  match text with
  | '"' :: _ | '\'' :: _ => lineString? text
  | _ =>
    let (name, rest) := text.span isBareKeyChar
    if name.isEmpty then none else some (String.ofList name, rest)

/-- a key of at most `room` parts, and the blanks behind it -/
def key? : (room : Nat) → Reader (List String)
  | 0, _ => none
  | room + 1, text => do
    let (part, text) ← keyPart? text
    match skipBlank text with
    | '.' :: text => do
      let (parts, text) ← key? room (skipBlank text)
      return (part :: parts, text)
    | text => return ([part], text)

/-- a key, an equals sign, and a value of the given reader -/
def assignment? (item : Reader Value) : Reader (List String × Value) := fun text => do
  let (key, text) ← key? depthLimit text
  let '=' :: text := text | none
  let (value, text) ← item (skipBlank text)
  return ((key, value), text)

/-! ### Values without brackets -/

/-- a character that ends a bare value, blanks apart -/
def endsBareValue (c : Char) : Bool :=
  c == '=' || c == ',' || c == '[' || c == ']' || c == '\x7b' || c == '\x7d' || c == '#'
    || c == '\r' || c == '\n'

/-- whether a bare value goes on behind blanks; a quote begins something else -/
def goesOn : List Char → Bool
  | [] => false
  | c :: _ => !(endsBareValue c || c == '"' || c == '\'')

/-- The characters of a value that is neither string nor bracket.  Blanks between two words belong
to it, as they do between a date and a time. -/
def bareValue : List Char → List Char × List Char
  | [] => ([], [])
  | c :: rest =>
    if endsBareValue c || (isBlankChar c && !goesOn (skipBlank rest)) then ([], c :: rest)
    else
      let (chars, rest) := bareValue rest
      (c :: chars, rest)

def bareValue? : Reader Value := fun text =>
  let (chars, rest) := bareValue text
  let value? : Option Value :=
    if chars = "true".toList then some (.boolean true)
    else if chars = "false".toList then some (.boolean false)
    else if isDateTime chars then some (.dateTime (String.ofList chars))
    else number? chars
  value?.map fun value => (value, rest)

def simple? : Reader Value := fun text =>
  match text with
  | '"' :: _ | '\'' :: _ => (string? text).map fun (s, rest) => (.string s, rest)
  | _ => bareValue? text

/-! ### Arrays and inline tables -/

/-- items of an array up to its bracket, after those read so far, newest first -/
def items? (item : Reader Value) : (bound : Nat) → (read : List Value) → Reader (List Value)
  | 0, _, _ => none
  | bound + 1, read, text => do
    match ← skipTrivia? false text with
    | ']' :: text => return (read.reverse, text)
    | text => do
      let (value, text) ← item text
      match ← skipTrivia? false text with
      | ',' :: text => items? item bound (value :: read) text
      | ']' :: text => return ((value :: read).reverse, text)
      | _ => none

/-- an assignment of an inline table, where line ends and comments may surround the equals sign -/
def member? (item : Reader Value) : Reader (List String × Value) := fun text => do
  let (key, text) ← key? depthLimit text
  let '=' :: text ← skipTrivia? false text | none
  let (value, text) ← item (← skipTrivia? false text)
  return ((key, value), text)

/-- assignments of an inline table up to its brace -/
def members? (item : Reader Value) : (bound : Nat) → (read : Entries) → Reader Entries
  | 0, _, _ => none
  | bound + 1, read, text => do
    match ← skipTrivia? false text with
    | '\x7d' :: text => return (read, text)
    | text => do
      let ((key, value), text) ← member? item text
      let read ← assign key value read
      match ← skipTrivia? false text with
      | ',' :: text => members? item bound read text
      | '\x7d' :: text => return (read, text)
      | _ => none

/-- a value with `room` levels of nesting to spare -/
def value? : (room : Nat) → Reader Value
  | 0, text =>
    match text with
    | '[' :: _ | '\x7b' :: _ => none
    | _ => simple? text
  | room + 1, text =>
    match text with
    | '[' :: rest => do
      let (items, rest) ← items? (value? room) (rest.length + 1) [] rest
      return (.array items, rest)
    | '\x7b' :: rest => do
      let (entries, rest) ← members? (value? room) (rest.length + 1) [] rest
      return (Entries.toValue entries, rest)
    | _ => simple? text

/-! ### Lines -/

/-- the table of what has been read, and the path of the last header -/
structure Progress where
  root : Entries
  header : List String

/-- a header, an assignment or nothing -/
def line? (p : Progress) : Reader Progress := fun text =>
  match text with
  | '[' :: '[' :: text => do
    let (path, text) ← key? depthLimit (skipBlank text)
    let ']' :: ']' :: text := text | none
    return (⟨← openElement path p.root, path⟩, text)
  | '[' :: text => do
    let (path, text) ← key? depthLimit (skipBlank text)
    let ']' :: text := text | none
    return (⟨← openTable path p.root, path⟩, text)
  | [] | '#' :: _ | '\n' :: _ | '\r' :: _ => some (p, text)
  | _ => do
    let ((key, value), text) ← assignment? (value? depthLimit) text
    return ({ p with root := ← within (assign key value) p.header p.root }, text)

/-- all lines, each of which takes a character of the text -/
def lines? : (bound : Nat) → Progress → List Char → Option Progress
  | 0, _, _ => none
  | bound + 1, p, text =>
    match text with
    | [] => some p
    | text => do
      let (p, text) ← line? p (skipBlank text)
      lines? bound p (← endLine? text)

/-- drops a byte order mark -/
def dropMark : List Char → List Char
  | '\ufeff' :: rest => rest
  | text => text

/-- the table of a document, or nothing if the text is none -/
def read? (document : String) : Option Table := do
  let text := dropMark document.toList
  let p ← lines? (text.length + 1) ⟨[], []⟩ text
  return Entries.toTable p.root

end Jargon.Toml
