/-!
# Characters of a TOML document

Which characters may stand in a comment, a string or a bare key, and the white space between the
parts of a document.

* `Reader`       reads a value off the front of a text, or refuses it;
* `skipTrivia?`  what may stand between the items of an array, line ends and comments included;
* `endLine?`     what may stand behind the last part of a line.
-/

namespace Jargon.Toml

/-- reads a value off the front of a text and leaves the rest -/
abbrev Reader (α : Type) := List Char → Option (α × List Char)

def isBlankChar (c : Char) : Bool := c == ' ' || c == '\t'

/-- any character but the controls; a tab is allowed -/
def isPlainChar (c : Char) : Bool := c == '\t' || (0x20 ≤ c.toNat && c.toNat != 0x7F)

/-- a character that stands for itself between double quotes -/
def isBasicChar (c : Char) : Bool := isPlainChar c && c != '"' && c != '\\'

/-- a character that stands for itself between single quotes -/
def isLiteralChar (c : Char) : Bool := isPlainChar c && c != '\''

def isBareKeyChar (c : Char) : Bool := c.isAlphanum || c == '_' || c == '-'

/-! ### White space -/

def skipBlank (text : List Char) : List Char := text.dropWhile isBlankChar

/-- a line end, if one stands in front -/
def newline? : List Char → Option (List Char)
  | '\n' :: rest => some rest
  | '\r' :: '\n' :: rest => some rest
  | _ => none

def dropNewline (text : List Char) : List Char := (newline? text).getD text

/-- Skips blanks, line ends and comments; refuses a control character in a comment. -/
def skipTrivia? (inComment : Bool) : List Char → Option (List Char)
  | [] => some []
  | '\n' :: rest => skipTrivia? false rest
  | '\r' :: '\n' :: rest => skipTrivia? false rest
  | c :: rest =>
    if inComment then if isPlainChar c then skipTrivia? true rest else none
    else if isBlankChar c then skipTrivia? false rest
    else if c = '#' then skipTrivia? true rest
    else some (c :: rest)

/-- the rest after the comment, if there is one -/
def skipComment : List Char → List Char
  | '#' :: rest => rest.dropWhile isPlainChar
  | text => text

/-- Skips blanks and a comment up to the end of the line and past it; the end of the text will
do. -/
def endLine? (text : List Char) : Option (List Char) :=
  match skipComment (skipBlank text) with
  | [] => some []
  | rest => newline? rest

end Jargon.Toml
