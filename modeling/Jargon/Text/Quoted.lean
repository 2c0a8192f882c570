import Jargon.Text.Unprintable
import Jargon.Text.GraphemeExtend

/-!
# Quoted text in messages

A text stands in double quotes.  A quote and a backslash are escaped, a few controls have a letter,
and whatever cannot be printed on its own is written as `\u` with its code point in braces: what is
unprintable, what extends the character before, and letters that show nothing.
-/

namespace Jargon.Text

/-- letters that fill the place of a Hangul letter and show nothing -/
def isHangulFiller (n : Nat) : Bool := n == 0x115F || n == 0x1160 || n == 0x3164 || n == 0xFFA0

/-- sound marks of halfwidth Katakana: they extend the letter before and have a width of their own -/
def isHalfwidthMark (n : Nat) : Bool := n == 0xFF9E || n == 0xFF9F

/-- whether a code point is printed on its own -/
def standsAlone (n : Nat) : Bool :=
  !(unprintable.mem n || isHangulFiller n || (graphemeExtend.mem n && !isHalfwidthMark n))

/-- how one character stands between the quotes -/
def quotedChar (c : Char) : List Char :=
  match c with
  | '\x00' => ['\\', '0']
  | '\t' => ['\\', 't']
  | '\n' => ['\\', 'n']
  | '\r' => ['\\', 'r']
  | '"' => ['\\', '"']
  | '\\' => ['\\', '\\']
  | c =>
    if standsAlone c.toNat then [c]
    else '\\' :: 'u' :: '\x7b' :: Nat.toDigits 16 c.toNat ++ ['\x7d']

def quoted (text : String) : String :=
  String.ofList ('"' :: text.toList.flatMap quotedChar ++ ['"'])

/-- the quoted texts in square brackets -/
def quotedList (texts : List String) : String :=
  "[" ++ String.intercalate ", " (texts.map quoted) ++ "]"

end Jargon.Text
