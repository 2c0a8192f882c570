/-!
# Classes of characters

A character is blank if it has the Unicode property White_Space; a text is blank if all its
characters are, so the empty text is blank.  The zero-width characters U+200B and U+FEFF and the
separators U+001C to U+001F do not have the property.

A larger class is a set of code points, given by its bounds in ascending order: the first code point
in it, the first after that which is not, the next which is again, and so on.

* `isBlankText_iff`   a text is blank iff each of its characters is.
-/

namespace Jargon.Text

/-! ### Blank text -/

/-- the property White_Space -/
def isBlank (c : Char) : Bool :=
  let n := c.toNat
  (0x9 ≤ n && n ≤ 0xD) || n == 0x20 || n == 0x85 || n == 0xA0 || n == 0x1680
    || (0x2000 ≤ n && n ≤ 0x200A) || n == 0x2028 || n == 0x2029 || n == 0x202F || n == 0x205F
    || n == 0x3000

def isBlankText (text : String) : Bool := text.toList.all isBlank

theorem isBlankText_iff (text : String) :
    isBlankText text = true ↔ ∀ c ∈ text.toList, isBlank c = true := by
  simp [isBlankText]

def firstBlank? (entries : List String) : Option Nat := entries.findIdx? isBlankText

/-! ### Sets of code points -/

structure CodePointSet where
  bounds : List Nat

namespace CodePointSet

/-- whether an odd number of leading bounds is at most `n` -/
def mem (s : CodePointSet) (n : Nat) : Bool := (s.bounds.takeWhile (· ≤ n)).length % 2 == 1

end CodePointSet

end Jargon.Text
