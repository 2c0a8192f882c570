/-!
# Words and occurrences in a text

A text is measured by its space characters alone: tabs, line ends and runs of spaces are not
collapsed.  An entry is counted from left to right, and the search goes on after the end of each
match.  The same count is made over the bytes of both texts: there a match is skipped whole, and a
mismatch costs one byte, whether or not a character starts there.

* `countFrom_eq_add`   the running total only shifts the answer;
* `hits_nil`, `hits_cons`   the total over a list of entries, each counted on its own;
* `distinctPresent`    how many entries of the list occur at all.
-/

namespace Jargon.Text

/-- spaces plus one, so the empty text is one word -/
def wordCount (text : String) : Nat := text.toList.count ' ' + 1

/-! ### Counting -/

/-- Occurrences of `needle` that do not overlap, leftmost first, added to `found`.  The next
`covered` characters belong to the last match. -/
def countFrom (needle : List Char) (found : Nat) : (covered : Nat) → List Char → Nat
  | _, [] => found
  | covered + 1, _ :: rest => countFrom needle found covered rest
  | 0, c :: rest =>
    if needle.isPrefixOf (c :: rest) then
      countFrom needle (found + 1) (needle.length - 1) rest
    else countFrom needle found 0 rest

theorem countFrom_eq_add (needle : List Char) (text : List Char) :
    ∀ found covered, countFrom needle found covered text = found + countFrom needle 0 covered text := by
  induction text with
  | nil => intro found covered; cases covered <;> simp [countFrom]
  | cons c rest ih =>
    intro found covered
    cases covered with
    | succ covered => exact ih found covered
    | zero =>
      simp only [countFrom]
      split
      · rw [ih (found + 1), ih (0 + 1)]; omega
      · exact ih found 0

/-- the empty needle is never found -/
def countOccurrences (text needle : String) : Nat :=
  if needle.isEmpty then 0 else countFrom needle.toList 0 0 text.toList

/-! ### Counting bytes -/

/-- matches of the nonempty `needle` in what follows, `covered` bytes of the last one included -/
def countBytesFrom (needle : List UInt8) (found : Nat) : (covered : Nat) → List UInt8 → Nat
  | _, [] => found
  | covered + 1, _ :: rest => countBytesFrom needle found covered rest
  | 0, b :: rest =>
    if needle.isPrefixOf (b :: rest) then
      countBytesFrom needle (found + 1) (needle.length - 1) rest
    else countBytesFrom needle found 0 rest

/-- `countOccurrences` read off the bytes of both texts -/
def countByBytes (text needle : String) : Nat :=
  let bytes := needle.toUTF8.data.toList
  if bytes.isEmpty then 0 else countBytesFrom bytes 0 0 text.toUTF8.data.toList

/-! ### Presence -/

/-- whether `needle` stands somewhere in the text, the empty needle everywhere -/
def occursIn (needle : List Char) : List Char → Bool
  | [] => needle.isEmpty
  | c :: rest => needle.isPrefixOf (c :: rest) || occursIn needle rest

theorem occursIn_iff (needle text : List Char) : occursIn needle text = true ↔ needle <:+: text := by
  induction text with
  | nil => simp [occursIn]
  | cons c rest ih => simp [occursIn, ih, List.infix_cons_iff]

/-! ### Lists of entries -/

/-- total over all entries; an entry inside a longer one is counted for both -/
def hits (text : String) (entries : List String) : Nat :=
  entries.foldr (fun entry total => countOccurrences text entry + total) 0

@[simp]
theorem hits_nil (text : String) : hits text [] = 0 := rfl

@[simp]
theorem hits_cons (text entry : String) (entries : List String) :
    hits text (entry :: entries) = countOccurrences text entry + hits text entries := rfl

/-- positions of the list whose entry is not empty and occurs in the text -/
def distinctPresent (text : String) (entries : List String) : Nat :=
  entries.countP fun entry => !entry.isEmpty && occursIn entry.toList text.toList

end Jargon.Text
