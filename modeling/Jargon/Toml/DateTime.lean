/-!
# Dates and times of a TOML document

A date, a time of day, or both with an optional offset.  Dates are those of the calendar; seconds
and their fraction may be left out, and a minute may have a second 60.

* `isDateTime_iff`   the forms a literal may have.
-/

namespace Jargon.Toml

/-- the value of two digits in front, if it is at most `most`, and the rest -/
def twoDigits? (most : Nat) : List Char → Option (Nat × List Char)
  | a :: b :: rest =>
    let value := 10 * (a.toNat - '0'.toNat) + (b.toNat - '0'.toNat)
    if a.isDigit ∧ b.isDigit ∧ value ≤ most then some (value, rest) else none
  | _ => none

def isLeapYear (year : Nat) : Bool := year % 4 == 0 && (year % 100 != 0 || year % 400 == 0)

/-- days of a month; none of a month that does not exist -/
def daysIn (year month : Nat) : Nat :=
  match month with
  | 2 => if isLeapYear year then 29 else 28
  | 4 | 6 | 9 | 11 => 30
  | 1 | 3 | 5 | 7 | 8 | 10 | 12 => 31
  | _ => 0

/-- the rest after a date -/
def date? (text : List Char) : Option (List Char) := do
  let (century, text) ← twoDigits? 99 text
  let (year, text) ← twoDigits? 99 text
  let '-' :: text := text | none
  let (month, text) ← twoDigits? 12 text
  let '-' :: text := text | none
  let (day, text) ← twoDigits? 31 text
  if 1 ≤ day ∧ day ≤ daysIn (100 * century + year) month then some text else none

/-- the rest after the digits of a fraction, which are at least one -/
def fraction? : List Char → Option (List Char)
  | c :: rest => if c.isDigit then some (rest.dropWhile Char.isDigit) else none
  | [] => none

/-- the rest after a time of day -/
def time? (text : List Char) : Option (List Char) := do
  let (_, text) ← twoDigits? 23 text
  let ':' :: text := text | none
  let (_, text) ← twoDigits? 59 text
  let ':' :: text := text | some text
  let (_, text) ← twoDigits? 60 text
  let '.' :: text := text | some text
  fraction? text

/-- nothing, `Z`, or hours and minutes with a sign -/
def isOffset : List Char → Bool
  | [] => true
  | ['Z'] | ['z'] => true
  | sign :: text =>
    (sign == '+' || sign == '-') &&
      match twoDigits? 23 text with
      | some (_, ':' :: text) => (twoDigits? 59 text).any (·.2.isEmpty)
      | _ => false

/-- a time that is followed by at most an offset -/
def isTimeWithOffset (text : List Char) : Bool :=
  match time? text with
  | some rest => isOffset rest
  | none => false

/-- between a date and a time -/
def isDateSeparator (c : Char) : Bool := c == 'T' || c == 't' || c == ' '

def isDateTime (text : List Char) : Bool :=
  time? text = some [] ||
    match date? text with
    | some [] => true
    | some (c :: rest) => isDateSeparator c && isTimeWithOffset rest
    | none => false

theorem isDateTime_iff (text : List Char) :
    isDateTime text = true ↔ time? text = some [] ∨ date? text = some [] ∨
      ∃ c rest, date? text = some (c :: rest) ∧ isDateSeparator c = true ∧
        isTimeWithOffset rest = true := by
  unfold isDateTime
  cases h : date? text with
  | none => simp
  | some r => cases r <;> simp [and_assoc]

end Jargon.Toml
