/-!
# Text without terminal control

A terminal takes some characters for commands: single controls, and the sequences that an escape
character begins.  Here a text is reduced to what can be read: a sequence is dropped whole, and any
other control unless it is white space.  Cancel, substitute and a character beyond ASCII end a
sequence that is not complete, and another escape character begins a new one.
-/

namespace Jargon.Text

/-- what the characters read so far leave open -/
inductive ControlState where
  /-- nothing -/
  | plain
  /-- an escape character -/
  | escape
  /-- an escape character and intermediate characters -/
  | intermediate
  /-- parameters up to a final letter -/
  | parameters
  /-- a command string up to the next escape character, or the bell if `bell` says so -/
  | string (bell : Bool)
  deriving DecidableEq, Repr

namespace ControlState

/-- tab, line feed, form feed and carriage return -/
def isSpacing (n : Nat) : Bool := n == 0x9 || n == 0xA || n == 0xC || n == 0xD

/-- what an escape character and one more begin -/
def afterEscape (n : Nat) : ControlState :=
  if n < 0x30 then .intermediate
  else if n = 0x5B then .parameters
  else if n = 0x5D then .string true
  else if n = 0x50 ∨ n = 0x58 ∨ n = 0x5E ∨ n = 0x5F then .string false
  else .plain

/-- whether a code point is kept, and the state behind it -/
def step (s : ControlState) (n : Nat) : Bool × ControlState :=
  if 0x80 ≤ n then (true, .plain)
  else if n = 0x1B then (false, .escape)
  else if n = 0x18 ∨ n = 0x1A then (false, .plain)
  else
    match s with
    | .string bell => (false, if bell && n == 0x7 then .plain else s)
    | s =>
      if isSpacing n then (true, .plain)
      else if n < 0x20 ∨ n = 0x7F then (false, s)
      else
        match s with
        | .escape => (false, afterEscape n)
        | .intermediate => (false, if n < 0x30 then s else .plain)
        | .parameters => (false, if n < 0x40 then s else .plain)
        | _ => (true, .plain)

end ControlState

/-- what can be read of a text that follows an open sequence -/
def readable (s : ControlState) : List Char → List Char
  | [] => []
  | c :: rest =>
    let (kept, s) := s.step c.toNat
    if kept then c :: readable s rest else readable s rest

def withoutControl (text : String) : String := String.ofList (readable .plain text.toList)

end Jargon.Text
