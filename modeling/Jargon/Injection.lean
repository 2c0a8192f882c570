import Jargon.Random.Draw
import Jargon.Text.Occurrences

/-!
# Injection of buzzwords

Buzzwords are put into a text, each with a space behind it, right after some of its spaces.  All of
them are drawn before the text is touched; those that share a slot stack, the newest first; the
result is put together in one pass.

* `InsertionMode.ofName?_eq_some_iff`   the names of the modes, and no other text, are read;
* `required`          how many are inserted;
* `length_slotsFrom`  one slot for each space;
* `cut_zero`          cutting off nothing;
* `inject`            plan, stacks, assembly.
-/

namespace Jargon

/-! ### Where insertions go -/

inductive InsertionMode where
  /-- after the first space, so that insertions stack in front of one another -/
  | firstSpace
  /-- after a space drawn anew for each insertion -/
  | scatter
  deriving DecidableEq, Repr

namespace InsertionMode

/-- the name a configuration uses -/
def name : InsertionMode → String
  | .firstSpace => "first-space"
  | .scatter => "scatter"

def ofName? (text : String) : Option InsertionMode :=
  if text = name .firstSpace then some .firstSpace
  else if text = name .scatter then some .scatter
  else none

theorem ofName?_eq_some_iff {text : String} {m : InsertionMode} :
    ofName? text = some m ↔ text = m.name := by
  unfold ofName?
  constructor
  · intro h
    split at h
    · cases h; assumption
    · split at h
      · cases h; assumption
      · cases h
  · rintro rfl
    cases m <;> decide

/-- the word a log line uses -/
def label : InsertionMode → String
  | .firstSpace => "FirstSpace"
  | .scatter => "Scatter"

end InsertionMode

namespace Injection

/-! ### How many -/

/-- fewest buzzwords that one injection inserts -/
def least : Nat := 3

/-- one for each five words, less the entries that are there already -/
def required (text : String) (vocabulary : List String) : Nat :=
  max (Text.wordCount text / 5 - Text.distinctPresent text vocabulary) least

/-! ### Slots -/

/-- places of the spaces in bytes, the first character being at `offset` -/
def slotsFrom (offset : Nat) : List Char → List Nat
  | [] => []
  | c :: rest =>
    if c = ' ' then offset :: slotsFrom (offset + c.utf8Size) rest
    else slotsFrom (offset + c.utf8Size) rest

@[simp]
theorem length_slotsFrom (text : List Char) (offset : Nat) :
    (slotsFrom offset text).length = text.count ' ' := by
  induction text generalizing offset with
  | nil => rfl
  | cons c rest ih =>
    by_cases h : c = ' '
    · simp [slotsFrom, h, ih]
    · simp [slotsFrom, h, ih]

/-- the spaces that a mode may use -/
def slots (mode : InsertionMode) (text : List Char) : List Nat :=
  match mode with
  | .firstSpace => (slotsFrom 0 text).take 1
  | .scatter => slotsFrom 0 text

/-! ### The plan -/

/-- a buzzword and the number of its slot, if there is any slot -/
structure Insertion where
  buzzword : String
  slot : Option Nat
  deriving DecidableEq, Repr

section

variable {σ : Type} [WordSource σ]

/-- the buzzword is drawn first; a slot is drawn in `scatter` mode only -/
def planOne (mode : InsertionMode) (vocabulary : List String) (slotCount : Nat) :
    Draw σ Insertion := do
  let buzzword ← Draw.pick vocabulary
  if slotCount = 0 then return ⟨buzzword, none⟩
  else match mode with
    | .firstSpace => return ⟨buzzword, some 0⟩
    | .scatter => do
      let slot ← Draw.below slotCount
      return ⟨buzzword, some slot⟩

def plan (mode : InsertionMode) (vocabulary : List String) (slotCount : Nat) :
    (count : Nat) → Draw σ (List Insertion)
  | 0 => return []
  | count + 1 => do
    let first ← planOne mode vocabulary slotCount
    let rest ← plan mode vocabulary slotCount count
    return first :: rest

end

/-! ### Stacks -/

/-- the buzzwords of each slot, newest first -/
abbrev Stacks := Array (List String)

/-- puts a buzzword on the stack of its slot -/
def push (held : Stacks) (i : Insertion) : Except Fault Stacks :=
  match i.slot with
  | none => .ok held
  | some slot =>
    if slot < held.size then .ok (held.modify slot (i.buzzword :: ·))
    else .error .indexOutOfRange

def stack (slotCount : Nat) (plan : List Insertion) : Except Fault Stacks :=
  plan.foldlM push (Array.replicate slotCount [])

/-! ### Assembly -/

/-- moves the next `bytes` bytes of the text behind `taken` -/
def cut : (bytes : Nat) → (taken : String) → List Char → Except Fault (String × List Char)
  | 0, taken, text => .ok (taken, text)
  | _ + 1, _, [] => .error .sliceOutOfRange
  | bytes + 1, taken, c :: rest =>
    if c.utf8Size ≤ bytes + 1 then cut (bytes + 1 - c.utf8Size) (taken.push c) rest
    else .error .sliceOffBoundary

@[simp]
theorem cut_zero (taken : String) (text : List Char) : cut 0 taken text = .ok (taken, text) := by
  cases text <;> rfl

/-- each buzzword of a stack with a space behind it -/
def unstack (taken : String) (stack : List String) : String :=
  stack.foldl (fun taken buzzword => taken ++ buzzword ++ " ") taken

/-- `text` starts at byte `copied`; up to each slot it is copied, then the stack follows -/
def assemble (copied : Nat) (text : List Char) (taken : String) :
    List (Nat × List String) → Except Fault String
  | [] => .ok (taken ++ String.ofList text)
  | (slot, stack) :: more =>
    if slot + 1 < copied then .error .sliceOutOfRange
    else do
      let (taken, text) ← cut (slot + 1 - copied) taken text
      assemble (slot + 1) text (unstack taken stack) more

/-- the text with a plan carried out -/
def carryOut (slots : List Nat) (plan : List Insertion) (text : String) : Except Fault String := do
  let held ← stack slots.length plan
  assemble 0 text.toList "" (slots.zip held.toList)

/-- draws `count` insertions and carries them out -/
def inject {σ : Type} [WordSource σ] (mode : InsertionMode) (vocabulary : List String)
    (count : Nat) (text : String) : Draw σ String := do
  let slots := slots mode text.toList
  let plan ← plan mode vocabulary slots.length count
  carryOut slots plan text

end Injection

end Jargon
