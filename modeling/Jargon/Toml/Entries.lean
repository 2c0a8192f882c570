import Jargon.Toml.Value

/-!
# Tables under construction

A table may be opened by a header, be implied by the path of another header, or be made by a dotted
key; later lines may only add to it in ways that its origin allows.  Entries are kept in ascending
order of their keys.

* `find?_put`   putting an entry and looking it up;
* `assign`       a dotted key with its value;
* `openTable`, `openElement`   a header in single or double brackets.
-/

namespace Jargon.Toml

/-- how a table came about -/
inductive Origin where
  /-- by its own header, or as a whole document or inline table -/
  | opened
  /-- as part of the path of a header -/
  | implied
  /-- as part of a dotted key -/
  | dotted
  deriving DecidableEq, Repr

inductive Node where
  /-- nothing can be added -/
  | value (v : Value)
  | table (origin : Origin) (entries : List (String × Node))
  /-- tables of one array, the last of them open, those before it newest first -/
  | tables (earlier : List Value) (last : List (String × Node))

abbrev Entries := List (String × Node)

namespace Entries

/-! ### Look-up and change -/

def find? (key : String) : Entries → Option Node
  | [] => none
  | (k, n) :: rest => if k = key then some n else find? key rest

/-- replaces the node of a key, or adds it in its place -/
def put (key : String) (node : Node) : Entries → Entries
  | [] => [(key, node)]
  | (k, n) :: rest =>
    if k = key then (key, node) :: rest
    else if key < k then (key, node) :: (k, n) :: rest
    else (k, n) :: put key node rest

@[simp]
theorem find?_put (key : String) (node : Node) (entries : Entries) :
    find? key (put key node entries) = some node := by
  induction entries with
  | nil => simp [put, find?]
  | cons e rest ih =>
    obtain ⟨k, n⟩ := e
    by_cases h : k = key
    · simp [put, h, find?]
    · by_cases h' : key < k
      · simp [put, h, h', find?]
      · simp [put, h, h', find?, ih]

end Entries

/-! ### The finished value -/

mutual

def Node.toValue : Node → Value
  | .value v => v
  | .table _ entries => .table (entriesToValues entries)
  | .tables earlier last => .array (earlier.reverse ++ [.table (entriesToValues last)])

def entriesToValues : List (String × Node) → List (String × Value)
  | [] => []
  | e :: rest => entryToValue e :: entriesToValues rest

def entryToValue : String × Node → String × Value
  | (k, n) => (k, n.toValue)

end

def Entries.toTable (entries : Entries) : Table := entriesToValues entries

def Entries.toValue (entries : Entries) : Value := .table entries.toTable

/-! ### Dotted keys -/

/-- Puts a value at the end of a dotted key; `direct` says whether it may stand right here.  A table
that a part of the key passes is from then on one that dotted keys have made, and one with a header
of its own is not passed.  The last table of an array is passed, but takes no value itself. -/
def assignIn (value : Value) (direct : Bool) : (key : List String) → Entries → Option Entries
  | [], _ => none
  | [k], entries =>
    if direct ∧ (entries.find? k).isNone then some (entries.put k (.value value)) else none
  | k :: key, entries =>
    match entries.find? k with
    | none => do return entries.put k (.table .dotted (← assignIn value true key []))
    | some (.table origin inner) =>
      if origin = .opened then none
      else do return entries.put k (.table .dotted (← assignIn value true key inner))
    | some (.tables earlier last) => do
      return entries.put k (.tables earlier (← assignIn value false key last))
    | some (.value _) => none

/-- puts a value at a dotted key of an open table -/
def assign (key : List String) (value : Value) (entries : Entries) : Option Entries :=
  assignIn value true key entries

/-! ### Headers -/

/-- changes the table at the end of a path of headers; missing tables are implied -/
def within (change : Entries → Option Entries) : (path : List String) → Entries → Option Entries
  | [], entries => change entries
  | k :: path, entries =>
    match entries.find? k with
    | none => do return entries.put k (.table .implied (← within change path []))
    | some (.table origin inner) => do
      return entries.put k (.table origin (← within change path inner))
    | some (.tables earlier last) => do
      return entries.put k (.tables earlier (← within change path last))
    | some (.value _) => none

/-- a table is opened once; one that was implied keeps its entries -/
def openKey (key : String) (entries : Entries) : Option Entries :=
  match entries.find? key with
  | none => some (entries.put key (.table .opened []))
  | some (.table .implied inner) => some (entries.put key (.table .opened inner))
  | some _ => none

/-- an array of tables is begun, or gets one more table -/
def openElementKey (key : String) (entries : Entries) : Option Entries :=
  match entries.find? key with
  | none => some (entries.put key (.tables [] []))
  | some (.tables earlier last) =>
    some (entries.put key (.tables (Entries.toValue last :: earlier) []))
  | some _ => none

/-- carries out a change at the last part of a path -/
def atLast (change : String → Entries → Option Entries) (path : List String) (entries : Entries) :
    Option Entries :=
  match path.getLast? with
  | some key => within (change key) path.dropLast entries
  | none => none

/-- a header in single brackets -/
def openTable (path : List String) (entries : Entries) : Option Entries :=
  atLast openKey path entries

/-- a header in double brackets -/
def openElement (path : List String) (entries : Entries) : Option Entries :=
  atLast openElementKey path entries

end Jargon.Toml
