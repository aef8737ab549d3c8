import RownumSql.Number.Binary64

/-!
# Documents

The tree that a JSON or TOML text denotes: scalars, lists, and tables whose keys are distinct and
keep their order.
-/

namespace RownumSql

/-- A document tree. -/
inductive Document where
  | null
  | bool (b : Bool)
  | int (n : Int)
  | float (x : Binary64)
  | text (s : String)
  /-- A date or time that the format itself knows. -/
  | dateTime
  | list (items : List Document)
  | table (entries : List (String × Document))
deriving Inhabited, Repr

namespace Document

mutual
/-- The number of lists and tables on the longest way down. -/
def depth : Document → Nat
  | list items => depthOfItems items + 1
  | table entries => depthOfEntries entries + 1
  | _ => 0

def depthOfItems : List Document → Nat
  | [] => 0
  | d :: ds => max d.depth (depthOfItems ds)

def depthOfEntries : List (String × Document) → Nat
  | [] => 0
  | (_, d) :: es => max d.depth (depthOfEntries es)
end

/-! ## Formats -/

/-- The formats of document texts.  They differ in what passes for a name and for a record. -/
inductive Format where
  | json
  | toml
deriving DecidableEq, Repr

/-! ## Reading scalars -/

def text? : Document → Option String
  | text s => some s
  | _ => none

def bool? : Document → Option Bool
  | bool b => some b
  | _ => none

/-- A whole number below `bound`. -/
def below? (bound : Nat) : Document → Option Nat
  | int n => if 0 ≤ n && n < bound then some n.toNat else none
  | _ => none

/-- A whole number of 64 bits. -/
def uint64? (d : Document) : Option UInt64 := (d.below? UInt64.size).map UInt64.ofNat

/-- A whole number of 32 bits. -/
def uint32? (d : Document) : Option UInt32 := (d.below? UInt32.size).map UInt32.ofNat

/-- A list whose items are all read by `read`. -/
def list? {α : Type} (read : Document → Option α) : Document → Option (List α)
  | list items => items.mapM read
  | _ => none

/-- Null, or whatever `read` reads. -/
def nullable? {α : Type} (read : Document → Option α) : Document → Option (Option α)
  | null => some none
  | d => (read d).map some

/-- Whether a document stands for no content at all; TOML has no null. -/
def isBlank : Format → Document → Bool
  | .json, null => true
  | .toml, list [] => true
  | .toml, table [] => true
  | _, _ => false

/-- One of a set of names.  A name may also be the only key of a table, with nothing under it. -/
def oneOf? {α : Type} (f : Format) (names : List (String × α)) : Document → Option α
  | text s => names.lookup s
  | table [(s, d)] => if d.isBlank f then names.lookup s else none
  | _ => none

/-! ## Reading records -/

/-- The entries of a record.  A record may also be a list of its fields in their order.  A list may
stop early; in TOML it may also go on, and a date has no fields. -/
def fields? (f : Format) (names : List String) : Document → Option (List (String × Document))
  | table entries => some entries
  | list items =>
    if f = .toml || items.length ≤ names.length then some (names.zip items) else none
  | dateTime => some []
  | _ => none

/-- The entries of a record that follows the name of its kind.  JSON has it as a table only, and
TOML knows no other fields in the table. -/
def variantFields? (f : Format) (names : List String) (d : Document) :
    Option (List (String × Document)) :=
  match f, d with
  | .json, table entries => some entries
  | .json, _ => none
  | .toml, table entries => if entries.all (names.contains ·.1) then some entries else none
  | .toml, d => d.fields? .toml names

/-- A field that has to be there. -/
def required? {α : Type} (entries : List (String × Document)) (name : String)
    (read : Document → Option α) : Option α :=
  (entries.lookup name).bind read

/-- A field with a value for when it is not there. -/
def defaulted? {α : Type} (entries : List (String × Document)) (name : String)
    (read : Document → Option α) (absent : α) : Option α :=
  match entries.lookup name with
  | some d => read d
  | none => some absent

/-- A field that may be null or not there. -/
def optional? {α : Type} (entries : List (String × Document)) (name : String)
    (read : Document → Option α) : Option (Option α) :=
  defaulted? entries name (nullable? read) none

/-! ## Writing -/

def ofText? : Option String → Document
  | some s => text s
  | none => null

def ofTexts (ss : List String) : Document := list (ss.map text)

def ofNat (n : Nat) : Document := int n

end Document

end RownumSql
