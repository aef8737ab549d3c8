import RownumSql.Value

/-!
# Bindings

The values of a statement under the keys that its SQL refers to.  Placeholders are numbered without
gaps; a value may also be bound under a name of its own.
-/

namespace RownumSql

/-- How a bound value is addressed. -/
inductive BindKey where
  | named (name : String)
  /-- The position of an anonymous parameter, from zero on. -/
  | position (n : Nat)
deriving DecidableEq, Repr

namespace BindKey

/-- The key in messages. -/
def text : BindKey → String
  | named name => ":" ++ name
  | position n => "#" ++ toString n

def toDocument : BindKey → Document
  | named name => .text name
  | position n => .int n

/-- The key of a name that may be written with colons in front. -/
def ofName (name : String) : BindKey :=
  named (String.ofList (name.toList.dropWhile (· = ':')))

end BindKey

/-- A bound value. -/
structure Binding where
  key : BindKey
  value : Value
deriving DecidableEq

def Binding.toDocument (b : Binding) : Document :=
  .table [("key", b.key.toDocument), ("value", b.value.toDocument)]

/-- The bindings of a statement so far. -/
structure Bindings where
  entries : List Binding := []
  /-- The number of the next placeholder. -/
  next : Nat := 0
deriving DecidableEq

namespace Bindings

def placeholderName (n : Nat) : String := "c" ++ toString n

/-- Binds a value under a new placeholder, and gives the placeholder. -/
def place (v : Value) : StateM Bindings String := fun b =>
  let name := placeholderName b.next
  (":" ++ name, ⟨b.entries ++ [⟨.named name, v⟩], b.next + 1⟩)

/-- Puts a value under a key, in place of the one that is there or at the end. -/
def put (key : BindKey) (v : Value) : List Binding → List Binding
  | [] => [⟨key, v⟩]
  | b :: rest => if b.key = key then ⟨key, v⟩ :: rest else b :: put key v rest

def bind (name : String) (v : Value) (b : Bindings) : Bindings :=
  { b with entries := put (.ofName name) v b.entries }

def toDocument (entries : List Binding) : Document := .list (entries.map Binding.toDocument)

end Bindings

end RownumSql
