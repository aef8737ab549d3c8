import RownumSql.Document

/-!
# Growing tables

A TOML text fills its tables piece by piece: headers open tables and series of tables, keys of
several parts open tables on the way.  Whether a table may be opened again or added to depends on
how it came about, so a growing tree remembers that until the end.
-/

namespace RownumSql.Toml

/-- How a table came about. -/
inductive Origin where
  /-- On the way to the table of a header. -/
  | passed
  /-- On the way to the last part of a key. -/
  | dotted
  /-- By a header of its own. -/
  | headed
deriving DecidableEq

/-- What stands under a key while the text is read. -/
inductive Node where
  /-- A value that is complete. -/
  | value (d : Document)
  | table (origin : Origin) (entries : List (String × Node))
  /-- Tables under one key: those that are complete, and the entries of the last. -/
  | series (done : List Document) (last : List (String × Node))

/-- A table that is being filled. -/
structure Growing where
  origin : Origin
  entries : List (String × Node)

mutual
/-- The document that a node has become. -/
def Node.document : Node → Document
  | .value d => d
  | .table _ entries => .table (entryDocuments entries)
  | .series done last => .list (done ++ [.table (entryDocuments last)])

/-- The entries that a table has got. -/
def entryDocuments : List (String × Node) → List (String × Document)
  | [] => []
  | (key, node) :: rest => (key, node.document) :: entryDocuments rest
end

/-- The entries with `node` under `key`, which is there. -/
def replaceEntry (key : String) (node : Node) (entries : List (String × Node)) :
    List (String × Node) :=
  entries.map fun e => if e.1 = key then (key, node) else e

/-- Changes the table at the end of a path by `f`.  Tables that are missing on the way are opened;
of a series the last table is meant.  A way made by a key (`dotted`) may not enter a table that has
a header of its own. -/
def alter (dotted : Bool) (f : Growing → Option Growing) : List String → Growing → Option Growing
  | [], t => f t
  | key :: path, t =>
    let origin := if dotted then Origin.dotted else Origin.passed
    match t.entries.lookup key with
    | none => do
      let child ← alter dotted f path ⟨origin, []⟩
      pure { t with entries := t.entries ++ [(key, .table child.origin child.entries)] }
    | some (.value _) => none
    | some (.table o es) => do
      guard (!(dotted && o = .headed))
      let child ← alter dotted f path ⟨o, es⟩
      pure { t with entries := replaceEntry key (.table child.origin child.entries) t.entries }
    | some (.series done last) => do
      let child ← alter dotted f path ⟨.headed, last⟩
      pure { t with entries := replaceEntry key (.series done child.entries) t.entries }

/-- Puts a value under a key of one or more parts. -/
def putValue (path : List String) (d : Document) (t : Growing) : Option Growing :=
  match path.getLast? with
  | none => none
  | some key =>
    alter true (fun parent => do
      guard ((parent.origin = .dotted) ≠ (path.length = 1))
      guard (parent.entries.lookup key).isNone
      pure { parent with entries := parent.entries ++ [(key, .value d)] }) path.dropLast t

/-- Opens the table of a header.  A table that was only passed through moves to the end. -/
def openTable (path : List String) (root : Growing) : Option Growing :=
  match path.getLast? with
  | none => none
  | some key =>
    alter false (fun parent =>
      match parent.entries.lookup key with
      | none => some { parent with entries := parent.entries ++ [(key, .table .headed [])] }
      | some (.table .passed es) =>
        some { parent with
          entries := parent.entries.filter (·.1 ≠ key) ++ [(key, .table .headed es)] }
      | some _ => none) path.dropLast root

/-- Opens the next table of a series. -/
def openSeries (path : List String) (root : Growing) : Option Growing :=
  match path.getLast? with
  | none => none
  | some key =>
    alter false (fun parent =>
      match parent.entries.lookup key with
      | none => some { parent with entries := parent.entries ++ [(key, .series [] [])] }
      | some (.series done last) =>
        let closed := done ++ [Document.table (entryDocuments last)]
        some { parent with entries := replaceEntry key (.series closed []) parent.entries }
      | some _ => none) path.dropLast root

/-- Puts a value under a key of the table that was opened last. -/
def putInto (opened path : List String) (d : Document) (root : Growing) : Option Growing :=
  alter false (putValue path d) opened root

end RownumSql.Toml
