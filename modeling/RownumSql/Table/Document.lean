import RownumSql.Table

/-!
# Documents of tables
-/

namespace RownumSql

/-- The map that a table of a document holds, its values read by `read`. -/
def OrderedMap.ofDocument? {α : Type} (read : Document → Option α) :
    Document → Option (OrderedMap α)
  | .table entries => do
    let values ← entries.mapM fun e => (read e.2).map (e.1, ·)
    pure (OrderedMap.ofList values)
  | _ => none

def Column.ofDocument? (f : Document.Format) (d : Document) : Option Column := do
  let fields ←
    d.fields? f ["type", "length", "precision", "nullable", "default", "fixed", "comment"]
  pure
    { type := ← Document.optional? fields "type" (Document.oneOf? f ColumnType.names)
      length := ← Document.optional? fields "length" Document.uint32?
      precision := ← Document.optional? fields "precision" Document.uint32?
      nullable := ← Document.defaulted? fields "nullable" Document.bool? true
      default := ← Document.optional? fields "default" Value.ofDocument?
      fixed := ← Document.defaulted? fields "fixed" Document.bool? false
      comment := ← Document.optional? fields "comment" Document.text? }

def Reference.ofDocument? (f : Document.Format) (d : Document) : Option Reference := do
  let fields ← d.fields? f ["table", "columns"]
  pure
    { table := ← Document.required? fields "table" Document.text?
      columns := ← Document.required? fields "columns" (Document.list? Document.text?) }

def Constraint.ofDocument? (f : Document.Format) (d : Document) : Option Constraint := do
  let fields ← d.fields? f ["type", "columns", "references", "update", "delete"]
  let action := Document.oneOf? f Action.names
  pure
    { kind := ← Document.required? fields "type" (Document.oneOf? f ConstraintKind.names)
      columns := ← Document.required? fields "columns" (Document.list? Document.text?)
      references := ← Document.optional? fields "references" (Reference.ofDocument? f)
      update := ← Document.optional? fields "update" action
      delete := ← Document.optional? fields "delete" action }

def Index.ofDocument? (f : Document.Format) (d : Document) : Option Index := do
  let fields ← d.fields? f ["type", "columns"]
  pure
    { kind := ← Document.defaulted? fields "type" (Document.oneOf? f IndexKind.names) .index
      columns := ← Document.required? fields "columns" (Document.list? Document.text?) }

def Table.ofDocument? (f : Document.Format) (d : Document) : Option Table := do
  let fields ← d.fields? f ["name", "columns", "constraints", "indexes"]
  pure
    { name := ← Document.required? fields "name" Document.text?
      columns :=
        ← Document.defaulted? fields "columns" (OrderedMap.ofDocument? (Column.ofDocument? f)) ∅
      constraints :=
        ← Document.defaulted? fields "constraints"
          (OrderedMap.ofDocument? (Constraint.ofDocument? f)) ∅
      indexes :=
        ← Document.defaulted? fields "indexes" (OrderedMap.ofDocument? (Index.ofDocument? f)) ∅ }

end RownumSql
