import RownumSql.Expr

/-!
# Queries

A query is a set of clauses that are set independently of each other.  Queries nest: a union holds
further branches, and an insertion may take its rows from a query.
-/

namespace RownumSql

/-- Kinds of statement. -/
inductive QueryKind where
  | select
  | insert
  | update
  | delete
deriving DecidableEq, Repr

namespace QueryKind

def name : QueryKind → String
  | select => "select"
  | insert => "insert"
  | update => "update"
  | delete => "delete"

def names : List (String × QueryKind) :=
  [("select", select), ("insert", insert), ("update", update), ("delete", delete)]

end QueryKind

/-! ## Windows

A row window opens around a query before its select list and closes after its last clause.  The
closing texts are set aside when the window opens; each is used as long as its clause is positive.
-/

/-- The closing texts of a window, as far as it has been opened. -/
structure WindowClosing where
  /-- Closes the part that skips rows. -/
  offset : Option String := none
  /-- Closes the part that caps rows. -/
  limit : Option String := none
deriving DecidableEq, Repr

namespace WindowClosing

def isEmpty (w : WindowClosing) : Bool := w.offset.isNone && w.limit.isNone

/-- The closing text for the given clauses: the limit is the inner boundary and closes first. -/
def text (w : WindowClosing) (limit offset : UInt64) : String :=
  (if 0 < limit then w.limit.getD "" else "") ++ (if 0 < offset then w.offset.getD "" else "")

end WindowClosing

/-! ## Clauses -/

/-- A branch of a union. -/
structure Branch (Q : Type) where
  /-- Whether rows that occur twice are kept. -/
  all : Bool := false
  query : Q
deriving DecidableEq

/-- What is inserted: rows of expressions, or the rows of a query. -/
structure Insertion (Q : Type) where
  table : String
  columns : List String
  rows : List (List Expr) := []
  source : Option Q := none
deriving DecidableEq

/-- What is updated. -/
structure Update where
  table : String
  assignments : List Assignment := []
deriving DecidableEq

/-- A query. -/
structure Query where
  kind : QueryKind := .select
  distinct : Bool := false
  select : List SelectItem := []
  tables : List TableRef := []
  joins : List Join := []
  conditions : List Expr := []
  groups : List Expr := []
  having : List Expr := []
  order : List SortKey := []
  limit : Option UInt64 := none
  offset : Option UInt64 := none
  branches : List (Branch Query) := []
  epilog : Option Epilog := none
  insertion : Option (Insertion Query) := none
  update : Option Update := none
  /-- Whether the rows may be held in memory at once. -/
  buffered : Bool := true
  /-- The closing texts of the row window, set aside while the query is compiled. -/
  closing : WindowClosing := {}

namespace Query

instance : Inhabited Query := ⟨{}⟩

/-! ## Equality -/

mutual
/-- Decides whether two queries are the same. -/
def decEq : (p q : Query) → Decidable (p = q)
  | ⟨k, d, s, t, j, c, g, h, o, l, f, bs, e, i, u, b, w⟩,
    ⟨k', d', s', t', j', c', g', h', o', l', f', bs', e', i', u', b', w'⟩ =>
    have := decEqBranches bs bs'
    have := decEqInsertion i i'
    decidable_of_iff
      ((k = k' ∧ d = d' ∧ s = s' ∧ t = t' ∧ j = j' ∧ c = c' ∧ g = g' ∧ h = h')
        ∧ o = o' ∧ l = l' ∧ f = f' ∧ bs = bs' ∧ e = e' ∧ i = i' ∧ u = u' ∧ b = b' ∧ w = w')
      (by simp only [Query.mk.injEq, and_assoc])

/-- Decides whether two lists of branches are the same. -/
def decEqBranches : (bs cs : List (Branch Query)) → Decidable (bs = cs)
  | [], [] => isTrue rfl
  | ⟨a, p⟩ :: bs, ⟨a', q⟩ :: cs =>
    have := decEq p q
    have := decEqBranches bs cs
    decidable_of_iff ((a = a' ∧ p = q) ∧ bs = cs) (by simp)
  | [], _ :: _ => isFalse nofun
  | _ :: _, [] => isFalse nofun

/-- Decides whether two insertions are the same. -/
def decEqInsertion : (i j : Option (Insertion Query)) → Decidable (i = j)
  | none, none => isTrue rfl
  | some ⟨t, c, r, s⟩, some ⟨t', c', r', s'⟩ =>
    have := decEqSource s s'
    decidable_of_iff (t = t' ∧ c = c' ∧ r = r' ∧ s = s') (by simp)
  | none, some _ => isFalse nofun
  | some _, none => isFalse nofun

/-- Decides whether two source queries are the same. -/
def decEqSource : (p q : Option Query) → Decidable (p = q)
  | none, none => isTrue rfl
  | some p, some q =>
    have := decEq p q
    decidable_of_iff (p = q) (by simp)
  | none, some _ => isFalse nofun
  | some _, none => isFalse nofun
end

instance : DecidableEq Query := decEq

/-! ## Pages -/

/-- The limit, zero if there is none. -/
def limitValue (q : Query) : UInt64 := q.limit.getD 0

/-- The offset, zero if there is none. -/
def offsetValue (q : Query) : UInt64 := q.offset.getD 0

def page (q : Query) (limit offset : Option UInt64) : Query := { q with limit, offset }

/-- The query without limit and offset, to count its rows. -/
def clearPage (q : Query) : Query := q.page none none

/-! ## Starting a query -/

/-- Selects columns; all of them if none is given. -/
def selecting (columns : List String) : Query :=
  { select := columns.map fun c => ⟨.column c, none⟩ }

def insertingInto (table : String) (columns : List String) : Query :=
  { kind := .insert, insertion := some { table, columns } }

def updating (table : String) : Query := { kind := .update, update := some { table } }

def deletingFrom (table : String) : Query := { kind := .delete, tables := [⟨table, none⟩] }

/-! ## Adding to a query -/

def selectExpr (q : Query) (expr : Expr) (label : Option String) : Query :=
  { q with select := q.select ++ [⟨expr, label⟩] }

/-- Drops repeated rows. -/
def onlyDistinct (q : Query) : Query := { q with distinct := true }

/-- Reads one more table. -/
def readFrom (q : Query) (table : String) (label : Option String := none) : Query :=
  { q with tables := q.tables ++ [⟨table, label⟩] }

def join (q : Query) (kind : JoinKind) (table : TableRef) (on : List Expr) : Query :=
  { q with joins := q.joins ++ [⟨kind, table, on⟩] }

def filter (q : Query) (e : Expr) : Query := { q with conditions := q.conditions ++ [e] }

def groupBy (q : Query) (e : Expr) : Query := { q with groups := q.groups ++ [e] }

/-- Adds a condition on groups. -/
def havingAlso (q : Query) (e : Expr) : Query := { q with having := q.having ++ [e] }

def orderBy (q : Query) (column : String) (order : SortOrder) : Query :=
  { q with order := q.order ++ [⟨.column column, order⟩] }

def withLimit (q : Query) (n : UInt64) : Query := { q with limit := some n }

def withOffset (q : Query) (n : UInt64) : Query := { q with offset := some n }

def union (q : Query) (all : Bool) (branch : Query) : Query :=
  { q with branches := q.branches ++ [⟨all, branch⟩] }

/-- Sets the text at the end. -/
def withEpilog (q : Query) (sql : String) : Query := { q with epilog := some (.sql sql) }

/-- Inserts one more row; nothing happens to a query that does not insert. -/
def insertRow (q : Query) (row : List Expr) : Query :=
  { q with insertion := q.insertion.map fun i => { i with rows := i.rows ++ [row] } }

/-- Inserts the rows of a query; nothing happens to a query that does not insert. -/
def insertRowsOf (q : Query) (source : Query) : Query :=
  { q with insertion := q.insertion.map fun i => { i with source := some source } }

/-- Assigns to one more column; nothing happens to a query that does not update. -/
def assign (q : Query) (column : String) (v : Value) : Query :=
  { q with update := q.update.map fun u =>
      { u with assignments := u.assignments ++ [⟨column, .value v⟩] } }

/-- Keeps the rows out of memory. -/
def unbuffered (q : Query) : Query := { q with buffered := false }

end Query

end RownumSql
