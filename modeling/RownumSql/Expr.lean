import RownumSql.Value

/-!
# Expressions and clause items

What stands inside the clauses of a query: expressions, selected items, tables, joins, sort keys,
and the text at the end.
-/

namespace RownumSql

/-! ## Operators -/

/-- Comparison operators. -/
inductive Operator where
  | eq
  | ne
  | gt
  | gte
  | lt
  | lte
  | like
  | isNull
  | isNotNull
deriving DecidableEq, Repr

namespace Operator

def sql : Operator → String
  | eq => "="
  | ne => "<>"
  | gt => ">"
  | gte => ">="
  | lt => "<"
  | lte => "<="
  | like => "LIKE"
  | isNull => "IS NULL"
  | isNotNull => "IS NOT NULL"

/-- Whether the operator takes nothing on its right. -/
def isUnary : Operator → Bool
  | isNull => true
  | isNotNull => true
  | _ => false

def names : List (String × Operator) :=
  [("eq", eq), ("ne", ne), ("gt", gt), ("gte", gte), ("lt", lt), ("lte", lte), ("like", like),
   ("is_null", isNull), ("is_not_null", isNotNull)]

def name : Operator → String
  | eq => "eq"
  | ne => "ne"
  | gt => "gt"
  | gte => "gte"
  | lt => "lt"
  | lte => "lte"
  | like => "like"
  | isNull => "is_null"
  | isNotNull => "is_not_null"

end Operator

/-! ## Expressions -/

/-- An expression. -/
inductive Expr where
  /-- A column or alias, quoted and shortened. -/
  | column (name : String)
  /-- A scalar, bound under a placeholder. -/
  | value (v : Value)
  /-- SQL as it stands. -/
  | raw (sql : String)
  | compare (left : Expr) (op : Operator) (right : Expr)
  | function (name : String) (args : List Expr)
deriving Inhabited

namespace Expr

/-- A column compared with a scalar. -/
def filter (column : String) (op : Operator) (v : Value) : Expr :=
  compare (Expr.column column) op (value v)

mutual
/-- Decides whether two expressions are the same. -/
def decEq : (e f : Expr) → Decidable (e = f)
  | column a, column b => decidable_of_iff (a = b) (by simp)
  | value a, value b => decidable_of_iff (a = b) (by simp)
  | raw a, raw b => decidable_of_iff (a = b) (by simp)
  | compare l o r, compare l' o' r' =>
    have := decEq l l'
    have := decEq r r'
    decidable_of_iff (l = l' ∧ o = o' ∧ r = r') (by simp)
  | function n as, function n' as' =>
    have := decEqList as as'
    decidable_of_iff (n = n' ∧ as = as') (by simp)
  | column _, value _ | column _, raw _ | column _, compare .. | column _, function .. =>
    isFalse nofun
  | value _, column _ | value _, raw _ | value _, compare .. | value _, function .. =>
    isFalse nofun
  | raw _, column _ | raw _, value _ | raw _, compare .. | raw _, function .. => isFalse nofun
  | compare .., column _ | compare .., value _ | compare .., raw _ | compare .., function .. =>
    isFalse nofun
  | function .., column _ | function .., value _ | function .., raw _ | function .., compare .. =>
    isFalse nofun

/-- Decides whether two lists of expressions are the same. -/
def decEqList : (es fs : List Expr) → Decidable (es = fs)
  | [], [] => isTrue rfl
  | e :: es, f :: fs =>
    have := decEq e f
    have := decEqList es fs
    decidable_of_iff (e = f ∧ es = fs) (by simp)
  | [], _ :: _ => isFalse nofun
  | _ :: _, [] => isFalse nofun
end

instance : DecidableEq Expr := decEq

end Expr

/-! ## Clause items -/

/-- An item of a select list. -/
structure SelectItem where
  expr : Expr
  /-- Another name that it goes by. -/
  label : Option String := none
deriving DecidableEq

/-- A table that is read from. -/
structure TableRef where
  name : String
  /-- Another name that it goes by. -/
  label : Option String := none
deriving DecidableEq

/-- Kinds of join. -/
inductive JoinKind where
  | inner
  | left
  | right
deriving DecidableEq, Repr

namespace JoinKind

def sql : JoinKind → String
  | inner => "INNER JOIN"
  | left => "LEFT JOIN"
  | right => "RIGHT JOIN"

def names : List (String × JoinKind) := [("inner", inner), ("left", left), ("right", right)]

def name : JoinKind → String
  | inner => "inner"
  | left => "left"
  | right => "right"

end JoinKind

/-- A joined table. -/
structure Join where
  kind : JoinKind := .inner
  table : TableRef
  on : List Expr := []
deriving DecidableEq

/-- Directions of sorting. -/
inductive SortOrder where
  | asc
  | desc
deriving DecidableEq, Repr

namespace SortOrder

def sql : SortOrder → String
  | asc => "ASC"
  | desc => "DESC"

def names : List (String × SortOrder) := [("asc", asc), ("desc", desc)]

def name : SortOrder → String
  | asc => "asc"
  | desc => "desc"

end SortOrder

/-- A sort key. -/
structure SortKey where
  expr : Expr
  order : SortOrder := .asc
deriving DecidableEq

/-- What follows the body of a query. -/
inductive Epilog where
  | sql (text : String)
  | expr (e : Expr)
deriving DecidableEq

/-- A column and the expression that is put into it. -/
structure Assignment where
  column : String
  value : Expr
deriving DecidableEq

end RownumSql
