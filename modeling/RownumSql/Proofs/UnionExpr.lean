import Mathlib.Data.List.Dedup
import RownumSql.Proofs.Clause

/-!
# Expressions of UNION and UNION ALL

What rows a union gives is settled by how its operands are grouped.  An expression says how; its
rows are those of its operands put together, and the number of times that a row occurs in them is a
sum that every UNION cuts off at one.  Two expressions have the same rows for all rows of their
operands just if they have the same weight for all weights of their operands (`perm_rows_iff`).

A server reads the text of a union from left to right, without precedence among the two words;
parentheses group (`UnionToken.read`).
-/

namespace RownumSql

/-- Numbered operands, grouped by UNION and UNION ALL. -/
inductive UnionExpr where
  | operand (n : Nat)
  | union (all : Bool) (left right : UnionExpr)
deriving DecidableEq

namespace UnionExpr

/-! ## Rows -/

section rows
variable {ρ : Type} [DecidableEq ρ]

/-- The rows of two sides: all of them, or each of them once. -/
def combine (all : Bool) (left right : List ρ) : List ρ :=
  if all then left ++ right else (left ++ right).dedup

/-- The rows of an expression, given those of its operands. -/
def rows (of : Nat → List ρ) : UnionExpr → List ρ
  | operand n => of n
  | union all left right => combine all (left.rows of) (right.rows of)

/-- The weight of an expression, given those of its operands: UNION ALL adds, and UNION leaves one
of what is there. -/
def weight (w : Nat → Nat) : UnionExpr → Nat
  | operand n => w n
  | union all left right =>
    if all then left.weight w + right.weight w else min 1 (left.weight w + right.weight w)

/-- How often a row occurs is the weight by its occurrences in the operands. -/
theorem count_rows (of : Nat → List ρ) (row : ρ) (e : UnionExpr) :
    (e.rows of).count row = e.weight fun n => (of n).count row := by
  induction e with
  | operand n => rfl
  | union all left right hl hr =>
    rw [rows, weight, ← hl, ← hr, ← List.count_append, combine]
    cases all with
    | true => rfl
    | false =>
      rw [if_neg Bool.false_ne_true, if_neg Bool.false_ne_true, List.count_dedup]
      by_cases hmem : row ∈ left.rows of ++ right.rows of
      · have := List.count_pos_iff.mpr hmem
        rw [if_pos hmem]
        omega
      · rw [if_neg hmem, List.count_eq_zero_of_not_mem hmem, Nat.min_zero]

theorem perm_rows_iff [Inhabited ρ] (e e' : UnionExpr) :
    (∀ of : Nat → List ρ, (e.rows of).Perm (e'.rows of)) ↔ ∀ w, e.weight w = e'.weight w := by
  constructor
  · -- one row, as often as the weight says
    intro h w
    have hcount := (h fun n => List.replicate (w n) default).count_eq default
    simpa only [count_rows, List.count_replicate_self] using hcount
  · intro h of
    rw [List.perm_iff_count]
    intro row
    rw [count_rows, count_rows, h]

end rows

/-! ## Chains -/

/-- An expression with further ones joined to it, each by its word, from left to right. -/
def join (e : UnionExpr) (others : List (Bool × UnionExpr)) : UnionExpr :=
  others.foldl (fun left other => .union other.1 left other.2) e

@[simp] theorem join_cons (e : UnionExpr) (other : Bool × UnionExpr)
    (others : List (Bool × UnionExpr)) :
    e.join (other :: others) = (union other.1 e other.2).join others := rfl

theorem join_append (e : UnionExpr) (others more : List (Bool × UnionExpr)) :
    e.join (others ++ more) = (e.join others).join more :=
  List.foldl_append

/-- The weights of expressions in sum. -/
def total (w : Nat → Nat) : List (Bool × UnionExpr) → Nat
  | [] => 0
  | other :: others => other.2.weight w + total w others

section weights
variable (w : Nat → Nat)

@[simp] theorem total_cons (other : Bool × UnionExpr) (others : List (Bool × UnionExpr)) :
    total w (other :: others) = other.2.weight w + total w others := rfl

@[simp] theorem total_append (others more : List (Bool × UnionExpr)) :
    total w (others ++ more) = total w others + total w more := by
  induction others with
  | nil => exact (Nat.zero_add _).symm
  | cons other others ih => rw [List.cons_append, total_cons, ih, total_cons, Nat.add_assoc]

/-- UNION ALL adds up. -/
theorem weight_join_of_all (e : UnionExpr) (others : List (Bool × UnionExpr))
    (h : ∀ other ∈ others, other.1 = true) :
    (e.join others).weight w = e.weight w + total w others := by
  induction others generalizing e with
  | nil => rfl
  | cons other others ih =>
    obtain ⟨hother, hothers⟩ := List.forall_mem_cons.mp h
    rw [join_cons, ih _ hothers, weight, if_pos hother, total_cons, Nat.add_assoc]

/-- Whether there is anything does not depend on the words. -/
theorem min_weight_join (e : UnionExpr) (others : List (Bool × UnionExpr)) :
    min 1 ((e.join others).weight w) = min 1 (e.weight w + total w others) := by
  induction others generalizing e with
  | nil => rfl
  | cons other others ih =>
    rw [join_cons, ih, weight, total_cons]
    split <;> omega

theorem weight_join_le (e : UnionExpr) (others : List (Bool × UnionExpr)) :
    (e.join others).weight w ≤ e.weight w + total w others := by
  induction others generalizing e with
  | nil => exact Nat.le_refl _
  | cons other others ih =>
    have hnext := ih (.union other.1 e other.2)
    rw [weight] at hnext
    rw [join_cons, total_cons]
    split at hnext <;> omega

/-- What stands in front of a UNION weighs one at most. -/
theorem weight_join_le_of_union (e x : UnionExpr) (before after : List (Bool × UnionExpr)) :
    (e.join (before ++ (false, x) :: after)).weight w ≤ 1 + total w after := by
  have h := weight_join_le w (.union false (e.join before) x) after
  rw [weight, if_neg Bool.false_ne_true] at h
  rw [join_append, join_cons]
  dsimp only
  omega

/-- With UNION ALL alone behind it, a UNION leaves one of what is there in front. -/
theorem weight_join_of_last_union (e x : UnionExpr) (before after : List (Bool × UnionExpr))
    (h : ∀ other ∈ after, other.1 = true) :
    (e.join (before ++ (false, x) :: after)).weight w =
      min 1 (e.weight w + total w before + x.weight w) + total w after := by
  have hbefore := min_weight_join w e before
  rw [join_append, join_cons, weight_join_of_all w _ after h, weight, if_neg Bool.false_ne_true]
  dsimp only
  omega

end weights

end UnionExpr

/-! ## Reading -/

/-- The tokens of a union. -/
inductive UnionToken where
  /-- The clauses of a query up to its order. -/
  | operand (q : Query)
  | word (all : Bool)
  | opening
  | closing
  /-- The text at the end of a query. -/
  | epilog (text : Option Epilog)

namespace UnionToken

def template : UnionToken → Template
  | operand q => .selectList q.distinct q.select ++ .clauses q
  | word all => [.sql (Emit.unionWord all)]
  | opening => [.sql "("]
  | closing => [.sql ")"]
  | epilog text => .epilog text

/-- An expression that waits for its right side, with the word behind it; none at the start. -/
abbrev Pending := Option (UnionExpr × Bool)

/-- The expression, behind the one that waits for it. -/
def complete : Pending → UnionExpr → UnionExpr
  | none, e => e
  | some (left, all), e => .union all left e

/-- How far a union has been read; `outer` waits outside the parentheses, the innermost first, and
`next` is the number of the next operand. -/
inductive Reading where
  | wanting (pending : Pending) (outer : List Pending) (next : Nat)
  | holding (e : UnionExpr) (outer : List Pending) (next : Nat)

/-- Reads one token, if it can stand there.  A word takes all that was read on its level for its
left side. -/
def step : Reading → UnionToken → Option Reading
  | .wanting pending outer next, operand _ =>
    some (.holding (complete pending (.operand next)) outer (next + 1))
  | .wanting pending outer next, opening => some (.wanting none (pending :: outer) next)
  | .holding e outer next, word all => some (.wanting (some (e, all)) outer next)
  | .holding e (pending :: outer) next, closing => some (.holding (complete pending e) outer next)
  | .holding e outer next, epilog _ => some (.holding e outer next)
  | _, _ => none

/-- Reads tokens one after another. -/
def readOn (r : Reading) (tokens : List UnionToken) : Option Reading := tokens.foldlM step r

/-- The expression that tokens make up. -/
def read (tokens : List UnionToken) : Option UnionExpr :=
  match readOn (.wanting none [] 0) tokens with
  | some (.holding e [] _) => some e
  | _ => none

theorem readOn_cons {r r' : Reading} {token : UnionToken} (h : step r token = some r')
    (tokens : List UnionToken) : readOn r (token :: tokens) = readOn r' tokens := by
  rw [readOn, List.foldlM_cons, h]
  rfl

theorem readOn_append {r r' : Reading} {tokens : List UnionToken}
    (h : readOn r tokens = some r') (more : List UnionToken) :
    readOn r (tokens ++ more) = readOn r' more := by
  rw [readOn] at h
  rw [readOn, List.foldlM_append, h]
  rfl

end UnionToken

end RownumSql
