import RownumSql.Proofs.OutputNames

/-!
# Items and the numbers of their placeholders

An item of SQL is text with placeholders in between, which are numbered while it is written.  Some
scalars get their numbers in a pass before all others, so that the numbers of the items of a row
interleave.  Whatever the passes, each number is taken exactly once (`placeholders_number`), and
with the values put back in place of the placeholders nothing of the numbering is left to see
(`resolve_number`).

    draft ──number──▸ tokens ──resolve──▸ parts
-/

namespace RownumSql

/-! ## Items -/

/-- A part of an item as it stands in the SQL. -/
inductive Token where
  | sql (text : String)
  /-- The placeholder with a number. -/
  | placeholder (n : Nat)
deriving DecidableEq

/-- A part of an item with the values in place of the placeholders. -/
inductive Part where
  | sql (text : String)
  | value (v : Value)
deriving DecidableEq

/-- A part of an item before the placeholders are numbered. -/
inductive Draft where
  | sql (text : String)
  /-- A scalar, and whether it is numbered in the first pass. -/
  | scalar (early : Bool) (v : Value)

namespace Token

def text : Token → String
  | sql text => text
  | placeholder n => ":" ++ Bindings.placeholderName n

def number? : Token → Option Nat
  | sql _ => none
  | placeholder n => some n

/-- The token with the value that is bound to it, if there is one. -/
def resolve (bindings : List Binding) : Token → Part
  | sql text => .sql text
  | placeholder n =>
    match bindings.find? fun b => b.key = .named (Bindings.placeholderName n) with
    | some b => .value b.value
    | none => .sql (text (placeholder n))

def textOf (item : List Token) : String := String.join (item.map text)

end Token

namespace Draft

/-- The part that a draft becomes. -/
def part : Draft → Part
  | sql text => .sql text
  | scalar _ v => .value v

/-- The scalars that are numbered in the first pass, or those that are not. -/
def scalars (early : Bool) : List Draft → List Value
  | [] => []
  | sql _ :: rest => scalars early rest
  | scalar first v :: rest =>
    if first = early then v :: scalars early rest else scalars early rest

@[simp] theorem scalars_append (early : Bool) (x y : List Draft) :
    scalars early (x ++ y) = scalars early x ++ scalars early y := by
  induction x with
  | nil => rfl
  | cons p x ih =>
    cases p with
    | sql text => exact ih
    | scalar first v =>
      by_cases h : first = early
      · simp only [List.cons_append, scalars, if_pos h, ih]
      · simp only [List.cons_append, scalars, if_neg h, ih]

/-! ## Numbering -/

/-- The tokens of an item; the next number of the first pass is `e`, that of the other one `l`. -/
def number (e l : Nat) : List Draft → List Token
  | [] => []
  | sql text :: rest => .sql text :: number e l rest
  | scalar true _ :: rest => .placeholder e :: number (e + 1) l rest
  | scalar false _ :: rest => .placeholder l :: number e (l + 1) rest

theorem number_append (e l : Nat) (x y : List Draft) :
    number e l (x ++ y) = number e l x ++
      number (e + (scalars true x).length) (l + (scalars false x).length) y := by
  induction x generalizing e l with
  | nil => rfl
  | cons p x ih =>
    cases p with
    | sql text => rw [List.cons_append, number, number, ih]; rfl
    | scalar first v =>
      cases first with
      | true =>
        have he : e + (scalars true (scalar true v :: x)).length
            = e + 1 + (scalars true x).length := by
          show e + ((scalars true x).length + 1) = _
          omega
        rw [List.cons_append, number, number, ih, he]
        rfl
      | false =>
        have hl : l + (scalars false (scalar false v :: x)).length
            = l + 1 + (scalars false x).length := by
          show l + ((scalars false x).length + 1) = _
          omega
        rw [List.cons_append, number, number, ih, hl]
        rfl

/-- The tokens of items one after another. -/
def numberItems (e l : Nat) : List (List Draft) → List (List Token)
  | [] => []
  | x :: xs => number e l x ::
    numberItems (e + (scalars true x).length) (l + (scalars false x).length) xs

/-- The tokens of rows of items one after another. -/
def numberRows (e l : Nat) : List (List (List Draft)) → List (List (List Token))
  | [] => []
  | r :: rs => numberItems e l r ::
    numberRows (e + (scalars true r.flatten).length) (l + (scalars false r.flatten).length) rs

theorem flatten_numberItems (e l : Nat) (xs : List (List Draft)) :
    (numberItems e l xs).flatten = number e l xs.flatten := by
  induction xs generalizing e l with
  | nil => rfl
  | cons x xs ih => rw [numberItems, List.flatten_cons, List.flatten_cons, number_append, ih]

theorem flatten_numberRows (e l : Nat) (rs : List (List (List Draft))) :
    (numberRows e l rs).flatten.flatten = number e l rs.flatten.flatten := by
  induction rs generalizing e l with
  | nil => rfl
  | cons r rs ih =>
    rw [numberRows, List.flatten_cons, List.flatten_cons, List.flatten_append, List.flatten_append,
      number_append, ih, flatten_numberItems]

theorem length_numberRows (e l : Nat) (rs : List (List (List Draft))) :
    (numberRows e l rs).length = rs.length := by
  induction rs generalizing e l with
  | nil => rfl
  | cons r rs ih => rw [numberRows, List.length_cons, List.length_cons, ih]

/-- The numbers of both passes, each taken once. -/
theorem placeholders_number (e l : Nat) (x : List Draft) :
    ((number e l x).filterMap Token.number?).Perm
      (List.range' e (scalars true x).length ++ List.range' l (scalars false x).length) := by
  induction x generalizing e l with
  | nil => exact .refl _
  | cons p x ih =>
    cases p with
    | sql text => exact ih e l
    | scalar first v =>
      cases first with
      | true => exact (ih (e + 1) l).cons e
      | false => exact ((ih e (l + 1)).cons l).trans List.perm_middle.symm

end Draft

/-! ## Bindings by number -/

namespace Bindings

/-- Values under placeholders that are numbered from `n` on. -/
def placed (n : Nat) : List Value → List Binding
  | [] => []
  | v :: vs => ⟨.named (placeholderName n), v⟩ :: placed (n + 1) vs

theorem placed_append (n : Nat) (vs ws : List Value) :
    placed n (vs ++ ws) = placed n vs ++ placed (n + vs.length) ws := by
  induction vs generalizing n with
  | nil => rfl
  | cons v vs ih =>
    have hn : n + (v :: vs).length = n + 1 + vs.length := by
      rw [List.length_cons]
      omega
    rw [List.cons_append, placed, placed, ih, hn, List.cons_append]

theorem length_placed (n : Nat) (vs : List Value) : (placed n vs).length = vs.length := by
  induction vs generalizing n with
  | nil => rfl
  | cons v vs ih => rw [placed, List.length_cons, List.length_cons, ih]

theorem keys_placed (n : Nat) (vs : List Value) :
    (placed n vs).map Binding.key
      = (List.range' n vs.length).map fun k => .named (placeholderName k) := by
  induction vs generalizing n with
  | nil => rfl
  | cons v vs ih => rw [placed, List.map_cons, ih, List.length_cons, List.range'_succ]; rfl

theorem placeholderName_injective {m n : Nat} (h : placeholderName m = placeholderName n) :
    m = n := by
  unfold placeholderName at h
  rw [String.append_right_inj] at h
  exact Text.toString_injective h

/-- The value under a number is found there. -/
theorem find?_placed {n k : Nat} {vs : List Value} {v : Value} (h : vs[k]? = some v) :
    (placed n vs).find? (fun b => b.key = .named (placeholderName (n + k)))
      = some ⟨.named (placeholderName (n + k)), v⟩ := by
  induction vs generalizing n k with
  | nil => cases h
  | cons w vs ih =>
    cases k with
    | zero =>
      cases h
      exact List.find?_cons_of_pos (decide_eq_true rfl)
    | succ k =>
      have hne : ¬ BindKey.named (placeholderName n) = .named (placeholderName (n + (k + 1))) := by
        intro heq
        have hn := placeholderName_injective (BindKey.named.inj heq)
        omega
      have hk : n + (k + 1) = n + 1 + k := by omega
      rw [placed, List.find?_cons_of_neg (by rw [decide_eq_true_eq]; exact hne), hk]
      exact ih h

end Bindings

open Bindings (placed)

/-- The second of two lists that follow each other at `n` stands behind the first. -/
theorem prefix_drop_of_append {α : Type} {n : Nat} {xs ys vs : List α}
    (h : xs ++ ys <+: vs.drop n) : xs <+: vs.drop n ∧ ys <+: vs.drop (n + xs.length) := by
  refine ⟨(List.prefix_append xs ys).trans h, ?_⟩
  obtain ⟨more, h⟩ := h
  rw [← List.drop_drop, ← h, List.append_assoc, List.drop_left]
  exact List.prefix_append ys more

theorem getElem?_and_prefix_drop_of_cons {α : Type} {n : Nat} {v : α} {ws vs : List α}
    (h : v :: ws <+: vs.drop n) : vs[n]? = some v ∧ ws <+: vs.drop (n + 1) := by
  have hsplit : [v] ++ ws <+: vs.drop n := h
  refine ⟨?_, (prefix_drop_of_append hsplit).2⟩
  obtain ⟨more, h⟩ := h
  rw [← List.head?_drop, ← h]
  rfl

/-- A placeholder becomes the value under its number. -/
theorem Token.resolve_placed {n : Nat} {vs : List Value} {v : Value} (h : vs[n]? = some v) :
    (placeholder n).resolve (placed 0 vs) = .value v := by
  have hfind := Bindings.find?_placed (n := 0) h
  rw [Nat.zero_add] at hfind
  rw [resolve, hfind]

namespace Draft

/-- With the values in their places the numbers are gone. -/
theorem resolve_number {e l : Nat} {x : List Draft} {vs : List Value}
    (he : scalars true x <+: vs.drop e) (hl : scalars false x <+: vs.drop l) :
    (number e l x).map (Token.resolve (placed 0 vs)) = x.map part := by
  induction x generalizing e l with
  | nil => rfl
  | cons p x ih =>
    cases p with
    | sql text => exact congrArg (Part.sql text :: ·) (ih he hl)
    | scalar first v =>
      cases first with
      | true =>
        obtain ⟨hv, he⟩ := getElem?_and_prefix_drop_of_cons he
        rw [number, List.map_cons, Token.resolve_placed hv, ih he hl]
        rfl
      | false =>
        obtain ⟨hv, hl⟩ := getElem?_and_prefix_drop_of_cons hl
        rw [number, List.map_cons, Token.resolve_placed hv, ih he hl]
        rfl

theorem resolve_numberItems {e l : Nat} {xs : List (List Draft)} {vs : List Value}
    (he : scalars true xs.flatten <+: vs.drop e) (hl : scalars false xs.flatten <+: vs.drop l) :
    (numberItems e l xs).map (·.map (Token.resolve (placed 0 vs))) = xs.map (·.map part) := by
  induction xs generalizing e l with
  | nil => rfl
  | cons x xs ih =>
    rw [List.flatten_cons, scalars_append] at he hl
    obtain ⟨hex, hexs⟩ := prefix_drop_of_append he
    obtain ⟨hlx, hlxs⟩ := prefix_drop_of_append hl
    rw [numberItems, List.map_cons, resolve_number hex hlx, ih hexs hlxs, List.map_cons]

theorem resolve_numberRows {e l : Nat} {rs : List (List (List Draft))} {vs : List Value}
    (he : scalars true rs.flatten.flatten <+: vs.drop e)
    (hl : scalars false rs.flatten.flatten <+: vs.drop l) :
    (numberRows e l rs).map (·.map (·.map (Token.resolve (placed 0 vs))))
      = rs.map (·.map (·.map part)) := by
  induction rs generalizing e l with
  | nil => rfl
  | cons r rs ih =>
    rw [List.flatten_cons, List.flatten_append, scalars_append] at he hl
    obtain ⟨her, hers⟩ := prefix_drop_of_append he
    obtain ⟨hlr, hlrs⟩ := prefix_drop_of_append hl
    rw [numberRows, List.map_cons, resolve_numberItems her hlr, ih hers hlrs, List.map_cons]

end Draft

end RownumSql
