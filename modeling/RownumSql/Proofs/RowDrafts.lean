import RownumSql.Proofs.NumberedItems
import RownumSql.Proofs.Statements

/-!
# Rows of a union as drafts

Several rows are inserted by a union of selections.  A cell that is a scalar is bound in a first
pass and its placeholder stands in the query as text; all other scalars of the rows are bound while
the union is written.  So the template of a row writes the draft of its cells, and the templates of
all rows write their drafts with the numbers of both passes running on (`texts_rows`).
-/

namespace RownumSql

open Bindings (placed)
open Token (textOf)

/-- The bindings with more values under placeholders. -/
def Bindings.placeAll (b : Bindings) (vs : List Value) : Bindings :=
  ⟨b.entries ++ placed b.next vs, b.next + vs.length⟩

theorem Bindings.placeAll_nil (b : Bindings) : b.placeAll [] = b := by
  show (⟨b.entries ++ [], _⟩ : Bindings) = b
  rw [List.append_nil]
  rfl

theorem Bindings.placeAll_placeAll (b : Bindings) (vs ws : List Value) :
    (b.placeAll vs).placeAll ws = b.placeAll (vs ++ ws) := by
  rw [placeAll, placeAll, placeAll, placed_append, List.append_assoc, List.length_append,
    Nat.add_assoc]

/-! ## Drafts of templates -/

/-- A name as it is written under a table that knows it. -/
def Dialect.written (d : Dialect) (t : AliasTable) (name : String) : String :=
  ((d.quote name).run t).1

/-- A part that is yet to be numbered, not before others. -/
def Part.draft : Part → Draft
  | sql text => .sql text
  | value v => .scalar false v

theorem part_draft (x : List Part) : (x.map Part.draft).map Draft.part = x := by
  induction x with
  | nil => rfl
  | cons p x ih =>
    rw [List.map_cons, List.map_cons, ih]
    cases p <;> rfl

theorem scalars_true_draft (x : List Part) : Draft.scalars true (x.map Part.draft) = [] := by
  induction x with
  | nil => rfl
  | cons p x ih =>
    cases p with
    | sql text => exact ih
    | value v => exact ih

theorem scalars_true_flatten {α : Type} (f : α → List Part) (cs : List α) :
    Draft.scalars true (cs.map fun c => (f c).map Part.draft).flatten = [] := by
  induction cs with
  | nil => rfl
  | cons c cs ih =>
    rw [List.map_cons, List.flatten_cons, Draft.scalars_append, scalars_true_draft, ih,
      List.append_nil]

namespace Template
variable (d : Dialect) (t : AliasTable)

/-- The parts of a template, with its values in place. -/
def parts : Template → List Part
  | [] => []
  | .sql text :: s => .sql text :: parts s
  | .identifier name :: s => .sql (d.written t name) :: parts s
  | .scalar v :: s => .value v :: parts s
  | .reference name :: s => .sql (":" ++ name) :: parts s
  | .bound .. :: s => parts s
  | .branch :: s => parts s

/-- The template writes the draft; `e` is the next number of the first pass. -/
structure Writes (e : Nat) (s : Template) (x : List Draft) : Prop where
  marks : s.marks = placeholders (Draft.scalars false x)
  text : ∀ n, Settled d t s → s.text d t n = textOf (Draft.number e n x)

variable {d t} {e : Nat}

theorem entries_of_marks {s : Template} {vs : List Value} (h : s.marks = placeholders vs) (n : Nat)
    (es : List Binding) : s.entries n es = es ++ placed n vs := by
  induction s generalizing vs n es with
  | nil =>
    cases vs with
    | nil => exact (List.append_nil es).symm
    | cons v vs => cases h
  | cons x s ih =>
    cases x with
    | sql text => exact ih h n es
    | identifier name => exact ih h n es
    | reference name => exact ih h n es
    | scalar v =>
      cases vs with
      | nil => cases h
      | cons w vs =>
        obtain ⟨hv, hrest⟩ := List.cons.inj h
        cases hv
        rw [entries, ih hrest, placed]
        exact List.append_assoc es [_] _
    | bound name v => cases vs <;> cases h
    | branch => cases vs <;> cases h

theorem Writes.sql_cons {s : Template} {x : List Draft} (text : String) (h : Writes d t e s x) :
    Writes d t e (.sql text :: s) (.sql text :: x) where
  marks := h.marks
  text n hs := by
    obtain ⟨-, hs⟩ := List.forall_mem_cons.mp hs
    show text ++ s.text d t n = String.join (text :: (Draft.number e n x).map Token.text)
    rw [h.text n hs, String.join_cons]
    rfl

/-- A template that binds scalars and nothing else writes its parts. -/
theorem writes_parts {s : Template} {vs : List Value} (h : s.marks = placeholders vs) :
    Writes d t e s ((s.parts d t).map Part.draft) := by
  induction s generalizing vs with
  | nil => exact ⟨rfl, fun _ _ => rfl⟩
  | cons x s ih =>
    cases x with
    | sql text => exact (ih h).sql_cons text
    | reference name =>
      have hs := (ih h).sql_cons (":" ++ name)
      refine ⟨hs.marks, ?_⟩
      intro n hsettled
      obtain ⟨-, hrest⟩ := List.forall_mem_cons.mp hsettled
      exact hs.text n (List.forall_mem_cons.mpr ⟨rfl, hrest⟩)
    | identifier name =>
      have hs := (ih h).sql_cons (d.written t name)
      refine ⟨hs.marks, ?_⟩
      intro n hsettled
      obtain ⟨hname, hrest⟩ := List.forall_mem_cons.mp hsettled
      show _ = textOf (Draft.number e n (.sql (d.written t name) :: _))
      rw [← hs.text n (List.forall_mem_cons.mpr ⟨rfl, hrest⟩)]
      show _ ++ text d ((Piece.identifier name).aliases d t) _ s = _
      rw [hname]
      rfl
    | scalar v =>
      cases vs with
      | nil => cases h
      | cons w vs =>
        obtain ⟨hv, h⟩ := List.cons.inj h
        have hs := ih h
        refine ⟨congrArg (Piece.scalar v :: ·) hs.marks, ?_⟩
        intro n hsettled
        obtain ⟨-, hrest⟩ := List.forall_mem_cons.mp hsettled
        show (":" ++ Bindings.placeholderName n) ++ Template.text d t (n + 1) s
          = String.join (_ :: _)
        rw [hs.text (n + 1) hrest, String.join_cons]
        rfl
    | bound name v => cases vs <;> cases h
    | branch => cases vs <;> cases h

/-- Templates write their drafts one after another. -/
inductive WriteAll (d : Dialect) (t : AliasTable) :
    Nat → List Template → List (List Draft) → Prop
  | nil (e : Nat) : WriteAll d t e [] []
  | cons {e : Nat} {s : Template} {x : List Draft} {ss : List Template} {xs : List (List Draft)} :
      Writes d t e s x → WriteAll d t (e + (Draft.scalars true x).length) ss xs →
      WriteAll d t e (s :: ss) (x :: xs)

theorem WriteAll.texts_eq {ss : List Template} {xs : List (List Draft)} (h : WriteAll d t e ss xs)
    (hs : ∀ s ∈ ss, Settled d t s) (n : Nat) :
    texts d t n ss = (Draft.numberItems e n xs).map textOf := by
  induction h generalizing n with
  | nil => rfl
  | cons hx _ ih =>
    obtain ⟨hs, hss⟩ := List.forall_mem_cons.mp hs
    rw [texts, Draft.numberItems, List.map_cons, hx.text n hs, hs.aliases, ih hss,
      scalars_of_marks hx.marks]

theorem WriteAll.marks {ss : List Template} {xs : List (List Draft)} (h : WriteAll d t e ss xs) :
    ss.flatMap Template.marks = placeholders (Draft.scalars false xs.flatten) := by
  induction h with
  | nil => rfl
  | cons hx _ ih =>
    rw [List.flatMap_cons, List.flatten_cons, Draft.scalars_append, placeholders_append, hx.marks,
      ih]

end Template

/-! ## Cells -/

namespace Insertion

/-- The cells of a row, as many as there are columns. -/
def cells (columns : List String) (row : List Expr) : List (Option Expr) :=
  (List.range columns.length).map (row[·]?)

theorem cells_cons (column : String) (columns : List String) (row : List Expr) :
    cells (column :: columns) row = row.head? :: cells columns row.tail := by
  rw [cells, List.length_cons, List.range_succ_eq_map, List.map_cons, List.map_map, cells]
  congr 1
  · cases row <;> rfl
  · congr 1
    funext j
    cases row <;> rfl

def cellTemplate : Option Expr → Template
  | none => [.sql "NULL"]
  | some e => e.template

/-- The draft of a cell in a union: a scalar that is the cell itself is numbered before others. -/
def cellDraft (d : Dialect) (t : AliasTable) : Option Expr → List Draft
  | some (.value v) => if v.isNull then [.sql "NULL"] else [.scalar true v]
  | e => ((cellTemplate e).parts d t).map Part.draft

variable (d : Dialect) (t : AliasTable)

theorem part_cellDraft (e : Option Expr) :
    (cellDraft d t e).map Draft.part = (cellTemplate e).parts d t := by
  unfold cellDraft
  split
  · next v =>
    show _ = Template.parts d t (if v.isNull then [.sql "NULL"] else [.scalar v])
    cases v.isNull <;> rfl
  · exact part_draft _

theorem marks_cellTemplate (e : Option Expr) : ∃ vs, (cellTemplate e).marks
    = Template.placeholders vs := by
  cases e with
  | none => exact ⟨[], rfl⟩
  | some e => exact ⟨e.scalars, Template.marks_expr e⟩

/-- The expression stands in for the cell: it writes the draft of the cell, and if its own names
are known, then so are those of the cell. -/
structure CellWrites (e : Nat) (expr : Expr) (c : Option Expr) : Prop where
  writes : Template.Writes d t e expr.template (cellDraft d t c)
  settled : Template.Settled d t expr.template → Template.Settled d t (cellTemplate c)

variable {d t} in
theorem cellWrites_null {c : Option Expr} (n : Nat) (htemplate : cellTemplate c = [.sql "NULL"])
    (hdraft : cellDraft d t c = [.sql "NULL"]) : CellWrites d t n (.raw "NULL") c where
  writes := by
    rw [hdraft]
    have hmarks : Template.marks [.sql "NULL"] = Template.placeholders [] := rfl
    exact Template.writes_parts hmarks
  settled h := by
    rw [htemplate]
    exact h

variable {d t} in
theorem cellWrites_placed {v : Value} (n : Nat)
    (htemplate : cellTemplate (some (.value v)) = [.scalar v])
    (hdraft : cellDraft d t (some (.value v)) = [.scalar true v]) :
    CellWrites d t n (.raw (":" ++ Bindings.placeholderName n)) (some (.value v)) where
  writes := by
    rw [hdraft]
    refine ⟨rfl, ?_⟩
    intro k _
    rw [textOf, Draft.number, Draft.number, List.map_singleton, String.join_cons, String.join_nil]
    rfl
  settled _ := by
    rw [htemplate]
    exact List.forall_mem_singleton.mpr rfl

variable {d t} in
theorem cellWrites_self {e : Expr} (n : Nat)
    (hdraft : cellDraft d t (some e) = (e.template.parts d t).map Part.draft) :
    CellWrites d t n e (some e) where
  writes := by
    rw [hdraft]
    exact Template.writes_parts (Template.marks_expr e)
  settled := id

/-- What stands in the union for a cell; `n` is the number of the next placeholder. -/
def standIn (n : Nat) : Option Expr → Expr
  | none => .raw "NULL"
  | some (.value v) => if v.isNull then .raw "NULL" else .raw (":" ++ Bindings.placeholderName n)
  | some e => e

/-- The scalar that the first pass binds for an expression, if there is one. -/
def scalar? : Expr → Option Value
  | .value v => if v.isNull then none else some v
  | _ => none

/-- The scalars that the first pass binds. -/
def scalars (cells : List Expr) : List Value := cells.filterMap scalar?

theorem scalars_append (xs ys : List Expr) : scalars (xs ++ ys) = scalars xs ++ scalars ys :=
  List.filterMap_append

theorem run_cell (c : Option Expr) (b : Bindings) :
    (cell c).run b = (standIn b.next c, b.placeAll (scalars c.toList)) := by
  have hkept := (Bindings.placeAll_nil b).symm
  cases c with
  | none => exact congrArg (Prod.mk _) hkept
  | some e =>
    cases e with
    | value v =>
      cases v with
      | null => exact congrArg (Prod.mk _) hkept
      | _ => rfl
    | _ => exact congrArg (Prod.mk _) hkept

theorem scalars_cellDraft (c : Option Expr) :
    Draft.scalars true (cellDraft d t c) = scalars c.toList := by
  cases c with
  | none => exact scalars_true_draft _
  | some e =>
    cases e with
    | value v => cases v <;> rfl
    | _ => exact scalars_true_draft _

theorem cellWrites_standIn (n : Nat) (c : Option Expr) : CellWrites d t n (standIn n c) c := by
  cases c with
  | none => exact cellWrites_null n rfl rfl
  | some e =>
    cases e with
    | value v =>
      cases v with
      | null => exact cellWrites_null n rfl rfl
      | _ => exact cellWrites_placed n rfl rfl
    | _ => exact cellWrites_self n rfl

/-! ## Rows of a union -/

def rowDraft (columns : List String) (row : List Expr) : List (List Draft) :=
  (cells columns row).map (cellDraft d t)

/-- The items carry the columns as labels, and their expressions stand in for the cells. -/
structure RowWrites (columns : List String) (e : Nat) (items : List SelectItem)
    (row : List Expr) : Prop where
  labels : items.map SelectItem.label = columns.map some
  writes : Template.WriteAll d t e (items.map (·.expr.template)) (rowDraft d t columns row)
  settled : (∀ item ∈ items, Template.Settled d t item.expr.template) →
    ∀ c ∈ cells columns row, Template.Settled d t (cellTemplate c)

theorem run_rowItems_cons (column : String) (columns : List String) (row : List Expr)
    (b : Bindings) : (rowItems (column :: columns) row).run b =
      (⟨((cell row.head?).run b).1, some column⟩ ::
          ((rowItems columns row.tail).run ((cell row.head?).run b).2).1,
        ((rowItems columns row.tail).run ((cell row.head?).run b).2).2) := rfl

theorem run_rowItems (columns : List String) (row : List Expr) (b : Bindings) : ∃ items,
    (rowItems columns row).run b
      = (items, b.placeAll (Draft.scalars true (rowDraft d t columns row).flatten)) ∧
    RowWrites d t columns b.next items row := by
  induction columns generalizing row b with
  | nil =>
    refine ⟨[], ?_, rfl, .nil b.next, fun _ c hc => absurd hc List.not_mem_nil⟩
    show _ = (_, b.placeAll [])
    rw [Bindings.placeAll_nil]
    rfl
  | cons column columns ih =>
    obtain ⟨hwrites, hsettled⟩ := cellWrites_standIn d t b.next row.head?
    have hcell := run_cell row.head? b
    rw [← scalars_cellDraft d t] at hcell
    obtain ⟨items, hrow, hlabels, hrest, hothers⟩ := ih row.tail
      (b.placeAll (Draft.scalars true (cellDraft d t row.head?)))
    have hdraft : rowDraft d t (column :: columns) row
        = cellDraft d t row.head? :: rowDraft d t columns row.tail := by
      rw [rowDraft, cells_cons, List.map_cons, rowDraft]
    refine ⟨⟨standIn b.next row.head?, some column⟩ :: items, ?_, ?_, ?_, ?_⟩
    · rw [run_rowItems_cons, hcell, hrow, hdraft, List.flatten_cons, Draft.scalars_append,
        Bindings.placeAll_placeAll]
    · rw [List.map_cons, hlabels, List.map_cons]
    · rw [hdraft]
      exact .cons hwrites hrest
    · intro h
      obtain ⟨hfirst, hrest⟩ := List.forall_mem_cons.mp h
      rw [cells_cons]
      exact List.forall_mem_cons.mpr ⟨hsettled hfirst, hothers hrest⟩

def fromDual (items : List SelectItem) : Query := { select := items, tables := [⟨"DUAL", none⟩] }

theorem unionOf_fromDual (first : List SelectItem) (others : List (List SelectItem)) :
    unionOf ((first :: others).map fromDual) = some { fromDual first with
      branches := others.map fun items => ⟨true, fromDual items⟩ } := by
  have hbranches : (others.map fromDual).map (fun q => (⟨true, q⟩ : Branch Query))
      = others.map fun items => ⟨true, fromDual items⟩ := List.map_map
  rw [List.map_cons, unionOf, hbranches]

theorem run_rowSelections_cons {columns : List String} {row : List Expr}
    (h : row.length ≤ columns.length) (index : Nat) (rows : List (List Expr)) (b : Bindings) :
    (rowSelections columns index (row :: rows)).run b =
      (((rowSelections columns (index + 1) rows).run ((rowItems columns row).run b).2).1.map
          (fromDual ((rowItems columns row).run b).1 :: ·),
        ((rowSelections columns (index + 1) rows).run ((rowItems columns row).run b).2).2) := by
  rw [rowSelections, if_neg (Nat.not_lt.mpr h)]
  rfl

/-- Lists of items that stand in for rows one after another. -/
inductive RowsWrite (columns : List String) :
    Nat → List (List SelectItem) → List (List Expr) → Prop
  | nil (e : Nat) : RowsWrite columns e [] []
  | cons {e : Nat} {items : List SelectItem} {row : List Expr}
      {lists : List (List SelectItem)} {rows : List (List Expr)} :
      RowWrites d t columns e items row →
      RowsWrite columns (e + (Draft.scalars true (rowDraft d t columns row).flatten).length)
        lists rows →
      RowsWrite columns e (items :: lists) (row :: rows)

theorem run_rowSelections (columns : List String) (index : Nat) (rows : List (List Expr))
    (b : Bindings) (h : ∀ row ∈ rows, row.length ≤ columns.length) : ∃ lists,
    (rowSelections columns index rows).run b = (.ok (lists.map fromDual),
      b.placeAll (Draft.scalars true (rows.map (rowDraft d t columns)).flatten.flatten)) ∧
    RowsWrite d t columns b.next lists rows := by
  induction rows generalizing index b with
  | nil =>
    refine ⟨[], ?_, .nil b.next⟩
    show _ = (_, b.placeAll [])
    rw [Bindings.placeAll_nil]
    rfl
  | cons row rows ih =>
    obtain ⟨hrow, hrows⟩ := List.forall_mem_cons.mp h
    obtain ⟨items, hitems, hwrites⟩ := run_rowItems d t columns row b
    obtain ⟨lists, hlists, hrest⟩ := ih (index + 1)
      (b.placeAll (Draft.scalars true (rowDraft d t columns row).flatten)) hrows
    refine ⟨items :: lists, ?_, .cons hwrites hrest⟩
    rw [run_rowSelections_cons hrow, hitems, hlists, List.map_cons, List.map_cons,
      List.flatten_cons, List.flatten_append, Draft.scalars_append, Bindings.placeAll_placeAll]
    rfl

/-! ## Texts of rows -/

variable {d t}

theorem marks_item (item : SelectItem) : item.template.marks = item.expr.template.marks := by
  rw [Template.marks_selectItem, Template.marks_expr]

def itemText (d : Dialect) (t : AliasTable) (item : List Token) (column : String) : String :=
  textOf item ++ " AS " ++ d.written t column

theorem texts_items {columns : List String} {e : Nat} {items : List SelectItem}
    {x : List (List Draft)} (hlabels : items.map SelectItem.label = columns.map some)
    (hwrites : Template.WriteAll d t e (items.map (·.expr.template)) x)
    (hs : ∀ s ∈ items.map SelectItem.template, Template.Settled d t s) (n : Nat) :
    Template.texts d t n (items.map SelectItem.template)
      = List.zipWith (itemText d t) (Draft.numberItems e n x) columns := by
  induction items generalizing columns e x n with
  | nil =>
    cases hwrites
    rfl
  | cons item items ih =>
    cases hwrites with
    | @cons _ _ x _ xs hx hxs =>
      cases columns with
      | nil => cases hlabels
      | cons column columns =>
        obtain ⟨hlabel, hlabels⟩ := List.cons.inj hlabels
        obtain ⟨hs, hss⟩ := List.forall_mem_cons.mp hs
        have htemplate :
            item.template = item.expr.template ++ [.sql " AS ", .identifier column] := by
          rw [SelectItem.template, hlabel]
        have hscalars : item.template.scalars = (Draft.scalars false x).length := by
          rw [htemplate, Template.scalars_append, Template.scalars_of_marks hx.marks]
          rfl
        have hcolumn (k : Nat) : Template.text d t k [.sql " AS ", .identifier column]
            = " AS " ++ d.written t column := by
          show " AS " ++ (d.written t column ++ "") = _
          rw [String.append_empty]
        have haliases := hs.aliases
        rw [List.map_cons, Template.texts, haliases, hscalars, Draft.numberItems,
          List.zipWith_cons_cons, ih hlabels hxs hss, htemplate, Template.text_append]
        rw [htemplate] at hs
        obtain ⟨hs, -⟩ := Template.settled_append.mp hs
        rw [hx.text n hs, hs.aliases, hcolumn, itemText, String.append_assoc]

def rowTemplate (items : List SelectItem) : Template :=
  .sql "SELECT " :: (Template.joined ", " (items.map SelectItem.template)
    ++ [.sql " FROM ", .identifier "DUAL"])

def rowText (d : Dialect) (t : AliasTable) (columns : List String) (row : List (List Token)) :
    String :=
  "SELECT " ++ ", ".intercalate (List.zipWith (itemText d t) row columns)
    ++ " FROM " ++ d.written t "DUAL"

variable {columns : List String} {e : Nat}

theorem marks_rowTemplate {items : List SelectItem} {row : List Expr}
    (h : RowWrites d t columns e items row) : (rowTemplate items).marks
      = Template.placeholders (Draft.scalars false (rowDraft d t columns row).flatten) := by
  have hmarks : (items.map SelectItem.template).flatMap Template.marks
      = (items.map (·.expr.template)).flatMap Template.marks := by
    rw [List.flatMap_map, List.flatMap_map]
    congr 1
    funext item
    exact marks_item item
  rw [rowTemplate, Template.marks_sql_cons, Template.marks_append, Template.marks_joined, hmarks,
    h.writes.marks]
  exact List.append_nil _

theorem settled_of_rowTemplate {items : List SelectItem}
    (h : Template.Settled d t (rowTemplate items)) :
    ∀ item ∈ items, Template.Settled d t item.template := by
  obtain ⟨-, h⟩ := List.forall_mem_cons.mp h
  obtain ⟨hjoined, -⟩ := Template.settled_append.mp h
  exact List.forall_mem_map.mp hjoined.of_joined

theorem text_rowTemplate {items : List SelectItem} {row : List Expr}
    (h : RowWrites d t columns e items row) (hs : Template.Settled d t (rowTemplate items))
    (n : Nat) : (rowTemplate items).text d t n
      = rowText d t columns (Draft.numberItems e n (rowDraft d t columns row)) := by
  have hitems := List.forall_mem_map.mpr (settled_of_rowTemplate hs)
  obtain ⟨-, hs⟩ := List.forall_mem_cons.mp hs
  obtain ⟨hjoined, -⟩ := Template.settled_append.mp hs
  have hdual (k : Nat) : Template.text d t k [.sql " FROM ", .identifier "DUAL"]
      = " FROM " ++ d.written t "DUAL" := by
    show " FROM " ++ (d.written t "DUAL" ++ "") = _
    rw [String.append_empty]
  show "SELECT " ++ Template.text d t n (_ ++ _) = _
  rw [Template.text_append, Template.text_joined, texts_items h.labels h.writes hitems,
    hjoined.aliases, hdual, rowText, String.append_assoc, String.append_assoc]

section rows
variable {lists : List (List SelectItem)} {rows : List (List Expr)}
  (h : RowsWrite d t columns e lists rows)
include h

theorem texts_rows (hs : ∀ s ∈ lists.map rowTemplate, Template.Settled d t s) (n : Nat) :
    Template.texts d t n (lists.map rowTemplate)
      = (Draft.numberRows e n (rows.map (rowDraft d t columns))).map (rowText d t columns) := by
  induction h generalizing n with
  | nil => rfl
  | @cons e items row lists rows hrow _ ih =>
    obtain ⟨hs, hss⟩ := List.forall_mem_cons.mp hs
    have hscalars := Template.scalars_of_marks (marks_rowTemplate hrow)
    rw [List.map_cons, Template.texts, text_rowTemplate hrow hs, hs.aliases, hscalars, ih hss,
      List.map_cons, Draft.numberRows, List.map_cons]

theorem marks_rows : (lists.map rowTemplate).flatMap Template.marks
    = Template.placeholders
        (Draft.scalars false (rows.map (rowDraft d t columns)).flatten.flatten) := by
  induction h with
  | nil => rfl
  | cons hrow _ ih =>
    rw [List.map_cons, List.flatMap_cons, marks_rowTemplate hrow, ih, List.map_cons,
      List.flatten_cons, List.flatten_append, Draft.scalars_append, Template.placeholders_append]

theorem settled_rows (hs : ∀ s ∈ lists.map rowTemplate, Template.Settled d t s) :
    ∀ row ∈ rows, ∀ c ∈ cells columns row, Template.Settled d t (cellTemplate c) := by
  induction h with
  | nil =>
    intro row hrow
    cases hrow
  | @cons e items row lists rows hrow _ ih =>
    obtain ⟨hs, hss⟩ := List.forall_mem_cons.mp hs
    refine List.forall_mem_cons.mpr ⟨hrow.settled ?_, ih hss⟩
    intro item hitem
    exact (Template.settled_append.mp (settled_of_rowTemplate hs item hitem)).1

theorem length_lists : lists.length = rows.length := by
  induction h with
  | nil => rfl
  | cons _ _ ih => rw [List.length_cons, List.length_cons, ih]

theorem items_ne_nil (hcolumns : columns ≠ []) : ∀ items ∈ lists, items ≠ [] := by
  induction h with
  | nil =>
    intro items hitems
    cases hitems
  | @cons e items row lists rows hrow _ ih =>
    refine List.forall_mem_cons.mpr ⟨?_, ih⟩
    rintro rfl
    exact hcolumns (List.map_eq_nil_iff.mp hrow.labels.symm)

end rows

/-! ## The union -/

theorem joined_cons (separator : String) (s : Template) (ss : List Template) :
    Template.joined separator (s :: ss) = s ++ ss.flatMap fun u => .sql separator :: u := by
  induction ss generalizing s with
  | nil => exact (List.append_nil s).symm
  | cons u ss ih => rw [Template.joined, ih, List.flatMap_cons, List.cons_append]

/-- The selection of a row has the template of the row, and its branches stand behind it. -/
theorem select_fromDual (names : PageNames) (n : Nat) {items : List SelectItem}
    (h : items ≠ []) (branches : List (Branch Query)) :
    Outline.select names n { fromDual items with branches }
      = ⟨rowTemplate items, none⟩ ++ Outline.selectBranches n branches ++ ⟨[], none⟩ := by
  have hopening : Template.opening names 0 0 = [] := by simp [Template.opening]
  have hclosing : Template.closing names 0 0 = [] := by simp [Template.closing]
  have hlist : Template.selectList false items
      = .sql "SELECT " :: Template.joined ", " (items.map SelectItem.template) := by
    rw [Template.selectList, List.isEmpty_eq_false_iff.mpr h]
    rfl
  rw [Outline.select_eq]
  show (⟨Template.opening names 0 0 ++ (Template.selectList false items
    ++ [.sql " FROM ", .identifier "DUAL"]), none⟩ : Outline) ++ _
      ++ ⟨[] ++ Template.closing names 0 0, none⟩ = _
  rw [hopening, hclosing, hlist]
  rfl

theorem selectBranches_fromDual (n : Nat) {lists : List (List SelectItem)}
    (h : ∀ items ∈ lists, items ≠ []) :
    Outline.selectBranches n (lists.map fun items => ⟨true, fromDual items⟩)
      = ⟨lists.flatMap fun items => .sql " UNION ALL " :: rowTemplate items, none⟩ := by
  induction lists generalizing n with
  | nil => rfl
  | cons items lists ih =>
    obtain ⟨hitems, hlists⟩ := List.forall_mem_cons.mp h
    have hpaged : (fromDual items).isPaged = false := by
      show (decide ((0 : UInt64) < 0) || decide ((0 : UInt64) < 0)) = false
      decide
    rw [List.map_cons, Outline.selectBranches, Outline.branch, hpaged, if_neg Bool.false_ne_true,
      ih _ hlists]
    show _ ++ Outline.select _ _ { fromDual items with branches := [] } ++ _ = _
    rw [select_fromDual _ _ hitems]
    show (⟨_ :: ((rowTemplate items ++ []) ++ []) ++ _, none⟩ : Outline) = _
    rw [List.append_nil, List.append_nil, List.flatMap_cons]
    rfl

/-- The union of rows is their templates with its words in between. -/
theorem select_union {first : List SelectItem} {others : List (List SelectItem)}
    (h : ∀ items ∈ first :: others, items ≠ []) :
    Outline.select .outer 0
        { fromDual first with branches := others.map fun items => ⟨true, fromDual items⟩ }
      = ⟨Template.joined " UNION ALL " ((first :: others).map rowTemplate), none⟩ := by
  obtain ⟨hfirst, hothers⟩ := List.forall_mem_cons.mp h
  rw [select_fromDual _ _ hfirst, selectBranches_fromDual 0 hothers, List.map_cons, joined_cons,
    List.flatMap_map]
  show (⟨rowTemplate first ++ _ ++ [], none⟩ : Outline) = _
  rw [List.append_nil]

end Insertion

end RownumSql
