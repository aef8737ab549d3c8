import Mathlib.Data.List.Forall2
import RownumSql.Proofs.AliasHistory
import RownumSql.Proofs.PageWrapper

/-!
# Names of the columns of a selection

A column of the rows is named by the label of its item, or by the column that the item is.  In the
SQL that name stands at the end of the item, as it is in the table that compiling leaves behind, and
that table knows it.
-/

namespace RownumSql

open AliasTable (isWord isWordChar)

/-! ## Words as identifiers -/

namespace Dialect
variable (d : Dialect)

/-- A part of an identifier as it stands in the SQL. -/
def spelled (short : String) : String := if d.quotes then Text.quoted '"' short else short

theorem isPlain_of_isWord {name : String} (h : isWord name) : isPlain name := by
  rw [isWord, Bool.and_eq_true, List.all_eq_true] at h
  rw [isPlain, Bool.and_eq_true, List.all_eq_true]
  refine ⟨h.1, ?_⟩
  intro c hc
  simp [isPlainChar, h.2 c hc]

theorem parts_of_isWord {name : String} (h : isWord name) : parts name = [name] := by
  rw [isWord, Bool.and_eq_true, List.all_eq_true] at h
  have hsplit : name.toList.splitOn '.' = [name.toList] := by
    apply List.splitOnP_eq_singleton
    intro c hc
    by_contra hdot
    rw [Bool.not_eq_false, beq_iff_eq] at hdot
    have hword := h.2 c hc
    rw [hdot] at hword
    revert hword
    decide
  rw [parts, hsplit, List.map_singleton, String.ofList_toList]

theorem ne_star_of_isWord {name : String} (h : isWord name) : name ≠ "*" := by
  rintro rfl
  revert h
  decide

/-- A word is one part, which is shortened. -/
theorem run_quote_of_isWord {name : String} (h : isWord name) (t : AliasTable) :
    (d.quote name).run t = (d.spelled (t.nameOf name), ((AliasTable.shorten name).run t).2) := by
  have hstar := ne_star_of_isWord h
  rw [quote, isPlain_of_isWord h, Bool.not_true, if_neg Bool.false_ne_true, parts_of_isWord h]
  simp only [quoteParts, quotePart, if_neg hstar]
  show (".".intercalate [d.spelled (t.nameOf name)], _) = _
  simp
  rfl

end Dialect

/-- The name of an item without a label is the last part of a column, and a word. -/
theorem Emit.itemName?_column {column name : String}
    (h : itemName? ⟨.column column, none⟩ = some name) :
    (Dialect.parts column).getLast? = some name ∧ isWord name := by
  have hne : Dialect.parts column ≠ [] := by
    rw [Dialect.parts, Ne, List.map_eq_nil_iff]
    exact List.splitOn_ne_nil '.' column.toList
  have hlast : (Dialect.parts column).getLast? = some ((Dialect.parts column).getLastD "") := by
    rw [List.getLastD_eq_getLast?, List.getLast?_eq_some_getLast hne]
    rfl
  simp only [itemName?] at h
  split at h
  · next hletters =>
    cases h
    refine ⟨hlast, ?_⟩
    rw [Bool.and_eq_true, List.all_eq_true] at hletters
    rw [isWord, Bool.and_eq_true, List.all_eq_true]
    refine ⟨hletters.1, ?_⟩
    intro c hc
    rw [isWordChar, hletters.2 c hc, Bool.true_or]
  · cases h

/-! ## Templates under the table at their end -/

namespace Template
variable (d : Dialect)

/-- No piece of the template adds to the table. -/
def Settled (t : AliasTable) (s : Template) : Prop := ∀ x ∈ s, x.aliases d t = t

theorem settled_aliases (t : AliasTable) (s : Template) : Settled d (s.aliases d t) s := by
  intro x hx
  obtain ⟨before, after, rfl⟩ := List.append_of_mem hx
  rw [aliases_append]
  exact (piece_of_extends d x 0 (extends_aliases d _ after)).2

theorem knows_aliases {name : String} (h : isWord name) {s : Template}
    (hs : .identifier name ∈ s) (t : AliasTable) : (s.aliases d t).Knows name := by
  obtain ⟨before, after, rfl⟩ := List.append_of_mem hs
  let t' := aliases d t before
  have hextends := extends_aliases d ((Piece.identifier name).aliases d t') after
  rw [Piece.aliases, d.run_quote_of_isWord h] at hextends
  have hafter : aliases d t (before ++ .identifier name :: after)
      = aliases d ((AliasTable.shorten name).run t').2 after := by
    rw [aliases_append, aliases, Piece.aliases, d.run_quote_of_isWord h]
  rw [hafter]
  exact (AliasTable.knows_of_extends hextends).1

variable {d} {t : AliasTable}

theorem Settled.aliases {s : Template} (h : Settled d t s) : s.aliases d t = t := by
  induction s with
  | nil => rfl
  | cons x s ih =>
    obtain ⟨hx, hs⟩ := List.forall_mem_cons.mp h
    rw [Template.aliases, hx, ih hs]

theorem settled_append {s u : Template} :
    Settled d t (s ++ u) ↔ Settled d t s ∧ Settled d t u := List.forall_mem_append

theorem mem_joined {separator : String} {ss : List Template} {s : Template} (hs : s ∈ ss)
    {x : Piece} (hx : x ∈ s) : x ∈ joined separator ss := by
  induction ss with
  | nil => cases hs
  | cons u rest ih =>
    cases rest with
    | nil =>
      rw [List.mem_singleton.mp hs] at hx
      exact hx
    | cons v rest =>
      rw [joined]
      rcases List.mem_cons.mp hs with rfl | hs
      · exact List.mem_append_left _ hx
      · exact List.mem_append_right _ (List.mem_cons_of_mem _ (ih hs))

theorem Settled.of_joined {separator : String} {ss : List Template}
    (h : Settled d t (joined separator ss)) : ∀ s ∈ ss, Settled d t s :=
  fun _ hs x hx => h x (mem_joined hs hx)

/-- Under a settled table, the texts of templates are their texts under that table. -/
theorem forall₂_texts {ss : List Template} (h : ∀ s ∈ ss, Settled d t s) (n : Nat) :
    List.Forall₂ (fun text (s : Template) => Settled d t s ∧ ∃ k, text = s.text d t k)
      (texts d t n ss) ss := by
  induction ss generalizing n with
  | nil => exact .nil
  | cons s rest ih =>
    obtain ⟨hs, hrest⟩ := List.forall_mem_cons.mp h
    rw [texts, hs.aliases]
    exact .cons ⟨hs, n, rfl⟩ (ih hrest _)

/-- Under a settled table, templates with a separator are texts with that separator. -/
theorem Settled.text_joined {separator : String} {ss : List Template}
    (h : Settled d t (joined separator ss)) (n : Nat) :
    ∃ texts, (joined separator ss).text d t n = separator.intercalate texts ∧
      List.Forall₂ (fun text (s : Template) => Settled d t s ∧ ∃ k, text = s.text d t k)
        texts ss :=
  ⟨texts d t n ss, Template.text_joined d t n separator ss, forall₂_texts h.of_joined n⟩

end Template

/-! ## Output names -/

/-- The name of the column that an item makes: its label, or else the column that it is.  A path to
a column is not a name. -/
def SelectItem.outputName? (item : SelectItem) : Option String :=
  match item.label, item.expr with
  | some label, _ => some label
  | none, .column name => if '.' ∈ name.toList then none else some name
  | none, _ => none

/-- The name of an item stands at its end. -/
theorem SelectItem.template_of_outputName? {item : SelectItem} {name : String}
    (h : item.outputName? = some name) : ∃ front, item.template = front ++ [.identifier name] := by
  obtain ⟨e, label⟩ := item
  unfold outputName? at h
  unfold template
  cases label with
  | some label =>
    cases h
    exact ⟨e.template ++ [.sql " AS "], by simp⟩
  | none =>
    cases e with
    | column column =>
      dsimp only at h
      split at h
      · cases h
      · cases h
        exact ⟨[], rfl⟩
    | _ => cases h

/-- A selection without unions that names its columns: with distinct words, of which none could be
an alias that begins with the stem, and none is the name of the row number. -/
structure Query.Outputs (q : Query) (names : List String) (stem : String) : Prop where
  kind : q.kind = .select
  single : q.branches = []
  items : q.select.map SelectItem.outputName? = names.map some
  nonempty : names ≠ []
  distinct : names.Nodup
  words : ∀ name ∈ names, isWord name
  noAlias : ∀ name ∈ names, ∀ n : Nat, name ≠ stem ++ toString n
  noRowNumber : ∀ name ∈ names, Text.sameIgnoringCase name rowNumberColumn = false

/-- Texts of items with output names end with the names. -/
theorem Template.names_of_items {d : Dialect} {t : AliasTable} {texts names : List String}
    {items : List SelectItem}
    (htexts : List.Forall₂ (fun text (item : SelectItem) =>
      Settled d t item.template ∧ ∃ k, text = item.template.text d t k) texts items)
    (hitems : List.Forall₂ (fun (item : SelectItem) name => item.outputName? = some name)
      items names)
    (hwords : ∀ name ∈ names, isWord name) :
    List.Forall₂ (fun text name => ∃ front, text = front ++ d.spelled (t.nameOf name))
      texts names := by
  induction htexts generalizing names with
  | nil =>
    cases hitems
    exact .nil
  | cons htext _ ih =>
    cases hitems with
    | cons hitem hitems =>
      obtain ⟨hword, hwords⟩ := List.forall_mem_cons.mp hwords
      refine .cons ?_ (ih hitems hwords)
      obtain ⟨hsettled, k, rfl⟩ := htext
      obtain ⟨front, hfront⟩ := SelectItem.template_of_outputName? hitem
      rw [hfront] at hsettled ⊢
      refine ⟨text d t k front, ?_⟩
      rw [text_append, (settled_append.mp hsettled).1.aliases, text, text, Piece.text,
        d.run_quote_of_isWord hword, String.append_empty]

namespace Query.Outputs
variable {q : Query} {names : List String} {stem : String} (h : q.Outputs names stem)
include h

theorem forall₂_items :
    List.Forall₂ (fun (item : SelectItem) name => item.outputName? = some name) q.select names := by
  have heq : List.Forall₂ (· = ·) (q.select.map SelectItem.outputName?) (names.map some) := by
    rw [List.forall₂_eq_eq_eq]
    exact h.items
  exact List.forall₂_map_left_iff.mp (List.forall₂_map_right_iff.mp heq)

theorem select_ne_nil : q.select.isEmpty = false := by
  cases hs : q.select with
  | cons => rfl
  | nil =>
    have hnames := h.forall₂_items
    rw [hs] at hnames
    cases hnames
    exact absurd rfl h.nonempty

/-- What the selection is made of: the select list, and all that stands behind it. -/
theorem template_select : ∃ rest,
    Outline.select .outer 0 q =
      ⟨Template.opening .outer q.limitValue q.offsetValue ++
        (.sql (if q.distinct then "SELECT DISTINCT " else "SELECT ") ::
          (Template.joined ", " (q.select.map SelectItem.template) ++ rest)), none⟩ := by
  refine ⟨Template.clauses q ++
    (Template.epilog q.epilog ++ Template.closing .outer q.limitValue q.offsetValue), ?_⟩
  rw [Outline.select_eq, h.single]
  show (⟨_ ++ [] ++ _, none⟩ : Outline) = _
  rw [Template.selectList, h.select_ne_nil]
  simp

/-- The table that compiling leaves behind knows every name. -/
theorem knows_compile (d : Dialect) (t : AliasTable) :
    ∀ name ∈ names, (d.compile t q).aliases.Knows name := by
  intro name hname
  have hitem : some name ∈ q.select.map SelectItem.outputName? := by
    rw [h.items]
    exact List.mem_map_of_mem hname
  obtain ⟨item, hitem, hname'⟩ := List.mem_map.mp hitem
  obtain ⟨front, hfront⟩ := SelectItem.template_of_outputName? hname'
  obtain ⟨rest, hselect⟩ := h.template_select
  rw [d.aliases_compile_select t q h.kind, hselect]
  refine Template.knows_aliases d (h.words name hname) ?_ t
  refine List.mem_append_right _ (List.mem_cons_of_mem _ (List.mem_append_left _ ?_))
  refine Template.mem_joined (List.mem_map_of_mem hitem) ?_
  rw [hfront]
  exact List.mem_append_right _ List.mem_cons_self

end Query.Outputs

/-- The SQL lists the items of the query in order, and each ends with a name of the list. -/
def Dialect.Lists (d : Dialect) (t : AliasTable) (q : Query) (names : List String)
    (sql : String) : Prop :=
  ∃ texts rest,
    sql = pageOpen q.limitValue q.offsetValue ++
      ((if q.distinct then "SELECT DISTINCT " else "SELECT ") ++
        (", ".intercalate texts ++ rest)) ∧
    List.Forall₂ (fun text name => ∃ front, text = front ++ d.spelled (t.nameOf name)) texts names

/-- **The columns of a selection stand in its SQL under their names.**  Such a selection compiles,
and its names are those in the table that compiling leaves behind. -/
theorem Dialect.compile_outputs (d : Dialect) (t : AliasTable) {q : Query} {names : List String}
    {stem : String} (h : q.Outputs names stem) :
    ∃ c, (d.compile t q).result = .ok c ∧ c.rowNumberColumn = decide (0 < q.offsetValue) ∧
      d.Lists (d.compile t q).aliases q names c.sql := by
  obtain ⟨rest, hselect⟩ := h.template_select
  have haliases := d.aliases_compile_select t q h.kind
  have hresult := d.result_compile_select t q h.kind
  rw [hselect] at haliases hresult
  dsimp only at haliases hresult
  generalize hs : Template.opening .outer q.limitValue q.offsetValue ++ _ = s at haliases hresult
  -- the text is that under the table at the end, in which nothing is added any more
  have htext : s.text d t 0 = s.text d (d.compile t q).aliases 0 := by
    rw [haliases]
    exact (Template.text_of_extends d s 0 (.refl _)).symm
  have hsettled : Template.Settled d (d.compile t q).aliases s := by
    rw [haliases]
    exact Template.settled_aliases d t s
  generalize (d.compile t q).aliases = t' at htext hsettled ⊢
  subst hs
  obtain ⟨-, hlist⟩ := Template.settled_append.mp hsettled
  obtain ⟨-, hlist⟩ := List.forall_mem_cons.mp hlist
  obtain ⟨hjoined, -⟩ := Template.settled_append.mp hlist
  obtain ⟨texts, htexts, hends⟩ := hjoined.text_joined 0
  let list := Template.joined ", " (q.select.map SelectItem.template)
  refine ⟨_, hresult, rfl, texts, rest.text d t' list.scalars, ?_, ?_⟩
  · have hsql (head : String) : Template.text d t' 0 (.sql head :: (list ++ rest)) =
        head ++ Template.text d t' 0 (list ++ rest) := rfl
    dsimp only
    rw [htext, Template.text_append, Template.text_opening, Template.aliases_opening,
      Template.scalars_opening, hsql, Template.text_append, htexts, hjoined.aliases, Nat.zero_add]
  · refine Template.names_of_items ?_ h.forall₂_items h.words
    exact List.forall₂_map_right_iff.mp hends

end RownumSql
