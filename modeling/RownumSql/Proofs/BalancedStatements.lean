import RownumSql.Proofs.BalancedTexts
import RownumSql.Proofs.QueryTexts

/-!
# Balanced statements

A template is balanced if its text is, however many placeholders come before it.  Parentheses are
written around the arguments of a function, the columns and the values of an insertion, and the
selections inside windows and projections: each is closed at the level at which it was opened, with
balanced text between.  So the SQL of a query is balanced if all its texts are.

    every text of q is balanced → c.sql is balanced                                 (sql_balanced)
-/

namespace RownumSql

open Text (balanced_toString)

/-! ## Templates -/

/-- Whether names are written so that balanced ones stay balanced. -/
def KeepsBalance (write : String → String) : Prop :=
  ∀ name, Text.Balanced name.toList → Text.Balanced (write name).toList

namespace Template

/-- The template is balanced whatever the number of its first placeholder is. -/
def Balanced (write : String → String) (s : Template) : Prop :=
  ∀ n, Text.Balanced (s.spelled write n).toList

variable {write : String → String}

theorem balanced_nil : Balanced write [] := fun _ => by
  show Text.Balanced "".toList
  decide

theorem Balanced.append {s u : Template} (hs : Balanced write s) (hu : Balanced write u) :
    Balanced write (s ++ u) := by
  intro n
  rw [spelled_append, String.toList_append]
  exact (hs n).append (hu _)

theorem balanced_sql {text : String} (h : Text.Balanced text.toList) :
    Balanced write [.sql text] := by
  intro n
  show Text.Balanced (text ++ "").toList
  rw [String.append_empty]
  exact h

theorem balanced_identifier (hwrite : KeepsBalance write) {name : String}
    (h : Text.Balanced name.toList) : Balanced write [.identifier name] := by
  intro n
  show Text.Balanced (write name ++ "").toList
  rw [String.append_empty]
  exact hwrite name h

theorem balanced_scalar (v : Value) : Balanced write [.scalar v] := by
  intro n
  have hplace : Text.Balanced ":c".toList := by decide
  show Text.Balanced (":" ++ ("c" ++ toString n) ++ "").toList
  rw [String.append_empty, ← String.append_assoc, String.toList_append]
  exact hplace.append (balanced_toString n)

theorem balanced_reference {name : String} (h : Text.Balanced name.toList) :
    Balanced write [.reference name] := by
  intro n
  have hcolon : Text.Balanced ":".toList := by decide
  show Text.Balanced (":" ++ name ++ "").toList
  rw [String.append_empty, String.toList_append]
  exact hcolon.append h

/-- A piece without text. -/
theorem balanced_silent {x : Piece} (h : ∀ n, x.spelled write n = "") : Balanced write [x] := by
  intro n
  show Text.Balanced (x.spelled write n ++ "").toList
  rw [h]
  decide

theorem Balanced.cons {x : Piece} {s : Template} (hx : Balanced write [x])
    (hs : Balanced write s) : Balanced write (x :: s) := hx.append hs

/-- A template between two texts that are balanced together. -/
theorem Balanced.enclosed {s : Template} (hs : Balanced write s) {opening closing : String}
    (h : Text.Balanced (opening.toList ++ closing.toList)) :
    Balanced write (.sql opening :: s ++ [.sql closing]) := by
  intro n
  rw [spelled_append]
  show Text.Balanced (opening ++ s.spelled write (n + 0) ++ (closing ++ "")).toList
  rw [String.append_empty, String.toList_append, String.toList_append]
  exact h.insert (hs (n + 0))

end Template

/-! ## Windows -/

/-- The names of the bounds of a window are balanced. -/
structure PageNames.Balanced (names : PageNames) : Prop where
  maxRow : Text.Balanced names.maxRow.toList
  offset : Text.Balanced names.offset.toList

theorem PageNames.balanced_outer : PageNames.outer.Balanced := ⟨by decide, by decide⟩

theorem PageNames.balanced_branch (n : Nat) : (PageNames.branch n).Balanced := by
  have hnumber {text : String} (h : Text.Balanced text.toList) :
      Text.Balanced (text ++ "_" ++ toString n).toList := by
    rw [String.toList_append, String.toList_append]
    exact (h.append (by decide)).append (balanced_toString n)
  exact ⟨hnumber balanced_outer.maxRow, hnumber balanced_outer.offset⟩

theorem PageNames.balanced_windowNames (k : Nat) : (windowNames k).Balanced := by
  cases k with
  | zero => exact balanced_outer
  | succ k => exact balanced_branch (k + 1)

namespace Template
variable {write : String → String} {s : Template}

/-- The words around a selection whose rows are counted. -/
theorem balanced_countWords {hint row : String} (hhint : Text.Balanced hint.toList)
    (hrow : Text.Balanced row.toList) :
    Text.Balanced (("SELECT " ++ hint ++ "a.*" ++ row ++ " FROM (").toList ++ ") a".toList) := by
  have hselect : Text.Balanced "SELECT ".toList := by decide
  have hall : Text.Balanced "a.*".toList := by decide
  have hpair : Text.Balanced (" FROM (".toList ++ ") a".toList) := by decide
  have htexts := (((hselect.append hhint).append hall).append hrow).append hpair
  simpa only [String.toList_append, List.append_assoc] using htexts

theorem Balanced.counting (hs : Balanced write s) (numbered : Bool)
    {cap : Option (String × UInt64)}
    (hcap : ∀ name last, cap = some (name, last) → Text.Balanced name.toList) :
    Balanced write (countOpening numbered cap ++ s ++ countClosing cap) := by
  have hrow : Text.Balanced (if numbered then ", ROWNUM " ++ rowNumberColumn else "").toList := by
    cases numbered <;> decide
  unfold countOpening countClosing
  cases cap with
  | none =>
    have hnone : Text.Balanced "".toList := by decide
    exact hs.enclosed (balanced_countWords hnone hrow)
  | some cap =>
    obtain ⟨name, last⟩ := cap
    have hhint : Text.Balanced ("/*+ FIRST_ROWS(" ++ toString last.toNat ++ ") */ ").toList := by
      have hpair : Text.Balanced ("/*+ FIRST_ROWS(".toList ++ ") */ ".toList) := by decide
      rw [String.toList_append, String.toList_append]
      exact hpair.insert (balanced_toString last.toNat)
    have hcondition : Balanced write [.sql " WHERE ROWNUM <= ", .reference name] := by
      have hwords : Text.Balanced " WHERE ROWNUM <= ".toList := by decide
      exact (balanced_sql hwords).cons (balanced_reference (hcap name last rfl))
    have hcounted := (hs.enclosed (balanced_countWords hhint hrow)).append hcondition
    have hbind : Balanced write [.bound name (.ofUInt64 last)] := balanced_silent fun _ => rfl
    simpa only [List.cons_append, List.nil_append, List.append_assoc] using hbind.cons hcounted

theorem Balanced.skipping (hs : Balanced write s) {name : String} (offset : UInt64)
    (hname : Text.Balanced name.toList) :
    Balanced write (skipOpening name offset ++ s ++ skipClosing name) := by
  have hpair : Text.Balanced ("SELECT * FROM (".toList
      ++ (") WHERE " ++ rowNumberColumn ++ " > ").toList) := by decide
  have hskipped := (hs.enclosed hpair).append (balanced_reference hname)
  have hbind : Balanced write [.bound name (.ofUInt64 offset)] := balanced_silent fun _ => rfl
  simpa only [skipOpening, skipClosing, List.cons_append, List.nil_append, List.append_assoc]
    using hbind.cons hskipped

end Template

/-! ## Selections -/

/-- What is written from balanced texts is balanced. -/
theorem composes_balanced {write : String → String} (hwrite : KeepsBalance write) :
    Composes (fun text => Text.Balanced text.toList) (Template.Balanced write) where
  unmarked htext := .of_not_mem htext.1 htext.2.1
  spaced htext := by
    have hblank : Text.Balanced " ".toList := by decide
    rw [String.toList_append]
    exact hblank.append htext
  nil := Template.balanced_nil
  append := Template.Balanced.append
  sql := Template.balanced_sql
  identifier := Template.balanced_identifier hwrite
  scalar := Template.balanced_scalar
  branch := Template.balanced_silent fun _ => rfl
  enclosed htext hs := by
    refine hs.enclosed ?_
    have hpair : Text.Balanced ("(".toList ++ ")".toList) := by decide
    rw [String.toList_append, List.append_assoc]
    exact htext.append hpair
  counting numbered _ _ hcap hs := by
    refine hs.counting numbered ?_
    intro name last hname
    obtain ⟨k, rfl⟩ := hcap name last hname
    exact (PageNames.balanced_windowNames k).maxRow
  skipping k offset _ hs := hs.skipping offset (PageNames.balanced_windowNames k).offset

/-! ## Rows as selections -/

namespace Insertion

theorem balanced_cell {e : Option Expr}
    (h : ∀ expr ∈ e, ∀ text ∈ expr.texts, Text.Balanced text.toList) (b : Bindings) :
    ∀ text ∈ ((cell e).run b).1.texts, Text.Balanced text.toList := by
  have hnull : ∀ text ∈ (Expr.raw "NULL").texts, Text.Balanced text.toList :=
    List.forall_mem_singleton.mpr (by decide)
  have hplaced : Text.Balanced (":" ++ Bindings.placeholderName b.next).toList := by
    have hword : Text.Balanced ":c".toList := by decide
    rw [Bindings.placeholderName, ← String.append_assoc, String.toList_append]
    exact hword.append (balanced_toString b.next)
  match e with
  | none => exact hnull
  | some (.value v) =>
    cases v with
    | null => exact hnull
    | _ => exact List.forall_mem_singleton.mpr hplaced
  | some (.column name) => exact h _ rfl
  | some (.raw sql) => exact h _ rfl
  | some (.compare left op right) => exact h _ rfl
  | some (.function name args) => exact h _ rfl

theorem balanced_rowItems {columns : List String} {row : List Expr}
    (hcolumns : ∀ column ∈ columns, Text.Balanced column.toList)
    (hrow : ∀ e ∈ row, ∀ text ∈ e.texts, Text.Balanced text.toList) (b : Bindings) :
    ∀ text ∈ ((rowItems columns row).run b).1.flatMap SelectItem.texts,
      Text.Balanced text.toList := by
  induction columns generalizing row b with
  | nil => exact fun _ htext => nomatch htext
  | cons column columns ih =>
    obtain ⟨hcolumn, hcolumns⟩ := List.forall_mem_cons.mp hcolumns
    have hcell := balanced_cell (fun e he => hrow e (List.mem_of_mem_head? he)) b
    have hrest := ih hcolumns (fun e he => hrow e (List.mem_of_mem_tail he))
      ((cell row.head?).run b).2
    have hrun : ((rowItems (column :: columns) row).run b).1 =
        ⟨((cell row.head?).run b).1, some column⟩ ::
          ((rowItems columns row.tail).run ((cell row.head?).run b).2).1 := rfl
    rw [hrun, List.flatMap_cons, List.forall_mem_append, SelectItem.texts, List.forall_mem_append]
    exact ⟨⟨hcell, List.forall_mem_singleton.mpr hcolumn⟩, hrest⟩

theorem texts_fromDual (items : List SelectItem) :
    (fromDual items).texts = items.flatMap SelectItem.texts ++ ["DUAL"] := by
  rw [Query.texts_eq]
  exact List.append_nil _

theorem balanced_rowSelections {columns : List String} {rows : List (List Expr)}
    (hcolumns : ∀ column ∈ columns, Text.Balanced column.toList)
    (hrows : ∀ row ∈ rows, ∀ e ∈ row, ∀ text ∈ e.texts, Text.Balanced text.toList)
    {index : Nat} {b : Bindings} {qs : List Query}
    (h : ((rowSelections columns index rows).run b).1 = .ok qs) :
    ∀ q ∈ qs, ∀ text ∈ q.texts, Text.Balanced text.toList := by
  induction rows generalizing index b qs with
  | nil =>
    cases h
    exact fun _ hq => nomatch hq
  | cons row rows ih =>
    obtain ⟨hrow, hrows⟩ := List.forall_mem_cons.mp hrows
    obtain ⟨others, hrest, rfl⟩ := rowSelections_cons_eq_ok h
    refine List.forall_mem_cons.mpr ⟨?_, ih hrows hrest⟩
    have htexts := texts_fromDual ((rowItems columns row).run b).1
    unfold fromDual at htexts
    rw [htexts, List.forall_mem_append, List.forall_mem_singleton]
    exact ⟨balanced_rowItems hcolumns hrow b, by decide⟩

theorem balanced_rowUnion {i : Insertion Query} {q : Query} {b : Bindings}
    (hcolumns : ∀ column ∈ i.columns, Text.Balanced column.toList)
    (hrows : ∀ row ∈ i.rows, ∀ e ∈ row, ∀ text ∈ e.texts, Text.Balanced text.toList)
    (h : (i.rowUnion.run b).1 = .ok (some q)) : ∀ text ∈ q.texts, Text.Balanced text.toList := by
  obtain ⟨first, others, hselections, rfl⟩ := rowUnion_eq_ok_some h
  obtain ⟨hfirst, hothers⟩ :=
    List.forall_mem_cons.mp (balanced_rowSelections hcolumns hrows hselections)
  rw [Query.texts_eq, List.forall_mem_append, List.forall_mem_append] at hfirst
  rw [Query.texts_eq, List.forall_mem_append, List.forall_mem_append]
  refine ⟨hfirst.1, ?_, hfirst.2.2⟩
  rw [Query.textsOfBranches_eq_flatMap, List.forall_mem_flatMap, List.forall_mem_map]
  exact hothers

/-- What an insertion selects has its texts, and words. -/
theorem balanced_selection {i : Insertion Query} {q : Query}
    (h : ∀ text ∈ Query.textsOfInsertion (some i), Text.Balanced text.toList)
    (hselection : (i.selection.run {}).1 = .ok (some q)) :
    ∀ text ∈ q.texts, Text.Balanced text.toList := by
  rw [Query.textsOfInsertion, List.cons_append, List.forall_mem_cons, List.forall_mem_append,
    List.forall_mem_append] at h
  obtain ⟨-, hcolumns, hrows, hsource⟩ := h
  rcases selection_eq_ok_some hselection with hunion | hq
  · have hcells : ∀ row ∈ i.rows, ∀ e ∈ row, ∀ text ∈ e.texts, Text.Balanced text.toList := by
      simpa only [Expr.textsOfAll_eq_flatMap, List.forall_mem_flatMap] using hrows
    exact balanced_rowUnion hcolumns hcells hunion
  · rw [hq] at hsource
    exact hsource

end Insertion

/-! ## Statements -/

namespace StatementTree
open Template (Balanced)
variable {write : String → String} (hwrite : KeepsBalance write)
include hwrite

theorem balanced_insertHead {table : String} {columns : List String}
    (htable : Text.Balanced table.toList) (hcolumns : ∀ c ∈ columns, Text.Balanced c.toList) :
    Balanced write (insertHead table columns) := by
  have hnames : Balanced write (.sql " (" :: Template.joined ", "
      (columns.map fun name => [.identifier name]) ++ [.sql ") "]) :=
    ((composes_balanced hwrite).names hcolumns).enclosed (by decide)
  have hinto : Text.Balanced "INSERT INTO ".toList := by decide
  have hhead := (Template.balanced_sql hinto).cons
    ((Template.balanced_identifier hwrite htable).cons hnames)
  simpa [insertHead] using hhead

theorem balanced_rowValues (columns : List String) {rows : List (List Expr)}
    (h : ∀ text ∈ rows.flatMap Expr.textsOfAll, Text.Balanced text.toList) :
    Balanced write (rowValues columns rows) := by
  have hrow : ∀ text ∈ Expr.textsOfAll (rows.headD []), Text.Balanced text.toList := by
    cases rows with
    | nil => exact fun _ htext => nomatch htext
    | cons row rest =>
      rw [List.flatMap_cons, List.forall_mem_append] at h
      exact h.1
  refine Balanced.enclosed ((composes_balanced hwrite).joined (by decide) ?_) (by decide)
  rw [List.forall_mem_append]
  refine ⟨(composes_balanced hwrite).exprs hrow, ?_⟩
  intro s hs
  rw [(List.mem_replicate.mp hs).2]
  exact Template.balanced_sql (by decide)

theorem balanced_ofInsertion {i : Insertion Query}
    (h : ∀ text ∈ Query.textsOfInsertion (some i), Text.Balanced text.toList) :
    Balanced write (ofInsertion i).template := by
  have hall := h
  rw [Query.textsOfInsertion, List.cons_append, List.forall_mem_cons, List.forall_mem_append,
    List.forall_mem_append] at hall
  obtain ⟨htable, hcolumns, hrows, -⟩ := hall
  have hhead := balanced_insertHead hwrite htable hcolumns
  rw [Emit.template_ofInsertion]
  refine hhead.append ?_
  unfold Emit.insertedTemplate
  split
  · next q hselection =>
    exact (composes_balanced hwrite).ofQuery (Insertion.balanced_selection h hselection) 0 0
  · exact balanced_rowValues hwrite i.columns hrows
  · exact Template.balanced_nil

theorem balanced_conditions {conditions : List Expr}
    (h : ∀ text ∈ Expr.textsOfAll conditions, Text.Balanced text.toList) :
    Balanced write (.clause " WHERE" " AND " (conditions.map Expr.template)) :=
  (composes_balanced hwrite).clause (by decide) (by decide) ((composes_balanced hwrite).exprs h)

theorem balanced_ofUpdate {u : Update} {conditions : List Expr}
    (h : ∀ text ∈ u.texts, Text.Balanced text.toList)
    (hconditions : ∀ text ∈ Expr.textsOfAll conditions, Text.Balanced text.toList) :
    Balanced write (ofUpdate u conditions).template := by
  rw [Update.texts, List.forall_mem_cons, List.forall_mem_flatMap] at h
  obtain ⟨htable, hassignments⟩ := h
  have hset : Balanced write (Template.joined ", " (u.assignments.map fun a =>
      .identifier a.column :: .sql " = " :: a.value.template)) := by
    refine (composes_balanced hwrite).joined (by decide) ?_
    rw [List.forall_mem_map]
    intro a ha
    obtain ⟨hcolumn, hvalue⟩ := List.forall_mem_cons.mp (hassignments a ha)
    exact (Template.balanced_identifier hwrite hcolumn).cons
      ((Template.balanced_sql (by decide)).cons ((composes_balanced hwrite).expr hvalue))
  have hupdate : Text.Balanced "UPDATE ".toList := by decide
  have hword : Text.Balanced " SET ".toList := by decide
  have hhead := (Template.balanced_sql hupdate).cons
    ((Template.balanced_identifier hwrite htable).cons ((Template.balanced_sql hword).cons hset))
  rw [template, ofUpdate, List.append_nil]
  exact hhead.append (balanced_conditions hwrite hconditions)

theorem balanced_ofDeletion {t : TableRef} {conditions : List Expr}
    (h : ∀ text ∈ t.texts, Text.Balanced text.toList)
    (hconditions : ∀ text ∈ Expr.textsOfAll conditions, Text.Balanced text.toList) :
    Balanced write (ofDeletion t conditions).template := by
  have hdelete : Text.Balanced "DELETE FROM ".toList := by decide
  rw [template, ofDeletion, List.append_nil]
  exact ((Template.balanced_sql hdelete).cons ((composes_balanced hwrite).table h)).append
    (balanced_conditions hwrite hconditions)

/-- The tree of a query of any kind. -/
theorem balanced_tree {q : Query} (h : ∀ text ∈ q.texts, Text.Balanced text.toList) :
    Balanced write q.tree.template := by
  have hall := h
  rw [Query.texts_eq, List.forall_mem_append, List.forall_mem_append] at hall
  obtain ⟨hclauses, -, hinsertion⟩ := hall
  simp only [Query.clauseTexts, List.forall_mem_append] at hclauses
  obtain ⟨-, htables, -, hconditions, -, -, -, -, hupdate⟩ := hclauses
  unfold Query.tree
  split
  · exact (composes_balanced hwrite).ofQuery h 0 0
  · next i _ hi =>
    rw [hi] at hinsertion
    exact balanced_ofInsertion hwrite hinsertion
  · next u _ hu =>
    rw [hu] at hupdate
    exact balanced_ofUpdate hwrite (List.forall_mem_flatMap.mp hupdate u List.mem_cons_self)
      hconditions
  · next t rest _ ht =>
    rw [ht] at htables
    exact balanced_ofDeletion hwrite
      (List.forall_mem_flatMap.mp htables t List.mem_cons_self) hconditions
  · exact Template.balanced_nil

end StatementTree

/-- **Statements are balanced.**  If all names and all SQL in a query are balanced, and the stem of
the aliases, then whatever kind the query is of, however it nests and whatever its windows are, the
SQL that it compiles to is balanced. -/
theorem sql_balanced {d : Dialect} {t : AliasTable} {q : Query} {c : CompiledQuery}
    (hc : (d.compile t q).result = .ok c) (ht : t.Valid) (hstem : Text.Balanced t.stem.toList)
    (hq : ∀ text ∈ q.texts, Text.Balanced text.toList) : Text.Balanced c.sql.toList := by
  have haliases : (d.compile t q).aliases.Balanced :=
    AliasTable.Balanced.of_grows ⟨ht, hstem⟩ (d.grows_compile t q)
  rw [sql_eq_spelled hc (.refl _)]
  exact StatementTree.balanced_tree (fun _ => d.balanced_written haliases) hq q.tree.start

/-- An insertion of the rows of a union, with windows around the union and around its branch, a
function, SQL with parentheses, and a name that gets an alias. -/
def balancedQuery : Query where
  kind := .insert
  insertion := some
    { table := "t", columns := ["a"]
      source := some
        { select := [⟨.function "COALESCE" [.column "a", .raw "NVL(b, 0)"], some "a"⟩]
          tables := [⟨"a_table_with_a_name_beyond_the_limit", none⟩], limit := some 3
          branches := [⟨true,
            { select := [⟨.column "u.a", none⟩], tables := [⟨"u", none⟩], limit := some 2
              offset := some 1, epilog := some (.sql "FOR UPDATE OF (a)") }⟩] } }

/-- What it compiles to with aliases that have parentheses of their own. -/
def balancedCompiled : CompiledQuery where
  sql := "INSERT INTO \"t\" (\"a\") SELECT /*+ FIRST_ROWS(3) */ a.* FROM (SELECT " ++
    "COALESCE(\"a\", NVL(b, 0)) AS \"a\" FROM \"ID()1\" UNION ALL SELECT \"a\" FROM " ++
    "(SELECT * FROM (SELECT /*+ FIRST_ROWS(3) */ a.*, ROWNUM QAIL_RNUM FROM (SELECT " ++
    "\"u\".\"a\" FROM \"u\" FOR UPDATE OF (a)) a WHERE ROWNUM <= " ++
    ":QAIL_MAX_ROW_TO_FETCH_1) WHERE QAIL_RNUM > :QAIL_FETCH_OFFSET_1)) a WHERE ROWNUM <= " ++
    ":QAIL_MAX_ROW_TO_FETCH"
  bindings :=
    [⟨.named "QAIL_MAX_ROW_TO_FETCH", .int 3⟩, ⟨.named "QAIL_FETCH_OFFSET_1", .int 1⟩,
     ⟨.named "QAIL_MAX_ROW_TO_FETCH_1", .int 3⟩]
  kind := .insert
  rowNumberColumn := false
  buffered := false

theorem sql_balanced_insertedPages :
    let t : AliasTable := { stem := "ID()" }
    (({} : Dialect).compile t balancedQuery).result = .ok balancedCompiled ∧ t.Valid ∧
      Text.Balanced t.stem.toList ∧ (∀ text ∈ balancedQuery.texts, Text.Balanced text.toList) ∧
      Text.Balanced balancedCompiled.sql.toList := by
  intro t
  have hcompile : (({} : Dialect).compile t balancedQuery).result = .ok balancedCompiled := by
    decide +kernel
  have hvalid : t.Valid := AliasTable.valid_empty 30 "ID()"
  have hstem : Text.Balanced t.stem.toList := by decide
  have htexts : ∀ text ∈ balancedQuery.texts, Text.Balanced text.toList := by decide +kernel
  exact ⟨hcompile, hvalid, hstem, htexts, sql_balanced hcompile hvalid hstem htexts⟩

end RownumSql
