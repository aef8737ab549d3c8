import RownumSql.Proofs.RowUnions
import RownumSql.Proofs.Selections

/-!
# Rejected insertions

An insertion without a source query is written from its rows.  What is wrong with it is found in
different places: the clause and the table before anything is written, the shape of a single row
when its values are written, that of several rows when they are united.  The union itself can always
be written, for its branches skip no rows.

    no clause, no table or no rows     an invalid query
    a row too long                     the first such row is reported
    otherwise                          the insertion is compiled          (compile_insert_fails_iff)
-/

namespace RownumSql

/-! ## The union of rows -/

theorem Query.canJoin_fromDual (items : List SelectItem) :
    (Insertion.fromDual items).canJoin = true := by
  rw [canJoin, Bool.or_eq_true]
  exact .inl (decide_eq_true rfl)

namespace Outline
open Insertion (fromDual)

theorem all_canJoin_fromDual (lists : List (List SelectItem)) :
    (Query.selectionsOf (lists.map fun items => ⟨true, fromDual items⟩)).all Query.canJoin
      = true := by
  induction lists with
  | nil => rfl
  | cons items lists ih =>
    rw [List.map_cons, Query.selectionsOf, List.all_append, ih, Bool.and_true,
      Query.selections_eq, List.all_cons, Query.canJoin_fromDual]
    rfl

theorem error_select_union (names : PageNames) (n : Nat) (first : List SelectItem)
    (others : List (List SelectItem)) :
    (select names n { fromDual first with
      branches := others.map fun items => ⟨true, fromDual items⟩ }).error = none := by
  rw [error_select, if_pos (all_canJoin_fromDual others)]

end Outline

/-! ## What is inserted -/

namespace Emit
open Insertion (FirstTooLong fromDual)

section inserted
variable (d : Dialect) {i : Insertion Query} (hsource : i.source = none) (t : AliasTable)
include hsource

theorem run_inserted_of_one (hrows : i.rows.length ≤ 1) :
    (inserted d i).run { aliases := t } = (rowValues d i.columns i.rows).run { aliases := t } := by
  rw [run_inserted, Insertion.run_selection, Insertion.rowUnion_eq_none (.inl hrows), hsource]
  rfl

theorem inserted_of_no_rows (hrows : i.rows = []) :
    ((inserted d i).run { aliases := t }).1 = .error .insertWithoutRows := by
  have hlength : i.rows.length ≤ 1 := hrows ▸ Nat.zero_le 1
  rw [run_inserted_of_one d hsource t hlength, hrows]
  rfl

theorem inserted_of_firstTooLong {index : Nat} {row : List Expr}
    (h : FirstTooLong i.columns i.rows index row) :
    ((inserted d i).run { aliases := t }).1
      = .error (.shapeMismatch index i.columns.length row.length) := by
  by_cases hrows : i.rows.length ≤ 1
  · -- the only row is the one that is too long
    obtain ⟨hrow, hlong, -⟩ := h
    have hindex := (List.getElem?_eq_some_iff.mp hrow).1
    obtain ⟨only, honly⟩ := List.length_eq_one_iff.mp (show i.rows.length = 1 by omega)
    obtain rfl : index = 0 := by omega
    rw [honly] at hrow
    cases hrow
    rw [run_inserted_of_one d hsource t hrows, honly, rowValues, if_pos hlong]
    rfl
  · rw [run_inserted, Insertion.run_selection,
      Insertion.run_rowUnion (Nat.not_le.mp hrows) hsource, Insertion.error_of_firstTooLong h,
      Nat.zero_add]
    rfl

theorem inserted_of_fits (hrows : i.rows ≠ [])
    (hfits : ∀ row ∈ i.rows, row.length ≤ i.columns.length) :
    ∃ sql, ((inserted d i).run { aliases := t }).1 = .ok sql := by
  by_cases hlength : i.rows.length ≤ 1
  · have hpos := List.length_pos_iff.mpr hrows
    obtain ⟨only, honly⟩ := List.length_eq_one_iff.mp (show i.rows.length = 1 by omega)
    have hfits := hfits only (honly ▸ List.mem_singleton_self only)
    rw [run_inserted_of_one d hsource t hlength, honly, rowValues, if_neg (Nat.not_lt.mpr hfits)]
    exact ⟨_, rfl⟩
  · have hmany := Nat.not_le.mp hlength
    obtain ⟨lists, hrun, hlists, -⟩ :=
      Insertion.run_rowSelections_of_fits i.columns 0 i.rows {} hfits
    cases lists with
    | nil =>
      rw [← hlists] at hmany
      cases hmany
    | cons first others =>
      rw [run_inserted, Insertion.run_selection, Insertion.run_rowUnion hmany hsource, hrun,
        Except.map, Insertion.unionOf_fromDual]
      show ∃ sql, ((sqlOf d .outer { fromDual first with branches := _ }).run _).1 = .ok sql
      rw [run_sqlOf, Outline.run_write, Outline.error_select_union]
      exact ⟨_, rfl⟩

end inserted

end Emit

/-! ## Compiled insertions -/

section compile
variable (d : Dialect) (t : AliasTable) {q : Query} (hk : q.kind = .insert)
include hk

/-- An insertion into a table has a result exactly if what is inserted has one. -/
theorem Dialect.result_compile_insert {i : Insertion Query} (hq : q.insertion = some i)
    (htable : i.table ≠ "") : ∃ t' f,
      (d.compile t q).result = ((Emit.inserted d i).run { aliases := t' }).1.map f := by
  obtain ⟨head, t', hrun⟩ := Emit.run_insertion d htable t
  have hmap (f : String → CompiledQuery) (r : Except SqlError String) :
      (r.map (head ++ ·)).map f = r.map fun text => f (head ++ text) := by cases r <;> rfl
  have hcompile := d.result_compile t q
  rw [Emit.statement_insert hk, hq, hrun, hmap] at hcompile
  exact ⟨t', _, hcompile⟩

theorem Dialect.compile_of_no_clause (hq : q.insertion = none) :
    (d.compile t q).result = .error .insertWithoutValues := by
  rw [result_compile, Emit.statement_insert hk, hq]
  rfl

theorem Dialect.compile_of_no_table {i : Insertion Query} (hq : q.insertion = some i)
    (htable : i.table = "") : (d.compile t q).result = .error .insertWithoutTable := by
  rw [result_compile, Emit.statement_insert hk, hq, Emit.insertion, if_pos htable]
  rfl

variable {i : Insertion Query} (hq : q.insertion = some i) (hsource : i.source = none)
  (htable : i.table ≠ "")
include hq hsource htable

theorem Dialect.compile_of_no_rows (hrows : i.rows = []) :
    (d.compile t q).result = .error .insertWithoutRows := by
  obtain ⟨t', f, hcompile⟩ := d.result_compile_insert t hk hq htable
  rw [hcompile, Emit.inserted_of_no_rows d hsource t' hrows]
  rfl

theorem Dialect.compile_of_firstTooLong {index : Nat} {row : List Expr}
    (h : Insertion.FirstTooLong i.columns i.rows index row) :
    (d.compile t q).result = .error (.shapeMismatch index i.columns.length row.length) := by
  obtain ⟨t', f, hcompile⟩ := d.result_compile_insert t hk hq htable
  rw [hcompile, Emit.inserted_of_firstTooLong d hsource t' h]
  rfl

theorem Dialect.compile_of_fits (hrows : i.rows ≠ [])
    (hfits : ∀ row ∈ i.rows, row.length ≤ i.columns.length) :
    ∃ c, (d.compile t q).result = .ok c := by
  obtain ⟨t', f, hcompile⟩ := d.result_compile_insert t hk hq htable
  obtain ⟨sql, hsql⟩ := Emit.inserted_of_fits d hsource t' hrows hfits
  rw [hcompile, hsql]
  exact ⟨f sql, rfl⟩

end compile

/-- **An insertion of rows is rejected exactly if it is malformed.**  It is compiled if there is a
clause with a table and rows that are no longer than the column list.  Without a clause, a table or
rows it is an invalid query, and otherwise the first row that is too long is reported, whether there
is one row or there are many. -/
theorem compile_insert_fails_iff (d : Dialect) (t : AliasTable) (q : Query)
    (hk : q.kind = .insert) (hsource : ∀ i, q.insertion = some i → i.source = none) :
    ((∃ c, (d.compile t q).result = .ok c) ↔ ∃ i, q.insertion = some i ∧ i.table ≠ "" ∧
      i.rows ≠ [] ∧ ∀ row ∈ i.rows, row.length ≤ i.columns.length) ∧
    ((∀ i, q.insertion = some i → i.table = "" ∨ i.rows = []) →
      ∃ reason, (d.compile t q).result = .error (.invalidQuery reason)) ∧
    ∀ i, q.insertion = some i → i.table ≠ "" →
      (∃ row ∈ i.rows, i.columns.length < row.length) →
      ∃ index row, Insertion.FirstTooLong i.columns i.rows index row ∧
        (d.compile t q).result = .error (.shapeMismatch index i.columns.length row.length) := by
  have hinvalid (h : ∀ i, q.insertion = some i → i.table = "" ∨ i.rows = []) :
      ∃ reason, (d.compile t q).result = .error (.invalidQuery reason) := by
    cases hq : q.insertion with
    | none => exact ⟨_, d.compile_of_no_clause t hk hq⟩
    | some i =>
      by_cases htable : i.table = ""
      · exact ⟨_, d.compile_of_no_table t hk hq htable⟩
      · have hrows := (h i hq).resolve_left htable
        exact ⟨_, d.compile_of_no_rows t hk hq (hsource i hq) htable hrows⟩
  have hlong : ∀ i, q.insertion = some i → i.table ≠ "" →
      (∃ row ∈ i.rows, i.columns.length < row.length) →
      ∃ index row, Insertion.FirstTooLong i.columns i.rows index row ∧
        (d.compile t q).result = .error (.shapeMismatch index i.columns.length row.length) := by
    intro i hq htable h
    obtain ⟨index, row, hfirst⟩ := Insertion.exists_firstTooLong h
    exact ⟨index, row, hfirst, d.compile_of_firstTooLong t hk hq (hsource i hq) htable hfirst⟩
  refine ⟨⟨?_, ?_⟩, hinvalid, hlong⟩
  · rintro ⟨c, hc⟩
    have hvalid : ¬ ∀ i, q.insertion = some i → i.table = "" ∨ i.rows = [] := by
      intro h
      obtain ⟨reason, he⟩ := hinvalid h
      rw [he] at hc
      cases hc
    simp only [not_forall, not_or] at hvalid
    obtain ⟨i, hq, htable, hrows⟩ := hvalid
    refine ⟨i, hq, htable, hrows, ?_⟩
    intro row hrow
    by_contra hfits
    obtain ⟨index, first, -, he⟩ := hlong i hq htable ⟨row, hrow, Nat.not_le.mp hfits⟩
    rw [he] at hc
    cases hc
  · rintro ⟨i, hq, htable, hrows, hfits⟩
    exact d.compile_of_fits t hk hq (hsource i hq) htable hrows hfits

def insertingRows (table : String) (rows : List (List Expr)) : Query :=
  { kind := .insert, insertion := some { table, columns := ["a", "b"], rows } }

/-- A row that is too long, alone and with others, and rows that are not. -/
theorem compile_insert_fails_iff_rows :
    let row : List Expr := [.value (.int 1), .raw "SYSDATE", .value .null]
    (∃ c, (({} : Dialect).compile {} (insertingRows "t" [row.take 1, row.take 2])).result = .ok c) ∧
    (∃ reason, (({} : Dialect).compile {} (insertingRows "" [row])).result
      = .error (.invalidQuery reason)) ∧
    (∃ index first, Insertion.FirstTooLong ["a", "b"] [row] index first ∧
      (({} : Dialect).compile {} (insertingRows "t" [row])).result
        = .error (.shapeMismatch index 2 first.length)) ∧
    ∃ index first, Insertion.FirstTooLong ["a", "b"] [row.take 1, row] index first ∧
      (({} : Dialect).compile {} (insertingRows "t" [row.take 1, row])).result
        = .error (.shapeMismatch index 2 first.length) := by
  intro row
  have hsource (table : String) (rows : List (List Expr)) :
      ∀ i, (insertingRows table rows).insertion = some i → i.source = none := by
    rintro i ⟨⟩
    rfl
  have hfails (table : String) (rows : List (List Expr)) :=
    compile_insert_fails_iff {} {} (insertingRows table rows) rfl (hsource table rows)
  obtain ⟨hfits, -, -⟩ := hfails "t" [row.take 1, row.take 2]
  obtain ⟨-, hinvalid, -⟩ := hfails "" [row]
  obtain ⟨-, -, hone⟩ := hfails "t" [row]
  obtain ⟨-, -, hmany⟩ := hfails "t" [row.take 1, row]
  refine ⟨hfits.mpr ⟨_, rfl, by decide, by decide, by decide⟩, hinvalid ?_,
    hone _ rfl (by decide) (by decide), hmany _ rfl (by decide) (by decide)⟩
  rintro i ⟨⟩
  exact .inl rfl

end RownumSql
