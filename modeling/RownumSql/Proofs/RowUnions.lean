import RownumSql.Proofs.RowDrafts

/-!
# Rows rewritten as a union

Several rows are rewritten as a union of selections from `DUAL`, one for each row, and the scalars
in them are bound on the way.  The number of a placeholder is that of the bindings there were before
plus that of the scalars before its cell, row by row.

    at most one row, or a source     no union, and nothing is bound
    a row too long                   the first such row is reported
    otherwise                        i.Unites earlier lists entries          (rowUnion_unites_rows)

Whatever happens, the earlier bindings stay in front.
-/

namespace RownumSql

open Bindings (placed placeholderName)

/-! ## Bindings by position -/

namespace Bindings

/-- The bindings after placeholders have been handed out for some values. -/
def handedOut (vs : List Value) : Bindings := ((vs.mapM place).run {}).2

theorem run_mapM_place (vs : List Value) (b : Bindings) :
    ((vs.mapM place).run b).2 = b.placeAll vs := by
  induction vs generalizing b with
  | nil => exact (placeAll_nil b).symm
  | cons v vs ih =>
    have hplace : ((place v).run b).2 = b.placeAll [v] := rfl
    have hrun : (((v :: vs).mapM place).run b).2 = ((vs.mapM place).run ((place v).run b).2).2 := by
      rw [List.mapM_cons]
      rfl
    rw [hrun, ih, hplace, placeAll_placeAll, List.singleton_append]

theorem handedOut_eq (vs : List Value) : handedOut vs = ⟨placed 0 vs, vs.length⟩ := by
  rw [handedOut, run_mapM_place, placeAll, List.nil_append, Nat.zero_add]

theorem getElem?_placed (n : Nat) (vs : List Value) (k : Nat) :
    (placed n vs)[k]? = vs[k]?.map fun v => ⟨.named (placeholderName (n + k)), v⟩ := by
  induction vs generalizing n k with
  | nil => rfl
  | cons v vs ih =>
    cases k with
    | zero => rfl
    | succ k =>
      have hk : n + 1 + k = n + (k + 1) := by omega
      rw [placed, List.getElem?_cons_succ, List.getElem?_cons_succ, ih, hk]

theorem nodup_keys_placed (n : Nat) (vs : List Value) : ((placed n vs).map Binding.key).Nodup := by
  rw [keys_placed]
  refine List.Pairwise.map _ ?_ List.nodup_range'
  intro j k hne h
  exact hne (placeholderName_injective (BindKey.named.inj h))

end Bindings

namespace Insertion
open Bindings (handedOut handedOut_eq)

/-! ## Cells -/

/-- The expression is what a cell becomes: null for a missing or null one, its placeholder for any
other scalar, with the value bound as entry `n`, and itself for all else. -/
inductive StandsFor (entries : List Binding) (n : Nat) : Option Expr → Expr → Prop
  | missing : StandsFor entries n none (.raw "NULL")
  | null : StandsFor entries n (some (.value .null)) (.raw "NULL")
  | scalar {v : Value} : v ≠ .null → entries[n]? = some ⟨.named (placeholderName n), v⟩ →
      StandsFor entries n (some (.value v)) (.raw (":" ++ placeholderName n))
  | expr {e : Expr} : (∀ v, e ≠ .value v) → StandsFor entries n (some e) e

theorem standsFor_standIn {entries : List Binding} {n : Nat} {cell : Option Expr}
    (h : ∀ e ∈ cell, ∀ v ∈ scalar? e, entries[n]? = some ⟨.named (placeholderName n), v⟩) :
    StandsFor entries n cell (standIn n cell) := by
  match cell with
  | none => exact .missing
  | some (.value v) =>
    cases v with
    | null => exact .null
    | _ => exact .scalar (by simp) (h _ rfl _ rfl)
  | some (.column name) => exact .expr (by simp)
  | some (.raw sql) => exact .expr (by simp)
  | some (.compare left op right) => exact .expr (by simp)
  | some (.function name args) => exact .expr (by simp)

theorem scalars_eq_head_tail (row : List Expr) :
    scalars row = scalars row.head?.toList ++ scalars row.tail := by
  cases row with
  | nil => rfl
  | cons e row => exact scalars_append [e] row

/-- The scalar of a cell stands behind those of the cells before it. -/
theorem getElem?_scalars {before after : List Expr} {e : Expr} {v : Value}
    (h : scalar? e = some v) :
    (scalars (before ++ e :: after))[(scalars before).length]? = some v := by
  have htail : scalars (e :: after) = v :: scalars after := List.filterMap_cons_some h
  rw [scalars_append, htail, List.getElem?_append_right (Nat.le_refl _), Nat.sub_self,
    List.getElem?_cons_zero]

/-! ## Rows -/

/-- The items are those of a row: one under each column, with placeholders from `n` on. -/
structure ItemsOf (columns : List String) (n : Nat) (row : List Expr) (items : List SelectItem) :
    Prop where
  labels : items.map SelectItem.label = columns.map some
  exprs : ∀ j item, items[j]? = some item →
    item.expr = standIn (n + (scalars (row.take j)).length) row[j]?

theorem run_rowItems_of_fits (columns : List String) (row : List Expr) (b : Bindings)
    (h : row.length ≤ columns.length) : ∃ items,
    (rowItems columns row).run b = (items, b.placeAll (scalars row)) ∧
    ItemsOf columns b.next row items := by
  induction columns generalizing row b with
  | nil =>
    obtain rfl := List.eq_nil_of_length_eq_zero (Nat.le_zero.mp h)
    refine ⟨[], congrArg (Prod.mk _) (Bindings.placeAll_nil b).symm, rfl, ?_⟩
    intro j item hj
    cases hj
  | cons column columns ih =>
    have htail : row.tail.length ≤ columns.length := by
      rw [List.length_tail]
      exact Nat.sub_le_of_le_add h
    obtain ⟨items, hitems, hlabels, hexprs⟩ :=
      ih row.tail (b.placeAll (scalars row.head?.toList)) htail
    refine ⟨⟨standIn b.next row.head?, some column⟩ :: items, ?_, ?_, ?_⟩
    · rw [run_rowItems_cons, run_cell, hitems, Bindings.placeAll_placeAll, ← scalars_eq_head_tail]
    · rw [List.map_cons, hlabels, List.map_cons]
    · intro j item hj
      cases j with
      | zero =>
        cases hj
        rw [List.head?_eq_getElem?]
        rfl
      | succ j =>
        have hscalars : scalars (row.take (j + 1))
            = scalars row.head?.toList ++ scalars (row.tail.take j) := by
          cases row with
          | nil =>
            rw [List.take_nil, List.tail_nil, List.take_nil]
            rfl
          | cons e row => exact scalars_append [e] (row.take j)
        rw [hexprs j item hj, hscalars, List.length_append, ← Nat.add_assoc, List.getElem?_tail]
        rfl

/-- What the selections of rows leave, wherever they stop. -/
theorem snd_run_rowSelections (columns : List String) (index : Nat) (rows : List (List Expr))
    (b : Bindings) : ∃ vs, ((rowSelections columns index rows).run b).2 = b.placeAll vs := by
  induction rows generalizing index b with
  | nil => exact ⟨[], (Bindings.placeAll_nil b).symm⟩
  | cons row rows ih =>
    by_cases hrow : row.length ≤ columns.length
    · obtain ⟨items, hitems, -⟩ := run_rowItems_of_fits columns row b hrow
      obtain ⟨vs, hvs⟩ := ih (index + 1) (b.placeAll (scalars row))
      refine ⟨scalars row ++ vs, ?_⟩
      rw [run_rowSelections_cons hrow, hitems, hvs, Bindings.placeAll_placeAll]
    · refine ⟨[], ?_⟩
      rw [rowSelections, if_pos (Nat.not_le.mp hrow), Bindings.placeAll_nil]
      rfl

/-- `row` stands at `index` and is the first of the rows that is longer than the column list. -/
structure FirstTooLong (columns : List String) (rows : List (List Expr)) (index : Nat)
    (row : List Expr) : Prop where
  at_index : rows[index]? = some row
  long : columns.length < row.length
  before : ∀ r ∈ rows.take index, r.length ≤ columns.length

theorem exists_firstTooLong {columns : List String} {rows : List (List Expr)}
    (h : ∃ row ∈ rows, columns.length < row.length) :
    ∃ index row, FirstTooLong columns rows index row := by
  induction rows with
  | nil =>
    obtain ⟨row, hrow, -⟩ := h
    cases hrow
  | cons first rows ih =>
    by_cases hfirst : columns.length < first.length
    · exact ⟨0, first, rfl, hfirst, fun r hr => absurd hr List.not_mem_nil⟩
    · obtain ⟨long, hmem, hlong⟩ := h
      obtain rfl | hmem := List.mem_cons.mp hmem
      · exact absurd hlong hfirst
      · obtain ⟨index, row, hrow, hlong, hbefore⟩ := ih ⟨long, hmem, hlong⟩
        exact ⟨index + 1, row, hrow, hlong,
          List.forall_mem_cons.mpr ⟨Nat.not_lt.mp hfirst, hbefore⟩⟩

theorem error_of_firstTooLong {columns : List String} {rows : List (List Expr)} {index : Nat}
    {row : List Expr} (h : FirstTooLong columns rows index row) (start : Nat) (b : Bindings) :
    ((rowSelections columns start rows).run b).1
      = .error (.shapeMismatch (start + index) columns.length row.length) := by
  obtain ⟨hrow, hlong, hbefore⟩ := h
  induction rows generalizing index start b with
  | nil => cases hrow
  | cons first rows ih =>
    cases index with
    | zero =>
      cases hrow
      rw [rowSelections, if_pos hlong]
      rfl
    | succ index =>
      obtain ⟨hfirst, hrest⟩ := List.forall_mem_cons.mp hbefore
      rw [run_rowSelections_cons hfirst, ih (start + 1) _ hrow hrest, Nat.add_right_comm]
      rfl

theorem run_rowSelections_of_fits (columns : List String) (index : Nat) (rows : List (List Expr))
    (b : Bindings) (h : ∀ row ∈ rows, row.length ≤ columns.length) :
    ∃ lists : List (List SelectItem),
    (rowSelections columns index rows).run b
      = (.ok (lists.map fromDual), b.placeAll (scalars rows.flatten)) ∧
    lists.length = rows.length ∧
    ∀ k row items, rows[k]? = some row → lists[k]? = some items →
      ItemsOf columns (b.next + (scalars (rows.take k).flatten).length) row items := by
  induction rows generalizing index b with
  | nil =>
    refine ⟨[], congrArg (Prod.mk _) (Bindings.placeAll_nil b).symm, rfl, ?_⟩
    intro k row items hk
    cases hk
  | cons row rows ih =>
    obtain ⟨hrow, hrows⟩ := List.forall_mem_cons.mp h
    obtain ⟨items, hitems, hof⟩ := run_rowItems_of_fits columns row b hrow
    obtain ⟨lists, hlists, hlength, hrest⟩ := ih (index + 1) (b.placeAll (scalars row)) hrows
    refine ⟨items :: lists, ?_, congrArg (· + 1) hlength, ?_⟩
    · rw [run_rowSelections_cons hrow, hitems, hlists, List.flatten_cons, scalars_append,
        Bindings.placeAll_placeAll]
      rfl
    · intro k row' items' hk hk'
      cases k with
      | zero =>
        cases hk
        cases hk'
        exact hof
      | succ k =>
        have hscalars : scalars ((row :: rows).take (k + 1)).flatten
            = scalars row ++ scalars (rows.take k).flatten := by
          rw [List.take_succ_cons, List.flatten_cons, scalars_append]
        rw [hscalars, List.length_append, ← Nat.add_assoc]
        exact hrest k row' items' hk hk'

/-! ## Unions -/

/-- The lists of items unite the rows: one list for each row, with one item under each column.  The
entries are the earlier ones, then the scalars of the rows in order under the next names, and the
placeholder in a cell refers to the scalar of that very cell. -/
structure Unites (i : Insertion Query) (earlier : List Value) (lists : List (List SelectItem))
    (entries : List Binding) : Prop where
  rows : lists.length = i.rows.length
  labels : ∀ items ∈ lists, items.map SelectItem.label = i.columns.map some
  bound : entries
    = (handedOut earlier).entries ++ placed earlier.length (scalars i.rows.flatten)
  distinct : (entries.map Binding.key).Nodup
  cells : ∀ k row items, i.rows[k]? = some row → lists[k]? = some items →
    ∀ j item, items[j]? = some item →
      StandsFor entries
        (earlier.length + (scalars ((i.rows.take k).flatten ++ row.take j)).length)
        row[j]? item.expr

theorem eq_take_cons_drop {α : Type} {xs : List α} {k : Nat} {x : α} (h : xs[k]? = some x) :
    xs = xs.take k ++ x :: xs.drop (k + 1) := by
  obtain ⟨hk, rfl⟩ := List.getElem?_eq_some_iff.mp h
  rw [List.getElem_cons_drop, List.take_append_drop]

/-- The scalar of a cell stands behind those of the rows above and of the cells before it. -/
theorem getElem?_scalars_flatten {rows : List (List Expr)} {row : List Expr} {k j : Nat} {e : Expr}
    {v : Value} (hrow : rows[k]? = some row) (he : row[j]? = some e) (hv : scalar? e = some v) :
    (scalars rows.flatten)[(scalars ((rows.take k).flatten ++ row.take j)).length]? = some v := by
  have hsplit : rows.flatten = ((rows.take k).flatten ++ row.take j)
      ++ e :: (row.drop (j + 1) ++ (rows.drop (k + 1)).flatten) := by
    conv_lhs => rw [eq_take_cons_drop hrow, List.flatten_append, List.flatten_cons,
      eq_take_cons_drop he]
    simp only [List.append_assoc, List.cons_append]
  rw [hsplit]
  exact getElem?_scalars hv

theorem unites_of_itemsOf {i : Insertion Query} {earlier : List Value}
    {lists : List (List SelectItem)} (hlength : lists.length = i.rows.length)
    (hitems : ∀ k row items, i.rows[k]? = some row → lists[k]? = some items →
      ItemsOf i.columns (earlier.length + (scalars (i.rows.take k).flatten).length) row items) :
    i.Unites earlier lists ((handedOut earlier).placeAll (scalars i.rows.flatten)).entries := by
  have hbound : ((handedOut earlier).placeAll (scalars i.rows.flatten)).entries
      = placed 0 (earlier ++ scalars i.rows.flatten) := by
    rw [Bindings.placed_append, handedOut_eq, Bindings.placeAll, Nat.zero_add]
  constructor
  case rows => exact hlength
  case labels =>
    intro items hmem
    obtain ⟨k, hk⟩ := List.mem_iff_getElem?.mp hmem
    have hlt : k < i.rows.length := hlength ▸ (List.getElem?_eq_some_iff.mp hk).1
    exact (hitems k _ items (List.getElem?_eq_getElem hlt) hk).labels
  case bound => rw [handedOut_eq]; rfl
  case distinct =>
    rw [hbound]
    exact Bindings.nodup_keys_placed 0 _
  case cells =>
    intro k row items hrow hk j item hj
    rw [(hitems k row items hrow hk).exprs j item hj, scalars_append, List.length_append,
      Nat.add_assoc, ← List.length_append, ← scalars_append]
    apply standsFor_standIn
    intro e he v hv
    rw [hbound, Bindings.getElem?_placed, List.getElem?_append_right (Nat.le_add_right _ _),
      Nat.add_sub_cancel_left, getElem?_scalars_flatten hrow he hv, Nat.zero_add]
    rfl

/-- The union of rows, whatever has been bound before: there is none for a single row or with a
source, the first row that is too long is reported, and all else is united. -/
theorem rowUnion_unites_rows (i : Insertion Query) (earlier : List Value) :
    (handedOut earlier).entries <+: (i.rowUnion.run (handedOut earlier)).2.entries ∧
    (i.rows.length ≤ 1 ∨ i.source.isSome = true →
      i.rowUnion.run (handedOut earlier) = (.ok none, handedOut earlier)) ∧
    (1 < i.rows.length → i.source = none →
      ((∃ row ∈ i.rows, i.columns.length < row.length) → ∃ index row,
        FirstTooLong i.columns i.rows index row ∧
        (i.rowUnion.run (handedOut earlier)).1
          = .error (.shapeMismatch index i.columns.length row.length)) ∧
      ((∀ row ∈ i.rows, row.length ≤ i.columns.length) → ∃ first others b,
        i.rowUnion.run (handedOut earlier) = (.ok (some { fromDual first with
          branches := others.map fun items => ⟨true, fromDual items⟩ }), b) ∧
        i.Unites earlier (first :: others) b.entries)) := by
  have hnone (h : i.rows.length ≤ 1 ∨ i.source.isSome = true) :
      i.rowUnion.run (handedOut earlier) = (.ok none, handedOut earlier) := by
    rw [rowUnion_eq_none h]
    rfl
  refine ⟨?earlier, hnone, fun hrows hsource => ⟨?long, ?fits⟩⟩
  case earlier =>
    by_cases h : i.rows.length ≤ 1 ∨ i.source.isSome = true
    · have hkept := congrArg (·.2.entries) (hnone h)
      exact hkept ▸ List.prefix_rfl
    · obtain ⟨hrows, hsource⟩ := not_or.mp h
      obtain ⟨vs, hvs⟩ := snd_run_rowSelections i.columns 0 i.rows (handedOut earlier)
      rw [run_rowUnion (Nat.not_le.mp hrows) (Option.not_isSome_iff_eq_none.mp hsource), hvs]
      exact List.prefix_append _ _
  case long =>
    intro h
    obtain ⟨index, row, hfirst⟩ := exists_firstTooLong h
    refine ⟨index, row, hfirst, ?_⟩
    rw [run_rowUnion hrows hsource, error_of_firstTooLong hfirst, Nat.zero_add]
    rfl
  case fits =>
    intro hfits
    obtain ⟨lists, hrun, hlength, hitems⟩ :=
      run_rowSelections_of_fits i.columns 0 i.rows (handedOut earlier) hfits
    rw [handedOut_eq] at hitems
    have hunites := unites_of_itemsOf hlength hitems
    cases lists with
    | nil =>
      rw [← hlength] at hrows
      cases hrows
    | cons first others =>
      refine ⟨first, others, _, ?_, hunites⟩
      rw [run_rowUnion hrows hsource, hrun, Except.map, unionOf_fromDual]

/-- Rows of different lengths, with a null and with a call. -/
def ragged (columns : List String) : Insertion Query :=
  { table := "t", columns,
    rows := [[.value (.int 1)], [.value .null, .function "NOW" [], .value (.text "x")]] }

theorem rowUnion_unites_rows_ragged :
    { ragged ["a", "b"] with source := some (fromDual []) }.rowUnion.run (handedOut [.int 7])
      = (.ok none, handedOut [.int 7]) ∧
    (∃ index row, FirstTooLong ["a", "b"] (ragged ["a", "b"]).rows index row ∧
      ((ragged ["a", "b"]).rowUnion.run (handedOut [.int 7, .null])).1
        = .error (.shapeMismatch index 2 row.length)) ∧
    ∃ first others b, (ragged ["a", "b", "c"]).rowUnion.run (handedOut [.int 7, .null])
        = (.ok (some { fromDual first with
            branches := others.map fun items => ⟨true, fromDual items⟩ }), b) ∧
      (ragged ["a", "b", "c"]).Unites [.int 7, .null] (first :: others) b.entries := by
  obtain ⟨-, hnone, -⟩ :=
    rowUnion_unites_rows { ragged ["a", "b"] with source := some (fromDual []) } [.int 7]
  obtain ⟨-, -, hlong⟩ := rowUnion_unites_rows (ragged ["a", "b"]) [.int 7, .null]
  obtain ⟨-, -, hfits⟩ := rowUnion_unites_rows (ragged ["a", "b", "c"]) [.int 7, .null]
  exact ⟨hnone (.inr rfl), (hlong (by decide) rfl).1 (by decide),
    (hfits (by decide) rfl).2 (by decide)⟩

end Insertion

end RownumSql
