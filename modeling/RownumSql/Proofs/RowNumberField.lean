import RownumSql.Proofs.ServedRows
import RownumSql.Statement.Compile

/-!
# The field with the row number

The rows of a window carry the row number as their last field, and a cursor drops it: by position
the last value, by field the first field that has the name of the row number in any case.  These are
the same field unless a column of the caller is named like the row number up to case.  Then that
column is dropped in its place, and the row number is presented as if it were data.

    values by position  are  those of the fields in front of the row number
    row by field  =  the fields in front ↔ none is named like the row number  (fetched_fields_iff)
-/

namespace RownumSql.Cursor

open RownumSql.Text (sameIgnoringCase)

/-- Whether the name of a field is that of the row number, in any case. -/
def isRowNumber (e : String × Value) : Bool := sameIgnoringCase e.1 rowNumberColumn

section numbered
variable {m : Type → Type} [Monad m] {T : Type} [NativeStatement m T] {c : Cursor T}
  {row : Row} {fields : List (String × Value)} {n : Value}
  (hdrops : c.dropsRowNumber = true) (hrow : row.entries = fields ++ [(rowNumberColumn, n)])
include hdrops hrow

theorem presentValues_numbered : c.presentValues row = fields.map Prod.snd := by
  rw [presentValues, hdrops, if_pos rfl, OrderedMap.values, hrow, List.map_append,
    List.map_singleton, List.dropLast_concat]

theorem entries_presentRow_numbered {aliases : AliasTable} (haliases : aliases.entries = []) :
    (c.presentRow aliases row).entries =
      if fields.any isRowNumber then fields.eraseP isRowNumber ++ [(rowNumberColumn, n)]
      else fields := by
  have hrestore (r : Row) : aliases.restore r = r := by
    have hempty : aliases.words.isEmpty = true := List.isEmpty_iff.mpr haliases
    rw [AliasTable.restore, hempty]
    rfl
  rw [presentRow, hrestore, hdrops, if_pos rfl]
  exact OrderedMap.entries_eraseFirst_append hrow (beq_self_eq_true _)

/-- The row number stays behind the fields that are left if one of them goes in its place. -/
theorem entries_presentRow_eq_iff {aliases : AliasTable} (haliases : aliases.entries = []) :
    (c.presentRow aliases row).entries = fields ↔ ∀ e ∈ fields, isRowNumber e = false := by
  rw [entries_presentRow_numbered hdrops hrow haliases]
  by_cases hany : fields.any isRowNumber
  · rw [if_pos hany]
    obtain ⟨e, he, hnamed⟩ := List.any_eq_true.mp hany
    refine iff_of_false ?_ fun h => Bool.false_ne_true ((h e he).symm.trans hnamed)
    -- the fields would contain the row number, whose name is there once already
    intro hsame
    have hdistinct := row.distinct
    rw [hrow, List.map_append, List.nodup_append] at hdistinct
    have hmem : (rowNumberColumn, n) ∈ fields := by
      rw [← hsame]
      exact List.mem_append_right _ (List.mem_singleton_self _)
    exact hdistinct.2.2 _ (List.mem_map_of_mem hmem) _ (List.mem_singleton_self _) rfl
  · rw [if_neg hany]
    refine iff_of_true rfl ?_
    simpa using hany

end numbered

/-- **By field the row number is dropped unless another name hides it.**  Let a cursor drop row
numbers, let there be no aliases, and let the next row be made of some fields and of the row number
behind them.  Fetched by position it has the values of these fields.  Fetched by field it has
exactly these fields if and only if none of them is named like the row number in any case; otherwise
the first that is goes, and the row number stays. -/
theorem fetched_fields_iff {m : Type → Type} {ps : Std.Do.PostShape} [Monad m]
    [Std.Do.WPMonad m ps] {T : Type} [NativeStatement m T] {c : Cursor T} {aliases : AliasTable}
    {row : Row} {rest : List Row} {fields : List (String × Value)} {n : Value}
    (hpending : c.Pending (row :: rest)) (hdrops : c.dropsRowNumber = true)
    (haliases : aliases.entries = []) (hrow : row.entries = fields ++ [(rowNumberColumn, n)]) :
    Returns c.fetchValues (fun r => r.1 = .ok (some (fields.map Prod.snd))) ∧
    Returns (c.fetchRow aliases) fun r => ∃ shown, r.1 = .ok (some shown) ∧
      (shown.entries = fields ↔ ∀ e ∈ fields, isRowNumber e = false) ∧
      ((∃ e ∈ fields, isRowNumber e) →
        shown.entries = fields.eraseP isRowNumber ++ [(rowNumberColumn, n)]) := by
  refine ⟨(returns_fetchValues hpending).mono ?_, (returns_fetchRow aliases hpending).mono ?_⟩
  · rintro ⟨_, c'⟩ rfl
    rw [presentValues_numbered hdrops hrow]
  · rintro ⟨_, c'⟩ rfl
    refine ⟨_, rfl, entries_presentRow_eq_iff hdrops hrow haliases, ?_⟩
    intro hnamed
    rw [entries_presentRow_numbered hdrops hrow haliases, if_pos (List.any_eq_true.mpr hnamed)]

/-- The players from the second on, by a column of the given name. -/
def laterPlayers (name : String) : Query :=
  { select := [⟨.column name, none⟩], tables := [⟨"players", none⟩], offset := some 1 }

/-- A cursor over two players with ranks in a column of the given name, of which the first is passed
over. -/
def playersCursor (name : String) : Cursor Scripted.Statement :=
  { native :=
      { script :=
          { responses :=
              [{ pattern := "players"
                 rows := [5, 7].map fun rank => OrderedMap.ofList [(name, .int rank)] }] }
        sql := "SELECT * FROM (SELECT a.*, ROWNUM QAIL_RNUM FROM (SELECT \"" ++ name
          ++ "\" FROM \"players\") a) WHERE QAIL_RNUM > :QAIL_FETCH_OFFSET"
        bound := [⟨.named "QAIL_FETCH_OFFSET", .int 1⟩] }
    sql := ""
    dropsRowNumber := true }

/-- A column with a longer name than the row number stays, and the row number goes. -/
theorem fetched_fields_iff_longerName :
    (playersCursor "qail_rnums").native.answer.rows.map OrderedMap.entries =
      [[("qail_rnums", .int 7), ("QAIL_RNUM", .int 2)]] ∧
    Returns (playersCursor "qail_rnums").execute fun r =>
      Returns r.2.fetchValues (fun r => r.1 = .ok (some [.int 7])) ∧
      Returns (r.2.fetchRow {}) fun r =>
        ∃ shown, r.1 = .ok (some shown) ∧ shown.entries = [("qail_rnums", .int 7)] := by
  have hrows : (playersCursor "qail_rnums").native.answer.rows =
      [OrderedMap.ofList [("qail_rnums", .int 7), ("QAIL_RNUM", .int 2)]] := by decide +kernel
  refine ⟨by rw [hrows]; decide, ?_⟩
  have hserves := Scripted.Statement.returns_execute (s := (playersCursor "qail_rnums").native) rfl
  refine (returns_execute hserves).mono ?_
  rintro ⟨r, ready⟩ ⟨-, hpending, hsame⟩
  rw [hrows] at hpending
  obtain ⟨hvalues, hrow⟩ := fetched_fields_iff hpending hsame
    (show ({} : AliasTable).entries = [] from rfl)
    (show _ = [("qail_rnums", .int 7)] ++ [(rowNumberColumn, .int 2)] by decide)
  refine ⟨hvalues, hrow.mono ?_⟩
  rintro ⟨r, later⟩ ⟨shown, hshown, hiff, -⟩
  exact ⟨shown, hshown, hiff.mpr (by decide)⟩

/-- A column that is named like the row number in small letters: by field it is dropped in place of
the row number, which is presented as if it were a rank. -/
theorem fetched_fields_hidden :
    (({} : Dialect).compile {} (laterPlayers "qail_rnum")).result.toOption.map
        (fun c => (c.sql, c.rowNumberColumn)) =
      some ((playersCursor "qail_rnum").native.sql, true) ∧
    (playersCursor "qail_rnum").native.answer.rows.map OrderedMap.entries =
      [[("qail_rnum", .int 7), ("QAIL_RNUM", .int 2)]] ∧
    Returns (playersCursor "qail_rnum").execute fun r =>
      Returns r.2.fetchValues (fun r => r.1 = .ok (some [.int 7])) ∧
      Returns (r.2.fetchRow {}) fun r =>
        ∃ shown, r.1 = .ok (some shown) ∧ shown.entries = [("QAIL_RNUM", .int 2)] := by
  have hrows : (playersCursor "qail_rnum").native.answer.rows =
      [OrderedMap.ofList [("qail_rnum", .int 7), ("QAIL_RNUM", .int 2)]] := by decide +kernel
  refine ⟨by decide +kernel, by rw [hrows]; decide, ?_⟩
  have hserves := Scripted.Statement.returns_execute (s := (playersCursor "qail_rnum").native) rfl
  refine (returns_execute hserves).mono ?_
  rintro ⟨r, ready⟩ ⟨-, hpending, hsame⟩
  rw [hrows] at hpending
  refine ⟨(returns_fetchValues hpending).mono ?_, (returns_fetchRow {} hpending).mono ?_⟩
  · rintro ⟨_, later⟩ rfl
    rw [presentValues, hsame]
    rfl
  · rintro ⟨_, later⟩ rfl
    refine ⟨_, rfl, ?_⟩
    rw [presentRow, hsame]
    decide +kernel

end RownumSql.Cursor
