import RownumSql.Proofs.OutputNames
import RownumSql.Proofs.Recompilation
import RownumSql.Proofs.RestoredRows
import RownumSql.Proofs.ServedRows

/-!
# Rows under the caller's names

The server answers a selection with rows whose fields have the names in the SQL, some of them
aliases, and perhaps the row number behind them.  The cursor drops the row number and gives the
fields their names back, with any table that the session has come to since:

    row.keys = t.columns c.rowNumberColumn names →
      (cursor.presentRow t' row).keys = names ∧
      (cursor.presentRow t' row).values = row.values.take names.length           (fetch_outputs)
-/

namespace RownumSql

/-! ## Names in the SQL -/

namespace AliasTable

/-- A table reached by calls to a dialect is valid, and its aliases begin with the stem. -/
theorem valid_calls (d : Dialect) (maxLength : Nat) (stem : String) (calls : List Call) :
    (d.calls calls { maxLength, stem }).Valid ∧ (d.calls calls { maxLength, stem }).stem = stem :=
  have hgrows := d.grows_calls calls { maxLength, stem }
  ⟨hgrows.valid (valid_empty maxLength stem), hgrows.stem⟩

/-- An alias ends with a digit, the name of the row number does not. -/
theorem sameIgnoringCase_alias (stem : String) (n : Nat) :
    Text.sameIgnoringCase (stem ++ toString n) rowNumberColumn = false := by
  obtain ⟨front, digit, hdigits, hdigit⟩ := Text.exists_toString_eq_concat n
  unfold Text.sameIgnoringCase
  rw [beq_eq_false_iff_ne]
  intro heq
  have hlast := congrArg List.getLast? heq
  rw [String.toList_append, hdigits, ← List.append_assoc, List.map_append, List.map_singleton,
    List.getLast?_concat, Text.toLower_of_isDigit hdigit] at hlast
  have hm : digit = 'm' := Option.some.inj hlast
  rw [hm] at hdigit
  cases hdigit

/-- The columns that the server answers with: the names in the SQL, and perhaps the row number. -/
def columns (t : AliasTable) (numbered : Bool) (names : List String) : List String :=
  names.map t.nameOf ++ if numbered then [rowNumberColumn] else []

end AliasTable

namespace Query.Outputs
variable {q : Query} {names : List String} {stem : String} (h : q.Outputs names stem)
  {t : AliasTable} (ht : t.Valid) (hknown : ∀ name ∈ names, t.Knows name)
include h ht hknown

theorem restoredName_nameOf (hstem : t.stem = stem) :
    ∀ name ∈ names, t.restoredName (t.nameOf name) = name := by
  intro name hname
  refine ht.restoredName_nameOf (hknown name hname) fun _ => ?_
  cases hw : t.word? name with
  | none => rfl
  | some word =>
    obtain ⟨n, hn⟩ := ht.eq_stem_of_word? hw
    rw [hstem] at hn
    exact absurd hn (h.noAlias name hname n)

theorem sameIgnoringCase_of_mem :
    ∀ key ∈ names.map t.nameOf, Text.sameIgnoringCase key rowNumberColumn = false := by
  intro key hkey
  obtain ⟨name, hname, rfl⟩ := List.mem_map.mp hkey
  by_cases hl : t.isLong name
  · have hw := ht.word?_eq_some_iff_alias?.mpr ((hknown name hname).alias? hl)
    obtain ⟨n, hn⟩ := ht.eq_stem_of_word? hw
    rw [hn]
    exact AliasTable.sameIgnoringCase_alias t.stem n
  · rw [Bool.not_eq_true] at hl
    rw [AliasTable.nameOf_of_not_long hl]
    exact h.noRowNumber name hname

/-- The server can answer with a row: its columns have distinct names. -/
theorem nodup_columns (hstem : t.stem = stem) (numbered : Bool) :
    (t.columns numbered names).Nodup := by
  have hnames := AliasTable.nodup_map_nameOf h.distinct (h.restoredName_nameOf ht hknown hstem)
  unfold AliasTable.columns
  cases numbered with
  | false => simpa using hnames
  | true =>
    rw [if_pos rfl, List.nodup_append]
    refine ⟨hnames, List.nodup_singleton _, ?_⟩
    rintro key hkey _ hrow rfl
    have hfalse := h.sameIgnoringCase_of_mem ht hknown key hkey
    rw [List.mem_singleton.mp hrow] at hfalse
    revert hfalse
    decide

/-! ## Rows that are presented -/

variable {m : Type → Type} [Monad m] {T : Type} [NativeStatement m T] {c : Cursor T} {row : Row}

theorem presentRow (hstem : t.stem = stem) (hrow : row.keys = t.columns c.dropsRowNumber names) :
    (c.presentRow t row).keys = names ∧
      (c.presentRow t row).values = row.values.take names.length := by
  have hback := h.restoredName_nameOf ht hknown hstem
  unfold Cursor.presentRow
  unfold AliasTable.columns at hrow
  cases hdrops : c.dropsRowNumber with
  | false =>
    rw [hdrops, if_neg Bool.false_ne_true, List.append_nil] at hrow
    obtain ⟨hk, hv⟩ := AliasTable.restore_nameOf hrow h.distinct hback
    have hlength : row.values.length = names.length := by
      rw [OrderedMap.length_values, hrow, List.length_map]
    rw [if_neg Bool.false_ne_true, List.take_of_length_le (Nat.le_of_eq hlength)]
    exact ⟨hk, hv⟩
  | true =>
    rw [hdrops, if_pos rfl] at hrow
    obtain ⟨hkeys, hvalues⟩ := OrderedMap.eraseFirst_of_last
      (p := fun key => Text.sameIgnoringCase key rowNumberColumn) hrow
      (h.sameIgnoringCase_of_mem ht hknown) (by decide)
    obtain ⟨hk, hv⟩ := AliasTable.restore_nameOf hkeys h.distinct hback
    rw [if_pos rfl]
    rw [hvalues, List.length_map] at hv
    exact ⟨hk, hv⟩

end Query.Outputs

theorem Cursor.presentValues_of_columns {m : Type → Type} [Monad m] {T : Type}
    [NativeStatement m T] {c : Cursor T} {t : AliasTable} {names : List String} {row : Row}
    (hrow : row.keys = t.columns c.dropsRowNumber names) :
    c.presentValues row = row.values.take names.length := by
  have hlength := row.length_values
  rw [hrow, AliasTable.columns, List.length_append, List.length_map] at hlength
  unfold Cursor.presentValues
  cases hdrops : c.dropsRowNumber with
  | false =>
    rw [hdrops, if_neg Bool.false_ne_true, List.length_nil, Nat.add_zero] at hlength
    rw [if_neg Bool.false_ne_true, List.take_of_length_le (Nat.le_of_eq hlength)]
  | true =>
    rw [hdrops, if_pos rfl, List.length_singleton] at hlength
    rw [if_pos rfl, List.dropLast_eq_take, hlength, Nat.add_sub_cancel]

/-! ## From the query to the rows -/

/-- **Rows come back under the names of the query.**  A selection that names its columns compiles.
Let a client serve rows with the columns of the SQL, the row number behind them if there is one, and
let the session use its dialect before they are fetched.  By field every row then has the names of
the query, in order, with the values that were served for them; by position it has these values. -/
theorem fetch_outputs (d : Dialect) (maxLength : Nat) (stem : String) (history later : List Call)
    {q : Query} {names : List String} (h : q.Outputs names stem) :
    let t := (d.compile (d.calls history { maxLength, stem }) q).aliases
    ∃ c, (d.compile (d.calls history { maxLength, stem }) q).result = .ok c ∧
      c.rowNumberColumn = decide (0 < q.offsetValue) ∧
      d.Lists t q names c.sql ∧ (t.columns c.rowNumberColumn names).Nodup ∧
      ∀ {m : Type → Type} {ps : Std.Do.PostShape} [Monad m] [Std.Do.WPMonad m ps] {T : Type}
        [NativeStatement m T] (cursor : Cursor T) (rows : List Row),
        cursor.dropsRowNumber = c.rowNumberColumn →
        (∀ row ∈ rows, row.keys = t.columns c.rowNumberColumn names) →
        Returns (NativeStatement.execute cursor.native)
          (fun r => r.1 = .ok () ∧ Serves rows r.2) →
        Returns cursor.execute fun r => r.1 = .ok () ∧
          Returns (r.2.fetchAll (d.calls later t)) (fun r => ∃ fetched, r.1 = .ok fetched ∧
            List.Forall₂ (fun row named =>
              named.keys = names ∧ named.values = row.values.take names.length) rows fetched) ∧
          Returns (r.2.fetchTimes (rows.length + 1)) fun rs =>
            rs = rows.map (fun row => .ok (some (row.values.take names.length))) ++ [.ok none] := by
  obtain ⟨hvalid, hstem⟩ := AliasTable.valid_calls d maxLength stem history
  have hcompile := d.grows_compile (d.calls history { maxLength, stem }) q
  have hknown := h.knows_compile d (d.calls history { maxLength, stem })
  obtain ⟨c, hc, hnumbered, hlists⟩ := d.compile_outputs (d.calls history { maxLength, stem }) h
  generalize (d.compile (d.calls history { maxLength, stem }) q).aliases = t at *
  have ht : t.Valid := hcompile.valid hvalid
  have htstem : t.stem = stem := hcompile.stem.trans hstem
  -- the names are the same in the later table, which knows them too
  have hlater := d.grows_calls later t
  have hkept : ∀ name ∈ names,
      (d.calls later t).Knows name ∧ (d.calls later t).nameOf name = t.nameOf name :=
    fun name hname => (hknown name hname).of_extends hlater.extends
  have hcolumns (numbered : Bool) :
      (d.calls later t).columns numbered names = t.columns numbered names := by
    unfold AliasTable.columns
    rw [List.map_congr_left fun name hname => (hkept name hname).2]
  refine ⟨c, hc, hnumbered, hlists, h.nodup_columns ht hknown htstem c.rowNumberColumn, ?_⟩
  intro m ps _ _ T _ cursor rows hdrops hrows hserves
  refine (Cursor.returns_execute hserves).mono ?_
  rintro ⟨r, ready⟩ ⟨hr, hpending, hsame⟩
  have hready : ready.dropsRowNumber = c.rowNumberColumn := hsame.trans hdrops
  rw [← hready] at hrows
  refine ⟨hr, (Cursor.returns_fetchAll _ hpending).mono ?_,
    (Cursor.returns_fetchTimes hpending).mono ?_⟩
  · rintro ⟨_, _⟩ rfl
    refine ⟨_, rfl, List.forall₂_map_right_iff.mpr (List.forall₂_same.mpr fun row hrow => ?_)⟩
    exact h.presentRow (hlater.valid ht) (fun name hname => (hkept name hname).1)
      (hlater.stem.trans htstem) ((hrows row hrow).trans (hcolumns _).symm)
  · rintro _ rfl
    rw [List.map_congr_left fun row hrow =>
      congrArg _ (congrArg _ (Cursor.presentValues_of_columns (hrows row hrow)))]

/-- A word that is shortened. -/
def longTitle : String := "the_title_under_which_it_was_published"

/-- A selection of books from the third on. -/
def laterBooks : Query :=
  { select := [⟨.column "id", none⟩, ⟨.column "title", some longTitle⟩]
    tables := [⟨"books", none⟩], offset := some 2 }

/-- A cursor over three books, of which the first two are passed over. -/
def laterBooksCursor : Cursor Scripted.Statement :=
  { native :=
      { script :=
          { responses :=
              [{ pattern := "books"
                 rows := [(6, "Emma"), (2, "Persuasion"), (4, "Sanditon")].map fun book =>
                  OrderedMap.ofList
                    [("id", .int book.1), ("XXAUTO_SHORTENED_ID1", .text book.2)] }] }
        sql := "SELECT * FROM (SELECT a.*, ROWNUM QAIL_RNUM FROM (SELECT \"id\", \"title\" AS "
          ++ "\"XXAUTO_SHORTENED_ID1\" FROM \"books\") a) WHERE QAIL_RNUM > :QAIL_FETCH_OFFSET"
        bound := [⟨.named "QAIL_FETCH_OFFSET", .int 2⟩] }
    sql := ""
    dropsRowNumber := true }

theorem outputs_laterBooks : laterBooks.Outputs ["id", longTitle] "XXAUTO_SHORTENED_ID" where
  kind := rfl
  single := rfl
  items := by decide
  nonempty := List.cons_ne_nil _ _
  distinct := by decide
  words := by decide
  noAlias := by
    intro name hname n heq
    have hhead : name.toList.head? = some 'X' := by
      rw [heq, String.toList_append]
      rfl
    clear heq
    revert name
    decide
  noRowNumber := by decide +kernel

theorem fetch_outputs_laterBooks :
    laterBooks.Outputs ["id", longTitle] "XXAUTO_SHORTENED_ID" ∧
    (({} : Dialect).compile {} laterBooks).result.toOption.map CompiledQuery.sql
      = some laterBooksCursor.native.sql ∧
    laterBooksCursor.native.answer.rows.map OrderedMap.entries
      = [[("id", .int 4), ("XXAUTO_SHORTENED_ID1", .text "Sanditon"), ("QAIL_RNUM", .int 3)]] ∧
    Returns laterBooksCursor.execute fun r => r.1 = .ok () ∧
      Returns (r.2.fetchAll (({} : Dialect).compile {} laterBooks).aliases) (fun r =>
        r.1 = .ok [OrderedMap.ofList [("id", .int 4), (longTitle, .text "Sanditon")]]) ∧
      Returns (r.2.fetchTimes 2) fun rs =>
        rs = [.ok (some [.int 4, .text "Sanditon"]), .ok none] := by
  obtain ⟨c, -, hnumbered, -, -, hfetch⟩ :=
    fetch_outputs {} 30 "XXAUTO_SHORTENED_ID" [] [] outputs_laterBooks
  have hrows : laterBooksCursor.native.answer.rows = [OrderedMap.ofList
      [("id", .int 4), ("XXAUTO_SHORTENED_ID1", .text "Sanditon"), ("QAIL_RNUM", .int 3)]] := by
    decide +kernel
  have hdrops : laterBooksCursor.dropsRowNumber = c.rowNumberColumn := by
    rw [hnumbered]
    decide
  have hcolumns : ∀ row ∈ laterBooksCursor.native.answer.rows, row.keys =
      (({} : Dialect).compile {} laterBooks).aliases.columns c.rowNumberColumn
        ["id", longTitle] := by
    rw [← hdrops, hrows]
    decide +kernel
  have hexecute := hfetch laterBooksCursor _ hdrops hcolumns
    (Scripted.Statement.returns_execute rfl)
  refine ⟨outputs_laterBooks, by decide +kernel, by rw [hrows]; decide, hexecute.mono ?_⟩
  rintro ⟨r, ready⟩ ⟨hr, hall, htimes⟩
  rw [hrows] at hall htimes
  refine ⟨hr, hall.mono ?_, htimes⟩
  rintro ⟨_, _⟩ ⟨fetched, rfl, hfetched⟩
  cases hfetched with
  | @cons _ named _ _ hrow hrest =>
    cases hrest
    have hnamed : named = OrderedMap.ofList [("id", .int 4), (longTitle, .text "Sanditon")] :=
      OrderedMap.ext_keys_values (hrow.1.trans (by decide)) (hrow.2.trans (by decide))
    rw [hnamed]

end RownumSql
