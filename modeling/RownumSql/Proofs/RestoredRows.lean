import RownumSql.Proofs.AliasLifetime

/-!
# Restored rows

A row whose field names were shortened gets its own names back, provided that no field that was left
alone has the name of an alias: such a field is taken for the word behind the alias.

A row that a server returns has no long words for fields, and it can be shortened back.

    restore (shortenRow row) = row  ↔  no field left alone is named like an alias
                                                                     (restore_shortenRow_iff)
    shortenRow (restore row) = row     if no field is a long word        (shortenRow_restore)
-/

namespace RownumSql.AliasTable

/-! ## Rows under short names -/

/-- The entries with their keys shortened in order. -/
def shortenEntries : List (String × Value) → StateM AliasTable (List (String × Value))
  | [] => pure []
  | (key, v) :: rest => do
    let short ← shorten key
    let others ← shortenEntries rest
    pure ((short, v) :: others)

/-- The row with its keys shortened in order; keys that become equal are one key. -/
def shortenRow (row : Row) : StateM AliasTable Row := do
  let entries ← shortenEntries row.entries
  pure (OrderedMap.ofList entries)

theorem knows_shortenAll (t : AliasTable) {s : String} {words : List String} (h : s ∈ words) :
    (t.shortenAll words).Knows s := by
  obtain ⟨before, after, rfl⟩ := List.append_of_mem h
  rw [shortenAll_append, shortenAll_cons]
  exact (knows_of_extends (Grows.extends ⟨after, rfl⟩)).1

/-- Every key has the name that it has under the table at the end. -/
theorem run_shortenEntries (es : List (String × Value)) (t : AliasTable) :
    (shortenEntries es).run t =
      (es.map fun e => ((t.shortenAll (es.map Prod.fst)).nameOf e.1, e.2),
        t.shortenAll (es.map Prod.fst)) := by
  induction es generalizing t with
  | nil => rfl
  | cons e rest ih =>
    obtain ⟨key, v⟩ := e
    let t' := ((shorten key).run t).2.shortenAll (rest.map Prod.fst)
    have hname : t'.nameOf key = t.nameOf key := (knows_of_extends (Grows.extends ⟨_, rfl⟩)).2
    have hrun : (shortenEntries ((key, v) :: rest)).run t =
        ((t.nameOf key, v) :: ((shortenEntries rest).run ((shorten key).run t).2).1,
          ((shortenEntries rest).run ((shorten key).run t).2).2) := rfl
    rw [hrun, ih, ← hname]
    rfl

/-- Every key of the shortened row is the name of a key under the table at the end. -/
theorem run_shortenRow (row : Row) (t : AliasTable) :
    (shortenRow row).run t =
      (OrderedMap.ofList (row.entries.map fun e => ((t.shortenAll row.keys).nameOf e.1, e.2)),
        t.shortenAll row.keys) := by
  have hrun : (shortenRow row).run t = (OrderedMap.ofList ((shortenEntries row.entries).run t).1,
      ((shortenEntries row.entries).run t).2) := rfl
  rw [hrun, run_shortenEntries]
  rfl

/-! ## Names given back -/

theorem restore_eq (t : AliasTable) (row : Row) :
    t.restore row = OrderedMap.ofList (row.entries.map fun e => (t.restoredName e.1, e.2)) := by
  unfold restore
  split
  · next hempty =>
    have hsame (name : String) : t.restoredName name = name := by
      rw [restoredName, word?, OrderedMap.get?, List.isEmpty_iff.mp hempty]
      rfl
    simp only [hsame, List.map_id', OrderedMap.ofList_entries]
  · rfl

/-- A row under the names of distinct texts is given these texts as keys, and keeps its values. -/
theorem restore_nameOf {t : AliasTable} {names : List String} {row : Row}
    (hkeys : row.keys = names.map t.nameOf) (hnames : names.Nodup)
    (hback : ∀ s ∈ names, t.restoredName (t.nameOf s) = s) :
    (t.restore row).keys = names ∧ (t.restore row).values = row.values := by
  have hrestored : row.keys.map t.restoredName = names := by
    rw [hkeys, List.map_map]
    exact (List.map_congr_left hback).trans (List.map_id names)
  obtain ⟨hk, hv⟩ := OrderedMap.keys_values_renamed (hrestored ▸ hnames)
  rw [restore_eq]
  exact ⟨hk.trans hrestored, hv⟩

/-- A table that knows the keys of a row restores the row from their names, unless one of the keys
is left alone although it is an alias. -/
theorem Valid.restore_ofList_iff {t : AliasTable} (h : t.Valid) (row : Row)
    (hknown : ∀ key ∈ row.keys, t.Knows key) :
    t.restore (OrderedMap.ofList (row.entries.map fun e => (t.nameOf e.1, e.2))) = row ↔
      ∀ key ∈ row.keys, t.isLong key = false → t.word? key = none := by
  constructor
  · -- a key that is an alias does not occur in any restored row
    intro heq key hkey hshort
    cases hw : t.word? key with
    | none => rfl
    | some word =>
      rw [← heq, restore_eq, OrderedMap.mem_keys_ofList, List.map_map] at hkey
      obtain ⟨e, -, he⟩ := List.mem_map.mp hkey
      change (t.word? e.1).getD e.1 = key at he
      cases hword : t.word? e.1 with
      | none =>
        rw [hword, Option.getD_none] at he
        rw [he, hw] at hword
        cases hword
      | some word' =>
        rw [hword, Option.getD_some] at he
        have hlong := h.isLong_of_word? hword
        rw [he, hshort] at hlong
        cases hlong
  · intro hfree
    have hback : ∀ key ∈ row.keys, t.restoredName (t.nameOf key) = key := fun key hkey =>
      h.restoredName_nameOf (hknown key hkey) (hfree key hkey)
    obtain ⟨hkeys, hvalues⟩ :=
      OrderedMap.keys_values_renamed (nodup_map_nameOf row.distinct hback)
    obtain ⟨hk, hv⟩ := restore_nameOf hkeys row.distinct hback
    exact OrderedMap.ext_keys_values hk (hv.trans hvalues)

/-- **Restoring undoes shortening exactly where no field is named like an alias.**  With the table
that any words have left behind, a row is the same again after its keys were shortened and the row
restored, if and only if no key that is short enough to be left alone is an alias of the table. -/
theorem restore_shortenRow_iff (maxLength : Nat) (stem : String) (history : List String)
    (row : Row) :
    let short := (shortenRow row).run (shortenAll { maxLength, stem } history)
    short.2.restore short.1 = row ↔
      ∀ key ∈ row.keys, short.2.isLong key = false → short.2.word? key = none := by
  let t := shortenAll { maxLength, stem } history
  rw [run_shortenRow]
  have hgrows : Grows { maxLength, stem } (t.shortenAll row.keys) :=
    .trans ⟨history, rfl⟩ ⟨_, rfl⟩
  exact (hgrows.valid (valid_empty maxLength stem)).restore_ofList_iff row fun key hkey =>
    knows_shortenAll t hkey

/-- A row with one field, named like the first alias. -/
def aliasNamedRow : Row := OrderedMap.ofList [("XXAUTO_SHORTENED_ID1", .int 1)]

/-- The field is left alone, but it comes back under the word behind the alias. -/
theorem restore_shortenRow_aliasNamedRow :
    let t := shortenAll {} ["a_really_long_column_name_that_exceeds_limit"]
    let short := (shortenRow aliasNamedRow).run t
    short.1 = aliasNamedRow ∧ short.2 = t ∧
    (short.2.restore short.1).entries
      = [("a_really_long_column_name_that_exceeds_limit", .int 1)] ∧
    short.2.restore short.1 ≠ aliasNamedRow := by
  decide +kernel

/-! ## Rows that a server returns -/

/-- What a field is called once its row is restored: the word behind an alias, and else its own
name. -/
def Restores (t : AliasTable) (key name : String) : Prop :=
  (key, name) ∈ t.entries ∨ name = key ∧ key ∉ t.entries.map Prod.fst

theorem restores_restoredName (t : AliasTable) (key : String) :
    t.Restores key (t.restoredName key) := by
  unfold Restores restoredName
  cases hw : t.word? key with
  | some word => exact .inl (word?_eq_some_iff.mp hw)
  | none =>
    refine .inr ⟨rfl, ?_⟩
    intro hmem
    obtain ⟨⟨short, word⟩, he, rfl⟩ := List.mem_map.mp hmem
    rw [word?_eq_some_iff.mpr he] at hw
    cases hw

theorem shortenAll_of_knows {t : AliasTable} {words : List String} (h : ∀ s ∈ words, t.Knows s) :
    t.shortenAll words = t := by
  induction words with
  | nil => rfl
  | cons s words ih =>
    obtain ⟨hs, hwords⟩ := List.forall_mem_cons.mp h
    rw [shortenAll_cons, show ((shorten s).run t).2 = t from hs, ih hwords]

/-- A row whose keys are known is shortened to the row under their names. -/
theorem shortenRow_of_knows {t : AliasTable} {row short : Row} (hknows : ∀ s ∈ row.keys, t.Knows s)
    (hkeys : row.keys.map t.nameOf = short.keys) (hvalues : row.values = short.values) :
    (shortenRow row).run t = (short, t) := by
  have hdistinct : (row.keys.map t.nameOf).Nodup := by
    rw [hkeys]
    exact short.distinct
  obtain ⟨hk, hv⟩ := OrderedMap.keys_values_renamed hdistinct
  rw [run_shortenRow, shortenAll_of_knows hknows]
  exact Prod.ext (OrderedMap.ext_keys_values (hk.trans hkeys) (hv.trans hvalues)) rfl

namespace Valid
variable {t : AliasTable} (h : t.Valid)
include h

/-- A name that is no long word is the name of what it is restored to, and nothing is to be added
to the table for it. -/
theorem shorten_restoredName {key : String} (hkey : t.isLong key = false) :
    (AliasTable.shorten (t.restoredName key)).run t = (key, t) := by
  unfold restoredName
  cases hw : t.word? key with
  | some word =>
    -- what stands behind an alias is a long word, so that it has the alias for its name
    exact run_shorten_of_known (h.isLong_of_word? hw) (h.word?_eq_some_iff_alias?.mp hw)
  | none => exact run_shorten_of_not_long hkey

theorem names_restoredName {keys : List String} (hkeys : ∀ key ∈ keys, t.isLong key = false) :
    (keys.map t.restoredName).map t.nameOf = keys := by
  rw [List.map_map]
  exact (List.map_congr_left fun key hkey =>
    congrArg Prod.fst (h.shorten_restoredName (hkeys key hkey))).trans (List.map_id keys)

/-- A row without long words among its keys keeps all of them apart when it is restored. -/
theorem keys_values_restore {row : Row} (hrow : ∀ key ∈ row.keys, t.isLong key = false) :
    (t.restore row).keys = row.keys.map t.restoredName ∧ (t.restore row).values = row.values := by
  have hnames := h.names_restoredName hrow
  refine restore_nameOf hnames.symm ?_ ?_
  · -- shortening tells the restored names apart
    refine .of_map t.nameOf ?_
    rw [hnames]
    exact row.distinct
  · intro s hs
    obtain ⟨key, hkey, rfl⟩ := List.mem_map.mp hs
    rw [nameOf, h.shorten_restoredName (hrow key hkey)]

end Valid

/-- **Shortening undoes restoring on the rows of a server.**  Whatever words a table was made of, a
row without long words among its keys keeps its values in order when it is restored, and each key
that is an alias becomes the word behind it while all others stay.  The restored row is shortened
to the row that it came from, and nothing is added to the table. -/
theorem shortenRow_restore (maxLength : Nat) (stem : String) (history : List Edit) (row : Row)
    (hrow : ∀ key ∈ row.keys, (∀ c ∈ key.toList, c.isAlphanum ∨ c = '_' ∨ c = '-') →
      key.length ≤ maxLength) :
    let t := edits history { maxLength, stem }
    (t.restore row).values = row.values ∧
    List.Forall₂ t.Restores row.keys (t.restore row).keys ∧
    (shortenRow (t.restore row)).run t = (row, t) := by
  intro t
  obtain ⟨hvalid, hmax, -⟩ := edits_keep history { maxLength, stem } (valid_empty maxLength stem)
  have hshort : ∀ key ∈ row.keys, t.isLong key = false := by
    intro key hkey
    rw [← Bool.not_eq_true, isLong_iff, hmax]
    rintro ⟨-, hword, hlong⟩
    exact Nat.not_lt.mpr (hrow key hkey hword) hlong
  obtain ⟨hkeys, hvalues⟩ := hvalid.keys_values_restore hshort
  refine ⟨hvalues, ?_, shortenRow_of_knows ?_ ?_ hvalues⟩
  · rw [hkeys, List.forall₂_map_right_iff, List.forall₂_same]
    exact fun key _ => t.restores_restoredName key
  · intro s hs
    rw [hkeys] at hs
    obtain ⟨key, hkey, rfl⟩ := List.mem_map.mp hs
    exact congrArg Prod.snd (hvalid.shorten_restoredName (hshort key hkey))
  · rw [hkeys]
    exact hvalid.names_restoredName hshort

/-- A row of a server, with an alias and an expression among its keys. -/
def servedRow : Row := OrderedMap.ofList [("AL2", .int 1), ("COUNT(*)", .int 2), ("id", .int 3)]

/-- The alias is the second that was made since the table was cleared. -/
theorem shortenRow_restore_servedRow :
    let t := edits [.shorten "abcde", .clear, .shorten "fghij", .shorten "klmno"]
      { maxLength := 4, stem := "AL" }
    (t.restore servedRow).keys = ["klmno", "COUNT(*)", "id"] ∧
    (t.restore servedRow).values = servedRow.values ∧
    List.Forall₂ t.Restores servedRow.keys (t.restore servedRow).keys ∧
    (shortenRow (t.restore servedRow)).run t = (servedRow, t) := by
  refine ⟨by decide +kernel, shortenRow_restore 4 "AL" _ servedRow ?_⟩
  have hkeys : servedRow.keys = ["AL2", "COUNT(*)", "id"] := by decide +kernel
  rw [hkeys, List.forall_mem_cons, List.forall_mem_cons, List.forall_mem_singleton]
  refine ⟨fun _ => by decide, ?_, fun _ => by decide⟩
  intro hword
  exact absurd (hword '(' (by simp)) (by decide)

end RownumSql.AliasTable
