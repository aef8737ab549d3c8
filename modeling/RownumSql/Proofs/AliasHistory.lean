import Mathlib.Data.List.Nodup
import RownumSql.Proofs.StableNames

/-!
# Tables that words were shortened with

A table of aliases changes only in that words are shortened with it.  After any number of them its
two maps are in step: the aliases are numbered in order, behind them are words that are too long,
and each of these words has that alias.  So looking up an alias and looking up a word are inverse to
each other.

    t.Valid → (t.word? short = some word ↔ t.alias? word = some short)    (word?_eq_some_iff_alias?)
-/

namespace RownumSql.AliasTable

/-! ## Words one after another -/

/-- The table after words were shortened one after another. -/
def shortenAll (t : AliasTable) (words : List String) : AliasTable :=
  words.foldl (fun t s => ((shorten s).run t).2) t

@[simp] theorem shortenAll_cons (t : AliasTable) (s : String) (words : List String) :
    t.shortenAll (s :: words) = ((shorten s).run t).2.shortenAll words := rfl

@[simp] theorem shortenAll_append (t : AliasTable) (words more : List String) :
    t.shortenAll (words ++ more) = (t.shortenAll words).shortenAll more :=
  List.foldl_append

/-- Some words turn the first table into the second. -/
def Grows (t t' : AliasTable) : Prop := ∃ words, t.shortenAll words = t'

theorem Grows.refl (t : AliasTable) : t.Grows t := ⟨[], rfl⟩

theorem Grows.trans {t t' t'' : AliasTable} (h : t.Grows t') (h' : t'.Grows t'') : t.Grows t'' := by
  obtain ⟨words, rfl⟩ := h
  obtain ⟨more, rfl⟩ := h'
  exact ⟨words ++ more, shortenAll_append t words more⟩

theorem grows_shorten (t : AliasTable) (s : String) : t.Grows ((shorten s).run t).2 := ⟨[s], rfl⟩

theorem Grows.extends {t t' : AliasTable} (h : t.Grows t') : t.Extends t' := by
  obtain ⟨words, rfl⟩ := h
  induction words generalizing t with
  | nil => exact .refl t
  | cons s words ih => exact (repeats_shorten s t).1.trans ih

/-- What every shortening keeps is kept by any number of them. -/
theorem Grows.induction {P : AliasTable → Prop} {t t' : AliasTable} (h : t.Grows t')
    (step : ∀ t s, P t → P ((shorten s).run t).2) (ht : P t) : P t' := by
  obtain ⟨words, rfl⟩ := h
  induction words generalizing t with
  | nil => exact ht
  | cons s words ih => exact ih (step t s ht)

theorem Grows.stem {t t' : AliasTable} (h : t.Grows t') : t'.stem = t.stem := by
  refine h.induction (P := fun u => u.stem = t.stem) ?_ rfl
  intro u s hu
  rcases shorten_cases s u with he | ⟨-, -, he⟩
  · rw [he, hu]
  · rw [he]
    exact hu

/-! ## Valid tables -/

/-- The aliases are numbered from one on, behind them are words that need one, and the map by word
has the same pairs as the map by alias. -/
structure Valid (t : AliasTable) : Prop where
  aliases : t.entries.map Prod.fst = (List.range' 1 t.size).map fun n => t.stem ++ toString n
  shorts : t.shorts.entries = t.entries.map Prod.swap
  long : ∀ e ∈ t.entries, t.isLong e.2

theorem valid_empty (maxLength : Nat) (stem : String) : Valid { maxLength, stem } :=
  ⟨rfl, rfl, fun _ h => nomatch h⟩

theorem word?_eq_some_iff {t : AliasTable} {short word : String} :
    t.word? short = some word ↔ (short, word) ∈ t.entries :=
  OrderedMap.lookup_eq_some_iff t.words.distinct

namespace Valid
variable {t : AliasTable} (h : t.Valid)
include h

theorem alias?_eq_some_iff {short word : String} :
    t.alias? word = some short ↔ (short, word) ∈ t.entries := by
  have hshorts : t.alias? word = some short ↔ (word, short) ∈ t.shorts.entries :=
    OrderedMap.lookup_eq_some_iff t.shorts.distinct
  rw [hshorts, h.shorts, List.mem_map]
  constructor
  · rintro ⟨e, he, hswap⟩
    cases hswap
    exact he
  · intro he
    exact ⟨(short, word), he, rfl⟩

/-- Looking up an alias and looking up a word are inverse to each other. -/
theorem word?_eq_some_iff_alias? {short word : String} :
    t.word? short = some word ↔ t.alias? word = some short := by
  rw [word?_eq_some_iff, h.alias?_eq_some_iff]

/-- The words are the keys of the map by word, so that no two are the same. -/
theorem nodup_words : (t.entries.map Prod.snd).Nodup := by
  have hkeys : t.shorts.entries.map Prod.fst = t.entries.map Prod.snd := by
    rw [h.shorts, List.map_map]
    rfl
  rw [← hkeys]
  exact t.shorts.distinct

theorem isLong_of_word? {short word : String} (hw : t.word? short = some word) : t.isLong word :=
  h.long (short, word) (word?_eq_some_iff.mp hw)

/-- Every alias is the stem with a number. -/
theorem eq_stem_of_word? {short word : String} (hw : t.word? short = some word) :
    ∃ n : Nat, short = t.stem ++ toString n := by
  have hmem : short ∈ t.entries.map Prod.fst :=
    List.mem_map.mpr ⟨(short, word), word?_eq_some_iff.mp hw, rfl⟩
  rw [h.aliases, List.mem_map] at hmem
  obtain ⟨n, -, hn⟩ := hmem
  exact ⟨n, hn.symm⟩

/-- The next alias has a number that none has yet. -/
theorem nextAlias_not_mem : t.nextAlias ∉ t.words.keys := by
  intro hmem
  rw [show t.words.keys = _ from h.aliases, List.mem_map] at hmem
  obtain ⟨n, hn, hnumber⟩ := hmem
  rw [nextAlias, String.append_right_inj] at hnumber
  have hlast := (List.mem_range'_1.mp hn).2
  rw [Text.toString_injective hnumber] at hlast
  omega

/-- One more alias stands behind those that are there. -/
theorem entries_add (s : String) : (t.add s).entries = t.entries ++ [(t.nextAlias, s)] :=
  t.words.entries_insert_of_not_mem t.nextAlias s h.nextAlias_not_mem

theorem add {s : String} (hl : t.isLong s) (hs : t.alias? s = none) : (t.add s).Valid where
  aliases := by
    have hsize : (t.add s).size = t.size + 1 := by
      show (t.add s).entries.length = t.entries.length + 1
      rw [h.entries_add, List.length_append, List.length_singleton]
    rw [hsize, h.entries_add, List.map_append, h.aliases, List.range'_1_concat, List.map_append,
      Nat.add_comm 1]
    rfl
  shorts := by
    -- a word without an alias is no key of the map by word
    have hnew : s ∉ t.shorts.keys := by
      intro hmem
      obtain ⟨e, he, rfl⟩ := List.mem_map.mp hmem
      rw [show t.alias? e.1 = some e.2 from
        (OrderedMap.lookup_eq_some_iff t.shorts.distinct).mpr he] at hs
      cases hs
    rw [h.entries_add, List.map_append, ← h.shorts]
    exact t.shorts.entries_insert_of_not_mem s t.nextAlias hnew
  long := by
    intro e he
    rw [h.entries_add] at he
    rcases List.mem_append.mp he with he | he
    · exact h.long e he
    · rw [List.mem_singleton.mp he]
      exact hl

theorem shorten (s : String) : ((AliasTable.shorten s).run t).2.Valid := by
  rcases shorten_cases s t with hsame | ⟨hl, hs, hadd⟩
  · rw [hsame]
    exact h
  · rw [hadd]
    exact h.add hl hs

end Valid

theorem Grows.valid {t t' : AliasTable} (h : t.Grows t') (ht : t.Valid) : t'.Valid :=
  h.induction (fun _ s hu => hu.shorten s) ht

/-! ## Names under a table -/

/-- The name of a text under a table: its alias if it is a long word, and else the text. -/
def nameOf (t : AliasTable) (s : String) : String := ((shorten s).run t).1

/-- The table has an alias for the text if it needs one. -/
def Knows (t : AliasTable) (s : String) : Prop := ((shorten s).run t).2 = t

theorem knows_of_extends {t t' : AliasTable} {s : String}
    (h : ((shorten s).run t).2.Extends t') : t'.Knows s ∧ t'.nameOf s = t.nameOf s := by
  have hrun := (repeats_shorten s t).2 t' h
  unfold Knows nameOf
  rw [hrun]
  exact ⟨rfl, rfl⟩

theorem Knows.of_extends {t t' : AliasTable} {s : String} (hk : t.Knows s) (h : t.Extends t') :
    t'.Knows s ∧ t'.nameOf s = t.nameOf s := by
  apply knows_of_extends
  rw [hk]
  exact h

theorem nameOf_of_not_long {t : AliasTable} {s : String} (h : t.isLong s = false) :
    t.nameOf s = s := congrArg Prod.fst (run_shorten_of_not_long h)

theorem Knows.alias? {t : AliasTable} {s : String} (hk : t.Knows s) (hl : t.isLong s) :
    t.alias? s = some (t.nameOf s) := by
  cases hs : t.alias? s with
  | some short => rw [nameOf, run_shorten_of_known hl hs]
  | none =>
    -- the word would have been added
    have hself := (alias?_add t s s).trans (if_pos rfl)
    rw [Knows, run_shorten_of_new hl hs] at hk
    rw [show t.add s = t from hk, hs] at hself
    cases hself

/-- A name is the text itself or the stem with a number. -/
theorem Valid.nameOf_eq {t : AliasTable} (h : t.Valid) (s : String) :
    t.nameOf s = s ∨ ∃ n : Nat, t.nameOf s = t.stem ++ toString n := by
  cases hl : t.isLong s with
  | false => exact .inl (nameOf_of_not_long hl)
  | true =>
    refine .inr ?_
    unfold nameOf
    cases hs : t.alias? s with
    | none =>
      rw [run_shorten_of_new hl hs]
      exact ⟨t.size + 1, rfl⟩
    | some short =>
      rw [run_shorten_of_known hl hs]
      exact h.eq_stem_of_word? (h.word?_eq_some_iff_alias?.mpr hs)

def restoredName (t : AliasTable) (name : String) : String := (t.word? name).getD name

/-- A name is restored to the text behind it, unless the text itself is an alias. -/
theorem Valid.restoredName_nameOf {t : AliasTable} (h : t.Valid) {s : String} (hk : t.Knows s)
    (hs : t.isLong s = false → t.word? s = none) : t.restoredName (t.nameOf s) = s := by
  unfold restoredName
  by_cases hl : t.isLong s
  · rw [h.word?_eq_some_iff_alias?.mpr (hk.alias? hl), Option.getD_some]
  · rw [Bool.not_eq_true] at hl
    rw [nameOf_of_not_long hl, hs hl, Option.getD_none]

/-- Distinct texts that are restored from their names have distinct names. -/
theorem nodup_map_nameOf {t : AliasTable} {names : List String} (hnames : names.Nodup)
    (hback : ∀ s ∈ names, t.restoredName (t.nameOf s) = s) : (names.map t.nameOf).Nodup := by
  have hsame : (names.map t.nameOf).map t.restoredName = names := by
    rw [List.map_map]
    exact (List.map_congr_left hback).trans (List.map_id names)
  have hnodup : ((names.map t.nameOf).map t.restoredName).Nodup := by
    rw [hsame]
    exact hnames
  exact hnodup.of_map t.restoredName

end RownumSql.AliasTable
