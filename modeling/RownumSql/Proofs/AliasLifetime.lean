import RownumSql.Proofs.AliasHistory

/-!
# A table of aliases over its lifetime

A session shortens identifiers with its table and may clear it at any time.  Whatever it has done
before, the two maps of the table are in step and make it a bijection between aliases and long
words, its aliases are numbered in the order in which they were made, and from then on it only grows
until it is cleared: an identifier keeps the text that it was given first.

    t.Valid → t.InStep                                                            (Valid.inStep)
    t.Valid → a shortening adds the alias that it gives, if it is new           (Valid.shortens)
    shorten s, then any words, then s again: the same text for s               (edits_bijection)
-/

namespace RownumSql.AliasTable

/-! ## Words by their characters -/

theorem isAlphanumeric_eq (c : Char) : isAlphanumeric c = c.isAlphanum := by
  rw [Bool.eq_iff_iff]
  unfold isAlphanumeric Char.isAlphanum Char.isAlpha Char.isUpper Char.isLower Char.isDigit
  simp only [Bool.or_eq_true, Bool.and_eq_true, decide_eq_true_eq, Char.le_def]
  tauto

/-- A character of a word: an ASCII letter or digit, an underscore or a hyphen. -/
theorem isWordChar_iff (c : Char) : isWordChar c ↔ c.isAlphanum ∨ c = '_' ∨ c = '-' := by
  unfold isWordChar
  rw [isAlphanumeric_eq]
  simp only [Bool.or_eq_true, decide_eq_true_eq, or_assoc]

theorem isLong_iff (t : AliasTable) (s : String) :
    t.isLong s ↔ s ≠ "" ∧ (∀ c ∈ s.toList, c.isAlphanum ∨ c = '_' ∨ c = '-') ∧
      t.maxLength < s.length := by
  have hempty : s.toList.isEmpty = false ↔ s ≠ "" := by
    rw [List.isEmpty_eq_false_iff, ne_eq, String.toList_eq_nil_iff]
  unfold isLong isWord
  rw [Bool.and_eq_true, Bool.and_eq_true, Bool.not_eq_true', hempty, List.all_eq_true,
    decide_eq_true_eq, and_assoc]
  simp only [isWordChar_iff]

/-! ## Edits of a table -/

/-- What a session does with its table. -/
inductive Edit where
  | shorten (s : String)
  | clear

def edit (t : AliasTable) : Edit → AliasTable
  | .shorten s => ((AliasTable.shorten s).run t).2
  | .clear => t.clear

/-- The table after edits one after another. -/
def edits (history : List Edit) (t : AliasTable) : AliasTable := history.foldl edit t

/-- The limit and the stem stay what they are, and the table stays valid. -/
theorem edit_keeps (t : AliasTable) (c : Edit) (h : t.Valid) :
    (t.edit c).Valid ∧ (t.edit c).maxLength = t.maxLength ∧ (t.edit c).stem = t.stem := by
  cases c with
  | shorten s =>
    have hgrows := grows_shorten t s
    exact ⟨h.shorten s, hgrows.extends.maxLength, hgrows.stem⟩
  | clear => exact ⟨valid_empty t.maxLength t.stem, rfl, rfl⟩

theorem edits_keep (history : List Edit) (t : AliasTable) (h : t.Valid) :
    (edits history t).Valid ∧ (edits history t).maxLength = t.maxLength ∧
      (edits history t).stem = t.stem := by
  induction history generalizing t with
  | nil => exact ⟨h, rfl, rfl⟩
  | cons c rest ih =>
    obtain ⟨hvalid, hmax, hstem⟩ := edit_keeps t c h
    obtain ⟨hvalid', hmax', hstem'⟩ := ih (t.edit c) hvalid
    exact ⟨hvalid', hmax'.trans hmax, hstem'.trans hstem⟩

/-! ## Both maps -/

/-- The map by alias and the map by word undo each other and have as many entries. -/
structure InStep (t : AliasTable) : Prop where
  inverse : ∀ short word, t.word? short = some word ↔ t.alias? word = some short
  size : t.words.size = t.shorts.size

theorem Valid.inStep {t : AliasTable} (h : t.Valid) : t.InStep where
  inverse _ _ := h.word?_eq_some_iff_alias?
  size := by rw [OrderedMap.size, OrderedMap.size, h.shorts, List.length_map]; rfl

/-- The `i`-th alias, counted from one on, has the number `i`. -/
theorem Valid.alias_getElem {t : AliasTable} (h : t.Valid) (i : Nat) (hi : i < t.entries.length) :
    t.entries[i].1 = t.stem ++ toString (i + 1) := by
  have haliases := congrArg (fun names => names[i]?) h.aliases
  have hi' : i < t.size := hi
  simp only [List.getElem?_map, List.getElem?_eq_getElem hi, List.getElem?_range' hi',
    Option.map_some, Option.some.injEq] at haliases
  rw [haliases, Nat.one_mul, Nat.add_comm]

/-! ## Growth -/

/-- What shortening `s` with the table comes to. -/
structure Shortens (t : AliasTable) (s : String) (r : String × AliasTable) : Prop where
  /-- A text that is no long word stays as it is. -/
  short : t.isLong s = false → r = (s, t)
  /-- A word that has an alias is given that, and nothing is added. -/
  known : ∀ name, t.isLong s → t.alias? s = some name → r = (name, t)
  /-- Any other word is given the next alias, the one thing that is added. -/
  fresh : t.isLong s → t.alias? s = none →
    r.1 = t.stem ++ toString (t.size + 1) ∧ r.2.entries = t.entries ++ [(r.1, s)]
  /-- From then on each of the two is found by the other. -/
  found : t.isLong s → r.2.alias? s = some r.1 ∧ r.2.word? r.1 = some s

theorem Valid.shortens {t : AliasTable} (h : t.Valid) (s : String) :
    t.Shortens s ((AliasTable.shorten s).run t) where
  short := run_shorten_of_not_long
  known _ hl hs := run_shorten_of_known hl hs
  fresh hl hs := by
    rw [run_shorten_of_new hl hs]
    exact ⟨rfl, h.entries_add s⟩
  found hl := by
    cases hs : t.alias? s with
    | some short =>
      rw [run_shorten_of_known hl hs]
      exact ⟨hs, h.word?_eq_some_iff_alias?.mpr hs⟩
    | none =>
      rw [run_shorten_of_new hl hs]
      have hword := t.words.get?_insert t.nextAlias s t.nextAlias
      exact ⟨(alias?_add t s s).trans (if_pos rfl), hword.trans (if_pos rfl)⟩

theorem Grows.entries {t t' : AliasTable} (h : t.Grows t') (ht : t.Valid) :
    t.entries <+: t'.entries := by
  have hkept : t'.Valid ∧ t.entries <+: t'.entries := by
    refine h.induction (P := fun u => u.Valid ∧ t.entries <+: u.entries) ?_
      ⟨ht, List.prefix_refl _⟩
    rintro u s ⟨hu, hprefix⟩
    refine ⟨hu.shorten s, hprefix.trans ?_⟩
    rcases shorten_cases s u with hsame | ⟨-, -, hadd⟩
    · simp only [hsame, List.prefix_rfl]
    · rw [hadd, hu.entries_add]
      exact List.prefix_append _ _
  exact hkept.2

/-- **A table is a bijection that only grows.**  Whatever a session has shortened and cleared
before, the two maps of its table are in step, so that the aliases and the words behind them
determine each other; the aliases carry the numbers from one on in the order in which they were
made, and the words are distinct and too long.  From there on a shortening adds the alias that it
gives if the word has none yet, and nothing else; any number of them leave the aliases that are
there in place, and shortening the same identifier again gives the same and adds nothing. -/
theorem edits_bijection (maxLength : Nat) (stem : String) (history : List Edit) :
    let t := edits history { maxLength, stem }
    t.InStep ∧
    (∀ (i : Nat) (hi : i < t.entries.length), t.entries[i].1 = stem ++ toString (i + 1)) ∧
    (∀ e ∈ t.entries, e.2 ≠ "" ∧ (∀ c ∈ e.2.toList, c.isAlphanum ∨ c = '_' ∨ c = '-') ∧
      maxLength < e.2.length) ∧
    (t.entries.map Prod.snd).Nodup ∧
    ∀ (s : String) (words : List String),
      let first := (shorten s).run t
      let later := first.2.shortenAll words
      t.Shortens s first ∧
      first.2.entries <+: later.entries ∧
      (shorten s).run later = (first.1, later) := by
  intro t
  obtain ⟨hvalid, hmax, hstem⟩ := edits_keep history { maxLength, stem }
    (valid_empty maxLength stem)
  refine ⟨hvalid.inStep, ?_, ?_, hvalid.nodup_words, ?_⟩
  · intro i hi
    rw [hvalid.alias_getElem i hi, hstem]
  · intro e he
    have hlong := (isLong_iff _ e.2).mp (hvalid.long e he)
    rw [hmax] at hlong
    exact hlong
  · intro s words first later
    have hgrows : first.2.Grows later := ⟨words, rfl⟩
    exact ⟨hvalid.shortens s, hgrows.entries (hvalid.shorten s),
      (repeats_shorten s t).2 later hgrows.extends⟩

/-- The aliases are numbered from one on again after the table was cleared. -/
example : (edits [.shorten "abcde", .clear, .shorten "abcd", .shorten "fghij"]
    { maxLength := 4, stem := "AL" }).entries = [("AL1", "fghij")] := by
  decide +kernel

end RownumSql.AliasTable
