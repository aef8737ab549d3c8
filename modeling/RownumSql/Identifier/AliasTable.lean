import RownumSql.Value

/-!
# Aliases of long identifiers

A server accepts identifiers up to a length.  A longer word is replaced by an alias, which is made
when the word is first met and stays with it; a table keeps the aliases so that fetched rows can be
given their own field names back.  It keeps them twice: by alias, in the order in which they were
made, and by word.

* `shorten_cases`: shortening leaves the table alone or adds one alias
-/

namespace RownumSql

/-- The aliases given out so far, in two maps that are looked up on their own. -/
structure AliasTable where
  /-- Words up to this length are left alone. -/
  maxLength : Nat := 30
  /-- What an alias begins with, in front of its number. -/
  stem : String := "XXAUTO_SHORTENED_ID"
  /-- The word behind each alias, in the order in which the aliases were made. -/
  words : OrderedMap String := ∅
  /-- The alias of each word; their order is not used. -/
  shorts : OrderedMap String := ∅
deriving DecidableEq

namespace AliasTable

instance : Inhabited AliasTable := ⟨{}⟩

/-! ## Words -/

/-- An ASCII letter or digit. -/
def isAlphanumeric (c : Char) : Bool :=
  ('a' ≤ c && c ≤ 'z') || ('A' ≤ c && c ≤ 'Z') || ('0' ≤ c && c ≤ '9')

/-- A character of a word: an ASCII letter or digit, an underscore or a hyphen. -/
def isWordChar (c : Char) : Bool := isAlphanumeric c || c = '_' || c = '-'

/-- Whether the text is a word; all else is an expression and has no alias. -/
def isWord (s : String) : Bool := !s.toList.isEmpty && s.toList.all isWordChar

/-- Whether the text is a word beyond the greatest length. -/
def isLong (t : AliasTable) (s : String) : Bool := isWord s && t.maxLength < s.length

/-! ## Looking up -/

/-- The alias of a word. -/
def alias? (t : AliasTable) (word : String) : Option String := t.shorts.get? word

/-- The word behind an alias. -/
def word? (t : AliasTable) (short : String) : Option String := t.words.get? short

/-- The aliases with the words behind them, in the order in which they were made. -/
def entries (t : AliasTable) : List (String × String) := t.words.entries

def size (t : AliasTable) : Nat := t.words.size

/-! ## Shortening -/

def nextAlias (t : AliasTable) : String := t.stem ++ toString (t.size + 1)

/-- The table with an alias for one more word, put into both maps. -/
def add (t : AliasTable) (word : String) : AliasTable :=
  { t with
    words := t.words.insert t.nextAlias word
    shorts := t.shorts.insert word t.nextAlias }

/-- The text itself if it is not a long word, and the alias of the word otherwise. -/
def shorten (s : String) : StateM AliasTable String := fun t =>
  if !t.isLong s then (s, t)
  else match t.alias? s with
    | some short => (short, t)
    | none => (t.nextAlias, t.add s)

/-- The table without its aliases: both maps are emptied. -/
def clear (t : AliasTable) : AliasTable := { t with words := ∅, shorts := ∅ }

section shorten
variable {t : AliasTable} {s : String}

theorem run_shorten_of_not_long (hl : t.isLong s = false) : (shorten s).run t = (s, t) := by
  simp [StateT.run, shorten, hl]

theorem run_shorten_of_known (hl : t.isLong s) {short : String} (hs : t.alias? s = some short) :
    (shorten s).run t = (short, t) := by
  simp [StateT.run, shorten, hl, hs]

theorem run_shorten_of_new (hl : t.isLong s) (hs : t.alias? s = none) :
    (shorten s).run t = (t.nextAlias, t.add s) := by
  simp [StateT.run, shorten, hl, hs]

/-- A shortening leaves the table as it is, or adds an alias for a long word that has none. -/
theorem shorten_cases (s : String) (t : AliasTable) : ((shorten s).run t).2 = t ∨
    t.isLong s ∧ t.alias? s = none ∧ ((shorten s).run t).2 = t.add s := by
  cases hl : t.isLong s with
  | false => exact .inl (congrArg Prod.snd (run_shorten_of_not_long hl))
  | true =>
    cases hs : t.alias? s with
    | some short => exact .inl (congrArg Prod.snd (run_shorten_of_known hl hs))
    | none => exact .inr ⟨rfl, rfl, congrArg Prod.snd (run_shorten_of_new hl hs)⟩

end shorten

/-! ## Rows -/

/-- The row with every alias among its field names replaced by the word behind it. -/
def restore (t : AliasTable) (row : Row) : Row :=
  if t.words.isEmpty then row
  else OrderedMap.ofList (row.entries.map fun e => ((t.word? e.1).getD e.1, e.2))

end AliasTable

end RownumSql
