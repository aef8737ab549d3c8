import Mathlib.Data.List.TakeWhile
import RownumSql.Proofs.ClientCalls
import RownumSql.Proofs.FromWord

/-!
# FROM between spaces

A text that begins with SELECT is meant to be left as it is if it has a FROM of its own.  Whether it
has is found by looking for FROM between two spaces in its trimmed small form.  So FROM at either
end of a line, or next to a tab, is not seen, and such a text is given a second FROM.

    addDual sql = sql ↔ ¬ beginsWithSelect sql ∨ HasSpacedFrom sql       (prepareSql_keeps_iff)

The text that a session gives to its client is the one that comes of this.
-/

namespace RownumSql.Text

/-! ## FROM between blanks of some kind -/

/-- Somewhere in the text FROM, in some letter case, stands between two spaces, and behind them
stands something. -/
def HasSpacedFrom (cs : List Char) : Prop := ∃ before word after,
  cs = before ++ ' ' :: (word ++ ' ' :: after) ∧ isFrom word = true ∧
    ∃ c ∈ after, isBlank c = false

/-- Somewhere in the text FROM, in some letter case, stands between two blanks, be they spaces, tabs
or line breaks. -/
def HasFrom (cs : List Char) : Prop := ∃ before x word y after,
  cs = before ++ x :: (word ++ y :: after) ∧ isBlank x = true ∧ isFrom word = true ∧
    isBlank y = true

/-! ## Trimmed texts -/

theorem dropBlank_append {xs : List Char} (h : ∃ c ∈ xs, isBlank c = false) (ys : List Char) :
    dropBlank (xs ++ ys) = dropBlank xs ++ ys := by
  have hne : (xs.dropWhile isBlank).isEmpty = false := by
    obtain ⟨c, hc, hblank⟩ := h
    rw [List.isEmpty_eq_false_iff, Ne, List.dropWhile_eq_nil_iff]
    intro hall
    rw [hall c hc] at hblank
    cases hblank
  rw [dropBlank, List.dropWhile_append, hne, if_neg Bool.false_ne_true, dropBlank]

/-- What stands between characters that are not blank stays when a text is trimmed. -/
theorem trimBlank_between {xs zs : List Char} (hxs : ∃ c ∈ xs, isBlank c = false)
    (hzs : ∃ c ∈ zs, isBlank c = false) (ys : List Char) :
    ∃ front back, trimBlank (xs ++ (ys ++ zs)) = front ++ (ys ++ back) := by
  obtain ⟨c, hc, hblank⟩ := hzs
  refine ⟨dropBlank xs, (dropBlank zs.reverse).reverse, ?_⟩
  rw [trimBlank, dropBlank_append hxs, ← List.append_assoc, List.reverse_append,
    dropBlank_append ⟨c, List.mem_reverse.mpr hc, hblank⟩, List.reverse_append,
    List.reverse_reverse, List.append_assoc]

/-- A trimmed text does not end with blanks. -/
theorem exists_of_trimBlank {cs front back : List Char} (h : trimBlank cs = front ++ back)
    (hne : back ≠ []) : ∃ c ∈ back, isBlank c = false := by
  have hlast := List.head?_dropWhile_not isBlank (dropBlank cs).reverse
  have htrim : (dropBlank (dropBlank cs).reverse) = back.reverse ++ front.reverse := by
    rw [← List.reverse_append, ← h, trimBlank, List.reverse_reverse]
  obtain ⟨c, rest, hback⟩ := List.exists_cons_of_ne_nil (List.reverse_ne_nil_iff.mpr hne)
  rw [← dropBlank, htrim, hback, List.cons_append, List.head?_cons] at hlast
  refine ⟨c, ?_, hlast⟩
  rw [← List.mem_reverse, hback]
  exact List.mem_cons_self

/-! ## The search -/

theorem isFrom_cons {word : List Char} (h : isFrom word = true) :
    ∃ c rest, word = c :: rest ∧ c.toLower = 'f' ∧ isBlank c = false := by
  obtain ⟨c, rest, rfl, hc, -⟩ := List.map_eq_cons_iff.mp (of_decide_eq_true h)
  refine ⟨c, rest, rfl, hc, ?_⟩
  rw [Bool.eq_false_iff]
  intro hblank
  obtain rfl := (toLower_of_isBlank hblank).symm.trans hc
  cases hblank

/-- A text that begins with SELECT has it in front of any FROM. -/
theorem exists_of_beginsWithSelect {before word after : List Char}
    (hselect : beginsWithSelect (before ++ ' ' :: (word ++ after)) = true)
    (hfrom : isFrom word = true) : ∃ c ∈ before, isBlank c = false := by
  by_contra hblank
  simp only [not_exists, not_and, Bool.not_eq_false] at hblank
  obtain ⟨c, rest, rfl, hf, hc⟩ := isFrom_cons hfrom
  have hfront : dropBlank (before ++ ' ' :: (c :: rest ++ after)) = c :: (rest ++ after) := by
    rw [dropBlank, List.dropWhile_append_of_pos hblank, List.dropWhile_cons_of_pos rfl,
      List.cons_append, List.dropWhile_cons_of_neg (by rw [hc]; exact Bool.false_ne_true)]
  rw [beginsWithSelect, hfront, decide_eq_true_iff, List.take_succ_cons, List.map_cons, hf]
    at hselect
  cases (List.cons.inj hselect).1

/-- What is found between two spaces of the small form stands between two spaces of the text. -/
theorem containsText_from_iff {cs : List Char} (hselect : beginsWithSelect cs = true) :
    containsText " from ".toList (lowerChars (trimBlank cs)) = true ↔ HasSpacedFrom cs := by
  constructor
  · intro h
    obtain ⟨before, word, after, htrim, hfrom⟩ := exists_from_of_containsText h
    obtain ⟨a, b, hcs⟩ := trimBlank_infix cs
    have hback : trimBlank cs = (before ++ ' ' :: word) ++ ' ' :: after := by
      rw [htrim, List.append_assoc, List.cons_append]
    obtain ⟨c, hc, hblank⟩ := exists_of_trimBlank hback (List.cons_ne_nil _ _)
    obtain rfl | hc := List.mem_cons.mp hc
    · cases hblank
    refine ⟨a ++ before, word, after ++ b, ?_, hfrom, c, List.mem_append_left b hc, hblank⟩
    rw [← hcs, htrim]
    simp only [List.append_assoc, List.cons_append]
  · rintro ⟨before, word, after, rfl, hfrom, hafter⟩
    have hbefore := exists_of_beginsWithSelect hselect hfrom
    have hshape : before ++ ' ' :: (word ++ ' ' :: after)
        = before ++ (' ' :: (word ++ [' ']) ++ after) := by simp
    have hsmall : (' ' :: (word ++ [' '])).map Char.toLower = " from ".toList := by
      rw [List.map_cons, List.map_append, of_decide_eq_true hfrom]
      rfl
    have hascii : (' ' :: (word ++ [' '])).all (·.toNat < 0x80) := by
      rw [List.all_eq_true]
      intro c hc
      have hlower : c.toLower ∈ " from ".toList := hsmall ▸ List.mem_map_of_mem hc
      exact decide_eq_true (toNat_lt_of_toLower (steady_from _ hlower).2.1)
    obtain ⟨front, back, htrim⟩ := trimBlank_between hbefore hafter (' ' :: (word ++ [' ']))
    obtain ⟨small, inWord, hfront⟩ :=
      lowerCharsFrom_append false front (' ' :: (word ++ [' ']) ++ back)
    obtain ⟨inWord', hword⟩ := lowerCharsFrom_ascii hascii inWord back
    rw [containsText_iff, hshape, htrim, lowerChars, hfront, hword, hsmall]
    exact ⟨small, lowerCharsFrom inWord' back, List.append_assoc _ _ _⟩

end RownumSql.Text

namespace RownumSql

open RownumSql.Text

theorem Dialect.addDual_eq_self_iff (sql : String) : addDual sql = sql ↔
    beginsWithSelect sql.toList = false ∨ HasSpacedFrom sql.toList := by
  have hadded : sql ++ " FROM DUAL" ≠ sql := by
    intro h
    have hlength := congrArg String.length h
    rw [String.length_append] at hlength
    change sql.length + 10 = sql.length at hlength
    omega
  unfold addDual
  dsimp only
  rw [isPrefixOf_select]
  cases hselect : beginsWithSelect sql.toList with
  | false => exact iff_of_true rfl (.inl rfl)
  | true =>
    rw [← containsText_from_iff hselect]
    cases containsText " from ".toList (lowerChars (trimBlank sql.toList)) with
    | true => exact iff_of_true rfl (.inr rfl)
    | false => exact iff_of_false hadded (by simp)

/-- **A text is left as it is if it reads from something behind FROM between two spaces.**  A text
that begins with SELECT and has none gets ` FROM DUAL` behind it, also where it has FROM between
other blanks, and what a session prepares is the text that comes of this. -/
theorem prepareSql_keeps_iff (s : Session Scripted.Script) (log : List Scripted.Call)
    (sql : String) :
    ((s.prepareSql sql : Scripted.Logged _).run log).2 = log ++ [.prepare (Dialect.addDual sql)] ∧
    (Dialect.addDual sql = sql ↔ beginsWithSelect sql.toList = false ∨ HasSpacedFrom sql.toList) ∧
    (Dialect.addDual sql = sql ∨ Dialect.addDual sql = sql ++ " FROM DUAL") :=
  ⟨rfl, Dialect.addDual_eq_self_iff sql, Dialect.addDual_cases sql⟩

/-- FROM at the beginning of a line is given another. -/
theorem addDual_from_lineBreak : HasFrom "SELECT id\nFROM t".toList ∧
    Dialect.addDual "SELECT id\nFROM t" = "SELECT id\nFROM t FROM DUAL" := by
  constructor
  · exact ⟨"SELECT id".toList, '\n', "FROM".toList, ' ', "t".toList, rfl, rfl, rfl, rfl⟩
  · decide +kernel

end RownumSql
