import Mathlib.Data.Bool.AllAny
import RownumSql.Dialect
import RownumSql.Proofs.SmallForms

/-!
# The word FROM in a text

A selection is made to read from `DUAL` unless its small form has FROM between blanks (`addDual`);
it is one if it begins with SELECT in some letter case (`isPrefixOf_select`).  So a text that begins
with SELECT and in which FROM is no word is given its ` FROM DUAL` (`addDual_of_select`).

Words end at blanks and at the marks that SQL has around names, so the words of a text that is put
together with such marks are those of its parts (`mentionsFrom_append_cons`).
-/

namespace RownumSql.Text

/-- A blank, or a mark that stands around names. -/
def isMark (c : Char) : Bool := c ∈ " \".,():".toList

/-- The word FROM, in whatever letter case. -/
def isFrom (word : List Char) : Bool := word.map Char.toLower = "from".toList

/-- Whether FROM is one of the words of the text. -/
def mentionsFrom (cs : List Char) : Bool := (cs.splitOnP isMark).any isFrom

/-! ## Texts put together -/

@[simp] theorem mentionsFrom_nil : mentionsFrom [] = false := rfl

/-- A mark parts the words before it from the words behind it. -/
theorem mentionsFrom_append_cons {x : Char} (hx : isMark x) (a b : List Char) :
    mentionsFrom (a ++ x :: b) = (mentionsFrom a || mentionsFrom b) := by
  unfold mentionsFrom
  rw [List.splitOnP_append_cons a b hx, List.any_append]

/-- A text without marks is one word. -/
theorem mentionsFrom_of_word {word : List Char} (h : ∀ c ∈ word, isMark c = false) :
    mentionsFrom word = isFrom word := by
  rw [mentionsFrom, List.splitOnP_eq_singleton h, List.any_cons, List.any_nil, Bool.or_false]

/-- A character that is no mark belongs to the last word. -/
theorem splitOnP_concat {x : Char} (hx : isMark x = false) (cs : List Char) : ∃ words last,
    cs.splitOnP isMark = words ++ [last] ∧
      (cs ++ [x]).splitOnP isMark = words ++ [last ++ [x]] := by
  induction cs with
  | nil =>
    refine ⟨[], [], rfl, ?_⟩
    exact List.splitOnP_eq_singleton fun y hy => List.mem_singleton.mp hy ▸ hx
  | cons c cs ih =>
    obtain ⟨words, last, hcs, hall⟩ := ih
    rw [List.cons_append, List.splitOnP_cons_eq_if_modifyHead, List.splitOnP_cons_eq_if_modifyHead,
      hcs, hall]
    by_cases hc : isMark c = true
    · rw [if_pos hc, if_pos hc]
      exact ⟨[] :: words, last, rfl, rfl⟩
    · rw [if_neg hc, if_neg hc]
      cases words with
      | nil => exact ⟨[], c :: last, rfl, rfl⟩
      | cons word words => exact ⟨(c :: word) :: words, last, rfl, rfl⟩

theorem isMark_of_isDigit {x : Char} (h : x.isDigit) : isMark x = false := by
  rw [isMark, decide_eq_false_iff_not]
  intro hmark
  have hmarks : (" \".,():".toList.all fun c => !c.isDigit) = true := by decide
  have hx := List.all_eq_true.mp hmarks x hmark
  rw [h] at hx
  cases hx

theorem not_mem_from_of_isDigit {x : Char} (h : x.isDigit) : x ∉ "from".toList := by
  intro hletter
  have hletters : ("from".toList.all fun c => !c.isDigit) = true := by decide
  have hx := List.all_eq_true.mp hletters x hletter
  rw [h] at hx
  cases hx

/-- Digits behind a text do not make FROM of its last word. -/
theorem mentionsFrom_append_digits {digits : List Char} (hdigits : ∀ c ∈ digits, c.isDigit)
    {cs : List Char} (h : mentionsFrom cs = false) : mentionsFrom (cs ++ digits) = false := by
  induction digits generalizing cs with
  | nil =>
    rw [List.append_nil]
    exact h
  | cons x digits ih =>
    obtain ⟨hx, hdigits⟩ := List.forall_mem_cons.mp hdigits
    obtain ⟨words, last, hcs, hall⟩ := splitOnP_concat (isMark_of_isDigit hx) cs
    have hlast : isFrom (last ++ [x]) = false := by
      rw [isFrom, decide_eq_false_iff_not]
      intro hfrom
      have hmem : x.toLower ∈ (last ++ [x]).map Char.toLower :=
        List.mem_map_of_mem (List.mem_append_right last List.mem_cons_self)
      rw [hfrom, toLower_of_isDigit hx] at hmem
      exact not_mem_from_of_isDigit hx hmem
    have hfirst : mentionsFrom (cs ++ [x]) = false := by
      rw [mentionsFrom, hcs, List.any_append, Bool.or_eq_false_iff] at h
      rw [mentionsFrom, hall, List.any_append, h.1, List.any_cons, hlast]
      rfl
    rw [List.append_cons]
    exact ih hdigits hfirst

theorem mentionsFrom_append_toString {cs : List Char} (n : Nat) (h : mentionsFrom cs = false) :
    mentionsFrom (cs ++ (toString n).toList) = false :=
  mentionsFrom_append_digits (fun _ hc => isDigit_of_mem_toString hc) h

theorem doubled_of_not_mem {cs : List Char} (h : '"' ∉ cs) : doubled '"' cs = cs := by
  induction cs with
  | nil => rfl
  | cons c cs ih =>
    rw [List.mem_cons, not_or] at h
    rw [doubled_cons, if_neg (Ne.symm h.1), ih h.2]
    rfl

/-- Between two marks stands no word. -/
theorem mentionsFrom_doubled (cs : List Char) :
    mentionsFrom (doubled '"' cs) = mentionsFrom cs := by
  by_cases hmem : '"' ∈ cs
  · obtain ⟨a, b, rfl, ha⟩ := List.eq_append_cons_of_mem hmem
    have ih := mentionsFrom_doubled b
    have hdoubled : doubled '"' (a ++ '"' :: b) = a ++ '"' :: ([] ++ '"' :: doubled '"' b) := by
      rw [doubled_append, doubled_cons, if_pos rfl, doubled_of_not_mem ha]
      rfl
    rw [hdoubled, mentionsFrom_append_cons rfl, mentionsFrom_append_cons rfl,
      mentionsFrom_append_cons rfl, ih, mentionsFrom_nil, Bool.false_or]
  · rw [doubled_of_not_mem hmem]
termination_by cs.length
decreasing_by
  simp only [*, List.length_append, List.length_cons]
  omega

theorem mentionsFrom_quoted (s : String) :
    mentionsFrom (quoted '"' s).toList = mentionsFrom s.toList := by
  have hquoted : (quoted '"' s).toList = [] ++ '"' :: (doubled '"' s.toList ++ '"' :: []) := by
    rw [quoted, String.toList_ofList]
    rfl
  rw [hquoted, mentionsFrom_append_cons rfl, mentionsFrom_append_cons rfl, mentionsFrom_doubled,
    mentionsFrom_nil, Bool.false_or, Bool.or_false]

/-! ## Separators -/

/-- Between any two texts the separator adds no word that is FROM, and makes none of theirs. -/
def Separates (separator : List Char) : Prop :=
  ∀ a b, mentionsFrom (a ++ (separator ++ b)) = (mentionsFrom a || mentionsFrom b)

theorem separates_mark {x : Char} (hx : isMark x) : Separates [x] :=
  fun a b => mentionsFrom_append_cons hx a b

/-- A text between two marks separates unless it mentions FROM. -/
theorem separates_between {x y : Char} {m : List Char} (hx : isMark x) (hy : isMark y)
    (h : mentionsFrom m = false) : Separates (x :: (m ++ [y])) := by
  intro a b
  have hshape : x :: (m ++ [y]) ++ b = x :: (m ++ y :: b) := by simp
  rw [hshape, mentionsFrom_append_cons hx, mentionsFrom_append_cons hy, h, Bool.false_or]

theorem mentionsFrom_intercalate {separator : String} (hsep : Separates separator.toList)
    {texts : List String} (h : ∀ text ∈ texts, mentionsFrom text.toList = false) :
    mentionsFrom (separator.intercalate texts).toList = false := by
  induction texts with
  | nil => rfl
  | cons first rest ih =>
    obtain ⟨hfirst, hrest⟩ := List.forall_mem_cons.mp h
    cases rest with
    | nil =>
      rw [String.intercalate_singleton]
      exact hfirst
    | cons second rest =>
      rw [String.intercalate_cons_cons, String.toList_append, String.toList_append,
        List.append_assoc, hsep, hfirst, ih hrest]
      rfl

/-- The texts between two marks mention FROM only if the whole does. -/
theorem mentionsFrom_splitOn {x : Char} (hx : isMark x) {cs : List Char}
    (h : mentionsFrom cs = false) : ∀ word ∈ cs.splitOn x, mentionsFrom word = false := by
  by_cases hmem : x ∈ cs
  · obtain ⟨a, b, rfl, ha⟩ := List.eq_append_cons_of_mem hmem
    rw [mentionsFrom_append_cons hx, Bool.or_eq_false_iff] at h
    have ih := mentionsFrom_splitOn hx h.2
    rw [List.splitOn_append_cons_self_of_not_mem ha]
    exact List.forall_mem_cons.mpr ⟨h.1, ih⟩
  · rw [List.splitOn_eq_singleton hmem]
    exact List.forall_mem_singleton.mpr h
termination_by cs.length
decreasing_by
  simp only [*, List.length_append, List.length_cons]
  omega

/-! ## FROM between blanks -/

theorem containsText_iff {part cs : List Char} : containsText part cs = true ↔ part <:+: cs := by
  induction cs with
  | nil => rw [containsText, List.isEmpty_iff, List.infix_nil]
  | cons c cs ih =>
    rw [containsText, Bool.or_eq_true, List.isPrefixOf_iff_prefix, ih, List.infix_cons_iff]

theorem steady_from : ∀ x ∈ " from ".toList, Steady x :=
  List.all_iff_forall_prop.mp (by decide)

/-- What has FROM between blanks as its small form is FROM between blanks. -/
theorem eq_from_of_toLower {w : List Char} (h : w.map Char.toLower = " from ".toList) :
    ∃ word, w = ' ' :: (word ++ [' ']) ∧ isFrom word = true := by
  obtain ⟨first, rest, rfl, hfirst, hrest⟩ := List.map_eq_cons_iff.mp h
  have hsplit : rest.map Char.toLower = "from".toList ++ [' '] := hrest
  obtain ⟨word, last, rfl, hword, hlast⟩ := List.map_eq_append_iff.mp hsplit
  obtain ⟨blank, rest, rfl, hblank, hnil⟩ := List.map_eq_cons_iff.mp hlast
  obtain rfl := List.map_eq_nil_iff.mp hnil
  obtain rfl := eq_blank_of_toLower hfirst
  obtain rfl := eq_blank_of_toLower hblank
  exact ⟨word, rfl, decide_eq_true hword⟩

theorem isMark_of_toLower {c : Char} (h : c.toLower ∈ "from".toList) : isMark c = false := by
  rw [isMark, decide_eq_false_iff_not]
  intro hmark
  have hmarks : (" \".,():".toList.all fun c => decide (c.toLower ∉ "from".toList)) = true := by
    decide
  exact of_decide_eq_true (List.all_eq_true.mp hmarks c hmark) h

/-- A text with FROM between blanks mentions it. -/
theorem mentionsFrom_of_between {before word after : List Char} (h : isFrom word = true) :
    mentionsFrom (before ++ ' ' :: (word ++ ' ' :: after)) = true := by
  have hmarks : ∀ c ∈ word, isMark c = false := by
    intro c hc
    have hlower : c.toLower ∈ word.map Char.toLower := List.mem_map_of_mem hc
    rw [of_decide_eq_true h] at hlower
    exact isMark_of_toLower hlower
  rw [mentionsFrom_append_cons rfl, mentionsFrom_append_cons rfl, mentionsFrom_of_word hmarks, h,
    Bool.true_or, Bool.or_true]

theorem trimBlank_isPrefix (cs : List Char) : trimBlank cs <+: dropBlank cs := by
  rw [← List.reverse_suffix, trimBlank, List.reverse_reverse]
  exact List.dropWhile_suffix _

theorem trimBlank_infix (cs : List Char) : trimBlank cs <:+: cs :=
  (trimBlank_isPrefix cs).isInfix.trans (List.dropWhile_suffix _).isInfix

/-- FROM between blanks in the trimmed small form of a text stands between blanks in the trimmed
text, in some letter case. -/
theorem exists_from_of_containsText {cs : List Char}
    (h : containsText " from ".toList (lowerChars (trimBlank cs)) = true) :
    ∃ before word after, trimBlank cs = before ++ ' ' :: (word ++ ' ' :: after) ∧
      isFrom word = true := by
  obtain ⟨before, w, after, htrim, hw⟩ :=
    exists_of_infix_lowerCharsFrom steady_from (containsText_iff.mp h)
  obtain ⟨word, rfl, hfrom⟩ := eq_from_of_toLower hw
  refine ⟨before, word, after, ?_, hfrom⟩
  rw [htrim, List.cons_append, List.append_assoc, List.singleton_append]

/-- What does not mention FROM has no FROM between blanks, in whatever letter case. -/
theorem not_containsText_from {cs : List Char} (h : mentionsFrom cs = false) :
    containsText " from ".toList (lowerChars (trimBlank cs)) = false := by
  rw [Bool.eq_false_iff]
  intro hcontains
  obtain ⟨before, word, after, htrim, hfrom⟩ := exists_from_of_containsText hcontains
  obtain ⟨a, b, hcs⟩ := trimBlank_infix cs
  have heq : cs = (a ++ before) ++ ' ' :: (word ++ ' ' :: (after ++ b)) := by
    rw [← hcs, htrim]
    simp only [List.append_assoc, List.cons_append]
  rw [heq, mentionsFrom_of_between hfrom] at h
  cases h

/-! ## SELECT in front of a text -/

/-- The text begins with SELECT in some letter case, apart from blanks in front of it. -/
def beginsWithSelect (cs : List Char) : Bool :=
  ((dropBlank cs).take 6).map Char.toLower = "select".toList

/-- A word in front of a text stays when the blanks at its end are dropped. -/
theorem trimBlank_of_word {cs word rest : List Char} (hcs : dropBlank cs = word ++ rest)
    (hne : word ≠ []) (hword : ∀ c ∈ word, isBlank c = false) : word <+: trimBlank cs := by
  rw [trimBlank, hcs, List.reverse_append, dropBlank, List.dropWhile_append]
  split
  · obtain ⟨last, front, hfront⟩ := List.exists_cons_of_ne_nil (List.reverse_ne_nil_iff.mpr hne)
    have hlast : isBlank last = false := by
      apply hword
      rw [← List.mem_reverse, hfront]
      exact List.mem_cons_self
    have hkept : word.reverse.dropWhile isBlank = word.reverse := by
      rw [hfront, List.dropWhile_cons_of_neg (by rw [hlast]; exact Bool.false_ne_true)]
    refine ⟨[], ?_⟩
    rw [hkept, List.reverse_reverse, List.append_nil]
  · rw [List.reverse_append, List.reverse_reverse]
    exact List.prefix_append _ _

theorem isPrefixOf_select (cs : List Char) :
    "select".toList.isPrefixOf (lowerChars (trimBlank cs)) = beginsWithSelect cs := by
  have hsteady : ∀ x ∈ "select".toList, Steady x := List.all_iff_forall_prop.mp (by decide)
  have hblanks : ∀ x ∈ "select".toList, isBlank x = false :=
    List.all_iff_forall_prop.mp (by decide)
  rw [Bool.eq_iff_iff, List.isPrefixOf_iff_prefix, beginsWithSelect, decide_eq_true_iff]
  constructor
  · intro h
    obtain ⟨w, rest, htrim, hw⟩ := exists_of_prefix_lowerCharsFrom hsteady h
    obtain ⟨b, hb⟩ := trimBlank_isPrefix cs
    have hlength : w.length = 6 := by
      rw [← List.length_map Char.toLower, hw]
      rfl
    rw [← hb, htrim, List.append_assoc, ← hlength, List.take_left, hw]
  · intro h
    have hlower : ∀ c ∈ (dropBlank cs).take 6, c.toLower ∈ "select".toList :=
      fun c hc => h ▸ List.mem_map_of_mem hc
    have hword : ∀ c ∈ (dropBlank cs).take 6, isBlank c = false := by
      intro c hc
      rw [Bool.eq_false_iff]
      intro hblank
      have hletter := hlower c hc
      rw [toLower_of_isBlank hblank] at hletter
      rw [hblanks c hletter] at hblank
      cases hblank
    have hascii : ((dropBlank cs).take 6).all (·.toNat < 0x80) := by
      rw [List.all_eq_true]
      intro c hc
      exact decide_eq_true (toNat_lt_of_toLower (hsteady _ (hlower c hc)).2.1)
    have hne : (dropBlank cs).take 6 ≠ [] := by
      intro hnil
      rw [hnil] at h
      cases h
    obtain ⟨rest, hrest⟩ := trimBlank_of_word (List.take_append_drop 6 _).symm hne hword
    obtain ⟨inWord, hsmall⟩ := lowerCharsFrom_ascii hascii false rest
    rw [← hrest, lowerChars, hsmall, h]
    exact List.prefix_append _ _

end RownumSql.Text

namespace RownumSql.Dialect

open RownumSql.Text

/-! ## Statements that read from DUAL -/

theorem addDual_cases (sql : String) : addDual sql = sql ∨ addDual sql = sql ++ " FROM DUAL" := by
  unfold addDual
  dsimp only
  split
  · exact .inl rfl
  · exact .inr rfl

/-- A text that begins with SELECT and does not mention FROM gets its FROM behind it. -/
theorem addDual_of_select {sql : String} {rest : List Char}
    (hselect : sql.toList = "SELECT".toList ++ rest) (h : mentionsFrom sql.toList = false) :
    addDual sql = sql ++ " FROM DUAL" := by
  have hbegins : beginsWithSelect sql.toList = true := by
    have hfront : dropBlank ("SELECT".toList ++ rest) = "SELECT".toList ++ rest :=
      List.dropWhile_cons_of_neg (by decide)
    rw [beginsWithSelect, hselect, hfront]
    rfl
  unfold addDual
  dsimp only
  rw [isPrefixOf_select, hbegins, not_containsText_from h]
  rfl

end RownumSql.Dialect
