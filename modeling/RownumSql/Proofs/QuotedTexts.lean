import RownumSql.Text.Basic

/-!
# Reading quoted texts

A quoted text is read from its first quote to the next one that stands alone, with two quotes in a
row standing for one.  What was quoted is read back, and whatever follows is left, unless it begins
with a quote; and nothing else can be read.

    readQuoted quote cs = some (s, rest) ↔
      cs = quoted quote s ++ rest, and rest does not begin with a quote    (readQuoted_eq_some_iff)
-/

namespace RownumSql.Text

/-! ## Reading -/

/-- What stands before the first quote that stands alone, and what follows that quote. -/
def readInside (quote : Char) : List Char → Option (List Char × List Char)
  | [] => none
  | c :: cs =>
    if c = quote then
      match cs with
      | [] => some ([], [])
      | c' :: rest =>
        if c' = quote then (readInside quote rest).map fun r => (quote :: r.1, r.2)
        else some ([], c' :: rest)
    else (readInside quote cs).map fun r => (c :: r.1, r.2)

/-- What stands between quotes at the front of the text, and what follows it. -/
def readQuoted (quote : Char) : List Char → Option (List Char × List Char)
  | [] => none
  | c :: cs => if c = quote then readInside quote cs else none

/-! ## What can be read -/

section
variable {quote : Char}

/-- A character other than a quote stands for itself. -/
theorem readInside_cons_of_ne {c : Char} (h : c ≠ quote) (cs : List Char) :
    readInside quote (c :: cs) = (readInside quote cs).map fun r => (c :: r.1, r.2) := by
  cases cs <;> simp [readInside, h]

/-- A text with its quotes doubled is read up to the quote that ends it. -/
theorem readInside_doubled {rest : List Char} (h : rest.head? ≠ some quote) (s : List Char) :
    readInside quote (doubled quote s ++ quote :: rest) = some (s, rest) := by
  induction s with
  | nil =>
    cases rest with
    | nil => simp [readInside]
    | cons c rest =>
      have hc : c ≠ quote := by
        intro hquote
        exact h (congrArg some hquote)
      simp [readInside, hc]
  | cons c s ih =>
    by_cases hc : c = quote
    · subst hc
      simp [readInside, ih]
    · simp [readInside_cons_of_ne hc, hc, ih]

/-- What was read is the front of the text, with its quotes doubled. -/
theorem eq_doubled_of_readInside {cs s rest : List Char}
    (h : readInside quote cs = some (s, rest)) :
    cs = doubled quote s ++ quote :: rest ∧ rest.head? ≠ some quote := by
  fun_induction readInside quote cs generalizing s with
  | case1 => cases h
  | case2 =>
    cases h
    exact ⟨rfl, nofun⟩
  | case3 rest' ih =>
    -- two quotes in a row are read as one
    obtain ⟨⟨s', rest''⟩, hread, heq⟩ := Option.map_eq_some_iff.mp h
    cases heq
    obtain ⟨rfl, hhead⟩ := ih hread
    refine ⟨?_, hhead⟩
    simp
  | case4 c' rest' hc' =>
    -- the quote stands alone, so reading ends behind it
    cases h
    refine ⟨rfl, ?_⟩
    intro hhead
    exact hc' (Option.some.inj hhead)
  | case5 c cs hc ih =>
    obtain ⟨⟨s', rest'⟩, hread, heq⟩ := Option.map_eq_some_iff.mp h
    cases heq
    obtain ⟨rfl, hhead⟩ := ih hread
    refine ⟨?_, hhead⟩
    simp [hc]

theorem toList_quoted (s : String) :
    (quoted quote s).toList = quote :: (doubled quote s.toList ++ [quote]) :=
  String.toList_ofList

/-- Exactly what was quoted can be read, and reading stops behind the quote that ends it. -/
theorem readQuoted_eq_some_iff {cs s rest : List Char} :
    readQuoted quote cs = some (s, rest) ↔
      cs = (quoted quote (String.ofList s)).toList ++ rest ∧ rest.head? ≠ some quote := by
  rw [toList_quoted, String.toList_ofList]
  constructor
  · intro h
    cases cs with
    | nil => cases h
    | cons c cs =>
      rw [readQuoted] at h
      split at h
      · next hc =>
        obtain ⟨rfl, hhead⟩ := eq_doubled_of_readInside h
        subst hc
        refine ⟨?_, hhead⟩
        simp
      · cases h
  · rintro ⟨rfl, hhead⟩
    rw [List.cons_append, readQuoted, if_pos rfl, List.append_assoc]
    exact readInside_doubled hhead s

/-- What is quoted is read back, and what follows it is left. -/
theorem readQuoted_quoted (s : String) {rest : List Char} (h : rest.head? ≠ some quote) :
    readQuoted quote ((quoted quote s).toList ++ rest) = some (s.toList, rest) := by
  rw [readQuoted_eq_some_iff, String.ofList_toList]
  exact ⟨rfl, h⟩

theorem length_lt_of_readQuoted {cs s rest : List Char}
    (h : readQuoted quote cs = some (s, rest)) : rest.length < cs.length := by
  obtain ⟨rfl, -⟩ := readQuoted_eq_some_iff.mp h
  rw [toList_quoted, List.length_append, List.length_cons]
  omega

end

end RownumSql.Text
