import RownumSql.Proofs.SelectListTexts
import RownumSql.Proofs.SpelledNames

/-!
# Balanced texts

A text is balanced if it closes every parenthesis that it opens, and none that it has not opened.
Reading it from the left with the number of open parentheses decides that, and shows what can be
put into a balanced text: another balanced text, at any place.

    Balanced cs ↔ openAfter 0 cs = some 0                                          (balanced_iff)
    Balanced (a ++ b) → Balanced m → Balanced (a ++ m ++ b)                     (Balanced.insert)
-/

namespace RownumSql

namespace Text

/-! ## Parentheses -/

/-- As many parentheses are closed as are opened, and from the left never more. -/
structure Balanced (cs : List Char) : Prop where
  total : cs.count ')' = cs.count '('
  prefixes : ∀ front, front <+: cs → front.count ')' ≤ front.count '('

/-- The number of open parentheses behind a character; none if it closes one that is not open. -/
def openStep (n : Nat) (c : Char) : Option Nat :=
  if c = '(' then some (n + 1)
  else if c = ')' then
    match n with
    | 0 => none
    | k + 1 => some k
  else some n

/-- The number of open parentheses behind a text with `n` of them open before it. -/
def openAfter (n : Nat) (cs : List Char) : Option Nat := cs.foldlM openStep n

theorem openAfter_cons (n : Nat) (c : Char) (cs : List Char) :
    openAfter n (c :: cs) = (openStep n c).bind fun m => openAfter m cs := List.foldlM_cons

theorem openAfter_append (n : Nat) (a b : List Char) :
    openAfter n (a ++ b) = (openAfter n a).bind fun m => openAfter m b := List.foldlM_append

theorem openStep_of_ne {c : Char} (n : Nat) (hopen : c ≠ '(') (hclose : c ≠ ')') :
    openStep n c = some n := by
  unfold openStep
  rw [if_neg hopen, if_neg hclose]

/-- More open parentheses before a text stay open behind it. -/
theorem openAfter_add {n m : Nat} {cs : List Char} (h : openAfter n cs = some m) (k : Nat) :
    openAfter (n + k) cs = some (m + k) := by
  induction cs generalizing n with
  | nil =>
    cases h
    rfl
  | cons c cs ih =>
    rw [openAfter_cons, Option.bind_eq_some_iff] at h ⊢
    obtain ⟨j, hj, hrest⟩ := h
    refine ⟨j + k, ?_, ih hrest⟩
    unfold openStep at hj ⊢
    by_cases hopen : c = '('
    · rw [if_pos hopen] at hj ⊢
      cases hj
      exact congrArg some (Nat.add_right_comm n k 1)
    · rw [if_neg hopen] at hj ⊢
      by_cases hclose : c = ')'
      · rw [if_pos hclose] at hj ⊢
        cases n with
        | zero => cases hj
        | succ l =>
          cases hj
          rw [Nat.add_right_comm]
      · rw [if_neg hclose] at hj ⊢
        cases hj
        rfl

theorem forall_prefix_cons {P : List Char → Prop} {c : Char} {cs : List Char} :
    (∀ front, front <+: c :: cs → P front) ↔ P [] ∧ ∀ front, front <+: cs → P (c :: front) := by
  constructor
  · intro h
    refine ⟨h [] List.nil_prefix, ?_⟩
    intro front hfront
    exact h _ (List.cons_prefix_cons.mpr ⟨rfl, hfront⟩)
  · rintro ⟨hnil, hcons⟩ front hfront
    rcases List.prefix_cons_iff.mp hfront with rfl | ⟨rest, rfl, hrest⟩
    · exact hnil
    · exact hcons rest hrest

theorem openAfter_eq_some_iff (n m : Nat) (cs : List Char) :
    openAfter n cs = some m ↔ cs.count ')' + m = cs.count '(' + n ∧
      ∀ front, front <+: cs → front.count ')' ≤ front.count '(' + n := by
  induction cs generalizing n with
  | nil =>
    have hnil : ∀ front, front <+: ([] : List Char) → front.count ')' ≤ front.count '(' + n := by
      intro front hfront
      rw [List.prefix_nil.mp hfront]
      exact Nat.zero_le _
    rw [and_iff_left hnil]
    show some n = some m ↔ 0 + m = 0 + n
    rw [Nat.zero_add, Nat.zero_add, Option.some.injEq, eq_comm]
  | cons c cs ih =>
    have hnil : ([] : List Char).count ')' ≤ ([] : List Char).count '(' + n := Nat.zero_le _
    -- a parenthesis in front moves the number for all prefixes of the rest alike
    rw [openAfter_cons, forall_prefix_cons, and_iff_right hnil]
    by_cases hopen : c = '('
    · subst hopen
      have hne : '(' ≠ ')' := by decide
      show openAfter (n + 1) cs = some m ↔ _
      rw [ih]
      simp only [List.count_cons_self, List.count_cons_of_ne hne]
      exact and_congr (by omega) (forall₂_congr fun front _ => by omega)
    · by_cases hclose : c = ')'
      · subst hclose
        simp only [List.count_cons_self, List.count_cons_of_ne hopen]
        cases n with
        | zero =>
          refine iff_of_false nofun ?_
          rintro ⟨-, hprefixes⟩
          exact absurd (hprefixes [] List.nil_prefix) (by decide)
        | succ k =>
          show openAfter k cs = some m ↔ _
          rw [ih]
          exact and_congr (by omega) (forall₂_congr fun front _ => by omega)
      · rw [openStep_of_ne n hopen hclose, Option.bind_some, ih]
        simp only [List.count_cons_of_ne hopen, List.count_cons_of_ne hclose]

/-- Reading from the left decides whether a text is balanced. -/
theorem balanced_iff (cs : List Char) : Balanced cs ↔ openAfter 0 cs = some 0 := by
  rw [openAfter_eq_some_iff]
  exact ⟨fun h => ⟨h.total, h.prefixes⟩, fun h => ⟨h.1, h.2⟩⟩

instance (cs : List Char) : Decidable (Balanced cs) :=
  decidable_of_iff (openAfter 0 cs = some 0) (balanced_iff cs).symm

namespace Balanced
variable {a b m : List Char}

theorem append (ha : Balanced a) (hb : Balanced b) : Balanced (a ++ b) := by
  rw [balanced_iff] at ha hb ⊢
  rw [openAfter_append, ha]
  exact hb

/-- A balanced text may stand at any place of another one. -/
theorem insert (h : Balanced (a ++ b)) (hm : Balanced m) : Balanced (a ++ m ++ b) := by
  rw [balanced_iff, openAfter_append] at h
  rw [balanced_iff] at hm
  rw [balanced_iff, List.append_assoc, openAfter_append]
  cases ha : openAfter 0 a with
  | none =>
    rw [ha] at h
    cases h
  | some n =>
    have hn : openAfter n m = some n := by
      have hadd := openAfter_add hm n
      rwa [Nat.zero_add] at hadd
    rw [ha] at h
    rw [Option.bind_some, openAfter_append, hn]
    exact h

theorem of_not_mem (hopen : '(' ∉ a) (hclose : ')' ∉ a) : Balanced a where
  total := by rw [List.count_eq_zero.mpr hopen, List.count_eq_zero.mpr hclose]
  prefixes front hfront := by
    rw [List.count_eq_zero.mpr fun h => hclose (hfront.subset h)]
    exact Nat.zero_le _

theorem intercalate {separator : String} (hseparator : Balanced separator.toList)
    {texts : List String} (h : ∀ text ∈ texts, Balanced text.toList) :
    Balanced (separator.intercalate texts).toList := by
  induction texts with
  | nil => exact .of_not_mem List.not_mem_nil List.not_mem_nil
  | cons text rest ih =>
    obtain ⟨htext, hrest⟩ := List.forall_mem_cons.mp h
    cases rest with
    | nil =>
      rw [String.intercalate_singleton]
      exact htext
    | cons next rest =>
      rw [String.intercalate_cons_cons, String.toList_append, String.toList_append]
      exact (htext.append hseparator).append (ih hrest)

end Balanced

theorem openAfter_doubled (n : Nat) (cs : List Char) :
    openAfter n (doubled '"' cs) = openAfter n cs := by
  induction cs generalizing n with
  | nil => rfl
  | cons c cs ih =>
    rw [doubled_cons, openAfter_append, openAfter_cons n c cs]
    by_cases hc : c = '"'
    · subst hc
      exact ih n
    · have hone : openAfter n [c] = openStep n c := Option.bind_fun_some (openStep n c)
      simp only [if_neg hc, hone, ih]

/-- Quotes around a text and inside it open and close nothing. -/
theorem Balanced.quoted {text : String} (h : Balanced text.toList) :
    Balanced (quoted '"' text).toList := by
  have hquotes : Balanced (['"'] ++ ['"']) := by decide
  have hdoubled : Balanced (doubled '"' text.toList) := by
    rw [balanced_iff] at h ⊢
    rw [openAfter_doubled, h]
  rw [Text.quoted, String.toList_ofList]
  exact hquotes.insert hdoubled

theorem balanced_toString (n : Nat) : Balanced (toString n).toList :=
  .of_not_mem (fun h => absurd (isDigit_of_mem_toString h) (by decide))
    fun h => absurd (isDigit_of_mem_toString h) (by decide)

end Text

/-! ## Names -/

namespace AliasTable

/-- All aliases of the table are balanced, and all that are still to come. -/
structure Balanced (t : AliasTable) : Prop where
  valid : t.Valid
  stem : Text.Balanced t.stem.toList

namespace Balanced
variable {t : AliasTable} (h : t.Balanced)
include h

theorem of_grows {t' : AliasTable} (hgrows : t.Grows t') : t'.Balanced :=
  ⟨hgrows.valid h.valid, hgrows.stem ▸ h.stem⟩

theorem nameOf {s : String} (hs : Text.Balanced s.toList) : Text.Balanced (t.nameOf s).toList := by
  rcases h.valid.nameOf_eq s with hself | ⟨n, hn⟩
  · rw [hself]
    exact hs
  · rw [hn, String.toList_append]
    exact h.stem.append (Text.balanced_toString n)

end Balanced

end AliasTable

namespace Dialect
variable (d : Dialect) {t : AliasTable}

theorem balanced_quotePart (ht : t.Balanced) {part : String} (h : Text.Balanced part.toList) :
    Text.Balanced ((d.quotePart part).run t).1.toList := by
  unfold quotePart
  split
  · exact h
  · show Text.Balanced
      (if d.quotes then Text.quoted '"' (t.nameOf part) else t.nameOf part).toList
    split
    · exact (ht.nameOf h).quoted
    · exact ht.nameOf h

theorem balanced_quoteParts (ht : t.Balanced) {parts : List String}
    (h : ∀ part ∈ parts, Text.Balanced part.toList) :
    ∀ text ∈ ((d.quoteParts parts).run t).1, Text.Balanced text.toList := by
  induction parts generalizing t with
  | nil => exact fun _ htext => nomatch htext
  | cons part rest ih =>
    obtain ⟨hpart, hrest⟩ := List.forall_mem_cons.mp h
    exact List.forall_mem_cons.mpr ⟨d.balanced_quotePart ht hpart,
      ih (ht.of_grows (d.grows_quotePart part t)) hrest⟩

theorem subset_intercalate {separator word : List Char} {words : List (List Char)}
    (h : word ∈ words) : word ⊆ separator.intercalate words := by
  induction words with
  | nil => cases h
  | cons first rest ih =>
    cases rest with
    | nil =>
      rw [List.mem_singleton.mp h, List.intercalate_singleton]
      exact List.Subset.refl first
    | cons next rest =>
      rw [List.intercalate_cons_cons]
      rcases List.mem_cons.mp h with rfl | hrest
      · exact List.Subset.trans (List.subset_append_left _ _) (List.subset_append_left _ _)
      · exact List.Subset.trans (ih hrest) (List.subset_append_right _ _)

/-- The parts of an identifier have no characters that it does not have. -/
theorem subset_of_mem_parts {name part : String} (h : part ∈ parts name) :
    part.toList ⊆ name.toList := by
  obtain ⟨cs, hcs, rfl⟩ := List.mem_map.mp h
  have hsubset : cs ⊆ ['.'].intercalate (name.toList.splitOn '.') := subset_intercalate hcs
  rwa [List.intercalate_splitOn, ← String.toList_ofList (l := cs)] at hsubset

theorem balanced_of_isPlain {cs : List Char} (h : cs.all isPlainChar) : Text.Balanced cs := by
  rw [List.all_eq_true] at h
  exact .of_not_mem (fun hopen => absurd (h '(' hopen) (by decide))
    fun hclose => absurd (h ')' hclose) (by decide)

/-- A table of balanced aliases keeps balanced names balanced: an expression stays as it is, and
an identifier has no parentheses. -/
theorem balanced_written (ht : t.Balanced) {name : String} (h : Text.Balanced name.toList) :
    Text.Balanced (d.written t name).toList := by
  unfold written quote
  by_cases hplain : isPlain name
  · rw [hplain]
    have hchars : name.toList.all isPlainChar := by
      rw [isPlain, Bool.and_eq_true] at hplain
      exact hplain.2
    have hpoint : Text.Balanced ".".toList := by decide
    refine hpoint.intercalate (d.balanced_quoteParts ht ?_)
    intro part hpart
    apply balanced_of_isPlain
    rw [List.all_eq_true] at hchars ⊢
    exact fun c hc => hchars c (subset_of_mem_parts hpart hc)
  · rw [Bool.not_eq_true] at hplain
    rw [hplain]
    exact h

end Dialect

end RownumSql
