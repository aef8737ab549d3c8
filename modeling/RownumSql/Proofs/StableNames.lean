import RownumSql.Proofs.Template

/-!
# Names stay what they are

A table of aliases only grows, and a word keeps the alias that it was given first.  So a step that
quotes names gives the same text again from every table that extends the one it left behind, and
the text of a template can be read off the final table (`text_of_extends`).
-/

namespace RownumSql

/-! ## Tables that grow -/

namespace AliasTable

/-- Every word that has an alias in the first table has the same one in the second. -/
structure Extends (t t' : AliasTable) : Prop where
  maxLength : t'.maxLength = t.maxLength
  alias? : ∀ {word short}, t.alias? word = some short → t'.alias? word = some short

theorem Extends.refl (t : AliasTable) : t.Extends t := ⟨rfl, id⟩

theorem Extends.trans {t t' t'' : AliasTable} (h : t.Extends t') (h' : t'.Extends t'') :
    t.Extends t'' :=
  ⟨h'.maxLength.trans h.maxLength, fun hs => h'.alias? (h.alias? hs)⟩

theorem alias?_add (t : AliasTable) (word s : String) :
    (t.add word).alias? s = if s = word then some t.nextAlias else t.alias? s :=
  t.shorts.get?_insert word t.nextAlias s

theorem extends_add {t : AliasTable} {word : String} (h : t.alias? word = none) :
    t.Extends (t.add word) := by
  refine ⟨rfl, ?_⟩
  intro s short hs
  rw [alias?_add, if_neg, hs]
  rintro rfl
  rw [h] at hs
  cases hs

/-! ## Steps that repeat themselves -/

/-- The step only adds to the table, and it gives the same result again from every table that
extends the one it left behind, which it then leaves as it is. -/
def Repeats {α : Type} (step : StateM AliasTable α) : Prop :=
  ∀ t, t.Extends (step.run t).2 ∧
    ∀ t', (step.run t).2.Extends t' → step.run t' = ((step.run t).1, t')

namespace Repeats

theorem pure {α : Type} (x : α) : Repeats (pure x) := by
  intro t
  exact ⟨.refl t, fun _ _ => rfl⟩

theorem bind {α β : Type} {step : StateM AliasTable α} {next : α → StateM AliasTable β}
    (h : Repeats step) (hn : ∀ x, Repeats (next x)) : Repeats (step >>= next) := by
  intro t
  obtain ⟨ht, hrun⟩ := h t
  obtain ⟨ht', hrun'⟩ := hn (step.run t).1 (step.run t).2
  refine ⟨ht.trans ht', ?_⟩
  intro t' he
  show (next (step.run t').1).run (step.run t').2 = _
  rw [hrun t' (ht'.trans he)]
  exact hrun' t' he

end Repeats

theorem repeats_shorten (s : String) : Repeats (shorten s) := by
  intro t
  have hlong {t' : AliasTable} (h : t.Extends t') : t'.isLong s = t.isLong s := by
    unfold isLong
    rw [h.maxLength]
  cases hl : t.isLong s with
  | false =>
    rw [run_shorten_of_not_long hl]
    exact ⟨.refl t, fun t' h => run_shorten_of_not_long ((hlong h).trans hl)⟩
  | true =>
    cases hs : t.alias? s with
    | some short =>
      rw [run_shorten_of_known hl hs]
      exact ⟨.refl t, fun t' h => run_shorten_of_known ((hlong h).trans hl) (h.alias? hs)⟩
    | none =>
      rw [run_shorten_of_new hl hs]
      refine ⟨extends_add hs, ?_⟩
      intro t' h
      have hself := (alias?_add t s s).trans (if_pos rfl)
      exact run_shorten_of_known ((hlong ((extends_add hs).trans h)).trans hl) (h.alias? hself)

end AliasTable

namespace Dialect
open AliasTable (Repeats)
variable (d : Dialect)

theorem repeats_quotePart (part : String) : Repeats (d.quotePart part) := by
  unfold quotePart
  split
  · exact .pure part
  · exact (AliasTable.repeats_shorten part).bind fun short => .pure _

theorem repeats_quoteParts (parts : List String) : Repeats (d.quoteParts parts) := by
  induction parts with
  | nil => exact .pure []
  | cons part rest ih =>
    apply (d.repeats_quotePart part).bind
    intro first
    apply ih.bind
    intro others
    exact .pure (first :: others)

theorem repeats_quote (name : String) : Repeats (d.quote name) := by
  unfold quote
  split
  · exact .pure name
  · exact (d.repeats_quoteParts _).bind fun texts => .pure _

end Dialect

/-! ## Templates -/

namespace Template
variable (d : Dialect)

theorem extends_piece (t : AliasTable) (x : Piece) : t.Extends (x.aliases d t) := by
  cases x with
  | identifier name => exact (d.repeats_quote name t).1
  | _ => exact .refl t

theorem extends_aliases (t : AliasTable) (s : Template) : t.Extends (s.aliases d t) := by
  induction s generalizing t with
  | nil => exact .refl t
  | cons x s ih => exact (extends_piece d t x).trans (ih (x.aliases d t))

theorem piece_of_extends {t t' : AliasTable} (x : Piece) (n : Nat)
    (h : (x.aliases d t).Extends t') : x.text d t' n = x.text d t n ∧ x.aliases d t' = t' := by
  cases x with
  | identifier name =>
    have hq := (d.repeats_quote name t).2 t' h
    constructor
    · show ((d.quote name).run t').1 = _
      rw [hq]
      rfl
    · show ((d.quote name).run t').2 = _
      rw [hq]
  | _ => exact ⟨rfl, rfl⟩

/-- The text of a template does not depend on what was added to the table later. -/
theorem text_of_extends {t t' : AliasTable} (s : Template) (n : Nat)
    (h : (s.aliases d t).Extends t') : s.text d t' n = s.text d t n := by
  induction s generalizing t n with
  | nil => rfl
  | cons x s ih =>
    obtain ⟨htext, haliases⟩ := piece_of_extends d x n ((extends_aliases d _ s).trans h)
    rw [text, text, htext, haliases, ih _ h]

theorem aliases_of_extends {t t' : AliasTable} (s : Template) (h : (s.aliases d t).Extends t') :
    s.aliases d t' = t' := by
  induction s generalizing t with
  | nil => rfl
  | cons x s ih =>
    obtain ⟨-, haliases⟩ := piece_of_extends d x 0 ((extends_aliases d _ s).trans h)
    rw [aliases, haliases, ih h]

end Template

end RownumSql
