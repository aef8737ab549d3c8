import RownumSql.Proofs.BoundValues

/-!
# The page of a selection is a wrapper

A selection with a limit or an offset is the same selection without them, between a text that opens
its window and a text that closes it.  Nothing inside is affected: not its text, its placeholders
and bindings, the numbers of its branches or the aliases it needs.

    compile q  =  open ++ compile q.clearPage ++ close              (compile_eq_wrapped_clearPage)
-/

namespace RownumSql

/-! ## The texts around a page -/

/-- The text in front of a selection with the given page. -/
def pageOpen (limit offset : UInt64) : String :=
  match decide (0 < limit), decide (0 < offset) with
  | false, false => ""
  | true, false => "SELECT /*+ FIRST_ROWS(" ++ toString (lastRow limit offset) ++ ") */ a.* FROM ("
  | false, true => "SELECT * FROM (SELECT a.*, ROWNUM QAIL_RNUM FROM ("
  | true, true =>
    "SELECT * FROM (SELECT /*+ FIRST_ROWS(" ++ toString (lastRow limit offset)
      ++ ") */ a.*, ROWNUM QAIL_RNUM FROM ("

/-- The text behind a selection with the given page. -/
def pageClose (limit offset : UInt64) : String :=
  match decide (0 < limit), decide (0 < offset) with
  | false, false => ""
  | true, false => ") a WHERE ROWNUM <= :QAIL_MAX_ROW_TO_FETCH"
  | false, true => ") a) WHERE QAIL_RNUM > :QAIL_FETCH_OFFSET"
  | true, true =>
    ") a WHERE ROWNUM <= :QAIL_MAX_ROW_TO_FETCH) WHERE QAIL_RNUM > :QAIL_FETCH_OFFSET"

/-- The bindings of a page, in front of those of the selection. -/
def pageBindings (limit offset : UInt64) : List Binding :=
  match decide (0 < limit), decide (0 < offset) with
  | false, false => []
  | true, false => [⟨.named "QAIL_MAX_ROW_TO_FETCH", boundValue (lastRow limit offset)⟩]
  | false, true => [⟨.named "QAIL_FETCH_OFFSET", boundValue offset.toNat⟩]
  | true, true =>
    [⟨.named "QAIL_FETCH_OFFSET", boundValue offset.toNat⟩,
     ⟨.named "QAIL_MAX_ROW_TO_FETCH", boundValue (lastRow limit offset)⟩]

/-- A compiled selection inside a page. -/
def CompiledQuery.wrapped (limit offset : UInt64) (c : CompiledQuery) : CompiledQuery :=
  { c with
    sql := pageOpen limit offset ++ c.sql ++ pageClose limit offset
    bindings := pageBindings limit offset ++ c.bindings
    rowNumberColumn := 0 < offset }

/-! ## The templates around a page -/

theorem windowBindings_zero (limit offset : UInt64) :
    windowBindings 0 limit offset = pageBindings limit offset := by
  unfold windowBindings
  by_cases hl : 0 < limit <;> by_cases ho : 0 < offset <;>
    simp [pageBindings, hl, ho, windowNames_zero, PageNames.outer]

namespace Template
variable (d : Dialect) (t : AliasTable) (limit offset : UInt64)

theorem text_opening (n : Nat) :
    text d t n (opening .outer limit offset) = pageOpen limit offset := by
  by_cases hl : 0 < limit <;> by_cases ho : 0 < offset <;>
    simp [opening, skipOpening, countOpening, cap, pageOpen, hl, ho, text, Piece.text,
      rowNumberColumn, toNat_endRow, ← String.toList_inj]

theorem text_closing (n : Nat) :
    text d t n (closing .outer limit offset) = pageClose limit offset := by
  by_cases hl : 0 < limit <;> by_cases ho : 0 < offset <;>
    simp [closing, skipClosing, countClosing, cap, pageClose, hl, ho, text, Piece.text,
      rowNumberColumn, PageNames.outer]

theorem aliases_opening (names : PageNames) : aliases d t (opening names limit offset) = t := by
  by_cases hl : 0 < limit <;> by_cases ho : 0 < offset <;>
    simp [opening, skipOpening, countOpening, cap, hl, ho, aliases, Piece.aliases]

theorem aliases_closing (names : PageNames) : aliases d t (closing names limit offset) = t := by
  by_cases hl : 0 < limit <;> by_cases ho : 0 < offset <;>
    simp [closing, skipClosing, countClosing, cap, hl, ho, aliases, Piece.aliases]

theorem scalars_opening (names : PageNames) : scalars (opening names limit offset) = 0 := by
  rw [← scalars_marks, marks_opening, Outline.scalars_bounds]

end Template

namespace Outline
variable (q : Query)

/-! ## Inside the page -/

/-- The outline of a selection is that of the selection without its page, inside its window. -/
theorem select_eq_clearPage (names : PageNames) (n : Nat) :
    select names n q = ⟨.opening names q.limitValue q.offsetValue, none⟩
      ++ (select names n q.clearPage ++ ⟨.closing names q.limitValue q.offsetValue, none⟩) := by
  have hopen : Template.opening names q.clearPage.limitValue q.clearPage.offsetValue = [] := rfl
  have hclose : Template.closing names q.clearPage.limitValue q.clearPage.offsetValue = [] := rfl
  have hsplit (s u : Template) : (⟨s ++ u, none⟩ : Outline) = ⟨s, none⟩ ++ ⟨u, none⟩ := rfl
  rw [select_eq, select_eq, hopen, hclose, List.nil_append, List.append_nil]
  rw [hsplit (.opening ..), hsplit (.epilog _)]
  simp only [append_assoc]
  rfl

theorem error_clearPage : (select .outer 0 q).error = (select .outer 0 q.clearPage).error := by
  rw [select_eq_clearPage]
  generalize select .outer 0 q.clearPage = inner
  obtain ⟨s, error⟩ := inner
  cases error <;> rfl

theorem template_clearPage (h : (select .outer 0 q.clearPage).error = none) :
    (select .outer 0 q).template = Template.opening .outer q.limitValue q.offsetValue
      ++ ((select .outer 0 q.clearPage).template
        ++ Template.closing .outer q.limitValue q.offsetValue) := by
  rw [select_eq_clearPage, template_append _ _ rfl, template_append _ _ h]

theorem aliases_clearPage (d : Dialect) (t : AliasTable) :
    (select .outer 0 q).template.aliases d t
      = (select .outer 0 q.clearPage).template.aliases d t := by
  cases h : (select .outer 0 q.clearPage).error with
  | none =>
    rw [template_clearPage q h, Template.aliases_append, Template.aliases_append,
      Template.aliases_opening, Template.aliases_closing]
  | some e =>
    -- the window is never closed
    rw [select_eq_clearPage, template_append _ _ rfl, Template.aliases_append,
      Template.aliases_opening]
    generalize select .outer 0 q.clearPage = inner at h ⊢
    obtain ⟨s, error⟩ := inner
    cases h
    rfl

theorem text_clearPage (d : Dialect) (t : AliasTable)
    (h : (select .outer 0 q.clearPage).error = none) :
    (select .outer 0 q).template.text d t 0 = pageOpen q.limitValue q.offsetValue
      ++ (select .outer 0 q.clearPage).template.text d t 0
      ++ pageClose q.limitValue q.offsetValue := by
  rw [template_clearPage q h, Template.text_append, Template.text_append, Template.text_opening,
    Template.text_closing, Template.aliases_opening, Template.scalars_opening, Nat.add_zero,
    String.append_assoc]

end Outline

theorem walkBindings_clearPage (q : Query) :
    q.walkBindings = pageBindings q.limitValue q.offsetValue ++ q.clearPage.walkBindings := by
  have hwalk : q.clearPage.walk = q.walk := by rw [Query.walk_eq, Query.walk_eq q]; rfl
  unfold Query.walkBindings
  rw [hwalk, windowBindings_zero, windowBindings_zero]
  rfl

/-! ## Compiled selections -/

/-- **A page is a pure wrapper.**  With and without its page a selection needs the same aliases and
fails with the same error, and if it compiles, then its page adds a text in front, a text behind
and the bindings of the window, nothing else. -/
theorem compile_eq_wrapped_clearPage (d : Dialect) (t : AliasTable) (q : Query)
    (hk : q.kind = .select) :
    (d.compile t q).aliases = (d.compile t q.clearPage).aliases ∧
    (d.compile t q).result =
      (d.compile t q.clearPage).result.map (.wrapped q.limitValue q.offsetValue) := by
  have hk' : q.clearPage.kind = .select := hk
  constructor
  · rw [Dialect.aliases_compile_select d t q hk, Dialect.aliases_compile_select d t _ hk',
      Outline.aliases_clearPage]
  · have he := Outline.error_clearPage q
    rw [Dialect.result_compile_select d t q hk, Dialect.result_compile_select d t _ hk', he]
    cases h : (Outline.select .outer 0 q.clearPage).error with
    | some e => rfl
    | none =>
      simp only [Except.map, CompiledQuery.wrapped, Outline.text_clearPage q d t h,
        Outline.entries_select q (he.trans h), Outline.entries_select _ h,
        walkBindings_clearPage q]
      rfl

theorem compile_eq_wrapped_clearPage_nestedUnion :
    (({} : Dialect).compile {} nestedUnion).aliases
      = (({} : Dialect).compile {} nestedUnion.clearPage).aliases ∧
    (({} : Dialect).compile {} nestedUnion).result =
      (({} : Dialect).compile {} nestedUnion.clearPage).result.map fun c =>
        { c with
          sql := "SELECT * FROM (SELECT /*+ FIRST_ROWS(15) */ a.*, ROWNUM QAIL_RNUM FROM (" ++ c.sql
            ++ ") a WHERE ROWNUM <= :QAIL_MAX_ROW_TO_FETCH) WHERE QAIL_RNUM > :QAIL_FETCH_OFFSET"
          bindings := [⟨.named "QAIL_FETCH_OFFSET", .int 5⟩,
            ⟨.named "QAIL_MAX_ROW_TO_FETCH", .int 15⟩] ++ c.bindings
          rowNumberColumn := true } :=
  compile_eq_wrapped_clearPage {} {} nestedUnion rfl

end RownumSql
