import RownumSql.Proofs.ClientCalls
import RownumSql.Proofs.OutputNames
import RownumSql.Proofs.SelectListTexts

/-!
# Selections from DUAL

The server wants a FROM in every selection, so a session sends a selection that reads from no table
with ` FROM DUAL` at its end.  That is the place of a FROM clause only if nothing stands between the
select list and the end:

    the SQL that is sent is the one with FROM DUAL behind the select list
      ↔ there is no page, no condition, no group and no order                 (prepare_fromDual_iff)
-/

namespace RownumSql

open Text (mentionsFrom)
open Scripted (Script)

/-! ## Selections from no table -/

namespace Query

/-- A selection that reads from no table, and no other selection behind it. -/
structure Tableless (q : Query) : Prop where
  kind : q.kind = .select
  tables : q.tables = []
  joins : q.joins = []
  branches : q.branches = []
  epilog : q.epilog = none

/-- Nothing stands behind the select list or around the selection. -/
structure Bare (q : Query) : Prop where
  page : q.isPaged = false
  conditions : q.conditions = []
  groups : q.groups = []
  having : q.having = []
  order : q.order = []

/-- The SQL of a selection from no table with a text in the place of its FROM clause: behind the
select list, before any other clause and inside the page. -/
def sqlFrom (q : Query) (d : Dialect) (t : AliasTable) (source : String) : String :=
  (Template.opening .outer q.limitValue q.offsetValue ++
    (Template.selectList q.distinct q.select ++ .sql source :: Template.clauses q) ++
    Template.closing .outer q.limitValue q.offsetValue).text d t 0

end Query

section sql
variable (d : Dialect) (t : AliasTable) (q : Query)

/-- The text in front of the FROM clause. -/
def Query.sqlBefore : String :=
  pageOpen q.limitValue q.offsetValue ++ (Template.selectList q.distinct q.select).text d t 0

/-- The text behind the FROM clause. -/
def Query.sqlBehind : String :=
  (Template.clauses q).text d ((Template.selectList q.distinct q.select).aliases d t)
    (Template.selectList q.distinct q.select).scalars ++ pageClose q.limitValue q.offsetValue

theorem Query.sqlFrom_eq (source : String) :
    q.sqlFrom d t source = q.sqlBefore d t ++ (source ++ q.sqlBehind d t) := by
  have hsource (t : AliasTable) (n : Nat) (s : Template) :
      Template.text d t n (.sql source :: s) = source ++ s.text d t n := rfl
  unfold sqlFrom sqlBefore sqlBehind
  simp only [Template.text_append, Template.text_opening, Template.text_closing,
    Template.aliases_opening, Template.scalars_opening, Nat.zero_add, hsource, String.append_assoc]

variable {q}

/-- What a selection without unions and without a text at its end comes to. -/
theorem Query.result_of_single (hk : q.kind = .select) (hbranches : q.branches = [])
    (hepilog : q.epilog = none) : ∃ c, (d.compile t q).result = .ok c ∧
      c.sql = q.sqlBefore d t ++ q.sqlBehind d t := by
  have hselect : Outline.select .outer 0 q =
      ⟨Template.opening .outer q.limitValue q.offsetValue ++
        (Template.selectList q.distinct q.select ++ Template.clauses q) ++
        Template.closing .outer q.limitValue q.offsetValue, none⟩ := by
    rw [Outline.select_eq, hbranches, hepilog]
    show (⟨_ ++ [] ++ ([] ++ _), none⟩ : Outline) = _
    rw [List.append_nil, List.nil_append]
  have hresult := d.result_compile_select t q hk
  rw [hselect] at hresult
  refine ⟨_, hresult, ?_⟩
  unfold sqlBefore sqlBehind
  simp only [Template.text_append, Template.text_opening, Template.text_closing,
    Template.aliases_opening, Template.scalars_opening, Nat.zero_add, String.append_assoc]

/-- A selection from no table compiles, with nothing in the place of its FROM clause. -/
theorem Query.Tableless.compile (h : q.Tableless) : ∃ c,
    (d.compile t q).result = .ok c ∧ c.sql = q.sqlFrom d t "" := by
  rw [q.sqlFrom_eq, String.empty_append]
  exact Query.result_of_single d t h.kind h.branches h.epilog

end sql

/-! ## Behind the place of the FROM clause -/

namespace Query

/-- What the text behind the place of the FROM clause may begin with. -/
def heads : List String := [" WHERE", " GROUP BY", " HAVING", " ORDER BY", ") a"]

theorem head_ne_fromDual {head : String} (h : head ∈ heads) (a b : String) :
    head ++ a ≠ " FROM DUAL" ++ b := by
  intro heq
  have htwo := congrArg (fun s => s.toList.take 2) heq
  simp only [String.toList_append] at htwo
  simp only [heads, List.mem_cons, List.not_mem_nil, or_false] at h
  obtain rfl | rfl | rfl | rfl | rfl := h <;> simp at htwo

/-- The template begins with one of the heads. -/
def Headed (s : Template) : Prop := ∃ head ∈ heads, ∃ rest, s = .sql (head ++ " ") :: rest

theorem Headed.append {s : Template} (h : Headed s) (u : Template) : Headed (s ++ u) := by
  obtain ⟨head, hhead, rest, rfl⟩ := h
  exact ⟨head, hhead, rest ++ u, rfl⟩

theorem headed_clause {α : Type} (keyword separator : String) (h : keyword ∈ heads)
    (items : List α) (f : α → Template) :
    Headed (.clause keyword separator (items.map f)) ∨
      items = [] ∧ Template.clause keyword separator (items.map f) = [] := by
  cases items with
  | nil => exact .inr ⟨rfl, rfl⟩
  | cons item rest => exact .inl ⟨keyword, h, _, rfl⟩

theorem page_cases (q : Query) :
    (q.isPaged = true ∧ ∃ rest, pageClose q.limitValue q.offsetValue = ") a" ++ rest) ∨
    (q.isPaged = false ∧ pageOpen q.limitValue q.offsetValue = "" ∧
      pageClose q.limitValue q.offsetValue = "") := by
  unfold isPaged pageOpen pageClose
  cases decide (0 < q.limitValue) <;> cases decide (0 < q.offsetValue)
  · exact .inr ⟨rfl, rfl, rfl⟩
  · exact .inl ⟨rfl, ") WHERE QAIL_RNUM > :QAIL_FETCH_OFFSET", rfl⟩
  · exact .inl ⟨rfl, " WHERE ROWNUM <= :QAIL_MAX_ROW_TO_FETCH", rfl⟩
  · exact .inl
      ⟨rfl, " WHERE ROWNUM <= :QAIL_MAX_ROW_TO_FETCH) WHERE QAIL_RNUM > :QAIL_FETCH_OFFSET", rfl⟩

namespace Tableless
variable {q : Query} (h : q.Tableless)
include h

/-- What follows is the first of the clauses that are there. -/
theorem clauses_cases : Headed (.clauses q) ∨
    q.conditions = [] ∧ q.groups = [] ∧ q.having = [] ∧ q.order = [] ∧ Template.clauses q = [] := by
  have hclauses : Template.clauses q =
      .clause " WHERE" " AND " (q.conditions.map Expr.template)
        ++ (.clause " GROUP BY" ", " (q.groups.map Expr.template)
          ++ (.clause " HAVING" " AND " (q.having.map Expr.template)
            ++ .clause " ORDER BY" ", " (q.order.map SortKey.template))) := by
    rw [Template.clauses, h.tables, h.joins, List.append_assoc, List.append_assoc]
    rfl
  rw [hclauses]
  obtain hw | ⟨hconditions, hw⟩ :=
    headed_clause " WHERE" " AND " (by decide) q.conditions Expr.template
  · exact .inl (hw.append _)
  rw [hw, List.nil_append]
  obtain hg | ⟨hgroups, hg⟩ :=
    headed_clause " GROUP BY" ", " (by decide) q.groups Expr.template
  · exact .inl (hg.append _)
  rw [hg, List.nil_append]
  obtain hh | ⟨hhaving, hh⟩ :=
    headed_clause " HAVING" " AND " (by decide) q.having Expr.template
  · exact .inl (hh.append _)
  rw [hh, List.nil_append]
  obtain ho | ⟨horder, ho⟩ :=
    headed_clause " ORDER BY" ", " (by decide) q.order SortKey.template
  · exact .inl ho
  exact .inr ⟨hconditions, hgroups, hhaving, horder, ho⟩

/-- Behind the place of the FROM clause stands another clause, the end of the page, or nothing. -/
theorem sqlBehind_cases (d : Dialect) (t : AliasTable) :
    (∃ head ∈ heads, ∃ rest, q.sqlBehind d t = head ++ rest) ∨ q.Bare := by
  unfold sqlBehind
  obtain ⟨head, hhead, rest, hclauses⟩ | ⟨hconditions, hgroups, hhaving, horder, hnone⟩ :=
    h.clauses_cases
  · refine .inl ⟨head, hhead, ?_⟩
    rw [hclauses, Template.text, Piece.text, String.append_assoc, String.append_assoc]
    exact ⟨_, rfl⟩
  · obtain ⟨-, rest, hclose⟩ | ⟨hpage, -, -⟩ := q.page_cases
    · refine .inl ⟨") a", by decide, rest, ?_⟩
      rw [hnone, hclose]
      exact String.empty_append
    · exact .inr ⟨hpage, hconditions, hgroups, hhaving, horder⟩

/-- A bare selection is its select list, and the FROM clause would follow it. -/
theorem sqlFrom_of_bare (hbare : q.Bare) (d : Dialect) (t : AliasTable) (source : String) :
    q.sqlFrom d t source = (Template.selectList q.distinct q.select).text d t 0 ++ source := by
  have hclauses : Template.clauses q = [] := by
    rw [Template.clauses, h.tables, h.joins, hbare.conditions, hbare.groups, hbare.having,
      hbare.order]
    rfl
  obtain ⟨hpage, -⟩ | ⟨-, hopen, hclose⟩ := q.page_cases
  · rw [hbare.page] at hpage
    cases hpage
  · rw [q.sqlFrom_eq, sqlBefore, sqlBehind, hopen, hclose, hclauses, String.empty_append]
    show _ ++ (source ++ ("" ++ "")) = _
    rw [String.append_empty, String.append_empty]

end Tableless

end Query

/-! ## FROM DUAL at the end -/

theorem Template.text_selectList (d : Dialect) (t : AliasTable) (n : Nat) (distinct : Bool)
    (items : List SelectItem) :
    ∃ rest, ((selectList distinct items).text d t n).toList = "SELECT".toList ++ rest := by
  rw [selectList, text, Piece.text, String.toList_append]
  cases distinct with
  | true => exact ⟨" DISTINCT ".toList ++ _, rfl⟩
  | false => exact ⟨" ".toList ++ _, rfl⟩

namespace Query.Tableless
variable {q : Query} (h : q.Tableless) {d : Dialect} {t : AliasTable}
include h

/-- At the end FROM DUAL is in the wrong place if anything stands there. -/
theorem bare_of_addDual
    (heq : Dialect.addDual (q.sqlFrom d t "") = q.sqlFrom d t " FROM DUAL") : q.Bare := by
  obtain ⟨head, hhead, rest, hbehind⟩ | hbare := h.sqlBehind_cases d t
  · rw [q.sqlFrom_eq, q.sqlFrom_eq, hbehind, String.empty_append] at heq
    obtain hsame | hadded := Dialect.addDual_cases (q.sqlBefore d t ++ (head ++ rest))
    · -- nothing was added, so the SQL is too short
      rw [hsame, String.append_right_inj] at heq
      have hlength := congrArg String.length heq
      have hten : " FROM DUAL".length = 10 := rfl
      rw [String.length_append " FROM DUAL", hten] at hlength
      omega
    · rw [hadded, String.append_assoc, String.append_right_inj, String.append_assoc] at heq
      exact absurd heq (head_ne_fromDual hhead _ _)
  · exact hbare

/-- Behind a bare select list the end is the right place, and the list is seen to have no FROM. -/
theorem addDual_of_bare (hbare : q.Bare) (ht : t.AvoidsFrom)
    (htexts : ∀ text ∈ q.selectTexts, mentionsFrom text.toList = false) :
    Dialect.addDual (q.sqlFrom d t "") = q.sqlFrom d t " FROM DUAL" := by
  obtain ⟨rest, hselect⟩ := Template.text_selectList d t 0 q.distinct q.select
  have hlist := Template.avoidsFrom_selectList d q htexts t 0 ht
  rw [h.sqlFrom_of_bare hbare, h.sqlFrom_of_bare hbare, String.append_empty]
  exact Dialect.addDual_of_select hselect hlist

end Query.Tableless

/-- **A selection from no table reads from DUAL exactly if it is bare.**  To prepare it a session
asks its client for one statement, and then for values to be bound.  If there is no page, no
condition, no group and no order, then the statement has FROM DUAL in the place of its FROM clause,
and otherwise it does not. -/
theorem prepare_fromDual_iff (s : Session Script) (q : Query) (h : q.Tableless)
    (htable : s.aliases.AvoidsFrom)
    (htexts : ∀ text ∈ q.selectTexts, mentionsFrom text.toList = false)
    (log : List Scripted.Call) :
    ∃ sql binds, ((s.prepare q).run log).2 = log ++ .prepare sql :: binds ∧
      (∀ call ∈ binds, call.Binds) ∧
      (sql = q.sqlFrom s.dialect s.aliases " FROM DUAL" ↔ q.Bare) := by
  obtain ⟨c, hc, hsql⟩ := h.compile s.dialect s.aliases
  obtain ⟨binds, hlog, hbinds⟩ := s.opens_prepare q hc log
  refine ⟨_, binds, hlog, hbinds, ?_⟩
  rw [hsql]
  constructor
  · intro heq
    exact h.bare_of_addDual heq
  · intro hbare
    exact h.addDual_of_bare hbare htable htexts

/-- The sum of two numbers, from no table. -/
def sumQuery : Query := { select := [⟨.raw "1 + 1", none⟩] }

/-- A session that has made no alias yet. -/
def freshSession : Session Script := ⟨{}, {}, {}⟩

theorem AliasTable.avoidsFrom_default : AvoidsFrom {} :=
  ⟨valid_empty 30 "XXAUTO_SHORTENED_ID", by decide⟩

/-- The sum is bare, and within a page it is not. -/
theorem prepare_fromDual_iff_sum :
    (∃ sql binds, ((freshSession.prepare sumQuery).run []).2 = [] ++ .prepare sql :: binds ∧
      sql = "SELECT 1 + 1 FROM DUAL") ∧
    ∃ sql binds,
      ((freshSession.prepare (sumQuery.withLimit 5)).run []).2 = [] ++ .prepare sql :: binds ∧
      sql ≠ "SELECT /*+ FIRST_ROWS(5) */ a.* FROM (SELECT 1 + 1 FROM DUAL) a"
        ++ " WHERE ROWNUM <= :QAIL_MAX_ROW_TO_FETCH" := by
  have htexts : ∀ text ∈ sumQuery.selectTexts, mentionsFrom text.toList = false := by decide
  constructor
  · obtain ⟨sql, binds, hlog, -, hiff⟩ :=
      prepare_fromDual_iff freshSession sumQuery ⟨rfl, rfl, rfl, rfl, rfl⟩
        AliasTable.avoidsFrom_default htexts []
    exact ⟨sql, binds, hlog, hiff.mpr ⟨rfl, rfl, rfl, rfl, rfl⟩⟩
  · obtain ⟨sql, binds, hlog, -, hiff⟩ :=
      prepare_fromDual_iff freshSession (sumQuery.withLimit 5) ⟨rfl, rfl, rfl, rfl, rfl⟩
        AliasTable.avoidsFrom_default htexts []
    refine ⟨sql, binds, hlog, fun hsql => ?_⟩
    have hbare := hiff.mp hsql
    exact absurd hbare.page (by decide)

/-- Inside a page the selection is left without FROM, and behind a condition FROM comes too late. -/
theorem fromDual_misplaced_sum :
    (∃ sql binds, ((freshSession.prepare (sumQuery.withLimit 5)).run []).2 = .prepare sql :: binds ∧
      sql = "SELECT /*+ FIRST_ROWS(5) */ a.* FROM (SELECT 1 + 1) a"
        ++ " WHERE ROWNUM <= :QAIL_MAX_ROW_TO_FETCH" ∧
      sql ≠ (sumQuery.withLimit 5).sqlFrom {} {} " FROM DUAL") ∧
    ∃ sql binds,
      ((freshSession.prepare (sumQuery.filter (.raw "1 = 0"))).run []).2 = .prepare sql :: binds ∧
      sql = "SELECT 1 + 1 WHERE 1 = 0 FROM DUAL" ∧
      sql ≠ (sumQuery.filter (.raw "1 = 0")).sqlFrom {} {} " FROM DUAL" := by
  constructor
  · exact ⟨_, _, rfl, rfl, by decide +kernel⟩
  · exact ⟨_, _, rfl, rfl, by decide +kernel⟩

end RownumSql
