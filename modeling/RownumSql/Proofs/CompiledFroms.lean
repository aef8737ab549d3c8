import RownumSql.Proofs.DateTexts
import RownumSql.Proofs.DefinitionNames
import RownumSql.Proofs.FromBetweenSpaces
import RownumSql.Proofs.QuotedNames
import RownumSql.Proofs.Recompilation

/-!
# FROM in compiled statements

A selection is given FROM DUAL if its text has no FROM between spaces, and a compiled one that reads
from a table has: behind its select list stands ` FROM ` and then the name of the table, which is
never blank, be it quoted, shortened or written as it is.  Insertions, updates and deletions do not
begin with SELECT.  So nothing that reads from a table is changed,

    addDual c.sql = c.sql                                          (addDual_keeps_compiled)

and no text is changed twice.
-/

namespace RownumSql

open Text (isBlank beginsWithSelect HasSpacedFrom)

/-! ## Texts with FROM, and texts that do not begin with SELECT -/

namespace Text

/-- Behind FROM between spaces there has to be more than blanks. -/
theorem hasSpacedFrom_append (front : String) {back : String}
    (h : ∃ c ∈ back.toList, isBlank c = false) :
    HasSpacedFrom (front ++ (" FROM " ++ back)).toList := by
  refine ⟨front.toList, "FROM".toList, back.toList, ?_, by decide, h⟩
  rw [String.toList_append, String.toList_append]
  rfl

theorem beginsWithSelect_cons {c : Char} (hblank : isBlank c = false) (hc : c.toLower ≠ 's')
    (cs : List Char) : beginsWithSelect (c :: cs) = false := by
  rw [beginsWithSelect, dropBlank_cons hblank, decide_eq_false_iff_not, List.take_succ_cons,
    List.map_cons]
  intro heq
  exact hc (List.cons.inj heq).1

end Text

namespace Dialect

/-- A text that has been given FROM DUAL has a FROM, and is given no other. -/
theorem addDual_addDual (sql : String) : addDual (addDual sql) = addDual sql := by
  obtain hsame | hadded := addDual_cases sql
  · rw [hsame, hsame]
  · have hdual : ∃ c ∈ "DUAL".toList, isBlank c = false := ⟨'D', by simp, rfl⟩
    have hfrom : " FROM DUAL" = " FROM " ++ "DUAL" := rfl
    rw [hadded, addDual_eq_self_iff, hfrom]
    exact .inr (Text.hasSpacedFrom_append sql hdual)

/-! ## Names that are not blank -/

section names
variable {t : AliasTable} (ht : t.Valid)
include ht

/-- Aliases end with digits, so only a blank word is blank once it is shortened. -/
theorem notBlank_nameOf {word : String} (h : ∃ c ∈ word.toList, isBlank c = false) :
    ∃ c ∈ (t.nameOf word).toList, isBlank c = false := by
  rcases ht.nameOf_eq word with hself | ⟨n, hn⟩
  · rw [hself]
    exact h
  · have hdigits : (toString n).toList = Text.numeral n := String.toList_ofList
    obtain ⟨digit, hdigit⟩ := List.exists_mem_of_ne_nil (Text.numeral n) Nat.toDigits_ne_nil
    refine ⟨digit, ?_, Text.isBlank_of_isDigit (Text.isDigit_of_mem_numeral hdigit)⟩
    rw [hn, String.toList_append, hdigits]
    exact List.mem_append_right _ hdigit

variable (d : Dialect)

theorem notBlank_quotePart {part : String} (h : ∃ c ∈ part.toList, isBlank c = false) :
    ∃ c ∈ ((d.quotePart part).run t).1.toList, isBlank c = false := by
  unfold quotePart
  split
  · exact h
  · show ∃ c ∈ (if d.quotes then Text.quoted '"' (t.nameOf part) else t.nameOf part).toList,
      isBlank c = false
    split
    · refine ⟨'"', ?_, rfl⟩
      rw [Text.toList_quoted]
      exact List.mem_cons_self
    · exact notBlank_nameOf ht h

/-- Only a blank name is written as blanks: of several parts the points stay, and a single part is
not blank. -/
theorem notBlank_written {name : String} (h : ∃ c ∈ name.toList, isBlank c = false) :
    ∃ c ∈ (d.written t name).toList, isBlank c = false := by
  unfold written quote
  split
  · exact h
  · show ∃ c ∈ (".".intercalate ((d.quoteParts (parts name)).run t).1).toList, isBlank c = false
    have hname := intercalate_parts name
    obtain ⟨part, rest, hparts⟩ := List.exists_cons_of_ne_nil (parts_ne_nil name)
    rw [hparts] at hname ⊢
    cases rest with
    | nil =>
      -- the only part is the name itself
      rw [String.intercalate_singleton] at hname
      show ∃ c ∈ (".".intercalate [((d.quotePart part).run t).1]).toList, isBlank c = false
      rw [String.intercalate_singleton]
      exact d.notBlank_quotePart ht (hname ▸ h)
    | cons next rest =>
      -- all parts may be empty, but there is a point behind the first
      let t' := ((d.quotePart part).run t).2
      show ∃ c ∈ (".".intercalate (((d.quotePart part).run t).1 :: ((d.quotePart next).run t').1
        :: _)).toList, isBlank c = false
      rw [String.intercalate_cons_cons, String.toList_append, String.toList_append]
      exact ⟨'.', by simp, rfl⟩

end names

end Dialect

/-! ## Compiled statements -/

namespace Template

theorem joined_cons (separator : String) (s : Template) (ss : List Template) :
    ∃ back, joined separator (s :: ss) = s ++ back := by
  cases ss with
  | nil => exact ⟨[], (List.append_nil s).symm⟩
  | cons u ss => exact ⟨_, rfl⟩

/-- The first of the clauses reads from the first table. -/
theorem clauses_of_tables {q : Query} {table : TableRef} {rest : List TableRef}
    (htables : q.tables = table :: rest) :
    ∃ back, clauses q = .sql " FROM " :: .identifier table.name :: back := by
  obtain ⟨back, hback⟩ := joined_cons ", " table.template (rest.map TableRef.template)
  have hclause : clause " FROM" ", " (q.tables.map TableRef.template) =
      .sql " FROM " :: (table.template ++ back) := by
    rw [htables, ← hback]
    rfl
  rw [clauses, hclause, TableRef.template]
  exact ⟨_, rfl⟩

end Template

namespace Query
variable {q : Query}

/-- A selection from tables has FROM in front of the name of the first. -/
theorem template_of_select (hkind : q.kind = .select) {table : TableRef} {rest : List TableRef}
    (htables : q.tables = table :: rest) :
    ∃ front back, q.tree.template = front ++ .sql " FROM " :: .identifier table.name :: back := by
  obtain ⟨back, hclauses⟩ := Template.clauses_of_tables htables
  let opening := Template.opening .outer q.limitValue q.offsetValue
  let list := Template.selectList q.distinct q.select
  let unions := SelectTree.templates (SelectTree.ofBranches 0 q.branches)
  let closing := Template.closing .outer q.limitValue q.offsetValue
  have htemplate : q.tree.template =
      opening ++ (list ++ Template.clauses q ++ unions ++ Template.epilog q.epilog ++ closing) := by
    rw [tree, hkind]
    show [] ++ (SelectTree.ofQuery .outer 0 q).template = _
    rw [SelectTree.ofQuery_eq, SelectTree.template_windowed, SelectTree.template]
    rfl
  refine ⟨opening ++ list, back ++ (unions ++ (Template.epilog q.epilog ++ closing)), ?_⟩
  rw [htemplate, hclauses]
  simp only [List.append_assoc, List.cons_append]

/-- The words of other kinds of statements. -/
def otherWords : List String := ["INSERT INTO ", "UPDATE ", "DELETE FROM "]

theorem exists_letter : ∀ word ∈ otherWords, ∃ x cs, word.toList = x :: cs ∧
    isBlank x = false ∧ x.toLower ≠ 's' := by
  unfold otherWords
  simp only [List.forall_mem_cons]
  refine ⟨⟨'I', _, rfl, rfl, by decide⟩, ⟨'U', _, rfl, rfl, by decide⟩,
    ⟨'D', _, rfl, rfl, by decide⟩, nofun⟩

/-- A statement of another kind begins with another word. -/
theorem template_of_ne_select (hkind : q.kind ≠ .select) :
    q.tree.template = [] ∨ ∃ word ∈ otherWords, ∃ rest,
      q.tree.template = .sql word :: rest := by
  unfold tree
  split
  · next h => exact absurd h hkind
  · next i _ _ =>
    rw [Emit.template_ofInsertion]
    exact .inr ⟨"INSERT INTO ", by simp [otherWords], _, rfl⟩
  · exact .inr ⟨"UPDATE ", by simp [otherWords], _, rfl⟩
  · exact .inr ⟨"DELETE FROM ", by simp [otherWords], _, rfl⟩
  · exact .inl rfl

/-- The query is a statement of another kind than a selection, or its first table has a name that is
not blank. -/
def ReadsTable (q : Query) : Prop :=
  q.kind = .select → ∃ table rest, q.tables = table :: rest ∧
    ∃ c ∈ table.name.toList, isBlank c = false

end Query

namespace Dialect
variable {d : Dialect} {t : AliasTable} {q : Query} {c : CompiledQuery}

theorem hasSpacedFrom_compiled (ht : t.Valid) (h : (d.compile t q).result = .ok c)
    (hkind : q.kind = .select) (hreads : q.ReadsTable) : HasSpacedFrom c.sql.toList := by
  obtain ⟨table, rest, htables, hname⟩ := hreads hkind
  obtain ⟨front, back, htemplate⟩ := Query.template_of_select hkind htables
  let u := (d.compile t q).aliases
  have hu : u.Valid := (d.grows_compile t q).valid ht
  have hwritten := notBlank_written hu d hname
  rw [sql_eq_spelled h (.refl u), htemplate, Template.spelled_append]
  refine Text.hasSpacedFrom_append _ ?_
  -- what is not blank in the name is not blank behind FROM
  obtain ⟨x, hx, hblank⟩ := hwritten
  refine ⟨x, ?_, hblank⟩
  show x ∈ (d.written u table.name ++ _).toList
  rw [String.toList_append]
  exact List.mem_append_left _ hx

theorem beginsWithSelect_compiled (h : (d.compile t q).result = .ok c)
    (hkind : q.kind ≠ .select) : beginsWithSelect c.sql.toList = false := by
  rw [sql_eq_spelled h (.refl _)]
  rcases Query.template_of_ne_select hkind with hnil | ⟨word, hword, rest, htemplate⟩
  · rw [hnil]
    rfl
  · rw [htemplate, Template.spelled, Piece.spelled, String.toList_append]
    obtain ⟨x, cs, hx, hblank, hletter⟩ := Query.exists_letter word hword
    rw [hx]
    exact Text.beginsWithSelect_cons hblank hletter _

end Dialect

/-- **What compiles is left as it is.**  Whatever was done before with the table of aliases, the SQL
of a selection whose first table has a name that is not blank, and that of any insertion, update or
deletion, is not given FROM DUAL; and no text is given it twice. -/
theorem addDual_keeps_compiled :
    (∀ (d : Dialect) (t : AliasTable) (q : Query) (c : CompiledQuery), t.Valid →
      (d.compile t q).result = .ok c → q.ReadsTable → Dialect.addDual c.sql = c.sql) ∧
    ∀ sql, Dialect.addDual (Dialect.addDual sql) = Dialect.addDual sql := by
  refine ⟨?_, Dialect.addDual_addDual⟩
  intro d t q c ht hcompile hreads
  rw [Dialect.addDual_eq_self_iff]
  by_cases hkind : q.kind = .select
  · exact .inr (Dialect.hasSpacedFrom_compiled ht hcompile hkind hreads)
  · exact .inl (Dialect.beginsWithSelect_compiled hcompile hkind)

/-- A page of a union, from a table whose alias begins with a space, without quotes. -/
theorem addDual_keeps_compiled_blankStem :
    let d : Dialect := { quotes := false }
    let t : AliasTable := { maxLength := 3, stem := " " }
    let rows : Query := { select := [⟨.raw "1", none⟩], tables := [⟨"books", none⟩] }
    let q : Query := { rows with branches := [⟨true, rows⟩], limit := some 5 }
    ∃ c, t.Valid ∧ (d.compile t q).result = .ok c ∧ q.ReadsTable ∧
      c.sql = "SELECT /*+ FIRST_ROWS(5) */ a.* FROM (SELECT 1 FROM  1 UNION ALL SELECT 1 FROM  1) a"
        ++ " WHERE ROWNUM <= :QAIL_MAX_ROW_TO_FETCH" ∧
      Dialect.addDual c.sql = c.sql ∧
      Dialect.addDual (Dialect.addDual "SELECT 1") = "SELECT 1 FROM DUAL" := by
  intro d t rows q
  let c : CompiledQuery :=
    { sql := "SELECT /*+ FIRST_ROWS(5) */ a.* FROM (SELECT 1 FROM  1 UNION ALL SELECT 1 FROM  1) a"
        ++ " WHERE ROWNUM <= :QAIL_MAX_ROW_TO_FETCH"
      bindings := [⟨.named "QAIL_MAX_ROW_TO_FETCH", .int 5⟩], kind := .select
      rowNumberColumn := false, buffered := true }
  have ht : t.Valid := AliasTable.valid_empty 3 " "
  have hreads : q.ReadsTable := fun _ => ⟨_, _, rfl, 'b', by simp, rfl⟩
  have hcompile : (d.compile t q).result = .ok c := by decide +kernel
  obtain ⟨hkeeps, htwice⟩ := addDual_keeps_compiled
  refine ⟨c, ht, hcompile, hreads, rfl, hkeeps d t q c ht hcompile hreads, ?_⟩
  rw [htwice]
  decide +kernel

end RownumSql
