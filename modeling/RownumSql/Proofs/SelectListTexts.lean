import RownumSql.Proofs.FromWord
import RownumSql.Proofs.Recompilation

/-!
# Select lists without the word FROM

A select list is written from the names and the SQL of its items, and it mentions FROM only if one
of them does: placeholders, operators, quotes and what stands between items add no word to it that
is FROM.

    no text of the items mentions FROM → the select list does not      (avoidsFrom_selectList)
-/

namespace RownumSql

open Text (mentionsFrom mentionsFrom_append_cons Separates)

/-! ## Names -/

namespace AliasTable

/-- No alias of the table mentions FROM, and none that is still to come. -/
structure AvoidsFrom (t : AliasTable) : Prop where
  valid : t.Valid
  stem : mentionsFrom t.stem.toList = false

namespace AvoidsFrom
variable {t : AliasTable} (h : t.AvoidsFrom)
include h

theorem of_grows {t' : AliasTable} (hgrows : t.Grows t') : t'.AvoidsFrom :=
  ⟨hgrows.valid h.valid, hgrows.stem ▸ h.stem⟩

theorem numbered (n : Nat) : mentionsFrom (t.stem ++ toString n).toList = false := by
  rw [String.toList_append]
  exact Text.mentionsFrom_append_toString n h.stem

theorem nameOf {s : String} (hs : mentionsFrom s.toList = false) :
    mentionsFrom (t.nameOf s).toList = false := by
  rcases h.valid.nameOf_eq s with hself | ⟨n, hn⟩
  · rw [hself]
    exact hs
  · rw [hn]
    exact h.numbered n

end AvoidsFrom

end AliasTable

namespace Dialect
variable (d : Dialect) {t : AliasTable}

theorem mentionsFrom_parts {name : String} (h : mentionsFrom name.toList = false) :
    ∀ part ∈ parts name, mentionsFrom part.toList = false := by
  intro part hpart
  obtain ⟨cs, hcs, rfl⟩ := List.mem_map.mp hpart
  rw [String.toList_ofList]
  exact Text.mentionsFrom_splitOn rfl h cs hcs

theorem mentionsFrom_quotePart (ht : t.AvoidsFrom) {part : String}
    (h : mentionsFrom part.toList = false) :
    mentionsFrom ((d.quotePart part).run t).1.toList = false := by
  unfold quotePart
  split
  · exact h
  · show mentionsFrom (if d.quotes then Text.quoted '"' (t.nameOf part) else t.nameOf part).toList
      = false
    split
    · rw [Text.mentionsFrom_quoted]
      exact ht.nameOf h
    · exact ht.nameOf h

theorem mentionsFrom_quoteParts (ht : t.AvoidsFrom) {parts : List String}
    (h : ∀ part ∈ parts, mentionsFrom part.toList = false) :
    ∀ text ∈ ((d.quoteParts parts).run t).1, mentionsFrom text.toList = false := by
  induction parts generalizing t with
  | nil => exact fun _ htext => nomatch htext
  | cons part rest ih =>
    obtain ⟨hpart, hrest⟩ := List.forall_mem_cons.mp h
    exact List.forall_mem_cons.mpr ⟨d.mentionsFrom_quotePart ht hpart,
      ih (ht.of_grows (d.grows_quotePart part t)) hrest⟩

theorem mentionsFrom_quote (ht : t.AvoidsFrom) {name : String}
    (h : mentionsFrom name.toList = false) :
    mentionsFrom ((d.quote name).run t).1.toList = false := by
  unfold quote
  split
  · exact h
  · have hpoint : Separates ".".toList := Text.separates_mark (x := '.') rfl
    exact Text.mentionsFrom_intercalate hpoint (d.mentionsFrom_quoteParts ht (mentionsFrom_parts h))

end Dialect

/-! ## Templates -/

namespace Template
variable (d : Dialect)

theorem grows_aliases (s : Template) (t : AliasTable) : t.Grows (s.aliases d t) := by
  have hgrows := (Emit.repeats_fill d s).grows { aliases := t }
  rw [run_fill] at hgrows
  exact hgrows

/-- The template is written without FROM under tables that do not mention it. -/
def AvoidsFrom (s : Template) : Prop :=
  ∀ t n, t.AvoidsFrom → mentionsFrom (s.text d t n).toList = false

variable {d}

theorem avoidsFrom_sql {text : String} (h : mentionsFrom text.toList = false) :
    AvoidsFrom d [.sql text] := by
  intro t n _
  show mentionsFrom (text ++ "").toList = false
  rw [String.append_empty]
  exact h

theorem avoidsFrom_identifier {name : String} (h : mentionsFrom name.toList = false) :
    AvoidsFrom d [.identifier name] := by
  intro t n ht
  show mentionsFrom (((d.quote name).run t).1 ++ "").toList = false
  rw [String.append_empty]
  exact d.mentionsFrom_quote ht h

theorem avoidsFrom_scalar (v : Value) : AvoidsFrom d [.scalar v] := by
  intro t n _
  show mentionsFrom (":" ++ ("c" ++ toString n) ++ "").toList = false
  rw [String.append_empty, ← String.append_assoc, String.toList_append]
  exact Text.mentionsFrom_append_toString n (by decide)

theorem AvoidsFrom.append {s u : Template} (hs : AvoidsFrom d s) (hu : AvoidsFrom d u)
    {text : String} (htext : Separates text.toList) : AvoidsFrom d (s ++ .sql text :: u) := by
  intro t n ht
  have hrest := hu (s.aliases d t) (n + s.scalars) (ht.of_grows (grows_aliases d s t))
  rw [text_append]
  show mentionsFrom (s.text d t n ++ (text ++ u.text d (s.aliases d t) (n + s.scalars))).toList
    = false
  rw [String.toList_append, String.toList_append, htext, hs t n ht, hrest]
  rfl

/-- A text behind a template that begins with a mark. -/
theorem AvoidsFrom.append_sql {s : Template} (hs : AvoidsFrom d s) {text : String} {x : Char}
    {back : List Char} (htext : text.toList = x :: back) (hx : Text.isMark x)
    (hback : mentionsFrom back = false) : AvoidsFrom d (s ++ [.sql text]) := by
  intro t n ht
  rw [text_append]
  show mentionsFrom (s.text d t n ++ (text ++ "")).toList = false
  rw [String.append_empty, String.toList_append, htext, mentionsFrom_append_cons hx, hs t n ht,
    hback]
  rfl

/-- A text in front of a template that ends with a mark. -/
theorem AvoidsFrom.sql_cons {s : Template} (hs : AvoidsFrom d s) {text : String} {x : Char}
    {a : List Char} (htext : text.toList = a ++ [x]) (hx : Text.isMark x)
    (ha : mentionsFrom a = false) : AvoidsFrom d (.sql text :: s) := by
  intro t n ht
  show mentionsFrom (text ++ s.text d t n).toList = false
  rw [String.toList_append, htext, ← List.append_cons, mentionsFrom_append_cons hx, ha,
    hs t n ht]
  rfl

theorem avoidsFrom_texts {ss : List Template} (h : ∀ s ∈ ss, AvoidsFrom d s) {t : AliasTable}
    (ht : t.AvoidsFrom) (n : Nat) : ∀ text ∈ texts d t n ss, mentionsFrom text.toList = false := by
  induction ss generalizing t n with
  | nil => exact fun _ htext => nomatch htext
  | cons s rest ih =>
    obtain ⟨hs, hrest⟩ := List.forall_mem_cons.mp h
    exact List.forall_mem_cons.mpr ⟨hs t n ht, ih hrest (ht.of_grows (grows_aliases d s t)) _⟩

theorem avoidsFrom_joined {ss : List Template} (h : ∀ s ∈ ss, AvoidsFrom d s) :
    AvoidsFrom d (joined ", " ss) := by
  intro t n ht
  have hcomma : Separates ", ".toList :=
    Text.separates_between (x := ',') (y := ' ') (m := []) rfl rfl rfl
  rw [text_joined]
  exact Text.mentionsFrom_intercalate hcomma (avoidsFrom_texts h ht n)

end Template

/-! ## Expressions -/

namespace Expr

mutual
/-- The names and the SQL that an expression is written from. -/
def texts : Expr → List String
  | column name => [name]
  | value _ => []
  | raw sql => [sql]
  | compare left op right => texts left ++ if op.isUnary then [] else texts right
  | function name args => name :: textsOfAll args

/-- The names and the SQL that expressions are written from. -/
def textsOfAll : List Expr → List String
  | [] => []
  | e :: es => texts e ++ textsOfAll es
end

theorem textsOfAll_eq_flatMap (es : List Expr) : textsOfAll es = es.flatMap texts := by
  induction es with
  | nil => rfl
  | cons e es ih => rw [textsOfAll, ih, List.flatMap_cons]

theorem mentionsFrom_operator (op : Operator) : mentionsFrom op.sql.toList = false := by
  cases op <;> decide

theorem avoidsFrom_template (d : Dialect) {e : Expr}
    (h : ∀ text ∈ e.texts, mentionsFrom text.toList = false) :
    Template.AvoidsFrom d e.template := by
  induction e using Expr.induction with
  | column name => exact Template.avoidsFrom_identifier (h name List.mem_cons_self)
  | value v =>
    rw [template]
    split
    · exact Template.avoidsFrom_sql (by decide)
    · exact Template.avoidsFrom_scalar v
  | raw sql => exact Template.avoidsFrom_sql (h sql List.mem_cons_self)
  | compare left op right hl hr =>
    rw [texts, List.forall_mem_append] at h
    rw [template]
    split
    · refine (hl h.1).append_sql ?_ (x := ' ') rfl (mentionsFrom_operator op)
      rw [String.toList_append]
      rfl
    · next hbinary =>
      rw [if_neg hbinary] at h
      refine (hl h.1).append (hr h.2) ?_
      rw [String.toList_append, String.toList_append]
      exact Text.separates_between rfl rfl (mentionsFrom_operator op)
  | function name args ih =>
    rw [texts, textsOfAll_eq_flatMap, List.forall_mem_cons, List.forall_mem_flatMap] at h
    rw [template, templates_eq_map]
    have hargs : Template.AvoidsFrom d (Template.joined ", " (args.map template)) := by
      apply Template.avoidsFrom_joined
      intro s hs
      obtain ⟨e, he, rfl⟩ := List.mem_map.mp hs
      exact ih e he (h.2 e he)
    refine Template.AvoidsFrom.sql_cons ?_ ?_ (x := '(') rfl h.1
    · exact hargs.append_sql (x := ')') rfl rfl rfl
    · rw [String.toList_append]
      rfl

end Expr

/-! ## Select lists -/

/-- The names and the SQL that an item is written from. -/
def SelectItem.texts (item : SelectItem) : List String := item.expr.texts ++ item.label.toList

theorem SelectItem.avoidsFrom_template (d : Dialect) {item : SelectItem}
    (h : ∀ text ∈ item.texts, mentionsFrom text.toList = false) :
    Template.AvoidsFrom d item.template := by
  rw [texts, List.forall_mem_append] at h
  have hexpr := Expr.avoidsFrom_template d h.1
  rw [template]
  cases hlabel : item.label with
  | none =>
    rw [List.append_nil]
    exact hexpr
  | some label =>
    rw [hlabel] at h
    have has : Separates " AS ".toList :=
      Text.separates_between (x := ' ') (y := ' ') (m := "AS".toList) rfl rfl (by decide)
    exact hexpr.append (Template.avoidsFrom_identifier (h.2 label List.mem_cons_self)) has

/-- The names and the SQL that the select list of a query is written from. -/
def Query.selectTexts (q : Query) : List String := q.select.flatMap SelectItem.texts

/-- A select list does not mention FROM unless one of its names does or the SQL in it. -/
theorem Template.avoidsFrom_selectList (d : Dialect) (q : Query)
    (h : ∀ text ∈ q.selectTexts, mentionsFrom text.toList = false) :
    AvoidsFrom d (selectList q.distinct q.select) := by
  have hitems : AvoidsFrom d (joined ", " (q.select.map SelectItem.template)) := by
    apply avoidsFrom_joined
    intro s hs
    obtain ⟨item, hitem, rfl⟩ := List.mem_map.mp hs
    exact SelectItem.avoidsFrom_template d (List.forall_mem_flatMap.mp h item hitem)
  have hlist : AvoidsFrom d (if q.select.isEmpty then [.sql "*"]
      else joined ", " (q.select.map SelectItem.template)) := by
    split
    · exact avoidsFrom_sql (by decide)
    · exact hitems
  rw [selectList]
  split
  · exact hlist.sql_cons (x := ' ') (a := "SELECT DISTINCT".toList) rfl rfl (by decide)
  · exact hlist.sql_cons (x := ' ') (a := "SELECT".toList) rfl rfl (by decide)

end RownumSql
