import RownumSql.Proofs.OutputNames
import RownumSql.Proofs.SelectListTexts
import RownumSql.Proofs.SelectTree
import RownumSql.Proofs.Walk

/-!
# The texts of a query

A selection is written from the names and the SQL that the query is given, and from words.  A
property of templates that these have, and that is kept where templates are put together, is one of
the whole selection: its clauses, its windows and the branches of its union are gone through here,
once for all such properties.

    every text of q has T → the selection has Q                              (Composes.ofQuery)
-/

namespace RownumSql

/-! ## Texts of a query -/

def TableRef.texts (t : TableRef) : List String := t.name :: t.label.toList

def Join.texts (j : Join) : List String := j.table.texts ++ Expr.textsOfAll j.on

/-- The names and the SQL behind the body of a query. -/
def Epilog.texts : Option Epilog → List String
  | none => []
  | some (.sql text) => [text]
  | some (.expr e) => e.texts

def Update.texts (u : Update) : List String :=
  u.table :: u.assignments.flatMap fun a => a.column :: a.value.texts

namespace Query

/-- The names and the SQL of the clauses of a query, apart from the queries inside it. -/
def clauseTexts (q : Query) : List String :=
  q.selectTexts ++ (q.tables.flatMap TableRef.texts ++ (q.joins.flatMap Join.texts ++
    (Expr.textsOfAll q.conditions ++ (Expr.textsOfAll q.groups ++ (Expr.textsOfAll q.having ++
      (q.order.flatMap (fun k => k.expr.texts) ++ (Epilog.texts q.epilog ++
        q.update.toList.flatMap Update.texts)))))))

mutual
/-- All names and SQL that a query of any kind is given. -/
def texts : Query → List String
  | q@{ branches, insertion, .. } =>
    q.clauseTexts ++ (textsOfBranches branches ++ textsOfInsertion insertion)

def textsOfBranches : List (Branch Query) → List String
  | [] => []
  | ⟨_, q⟩ :: rest => texts q ++ textsOfBranches rest

def textsOfInsertion : Option (Insertion Query) → List String
  | none => []
  | some ⟨table, columns, rows, source⟩ =>
    table :: columns ++ (rows.flatMap Expr.textsOfAll ++ textsOfSource source)

def textsOfSource : Option Query → List String
  | none => []
  | some q => texts q
end

theorem texts_eq (q : Query) :
    q.texts = q.clauseTexts ++ (textsOfBranches q.branches ++ textsOfInsertion q.insertion) := by
  cases q
  rw [texts]

theorem textsOfBranches_eq_flatMap (bs : List (Branch Query)) :
    textsOfBranches bs = bs.flatMap fun b => b.query.texts := by
  induction bs with
  | nil => rfl
  | cons b rest ih => rw [textsOfBranches, ih, List.flatMap_cons]

end Query

/-! ## Properties that are kept -/

/-- The text has neither parentheses nor colons. -/
def Text.Unmarked (text : String) : Prop :=
  '(' ∉ text.toList ∧ ')' ∉ text.toList ∧ ':' ∉ text.toList

instance (text : String) : Decidable (Text.Unmarked text) := inferInstanceAs (Decidable (_ ∧ _ ∧ _))

/-- `Q` is a property of templates that are written from words and from texts with the property `T`:
it is kept wherever the templates of a selection are put together. -/
structure Composes (T : String → Prop) (Q : Template → Prop) : Prop where
  unmarked : ∀ {text}, Text.Unmarked text → T text
  spaced : ∀ {text}, T text → T (" " ++ text)
  nil : Q []
  append : ∀ {s u}, Q s → Q u → Q (s ++ u)
  sql : ∀ {text}, T text → Q [.sql text]
  identifier : ∀ {name}, T name → Q [.identifier name]
  scalar : ∀ v, Q [.scalar v]
  branch : Q [.branch]
  enclosed : ∀ {text s}, T text → Q s → Q (.sql (text ++ "(") :: s ++ [.sql ")"])
  counting : ∀ (numbered : Bool) {cap : Option (String × UInt64)} {s : Template},
    (∀ name last, cap = some (name, last) → ∃ k, name = (windowNames k).maxRow) → Q s →
    Q (.countOpening numbered cap ++ s ++ .countClosing cap)
  skipping : ∀ (k : Nat) (offset : UInt64) {s : Template}, Q s →
    Q (.skipOpening (windowNames k).offset offset ++ s ++ .skipClosing (windowNames k).offset)

namespace Composes
variable {T : String → Prop} {Q : Template → Prop} (h : Composes T Q)
include h

theorem words {text : String} (htext : Text.Unmarked text) : Q [.sql text] :=
  h.sql (h.unmarked htext)

theorem cons {x : Piece} {s : Template} (hx : Q [x]) (hs : Q s) : Q (x :: s) := h.append hx hs

theorem joined {separator : String} (hseparator : Text.Unmarked separator) {ss : List Template}
    (hss : ∀ s ∈ ss, Q s) : Q (.joined separator ss) := by
  induction ss with
  | nil => exact h.nil
  | cons s rest ih =>
    obtain ⟨hs, hrest⟩ := List.forall_mem_cons.mp hss
    cases rest with
    | nil => exact hs
    | cons u rest => exact h.append hs (h.cons (h.words hseparator) (ih hrest))

theorem clause {keyword separator : String} (hkeyword : Text.Unmarked (keyword ++ " "))
    (hseparator : Text.Unmarked separator) {ss : List Template} (hss : ∀ s ∈ ss, Q s) :
    Q (.clause keyword separator ss) := by
  unfold Template.clause
  split
  · exact h.nil
  · exact h.cons (h.words hkeyword) (h.joined hseparator hss)

theorem names {names : List String} (hnames : ∀ name ∈ names, T name) :
    Q (.joined ", " (names.map fun name => [.identifier name])) := by
  refine h.joined (by decide) ?_
  rw [List.forall_mem_map]
  exact fun name hname => h.identifier (hnames name hname)

/-! ## Expressions and clauses -/

theorem expr {e : Expr} (he : ∀ text ∈ e.texts, T text) : Q e.template := by
  induction e using Expr.induction with
  | column name => exact h.identifier (he name List.mem_cons_self)
  | value v =>
    rw [Expr.template]
    split
    · exact h.words (by decide)
    · exact h.scalar v
  | raw sql => exact h.sql (he sql List.mem_cons_self)
  | compare left op right hl hr =>
    rw [Expr.texts, List.forall_mem_append] at he
    rw [Expr.template]
    refine h.append (hl he.1) ?_
    split
    · exact h.words (by cases op <;> decide)
    · next hbinary =>
      rw [if_neg hbinary] at he
      exact h.cons (h.words (by cases op <;> decide)) (hr he.2)
  | function name args ih =>
    rw [Expr.texts, Expr.textsOfAll_eq_flatMap, List.forall_mem_cons,
      List.forall_mem_flatMap] at he
    rw [Expr.template, Expr.templates_eq_map]
    refine h.enclosed he.1 (h.joined (by decide) ?_)
    rw [List.forall_mem_map]
    exact fun e hmem => ih e hmem (he.2 e hmem)

theorem exprs {es : List Expr} (hes : ∀ text ∈ Expr.textsOfAll es, T text) :
    ∀ s ∈ es.map Expr.template, Q s := by
  rw [Expr.textsOfAll_eq_flatMap, List.forall_mem_flatMap] at hes
  rw [List.forall_mem_map]
  exact fun e he => h.expr (hes e he)

theorem selectItem {item : SelectItem} (hitem : ∀ text ∈ item.texts, T text) :
    Q item.template := by
  rw [SelectItem.texts, List.forall_mem_append] at hitem
  rw [SelectItem.template]
  refine h.append (h.expr hitem.1) ?_
  cases hlabel : item.label with
  | none => exact h.nil
  | some label =>
    rw [hlabel] at hitem
    exact h.cons (h.words (by decide)) (h.identifier (hitem.2 label List.mem_cons_self))

theorem table {t : TableRef} (ht : ∀ text ∈ t.texts, T text) : Q t.template := by
  rw [TableRef.texts, List.forall_mem_cons] at ht
  rw [TableRef.template]
  refine h.cons (h.identifier ht.1) ?_
  cases hlabel : t.label with
  | none => exact h.nil
  | some label =>
    rw [hlabel] at ht
    exact h.cons (h.words (by decide)) (h.identifier (ht.2 label List.mem_cons_self))

theorem sortKey {k : SortKey} (hk : ∀ text ∈ k.expr.texts, T text) : Q k.template :=
  h.append (h.expr hk) (h.words (by cases k.order <;> decide))

theorem joins {js : List Join} (hjs : ∀ text ∈ js.flatMap Join.texts, T text) :
    Q (.joins js) := by
  induction js with
  | nil => exact h.nil
  | cons j rest ih =>
    rw [List.flatMap_cons, List.forall_mem_append, Join.texts, List.forall_mem_append] at hjs
    obtain ⟨⟨htable, hon⟩, hrest⟩ := hjs
    have hword : Text.Unmarked (" " ++ j.kind.sql ++ " ") := by cases j.kind <;> decide
    have hcondition : Q (.clause " ON" " AND " (j.on.map Expr.template)) :=
      h.clause (by decide) (by decide) (h.exprs hon)
    exact h.append (h.append (h.cons (h.words hword) (h.table htable)) hcondition) (ih hrest)

theorem epilog {epilog : Option Epilog} (hepilog : ∀ text ∈ Epilog.texts epilog, T text) :
    Q (.epilog epilog) := by
  match epilog with
  | none => exact h.nil
  | some (.sql text) => exact h.sql (h.spaced (hepilog text List.mem_cons_self))
  | some (.expr e) => exact h.cons (h.words (by decide)) (h.expr hepilog)

theorem selectList {distinct : Bool} {items : List SelectItem}
    (hitems : ∀ text ∈ items.flatMap SelectItem.texts, T text) :
    Q (.selectList distinct items) := by
  unfold Template.selectList
  refine h.cons (h.words (by cases distinct <;> decide)) ?_
  split
  · exact h.words (by decide)
  · refine h.joined (by decide) ?_
    rw [List.forall_mem_map]
    exact fun item hitem => h.selectItem (List.forall_mem_flatMap.mp hitems item hitem)

/-- What a query writes without the queries inside it. -/
theorem clauses {q : Query} (hq : ∀ text ∈ q.clauseTexts, T text) :
    Q (.selectList q.distinct q.select) ∧ Q (.clauses q) ∧ Q (.epilog q.epilog) := by
  simp only [Query.clauseTexts, List.forall_mem_append] at hq
  obtain ⟨hselect, htables, hjoins, hconditions, hgroups, hhaving, horder, hepilog, -⟩ := hq
  refine ⟨h.selectList hselect, ?_, h.epilog hepilog⟩
  rw [List.forall_mem_flatMap] at htables horder
  have hfrom : Q (.clause " FROM" ", " (q.tables.map TableRef.template)) := by
    refine h.clause (by decide) (by decide) ?_
    rw [List.forall_mem_map]
    exact fun t ht => h.table (htables t ht)
  have hwhere : Q (.clause " WHERE" " AND " (q.conditions.map Expr.template)) :=
    h.clause (by decide) (by decide) (h.exprs hconditions)
  have hgroup : Q (.clause " GROUP BY" ", " (q.groups.map Expr.template)) :=
    h.clause (by decide) (by decide) (h.exprs hgroups)
  have hgroupConditions : Q (.clause " HAVING" " AND " (q.having.map Expr.template)) :=
    h.clause (by decide) (by decide) (h.exprs hhaving)
  have hsort : Q (.clause " ORDER BY" ", " (q.order.map SortKey.template)) := by
    refine h.clause (by decide) (by decide) ?_
    rw [List.forall_mem_map]
    exact fun k hk => h.sortKey (horder k hk)
  have hrows := h.append (h.append hfrom (h.joins hjoins)) hwhere
  exact h.append (h.append (h.append hrows hgroup) hgroupConditions) hsort

/-! ## Windows and branches -/

theorem windowed (k : Nat) (limit offset : UInt64) {s : SelectTree} (hs : Q s.template) :
    Q (SelectTree.windowed (windowNames k) limit offset s).template := by
  have hcap (name : String) (last : UInt64)
      (hname : Template.cap (windowNames k) limit offset = some (name, last)) :
      ∃ k, name = (windowNames k).maxRow := by
    unfold Template.cap at hname
    split at hname
    · cases hname
      exact ⟨k, rfl⟩
    · cases hname
  have hcounted : Q (if 0 < limit ∨ 0 < offset then SelectTree.counting (0 < offset)
      (Template.cap (windowNames k) limit offset) s else s).template := by
    split
    · rw [SelectTree.template]
      exact h.counting _ hcap hs
    · exact hs
  unfold SelectTree.windowed
  by_cases ho : 0 < offset
  · rw [if_pos ho, SelectTree.template]
    exact h.skipping k offset hcounted
  · rw [if_neg ho]
    exact hcounted

/-- The name of an item is its label or a word. -/
theorem itemName {item : SelectItem} {name : String} (hitem : ∀ text ∈ item.texts, T text)
    (hname : Emit.itemName? item = some name) : T name := by
  obtain ⟨expr, label⟩ := item
  cases label with
  | some label =>
    cases hname
    exact hitem name (List.mem_append_right _ List.mem_cons_self)
  | none =>
    cases expr with
    | column column =>
      have hword := (Emit.itemName?_column hname).2
      rw [AliasTable.isWord, Bool.and_eq_true, List.all_eq_true] at hword
      have hnot (c : Char) (hc : AliasTable.isWordChar c = false) : c ∉ name.toList := by
        intro hmem
        rw [hword.2 c hmem] at hc
        cases hc
      exact h.unmarked ⟨hnot '(' (by decide), hnot ')' (by decide), hnot ':' (by decide)⟩
    | _ => cases hname

theorem itemNames {items : List SelectItem}
    (hitems : ∀ text ∈ items.flatMap SelectItem.texts, T text) :
    ∀ name ∈ Outline.itemNames items, T name := by
  induction items with
  | nil =>
    intro name hname
    cases hname
  | cons item rest ih =>
    rw [List.flatMap_cons, List.forall_mem_append] at hitems
    rw [Outline.itemNames]
    split
    · next name hname =>
      exact List.forall_mem_cons.mpr ⟨h.itemName hitems.1 hname, ih hitems.2⟩
    · intro name hname
      cases hname

theorem projected {q : Query} {s : SelectTree} (hs : Q s.template)
    (hq : ∀ text ∈ q.selectTexts, T text) : Q (SelectTree.branch q s).template := by
  unfold SelectTree.branch
  split
  · have hselect : Q [.sql "SELECT "] := h.words (by decide)
    have hfrom : T " FROM " := h.unmarked (by decide)
    have hinner : Q (.sql " FROM (" :: s.template ++ [.sql ")"]) := h.enclosed hfrom hs
    have hbranch := h.cons hselect (h.append (h.names (h.itemNames hq)) hinner)
    simpa [SelectTree.template] using hbranch
  · exact hs

theorem branchWords (all : Bool) (q : Query) : Q (SelectTree.words all q) := by
  refine h.cons (h.words (by cases all <;> decide)) ?_
  split
  · exact h.branch
  · exact h.nil

theorem branches {bs : List (Branch Query)} (n : Nat)
    (ih : ∀ b ∈ bs, (∀ text ∈ b.query.texts, T text) →
      ∀ k n, Q (SelectTree.ofQuery (windowNames k) n b.query).template)
    (hbs : ∀ text ∈ Query.textsOfBranches bs, T text) :
    Q (SelectTree.templates (SelectTree.ofBranches n bs)) := by
  induction bs generalizing n with
  | nil => exact h.nil
  | cons b rest ihr =>
    obtain ⟨all, q⟩ := b
    obtain ⟨hq, hrest⟩ := List.forall_mem_cons.mp ih
    rw [Query.textsOfBranches, List.forall_mem_append] at hbs
    have hnames : ∃ k, Outline.branchNames n q = windowNames k := by
      unfold Outline.branchNames
      split
      · exact ⟨n + 1, (windowNames_succ n).symm⟩
      · exact ⟨0, windowNames_zero.symm⟩
    obtain ⟨k, hk⟩ := hnames
    have hselect : ∀ text ∈ q.selectTexts, T text := by
      intro text htext
      apply hbs.1
      rw [Query.texts_eq, Query.clauseTexts]
      exact List.mem_append_left _ (List.mem_append_left _ htext)
    rw [SelectTree.ofBranches, SelectTree.templates, hk]
    refine h.append (h.append (h.branchWords all q) ?_) (ihr _ hrest hbs.2)
    exact h.projected (hq hbs.1 k _) hselect

/-! ## Selections -/

/-- A selection has the property, whatever windows and branches are in it. -/
theorem ofQuery {q : Query} (hq : ∀ text ∈ q.texts, T text) (k n : Nat) :
    Q (SelectTree.ofQuery (windowNames k) n q).template := by
  induction q using Query.induction generalizing k n with
  | node q ih =>
    rw [Query.texts_eq, List.forall_mem_append, List.forall_mem_append] at hq
    obtain ⟨hclauses, hbranches, -⟩ := hq
    obtain ⟨hselect, hrest, hepilog⟩ := h.clauses hclauses
    have hunion : Q (SelectTree.templates (SelectTree.ofBranches n q.branches)) :=
      h.branches n (fun b hb htexts k n => ih b hb htexts k n) hbranches
    rw [SelectTree.ofQuery_eq]
    refine h.windowed k _ _ ?_
    rw [SelectTree.template]
    exact h.append (h.append (h.append hselect hrest) hunion) hepilog

end Composes

end RownumSql
