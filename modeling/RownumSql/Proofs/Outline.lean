import RownumSql.Proofs.Scalars

/-!
# Outlines of selections

The outline of a selection is its template, up to the place where compiling stops if it does, and
the error that it stops with.  It depends on the query, the names of its window and the number of
branches with a page before it, on nothing else:

    select d names q  =  write the outline of q                                     (run_select)

So the aliases, the bindings and the text of a selection are those of a list of pieces.
-/

namespace RownumSql

/-! ## Row windows -/

namespace Template

/-- `SELECT * FROM (`, with the number of rows to skip. -/
def skipOpening (name : String) (offset : UInt64) : Template :=
  [.bound name (.ofUInt64 offset), .sql "SELECT * FROM ("]

/-- What follows `skipOpening` after the selection inside. -/
def skipClosing (name : String) : Template :=
  [.sql (") WHERE " ++ rowNumberColumn ++ " > "), .reference name]

/-- `SELECT a.* FROM (`, with the row number as one more column or the greatest row number. -/
def countOpening (numbered : Bool) (cap : Option (String × UInt64)) : Template :=
  (match cap with
    | some (name, last) => [.bound name (.ofUInt64 last)]
    | none => []) ++
  [.sql ("SELECT " ++ (match cap with
      | some (_, last) => "/*+ FIRST_ROWS(" ++ toString last.toNat ++ ") */ "
      | none => "")
    ++ "a.*" ++ (if numbered then ", ROWNUM " ++ rowNumberColumn else "") ++ " FROM (")]

/-- What follows `countOpening` after the selection inside. -/
def countClosing (cap : Option (String × UInt64)) : Template :=
  .sql ") a" :: match cap with
    | some (name, _) => [.sql " WHERE ROWNUM <= ", .reference name]
    | none => []

/-- The bound on the row numbers of a window, under its name. -/
def cap (names : PageNames) (limit offset : UInt64) : Option (String × UInt64) :=
  if 0 < limit then some (names.maxRow, Page.endRow limit offset) else none

/-- What opens a window. -/
def opening (names : PageNames) (limit offset : UInt64) : Template :=
  (if 0 < offset then skipOpening names.offset offset else []) ++
  if 0 < limit ∨ 0 < offset then countOpening (0 < offset) (cap names limit offset) else []

/-- What closes a window: the bound on the row numbers is inside. -/
def closing (names : PageNames) (limit offset : UInt64) : Template :=
  (if 0 < limit ∨ 0 < offset then countClosing (cap names limit offset) else []) ++
  if 0 < offset then skipClosing names.offset else []

/-- What a window binds, in order. -/
def bounds (names : PageNames) (limit offset : UInt64) : Template :=
  (if 0 < offset then [.bound names.offset (.ofUInt64 offset)] else []) ++
  if 0 < limit then [.bound names.maxRow (.ofUInt64 (Page.endRow limit offset))] else []

theorem marks_opening (names : PageNames) (limit offset : UInt64) :
    marks (opening names limit offset) = bounds names limit offset := by
  by_cases hl : 0 < limit <;> by_cases ho : 0 < offset <;>
    simp [opening, skipOpening, countOpening, cap, bounds, hl, ho]

theorem marks_closing (names : PageNames) (limit offset : UInt64) :
    marks (closing names limit offset) = [] := by
  by_cases hl : 0 < limit <;> by_cases ho : 0 < offset <;>
    simp [closing, skipClosing, countClosing, cap, hl, ho]

/-- Neither a window nor the clauses of a selection count a branch. -/
theorem branches_opening_clauses (names : PageNames) (q : Query) :
    branches (opening names q.limitValue q.offsetValue ++
      (selectList q.distinct q.select ++ clauses q)) = 0 := by
  have placed (vs : List Value) : branches (placeholders vs) = 0 := by
    induction vs with
    | nil => rfl
    | cons v vs ih => simpa [placeholders, branches, Piece.branches] using ih
  rw [← branches_marks, marks_append, marks_append, marks_clauses, marks_opening, branches_append,
    placed, bounds]
  split <;> split <;> rfl

end Template

namespace Page

/-- The opening text by its parts: what skips rows stands around what counts them. -/
theorem opening_eq (limit offset : UInt64) :
    opening limit offset = (if 0 < offset then "SELECT * FROM (" else "") ++
      if 0 < limit ∨ 0 < offset then
        "SELECT " ++ ((if 0 < limit then
            "/*+ FIRST_ROWS(" ++ toString (endRow limit offset).toNat ++ ") */ " else "") ++
          ("a.*" ++ ((if 0 < offset then ", ROWNUM " ++ rowNumberColumn else "") ++ " FROM (")))
      else "" := by
  have hhint : hint limit offset
      = "/*+ FIRST_ROWS(" ++ (toString (endRow limit offset).toNat ++ ") */") := by
    rw [← String.append_assoc]
    rfl
  by_cases hl : 0 < limit <;> by_cases ho : 0 < offset <;>
    simp [opening, hhint, hl, ho, ← String.toList_inj]

/-- The closing text by its parts. -/
theorem closing_eq (names : PageNames) (limit offset : UInt64) :
    (closing names limit offset).text limit offset =
      (if 0 < limit ∨ 0 < offset then
        ") a" ++ if 0 < limit then " WHERE ROWNUM <= " ++ (":" ++ names.maxRow) else ""
      else "") ++
      if 0 < offset then ") WHERE " ++ (rowNumberColumn ++ (" > " ++ (":" ++ names.offset)))
      else "" := by
  by_cases hl : 0 < limit <;> by_cases ho : 0 < offset <;>
    simp [closing, WindowClosing.text, hl, ho, ← String.toList_inj]

end Page

namespace Emit

theorem fill_opening (d : Dialect) (names : PageNames) (limit offset : UInt64) :
    fill d (Template.opening names limit offset) = (do
      Page.bindBounds names limit offset
      pure (Page.opening limit offset)) := by
  rw [Page.opening_eq]
  by_cases hl : 0 < limit <;> by_cases ho : 0 < offset <;>
    simp only [Template.opening, Template.skipOpening, Template.countOpening, Template.cap,
      Page.bindBounds, fill, piece, hl, ho, if_true, if_false, or_self, or_true, true_or,
      decide_true, decide_false, Bool.false_eq_true, List.cons_append, List.nil_append,
      List.append_nil, bind_assoc, pure_bind, String.append_assoc, String.append_empty,
      String.empty_append]

theorem fill_closing (d : Dialect) (names : PageNames) (limit offset : UInt64) :
    fill d (Template.closing names limit offset)
      = pure ((Page.closing names limit offset).text limit offset) := by
  rw [Page.closing_eq]
  by_cases hl : 0 < limit <;> by_cases ho : 0 < offset <;>
    simp only [Template.closing, Template.skipClosing, Template.countClosing, Template.cap, fill,
      piece, hl, ho, if_true, if_false, or_self, or_true, true_or, List.cons_append,
      List.nil_append, List.append_nil, pure_bind, String.append_assoc, String.append_empty]

end Emit

/-! ## Outlines -/

/-- A template, and the error that compiling stops with behind it if it stops. -/
structure Outline where
  template : Template
  error : Option SqlError := none

namespace Outline

/-- The second outline behind the first, unless the first stops. -/
def append (a b : Outline) : Outline :=
  match a.error with
  | some _ => a
  | none => ⟨a.template ++ b.template, b.error⟩

instance : Append Outline := ⟨append⟩

theorem append_assoc (a b c : Outline) : a ++ b ++ c = a ++ (b ++ c) := by
  obtain ⟨s, error⟩ := a
  cases error with
  | some e => rfl
  | none =>
    obtain ⟨u, error'⟩ := b
    cases error' with
    | some e => rfl
    | none =>
      show (⟨s ++ u ++ c.template, c.error⟩ : Outline) = ⟨s ++ (u ++ c.template), c.error⟩
      rw [List.append_assoc]

/-- What writing an outline comes to. -/
def write (d : Dialect) (o : Outline) : Emit (Except SqlError String) := do
  let text ← Emit.fill d o.template
  match o.error with
  | some e => pure (.error e)
  | none => pure (.ok text)

theorem write_append (d : Dialect) (a b : Outline) :
    (a ++ b).write d = (do
      match ← a.write d with
      | .error e => pure (.error e)
      | .ok text => do
        let rest ← b.write d
        pure (rest.map (text ++ ·))) := by
  obtain ⟨s, error⟩ := a
  obtain ⟨u, error'⟩ := b
  cases error with
  | some e =>
    show write d ⟨s, some e⟩ = _
    simp only [write, bind_assoc, pure_bind]
  | none =>
    show write d ⟨s ++ u, error'⟩ = _
    cases error' with
    | none => simp only [write, Emit.fill_append, bind_assoc, pure_bind, Except.map]
    | some e => simp only [write, Emit.fill_append, bind_assoc, pure_bind, Except.map]

theorem write_template (d : Dialect) (s : Template) :
    write d ⟨s, none⟩ = (do
      let text ← Emit.fill d s
      pure (.ok text)) := rfl

theorem write_sql_append (d : Dialect) (text : String) (o : Outline) :
    (⟨[.sql text], none⟩ ++ o).write d = (do
      let rest ← o.write d
      pure (rest.map (text ++ ·))) := by
  rw [write_append, write_template, Emit.fill_sql_cons, Emit.fill_nil]
  simp only [pure_bind, String.append_empty]

theorem write_append_sql (d : Dialect) (o : Outline) (text : String) :
    (o ++ ⟨[.sql text], none⟩).write d = (do
      let first ← o.write d
      pure (first.map (· ++ text))) := by
  rw [write_append, write_template, Emit.fill_sql_cons, Emit.fill_nil]
  simp only [pure_bind, String.append_empty]
  congr 1; funext first
  cases first <;> rfl

theorem run_write_branch_append (d : Dialect) (o : Outline) (p : Progress) :
    ((⟨[.branch], none⟩ ++ o).write d).run p =
      (o.write d).run { p with pagedBranches := p.pagedBranches + 1 } := by
  rw [write_append, write_template, Emit.fill, Emit.fill_nil]
  have h (r : Except SqlError String) : r.map (fun text => text) = r := by cases r <;> rfl
  simp only [Emit.piece, bind_assoc, pure_bind, String.empty_append, h, bind_pure]
  rfl

theorem run_write (d : Dialect) (o : Outline) (p : Progress) :
    (o.write d).run p =
      (match o.error with
        | some e => .error e
        | none => .ok (o.template.text d p.aliases p.bindings.next),
      o.template.after d p) := by
  unfold write
  rw [Emit.run_bind, Template.run_fill]
  cases o.error <;> rfl

theorem snd_run_write (d : Dialect) (o : Outline) (p : Progress) :
    ((o.write d).run p).2 = o.template.after d p := by
  rw [run_write]

end Outline

/-! ## Selections -/

/-- Whether the query has a limit or an offset that counts. -/
def Query.isPaged (q : Query) : Bool := 0 < q.limitValue || 0 < q.offsetValue

namespace Outline

/-- The names of items, up to the first that has none. -/
def itemNames : List SelectItem → List String
  | [] => []
  | item :: rest =>
    match Emit.itemName? item with
    | some name => name :: itemNames rest
    | none => []

/-- Whether the items can be selected again by their names. -/
def canProject (items : List SelectItem) : Bool :=
  !items.isEmpty && items.all fun item => (Emit.itemName? item).isSome

/-- The names of the select list around a branch. -/
def projection (items : List SelectItem) : Outline where
  template := .joined ", " ((itemNames items).map fun name => [.identifier name])
  error := if canProject items then none else some .unnamedBranch

/-- The names that the window of a branch binds, with `n` branches with a page before it. -/
def branchNames (n : Nat) (q : Query) : PageNames :=
  if q.isPaged then .branch (n + 1) else .outer

/-- A branch whose selection has the outline `inner`. -/
def branch (all : Bool) (q : Query) (inner : Outline) : Outline :=
  ⟨[.sql (Emit.unionWord all)], none⟩ ++
  if q.isPaged then
    ⟨[.branch], none⟩ ++
    if 0 < q.offsetValue then
      ⟨[.sql "SELECT "], none⟩ ++ (projection q.select ++ (⟨[.sql " FROM ("], none⟩ ++
        (inner ++ ⟨[.sql ")"], none⟩)))
    else inner
  else inner

theorem marks_projection (items : List SelectItem) : (projection items).template.marks = [] := by
  rw [projection, Template.marks_joined,
    Template.flatMap_marks _ _ (fun _ => []) fun name _ => rfl]
  simp [Template.placeholders]

mutual
/-- The outline of a selection whose window binds the given names, with `n` branches with a page
before it. -/
def select (names : PageNames) (n : Nat) : Query → Outline
  | q@{ branches, .. } =>
    ⟨.opening names q.limitValue q.offsetValue ++ (.selectList q.distinct q.select ++ .clauses q),
      none⟩
    ++ selectBranches n branches
    ++ ⟨.epilog q.epilog ++ .closing names q.limitValue q.offsetValue, none⟩

def selectBranches (n : Nat) : List (Branch Query) → Outline
  | [] => ⟨[], none⟩
  | ⟨all, q⟩ :: rest =>
    let first := branch all q (select (branchNames n q) (if q.isPaged then n + 1 else n) q)
    first ++ selectBranches (n + first.template.branches) rest
end

theorem select_eq (names : PageNames) (n : Nat) (q : Query) :
    select names n q =
      ⟨.opening names q.limitValue q.offsetValue ++ (.selectList q.distinct q.select ++ .clauses q),
        none⟩
      ++ selectBranches n q.branches
      ++ ⟨.epilog q.epilog ++ .closing names q.limitValue q.offsetValue, none⟩ := by
  cases q
  rw [select]

/-! ## Outlines without an error -/

theorem error_append (a b : Outline) :
    (a ++ b).error = none ↔ a.error = none ∧ b.error = none := by
  obtain ⟨s, error⟩ := a
  cases error with
  | none =>
    constructor
    · intro h
      exact ⟨rfl, h⟩
    · rintro ⟨-, h⟩
      exact h
  | some e =>
    constructor
    · intro h
      cases h
    · rintro ⟨h, -⟩
      cases h

theorem template_append (a b : Outline) (h : a.error = none) :
    (a ++ b).template = a.template ++ b.template := by
  obtain ⟨s, error⟩ := a
  cases h
  rfl

/-- What a branch without an error consists of. -/
theorem template_branch {all : Bool} {q : Query} {inner : Outline}
    (h : (branch all q inner).error = none) :
    inner.error = none ∧ (0 < q.offsetValue → (projection q.select).error = none) ∧
    (branch all q inner).template = .sql (Emit.unionWord all) ::
      ((if q.isPaged then [.branch] else []) ++
        if 0 < q.offsetValue then
          .sql "SELECT " :: ((projection q.select).template
            ++ .sql " FROM (" :: (inner.template ++ [.sql ")"]))
        else inner.template) := by
  unfold branch at h ⊢
  have hrest := ((error_append _ _).mp h).2
  rw [template_append _ _ rfl]
  by_cases hp : q.isPaged
  · rw [if_pos hp] at hrest ⊢
    have hpage := ((error_append _ _).mp hrest).2
    rw [if_pos hp, template_append _ _ rfl]
    by_cases ho : 0 < q.offsetValue
    · rw [if_pos ho] at hpage ⊢
      obtain ⟨hnames, hfrom⟩ := (error_append _ _).mp ((error_append _ _).mp hpage).2
      have hinner := ((error_append _ _).mp ((error_append _ _).mp hfrom).2).1
      refine ⟨hinner, fun _ => hnames, ?_⟩
      rw [if_pos ho, template_append _ _ rfl, template_append _ _ hnames, template_append _ _ rfl,
        template_append _ _ hinner]
      rfl
    · rw [if_neg ho] at hpage ⊢
      refine ⟨hpage, fun h => absurd h ho, ?_⟩
      rw [if_neg ho]
      rfl
  · have ho : ¬ 0 < q.offsetValue := by
      intro ho
      exact hp (by simp [Query.isPaged, ho])
    rw [if_neg hp] at hrest ⊢
    refine ⟨hrest, fun h => absurd h ho, ?_⟩
    rw [if_neg hp, if_neg ho]
    rfl

/-- What a selection without an error consists of. -/
theorem template_select {names : PageNames} {n : Nat} {q : Query}
    (h : (select names n q).error = none) :
    (selectBranches n q.branches).error = none ∧
    (select names n q).template =
      (.opening names q.limitValue q.offsetValue ++ (.selectList q.distinct q.select ++ .clauses q))
      ++ (selectBranches n q.branches).template
      ++ (.epilog q.epilog ++ .closing names q.limitValue q.offsetValue) := by
  rw [select_eq] at h ⊢
  have hhead := ((error_append _ _).mp h).1
  rw [template_append _ _ hhead, template_append _ _ rfl]
  exact ⟨((error_append _ _).mp hhead).2, rfl⟩

end Outline

namespace Emit
variable (d : Dialect)

/-! ## Branches of a union -/

theorem itemNames_eq (items : List SelectItem) :
    itemNames d items = (do
      let names ← fills d ((Outline.itemNames items).map fun name => [.identifier name])
      pure (if items.all fun item => (itemName? item).isSome then .ok names
        else .error .unnamedBranch)) := by
  induction items with
  | nil => rfl
  | cons item rest ih =>
    rw [itemNames, Outline.itemNames]
    cases hn : itemName? item with
    | none => simp [fills, hn]
    | some name =>
      rw [ih]
      simp only [List.map_cons, fills, fill_identifier, bind_assoc, pure_bind, List.all_cons, hn,
        Option.isSome_some, Bool.true_and]
      congr 1; funext first
      congr 1; funext others
      split <;> rfl

theorem projection_eq (items : List SelectItem) :
    projection d items = (Outline.projection items).write d := by
  cases items with
  | nil => rfl
  | cons item rest =>
    unfold projection
    rw [itemNames_eq, Outline.write, Outline.projection, Template.fill_joined]
    cases hn : (item :: rest).all fun item => (itemName? item).isSome <;>
      simp [Outline.canProject, hn, Except.map]

/-- What is left of a selection's result when the query is dropped. -/
def sqlOf (names : PageNames) (q : Query) : Emit (Except SqlError String) :=
  Prod.fst <$> select d names q

/-- What is left of the branches' result when the branches are dropped. -/
def sqlOfBranches (bs : List (Branch Query)) : Emit (Except SqlError String) :=
  Prod.fst <$> selectBranches d bs

theorem sqlOf_eq (names : PageNames) (q : Query) :
    sqlOf d names q = (do
      let head ← fill d (.opening names q.limitValue q.offsetValue ++
        (.selectList q.distinct q.select ++ .clauses q))
      match ← sqlOfBranches d q.branches with
      | .error e => pure (.error e)
      | .ok unions => do
        let tail ← fill d (.epilog q.epilog ++ .closing names q.limitValue q.offsetValue)
        pure (.ok (head ++ (unions ++ tail)))) := by
  rw [fill_append, fill_opening, ← body_eq_fill, fill_append, fill_closing, ← epilogClause_eq_fill]
  cases q
  unfold sqlOf sqlOfBranches select
  simp only [map_bind, bind_assoc, pure_bind, bind_map_left]
  congr 1; funext _
  congr 1; funext head
  congr 1; funext r
  obtain ⟨unions, branches⟩ := r
  cases unions with
  | error e => rfl
  | ok unions => simp [String.append_assoc]

/-- The SQL of a branch, with the word in front of it. -/
def branchSql (all : Bool) (q : Query) : Emit (Except SqlError String) := do
  match ← enterBranch d q with
  | .error e => pure (.error e)
  | .ok (names, around) => do
    let sql ← sqlOf d names q
    pure (sql.map fun sql => unionWord all ++ project around sql)

theorem sqlOfBranches_cons (all : Bool) (q : Query) (rest : List (Branch Query)) :
    sqlOfBranches d (⟨all, q⟩ :: rest) = (do
      match ← branchSql d all q with
      | .error e => pure (.error e)
      | .ok first => do
        let others ← sqlOfBranches d rest
        pure (others.map (first ++ ·))) := by
  rw [sqlOfBranches, selectBranches, branchSql]
  simp only [map_bind, bind_assoc]
  congr 1; funext entered
  cases entered with
  | error e => simp
  | ok entered =>
    simp only [sqlOf, map_bind, bind_assoc, bind_map_left, pure_bind]
    congr 1; funext r
    obtain ⟨sql, q'⟩ := r
    cases sql with
    | error e => simp [Except.map]
    | ok sql => simp [sqlOfBranches, Except.map]

theorem enterBranch_eq (q : Query) :
    enterBranch d q =
      if q.isPaged then (do
        let n ← nextBranch
        if 0 < q.offsetValue then do
          let names ← (Outline.projection q.select).write d
          pure (names.map fun names => (.branch n, some names))
        else pure (.ok (.branch n, none)))
      else pure (.ok (.outer, none)) := by
  have h : q.isPaged = !(decide (q.limitValue < 1) && decide (q.offsetValue < 1)) := by
    simp [Query.isPaged, UInt64.pos_iff_ne_zero]
  unfold enterBranch
  rw [h, projection_eq]
  cases decide (q.limitValue < 1) && decide (q.offsetValue < 1) <;> rfl

theorem run_branchSql (all : Bool) (q : Query) (p : Progress)
    (h : ∀ names p, (sqlOf d names q).run p
      = ((Outline.select names p.pagedBranches q).write d).run p) :
    (branchSql d all q).run p =
      ((Outline.branch all q (.select (Outline.branchNames p.pagedBranches q)
        (if q.isPaged then p.pagedBranches + 1 else p.pagedBranches) q)).write d).run p := by
  unfold branchSql
  rw [enterBranch_eq, Outline.branch, Outline.branchNames, Outline.write_sql_append]
  by_cases hp : q.isPaged
  · by_cases ho : 0 < q.offsetValue
    · have hb : (((Outline.projection q.select).write d).run
          { p with pagedBranches := p.pagedBranches + 1 }).2.pagedBranches
            = p.pagedBranches + 1 := by
        rw [Outline.snd_run_write, Template.after, ← Template.branches_marks,
          Outline.marks_projection]
        rfl
      simp only [hp, ho, if_true]
      simp only [run_bind, run_pure, Outline.run_write_branch_append, Outline.write_sql_append,
        Outline.write_append_sql, Outline.write_append d (Outline.projection q.select)]
      rw [show (nextBranch.run p) = (p.pagedBranches + 1,
        { p with pagedBranches := p.pagedBranches + 1 }) from rfl]
      revert hb
      generalize ((Outline.projection q.select).write d).run
        { p with pagedBranches := p.pagedBranches + 1 } = r
      obtain ⟨names, p'⟩ := r
      intro hb
      cases names with
      | error e => rfl
      | ok names =>
        simp only [Except.map, run_bind, run_pure, h] at hb ⊢
        rw [hb]
        generalize ((Outline.select _ _ q).write d).run p' = r
        obtain ⟨sql, _⟩ := r
        cases sql <;> simp [project, String.append_assoc]
    · simp only [hp, ho, if_true, if_false]
      simp only [run_bind, run_pure, Outline.run_write_branch_append, h]
      rfl
  · simp only [hp, if_false, Bool.false_eq_true, pure_bind, project]
    rw [run_bind, run_bind, h]

/-! ## Whole selections -/

theorem run_sqlOfBranches (bs : List (Branch Query)) (p : Progress)
    (h : ∀ b ∈ bs, ∀ names p, (sqlOf d names b.query).run p
      = ((Outline.select names p.pagedBranches b.query).write d).run p) :
    (sqlOfBranches d bs).run p = ((Outline.selectBranches p.pagedBranches bs).write d).run p := by
  induction bs generalizing p with
  | nil => rfl
  | cons b rest ih =>
    obtain ⟨all, q⟩ := b
    obtain ⟨hq, hrest⟩ := List.forall_mem_cons.mp h
    rw [sqlOfBranches_cons, Outline.selectBranches, Outline.write_append]
    simp only [run_bind, run_branchSql d all q p hq]
    generalize Outline.branch all q _ = first
    have hb : ((first.write d).run p).2.pagedBranches
        = p.pagedBranches + first.template.branches := by
      rw [Outline.snd_run_write, Template.after]
    revert hb
    generalize (first.write d).run p = r
    obtain ⟨text, p'⟩ := r
    intro hb
    cases text with
    | error e => rfl
    | ok text =>
      rw [← hb]
      simp only [run_bind, run_pure, ih p' hrest]

theorem run_sqlOf (names : PageNames) (q : Query) (p : Progress) :
    (sqlOf d names q).run p = ((Outline.select names p.pagedBranches q).write d).run p := by
  induction q using Query.induction generalizing names p with
  | node q ih =>
    rw [sqlOf_eq, Outline.select_eq, Outline.write_append, Outline.write_append]
    simp only [Outline.write_template, run_bind, Template.run_fill, run_pure]
    have hb := Template.branches_opening_clauses names q
    generalize Template.opening names q.limitValue q.offsetValue ++
      (Template.selectList q.distinct q.select ++ Template.clauses q) = head at hb ⊢
    have hp : (head.after d p).pagedBranches = p.pagedBranches := by
      rw [Template.after, hb, Nat.add_zero]
    rw [run_sqlOfBranches d q.branches _ ih, hp]
    generalize ((Outline.selectBranches p.pagedBranches q.branches).write d).run
      (head.after d p) = r
    obtain ⟨unions, p'⟩ := r
    cases unions with
    | error e => rfl
    | ok unions => simp only [Except.map, run_bind, run_pure, String.append_assoc]

end Emit

/-! ## Compiled selections -/

section compile
variable (d : Dialect) (t : AliasTable) (q : Query) (hk : q.kind = .select)
include hk

theorem Dialect.aliases_compile_select :
    (d.compile t q).aliases = (Outline.select .outer 0 q).template.aliases d t := by
  have h := congrArg Prod.snd (Emit.run_sqlOf d .outer q { aliases := t })
  rw [Outline.snd_run_write] at h
  simp only [compile, Emit.query, hk]
  exact congrArg Progress.aliases h

theorem Dialect.result_compile_select :
    (d.compile t q).result = match (Outline.select .outer 0 q).error with
      | some e => .error e
      | none => .ok
        { sql := (Outline.select .outer 0 q).template.text d t 0
          bindings := (Outline.select .outer 0 q).template.entries 0 []
          kind := .select
          rowNumberColumn := 0 < q.offsetValue
          buffered := q.buffered } := by
  have h := Emit.run_sqlOf d .outer q { aliases := t }
  rw [Outline.run_write] at h
  have hsql : ((Emit.select d .outer q).run { aliases := t }).1.1 =
      match (Outline.select .outer 0 q).error with
      | some e => .error e
      | none => .ok ((Outline.select .outer 0 q).template.text d t 0) := congrArg Prod.fst h
  have hleft : ((Emit.select d .outer q).run { aliases := t }).2
      = (Outline.select .outer 0 q).template.after d { aliases := t } := congrArg Prod.snd h
  simp only [compile, Emit.query, hk, hsql, hleft]
  cases (Outline.select .outer 0 q).error with
  | some e => rfl
  | none => simp [Except.map, Template.after]

end compile

end RownumSql
