import RownumSql.Proofs.Walk

/-!
# The bindings of a selection

A selection binds what its walk meets, in that order and under distinct keys: no value is lost, and
none takes the place of another.  The marks of an outline are those of the walk
(`marks_select`), so the entries of a compiled selection are its numbered walk.
-/

namespace RownumSql

namespace Outline

/-! ## Marks of a walk -/

/-- The marks of a walk, with `k` windows before it. -/
def stopMarks (k : Nat) : List Stop → Template
  | [] => []
  | .scalar v :: rest => .scalar v :: stopMarks k rest
  | .window limit offset :: rest =>
    Piece.branch :: (Template.bounds (windowNames (k + 1)) limit offset ++ stopMarks (k + 1) rest)

theorem branches_bounds (names : PageNames) (limit offset : UInt64) :
    (Template.bounds names limit offset).branches = 0 := by
  unfold Template.bounds
  split <;> split <;> rfl

theorem stopMarks_append (k : Nat) (xs ys : List Stop) :
    stopMarks k (xs ++ ys) = stopMarks k xs ++ stopMarks (k + (stopMarks k xs).branches) ys := by
  induction xs generalizing k with
  | nil => rfl
  | cons stop rest ih =>
    cases stop with
    | scalar v =>
      simp only [List.cons_append, stopMarks, ih, Template.branches, Piece.branches, Nat.zero_add]
    | window limit offset =>
      simp only [List.cons_append, stopMarks, ih, Template.branches, Piece.branches,
        Template.branches_append, branches_bounds, Nat.zero_add, Nat.add_assoc, List.append_assoc]

theorem stopMarks_scalars_append (k : Nat) (vs : List Value) (rest : List Stop) :
    stopMarks k (vs.map .scalar ++ rest) = Template.placeholders vs ++ stopMarks k rest := by
  induction vs with
  | nil => rfl
  | cons v vs ih => rw [List.map_cons, List.cons_append, stopMarks, ih]; rfl

/-- A branch marks its page, if it has one, and what its selection marks. -/
theorem marks_branch {all : Bool} {q : Query} {inner : Outline}
    (h : (branch all q inner).error = none) :
    (branch all q inner).template.marks =
      (if q.isPaged then [.branch] else []) ++ inner.template.marks := by
  obtain ⟨-, -, ht⟩ := template_branch h
  rw [ht, Template.marks_sql_cons, Template.marks_append]
  congr 1
  · split <;> rfl
  · split
    · simp [marks_projection]
    · rfl

theorem marks_selectBranches (k : Nat) (bs : List (Branch Query))
    (ih : ∀ b ∈ bs, ∀ names k, (select names k b.query).error = none →
      (select names k b.query).template.marks =
        Template.bounds names b.query.limitValue b.query.offsetValue ++ stopMarks k b.query.walk)
    (h : (selectBranches k bs).error = none) :
    (selectBranches k bs).template.marks = stopMarks k (Query.walkBranches bs) := by
  induction bs generalizing k with
  | nil => rfl
  | cons b rest ihr =>
    obtain ⟨all, q⟩ := b
    obtain ⟨hq, hrest⟩ := List.forall_mem_cons.mp ih
    rw [selectBranches] at h ⊢
    obtain ⟨hfirst, hothers⟩ := (error_append _ _).mp h
    rw [template_append _ _ hfirst, Template.marks_append, ihr _ hrest hothers, Query.walkBranches,
      stopMarks_append]
    have hm : (branch all q
          (select (branchNames k q) (if q.isPaged then k + 1 else k) q)).template.marks
        = stopMarks k
          ((if q.isPaged then [.window q.limitValue q.offsetValue] else []) ++ q.walk) := by
      rw [marks_branch hfirst, hq _ _ (template_branch hfirst).1]
      by_cases hp : q.isPaged
      · simp only [hp, if_true, branchNames, List.cons_append, List.nil_append, stopMarks,
          windowNames_succ]
      · have hw := hp
        simp only [Query.isPaged, Bool.or_eq_true, decide_eq_true_eq, not_or] at hw
        simp [hp, Template.bounds, hw]
    rw [hm, ← Template.branches_marks, hm]

theorem marks_select (names : PageNames) (k : Nat) (q : Query)
    (h : (select names k q).error = none) :
    (select names k q).template.marks =
      Template.bounds names q.limitValue q.offsetValue ++ stopMarks k q.walk := by
  induction q using Query.induction generalizing names k with
  | node q ih =>
    obtain ⟨hbranches, ht⟩ := template_select h
    have hs (j : Nat) : stopMarks j ((Epilog.scalars q.epilog).map .scalar)
        = Template.placeholders (Epilog.scalars q.epilog) := by
      simpa [stopMarks] using stopMarks_scalars_append j (Epilog.scalars q.epilog) []
    rw [ht, Query.walk_eq, List.append_assoc (q.scalars.map Stop.scalar), stopMarks_scalars_append,
      stopMarks_append, hs]
    simp only [Template.marks_append, ← Template.marks_clauses q, Template.marks_opening,
      marks_selectBranches k q.branches ih hbranches, Template.marks_epilog,
      Template.marks_closing, List.append_nil, List.append_assoc]

/-! ## Bindings of a walk -/

theorem ofName_windowNames (k : Nat) :
    BindKey.ofName (windowNames k).offset = .named (windowNames k).offset ∧
    BindKey.ofName (windowNames k).maxRow = .named (windowNames k).maxRow := by
  rw [show (windowNames k).offset = (Slot.skip k).name from rfl,
    show (windowNames k).maxRow = (Slot.last k).name from rfl, Slot.name_skip, Slot.name_last]
  constructor
  · simp [BindKey.ofName, ← String.toList_inj]
  · simp [BindKey.ofName, ← String.toList_inj]

theorem bindings_bounds (n k : Nat) (limit offset : UInt64) :
    (Template.bounds (windowNames k) limit offset).bindings n = windowBindings k limit offset := by
  have hvalue (n : UInt64) : Value.ofUInt64 n = boundValue n.toNat := rfl
  unfold Template.bounds windowBindings
  rw [Template.bindings_append]
  by_cases hl : 0 < limit <;> by_cases ho : 0 < offset <;>
    simp [hl, ho, Template.bindings, Piece.bindings, ofName_windowNames, hvalue, toNat_endRow]

theorem scalars_bounds (names : PageNames) (limit offset : UInt64) :
    (Template.bounds names limit offset).scalars = 0 := by
  unfold Template.bounds
  split <;> split <;> rfl

theorem bindings_stopMarks (n k : Nat) (stops : List Stop) :
    (stopMarks k stops).bindings n = numbered n k stops := by
  induction stops generalizing n k with
  | nil => rfl
  | cons stop rest ih =>
    cases stop with
    | scalar v => rw [stopMarks, numbered, Template.bindings, ← ih]; rfl
    | window limit offset =>
      rw [stopMarks, numbered, Template.bindings, Template.bindings_append, bindings_bounds,
        scalars_bounds, ← ih]
      rfl

/-- The bindings of a selection's outline are those of its walk. -/
theorem bindings_select (q : Query) (h : (select .outer 0 q).error = none) :
    (select .outer 0 q).template.bindings 0 = q.walkBindings := by
  rw [← Template.bindings_marks, marks_select .outer 0 q h, Template.bindings_append,
    scalars_bounds, bindings_stopMarks, ← windowNames_zero,
    bindings_bounds, Query.walkBindings]

/-- No binding of a selection's outline replaces another. -/
theorem entries_select (q : Query) (h : (select .outer 0 q).error = none) :
    (select .outer 0 q).template.entries 0 [] = q.walkBindings := by
  have hw := bindings_select q h
  rw [Template.entries_eq_append, hw, List.nil_append]
  rw [hw, List.nil_append]
  exact nodup_keys_walk q

end Outline

/-! ## Compiled selections -/

/-- **No bound value is lost, repeated or replaced.**  A compiled selection binds exactly its
numbered walk, under keys that are pairwise distinct. -/
theorem compile_binds_walk (d : Dialect) (t : AliasTable) (q : Query) (c : CompiledQuery)
    (hk : q.kind = .select) (h : (d.compile t q).result = .ok c) :
    (c.bindings.map Binding.key).Nodup ∧ c.bindings = q.walkBindings := by
  have hb : c.bindings = q.walkBindings := by
    rw [Dialect.result_compile_select d t q hk] at h
    cases he : (Outline.select .outer 0 q).error with
    | some e => rw [he] at h; cases h
    | none =>
      rw [he] at h
      cases h
      exact Outline.entries_select q he
  exact ⟨hb ▸ nodup_keys_walk q, hb⟩

/-- A union inside a branch, with windows on three levels and a scalar on each. -/
def nestedUnion : Query :=
  { select := [⟨.column "a", none⟩], tables := [⟨"t", none⟩], limit := some 10, offset := some 5
    conditions := [.compare (.column "a") .gt (.value (.int 1))]
    branches := [
      { query := { select := [⟨.column "b", none⟩], tables := [⟨"u", none⟩], offset := some 2
                   conditions := [.compare (.column "b") .eq (.value (.int 2))]
                   branches := [
                    { query := { select := [⟨.value (.int 3), none⟩], limit := some 1 } }] } },
      { all := true, query := { select := [⟨.value (.int 4), none⟩], limit := some 7 } }] }

theorem compile_binds_walk_nestedUnion : ∃ c,
    (({} : Dialect).compile {} nestedUnion).result = .ok c ∧
    (c.bindings.map Binding.key).Nodup ∧ c.bindings =
      [⟨.named "QAIL_FETCH_OFFSET", .int 5⟩, ⟨.named "QAIL_MAX_ROW_TO_FETCH", .int 15⟩,
       ⟨.named "c0", .int 1⟩,
       ⟨.named "QAIL_FETCH_OFFSET_1", .int 2⟩, ⟨.named "c1", .int 2⟩,
       ⟨.named "QAIL_MAX_ROW_TO_FETCH_2", .int 1⟩, ⟨.named "c2", .int 3⟩,
       ⟨.named "QAIL_MAX_ROW_TO_FETCH_3", .int 7⟩, ⟨.named "c3", .int 4⟩] := by
  have hok : (({} : Dialect).compile {} nestedUnion).result.toOption.isSome := by decide +kernel
  cases h : (({} : Dialect).compile {} nestedUnion).result with
  | error e => rw [h] at hok; cases hok
  | ok c =>
    have hw := compile_binds_walk {} {} nestedUnion c rfl h
    exact ⟨c, rfl, hw.1, hw.2.trans (by decide +kernel)⟩

end RownumSql
