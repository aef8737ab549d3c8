import RownumSql.Proofs.BoundValues

/-!
# Selections that stop on the way

A selection that cannot be compiled has bound some of its values when it stops.  What it has bound
are its own window and a number of stops, as if that were its walk (`marks_select_reached`), and
stops one after another are numbered through (`numbered_append`).
-/

namespace RownumSql

/-! ## Counting stops -/

namespace Stop

def scalars : List Stop → Nat
  | [] => 0
  | .scalar _ :: rest => scalars rest + 1
  | .window .. :: rest => scalars rest

def windows : List Stop → Nat
  | [] => 0
  | .scalar _ :: rest => windows rest
  | .window .. :: rest => windows rest + 1

theorem scalars_append (xs ys : List Stop) : scalars (xs ++ ys) = scalars xs + scalars ys := by
  induction xs with
  | nil => exact (Nat.zero_add _).symm
  | cons stop xs ih =>
    cases stop with
    | scalar v =>
      show scalars (xs ++ ys) + 1 = scalars xs + 1 + scalars ys
      omega
    | window limit offset => exact ih

theorem windows_append (xs ys : List Stop) : windows (xs ++ ys) = windows xs + windows ys := by
  induction xs with
  | nil => exact (Nat.zero_add _).symm
  | cons stop xs ih =>
    cases stop with
    | scalar v => exact ih
    | window limit offset =>
      show windows (xs ++ ys) + 1 = windows xs + 1 + windows ys
      omega

end Stop

theorem numbered_append (n k : Nat) (xs ys : List Stop) :
    numbered n k (xs ++ ys) =
      numbered n k xs ++ numbered (n + Stop.scalars xs) (k + Stop.windows xs) ys := by
  induction xs generalizing n k with
  | nil => rfl
  | cons stop xs ih =>
    cases stop with
    | scalar v =>
      have hn : n + 1 + Stop.scalars xs = n + (Stop.scalars xs + 1) := by omega
      rw [List.cons_append, numbered, ih, hn]
      rfl
    | window limit offset =>
      have hk : k + 1 + Stop.windows xs = k + (Stop.windows xs + 1) := by omega
      rw [List.cons_append, numbered, ih, hk, numbered, List.append_assoc]
      rfl

/-! ## Selections that stop on the way -/

namespace Outline

theorem scalars_stopMarks (k : Nat) (stops : List Stop) :
    (stopMarks k stops).scalars = Stop.scalars stops := by
  induction stops generalizing k with
  | nil => rfl
  | cons stop rest ih =>
    cases stop with
    | scalar v =>
      show 1 + (stopMarks k rest).scalars = Stop.scalars rest + 1
      rw [ih, Nat.add_comm]
    | window limit offset =>
      show 0 + Template.scalars (_ ++ _) = Stop.scalars rest
      rw [Template.scalars_append, scalars_bounds, ih, Nat.zero_add, Nat.zero_add]

theorem branches_stopMarks (k : Nat) (stops : List Stop) :
    (stopMarks k stops).branches = Stop.windows stops := by
  induction stops generalizing k with
  | nil => rfl
  | cons stop rest ih =>
    cases stop with
    | scalar v =>
      show 0 + (stopMarks k rest).branches = Stop.windows rest
      rw [ih, Nat.zero_add]
    | window limit offset =>
      show 1 + Template.branches (_ ++ _) = Stop.windows rest + 1
      rw [Template.branches_append, branches_bounds, ih, Nat.zero_add, Nat.add_comm]

theorem marks_append_of_ok {a : Outline} (b : Outline) (h : a.error = none) :
    (a ++ b).template.marks = a.template.marks ++ b.template.marks := by
  rw [template_append a b h, Template.marks_append]

theorem append_of_error {a : Outline} (b : Outline) {e : SqlError} (h : a.error = some e) :
    a ++ b = a := by
  obtain ⟨s, error⟩ := a
  cases h
  rfl

/-- The outline marks the template and then stops, as far as it gets: all of the given ones if it
has no error. -/
def Marks (o : Outline) (s : Template) (k : Nat) (stops : List Stop) : Prop :=
  ∃ reached, o.template.marks = s ++ stopMarks k reached ∧ (o.error = none → reached = stops)

theorem marks_branch_select {k : Nat} (all : Bool) {q : Query} {inner : Outline}
    (hinner : Marks inner (Template.bounds (branchNames k q) q.limitValue q.offsetValue)
      (if q.isPaged then k + 1 else k) q.walk) :
    Marks (branch all q inner) [] k
      ((if q.isPaged then [.window q.limitValue q.offsetValue] else []) ++ q.walk) := by
  obtain ⟨reached, hmarks, hall⟩ := hinner
  have hword (o : Outline) :
      (⟨[.sql (Emit.unionWord all)], none⟩ ++ o).template.marks = o.template.marks := rfl
  have hwordError (o : Outline) :
      (⟨[.sql (Emit.unionWord all)], none⟩ ++ o).error = o.error := rfl
  unfold branch
  by_cases hp : q.isPaged
  · have hopened (o : Outline) :
        (⟨[.branch], none⟩ ++ o).template.marks = .branch :: o.template.marks := rfl
    have hopenedError (o : Outline) : (⟨[.branch], none⟩ ++ o).error = o.error := rfl
    have hentered : .branch :: inner.template.marks
        = stopMarks k (.window q.limitValue q.offsetValue :: reached) := by
      rw [hmarks, stopMarks, branchNames, if_pos hp, if_pos hp, windowNames_succ]
    simp only [if_pos hp]
    by_cases ho : 0 < q.offsetValue
    · simp only [if_pos ho]
      cases hproject : (projection q.select).error with
      | some e =>
        -- nothing is bound for a window whose columns have no names
        refine ⟨[.window 0 0], ?_, ?_⟩
        · rw [hword, hopened, append_of_error _ hproject, marks_append_of_ok _ rfl, marks_projection]
          rfl
        · rw [hwordError, hopenedError, append_of_error _ hproject]
          intro h
          rw [((error_append _ _).mp h).2] at hproject
          cases hproject
      | none =>
        have hrest : (⟨[.sql " FROM ("], none⟩ ++ (inner ++ ⟨[.sql ")"], none⟩)).template.marks
            = inner.template.marks := by
          rw [marks_append_of_ok _ rfl]
          cases hi : inner.error with
          | some e =>
            rw [append_of_error _ hi]
            rfl
          | none =>
            rw [marks_append_of_ok _ hi]
            exact List.append_nil _
        refine ⟨.window q.limitValue q.offsetValue :: reached, ?_, ?_⟩
        · rw [hword, hopened, marks_append_of_ok _ rfl, marks_append_of_ok _ hproject,
            marks_projection, hrest]
          exact hentered
        · rw [hwordError, hopenedError]
          intro h
          obtain ⟨-, h⟩ := (error_append _ _).mp h
          obtain ⟨-, h⟩ := (error_append _ _).mp h
          obtain ⟨-, h⟩ := (error_append _ _).mp h
          rw [hall ((error_append _ _).mp h).1]
          rfl
    · simp only [if_neg ho]
      refine ⟨.window q.limitValue q.offsetValue :: reached, ?_, ?_⟩
      · rw [hword, hopened]
        exact hentered
      · rw [hwordError, hopenedError]
        intro h
        rw [hall h]
        rfl
  · have hbounds : Template.bounds (branchNames k q) q.limitValue q.offsetValue = [] := by
      simp only [Query.isPaged, Bool.or_eq_true, decide_eq_true_eq, not_or] at hp
      rw [Template.bounds, if_neg hp.2, if_neg hp.1]
      rfl
    simp only [if_neg hp]
    rw [hbounds, if_neg hp] at hmarks
    refine ⟨reached, ?_, ?_⟩
    · rw [hword]
      exact hmarks
    · rw [hwordError]
      exact hall

theorem marks_selectBranches_reached (k : Nat) (bs : List (Branch Query))
    (ih : ∀ b ∈ bs, ∀ names k, Marks (select names k b.query)
      (Template.bounds names b.query.limitValue b.query.offsetValue) k b.query.walk) :
    Marks (selectBranches k bs) [] k (Query.walkBranches bs) := by
  induction bs generalizing k with
  | nil => exact ⟨[], rfl, fun _ => rfl⟩
  | cons b rest ihr =>
    obtain ⟨all, q⟩ := b
    obtain ⟨hq, hrest⟩ := List.forall_mem_cons.mp ih
    obtain ⟨first, hfirst, hallFirst⟩ := marks_branch_select all (hq (branchNames k q) _)
    rw [selectBranches]
    generalize branch all q _ = o at hfirst hallFirst ⊢
    cases ho : o.error with
    | some e =>
      rw [append_of_error _ ho]
      exact ⟨first, hfirst, fun h => by rw [ho] at h; cases h⟩
    | none =>
      have hcount : o.template.branches = Stop.windows first := by
        rw [← Template.branches_marks, hfirst, List.nil_append, branches_stopMarks]
      obtain ⟨others, hothers, hallOthers⟩ := ihr (k + o.template.branches) hrest
      refine ⟨first ++ others, ?_, ?_⟩
      · rw [marks_append_of_ok _ ho, hfirst, hothers, hcount, stopMarks_append, branches_stopMarks]
        rfl
      · intro h
        rw [hallFirst ho, hallOthers ((error_append _ _).mp h).2, Query.walkBranches]

/-- Whatever stops a selection, up to there it binds its own window and then what its walk meets. -/
theorem marks_select_reached (names : PageNames) (k : Nat) (q : Query) :
    Marks (select names k q) (Template.bounds names q.limitValue q.offsetValue) k q.walk := by
  induction q using Query.induction generalizing names k with
  | node q ih =>
    cases h : (select names k q).error with
    | none => exact ⟨q.walk, marks_select names k q h, fun _ => rfl⟩
    | some e =>
      obtain ⟨reached, hreached, -⟩ := marks_selectBranches_reached k q.branches ih
      refine ⟨q.scalars.map .scalar ++ reached, ?_, fun hnone => nomatch h.symm.trans hnone⟩
      rw [select_eq] at h ⊢
      let head : Outline := ⟨.opening names q.limitValue q.offsetValue ++
        (.selectList q.distinct q.select ++ .clauses q), none⟩
      have hhead : (head ++ selectBranches k q.branches).error = some e := by
        cases hb : (head ++ selectBranches k q.branches).error with
        | some e' =>
          rw [append_of_error _ hb, hb] at h
          exact h
        | none =>
          rw [(error_append _ _).mpr ⟨hb, rfl⟩] at h
          cases h
      rw [append_of_error _ hhead, marks_append_of_ok _ rfl, hreached, stopMarks_scalars_append]
      simp only [head, Template.marks_append, ← Template.marks_clauses q, Template.marks_opening,
        List.nil_append, List.append_assoc]

end Outline

/-! ## Entries -/

namespace Template

theorem entries_append (n : Nat) (es : List Binding) (s u : Template) :
    entries n es (s ++ u) = entries (n + s.scalars) (s.entries n es) u := by
  induction s generalizing n es with
  | nil => rfl
  | cons x s ih => simp only [List.cons_append, entries, ih, scalars, Nat.add_assoc]

theorem entries_marks (n : Nat) (es : List Binding) (s : Template) :
    s.marks.entries n es = s.entries n es := by
  induction s generalizing n es with
  | nil => rfl
  | cons x s ih =>
    cases x with
    | sql text => exact ih n es
    | identifier name => exact ih n es
    | scalar v => exact ih (n + 1) _
    | reference name => exact ih n es
    | bound name v => exact ih n _
    | branch => exact ih n es

end Template

end RownumSql
