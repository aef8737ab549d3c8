import RownumSql.Query

/-!
# Induction on expressions and queries

Expressions nest through lists of arguments, queries through lists of branches and through the
source of an insertion.  The principles give the hypothesis for every member of such a list, so that
a fact about lists is proved apart; `Query.induction` passes over insertions.
-/

namespace RownumSql

@[elab_as_elim]
theorem Expr.induction {motive : Expr → Prop}
    (column : ∀ name, motive (.column name))
    (value : ∀ v, motive (.value v))
    (raw : ∀ sql, motive (.raw sql))
    (compare : ∀ left op right, motive left → motive right → motive (.compare left op right))
    (function : ∀ name args, (∀ e ∈ args, motive e) → motive (.function name args))
    (e : Expr) : motive e :=
  @Expr.rec motive (fun es => ∀ e ∈ es, motive e) column value raw compare
    (fun name args ih => function name args ih) (fun _ h => nomatch h)
    (fun _ _ head tail => List.forall_mem_cons.mpr ⟨head, tail⟩) e

@[elab_as_elim]
theorem Query.induction {motive : Query → Prop}
    (node : ∀ q : Query, (∀ b ∈ q.branches, motive b.query) → motive q) (q : Query) : motive q :=
  -- insertions inside a query are passed over
  @Query.rec motive (fun bs => ∀ b ∈ bs, motive b.query) (fun _ => True) (fun b => motive b.query)
    (fun _ => True) (fun _ => True)
    (fun _ _ _ _ _ _ _ _ _ _ _ _ _ _ _ _ _ branches _ => node _ branches)
    (fun _ h => nomatch h) (fun _ _ head tail => List.forall_mem_cons.mpr ⟨head, tail⟩)
    trivial (fun _ _ => trivial) (fun _ _ branch => branch) (fun _ _ _ _ _ => trivial)
    trivial (fun _ _ => trivial) q

@[elab_as_elim]
theorem Query.fullInduction {motive : Query → Prop}
    (node : ∀ q : Query, (∀ b ∈ q.branches, motive b.query) →
      (∀ i ∈ q.insertion, ∀ source ∈ i.source, motive source) → motive q) (q : Query) : motive q :=
  @Query.rec motive (fun bs => ∀ b ∈ bs, motive b.query)
    (fun i => ∀ j ∈ i, ∀ source ∈ j.source, motive source) (fun b => motive b.query)
    (fun i => ∀ source ∈ i.source, motive source) (fun s => ∀ source ∈ s, motive source)
    (fun _ _ _ _ _ _ _ _ _ _ _ _ _ _ _ _ _ branches insertion => node _ branches insertion)
    (fun _ h => nomatch h) (fun _ _ head tail => List.forall_mem_cons.mpr ⟨head, tail⟩)
    (fun _ h => nomatch h) (fun _ ih _ h => Option.some.inj h ▸ ih) (fun _ _ branch => branch)
    (fun _ _ _ _ source => source) (fun _ h => nomatch h)
    (fun _ ih _ h => Option.some.inj h ▸ ih) q

end RownumSql
