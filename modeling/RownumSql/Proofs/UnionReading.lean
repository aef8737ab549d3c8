import RownumSql.Proofs.Outline
import RownumSql.Proofs.UnionExpr

/-!
# How unions are read

A branch of a union may be a union itself, and its text stands without parentheses between the
texts around it.  A server reads all the words from left to right, so what it makes of the text need
not be what the query means: the rows of a branch are put together first, and then joined to those
in front.  With parentheses around the unions of branches the text reads as the query means.

The two agree, whatever the rows of the operands are, just if no word is UNION, or behind the last
UNION of the query itself there is none, and the branch that this UNION joins does not end with
UNION ALL                                                                     (union_reading_iff)
-/

namespace RownumSql

namespace Query

/-! ## The words of a union -/

mutual
/-- The words between the operands of a union, in the order of the text. -/
def words : Query → List Bool
  | { branches, .. } => branchWords branches

def branchWords : List (Branch Query) → List Bool
  | [] => []
  | ⟨all, q⟩ :: rest => all :: (words q ++ branchWords rest)
end

theorem words_eq (q : Query) : q.words = branchWords q.branches := by
  cases q
  rw [words]

theorem branchWords_eq_flatMap (bs : List (Branch Query)) :
    branchWords bs = bs.flatMap fun b => b.all :: b.query.words := by
  induction bs with
  | nil => rfl
  | cons b rest ih =>
    rw [branchWords, ih, List.flatMap_cons]
    rfl

theorem branchWords_append (bs cs : List (Branch Query)) :
    branchWords (bs ++ cs) = branchWords bs ++ branchWords cs := by
  simp only [branchWords_eq_flatMap, List.flatMap_append]

theorem mem_branchWords {bs : List (Branch Query)} {all : Bool} :
    all ∈ branchWords bs ↔ ∃ b ∈ bs, all = b.all ∨ all ∈ b.query.words := by
  simp only [branchWords_eq_flatMap, List.mem_flatMap, List.mem_cons]

theorem length_branchWords_cons (b : Branch Query) (rest : List (Branch Query)) :
    (branchWords (b :: rest)).length
      = b.query.words.length + 1 + (branchWords rest).length := by
  rw [branchWords, List.length_cons, List.length_append]
  omega

/-! ## What a union means -/

mutual
/-- The meaning of a query whose first operand has the number `n`: each branch is joined as a
whole. -/
def nested (n : Nat) : Query → UnionExpr
  | { branches, .. } => (UnionExpr.operand n).join (nestedBranches (n + 1) branches)

/-- The meanings of branches, with the words in front of them. -/
def nestedBranches (n : Nat) : List (Branch Query) → List (Bool × UnionExpr)
  | [] => []
  | ⟨all, q⟩ :: rest => (all, nested n q) :: nestedBranches (n + ((words q).length + 1)) rest
end

theorem nested_eq (n : Nat) (q : Query) :
    q.nested n = (UnionExpr.operand n).join (nestedBranches (n + 1) q.branches) := by
  cases q
  rw [nested]

theorem nestedBranches_append (n : Nat) (bs cs : List (Branch Query)) :
    nestedBranches n (bs ++ cs)
      = nestedBranches n bs ++ nestedBranches (n + (branchWords bs).length) cs := by
  induction bs generalizing n with
  | nil => rfl
  | cons b rest ih =>
    rw [List.cons_append, nestedBranches, nestedBranches, ih, length_branchWords_cons,
      Nat.add_assoc, List.cons_append]

theorem all_of_mem_nestedBranches {n : Nat} {bs : List (Branch Query)}
    (h : ∀ b ∈ bs, b.all = true) : ∀ other ∈ nestedBranches n bs, other.1 = true := by
  induction bs generalizing n with
  | nil => exact fun _ h => nomatch h
  | cons b rest ih =>
    obtain ⟨hb, hrest⟩ := List.forall_mem_cons.mp h
    exact List.forall_mem_cons.mpr ⟨hb, ih hrest⟩

/-! ## The text of a union -/

mutual
/-- The tokens of a query with its branches.  If `bracketed` is set, then the unions of branches are
in parentheses. -/
def unionTokens (bracketed : Bool) : Query → List UnionToken
  | q@{ branches, .. } =>
    .operand q :: (branchTokens bracketed branches ++ [.epilog q.epilog])

def branchTokens (bracketed : Bool) : List (Branch Query) → List UnionToken
  | [] => []
  | ⟨all, q⟩ :: rest =>
    .word all ::
      ((if bracketed && !q.branches.isEmpty
          then .opening :: (unionTokens bracketed q ++ [.closing])
          else unionTokens bracketed q)
        ++ branchTokens bracketed rest)
end

theorem unionTokens_eq (bracketed : Bool) (q : Query) :
    q.unionTokens bracketed =
      .operand q :: (branchTokens bracketed q.branches ++ [.epilog q.epilog]) := by
  cases q
  rw [unionTokens]

/-- The meaning of a text without parentheses: one operand after another. -/
def leaves (n : Nat) : List Bool → List (Bool × UnionExpr)
  | [] => []
  | all :: rest => (all, .operand n) :: leaves (n + 1) rest

/-- What a server makes of a text without parentheses. -/
def flat (q : Query) : UnionExpr := (UnionExpr.operand 0).join (leaves 1 q.words)

theorem leaves_append (n : Nat) (ws vs : List Bool) :
    leaves n (ws ++ vs) = leaves n ws ++ leaves (n + ws.length) vs := by
  induction ws generalizing n with
  | nil => rfl
  | cons all ws ih =>
    rw [List.cons_append, leaves, leaves, ih, List.length_cons, Nat.add_right_comm,
      Nat.add_assoc, List.cons_append]

theorem all_of_mem_leaves {n : Nat} {ws : List Bool} (h : ∀ all ∈ ws, all = true) :
    ∀ other ∈ leaves n ws, other.1 = true := by
  induction ws generalizing n with
  | nil => exact fun _ h => nomatch h
  | cons all rest ih =>
    obtain ⟨hall, hrest⟩ := List.forall_mem_cons.mp h
    exact List.forall_mem_cons.mpr ⟨hall, ih hrest⟩

/-! ## Reading the text -/

section reading
open UnionToken (Pending readOn readOn_cons readOn_append complete)

theorem readOn_branchTokens (e : UnionExpr) (outer : List Pending) (n : Nat)
    (bs : List (Branch Query))
    (ih : ∀ b ∈ bs, ∀ pending n,
      readOn (.wanting pending outer n) (b.query.unionTokens false) =
        some (.holding ((complete pending (.operand n)).join (leaves (n + 1) b.query.words)) outer
          (n + (b.query.words.length + 1)))) :
    readOn (.holding e outer n) (branchTokens false bs) =
      some (.holding (e.join (leaves n (branchWords bs))) outer (n + (branchWords bs).length)) := by
  induction bs generalizing e n with
  | nil => rfl
  | cons b rest ihr =>
    obtain ⟨hq, hrest⟩ := List.forall_mem_cons.mp ih
    rw [branchTokens, readOn_cons rfl, Bool.false_and, if_neg Bool.false_ne_true,
      readOn_append (hq _ n), ihr _ _ hrest, ← UnionExpr.join_append, length_branchWords_cons,
      branchWords, leaves, leaves_append, UnionExpr.join_cons, Nat.add_right_comm n 1,
      ← Nat.add_assoc n (_ + 1)]
    rfl

/-- Without parentheses every word joins the next operand to all that was read. -/
theorem readOn_unionTokens (q : Query) (pending : Pending) (outer : List Pending) (n : Nat) :
    readOn (.wanting pending outer n) (q.unionTokens false) =
      some (.holding ((complete pending (.operand n)).join (leaves (n + 1) q.words)) outer
        (n + (q.words.length + 1))) := by
  induction q using Query.induction generalizing pending n with
  | node q ih =>
    rw [unionTokens_eq, readOn_cons rfl, readOn_append (readOn_branchTokens _ _ _ _ ih),
      words_eq, Nat.add_right_comm]
    rfl

theorem readOn_bracketedBranches (e : UnionExpr) (outer : List Pending) (n : Nat)
    (bs : List (Branch Query))
    (ih : ∀ b ∈ bs, ∀ outer n,
      readOn (.wanting none outer n) (b.query.unionTokens true) =
        some (.holding (b.query.nested n) outer (n + (b.query.words.length + 1)))) :
    readOn (.holding e outer n) (branchTokens true bs) =
      some (.holding (e.join (nestedBranches n bs)) outer (n + (branchWords bs).length)) := by
  induction bs generalizing e n with
  | nil => rfl
  | cons b rest ihr =>
    obtain ⟨hq, hrest⟩ := List.forall_mem_cons.mp ih
    have hbranch : readOn (.wanting (some (e, b.all)) outer n)
        (if true && !b.query.branches.isEmpty
          then .opening :: (b.query.unionTokens true ++ [.closing])
          else b.query.unionTokens true) =
        some (.holding (.union b.all e (b.query.nested n)) outer
          (n + (b.query.words.length + 1))) := by
      cases hbs : b.query.branches with
      | nil =>
        rw [unionTokens_eq, words_eq, nested_eq, hbs]
        rfl
      | cons =>
        show readOn _ (.opening :: (b.query.unionTokens true ++ [.closing])) = _
        rw [readOn_cons rfl, readOn_append (hq _ n)]
        rfl
    rw [branchTokens, readOn_cons rfl, readOn_append hbranch, ihr _ _ hrest,
      length_branchWords_cons, nestedBranches, ← Nat.add_assoc n (_ + 1)]
    rfl

/-- With parentheses the text reads as the query means. -/
theorem readOn_bracketed (q : Query) (outer : List Pending) (n : Nat) :
    readOn (.wanting none outer n) (q.unionTokens true) =
      some (.holding (q.nested n) outer (n + (q.words.length + 1))) := by
  induction q using Query.induction generalizing outer n with
  | node q ih =>
    rw [unionTokens_eq, readOn_cons rfl, readOn_append (readOn_bracketedBranches _ _ _ _ ih),
      words_eq, Nat.add_right_comm, nested_eq]
    rfl

theorem read_unionTokens (q : Query) : UnionToken.read (q.unionTokens false) = some q.flat := by
  rw [UnionToken.read, readOn_unionTokens]
  rfl

theorem read_bracketed (q : Query) : UnionToken.read (q.unionTokens true) = some (q.nested 0) := by
  rw [UnionToken.read, readOn_bracketed]

end reading

/-! ## Weights -/

/-- Whether the text of a union reads as the query means: no word is UNION, or behind the last UNION
of the query itself there is none, and the branch that it joins does not end with UNION ALL. -/
def UnionsNest (q : Query) : Prop :=
  false ∉ q.words ∨ ∃ before b after, q.branches = before ++ ⟨false, b⟩ :: after ∧
    false ∉ branchWords after ∧ b.words.getLast? ≠ some true

theorem all_of_not_mem {ws : List Bool} (h : false ∉ ws) : ∀ all ∈ ws, all = true := by
  intro all hall
  cases all with
  | true => rfl
  | false => exact absurd hall h

theorem not_mem_words {bs : List (Branch Query)} (h : false ∉ branchWords bs) :
    ∀ b ∈ bs, b.all = true ∧ false ∉ b.query.words := by
  intro b hb
  constructor
  · exact all_of_not_mem h b.all (mem_branchWords.mpr ⟨b, hb, .inl rfl⟩)
  · intro hmem
    exact h (mem_branchWords.mpr ⟨b, hb, .inr hmem⟩)

section weights
open UnionExpr (weight total)
variable (w : Nat → Nat)

/-- The weights of `k` operands in sum, from the `n`-th on. -/
def weightFrom (n : Nat) : Nat → Nat
  | 0 => 0
  | k + 1 => w n + weightFrom (n + 1) k

theorem weightFrom_succ (n k : Nat) : weightFrom w n (k + 1) = w n + weightFrom w (n + 1) k := rfl

theorem weightFrom_add (n k l : Nat) :
    weightFrom w n (k + l) = weightFrom w n k + weightFrom w (n + k) l := by
  induction k generalizing n with
  | zero => rw [Nat.zero_add, weightFrom, Nat.zero_add, Nat.add_zero]
  | succ k ih =>
    rw [Nat.add_right_comm, weightFrom_succ, ih, weightFrom_succ, Nat.add_assoc, Nat.add_assoc,
      Nat.add_comm 1]

theorem weightFrom_concat (n k : Nat) : weightFrom w n (k + 1) = weightFrom w n k + w (n + k) := by
  rw [weightFrom_add, weightFrom_succ w (n + k)]
  rfl

theorem weightFrom_eq_zero {n k : Nat} (h : ∀ i, n ≤ i → w i = 0) : weightFrom w n k = 0 := by
  induction k generalizing n with
  | zero => rfl
  | succ k ih =>
    rw [weightFrom_succ, h n (Nat.le_refl n), ih fun i hi => h i (by omega)]

theorem total_leaves (n : Nat) (ws : List Bool) :
    total w (leaves n ws) = weightFrom w n ws.length := by
  induction ws generalizing n with
  | nil => rfl
  | cons all ws ih =>
    rw [leaves, UnionExpr.total_cons, ih, List.length_cons, weightFrom_succ]
    rfl

/-! What branches weigh is at least one just if their operands weigh so, and it is the sum of them
if no word is UNION. -/

theorem min_total_nestedBranches (bs : List (Branch Query)) (n : Nat)
    (ih : ∀ b ∈ bs, ∀ n,
      min 1 ((b.query.nested n).weight w) = min 1 (weightFrom w n (b.query.words.length + 1))) :
    min 1 (total w (nestedBranches n bs)) = min 1 (weightFrom w n (branchWords bs).length) := by
  induction bs generalizing n with
  | nil => rfl
  | cons b rest ihr =>
    obtain ⟨hb, hrest⟩ := List.forall_mem_cons.mp ih
    have hfirst := hb n
    have hothers := ihr (n + (b.query.words.length + 1)) hrest
    rw [nestedBranches, UnionExpr.total_cons, length_branchWords_cons, weightFrom_add]
    dsimp only
    omega

theorem min_weight_nested (q : Query) (n : Nat) :
    min 1 ((q.nested n).weight w) = min 1 (weightFrom w n (q.words.length + 1)) := by
  induction q using Query.induction generalizing n with
  | node q ih =>
    have hbranches := min_total_nestedBranches w q.branches (n + 1) ih
    rw [nested_eq, UnionExpr.min_weight_join, words_eq, weightFrom_succ, weight]
    omega

theorem total_nestedBranches_of_all (bs : List (Branch Query)) (n : Nat)
    (h : false ∉ branchWords bs)
    (ih : ∀ b ∈ bs, ∀ n, false ∉ b.query.words →
      (b.query.nested n).weight w = weightFrom w n (b.query.words.length + 1)) :
    total w (nestedBranches n bs) = weightFrom w n (branchWords bs).length := by
  induction bs generalizing n with
  | nil => rfl
  | cons b rest ihr =>
    obtain ⟨hb, hrest⟩ := List.forall_mem_cons.mp ih
    rw [branchWords, List.mem_cons, List.mem_append, not_or, not_or] at h
    rw [nestedBranches, UnionExpr.total_cons, length_branchWords_cons, weightFrom_add,
      ihr _ h.2.2 hrest, ← hb n h.2.1]

theorem weight_nested_of_all (q : Query) (n : Nat) (h : false ∉ q.words) :
    (q.nested n).weight w = weightFrom w n (q.words.length + 1) := by
  induction q using Query.induction generalizing n with
  | node q ih =>
    rw [words_eq] at h
    have hall := all_of_mem_nestedBranches (n := n + 1) fun b hb => (not_mem_words h b hb).1
    rw [nested_eq, UnionExpr.weight_join_of_all w _ _ hall,
      total_nestedBranches_of_all w q.branches (n + 1) h fun b hb n => ih b hb n,
      words_eq, weightFrom_succ, weight]

/-! ## Unions that nest -/

/-- The words of a query with a branch singled out: those in front of the branch, its own, and
those behind it. -/
theorem words_of_branches {q : Query} {before after : List (Branch Query)} {b : Branch Query}
    (h : q.branches = before ++ b :: after) :
    q.words = branchWords before ++ (b.all :: b.query.words ++ branchWords after) := by
  rw [words_eq, h, branchWords_append, branchWords, List.cons_append]

/-- What a query means with a branch singled out. -/
theorem nested_of_branches {q : Query} {before after : List (Branch Query)} {b : Branch Query}
    (h : q.branches = before ++ b :: after) :
    let n := 1 + (branchWords before).length
    q.nested 0 = (UnionExpr.operand 0).join (nestedBranches 1 before ++
      (b.all, b.query.nested n) :: nestedBranches (n + (b.query.words.length + 1)) after) := by
  rw [nested_eq, h, nestedBranches_append, nestedBranches, Nat.zero_add]

theorem weight_flat_of_nest {q : Query} (h : q.UnionsNest) :
    q.flat.weight w = (q.nested 0).weight w := by
  rcases h with h | ⟨before, b, after, hbs, hafter, hlast⟩
  · rw [flat, UnionExpr.weight_join_of_all w _ _ (all_of_mem_leaves (all_of_not_mem h)),
      total_leaves, weight_nested_of_all w q 0 h, weightFrom_succ, weight]
  · -- the last UNION of the text is the last word up to the end of the branch
    have hinit : ∃ init, false :: b.words = init ++ [false] := by
      rcases List.eq_nil_or_concat b.words with hb | ⟨init, all, hb⟩
      · exact ⟨[], by rw [hb]; rfl⟩
      · rw [hb, List.concat_eq_append, List.getLast?_concat] at hlast
        cases all with
        | true => exact absurd rfl hlast
        | false => exact ⟨false :: init, by rw [hb, List.concat_eq_append, List.cons_append]⟩
    obtain ⟨init, hinit⟩ := hinit
    have hlength : b.words.length = init.length := by
      have := congrArg List.length hinit
      simpa using this
    have hwords : q.words = (branchWords before ++ init) ++ false :: branchWords after := by
      rw [words_of_branches hbs, List.append_assoc]
      dsimp only
      rw [hinit, List.append_assoc]
      rfl
    have hnested := fun b hb => (not_mem_words hafter b hb).1
    have hbefore := min_total_nestedBranches w before 1 fun b _ n => min_weight_nested w b.query n
    have hbranch := min_weight_nested w b (1 + (branchWords before).length)
    rw [flat, hwords, leaves_append, leaves,
      UnionExpr.weight_join_of_last_union w _ _ _ _ (all_of_mem_leaves (all_of_not_mem hafter)),
      nested_of_branches hbs,
      UnionExpr.weight_join_of_last_union w _ _ _ _ (all_of_mem_nestedBranches hnested),
      total_nestedBranches_of_all w after _ hafter fun b _ n hb =>
        weight_nested_of_all w b.query n hb,
      total_leaves, total_leaves, List.length_append, weightFrom_add]
    rw [weightFrom_concat, Nat.add_assoc 1] at hbranch
    rw [hlength] at hbranch ⊢
    simp only [weight, Nat.add_assoc] at hbranch ⊢
    omega

end weights

/-! ## Unions that do not nest -/

section differ
open UnionExpr (weight total)

/-- A UNION of the text takes all but one row from what stands in front of it. -/
theorem weight_flat_le {q : Query} {before after : List Bool} {w : Nat → Nat}
    (h : q.words = before ++ false :: after) (hw : ∀ i, before.length + 1 < i → w i = 0) :
    q.flat.weight w ≤ 1 := by
  have hle := UnionExpr.weight_join_le_of_union w (.operand 0) (.operand (1 + before.length))
    (leaves 1 before) (leaves (1 + before.length + 1) after)
  have hzero : weightFrom w (1 + before.length + 1) after.length = 0 :=
    weightFrom_eq_zero w fun i hi => hw i (by omega)
  rw [flat, h, leaves_append, leaves]
  rw [total_leaves, hzero] at hle
  exact hle

/-- A UNION inside a branch, in a query without one of its own: two rows of the first operand. -/
theorem differ_of_no_own_union {q : Query} (hown : ∀ b ∈ q.branches, b.all = true)
    (h : false ∈ q.words) : ∃ w, q.flat.weight w ≠ (q.nested 0).weight w := by
  obtain ⟨before, after, hwords⟩ := List.append_of_mem h
  refine ⟨fun i => if i = 0 then 2 else 0, ?_⟩
  have hflat := weight_flat_le (w := fun i => if i = 0 then 2 else 0) hwords fun i hi =>
    if_neg (by omega)
  rw [nested_eq, UnionExpr.weight_join_of_all _ _ _ (all_of_mem_nestedBranches hown), weight,
    if_pos rfl]
  omega

/-- A UNION inside a branch behind the last one of the query itself: a row of the first operand, and
the same row in the first operand of that branch. -/
theorem differ_of_later_union {q b : Query} {before after : List (Branch Query)}
    (hbs : q.branches = before ++ ⟨false, b⟩ :: after) (hown : ∀ c ∈ after, c.all = true)
    (h : false ∈ branchWords after) : ∃ w, q.flat.weight w ≠ (q.nested 0).weight w := by
  obtain ⟨c, hc, hunion⟩ := mem_branchWords.mp h
  have hmem : false ∈ c.query.words := by
    rcases hunion with hall | hmem
    · rw [hown c hc] at hall
      cases hall
    · exact hmem
  obtain ⟨front, back, hafter⟩ := List.append_of_mem hc
  obtain ⟨pre, post, hwords⟩ := List.append_of_mem hmem
  obtain ⟨k, hkey⟩ : ∃ k, 1 + (branchWords before).length + (b.words.length + 1)
    + (branchWords front).length = k := ⟨_, rfl⟩
  refine ⟨fun i => if i = 0 ∨ i = k then 1 else 0, ?_⟩
  generalize hw : (fun i => if i = 0 ∨ i = k then 1 else 0) = w
  have hflat : q.flat.weight w ≤ 1 := by
    have hsplit : q.words = (branchWords before ++ false :: (b.words ++ (branchWords front
        ++ c.all :: pre))) ++ false :: (post ++ branchWords back) := by
      rw [words_of_branches hbs, hafter, branchWords_append, branchWords, hwords]
      simp
    refine weight_flat_le hsplit fun i hi => ?_
    rw [← hw]
    simp only [List.length_append, List.length_cons] at hi
    exact if_neg (by omega)
  have hnested : 2 ≤ (q.nested 0).weight w := by
    have h₀ : w 0 = 1 := by rw [← hw]; exact if_pos (.inl rfl)
    have hk : w k = 1 := by rw [← hw]; exact if_pos (.inr rfl)
    have hbranch := min_weight_nested w c.query k
    rw [weightFrom_succ, hk] at hbranch
    rw [nested_of_branches hbs, UnionExpr.weight_join_of_last_union w _ _ _ _
      (all_of_mem_nestedBranches hown), hafter, nestedBranches_append, nestedBranches,
      UnionExpr.total_append, UnionExpr.total_cons, weight, h₀, hkey]
    dsimp only
    omega
  omega

/-- A branch that ends with UNION ALL behind the last UNION: two rows of its last operand. -/
theorem differ_of_last_all {q b : Query} {before after : List (Branch Query)}
    (hbs : q.branches = before ++ ⟨false, b⟩ :: after) (hafter : false ∉ branchWords after)
    (h : b.words.getLast? = some true) : ∃ w, q.flat.weight w ≠ (q.nested 0).weight w := by
  obtain ⟨init, hinit⟩ : ∃ init, b.words = init ++ [true] := List.getLast?_eq_some_iff.mp h
  let k := 1 + ((branchWords before).length + (init.length + 1))
  refine ⟨fun i => if i = k then 2 else 0, ?_⟩
  generalize hw : (fun i => if i = k then 2 else 0) = w
  have hk : w k = 2 := by rw [← hw]; exact if_pos rfl
  have hwords : q.words = (branchWords before ++ false :: init) ++ true :: branchWords after := by
    rw [words_of_branches hbs]
    dsimp only
    rw [hinit]
    simp
  have hflat : 2 ≤ q.flat.weight w := by
    have hall : ∀ other ∈ (true, UnionExpr.operand k) :: leaves (k + 1) (branchWords after),
        other.1 = true :=
      List.forall_mem_cons.mpr ⟨rfl, all_of_mem_leaves (all_of_not_mem hafter)⟩
    have hlength : 1 + (branchWords before ++ false :: init).length = k := by
      simp [k]
    rw [flat, hwords, leaves_append, hlength, leaves, UnionExpr.join_append,
      UnionExpr.weight_join_of_all w _ _ hall, UnionExpr.total_cons, weight, hk]
    omega
  have hnested : (q.nested 0).weight w ≤ 1 := by
    have hzero := weightFrom_eq_zero w
      (n := 1 + (branchWords before).length + (b.words.length + 1))
      (k := (branchWords after).length)
      fun i hi => by
        rw [hinit, List.length_append, List.length_singleton] at hi
        rw [← hw]
        exact if_neg (by omega)
    have hle := UnionExpr.weight_join_le_of_union w (.operand 0)
      (b.nested (1 + (branchWords before).length)) (nestedBranches 1 before)
      (nestedBranches (1 + (branchWords before).length + (b.words.length + 1)) after)
    rw [total_nestedBranches_of_all w after _ hafter fun c _ n hc =>
      weight_nested_of_all w c.query n hc, hzero] at hle
    rw [nested_of_branches hbs]
    exact hle
  omega

/-- Either all branches are joined by UNION ALL, or there is a last one that is not. -/
theorem exists_last_union (bs : List (Branch Query)) :
    (∀ b ∈ bs, b.all = true) ∨
    ∃ before b after, bs = before ++ ⟨false, b⟩ :: after ∧ ∀ c ∈ after, c.all = true := by
  induction bs with
  | nil => exact .inl fun _ h => nomatch h
  | cons b rest ih =>
    rcases ih with hall | ⟨before, c, after, rfl, hafter⟩
    · obtain ⟨all, q⟩ := b
      cases all with
      | true => exact .inl (List.forall_mem_cons.mpr ⟨rfl, hall⟩)
      | false => exact .inr ⟨[], q, rest, rfl, hall⟩
    · exact .inr ⟨b :: before, c, after, rfl, hafter⟩

theorem weight_flat_eq_iff (q : Query) :
    (∀ w, q.flat.weight w = (q.nested 0).weight w) ↔ q.UnionsNest := by
  refine ⟨fun hagree => ?_, fun h w => weight_flat_of_nest w h⟩
  have hnot : ¬ ∃ w, q.flat.weight w ≠ (q.nested 0).weight w := fun ⟨w, hw⟩ => hw (hagree w)
  by_cases hwords : false ∈ q.words
  · rcases exists_last_union q.branches with hown | ⟨before, b, after, hbs, hown⟩
    · exact absurd (differ_of_no_own_union hown hwords) hnot
    · have hafter : false ∉ branchWords after := fun h =>
        hnot (differ_of_later_union hbs hown h)
      exact .inr ⟨before, b, after, hbs, hafter, fun h => hnot (differ_of_last_all hbs hafter h)⟩
  · exact .inl hwords

end differ

/-! ## Compiled unions -/

mutual
/-- Whether neither the query nor a branch has a limit or an offset that counts. -/
def isUnpaged : Query → Bool
  | q@{ branches, .. } => !q.isPaged && branchesUnpaged branches

/-- Whether no branch has a limit or an offset that counts. -/
def branchesUnpaged : List (Branch Query) → Bool
  | [] => true
  | ⟨_, q⟩ :: rest => isUnpaged q && branchesUnpaged rest
end

theorem isUnpaged_eq (q : Query) :
    q.isUnpaged = (!q.isPaged && q.branches.all fun b => b.query.isUnpaged) := by
  have h (bs : List (Branch Query)) : branchesUnpaged bs = bs.all fun b => b.query.isUnpaged := by
    induction bs with
    | nil => rfl
    | cons b rest ih => rw [branchesUnpaged, ih, List.all_cons]
  rw [← h]
  cases q
  rw [isUnpaged]

end Query

def UnionToken.templates (tokens : List UnionToken) : Template :=
  tokens.flatMap UnionToken.template

theorem UnionToken.templates_cons (token : UnionToken) (tokens : List UnionToken) :
    templates (token :: tokens) = token.template ++ templates tokens := List.flatMap_cons

theorem UnionToken.templates_append (tokens more : List UnionToken) :
    templates (tokens ++ more) = templates tokens ++ templates more := List.flatMap_append

namespace Outline

theorem selectBranches_of_unpaged (n : Nat) (bs : List (Branch Query))
    (h : ∀ b ∈ bs, b.query.isPaged = false)
    (ih : ∀ b ∈ bs, ∀ n,
      select .outer n b.query = ⟨UnionToken.templates (b.query.unionTokens false), none⟩) :
    selectBranches n bs = ⟨UnionToken.templates (Query.branchTokens false bs), none⟩ := by
  induction bs generalizing n with
  | nil => rfl
  | cons b rest ihr =>
    obtain ⟨hb, hrest⟩ := List.forall_mem_cons.mp h
    obtain ⟨hq, hqs⟩ := List.forall_mem_cons.mp ih
    have hnames : branchNames n b.query = .outer := by
      rw [branchNames, hb]
      rfl
    rw [selectBranches, hnames, hb, if_neg Bool.false_ne_true, hq, branch, hb,
      if_neg Bool.false_ne_true, ihr _ hrest hqs, Query.branchTokens, Bool.false_and,
      if_neg Bool.false_ne_true, UnionToken.templates_cons, UnionToken.templates_append]
    rfl

/-- Without windows a selection is the text of its union. -/
theorem select_of_unpaged (n : Nat) (q : Query) (h : q.isUnpaged = true) :
    select .outer n q = ⟨UnionToken.templates (q.unionTokens false), none⟩ := by
  induction q using Query.induction generalizing n with
  | node q ih =>
    rw [Query.isUnpaged_eq, Bool.and_eq_true, List.all_eq_true, Bool.not_eq_true'] at h
    obtain ⟨hpaged, hbranches⟩ := h
    have hbranch : ∀ b ∈ q.branches, b.query.isPaged = false := by
      intro b hb
      have hunpaged := hbranches b hb
      rw [Query.isUnpaged_eq, Bool.and_eq_true, Bool.not_eq_true'] at hunpaged
      exact hunpaged.1
    obtain ⟨hl, ho⟩ : ¬ 0 < q.limitValue ∧ ¬ 0 < q.offsetValue := by
      simpa [Query.isPaged] using hpaged
    have hopening : Template.opening .outer q.limitValue q.offsetValue = [] := by
      simp [Template.opening, hl, ho]
    have hclosing : Template.closing .outer q.limitValue q.offsetValue = [] := by
      simp [Template.closing, hl, ho]
    have hepilog : UnionToken.templates [.epilog q.epilog] = Template.epilog q.epilog :=
      List.append_nil _
    rw [select_eq, hopening, hclosing, selectBranches_of_unpaged n q.branches hbranch fun b hb n =>
      ih b hb n (hbranches b hb), Query.unionTokens_eq, UnionToken.templates_cons,
      UnionToken.templates_append, hepilog, List.append_nil, List.nil_append]
    exact congrArg (Outline.mk · none) (List.append_assoc _ _ _)

end Outline

/-- **The text of a union reads as the query means exactly if its unions nest.**  For a tree of
selections without windows, compiling succeeds, and the text is the operands with their words, one
after another and without parentheses.  Read from left to right it gives the same rows, each as
often, as the query means, for all rows of the operands, if and only if the unions of the query
nest.  With parentheses around the unions of branches it would always read as the query means. -/
theorem union_reading_iff (d : Dialect) (t : AliasTable) (q : Query) (hk : q.kind = .select)
    (hp : q.isUnpaged = true) :
    ∃ c e, (d.compile t q).result = .ok c ∧
      c.sql = (UnionToken.templates (q.unionTokens false)).text d t 0 ∧
      UnionToken.read (q.unionTokens false) = some e ∧
      UnionToken.read (q.unionTokens true) = some (q.nested 0) ∧
      ((∀ of : Nat → List (List Value), (e.rows of).Perm ((q.nested 0).rows of)) ↔
        q.UnionsNest) := by
  have hresult := d.result_compile_select t q hk
  rw [Outline.select_of_unpaged 0 q hp] at hresult
  refine ⟨_, q.flat, hresult, rfl, q.read_unionTokens, q.read_bracketed, ?_⟩
  rw [UnionExpr.perm_rows_iff, Query.weight_flat_eq_iff]

/-- Selects the column `a` of a table, with branches. -/
def unionOf (table : String) (branches : List (Branch Query)) : Query :=
  { select := [⟨.column "a", none⟩], tables := [⟨table, none⟩], branches }

/-- A UNION inside a branch that is joined by the given word. -/
def unionInside (all : Bool) : Query :=
  unionOf "t" [⟨all, unionOf "u" [⟨false, unionOf "v" []⟩]⟩]

theorem union_reading_iff_unionInside : ∃ c e,
    (({} : Dialect).compile {} (unionInside false)).result = .ok c ∧
    c.sql = (UnionToken.templates ((unionInside false).unionTokens false)).text {} {} 0 ∧
    UnionToken.read ((unionInside false).unionTokens false) = some e ∧
    ∀ of : Nat → List (List Value),
      (e.rows of).Perm (((unionInside false).nested 0).rows of) := by
  obtain ⟨c, e, hresult, hsql, hread, -, hiff⟩ :=
    union_reading_iff {} {} (unionInside false) rfl (by decide)
  refine ⟨c, e, hresult, hsql, hread, hiff.mpr (.inr ⟨[], _, [], rfl, ?_, ?_⟩)⟩
  · exact List.not_mem_nil
  · decide

/-- Behind UNION ALL the text lets the UNION of the branch take a repeated row from the operand in
front of it as well. -/
theorem union_reading_differs_unionInside :
    let e : UnionExpr := .union false (.union true (.operand 0) (.operand 1)) (.operand 2)
    let of : Nat → List (List Value) := fun n => if n = 0 then [[.int 1], [.int 1]] else []
    (({} : Dialect).compile {} (unionInside true)).result.toOption.map CompiledQuery.sql = some
      ("SELECT \"a\" FROM \"t\" UNION ALL SELECT \"a\" FROM \"u\" "
        ++ "UNION SELECT \"a\" FROM \"v\"") ∧
    UnionToken.read ((unionInside true).unionTokens false) = some e ∧
    e.rows of = [[.int 1]] ∧ ((unionInside true).nested 0).rows of = [[.int 1], [.int 1]] ∧
    ¬ (e.rows of).Perm (((unionInside true).nested 0).rows of) := by
  refine ⟨by decide +kernel, by decide, by decide, by decide, by decide⟩

end RownumSql
