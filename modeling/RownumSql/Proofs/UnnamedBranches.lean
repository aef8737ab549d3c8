import Mathlib.Data.List.DropRight
import Mathlib.Logic.Relation
import RownumSql.Proofs.AliasLifetime
import RownumSql.Proofs.Selections

/-!
# Branches without names

A branch that skips rows is selected once more by the names of its items, which drops the row
number.  The only way in which a SELECT can fail is that some branch, however deep in the unions,
skips rows and has an item that no name can be made of.  The branches inside such a branch are never
reached, and those before it are built in vain; neither is seen in the result.

    compile fails ↔ some query below skips rows and has no names         (compile_select_fails_iff)

What the outermost query selects and which of its rows it asks for makes no difference.
-/

namespace RownumSql

/-! ## Queries below a query -/

namespace Query

/-- `p` is one of the branches of `q`. -/
def IsBranchOf (p q : Query) : Prop := ∃ b ∈ q.branches, b.query = p

/-- `p` is a branch of `q`, or a branch of a branch, and so on. -/
def Below : Query → Query → Prop := Relation.TransGen IsBranchOf

theorem mem_selectionsOf_iff {p : Query} {bs : List (Branch Query)} :
    p ∈ selectionsOf bs ↔ ∃ b ∈ bs, p ∈ b.query.selections := by
  induction bs with
  | nil => simp [selectionsOf]
  | cons b rest ih =>
    obtain ⟨all, q⟩ := b
    rw [selectionsOf, List.mem_append, ih, List.exists_mem_cons_iff]

/-- The selections that are written for the branches of a query are the queries below it. -/
theorem mem_selectionsOf_branches_iff {p q : Query} : p ∈ selectionsOf q.branches ↔ p.Below q := by
  constructor
  · intro h
    induction q using Query.induction with
    | node q ih =>
      obtain ⟨b, hb, hp⟩ := mem_selectionsOf_iff.mp h
      have hbranch : IsBranchOf b.query q := ⟨b, hb, rfl⟩
      rw [selections_eq, List.mem_cons] at hp
      obtain rfl | hp := hp
      · exact .single hbranch
      · exact (ih b hb hp).tail hbranch
  · intro h
    induction h with
    | single h =>
      obtain ⟨b, hb, rfl⟩ := h
      refine mem_selectionsOf_iff.mpr ⟨b, hb, ?_⟩
      rw [selections_eq]
      exact List.mem_cons_self
    | tail _ h ih =>
      obtain ⟨b, hb, rfl⟩ := h
      refine mem_selectionsOf_iff.mpr ⟨b, hb, ?_⟩
      rw [selections_eq]
      exact List.mem_cons_of_mem _ ih

end Query

/-! ## Names of items -/

/-- The text behind the last point of a name, or all of it if there is none. -/
def lastPart (name : String) : String := String.ofList (name.toList.rtakeWhile (· ≠ '.'))

/-- The text consists of ASCII letters, digits and underscores, and is not empty. -/
def IsColumnName (s : String) : Prop := s ≠ "" ∧ ∀ c ∈ s.toList, c.isAlphanum ∨ c = '_'

instance (s : String) : Decidable (IsColumnName s) :=
  decidable_of_iff (s ≠ "" ∧ (s.toList.all fun c => decide (c.isAlphanum ∨ c = '_')) = true)
    (by simp [IsColumnName])

/-- The item can be selected again by a name: it has a label, or it is a column whose last part is a
name. -/
def SelectItem.HasName (item : SelectItem) : Prop :=
  item.label.isSome ∨ ∃ name, item.expr = .column name ∧ IsColumnName (lastPart name)

/-- What follows the last separator is the last of the parts. -/
theorem getLast?_splitOn (x : Char) (cs : List Char) :
    (cs.splitOn x).getLast? = some (cs.rtakeWhile (· ≠ x)) := by
  by_cases hx : x ∈ cs
  · obtain ⟨last, before, hcs, hlast⟩ := List.eq_append_cons_of_mem (List.mem_reverse.mpr hx)
    have hsplit : cs = before.reverse ++ x :: last.reverse := by
      rw [← List.reverse_reverse cs, hcs, List.reverse_append, List.reverse_cons, List.append_assoc,
        List.singleton_append]
    have hne : x ∉ last.reverse := fun h => hlast (List.mem_reverse.mp h)
    have hwords : cs.splitOn x = before.reverse.splitOn x ++ [last.reverse] := by
      rw [hsplit, ← List.splitOn_eq_singleton hne]
      exact List.splitOnP_append_cons _ _ (beq_self_eq_true x)
    have hkept : ∀ c ∈ last, decide (c ≠ x) = true := by
      intro c hc
      rw [decide_eq_true_eq]
      rintro rfl
      exact hlast hc
    rw [hwords, List.getLast?_append, List.getLast?_singleton, Option.some_or, List.rtakeWhile, hcs,
      List.takeWhile_append_of_pos hkept, List.takeWhile_cons_of_neg (by simp), List.append_nil]
  · have hall : ∀ c ∈ cs, decide (c ≠ x) = true := by
      intro c hc
      rw [decide_eq_true_eq]
      rintro rfl
      exact hx hc
    rw [List.splitOn_eq_singleton hx, List.getLast?_singleton, List.rtakeWhile_eq_self_iff.mpr hall]

theorem Dialect.getLastD_parts (name : String) :
    (Dialect.parts name).getLastD "" = lastPart name := by
  rw [Dialect.parts, List.getLastD_eq_getLast?, List.getLast?_map, getLast?_splitOn]
  rfl

/-- A name is found for exactly the items that have one. -/
theorem itemName?_eq_none_iff (item : SelectItem) :
    Emit.itemName? item = none ↔ ¬ item.HasName := by
  obtain ⟨expr, label⟩ := item
  cases label with
  | some label => simp [Emit.itemName?, SelectItem.HasName]
  | none =>
    cases expr with
    | column name =>
      have hiff : (!(lastPart name).toList.isEmpty && (lastPart name).toList.all fun c =>
          AliasTable.isAlphanumeric c || c = '_') = true ↔ IsColumnName (lastPart name) := by
        simp [IsColumnName, AliasTable.isAlphanumeric_eq]
      have hname : SelectItem.HasName ⟨.column name, none⟩ ↔ IsColumnName (lastPart name) := by
        simp [SelectItem.HasName]
      rw [hname, ← hiff, ← Dialect.getLastD_parts]
      simp only [Emit.itemName?, ite_eq_right_iff, reduceCtorEq, imp_false]
    | _ => simp [Emit.itemName?, SelectItem.HasName]

/-! ## Compiled selections -/

/-- The query skips rows and selects nothing, or something that has no name. -/
def Query.LacksNames (q : Query) : Prop :=
  0 < q.offsetValue ∧ (q.select = [] ∨ ∃ item ∈ q.select, ¬ item.HasName)

theorem Query.all_canJoin_eq_false_iff (q : Query) :
    (selectionsOf q.branches).all canJoin = false ↔ ∃ p : Query, p.Below q ∧ p.LacksNames := by
  simp only [List.all_eq_false, mem_selectionsOf_branches_iff, Bool.not_eq_true,
    canJoin_eq_false_iff, itemName?_eq_none_iff, LacksNames]

/-- A selection fails exactly if a query below it lacks names, and with one error only. -/
theorem Dialect.compile_eq_error_iff (d : Dialect) (t : AliasTable) {q : Query}
    (hk : q.kind = .select) (e : SqlError) : (d.compile t q).result = .error e ↔
      e = .unnamedBranch ∧ ∃ p : Query, p.Below q ∧ p.LacksNames := by
  rw [Dialect.result_compile_select d t q hk, Outline.error_select,
    ← Query.all_canJoin_eq_false_iff]
  cases (Query.selectionsOf q.branches).all Query.canJoin with
  | true => simp
  | false => simp [eq_comm]

/-- **A SELECT fails only for a branch whose row numbers cannot be dropped.**  It fails exactly if
some query below it skips rows and selects nothing or something without a name.  The error is always
the same, and the outermost query's own limit, offset and select list do not matter. -/
theorem compile_select_fails_iff (d : Dialect) (t : AliasTable) (q : Query)
    (hk : q.kind = .select) :
    ((∃ e, (d.compile t q).result = .error e) ↔ ∃ p : Query, p.Below q ∧ 0 < p.offsetValue ∧
      (p.select = [] ∨ ∃ item ∈ p.select, ¬ item.HasName)) ∧
    (∀ e, (d.compile t q).result = .error e →
      e = .unsupported "OFFSET on a UNION branch without named select items") ∧
    ∀ limit offset select, (∃ e, (d.compile t { q with limit, offset, select }).result = .error e) ↔
      ∃ e, (d.compile t q).result = .error e := by
  have hfails {p : Query} (hp : p.kind = .select) :
      (∃ e, (d.compile t p).result = .error e) ↔ ∃ r : Query, r.Below p ∧ r.LacksNames := by
    simp only [d.compile_eq_error_iff t hp, exists_eq_left]
  refine ⟨hfails hk, ?_, ?_⟩
  · intro e h
    exact ((d.compile_eq_error_iff t hk e).mp h).1
  · intro limit offset select
    -- the queries below are those of the same branches
    have hsame : (∃ r : Query, r.Below { q with limit, offset, select } ∧ r.LacksNames) ↔
        ∃ r : Query, r.Below q ∧ r.LacksNames := by
      rw [← Query.all_canJoin_eq_false_iff, ← Query.all_canJoin_eq_false_iff]
    rw [hfails hk, hfails (p := { q with limit, offset, select }) hk, hsame]

/-- A union within a branch of a union, and in it a branch that skips rows. -/
def deepUnion (items : List SelectItem) : Query :=
  { tables := [⟨"t", none⟩], limit := some 5, offset := some 1
    branches := [
      { query := { select := [⟨.column "id", none⟩], tables := [⟨"u", none⟩]
                   branches := [
                    { all := true
                      query := { select := items, tables := [⟨"v", none⟩], offset := some 3 } }] } }] }

/-- A path, and a call under no label. -/
def unnamedItems : List SelectItem := [⟨.column "v.id", none⟩, ⟨.column "COUNT(v.*)", none⟩]

theorem compile_select_fails_iff_deep :
    (deepUnion unnamedItems).kind = .select ∧
    (({} : Dialect).compile {} (deepUnion unnamedItems)).result
      = .error (.unsupported "OFFSET on a UNION branch without named select items") := by
  obtain ⟨hiff, hone, -⟩ := compile_select_fails_iff {} {} (deepUnion unnamedItems) rfl
  have hcall : ¬ SelectItem.HasName ⟨.column "COUNT(v.*)", none⟩ := by
    rintro (hlabel | ⟨name, hname, hlast⟩)
    · cases hlabel
    · cases hname
      revert hlast
      decide
  obtain ⟨e, h⟩ := hiff.mpr
    ⟨_, .tail (.single ⟨_, List.mem_singleton_self _, rfl⟩) ⟨_, List.mem_singleton_self _, rfl⟩,
      by decide, .inr ⟨_, List.mem_cons_of_mem _ List.mem_cons_self, hcall⟩⟩
  rw [hone e h] at h
  exact ⟨rfl, h⟩

end RownumSql
