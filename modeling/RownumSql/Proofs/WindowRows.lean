import RownumSql.Proofs.PutBindings
import RownumSql.Proofs.Selections

/-!
# Rows of a window

A window is two SELECTs around a selection: one counts the rows and keeps the first of them, one
keeps the rows behind a number.  Both compare with a bound value, and the values of great limits and
offsets are less than asked for.  With the bindings of the statement the rows are those that were
asked for all the same, as long as there are fewer than `2 ^ 63` of them.

    s.rowsOf c.bindings rows  is  p.window rows, for every selection p of the statement and its
    SELECT s, whatever its limit and offset are                              (rowsOf_selections)
-/

namespace RownumSql

open Bindings (value?)

/-! ## Rows of a SELECT -/

/-- The whole number that is bound under a name. -/
def boundNumber? (bindings : List Binding) (name : String) : Option Int :=
  (value? (.ofName name) bindings).bind fun v => v.int?.map Int64.toInt

/-- The counted rows up to the number that is bound for a cap. -/
def capped {α : Type} (bindings : List Binding) (counted : List (α × Nat)) :
    Option (String × UInt64) → Option (List (α × Nat))
  | none => some counted
  | some (name, _) =>
    (boundNumber? bindings name).map fun last => counted.filter fun r => (r.2 : Int) ≤ last

/-- The rows of a SELECT, each with the row number if that is a column, where `rows` are those of
the selection inside its windows.  There are none if a bound is missing, or the row number that is
compared with one. -/
def SelectTree.rowsOf {ρ : Type} (bindings : List Binding) (rows : List ρ) :
    SelectTree → Option (List (ρ × Option Nat))
  | plain .. => some (rows.map (·, none))
  | counting numbered cap inner =>
    (rowsOf bindings rows inner).bind fun counted =>
      (capped bindings (counted.zipIdx 1) cap).map fun kept =>
        kept.map fun r => (r.1.1, if numbered then some r.2 else r.1.2)
  | skipping name _ inner =>
    if inner.isNumbered then
      (rowsOf bindings rows inner).bind fun counted =>
        (boundNumber? bindings name).map fun skipped =>
          counted.filter fun r => r.2.any fun n => skipped < (n : Int)
    else none
  | projecting _ inner => (rowsOf bindings rows inner).map fun counted =>
      counted.map fun r => (r.1, none)

/-- The rows that a limit and an offset ask for: all behind the offset, and of these no more than
the limit if it is positive. -/
def windowOf {ρ : Type} (limit offset : UInt64) (rows : List ρ) : List ρ :=
  if 0 < limit then (rows.drop offset.toNat).take limit.toNat else rows.drop offset.toNat

/-- The rows that a query asks for of those that it has without its window. -/
def Query.window {ρ : Type} (q : Query) (rows : List ρ) : List ρ :=
  windowOf q.limitValue q.offsetValue rows

/-! ## Counted rows -/

section counted
variable {α : Type}

theorem filter_le_zipIdx (xs : List α) (k : Nat) (last : Int) :
    (xs.zipIdx k).filter (fun r => (r.2 : Int) ≤ last)
      = (xs.zipIdx k).take (last + 1 - k).toNat := by
  induction xs generalizing k with
  | nil => simp
  | cons x xs ih =>
    rw [List.zipIdx_cons, List.filter_cons, ih]
    -- the numbers grow, so no row behind one that is left out is kept
    by_cases hk : (k : Int) ≤ last
    · obtain ⟨m, hm⟩ : ∃ m : Nat, (last + 1 - k).toNat = m + 1 := ⟨(last - k).toNat, by omega⟩
      have hrest : (last + 1 - (k + 1 : Nat)).toNat = m := by omega
      rw [if_pos (decide_eq_true hk), hm, hrest, List.take_succ_cons]
    · have hnone : (last + 1 - k).toNat = 0 := by omega
      have hrest : (last + 1 - (k + 1 : Nat)).toNat = 0 := by omega
      rw [if_neg (by simpa using hk), hnone, hrest, List.take_zero, List.take_zero]

theorem filter_gt_zipIdx (xs : List α) (k : Nat) (skipped : Int) :
    (xs.zipIdx k).filter (fun r => skipped < (r.2 : Int))
      = (xs.zipIdx k).drop (skipped + 1 - k).toNat := by
  induction xs generalizing k with
  | nil => simp
  | cons x xs ih =>
    rw [List.zipIdx_cons, List.filter_cons, ih]
    by_cases hk : skipped < (k : Int)
    · have hnone : (skipped + 1 - k).toNat = 0 := by omega
      have hrest : (skipped + 1 - (k + 1 : Nat)).toNat = 0 := by omega
      rw [if_pos (decide_eq_true hk), hnone, hrest, List.drop_zero, List.drop_zero]
    · obtain ⟨m, hm⟩ : ∃ m : Nat, (skipped + 1 - k).toNat = m + 1 := ⟨(skipped - k).toNat, by omega⟩
      have hrest : (skipped + 1 - (k + 1 : Nat)).toNat = m := by omega
      rw [if_neg (by simpa using hk), hm, hrest, List.drop_succ_cons]

theorem take_zipIdx (xs : List α) (k n : Nat) : (xs.zipIdx k).take n = (xs.take n).zipIdx k := by
  induction xs generalizing k n with
  | nil => simp
  | cons x xs ih =>
    cases n with
    | zero => rfl
    | succ n =>
      rw [List.zipIdx_cons, List.take_succ_cons, List.take_succ_cons, List.zipIdx_cons, ih]

/-- A bound that is less than asked for makes no difference to rows that are fewer. -/
theorem take_clamped {xs : List α} (h : xs.length < 9223372036854775808) (limit : UInt64) :
    xs.take (min (lastRow limit 0) 9223372036854775807) = xs.take limit.toNat := by
  have hlimit := limit.toNat_lt
  have hzero : (0 : UInt64).toNat = 0 := rfl
  rw [List.take_eq_take_iff, lastRow]
  omega

theorem drop_clamped {xs : List α} (h : xs.length < 9223372036854775808) (offset : UInt64) :
    xs.drop (min offset.toNat 9223372036854775807) = xs.drop offset.toNat := by
  rw [List.drop_eq_drop_iff]
  omega

theorem drop_take_clamped {xs : List α} (h : xs.length < 9223372036854775808)
    (limit offset : UInt64) :
    (xs.take (min (lastRow limit offset) 9223372036854775807)).drop
        (min offset.toNat 9223372036854775807)
      = (xs.drop offset.toNat).take limit.toNat := by
  have hoffset := offset.toNat_lt
  -- each bound is clamped on its own, which matters only where it is beyond all rows
  rw [List.drop_take, drop_clamped h, List.take_eq_take_iff, List.length_drop, lastRow]
  omega

end counted

/-! ## Bounds -/

theorem int?_boundValue (n : Nat) :
    (boundValue n).int?.map Int64.toInt = some ((min n 9223372036854775807 : Nat) : Int) := by
  have hmin : (min (n : Int) 9223372036854775807) = ((min n 9223372036854775807 : Nat) : Int) := by
    omega
  show some (Int64.ofInt (min n 9223372036854775807)).toInt = _
  rw [Int64.toInt_ofInt_of_le (by omega) (by omega), hmin]

/-- The bindings have every value under its name that the template binds. -/
def Template.BoundIn (bindings : List Binding) (s : Template) : Prop :=
  ∀ name v, .bound name v ∈ s → value? (.ofName name) bindings = some v

theorem Template.BoundIn.mono {bindings : List Binding} {s u : Template} (h : u.BoundIn bindings)
    (hsub : s ⊆ u) : s.BoundIn bindings :=
  fun name v hmem => h name v (hsub hmem)

namespace SelectTree
variable {ρ : Type} {bindings : List Binding} {rows : List ρ}

theorem boundNumber?_of_mem {s : Template} (h : s.BoundIn bindings) {name : String} {n : Nat}
    (hmem : .bound name (boundValue n) ∈ s) :
    boundNumber? bindings name = some ((min n 9223372036854775807 : Nat) : Int) := by
  rw [boundNumber?, h name _ hmem]
  exact int?_boundValue n

theorem capped_eq_take {α : Type} {name : String} {n : Nat}
    (hlast : boundNumber? bindings name = some (n : Int)) (xs : List α) (last : UInt64) :
    capped bindings (xs.zipIdx 1) (some (name, last)) = some ((xs.take n).zipIdx 1) := by
  have hcount : ((n : Int) + 1 - (1 : Nat)).toNat = n := by omega
  rw [capped, hlast, Option.map_some, filter_le_zipIdx, hcount, take_zipIdx]

/-- Rows without numbers are counted in their order, and the first of them are kept. -/
theorem rowsOf_counting {numbered : Bool} {cap : Option (String × UInt64)} {inner : SelectTree}
    {kept : List ρ} (h : rowsOf bindings rows inner = some (rows.map (·, none)))
    (hcap : capped bindings ((rows.map fun row => (row, (none : Option Nat))).zipIdx 1) cap
      = some ((kept.map (·, none)).zipIdx 1)) :
    rowsOf bindings rows (counting numbered cap inner)
      = some ((kept.zipIdx 1).map fun r => (r.1, if numbered then some r.2 else none)) := by
  rw [rowsOf, h, Option.bind_some, hcap, Option.map_some, List.zipIdx_map, List.map_map]
  rfl

/-- Of rows with numbers the first are left out. -/
theorem rowsOf_skipping {name : String} {offset : UInt64} {n : Nat} {inner : SelectTree}
    {kept : List ρ} (hnumbered : inner.isNumbered)
    (h : rowsOf bindings rows inner = some ((kept.zipIdx 1).map fun r => (r.1, some r.2)))
    (hskip : boundNumber? bindings name = some (n : Int)) :
    rowsOf bindings rows (skipping name offset inner)
      = some (((kept.zipIdx 1).drop n).map fun r => (r.1, some r.2)) := by
  have hcount : ((n : Int) + 1 - (1 : Nat)).toNat = n := by omega
  have hfilter := filter_gt_zipIdx kept 1 (n : Int)
  rw [hcount] at hfilter
  rw [rowsOf, if_pos hnumbered, h, Option.bind_some, hskip, Option.map_some, List.filter_map,
    ← hfilter]
  rfl

/-- A window binds what it compares with. -/
theorem boundNumber?_windowed {names : PageNames} {limit offset : UInt64} {inner : SelectTree}
    (hbound : (windowed names limit offset inner).template.BoundIn bindings) :
    (0 < offset → boundNumber? bindings names.offset
      = some ((min offset.toNat 9223372036854775807 : Nat) : Int)) ∧
    (0 < limit → boundNumber? bindings names.maxRow
      = some ((min (lastRow limit offset) 9223372036854775807 : Nat) : Int)) := by
  rw [template_windowed] at hbound
  constructor
  · intro ho
    apply boundNumber?_of_mem hbound
    apply List.mem_append_left
    rw [Template.opening, if_pos ho]
    exact List.mem_append_left _ List.mem_cons_self
  · intro hl
    apply boundNumber?_of_mem hbound
    apply List.mem_append_left
    have hpage : 0 < limit ∨ 0 < offset := .inl hl
    rw [Template.opening, if_pos hpage, Template.cap, if_pos hl, ← toNat_endRow]
    exact List.mem_append_right _ List.mem_cons_self

/-- The rows of a window are those that were asked for. -/
theorem rowsOf_windowed {names : PageNames} {limit offset : UInt64} {inner : SelectTree}
    (h : rowsOf bindings rows inner = some (rows.map (·, none)))
    (hrows : rows.length < 9223372036854775808)
    (hbound : (windowed names limit offset inner).template.BoundIn bindings) :
    (rowsOf bindings rows (windowed names limit offset inner)).map (List.map Prod.fst)
      = some (windowOf limit offset rows) := by
  obtain ⟨hoffset, hlast⟩ := boundNumber?_windowed hbound
  have hfst {f : ρ × Nat → Option Nat} (counted : List (ρ × Nat)) :
      (counted.map fun r => (r.1, f r)).map Prod.fst = counted.map Prod.fst := by
    rw [List.map_map]
    rfl
  have hzip (counted : List ρ) : (counted.zipIdx 1).map Prod.fst = counted :=
    List.zipIdx_map_fst 1 counted
  unfold windowed windowOf
  by_cases hl : 0 < limit
  · have hpage : 0 < limit ∨ 0 < offset := .inl hl
    -- the cap stands inside, and so it counts the rows that are skipped as well
    have hcapped := capped_eq_take (hlast hl) (rows.map fun row => (row, (none : Option Nat)))
      (Page.endRow limit offset)
    rw [← List.map_take] at hcapped
    rw [if_pos hpage, if_pos hl, Template.cap, if_pos hl]
    by_cases ho : 0 < offset
    · have hcounted : rowsOf bindings rows (counting true _ inner) = _ := rowsOf_counting h hcapped
      rw [if_pos ho, decide_eq_true ho, rowsOf_skipping rfl hcounted (hoffset ho), Option.map_some,
        hfst, List.map_drop, hzip, drop_take_clamped hrows]
    · have hcounted : rowsOf bindings rows (counting false _ inner) = _ := rowsOf_counting h hcapped
      have hzero : offset = 0 := by simpa [UInt64.pos_iff_ne_zero] using ho
      rw [if_neg ho, decide_eq_false ho, hcounted, Option.map_some, hfst, hzip, hzero,
        take_clamped hrows]
      rfl
  · by_cases ho : 0 < offset
    · have hpage : 0 < limit ∨ 0 < offset := .inr ho
      have hcounted : rowsOf bindings rows (counting true none inner)
          = some ((rows.zipIdx 1).map fun r => (r.1, some r.2)) := rowsOf_counting h rfl
      rw [if_pos hpage, if_neg hl, if_pos ho, decide_eq_true ho, Template.cap, if_neg hl,
        rowsOf_skipping rfl hcounted (hoffset ho), Option.map_some, hfst, List.map_drop, hzip,
        drop_clamped hrows]
    · have hpage : ¬ (0 < limit ∨ 0 < offset) := fun hpage => hpage.elim hl ho
      have hzero : offset = 0 := by simpa [UInt64.pos_iff_ne_zero] using ho
      rw [if_neg hpage, if_neg hl, if_neg ho, h, Option.map_some, hzero, List.map_map]
      exact congrArg some (List.map_id rows)

/-! ## Rows of selections -/

/-- The SELECT has the rows that the query asks for, whichever rows there are without windows. -/
def Shows (bindings : List Binding) (q : Query) (s : SelectTree) : Prop :=
  ∀ (ρ : Type) (rows : List ρ), rows.length < 9223372036854775808 →
    (s.rowsOf bindings rows).map (List.map Prod.fst) = some (q.window rows)

theorem shows_ofQuery {names : PageNames} {n : Nat} {q : Query}
    (h : (ofQuery names n q).template.BoundIn bindings) :
    Shows bindings q (ofQuery names n q) := by
  intro ρ rows hrows
  rw [ofQuery_eq] at h ⊢
  exact rowsOf_windowed rfl hrows h

/-- A projection drops the row numbers, which are none of the rows. -/
theorem Shows.branch {q : Query} {s : SelectTree} (h : Shows bindings q s) :
    Shows bindings q (branch q s) := by
  intro ρ rows hrows
  have hshows := h ρ rows hrows
  have hdropped (counted : List (ρ × Option Nat)) :
      (counted.map fun r => (r.1, (none : Option Nat))).map Prod.fst = counted.map Prod.fst :=
    List.map_map ..
  unfold SelectTree.branch
  split
  · rw [rowsOf, Option.map_map, ← hshows]
    exact congrArg (Option.map · (rowsOf bindings rows s)) (funext hdropped)
  · exact hshows

end SelectTree

/-! ## Bounds of a statement -/

theorem Template.mem_bindings_of_bound {s : Template} {name : String} {v : Value}
    (h : .bound name v ∈ s) (n : Nat) : ⟨.ofName name, v⟩ ∈ s.bindings n := by
  induction s generalizing n with
  | nil => cases h
  | cons x s ih =>
    rw [bindings]
    rcases List.mem_cons.mp h with rfl | h
    · exact List.mem_append_left _ List.mem_cons_self
    · exact List.mem_append_right _ (ih h _)

theorem SelectTree.boundIn_ofQuery {q : Query} (h : (Outline.select .outer 0 q).error = none) :
    (ofQuery .outer 0 q).template.BoundIn q.walkBindings := by
  intro name v hmem
  rw [template_ofQuery .outer 0 q h] at hmem
  have hentry := Template.mem_bindings_of_bound hmem 0
  rw [Outline.bindings_select q h] at hentry
  exact Bindings.value?_of_mem hentry (nodup_keys_walk q)

/-- **The rows of a window are the rows that were asked for.**  Whatever limits and offsets a
statement has on its selection and on the branches below, each of its SELECTs that stands for a
selection has, with the bindings of the statement, the rows behind the offset, in order, and of
these no more than a positive limit. -/
theorem rowsOf_selections (d : Dialect) (t : AliasTable) (q : Query) (c : CompiledQuery)
    (source : Query) (h : (d.compile t q).result = .ok c) (hs : q.selection? = some source) :
    c.sql = q.tree.template.text d (d.compile t q).aliases q.tree.start ∧
    List.Forall₂ (SelectTree.Shows c.bindings) source.selections (wholes q.tree.selects) := by
  refine ⟨sql_compile d t q c h, ?_⟩
  obtain ⟨he, hbindings⟩ := Dialect.bindings_of_selection hs h
  have hbound := SelectTree.boundIn_ofQuery he
  rw [Query.selections_eq, Query.wholes_of_selection hs, hbindings]
  refine .cons (SelectTree.shows_ofQuery hbound) ((SelectTree.forall₂_branches 0 source).imp ?_)
  rintro p s ⟨⟨names, n, rfl⟩, hsub⟩
  have hinner := hbound.mono
    (List.Subset.trans hsub (SelectTree.templates_subset_ofQuery .outer 0 source))
  exact (SelectTree.shows_ofQuery (hinner.mono (SelectTree.template_subset_branch p _))).branch

/-- A union whose windows have limits and offsets that are too great for a bound value. -/
def greatWindows : Query :=
  { select := [⟨.column "a", none⟩], tables := [⟨"t", none⟩]
    limit := some 18446744073709551615, offset := some 2
    branches := [
      { query :=
          { select := [⟨.column "b", none⟩], tables := [⟨"u", none⟩]
            limit := some 2, offset := some 18446744073709551615
            branches := [
              { all := true
                query := { select := [⟨.column "c", none⟩], tables := [⟨"v", none⟩],
                           limit := some 3 } }] } }] }

theorem rowsOf_selections_great : ∃ c,
    (({} : Dialect).compile {} greatWindows).result = .ok c ∧
    greatWindows.selection? = some greatWindows ∧
    c.bindings = [
      ⟨.named "QAIL_FETCH_OFFSET", .int 2⟩,
      ⟨.named "QAIL_MAX_ROW_TO_FETCH", .int 9223372036854775807⟩,
      ⟨.named "QAIL_FETCH_OFFSET_1", .int 9223372036854775807⟩,
      ⟨.named "QAIL_MAX_ROW_TO_FETCH_1", .int 9223372036854775807⟩,
      ⟨.named "QAIL_MAX_ROW_TO_FETCH_2", .int 3⟩] ∧
    List.Forall₂ (fun shown (s : SelectTree) =>
        (s.rowsOf c.bindings [10, 20, 30, 40]).map (List.map Prod.fst) = some shown)
      [[30, 40], [], [10, 20, 30]] (wholes greatWindows.tree.selects) := by
  have hbindings : (({} : Dialect).compile {} greatWindows).result.map (·.bindings) = .ok [
      ⟨.named "QAIL_FETCH_OFFSET", .int 2⟩,
      ⟨.named "QAIL_MAX_ROW_TO_FETCH", .int 9223372036854775807⟩,
      ⟨.named "QAIL_FETCH_OFFSET_1", .int 9223372036854775807⟩,
      ⟨.named "QAIL_MAX_ROW_TO_FETCH_1", .int 9223372036854775807⟩,
      ⟨.named "QAIL_MAX_ROW_TO_FETCH_2", .int 3⟩] := by
    rw [Dialect.result_compile_select {} {} greatWindows rfl]
    decide +kernel
  cases h : (({} : Dialect).compile {} greatWindows).result with
  | error e => rw [h] at hbindings; cases hbindings
  | ok c =>
    rw [h] at hbindings
    have hshows := (rowsOf_selections {} {} greatWindows c greatWindows h rfl).2
    refine ⟨c, rfl, rfl, Except.ok.inj hbindings, ?_⟩
    -- the rows that the three selections ask for
    have hwindows : greatWindows.selections.map (·.window [10, 20, 30, 40])
        = [[30, 40], [], [10, 20, 30]] := by decide +kernel
    rw [← hwindows, List.forall₂_map_left_iff]
    exact hshows.imp fun p s hs => hs Nat [10, 20, 30, 40] (by decide)

end RownumSql
