import Mathlib.Data.List.Nodup
import RownumSql.Client.Cursor
import RownumSql.Client.Scripted

/-!
# Rows that a client serves

A client may run its calls in any monad.  All that is asked of a statement that was run is that it
hands out some rows, one after another, and then says that there are no more (`Serves`).  A cursor
over such a statement presents these rows in order, whether it holds them in memory or not:

    c.execute, then c.fetchAll aliases        gives  rows.map (c.presentRow aliases)
    c.execute, then c.fetchValues repeatedly  gives  rows.map c.presentValues
-/

namespace RownumSql

open Std.Do

/-! ## Steps that return -/

section returns
variable {m : Type → Type} {ps : PostShape} [Monad m] [WPMonad m ps] {α β : Type}

/-- The step comes to an end, and its result has the property. -/
@[irreducible] def Returns (step : m α) (P : α → Prop) : Prop := ⦃⌜True⌝⦄ step ⦃⇓ a => ⌜P a⌝⦄

namespace Returns

theorem pure {P : α → Prop} {a : α} (h : P a) : Returns (Pure.pure a : m α) P := by
  unfold Returns
  apply Triple.pure
  exact SPred.pure_mono fun _ => h

theorem bind {step : m α} {next : α → m β} {P : α → Prop} {Q : β → Prop} (h : Returns step P)
    (hn : ∀ a, P a → Returns (next a) Q) : Returns (step >>= next) Q := by
  unfold Returns at h hn ⊢
  refine Triple.bind step next (Q := fun a => ⌜P a⌝) h fun a => ?_
  apply Triple.of_entails_wp
  apply SPred.pure_elim'
  intro ha
  exact Triple.iff.mp (hn a ha)

theorem mono {step : m α} {P Q : α → Prop} (h : Returns step P) (hpq : ∀ a, P a → Q a) :
    Returns step Q := by
  rw [← bind_pure step]
  exact h.bind fun a ha => .pure (hpq a ha)

/-- In a state monad it is enough to look at every run. -/
theorem of_run {σ : Type} {step : StateM σ α} {P : α → Prop} (h : ∀ s, P (step.run s).1) :
    Returns step P := by
  unfold Returns
  apply Triple.of_entails_wp
  intro s _
  exact h s

end Returns

end returns

/-! ## Statements that serve rows -/

variable {m : Type → Type} {ps : PostShape} [Monad m] [WPMonad m ps]
  {T : Type} [NativeStatement m T]

/-- The statement hands out these rows, and then says that there are no more. -/
def Serves : List Row → T → Prop
  | [], native => Returns (NativeStatement.fetch native) fun r => r.1 = .ok none
  | row :: rest, native =>
    rest.length < NativeStatement.unread native ∧
    Returns (NativeStatement.fetch native) fun r => r.1 = .ok (some row) ∧ Serves rest r.2

theorem Serves.length_le {rows : List Row} {native : T} (h : Serves rows native) :
    rows.length ≤ NativeStatement.unread native := by
  cases rows with
  | nil => exact Nat.zero_le _
  | cons row rest => exact h.1

namespace Cursor

theorem returns_drain {rows : List Row} {native : T} {n : Nat} (h : Serves rows native)
    (hn : rows.length < n) : Returns (drain n native) fun r => r.1 = .ok rows := by
  induction rows generalizing native n with
  | nil =>
    obtain ⟨n, rfl⟩ := Nat.exists_eq_add_one.mpr hn
    apply Returns.bind h
    rintro ⟨r, native'⟩ rfl
    exact .pure rfl
  | cons row rest ih =>
    obtain ⟨n, rfl⟩ := Nat.exists_eq_add_one.mpr (Nat.zero_lt_of_lt hn)
    apply Returns.bind h.2
    rintro ⟨r, native'⟩ ⟨rfl, hrest⟩
    apply Returns.bind (ih hrest (Nat.lt_of_succ_lt_succ hn))
    rintro ⟨rows, native''⟩ rfl
    exact .pure rfl

/-! ## Rows that are left -/

/-- The rows that the cursor has yet to present, from memory or from the client. -/
def Pending (c : Cursor T) (rows : List Row) : Prop :=
  c.held = some rows ∨ c.held = none ∧ Serves rows c.native

theorem Pending.length_le {c : Cursor T} {rows : List Row} (h : c.Pending rows) :
    rows.length ≤ c.unread := by
  unfold unread
  rcases h with h | ⟨h, hserves⟩
  · simp only [h, Nat.le_refl]
  · rw [h]
    exact hserves.length_le

/-- Running a statement makes the rows that it serves those that are left. -/
theorem returns_execute {c : Cursor T} {rows : List Row}
    (h : Returns (NativeStatement.execute c.native) fun r => r.1 = .ok () ∧ Serves rows r.2) :
    Returns c.execute fun r =>
      r.1 = .ok () ∧ r.2.Pending rows ∧ r.2.dropsRowNumber = c.dropsRowNumber := by
  apply Returns.bind h
  rintro ⟨r, native⟩ ⟨rfl, hserves⟩
  dsimp only
  split
  · apply Returns.bind (returns_drain hserves (Nat.lt_succ_of_le hserves.length_le))
    rintro ⟨r, native'⟩ rfl
    exact .pure ⟨rfl, .inl rfl, rfl⟩
  · exact .pure ⟨rfl, .inr ⟨rfl, hserves⟩, rfl⟩

theorem returns_nextRow {c : Cursor T} {row : Row} {rest : List Row} (h : c.Pending (row :: rest)) :
    Returns c.nextRow fun r =>
      r.1 = .ok (some row) ∧ r.2.Pending rest ∧ r.2.dropsRowNumber = c.dropsRowNumber := by
  unfold nextRow
  rcases h with h | ⟨h, -, hfetch⟩
  · rw [h]
    exact .pure ⟨rfl, .inl rfl, rfl⟩
  · rw [h]
    apply Returns.bind hfetch
    rintro ⟨r, native⟩ ⟨rfl, hserves⟩
    exact .pure ⟨rfl, .inr ⟨rfl, hserves⟩, rfl⟩

theorem returns_nextRow_nil {c : Cursor T} (h : c.Pending []) :
    Returns c.nextRow fun r => r.1 = .ok none := by
  unfold nextRow
  rcases h with h | ⟨h, hfetch⟩
  · rw [h]
    exact .pure rfl
  · rw [h]
    apply Returns.bind hfetch
    rintro ⟨r, native⟩ rfl
    exact .pure rfl

/-! ## Rows by field -/

theorem presentRow_congr {c c' : Cursor T} (h : c'.dropsRowNumber = c.dropsRowNumber)
    (aliases : AliasTable) : c'.presentRow aliases = c.presentRow aliases := by
  funext row
  unfold presentRow
  rw [h]

/-- The next row that is left comes as the cursor presents it. -/
theorem returns_fetchRow {c : Cursor T} {row : Row} {rest : List Row} (aliases : AliasTable)
    (h : c.Pending (row :: rest)) :
    Returns (c.fetchRow aliases) fun r => r.1 = .ok (some (c.presentRow aliases row)) := by
  unfold fetchRow
  apply Returns.bind (returns_nextRow h)
  rintro ⟨r, c'⟩ ⟨rfl, -, hdrops⟩
  rw [← presentRow_congr hdrops]
  exact .pure rfl

theorem returns_fetchRows {c : Cursor T} {rows : List Row} {n : Nat} (aliases : AliasTable)
    (h : c.Pending rows) (hn : rows.length < n) :
    Returns (fetchRows aliases n c) fun r => r.1 = .ok (rows.map (c.presentRow aliases)) := by
  induction rows generalizing c n with
  | nil =>
    obtain ⟨n, rfl⟩ := Nat.exists_eq_add_one.mpr hn
    unfold fetchRows fetchRow
    rw [bind_assoc]
    apply Returns.bind (returns_nextRow_nil h)
    rintro ⟨r, c'⟩ rfl
    rw [pure_bind]
    exact .pure rfl
  | cons row rest ih =>
    obtain ⟨n, rfl⟩ := Nat.exists_eq_add_one.mpr (Nat.zero_lt_of_lt hn)
    unfold fetchRows fetchRow
    rw [bind_assoc]
    apply Returns.bind (returns_nextRow h)
    rintro ⟨r, c'⟩ ⟨rfl, hrest, hdrops⟩
    rw [pure_bind]
    apply Returns.bind (ih hrest (Nat.lt_of_succ_lt_succ hn))
    rintro ⟨rows, c''⟩ rfl
    rw [presentRow_congr hdrops]
    exact .pure rfl

/-- All rows that are left come in order, as the cursor presents them. -/
theorem returns_fetchAll {c : Cursor T} {rows : List Row} (aliases : AliasTable)
    (h : c.Pending rows) :
    Returns (c.fetchAll aliases) fun r => r.1 = .ok (rows.map (c.presentRow aliases)) :=
  returns_fetchRows aliases h (Nat.lt_succ_of_le h.length_le)

/-! ## Rows by position -/

/-- The results of fetching values the given number of times. -/
def fetchTimes : Nat → Cursor T → m (List (Except SqlError (Option (List Value))))
  | 0, _ => pure []
  | n + 1, c => do
    let (r, c) ← c.fetchValues
    let others ← fetchTimes n c
    pure (r :: others)

theorem presentValues_congr {c c' : Cursor T} (h : c'.dropsRowNumber = c.dropsRowNumber) :
    c'.presentValues = c.presentValues := by
  funext row
  unfold presentValues
  rw [h]

theorem returns_fetchValues {c : Cursor T} {row : Row} {rest : List Row}
    (h : c.Pending (row :: rest)) :
    Returns c.fetchValues fun r => r.1 = .ok (some (c.presentValues row)) := by
  unfold fetchValues
  apply Returns.bind (returns_nextRow h)
  rintro ⟨r, c'⟩ ⟨rfl, -, hdrops⟩
  rw [← presentValues_congr hdrops]
  exact .pure rfl

/-- The values of all rows that are left come in order, and then there are none. -/
theorem returns_fetchTimes {c : Cursor T} {rows : List Row} (h : c.Pending rows) :
    Returns (c.fetchTimes (rows.length + 1)) fun rs =>
      rs = rows.map (fun row => .ok (some (c.presentValues row))) ++ [.ok none] := by
  induction rows generalizing c with
  | nil =>
    rw [List.length_nil, fetchTimes, fetchValues, bind_assoc]
    apply Returns.bind (returns_nextRow_nil h)
    rintro ⟨r, c'⟩ rfl
    simp only [pure_bind, fetchTimes]
    exact .pure rfl
  | cons row rest ih =>
    rw [List.length_cons, fetchTimes, fetchValues, bind_assoc]
    apply Returns.bind (returns_nextRow h)
    rintro ⟨r, c'⟩ ⟨rfl, hrest, hdrops⟩
    rw [pure_bind]
    apply Returns.bind (ih hrest)
    rintro rs rfl
    rw [presentValues_congr hdrops]
    exact .pure rfl

end Cursor

/-! ## The scripted client -/

namespace Scripted.Statement
variable {s : Statement} (h : s.script.failures = [])
include h

theorem check_of_no_failures (kind : CallKind) (text : String) (done : Nat) :
    s.script.check kind text done = .ok () := by
  rw [Script.check, h]
  rfl

theorem run_fetch (log : List Call) :
    ((NativeStatement.fetch s : Logged _).run log).1 =
      (.ok s.rows.head?, { s with rows := s.rows.tail, fetches := s.fetches + 1 }) := by
  simp only [NativeStatement.fetch, check_of_no_failures h]
  rfl

theorem run_execute (log : List Call) :
    ((NativeStatement.execute s : Logged _).run log).1 = (.ok (), s.answer) := by
  simp only [NativeStatement.execute, check_of_no_failures h]
  rfl

/-- Without failures in its script a statement serves the rows that it has. -/
theorem serves_rows : Serves s.rows s := by
  generalize hr : s.rows = rows
  induction rows generalizing s with
  | nil =>
    apply Returns.of_run
    intro log
    rw [run_fetch h, hr]
    rfl
  | cons row rest ih =>
    refine ⟨?_, Returns.of_run fun log => ?_⟩
    · show rest.length < s.rows.length
      rw [hr]
      exact Nat.lt_succ_self _
    · rw [run_fetch h, hr]
      exact ⟨rfl, ih h rfl⟩

/-- Running such a statement makes it serve the rows of its answer. -/
theorem returns_execute :
    Returns (NativeStatement.execute s : Logged _) fun r =>
      r.1 = .ok () ∧ Serves s.answer.rows r.2 := by
  apply Returns.of_run
  intro log
  rw [run_execute h]
  refine ⟨rfl, serves_rows ?_⟩
  unfold answer
  split <;> exact h

end Scripted.Statement

end RownumSql
