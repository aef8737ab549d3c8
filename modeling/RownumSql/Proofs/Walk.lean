import RownumSql.Proofs.Outline

/-!
# The walk over a selection

Which values a selection binds, and under which keys, read off the query alone.  A walk meets the
scalars of a selection's clauses, then for each branch its window if it has a page and what the
walk of the branch meets, then the scalars of the epilog.  Scalars are numbered from zero on,
windows of branches from one on; number zero is the outermost window.

    the keys of the numbered walk are pairwise distinct                     (nodup_keys_walk)
-/

namespace RownumSql

/-- What a walk over a selection meets. -/
inductive Stop where
  | scalar (v : Value)
  | window (limit offset : UInt64)

namespace Query

mutual
/-- The walk over a selection, apart from its own window. -/
def walk : Query → List Stop
  | q@{ branches, .. } =>
    q.scalars.map .scalar ++ walkBranches branches ++ (Epilog.scalars q.epilog).map .scalar

/-- The walk over the branches of a union. -/
def walkBranches : List (Branch Query) → List Stop
  | [] => []
  | ⟨_, q⟩ :: rest =>
    (if q.isPaged then [.window q.limitValue q.offsetValue] else []) ++ walk q ++ walkBranches rest
end

theorem walk_eq (q : Query) :
    q.walk = q.scalars.map .scalar ++ walkBranches q.branches
      ++ (Epilog.scalars q.epilog).map .scalar := by
  cases q
  rw [walk]

end Query

/-! ## Numbering -/

/-- The names that a window binds: number zero is the outermost. -/
def windowNames : Nat → PageNames
  | 0 => ⟨"QAIL_MAX_ROW_TO_FETCH", "QAIL_FETCH_OFFSET"⟩
  | k + 1 =>
    ⟨"QAIL_MAX_ROW_TO_FETCH_" ++ toString (k + 1), "QAIL_FETCH_OFFSET_" ++ toString (k + 1)⟩

theorem windowNames_zero : windowNames 0 = .outer := rfl

theorem windowNames_succ (k : Nat) : windowNames (k + 1) = .branch (k + 1) := rfl

/-- A number as a bound of a window; beyond the greatest signed number it stands at that. -/
def boundValue (n : Nat) : Value := .int (Int64.ofInt (min n 9223372036854775807))

/-- The number of the last row of a window, or the greatest number if there is none so great. -/
def lastRow (limit offset : UInt64) : Nat := min (offset.toNat + limit.toNat) 18446744073709551615

theorem toNat_endRow (limit offset : UInt64) :
    (Page.endRow limit offset).toNat = lastRow limit offset := by
  refine UInt64.toNat_ofNat_of_lt' ?_
  simp only [UInt64.size]
  omega

/-- The bindings of a window: how many rows are skipped, and the number of the last row. -/
def windowBindings (k : Nat) (limit offset : UInt64) : List Binding :=
  (if 0 < offset then [⟨.named (windowNames k).offset, boundValue offset.toNat⟩] else []) ++
  if 0 < limit then [⟨.named (windowNames k).maxRow, boundValue (lastRow limit offset)⟩] else []

/-- The bindings of a walk, with `n` scalars and `k` windows before it. -/
def numbered (n k : Nat) : List Stop → List Binding
  | [] => []
  | .scalar v :: rest => ⟨.named ("c" ++ toString n), v⟩ :: numbered (n + 1) k rest
  | .window limit offset :: rest =>
    windowBindings (k + 1) limit offset ++ numbered n (k + 1) rest

/-- The bindings of a whole selection: its own window, then its walk. -/
def Query.walkBindings (q : Query) : List Binding :=
  windowBindings 0 q.limitValue q.offsetValue ++ numbered 0 0 q.walk

/-! ## Distinct keys -/

/-- A key of a statement by its meaning. -/
inductive Slot where
  | scalar (n : Nat)
  | skip (k : Nat)
  | last (k : Nat)
deriving DecidableEq

namespace Slot

def name : Slot → String
  | scalar n => "c" ++ toString n
  | skip k => (windowNames k).offset
  | last k => (windowNames k).maxRow

/-- What follows the name of the outermost window. -/
def suffix (k : Nat) : String := if k = 0 then "" else "_" ++ toString k

theorem name_skip (k : Nat) : (skip k).name = "QAIL_FETCH_OFFSET" ++ suffix k := by
  cases k with
  | zero => rfl
  | succ k => rw [suffix, if_neg (Nat.succ_ne_zero k), ← String.append_assoc]; rfl

theorem name_last (k : Nat) : (last k).name = "QAIL_MAX_ROW_TO_FETCH" ++ suffix k := by
  cases k with
  | zero => rfl
  | succ k => rw [suffix, if_neg (Nat.succ_ne_zero k), ← String.append_assoc]; rfl

theorem suffix_injective {j k : Nat} (h : suffix j = suffix k) : j = k := by
  have ne (m : Nat) : "_" ++ toString m ≠ "" := by simp [← String.toList_inj]
  by_cases hj : j = 0 <;> by_cases hk : k = 0
  · rw [hj, hk]
  · rw [suffix, suffix, if_pos hj, if_neg hk] at h
    exact absurd h.symm (ne k)
  · rw [suffix, suffix, if_neg hj, if_pos hk] at h
    exact absurd h (ne j)
  · rw [suffix, suffix, if_neg hj, if_neg hk, String.append_right_inj] at h
    exact Text.toString_injective h

theorem name_scalar_ne_skip (n k : Nat) : (scalar n).name ≠ (skip k).name := by
  intro h
  rw [name_skip, name, ← String.toList_inj] at h
  simp at h

theorem name_scalar_ne_last (n k : Nat) : (scalar n).name ≠ (last k).name := by
  intro h
  rw [name_last, name, ← String.toList_inj] at h
  simp at h

theorem name_skip_ne_last (j k : Nat) : (skip j).name ≠ (last k).name := by
  intro h
  rw [name_skip, name_last, ← String.toList_inj] at h
  simp at h

/-- Placeholders, offsets and last rows have names of their own. -/
theorem name_injective {a b : Slot} (h : a.name = b.name) : a = b := by
  cases a with
  | scalar m =>
    cases b with
    | scalar n =>
      rw [name, name, String.append_right_inj] at h
      rw [Text.toString_injective h]
    | skip k => exact absurd h (name_scalar_ne_skip m k)
    | last k => exact absurd h (name_scalar_ne_last m k)
  | skip j =>
    cases b with
    | scalar n => exact absurd h.symm (name_scalar_ne_skip n j)
    | skip k =>
      rw [name_skip, name_skip, String.append_right_inj] at h
      rw [suffix_injective h]
    | last k => exact absurd h (name_skip_ne_last j k)
  | last j =>
    cases b with
    | scalar n => exact absurd h.symm (name_scalar_ne_last n j)
    | skip k => exact absurd h.symm (name_skip_ne_last k j)
    | last k =>
      rw [name_last, name_last, String.append_right_inj] at h
      rw [suffix_injective h]

def key (s : Slot) : BindKey := .named s.name

def ofWindow (k : Nat) (limit offset : UInt64) : List Slot :=
  (if 0 < offset then [.skip k] else []) ++ if 0 < limit then [.last k] else []

/-- The slots of a walk, with `n` scalars and `k` windows before it. -/
def ofStops (n k : Nat) : List Stop → List Slot
  | [] => []
  | .scalar _ :: rest => .scalar n :: ofStops (n + 1) k rest
  | .window limit offset :: rest => ofWindow (k + 1) limit offset ++ ofStops n (k + 1) rest

theorem keys_windowBindings (k : Nat) (limit offset : UInt64) :
    (windowBindings k limit offset).map Binding.key = (ofWindow k limit offset).map key := by
  unfold windowBindings ofWindow
  split <;> split <;> rfl

theorem keys_numbered (n k : Nat) (stops : List Stop) :
    (numbered n k stops).map Binding.key = (ofStops n k stops).map key := by
  induction stops generalizing n k with
  | nil => rfl
  | cons stop rest ih =>
    cases stop with
    | scalar v => rw [numbered, ofStops, List.map_cons, List.map_cons, ih]; rfl
    | window limit offset =>
      rw [numbered, ofStops, List.map_append, List.map_append, ih, keys_windowBindings]

/-- Whether a slot is numbered from the given numbers on. -/
def From (n k : Nat) : Slot → Prop
  | scalar m => n ≤ m
  | skip j => k < j
  | last j => k < j

theorem eq_of_mem_ofWindow {k : Nat} {limit offset : UInt64} {s : Slot}
    (h : s ∈ ofWindow k limit offset) : s = skip k ∨ s = last k := by
  unfold ofWindow at h
  rcases List.mem_append.mp h with h | h
  · split at h
    · exact .inl (List.mem_singleton.mp h)
    · cases h
  · split at h
    · exact .inr (List.mem_singleton.mp h)
    · cases h

/-- A window with number `k` comes after `j` windows if and only if `k` is greater. -/
theorem from_iff_of_mem_ofWindow {k : Nat} {limit offset : UInt64} {s : Slot} (n j : Nat)
    (h : s ∈ ofWindow k limit offset) : s.From n j ↔ j < k := by
  rcases eq_of_mem_ofWindow h with rfl | rfl
  · exact Iff.rfl
  · exact Iff.rfl

theorem From.mono {n n' k k' : Nat} {s : Slot} (h : s.From n' k') (hn : n ≤ n') (hk : k ≤ k') :
    s.From n k := by
  cases s with
  | scalar m =>
    unfold From at h ⊢
    omega
  | skip j =>
    unfold From at h ⊢
    omega
  | last j =>
    unfold From at h ⊢
    omega

theorem from_of_mem_ofStops {n k : Nat} {stops : List Stop} {s : Slot}
    (h : s ∈ ofStops n k stops) : s.From n k := by
  induction stops generalizing n k with
  | nil => cases h
  | cons stop rest ih =>
    cases stop with
    | scalar v =>
      rcases List.mem_cons.mp h with rfl | h
      · exact Nat.le_refl n
      · exact (ih h).mono (by omega) (by omega)
    | window limit offset =>
      rcases List.mem_append.mp h with h | h
      · exact (from_iff_of_mem_ofWindow n k h).mpr (by omega)
      · exact (ih h).mono (by omega) (by omega)

theorem nodup_ofWindow (k : Nat) (limit offset : UInt64) : (ofWindow k limit offset).Nodup := by
  unfold ofWindow
  split <;> split <;> simp

/-- A window has no slot in common with what is numbered from it on. -/
theorem nodup_ofWindow_append {k : Nat} {limit offset : UInt64} {n : Nat} {stops : List Stop}
    (h : (ofStops n k stops).Nodup) : (ofWindow k limit offset ++ ofStops n k stops).Nodup := by
  refine List.nodup_append.mpr ⟨nodup_ofWindow k limit offset, h, ?_⟩
  rintro s hwindow _ hstops rfl
  have hk : k < k := (from_iff_of_mem_ofWindow n k hwindow).mp (from_of_mem_ofStops hstops)
  omega

theorem nodup_ofStops (n k : Nat) (stops : List Stop) : (ofStops n k stops).Nodup := by
  induction stops generalizing n k with
  | nil => exact List.nodup_nil
  | cons stop rest ih =>
    cases stop with
    | scalar v =>
      refine List.nodup_cons.mpr ⟨?_, ih (n + 1) k⟩
      intro h
      have hn : n + 1 ≤ n := from_of_mem_ofStops h
      omega
    | window limit offset => exact nodup_ofWindow_append (ih n (k + 1))

end Slot

/-- No two bindings of a walk have the same key. -/
theorem nodup_keys_walk (q : Query) : (q.walkBindings.map Binding.key).Nodup := by
  unfold Query.walkBindings
  rw [List.map_append, Slot.keys_windowBindings, Slot.keys_numbered, ← List.map_append]
  have h : (Slot.ofWindow 0 q.limitValue q.offsetValue ++ Slot.ofStops 0 0 q.walk).Nodup :=
    Slot.nodup_ofWindow_append (Slot.nodup_ofStops 0 0 q.walk)
  exact List.Pairwise.map Slot.key
    (fun a b hne he => hne (Slot.name_injective (BindKey.named.inj he))) h

end RownumSql
