import Mathlib.Data.List.Induction
import Mathlib.Data.List.Nodup
import RownumSql.Proofs.ScalarsHidden

/-!
# Bindings put in by name

A value that is put in under a name takes the place of the one that is there, or goes to the end.
Nothing else changes: the keys stay distinct and in order, and so do the values under other keys.
-/

namespace RownumSql

namespace Bindings

/-- The value under a key. -/
def value? (key : BindKey) (es : List Binding) : Option Value :=
  (es.find? fun b => b.key = key).map Binding.value

/-- All that is bound under a key. -/
def under (key : BindKey) (es : List Binding) : List Binding := es.filter fun b => b.key = key

/-- Puts all bindings in. -/
def putAll (es bs : List Binding) : List Binding :=
  bs.foldl (fun es b => put b.key b.value es) es

theorem nodup_put {key : BindKey} {v : Value} {es : List Binding}
    (h : (es.map Binding.key).Nodup) : ((put key v es).map Binding.key).Nodup := by
  rw [keys_put]
  split
  · exact h
  · next hkey =>
    refine List.nodup_append.mpr ⟨h, List.nodup_singleton key, ?_⟩
    rintro a ha _ hb rfl
    exact hkey (List.mem_singleton.mp hb ▸ ha)

theorem filter_put {p : BindKey → Bool} {key : BindKey} (hp : p key = false) (v : Value)
    (es : List Binding) :
    (put key v es).filter (fun b => p b.key) = es.filter fun b => p b.key := by
  induction es with
  | nil => simp [put, hp]
  | cons e es ih =>
    by_cases he : e.key = key
    · simp [put, he, hp]
    · rw [put, if_neg he, List.filter_cons, List.filter_cons, ih]

theorem value?_put (key k : BindKey) (v : Value) (es : List Binding) :
    value? k (put key v es) = if k = key then some v else value? k es := by
  induction es with
  | nil =>
    by_cases hk : k = key
    · simp [put, value?, hk]
    · simp [put, value?, hk, Ne.symm hk]
  | cons e es ih =>
    unfold value? at ih ⊢
    by_cases he : e.key = key
    · rw [put, if_pos he]
      by_cases hk : k = key
      · simp [hk]
      · simp [hk, Ne.symm hk, he]
    · rw [put, if_neg he, List.find?_cons, List.find?_cons]
      by_cases hek : e.key = k
      · have hk : k ≠ key := fun h => he (hek.trans h)
        simp [hek, hk]
      · simpa [hek] using ih

theorem value?_append (k : BindKey) (es bs : List Binding) :
    value? k (es ++ bs) = (value? k es).or (value? k bs) := by
  rw [value?, List.find?_append, value?, value?]
  cases es.find? fun b => b.key = k <;> rfl

/-- Under distinct keys nothing else is bound under the key of a binding. -/
theorem under_of_mem {b : Binding} {es : List Binding} (hb : b ∈ es)
    (h : (es.map Binding.key).Nodup) : under b.key es = [b] := by
  induction es with
  | nil => cases hb
  | cons e es ih =>
    obtain ⟨hkey, hnodup⟩ := List.nodup_cons.mp h
    rcases List.mem_cons.mp hb with rfl | hb
    · have hrest : under b.key es = [] := by
        rw [under, List.filter_eq_nil_iff]
        intro b' hb' heq
        exact hkey (of_decide_eq_true heq ▸ List.mem_map_of_mem hb')
      rw [under, List.filter_cons_of_pos (by simp)]
      exact congrArg (b :: ·) hrest
    · have hne : e.key ≠ b.key := fun heq => hkey (heq ▸ List.mem_map_of_mem hb)
      rw [under, List.filter_cons_of_neg (by simpa using hne)]
      exact ih hb hnodup

/-- Under distinct keys every value is found by its key. -/
theorem value?_of_mem {b : Binding} {es : List Binding} (hb : b ∈ es)
    (h : (es.map Binding.key).Nodup) : value? b.key es = some b.value := by
  have hunder : value? b.key es = (under b.key es).head?.map Binding.value := by
    rw [value?, under, List.head?_filter]
  rw [hunder, under_of_mem hb h]
  rfl

theorem mem_put {key : BindKey} {b : Binding} {es : List Binding} (hb : b ∈ es)
    (hkey : b.key ≠ key) (v : Value) : b ∈ put key v es := by
  induction es with
  | nil => cases hb
  | cons e es ih =>
    rw [put]
    rcases List.mem_cons.mp hb with rfl | hb
    · rw [if_neg hkey]
      exact List.mem_cons_self
    · split
      · exact List.mem_cons_of_mem _ hb
      · exact List.mem_cons_of_mem _ (ih hb)

theorem mem_put_self (key : BindKey) (v : Value) (es : List Binding) :
    ⟨key, v⟩ ∈ put key v es := by
  induction es with
  | nil => exact List.mem_cons_self
  | cons e es ih =>
    rw [put]
    split
    · exact List.mem_cons_self
    · exact List.mem_cons_of_mem _ ih

theorem keys_prefix_put (key : BindKey) (v : Value) (es : List Binding) :
    es.map Binding.key <+: (put key v es).map Binding.key := by
  rw [keys_put]
  split
  · exact List.prefix_refl _
  · exact List.prefix_append _ _

section putAll
variable {bs : List Binding}

theorem nodup_putAll {es : List Binding} (h : (es.map Binding.key).Nodup) :
    ((putAll es bs).map Binding.key).Nodup := by
  induction bs generalizing es with
  | nil => exact h
  | cons b bs ih => exact ih (nodup_put h)

theorem keys_prefix_putAll (es : List Binding) :
    es.map Binding.key <+: (putAll es bs).map Binding.key := by
  induction bs generalizing es with
  | nil => exact List.prefix_refl _
  | cons b bs ih => exact (keys_prefix_put b.key b.value es).trans (ih _)

theorem filter_putAll {p : BindKey → Bool} (h : ∀ b ∈ bs, p b.key = false) (es : List Binding) :
    (putAll es bs).filter (fun b => p b.key) = es.filter fun b => p b.key := by
  induction bs generalizing es with
  | nil => rfl
  | cons b bs ih =>
    obtain ⟨hb, hbs⟩ := List.forall_mem_cons.mp h
    exact (ih hbs _).trans (filter_put hb b.value es)

theorem mem_putAll_of_mem {es : List Binding} {b : Binding} (hb : b ∈ es)
    (hkeys : b.key ∉ bs.map Binding.key) : b ∈ putAll es bs := by
  induction bs generalizing es with
  | nil => exact hb
  | cons b' bs ih =>
    rw [List.map_cons, List.mem_cons, not_or] at hkeys
    exact ih (mem_put hb hkeys.1 b'.value) hkeys.2

/-- What is put in under distinct keys is there. -/
theorem mem_putAll {b : Binding} (hb : b ∈ bs) (hbs : (bs.map Binding.key).Nodup)
    (es : List Binding) : b ∈ putAll es bs := by
  induction bs generalizing es with
  | nil => cases hb
  | cons b' bs ih =>
    obtain ⟨hkey, hnodup⟩ := List.nodup_cons.mp hbs
    rcases List.mem_cons.mp hb with rfl | hb
    · show b ∈ putAll (put b.key b.value es) bs
      exact mem_putAll_of_mem (mem_put_self b.key b.value es) hkey
    · exact ih hb hnodup _

/-- What is put in under distinct keys takes the place of what is there. -/
theorem value?_putAll (hbs : (bs.map Binding.key).Nodup) (k : BindKey) (es : List Binding) :
    value? k (putAll es bs) = (value? k bs).or (value? k es) := by
  induction bs generalizing es with
  | nil => rfl
  | cons b bs ih =>
    obtain ⟨hkey, hnodup⟩ := List.nodup_cons.mp hbs
    have hstep : value? k (putAll es (b :: bs))
        = (value? k bs).or (value? k (put b.key b.value es)) := ih hnodup _
    rw [hstep, value?_put]
    by_cases hk : k = b.key
    · have hnone : value? k bs = none := by
        rw [value?, Option.map_eq_none_iff, List.find?_eq_none]
        intro b' hb' hb'k
        rw [decide_eq_true_iff] at hb'k
        exact hkey (hk ▸ hb'k ▸ List.mem_map_of_mem hb')
      have hfirst : value? k (b :: bs) = some b.value := by simp [value?, hk]
      rw [hnone, if_pos hk, hfirst]
      rfl
    · have hrest : value? k (b :: bs) = value? k bs := by
        rw [value?, List.find?_cons_of_neg (by simpa using Ne.symm hk)]
        rfl
      rw [if_neg hk, hrest]

theorem value?_putAll_of_not_mem {k : BindKey} (h : k ∉ bs.map Binding.key) (es : List Binding) :
    value? k (putAll es bs) = value? k es := by
  induction bs generalizing es with
  | nil => rfl
  | cons b bs ih =>
    rw [List.map_cons, List.mem_cons, not_or] at h
    exact (ih h.2 _).trans ((value?_put b.key k b.value es).trans (if_neg h.1))

/-- What is put in under a key is there if nothing is put in under the key later. -/
theorem value?_putAll_last {b : Binding} (h : b.key ∉ bs.map Binding.key)
    (es before : List Binding) : value? b.key (putAll es (before ++ b :: bs)) = some b.value := by
  have hsplit : putAll es (before ++ b :: bs)
      = putAll (put b.key b.value (putAll es before)) bs := List.foldl_append
  rw [hsplit, value?_putAll_of_not_mem h, value?_put, if_pos rfl]

theorem putAll_concat (es bs : List Binding) (b : Binding) :
    putAll es (bs ++ [b]) = put b.key b.value (putAll es bs) :=
  List.foldl_concat _ _ _ _

/-- The keys are there in the order in which something is first put in under them. -/
theorem keys_putAll_nil (bs : List Binding) :
    (putAll [] bs).map Binding.key = (bs.map Binding.key).eraseDups := by
  induction bs using List.reverseRecOn with
  | nil => rfl
  | append_singleton bs b ih =>
    rw [putAll_concat, keys_put, ih, List.map_append, List.map_singleton,
      OrderedMap.eraseDups_concat]
    simp only [List.mem_eraseDups]

end putAll

end Bindings

end RownumSql
