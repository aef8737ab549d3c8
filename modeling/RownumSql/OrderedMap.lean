/-!
# Ordered maps

Entries with pairwise distinct keys, in the order in which the keys came in.

* `get?_insert`: a value put under a key takes the place of the one that is there
* `entries_insert_of_not_mem`: a new key goes to the end
-/

namespace RownumSql

/-- Entries with distinct keys, in order of arrival. -/
structure OrderedMap (α : Type) where
  entries : List (String × α)
  distinct : (entries.map Prod.fst).Nodup

namespace OrderedMap

variable {α : Type}

instance [DecidableEq α] : DecidableEq (OrderedMap α) := fun m n =>
  if h : m.entries = n.entries then
    isTrue (by cases m; cases n; cases h; rfl)
  else isFalse fun e => h (by rw [e])

instance : EmptyCollection (OrderedMap α) := ⟨⟨[], List.nodup_nil⟩⟩

instance : Inhabited (OrderedMap α) := ⟨∅⟩

def keys (m : OrderedMap α) : List String := m.entries.map Prod.fst

def values (m : OrderedMap α) : List α := m.entries.map Prod.snd

def isEmpty (m : OrderedMap α) : Bool := m.entries.isEmpty

def size (m : OrderedMap α) : Nat := m.entries.length

def get? (m : OrderedMap α) (key : String) : Option α := m.entries.lookup key

def contains (m : OrderedMap α) (key : String) : Bool := m.keys.contains key

theorem contains_iff (m : OrderedMap α) (key : String) : m.contains key ↔ key ∈ m.keys :=
  List.contains_iff_mem

/-! ## Insertion -/

/-- Puts a value in place of the one under the key, or at the end. -/
def insertEntry (key : String) (value : α) : List (String × α) → List (String × α)
  | [] => [(key, value)]
  | (k, v) :: rest => if k = key then (k, value) :: rest else (k, v) :: insertEntry key value rest

theorem keys_insertEntry (key : String) (value : α) (es : List (String × α)) :
    (insertEntry key value es).map Prod.fst =
      if key ∈ es.map Prod.fst then es.map Prod.fst else es.map Prod.fst ++ [key] := by
  induction es with
  | nil => simp [insertEntry]
  | cons e rest ih =>
    obtain ⟨k, v⟩ := e
    by_cases h : k = key
    · simp [insertEntry, h]
    · have h' : ¬ key = k := fun e => h e.symm
      simp only [insertEntry, h, if_false, List.map_cons, ih, List.mem_cons, h', false_or]
      split <;> rfl

theorem nodup_insertEntry (key : String) (value : α) (es : List (String × α))
    (h : (es.map Prod.fst).Nodup) : ((insertEntry key value es).map Prod.fst).Nodup := by
  rw [keys_insertEntry]
  split
  · exact h
  · rename_i hk
    rw [List.nodup_append]
    refine ⟨h, by simp, ?_⟩
    intro a ha b hb
    rw [List.mem_singleton] at hb
    exact fun e => hk (by rw [← hb, ← e]; exact ha)

/-- Puts a value under a key; a key that is there keeps its place. -/
def insert (m : OrderedMap α) (key : String) (value : α) : OrderedMap α :=
  ⟨insertEntry key value m.entries, nodup_insertEntry key value m.entries m.distinct⟩

/-- The map with the given entries put in one after another. -/
def ofList (es : List (String × α)) : OrderedMap α :=
  es.foldl (fun m e => m.insert e.1 e.2) ∅

theorem insertEntry_of_not_mem (key : String) (value : α) (es : List (String × α))
    (h : key ∉ es.map Prod.fst) : insertEntry key value es = es ++ [(key, value)] := by
  induction es with
  | nil => rfl
  | cons e rest ih =>
    obtain ⟨k, v⟩ := e
    simp only [List.map_cons, List.mem_cons, not_or] at h
    simp [insertEntry, Ne.symm h.1, ih h.2]

theorem entries_insert_of_not_mem (m : OrderedMap α) (key : String) (value : α)
    (h : key ∉ m.keys) : (m.insert key value).entries = m.entries ++ [(key, value)] :=
  insertEntry_of_not_mem key value m.entries h

theorem keys_insert (m : OrderedMap α) (key : String) (value : α) :
    (m.insert key value).keys = if key ∈ m.keys then m.keys else m.keys ++ [key] :=
  keys_insertEntry key value m.entries

theorem lookup_insertEntry (key : String) (value : α) (es : List (String × α)) (k : String) :
    (insertEntry key value es).lookup k = if k = key then some value else es.lookup k := by
  induction es with
  | nil =>
    by_cases hk : k = key
    · simp [insertEntry, hk]
    · have hne : (k == key) = false := by simpa using hk
      simp [insertEntry, List.lookup_cons, hne, hk]
  | cons e rest ih =>
    obtain ⟨k', v⟩ := e
    by_cases hk' : k' = key
    · subst hk'
      by_cases hk : k = k'
      · simp [insertEntry, hk]
      · have hne : (k == k') = false := by simpa using hk
        simp [insertEntry, List.lookup_cons, hne, hk]
    · rw [insertEntry, if_neg hk', List.lookup_cons, List.lookup_cons, ih]
      by_cases hk : k = k'
      · subst hk
        simp [hk']
      · have hne : (k == k') = false := by simpa using hk
        simp [hne]

/-- A value put under a key takes the place of the one that is there, and no other changes. -/
theorem get?_insert (m : OrderedMap α) (key : String) (value : α) (k : String) :
    (m.insert key value).get? k = if k = key then some value else m.get? k :=
  lookup_insertEntry key value m.entries k

theorem mem_insertEntry {key : String} {value : α} {es : List (String × α)} {e : String × α}
    (h : e ∈ insertEntry key value es) : e.2 = value ∨ e ∈ es := by
  induction es with
  | nil =>
    rw [insertEntry, List.mem_singleton] at h
    exact .inl (congrArg Prod.snd h)
  | cons first rest ih =>
    rw [insertEntry] at h
    split at h
    · rcases List.mem_cons.mp h with rfl | h
      · exact .inl rfl
      · exact .inr (List.mem_cons_of_mem _ h)
    · rcases List.mem_cons.mp h with rfl | h
      · exact .inr List.mem_cons_self
      · exact (ih h).imp_right (List.mem_cons_of_mem _)

/-- A map after an insertion has no other values than before, apart from the new one. -/
theorem mem_values_insert {m : OrderedMap α} {key : String} {value v : α}
    (h : v ∈ (m.insert key value).values) : v = value ∨ v ∈ m.values := by
  obtain ⟨e, he, rfl⟩ := List.mem_map.mp h
  exact (mem_insertEntry he).imp_right List.mem_map_of_mem

theorem lookup_eq_some_iff {κ : Type} [BEq κ] [LawfulBEq κ] {es : List (κ × α)}
    (h : (es.map Prod.fst).Nodup) {key : κ} {value : α} :
    es.lookup key = some value ↔ (key, value) ∈ es := by
  induction es with
  | nil => simp
  | cons e rest ih =>
    obtain ⟨k, v⟩ := e
    obtain ⟨hk, hrest⟩ := List.nodup_cons.mp h
    by_cases he : key = k
    · subst he
      have hmem : (key, value) ∉ rest := fun hm => hk (List.mem_map.mpr ⟨(key, value), hm, rfl⟩)
      simp [hmem, eq_comm]
    · have hne : (key == k) = false := by simpa using he
      simp [List.lookup_cons, hne, he, ih hrest]

/-! ## Maps of lists -/

/-- A key that comes in last is kept where it is new. -/
theorem eraseDups_concat {κ : Type} [BEq κ] [LawfulBEq κ] (keys : List κ) (key : κ) :
    (keys ++ [key]).eraseDups =
      if key ∈ keys then keys.eraseDups else keys.eraseDups ++ [key] := by
  rw [List.eraseDups_append]
  by_cases h : key ∈ keys <;> simp [List.removeAll, h, List.eraseDups_cons]

theorem keys_foldl_insert (es : List (String × α)) (m : OrderedMap α) (key : String) :
    key ∈ (es.foldl (fun m e => m.insert e.1 e.2) m).keys ↔
      key ∈ m.keys ∨ key ∈ es.map Prod.fst := by
  induction es generalizing m with
  | nil => simp
  | cons e rest ih =>
    rw [List.foldl_cons, ih, keys_insert, List.map_cons, List.mem_cons]
    split
    · next he =>
      constructor
      · rintro (h | h)
        · exact .inl h
        · exact .inr (.inr h)
      · rintro (h | rfl | h)
        · exact .inl h
        · exact .inl he
        · exact .inr h
    · rw [List.mem_append, List.mem_singleton, or_assoc]

theorem mem_keys_ofList (es : List (String × α)) (key : String) :
    key ∈ (ofList es).keys ↔ key ∈ es.map Prod.fst := by
  rw [ofList, keys_foldl_insert]
  exact or_iff_right List.not_mem_nil

theorem entries_foldl_insert (es : List (String × α)) (m : OrderedMap α)
    (h : (m.keys ++ es.map Prod.fst).Nodup) :
    (es.foldl (fun m e => m.insert e.1 e.2) m).entries = m.entries ++ es := by
  induction es generalizing m with
  | nil => simp
  | cons e rest ih =>
    have hnew : e.1 ∉ m.keys := fun hm =>
      (List.nodup_append.mp h).2.2 e.1 hm e.1 List.mem_cons_self rfl
    have hkeys : (m.insert e.1 e.2).keys = m.keys ++ [e.1] := by rw [keys_insert, if_neg hnew]
    rw [List.foldl_cons, ih, entries_insert_of_not_mem m e.1 e.2 hnew, List.append_assoc]
    · rfl
    · rw [hkeys, List.append_assoc]
      exact h

/-- A list with distinct keys is the list of entries of its map. -/
theorem entries_ofList (es : List (String × α)) (h : (es.map Prod.fst).Nodup) :
    (ofList es).entries = es :=
  entries_foldl_insert es ∅ h

theorem ext_entries {m n : OrderedMap α} (h : m.entries = n.entries) : m = n := by
  cases m
  cases n
  cases h
  rfl

theorem ext_keys_values {m n : OrderedMap α} (hk : m.keys = n.keys) (hv : m.values = n.values) :
    m = n := by
  have hzip (es : List (String × α)) : (es.map Prod.fst).zip (es.map Prod.snd) = es := by
    induction es with
    | nil => rfl
    | cons e rest ih => rw [List.map_cons, List.map_cons, List.zip_cons_cons, ih]
  unfold keys at hk
  unfold values at hv
  apply ext_entries
  rw [← hzip m.entries, ← hzip n.entries, hk, hv]

theorem ofList_entries (m : OrderedMap α) : ofList m.entries = m :=
  ext_entries (entries_ofList m.entries m.distinct)

/-- A map whose keys are replaced by distinct ones has these in order, and keeps its values. -/
theorem keys_values_renamed {m : OrderedMap α} {f : String → String} (h : (m.keys.map f).Nodup) :
    (ofList (m.entries.map fun e => (f e.1, e.2))).keys = m.keys.map f ∧
      (ofList (m.entries.map fun e => (f e.1, e.2))).values = m.values := by
  have hfst : (m.entries.map fun e => (f e.1, e.2)).map Prod.fst = m.keys.map f := by
    rw [keys, List.map_map, List.map_map]
    rfl
  have hentries := entries_ofList (m.entries.map fun e => (f e.1, e.2)) (hfst ▸ h)
  refine ⟨(congrArg (List.map Prod.fst) hentries).trans hfst, ?_⟩
  rw [values, hentries, List.map_map]
  rfl

/-! ## Removal and change -/

/-- The map without the first entry whose key satisfies `p`. -/
def eraseFirst (m : OrderedMap α) (p : String → Bool) : OrderedMap α where
  entries := m.entries.eraseP fun e => p e.1
  distinct := m.distinct.sublist (List.eraseP_sublist.map Prod.fst)

theorem length_values (m : OrderedMap α) : m.values.length = m.keys.length := by
  rw [values, keys, List.length_map, List.length_map]

/-- The last entry is removed if its key satisfies `p`, unless that of another one does. -/
theorem entries_eraseFirst_append {m : OrderedMap α} {es : List (String × α)} {e : String × α}
    {p : String → Bool} (h : m.entries = es ++ [e]) (he : p e.1 = true) :
    (m.eraseFirst p).entries =
      if es.any fun e => p e.1 then es.eraseP (fun e => p e.1) ++ [e] else es := by
  have hlast : [e].eraseP (fun e => p e.1) = [] := List.eraseP_cons_of_pos he
  show m.entries.eraseP _ = _
  rw [h, List.eraseP_append, hlast, List.append_nil]

/-- If only the last key satisfies `p`, then the last entry is removed. -/
theorem eraseFirst_of_last {m : OrderedMap α} {ks : List String} {key : String} {p : String → Bool}
    (h : m.keys = ks ++ [key]) (hks : ∀ k ∈ ks, p k = false) (hkey : p key = true) :
    (m.eraseFirst p).keys = ks ∧ (m.eraseFirst p).values = m.values.take ks.length := by
  obtain ⟨front, back, hentries, hfront, hback⟩ := List.map_eq_append_iff.mp h
  obtain ⟨e, rest, rfl, hk, hrest⟩ := List.map_eq_cons_iff.mp hback
  rw [List.map_eq_nil_iff.mp hrest] at hentries
  have hnone : ¬ front.any fun e => p e.1 := by
    rw [List.any_eq_true]
    rintro ⟨e, he, hp⟩
    have hmem : e.1 ∈ ks := by
      rw [← hfront]
      exact List.mem_map_of_mem he
    exact Bool.false_ne_true ((hks e.1 hmem).symm.trans hp)
  have herased : (m.eraseFirst p).entries = front := by
    rw [entries_eraseFirst_append hentries (by rw [hk, hkey]), if_neg hnone]
  unfold keys values
  rw [herased, hentries, ← hfront, List.map_append, List.length_map]
  exact ⟨rfl, (List.take_left' (List.length_map _)).symm⟩

/-- The value under a key replaced by `f` of it. -/
def modify (m : OrderedMap α) (key : String) (f : α → α) : OrderedMap α where
  entries := m.entries.map fun e => if e.1 = key then (e.1, f e.2) else e
  distinct := by
    rw [List.map_map]
    have h : (Prod.fst ∘ fun e : String × α => if e.1 = key then (e.1, f e.2) else e) = Prod.fst := by
      funext e; simp only [Function.comp]; split <;> rfl
    rw [h]; exact m.distinct

theorem keys_modify (m : OrderedMap α) (key : String) (f : α → α) :
    (m.modify key f).keys = m.keys := by
  unfold keys modify
  rw [List.map_map]
  refine List.map_congr_left fun e _ => ?_
  rw [Function.comp_apply]
  split <;> rfl

/-- Only the value under the key changes. -/
theorem get?_modify (m : OrderedMap α) (key : String) (f : α → α) (k : String) :
    (m.modify key f).get? k = if k = key then (m.get? k).map f else m.get? k := by
  show (m.entries.map fun e => if e.1 = key then (e.1, f e.2) else e).lookup k =
    if k = key then (m.entries.lookup k).map f else m.entries.lookup k
  induction m.entries with
  | nil => simp
  | cons e rest ih =>
    obtain ⟨k', v⟩ := e
    rw [List.map_cons, List.lookup_cons]
    by_cases hk : k = k'
    · subst hk
      by_cases hkey : k = key <;> simp [hkey]
    · have hne : (k == k') = false := by simpa using hk
      have hfst : (if k' = key then (k', f v) else (k', v)).1 = k' := by split <;> rfl
      rw [List.lookup_cons, hfst, hne]
      exact ih

/-- A map after a change has no other values than before, apart from a changed one. -/
theorem mem_values_modify {m : OrderedMap α} {key : String} {f : α → α} {v : α}
    (h : v ∈ (m.modify key f).values) : v ∈ m.values ∨ ∃ w ∈ m.values, v = f w := by
  obtain ⟨e', he', rfl⟩ := List.mem_map.mp h
  obtain ⟨e, he, rfl⟩ := List.mem_map.mp he'
  have hmem : e.2 ∈ m.values := List.mem_map_of_mem he
  split
  · exact .inr ⟨e.2, hmem, rfl⟩
  · exact .inl hmem

end OrderedMap

end RownumSql
