import RownumSql.Document

/-!
# Records, lists and depths of documents

A record is read field by field, each from what stands under its name (`required?_bind`,
`defaulted?_bind`, `optional?_bind`), and a list or an option that was written item by item is read
back item by item (`list?_map`, `nullable?_getD`).  What stands in a document is less deep
than the document, so that a reader that descends with it does not run out.
-/

namespace RownumSql

namespace Document

/-! ## Depths -/

theorem depth_lt_of_mem_list {d : Document} {items : List Document} (h : d ∈ items) :
    d.depth < (list items).depth := by
  rw [depth, Nat.lt_succ_iff]
  induction items with
  | nil => cases h
  | cons e items ih =>
    rw [depthOfItems]
    rcases List.mem_cons.mp h with rfl | h
    · exact Nat.le_max_left ..
    · exact Nat.le_trans (ih h) (Nat.le_max_right ..)

theorem depth_lt_of_mem_table {key : String} {d : Document} {entries : List (String × Document)}
    (h : (key, d) ∈ entries) : d.depth < (table entries).depth := by
  rw [depth, Nat.lt_succ_iff]
  induction entries with
  | nil => cases h
  | cons e entries ih =>
    rcases List.mem_cons.mp h with rfl | h
    · exact Nat.le_max_left ..
    · exact Nat.le_trans (ih h) (Nat.le_max_right ..)

/-- What stands in the record of a kind lies at least two levels below. -/
theorem depth_le_of_variant {kind key : String} {d : Document} {entries : List (String × Document)}
    {n : Nat} (hd : (key, d) ∈ entries) (hn : (table [(kind, table entries)]).depth ≤ n + 1) :
    d.depth ≤ n := by
  have houter := depth_lt_of_mem_table (List.mem_singleton_self (kind, table entries))
  have hinner := depth_lt_of_mem_table hd
  omega

/-! ## Records -/

section Records
variable {α β : Type} {name : String} {d : Document} {entries : List (String × Document)}
  {read : Document → Option α} {k : α → Option β} {y : β}

theorem variantFields?_table (f : Format) {names : List String}
    (h : entries.all (names.contains ·.1) = true) :
    variantFields? f names (table entries) = some entries := by
  cases f with
  | json => rfl
  | toml => exact if_pos h

theorem required?_bind {x : α} (hd : entries.lookup name = some d) (hx : read d = some x)
    (hk : k x = some y) : (required? entries name read >>= k) = some y := by
  refine Option.bind_eq_some_iff.mpr ⟨x, ?_, hk⟩
  rw [required?, hd]
  exact hx

theorem defaulted?_bind {absent x : α} (hd : entries.lookup name = some d) (hx : read d = some x)
    (hk : k x = some y) : (defaulted? entries name read absent >>= k) = some y := by
  refine Option.bind_eq_some_iff.mpr ⟨x, ?_, hk⟩
  rw [defaulted?, hd]
  exact hx

theorem optional?_bind {x : Option α} {k : Option α → Option β}
    (hd : entries.lookup name = some d) (hx : nullable? read d = some x) (hk : k x = some y) :
    (optional? entries name read >>= k) = some y :=
  defaulted?_bind hd hx hk

end Records

/-! ## Lists and options -/

section Items
variable {α : Type} {read : Document → Option α} {write : α → Document} {g : α → α}

theorem list?_map {xs : List α} (h : ∀ x ∈ xs, read (write x) = some (g x)) :
    list? read (list (xs.map write)) = some (xs.map g) := by
  rw [list?]
  induction xs with
  | nil => rfl
  | cons x xs ih =>
    obtain ⟨hx, hxs⟩ := List.forall_mem_cons.mp h
    rw [List.map_cons, List.mapM_cons, hx, ih hxs]
    rfl

theorem nullable?_of_ne_null {d : Document} {x : α} (hd : d ≠ null) (h : read d = some x) :
    nullable? read d = some (some x) := by
  cases d <;> first | exact absurd rfl hd | simp [nullable?, h]

theorem nullable?_getD {o : Option α} (hwrite : ∀ x, write x ≠ null)
    (h : ∀ x ∈ o, read (write x) = some (g x)) :
    nullable? read ((o.map write).getD null) = some (o.map g) := by
  cases o with
  | none => rfl
  | some x => exact nullable?_of_ne_null (hwrite x) (h x rfl)

theorem nullable?_ofText? (s : Option String) : nullable? text? (ofText? s) = some s := by
  cases s <;> rfl

theorem list?_ofTexts (ss : List String) : list? text? (ofTexts ss) = some ss := by
  rw [ofTexts, list?_map fun s _ => show text? (text s) = some (id s) from rfl, List.map_id]

theorem uint64?_ofNat (n : UInt64) : uint64? (int n.toNat) = some n := by
  have hlt : (n.toNat : Int) < UInt64.size := Int.ofNat_lt.mpr n.toNat_lt_size
  have hbelow : below? UInt64.size (int n.toNat) = some n.toNat := by
    rw [below?, if_pos (by simp only [Bool.and_eq_true, decide_eq_true_eq]; omega), Int.toNat_natCast]
  rw [uint64?, hbelow, Option.map_some, UInt64.ofNat_toNat]

end Items

end Document

end RownumSql
