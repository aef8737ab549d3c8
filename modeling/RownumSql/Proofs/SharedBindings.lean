import RownumSql.Proofs.PartialSelections
import RownumSql.Proofs.PlaceholderTexts
import RownumSql.Proofs.PutBindings

/-!
# Statements with one list of bindings

Selections may be built one after another on the same bindings, with placeholders and branches
numbered through.  The SQL of each is the text of its pieces, and the placeholders among these are
what the selection binds.  A later selection leaves them alone, whether it can be compiled or not:
they are still bound, each once, when all are built.  The outermost window has the same two names in
all of them, under which the last window counts.

    placeholders of the SQL ~ keys that the selection binds, distinct         (Refers.written)
    under a placeholder = [its value], then and at the end                      (Keeps.bound)
    value? outer = the value of the last selection that binds it          (value?_selectAll)
-/

namespace RownumSql

open Bindings (value? under putAll)

/-! ## Names of the outermost window -/

/-- Whether the key is a name of the outermost window. -/
def BindKey.isOuter (k : BindKey) : Bool := k = (Slot.skip 0).key || k = (Slot.last 0).key

/-- The bindings of a selection's outermost window. -/
def Query.outerBindings (q : Query) : List Binding :=
  windowBindings 0 q.limitValue q.offsetValue

/-- What a selection binds if it is built from `p`. -/
def Query.bindingsFrom (q : Query) (p : Progress) : List Binding :=
  q.outerBindings ++ numbered p.bindings.next p.pagedBranches q.walk

/-- The pieces of a selection's SQL if it is built from `p`. -/
def Query.templateFrom (q : Query) (p : Progress) : Template :=
  (Outline.select .outer p.pagedBranches q).template

/-- The placeholders in a selection's SQL if it is built from `p`, without their colons. -/
def Query.placeholdersFrom (q : Query) (p : Progress) : List String :=
  (q.templateFrom p).references p.bindings.next

theorem isOuter_outerBindings {q : Query} {b : Binding} (hb : b ∈ q.outerBindings) :
    b.key.isOuter = true := by
  have hkey : b.key ∈ q.outerBindings.map Binding.key := List.mem_map_of_mem hb
  rw [Query.outerBindings, Slot.keys_windowBindings] at hkey
  obtain ⟨s, hs, hkey⟩ := List.mem_map.mp hkey
  rw [← hkey]
  rcases Slot.eq_of_mem_ofWindow hs with rfl | rfl
  · rfl
  · rfl

theorem key_injective {a b : Slot} (h : a.key = b.key) : a = b :=
  Slot.name_injective (BindKey.named.inj h)

theorem nodup_outerBindings (q : Query) : (q.outerBindings.map Binding.key).Nodup := by
  rw [Query.outerBindings, Slot.keys_windowBindings]
  exact (Slot.nodup_ofWindow 0 q.limitValue q.offsetValue).map fun _ _ => key_injective

theorem nodup_keys_numbered (n k : Nat) (stops : List Stop) :
    ((numbered n k stops).map Binding.key).Nodup := by
  rw [Slot.keys_numbered]
  exact (Slot.nodup_ofStops n k stops).map fun _ _ => key_injective

/-- What is numbered is never under a name of the outermost window. -/
theorem isOuter_numbered {n k : Nat} {stops : List Stop} {b : Binding}
    (hb : b ∈ numbered n k stops) : b.key.isOuter = false := by
  have hkey : b.key ∈ (numbered n k stops).map Binding.key := List.mem_map_of_mem hb
  rw [Slot.keys_numbered] at hkey
  obtain ⟨s, hs, hkey⟩ := List.mem_map.mp hkey
  have hfrom := Slot.from_of_mem_ofStops hs
  by_contra houter
  rw [Bool.not_eq_false, BindKey.isOuter, Bool.or_eq_true, decide_eq_true_iff,
    decide_eq_true_iff, ← hkey] at houter
  rcases houter with h | h
  · rw [key_injective h] at hfrom
    exact Nat.not_lt_zero k hfrom
  · rw [key_injective h] at hfrom
    exact Nat.not_lt_zero k hfrom

theorem filter_numbered (n k : Nat) (stops : List Stop) :
    (numbered n k stops).filter (fun b => !b.key.isOuter) = numbered n k stops := by
  rw [List.filter_eq_self]
  intro b hb
  rw [isOuter_numbered hb]
  rfl

/-! ## One selection -/

/-- The state after selections that met the given stops in all. -/
structure Progress.Tidy (stops : List Stop) (p : Progress) : Prop where
  next : p.bindings.next = Stop.scalars stops
  branches : p.pagedBranches = Stop.windows stops
  distinct : (p.bindings.entries.map Binding.key).Nodup
  /-- Apart from the outermost window, the entries are the stops, numbered through. -/
  numbered : p.bindings.entries.filter (fun b => !b.key.isOuter) = numbered 0 0 stops

namespace Progress

theorem tidy_empty (t : AliasTable) : Tidy [] { aliases := t } :=
  ⟨rfl, rfl, List.nodup_nil, rfl⟩

theorem Tidy.numbered_append {stops : List Stop} {p : Progress} (h : p.Tidy stops)
    (more : List Stop) : RownumSql.numbered 0 0 (stops ++ more) =
      RownumSql.numbered 0 0 stops
        ++ RownumSql.numbered p.bindings.next p.pagedBranches more := by
  rw [RownumSql.numbered_append, h.next, h.branches, Nat.zero_add, Nat.zero_add]

/-- What is numbered next is under new keys. -/
theorem Tidy.distinct_append {stops : List Stop} {p : Progress} (h : p.Tidy stops)
    (outer : List Binding) (houter : ∀ b ∈ outer, b.key.isOuter = true) (more : List Stop) :
    ((putAll p.bindings.entries outer
      ++ RownumSql.numbered p.bindings.next p.pagedBranches more).map Binding.key).Nodup := by
  have hfilter : (putAll p.bindings.entries outer).filter (fun b => !b.key.isOuter)
      = RownumSql.numbered 0 0 stops := by
    rw [Bindings.filter_putAll (p := fun k => !k.isOuter) (fun b hb => by rw [houter b hb]; rfl)]
    exact h.numbered
  have hall := nodup_keys_numbered 0 0 (stops ++ more)
  rw [h.numbered_append, List.map_append] at hall
  rw [List.map_append]
  refine List.nodup_append.mpr ⟨Bindings.nodup_putAll h.distinct, nodup_keys_numbered _ _ _, ?_⟩
  rintro _ hold _ hnew rfl
  obtain ⟨b, hb, hkey⟩ := List.mem_map.mp hold
  obtain ⟨b', hb', hkey'⟩ := List.mem_map.mp hnew
  have hinner : b.key.isOuter = false := by rw [hkey, ← hkey', isOuter_numbered hb']
  have hbefore : b ∈ RownumSql.numbered 0 0 stops := by
    rw [← hfilter, List.mem_filter, hinner]
    exact ⟨hb, rfl⟩
  exact (List.nodup_append.mp hall).2.2 _ (hkey ▸ List.mem_map_of_mem hbefore) _
    (List.mem_map_of_mem hb') hkey'.symm

/-- What is bound under other names than those of the outermost window is there after more stops. -/
theorem Tidy.mem_of_mem {stops more : List Stop} {p p' : Progress} (h : p.Tidy stops)
    (h' : p'.Tidy (stops ++ more)) {b : Binding} (hb : b ∈ p.bindings.entries)
    (hinner : b.key.isOuter = false) : b ∈ p'.bindings.entries := by
  have hmem : b ∈ RownumSql.numbered 0 0 stops := by
    rw [← h.numbered, List.mem_filter, hinner]
    exact ⟨hb, rfl⟩
  have hlater : b ∈ RownumSql.numbered 0 0 (stops ++ more) := by
    rw [h.numbered_append]
    exact List.mem_append_left _ hmem
  rw [← h'.numbered] at hlater
  exact (List.mem_filter.mp hlater).1

end Progress

namespace Emit
variable (d : Dialect)

theorem entries_bounds (q : Query) (n : Nat) (es : List Binding) :
    (Template.bounds .outer q.limitValue q.offsetValue).entries n es
      = putAll es q.outerBindings := by
  have hvalue (n : UInt64) : Value.ofUInt64 n = boundValue n.toNat := rfl
  unfold Template.bounds Query.outerBindings windowBindings
  by_cases hl : 0 < q.limitValue <;> by_cases ho : 0 < q.offsetValue <;>
    simp [hl, ho, Template.entries, Piece.entries, putAll, ← windowNames_zero,
      Outline.ofName_windowNames, hvalue, toNat_endRow]

/-- A selection puts in its outermost window and appends what it meets, all of its walk if it can be
compiled. -/
theorem run_sqlOf_bindings (q : Query) {stops : List Stop} {p : Progress} (h : p.Tidy stops) :
    ∃ reached,
      ((sqlOf d .outer q).run p).2.bindings.entries = putAll p.bindings.entries q.outerBindings
        ++ numbered p.bindings.next p.pagedBranches reached ∧
      ((sqlOf d .outer q).run p).2.Tidy (stops ++ reached) ∧
      ∀ sql, ((sqlOf d .outer q).run p).1 = .ok sql → reached = q.walk := by
  obtain ⟨reached, hmarks, hall⟩ := Outline.marks_select_reached .outer p.pagedBranches q
  have hrun := run_sqlOf d .outer q p
  rw [Outline.run_write] at hrun
  generalize Outline.select .outer p.pagedBranches q = o at hmarks hall hrun
  have hentries : o.template.entries p.bindings.next p.bindings.entries
      = putAll p.bindings.entries q.outerBindings
        ++ numbered p.bindings.next p.pagedBranches reached := by
    have hdistinct := h.distinct_append q.outerBindings (fun _ => isOuter_outerBindings) reached
    rw [← Template.entries_marks, hmarks, Template.entries_append, entries_bounds,
      Outline.scalars_bounds, Nat.add_zero, Template.entries_eq_append, Outline.bindings_stopMarks]
    rw [Outline.bindings_stopMarks]
    exact hdistinct
  have hscalars : o.template.scalars = Stop.scalars reached := by
    rw [← Template.scalars_marks, hmarks, Template.scalars_append, Outline.scalars_bounds,
      Outline.scalars_stopMarks, Nat.zero_add]
  have hbranches : o.template.branches = Stop.windows reached := by
    rw [← Template.branches_marks, hmarks, Template.branches_append, Outline.branches_bounds,
      Outline.branches_stopMarks, Nat.zero_add]
  rw [hrun]
  refine ⟨reached, hentries, ⟨?_, ?_, ?_, ?_⟩, ?_⟩
  · show p.bindings.next + o.template.scalars = _
    rw [hscalars, h.next, Stop.scalars_append]
  · show p.pagedBranches + o.template.branches = _
    rw [hbranches, h.branches, Stop.windows_append]
  · show (List.map _ (o.template.entries _ _)).Nodup
    rw [hentries]
    exact h.distinct_append q.outerBindings (fun _ => isOuter_outerBindings) reached
  · show List.filter _ (o.template.entries _ _) = _
    rw [hentries, List.filter_append, filter_numbered, h.numbered_append, ← h.numbered]
    congr 1
    exact Bindings.filter_putAll (p := fun k => !k.isOuter)
      (fun b hb => by rw [isOuter_outerBindings hb]; rfl) _
  · intro sql hsql
    apply hall
    cases herror : o.error with
    | none => rfl
    | some e =>
      rw [herror] at hsql
      cases hsql

/-- What a selection binds is there when it is built. -/
theorem mem_entries_of_run_sqlOf {q : Query} {stops : List Stop} {p : Progress} (h : p.Tidy stops)
    {sql : String} (hsql : ((sqlOf d .outer q).run p).1 = .ok sql) {b : Binding}
    (hb : b ∈ q.bindingsFrom p) : b ∈ ((sqlOf d .outer q).run p).2.bindings.entries := by
  obtain ⟨reached, hentries, -, hall⟩ := run_sqlOf_bindings d q h
  rw [hentries, hall sql hsql]
  rcases List.mem_append.mp hb with houter | hnumbered
  · exact List.mem_append_left _ (Bindings.mem_putAll houter (nodup_outerBindings q) _)
  · exact List.mem_append_right _ hnumbered

/-- What the SQL of a selection that was built from `p` refers to. -/
structure Refers (q : Query) (p : Progress) (sql : String) : Prop where
  text : sql = (q.templateFrom p).text d p.aliases p.bindings.next
  /-- Every key that the selection binds is written once, and no other. -/
  written : ((q.placeholdersFrom p).map BindKey.named).Perm ((q.bindingsFrom p).map Binding.key)
  /-- Colons anywhere else are those of a text of the query. -/
  colons : ∀ x ∈ q.templateFrom p, x.ColonsFrom q.texts

theorem refers_of_run_sqlOf {q : Query} {p : Progress} {sql : String}
    (h : ((sqlOf d .outer q).run p).1 = .ok sql) : Refers d q p sql := by
  have hrun := run_sqlOf d .outer q p
  rw [Outline.run_write] at hrun
  rw [hrun] at h
  cases herror : (Outline.select .outer p.pagedBranches q).error with
  | some e =>
    rw [herror] at h
    cases h
  | none =>
    rw [herror] at h
    have hmarks := Outline.marks_select .outer p.pagedBranches q herror
    have hbindings : (q.templateFrom p).bindings p.bindings.next = q.bindingsFrom p := by
      rw [Query.templateFrom, ← Template.bindings_marks, hmarks, Template.bindings_append,
        Outline.scalars_bounds, Outline.bindings_stopMarks, ← windowNames_zero,
        Outline.bindings_bounds]
      rfl
    have haccounts : (q.templateFrom p).Accounts q.texts := by
      rw [Query.templateFrom, ← SelectTree.template_ofQuery .outer p.pagedBranches q herror]
      exact SelectTree.accounts_ofQuery q 0 p.pagedBranches
    refine ⟨(Except.ok.inj h).symm, ?_, haccounts.colons⟩
    rw [← hbindings]
    exact haccounts.matched p.bindings.next

/-! ## Selections one after another -/

/-- The SQL of selections that are built one after another on the same bindings. -/
def selectAll : List Query → Emit (List (Except SqlError String))
  | [] => pure []
  | q :: rest => do
    let sql ← sqlOf d .outer q
    let others ← selectAll rest
    pure (sql :: others)

theorem run_selectAll_cons (q : Query) (rest : List Query) (p : Progress) :
    (selectAll d (q :: rest)).run p =
      (((sqlOf d .outer q).run p).1 :: ((selectAll d rest).run ((sqlOf d .outer q).run p).2).1,
        ((selectAll d rest).run ((sqlOf d .outer q).run p).2).2) := rfl

theorem run_selectAll_append (qs rest : List Query) (p : Progress) :
    (selectAll d (qs ++ rest)).run p =
      (((selectAll d qs).run p).1 ++ ((selectAll d rest).run ((selectAll d qs).run p).2).1,
        ((selectAll d rest).run ((selectAll d qs).run p).2).2) := by
  induction qs generalizing p with
  | nil => rfl
  | cons q qs ih =>
    rw [List.cons_append, run_selectAll_cons, run_selectAll_cons, ih]
    rfl

theorem length_selectAll (qs : List Query) (p : Progress) :
    ((selectAll d qs).run p).1.length = qs.length := by
  induction qs generalizing p with
  | nil => rfl
  | cons q qs ih => rw [run_selectAll_cons, List.length_cons, List.length_cons, ih]

/-- Whatever is built, the state stays tidy, and keys are only appended. -/
theorem run_selectAll_tidy (qs : List Query) {stops : List Stop} {p : Progress}
    (h : p.Tidy stops) : ∃ more, ((selectAll d qs).run p).2.Tidy (stops ++ more) ∧
      p.bindings.entries.map Binding.key
        <+: ((selectAll d qs).run p).2.bindings.entries.map Binding.key := by
  induction qs generalizing stops p with
  | nil => exact ⟨[], by rwa [List.append_nil], List.prefix_refl _⟩
  | cons q qs ih =>
    obtain ⟨reached, hentries, htidy, -⟩ := run_sqlOf_bindings d q h
    obtain ⟨more, hmore, hprefix⟩ := ih htidy
    refine ⟨reached ++ more, ?_, ?_⟩
    · rw [← List.append_assoc]
      exact hmore
    · refine List.IsPrefix.trans ?_ hprefix
      rw [hentries, List.map_append]
      exact (Bindings.keys_prefix_putAll _).trans (List.prefix_append _ _)

/-- Under the names of the outermost window stand the values of the last selection that binds
them. -/
theorem value?_selectAll {k : BindKey} (hk : k.isOuter = true) (qs : List Query)
    {stops : List Stop} {p : Progress} (h : p.Tidy stops) :
    value? k ((selectAll d qs).run p).2.bindings.entries =
      (qs.filterMap fun q => value? k q.outerBindings).getLast?.or
        (value? k p.bindings.entries) := by
  induction qs generalizing stops p with
  | nil => rfl
  | cons q qs ih =>
    obtain ⟨reached, hentries, htidy, -⟩ := run_sqlOf_bindings d q h
    have hnumbered : value? k (numbered p.bindings.next p.pagedBranches reached) = none := by
      rw [value?, Option.map_eq_none_iff, List.find?_eq_none]
      intro b hb hkey
      rw [decide_eq_true_iff] at hkey
      rw [← hkey, isOuter_numbered hb] at hk
      cases hk
    rw [run_selectAll_cons, ih htidy, hentries, Bindings.value?_append, hnumbered, Option.or_none,
      Bindings.value?_putAll (nodup_outerBindings q), List.filterMap_cons]
    cases hq : value? k q.outerBindings with
    | none => rfl
    | some v =>
      rw [List.getLast?_cons]
      cases (qs.filterMap fun q => value? k q.outerBindings).getLast? <;> rfl

/-- What a selection that came to `r` when it was built from `p` still has after others were built,
up to `final`. -/
structure Keeps (q : Query) (p : Progress) (r : Except SqlError String × Progress)
    (final : Progress) : Prop where
  refers : ∀ sql, r.1 = .ok sql → Refers d q p sql
  /-- A placeholder is bound once when the SQL is built, to its value, and once at the end, to the
  same value unless its name is one of the outermost window. -/
  bound : ∀ sql, r.1 = .ok sql → ∀ name ∈ q.placeholdersFrom p, ∃ v w,
    ⟨.named name, v⟩ ∈ q.bindingsFrom p ∧
    under (.named name) r.2.bindings.entries = [⟨.named name, v⟩] ∧
    under (.named name) final.bindings.entries = [⟨.named name, w⟩] ∧
    (BindKey.isOuter (.named name) = false → w = v)
  /-- Entries that are not those of the outermost window stay. -/
  kept : ∀ b ∈ r.2.bindings.entries, b.key.isOuter = false → b ∈ final.bindings.entries
  /-- Keys are only appended, by the selection and by those behind it. -/
  appended : p.bindings.entries.map Binding.key <+: r.2.bindings.entries.map Binding.key ∧
    r.2.bindings.entries.map Binding.key <+: final.bindings.entries.map Binding.key
  distinct : (final.bindings.entries.map Binding.key).Nodup

theorem keeps_of_tidy {stops : List Stop} {p : Progress} (h : p.Tidy stops) (q : Query)
    (later : List Query) : Keeps d q p ((sqlOf d .outer q).run p)
      ((selectAll d later).run ((sqlOf d .outer q).run p).2).2 := by
  obtain ⟨reached, hentries, htidy, -⟩ := run_sqlOf_bindings d q h
  obtain ⟨more, hmore, hkeys⟩ := run_selectAll_tidy d later htidy
  refine ⟨fun _ => refers_of_run_sqlOf d, ?_, fun b => htidy.mem_of_mem hmore, ⟨?_, hkeys⟩,
    hmore.distinct⟩
  · intro sql hsql name hname
    have hkey : .named name ∈ (q.bindingsFrom p).map Binding.key :=
      (refers_of_run_sqlOf d hsql).written.subset (List.mem_map_of_mem hname)
    obtain ⟨⟨key, v⟩, hv, hkey⟩ := List.mem_map.mp hkey
    cases hkey
    have hbuilt := mem_entries_of_run_sqlOf d h hsql hv
    -- the name is still a key at the end, though perhaps with another value
    obtain ⟨⟨key, w⟩, hw, hkey⟩ := List.mem_map.mp (hkeys.subset (List.mem_map_of_mem hbuilt))
    cases hkey
    refine ⟨v, w, hv, Bindings.under_of_mem hbuilt htidy.distinct,
      Bindings.under_of_mem hw hmore.distinct, ?_⟩
    intro hinner
    have hkept := Bindings.value?_of_mem (htidy.mem_of_mem hmore hbuilt hinner) hmore.distinct
    exact Option.some.inj ((Bindings.value?_of_mem hw hmore.distinct).symm.trans hkept)
  · rw [hentries, List.map_append]
    exact (Bindings.keys_prefix_putAll _).trans (List.prefix_append _ _)

/-- **Statements with one list of bindings keep them, but for the outermost windows.**  However many
selections are built before and behind, and whether they can be compiled or not, the placeholders in
the SQL of a selection are what it binds, and each is still bound once and to its value when all are
built.  The two names of the outermost window are the exception: under them stand the values of the
last selection that binds them. -/
theorem selectAll_keeps (t : AliasTable) (before : List Query) (q : Query) (later : List Query) :
    let p := ((selectAll d before).run { aliases := t }).2
    let r := (sqlOf d .outer q).run p
    let all := (selectAll d (before ++ q :: later)).run { aliases := t }
    all.1[before.length]? = some r.1 ∧ Keeps d q p r all.2 ∧
      ∀ k : BindKey, k.isOuter = true → value? k all.2.bindings.entries =
        ((before ++ q :: later).filterMap fun q => value? k q.outerBindings).getLast? := by
  intro p r all
  have hempty := Progress.tidy_empty t
  obtain ⟨stops, htidy, -⟩ := run_selectAll_tidy d before hempty
  have hall : all = (((selectAll d before).run { aliases := t }).1
        ++ r.1 :: ((selectAll d later).run r.2).1, ((selectAll d later).run r.2).2) := by
    show (selectAll d (before ++ q :: later)).run { aliases := t } = _
    rw [run_selectAll_append, run_selectAll_cons]
  refine ⟨?_, ?_, ?_⟩
  · rw [hall, List.getElem?_append_right (Nat.le_of_eq (length_selectAll d before _)),
      length_selectAll, Nat.sub_self, List.getElem?_cons_zero]
  · rw [hall]
    exact keeps_of_tidy d htidy q later
  · intro k hk
    exact (value?_selectAll d hk _ hempty).trans (Option.or_none)

def firstRows (n : UInt64) : Query :=
  { select := [⟨.column "a", none⟩], tables := [⟨"t", none⟩], limit := some n }

/-- A scalar keeps its placeholder and its value, whatever limit is bound behind it. -/
theorem selectAll_keeps_scalar :
    let q := (firstRows 1).filter (.filter "a" .eq (.int 7))
    let all := (selectAll {} [q, firstRows 2]).run { aliases := {} }
    all.1[0]? = some (.ok ("SELECT /*+ FIRST_ROWS(1) */ a.* FROM (SELECT \"a\" FROM \"t\" "
      ++ "WHERE \"a\" = :c0) a WHERE ROWNUM <= :QAIL_MAX_ROW_TO_FETCH")) ∧
    q.placeholdersFrom { aliases := {} } = ["c0", "QAIL_MAX_ROW_TO_FETCH"] ∧
    ∃ w, ⟨.named "c0", w⟩ ∈ q.bindingsFrom { aliases := {} } ∧
      under (.named "c0") all.2.bindings.entries = [⟨.named "c0", w⟩] := by
  intro q all
  have hplaceholders : q.placeholdersFrom { aliases := {} } = ["c0", "QAIL_MAX_ROW_TO_FETCH"] := by
    decide +kernel
  have hsql : ((sqlOf {} .outer q).run { aliases := {} }).1
      = .ok ("SELECT /*+ FIRST_ROWS(1) */ a.* FROM (SELECT \"a\" FROM \"t\" "
        ++ "WHERE \"a\" = :c0) a WHERE ROWNUM <= :QAIL_MAX_ROW_TO_FETCH") := by
    decide +kernel
  obtain ⟨hfirst, hkeeps, -⟩ := selectAll_keeps {} {} [] q [firstRows 2]
  obtain ⟨v, w, hv, -, hw, hsame⟩ := hkeeps.bound _ hsql "c0"
    (hplaceholders ▸ List.mem_cons_self)
  refine ⟨hfirst.trans (congrArg some hsql), hplaceholders, v, hv, ?_⟩
  rw [← hsame (by decide)]
  exact hw

/-- A second limit takes the place of the first, which the first statement still refers to. -/
theorem selectAll_replaces_limit :
    let first := (sqlOf {} .outer (firstRows 1)).run { aliases := {} }
    let both := (selectAll {} [firstRows 1, firstRows 2]).run { aliases := {} }
    first.1 = .ok ("SELECT /*+ FIRST_ROWS(1) */ a.* FROM (SELECT \"a\" FROM \"t\") a "
      ++ "WHERE ROWNUM <= :QAIL_MAX_ROW_TO_FETCH") ∧
    first.2.bindings.entries = [⟨.named "QAIL_MAX_ROW_TO_FETCH", .int 1⟩] ∧
    both.2.bindings.entries = [⟨.named "QAIL_MAX_ROW_TO_FETCH", .int 2⟩] := by
  decide +kernel

end Emit

end RownumSql
