import RownumSql.Proofs.Closings
import RownumSql.Proofs.DateTexts
import RownumSql.Proofs.DocumentRecords
import RownumSql.Proofs.QueryValues
import RownumSql.Query.Document

/-!
# Documents of queries are read back

Every query has a document, and the document is read back to the query itself, save for three
things that a document does not hold: closing texts, numbers that are not finite, and the difference
between a text and the date or moment that it spells:

    Query.ofDocument? f q.toDocument = some q.reread                  (Query.ofDocument?_toDocument)

So a query without the first two comes back as it was exactly if none of its texts reads as a date
or a moment (`Query.readsBack_iff`).  Dates and moments are texts in a document; that theirs are
read back is `readDate?_chars` and `readMoment?_chars`.
-/

namespace RownumSql

open RownumSql.Calendar

/-! ## Scalars -/

/-- A scalar as it is read back: a text that reads as a moment or a date becomes one, and a number
that is not finite becomes null. -/
def Value.reread : Value → Value
  | float x => if x.isFinite then float x else null
  | text s => ofText s
  | v => v

namespace Value

theorem ofInt_toInt (n : Int64) : ofInt n.toInt = int n := by
  have hlow : Number.minInt64 ≤ n.toInt := n.le_toInt
  have hhigh : n.toInt ≤ Number.maxInt64 := Int.lt_add_one_iff.mp n.toInt_lt
  have hfits : Number.fitsInt64 n.toInt = true := by
    rw [Number.fitsInt64, decide_eq_true hlow, decide_eq_true hhigh]
    rfl
  rw [ofInt, if_pos hfits, Int64.ofInt_toInt]

theorem ofDocument?_toDocument (v : Value) : ofDocument? v.toDocument = some v.reread := by
  cases v with
  | null => rfl
  | bool b => rfl
  | int n => exact congrArg some (ofInt_toInt n)
  | float x =>
    show ofDocument? (if x.isFinite then .float x else .null)
      = some (if x.isFinite then float x else null)
    cases x.isFinite <;> rfl
  | moment t =>
    have h : ofText (String.ofList t.chars) = moment t := by
      rw [ofText, String.toList_ofList, readMoment?_chars]
    exact congrArg some h
  | date d =>
    have h : ofText (String.ofList d.chars) = date d := by
      rw [ofText, String.toList_ofList, readMoment?_chars_date, readDate?_chars]
    exact congrArg some h
  | text s => rfl

theorem reread_text_eq_self_iff (s : String) :
    (text s).reread = text s ↔ readMoment? s.toList = none ∧ readDate? s.toList = none := by
  rw [reread, ofText]
  cases readMoment? s.toList with
  | some t => simp
  | none =>
    cases readDate? s.toList with
    | some d => simp
    | none => simp

end Value

/-! ## Names -/

section Names
variable (f : Document.Format)

theorem Operator.oneOf?_name (op : Operator) : Document.oneOf? f names (.text op.name) = some op := by
  cases op <;> rfl

theorem JoinKind.oneOf?_name (k : JoinKind) : Document.oneOf? f names (.text k.name) = some k := by
  cases k <;> rfl

theorem SortOrder.oneOf?_name (o : SortOrder) : Document.oneOf? f names (.text o.name) = some o := by
  cases o <;> rfl

theorem QueryKind.oneOf?_name (k : QueryKind) : Document.oneOf? f names (.text k.name) = some k := by
  cases k <;> rfl

end Names

/-! ## Expressions -/

namespace Expr

theorem listDocuments_eq_map (es : List Expr) : listDocuments es = es.map toDocument := by
  induction es with
  | nil => rfl
  | cons e es ih => rw [listDocuments, ih, List.map_cons]

variable (f : Document.Format)

theorem exists_fuel {e : Expr} {n : Nat} (hn : e.toDocument.depth ≤ n) : ∃ m, n = m + 1 := by
  cases n with
  | succ m => exact ⟨m, rfl⟩
  | zero => cases e <;> simp [toDocument, Document.depth] at hn

theorem ofDepth?_toDocument (e : Expr) {n : Nat} (hn : e.toDocument.depth ≤ n) :
    ofDepth? f n e.toDocument = some (e.mapValues Value.reread) := by
  induction e using Expr.induction generalizing n with
  | column name =>
    obtain ⟨n, rfl⟩ := exists_fuel hn
    rfl
  | value v =>
    obtain ⟨n, rfl⟩ := exists_fuel hn
    rw [toDocument, ofDepth?, v.ofDocument?_toDocument]
    rfl
  | raw sql =>
    obtain ⟨n, rfl⟩ := exists_fuel hn
    rfl
  | compare left op right ihl ihr =>
    obtain ⟨n, rfl⟩ := exists_fuel hn
    rw [toDocument] at hn ⊢
    have hleft := ihl (Document.depth_le_of_variant (.head _) hn)
    have hright := ihr (Document.depth_le_of_variant (.tail _ (.tail _ (.head _))) hn)
    rw [ofDepth?]
    refine Option.bind_eq_some_iff.mpr ⟨_, Document.variantFields?_table f rfl, ?_⟩
    refine Document.required?_bind rfl hleft ?_
    refine Document.required?_bind rfl (op.oneOf?_name f) ?_
    refine Document.required?_bind rfl hright ?_
    rfl
  | function name args ih =>
    obtain ⟨n, rfl⟩ := exists_fuel hn
    rw [toDocument, listDocuments_eq_map] at hn ⊢
    have hlist := Document.depth_le_of_variant (.tail _ (.head _)) hn
    have hargs : Document.list? (ofDepth? f n) (.list (args.map toDocument))
        = some (args.map (mapValues Value.reread)) := by
      refine Document.list?_map fun e he => ih e he ?_
      exact Nat.le_trans (Nat.le_of_lt (Document.depth_lt_of_mem_list (List.mem_map_of_mem he))) hlist
    rw [ofDepth?, mapValues, mapValuesOf_eq_map]
    refine Option.bind_eq_some_iff.mpr ⟨_, Document.variantFields?_table f rfl, ?_⟩
    refine Document.required?_bind rfl rfl ?_
    refine Document.required?_bind rfl hargs ?_
    rfl

theorem ofDocument?_toDocument (e : Expr) :
    ofDocument? f e.toDocument = some (e.mapValues Value.reread) :=
  e.ofDepth?_toDocument f (Nat.le_refl _)

end Expr

theorem exprs?_exprsDocument (f : Document.Format) (es : List Expr) :
    Document.list? (Expr.ofDocument? f) (exprsDocument es)
      = some (es.map (Expr.mapValues Value.reread)) := by
  rw [exprsDocument, Expr.listDocuments_eq_map]
  exact Document.list?_map fun e _ => e.ofDocument?_toDocument f

/-! ## Clause items -/

section Items
variable (f : Document.Format)

theorem SelectItem.ofDocument?_toDocument (i : SelectItem) :
    ofDocument? f i.toDocument = some (i.mapValues Value.reread) := by
  rw [ofDocument?, toDocument]
  refine Option.bind_eq_some_iff.mpr ⟨_, rfl, ?_⟩
  refine Document.required?_bind rfl (i.expr.ofDocument?_toDocument f) ?_
  refine Document.optional?_bind rfl (Document.nullable?_ofText? i.label) ?_
  rfl

theorem TableRef.ofDocument?_toDocument (t : TableRef) :
    ofDocument? f t.toDocument = some t := by
  rw [ofDocument?, toDocument]
  refine Option.bind_eq_some_iff.mpr ⟨_, rfl, ?_⟩
  refine Document.required?_bind rfl rfl ?_
  refine Document.optional?_bind rfl (Document.nullable?_ofText? t.label) ?_
  rfl

theorem Join.ofDocument?_toDocument (j : Join) :
    ofDocument? f j.toDocument = some (j.mapValues Value.reread) := by
  rw [ofDocument?, toDocument]
  refine Option.bind_eq_some_iff.mpr ⟨_, rfl, ?_⟩
  refine Document.defaulted?_bind rfl (j.kind.oneOf?_name f) ?_
  refine Document.required?_bind rfl (j.table.ofDocument?_toDocument f) ?_
  refine Document.defaulted?_bind rfl (exprs?_exprsDocument f j.on) ?_
  rfl

theorem SortKey.ofDocument?_toDocument (k : SortKey) :
    ofDocument? f k.toDocument = some (k.mapValues Value.reread) := by
  rw [ofDocument?, toDocument]
  refine Option.bind_eq_some_iff.mpr ⟨_, rfl, ?_⟩
  refine Document.required?_bind rfl (k.expr.ofDocument?_toDocument f) ?_
  refine Document.defaulted?_bind rfl (k.order.oneOf?_name f) ?_
  rfl

theorem Epilog.toDocument_ne_null (e : Epilog) : e.toDocument ≠ .null := by
  cases e <;> nofun

theorem Epilog.ofDocument?_toDocument (e : Epilog) :
    ofDocument? f e.toDocument = some (e.mapValues Value.reread) := by
  cases e with
  | sql text => rfl
  | expr e =>
    rw [toDocument, ofDocument?, e.ofDocument?_toDocument f]
    rfl

theorem Assignment.ofDocument?_toDocument (a : Assignment) :
    ofDocument? f a.toDocument = some (a.mapValues Value.reread) := by
  rw [ofDocument?, toDocument]
  refine Option.bind_eq_some_iff.mpr ⟨_, rfl, ?_⟩
  refine Document.required?_bind rfl rfl ?_
  refine Document.required?_bind rfl (a.value.ofDocument?_toDocument f) ?_
  rfl

theorem Update.toDocument_ne_null (u : Update) : u.toDocument ≠ .null := nofun

theorem Update.ofDocument?_toDocument (u : Update) :
    ofDocument? f u.toDocument = some (u.mapValues Value.reread) := by
  have hset := Document.list?_map fun a (_ : a ∈ u.assignments) => a.ofDocument?_toDocument f
  rw [ofDocument?, toDocument]
  refine Option.bind_eq_some_iff.mpr ⟨_, rfl, ?_⟩
  refine Document.required?_bind rfl rfl ?_
  refine Document.defaulted?_bind rfl hset ?_
  rfl

end Items

/-! ## Queries -/

def Branch.toDocument (b : Branch Query) : Document :=
  .table [("all", .bool b.all), ("query", b.query.toDocument)]

def Insertion.toDocument (i : Insertion Query) : Document :=
  .table
    [("table", .text i.table),
     ("columns", .ofTexts i.columns),
     ("rows", .list (i.rows.map exprsDocument)),
     ("query", (i.source.map Query.toDocument).getD .null)]

theorem Insertion.toDocument_ne_null (i : Insertion Query) : i.toDocument ≠ .null := nofun

/-- A branch as it is read back. -/
def Branch.reread (b : Branch Query) : Branch Query := b.withoutClosings.mapValues Value.reread

/-- An insertion as it is read back. -/
def Insertion.reread (i : Insertion Query) : Insertion Query :=
  i.withoutClosings.mapValues Value.reread

namespace Query

/-- A query as it is read back: its scalars are, and the closing texts are not written. -/
def reread (q : Query) : Query := q.withoutClosings.mapValues Value.reread

theorem reread_eq (q : Query) :
    q.reread = { q with
      select := q.select.map (SelectItem.mapValues Value.reread)
      joins := q.joins.map (Join.mapValues Value.reread)
      conditions := q.conditions.map (Expr.mapValues Value.reread)
      groups := q.groups.map (Expr.mapValues Value.reread)
      having := q.having.map (Expr.mapValues Value.reread)
      order := q.order.map (SortKey.mapValues Value.reread)
      branches := q.branches.map Branch.reread
      epilog := q.epilog.map (Epilog.mapValues Value.reread)
      insertion := q.insertion.map Insertion.reread
      update := q.update.map (Update.mapValues Value.reread)
      closing := {} } := by
  have hbranches : q.branches.map Branch.reread
      = (q.branches.map Branch.withoutClosings).map (Branch.mapValues Value.reread) :=
    List.map_map.symm
  have hinsertion : q.insertion.map Insertion.reread
      = (q.insertion.map Insertion.withoutClosings).map (Insertion.mapValues Value.reread) :=
    (Option.map_map ..).symm
  rw [hbranches, hinsertion, reread, mapValues_eq, withoutClosings_eq]

theorem branchDocuments_eq_map (bs : List (Branch Query)) :
    branchDocuments bs = bs.map Branch.toDocument := by
  induction bs with
  | nil => rfl
  | cons b rest ih =>
    rw [branchDocuments, ih, List.map_cons]
    rfl

theorem insertionDocument_eq (i : Option (Insertion Query)) :
    insertionDocument i = (i.map Insertion.toDocument).getD .null := by
  cases i with
  | none => rfl
  | some i =>
    obtain ⟨table, columns, rows, source⟩ := i
    cases source <;> rfl

def clauseEntries (q : Query) : List (String × Document) :=
  [("kind", .text q.kind.name),
   ("distinct", .bool q.distinct),
   ("select", .list (q.select.map SelectItem.toDocument)),
   ("from", .list (q.tables.map TableRef.toDocument)),
   ("join", .list (q.joins.map Join.toDocument)),
   ("where", exprsDocument q.conditions),
   ("group", exprsDocument q.groups),
   ("having", exprsDocument q.having),
   ("order", .list (q.order.map SortKey.toDocument)),
   ("limit", countDocument q.limit),
   ("offset", countDocument q.offset),
   ("union", .list (q.branches.map Branch.toDocument)),
   ("epilog", (q.epilog.map Epilog.toDocument).getD .null),
   ("values", (q.insertion.map Insertion.toDocument).getD .null),
   ("update", (q.update.map Update.toDocument).getD .null),
   ("buffered", .bool q.buffered)]

theorem toDocument_eq (q : Query) : q.toDocument = .table q.clauseEntries := by
  rw [clauseEntries, ← branchDocuments_eq_map, ← insertionDocument_eq]
  cases q
  rw [toDocument]

theorem nullable?_countDocument (n : Option UInt64) :
    Document.nullable? Document.uint64? (countDocument n) = some n := by
  cases n with
  | none => rfl
  | some n => exact Document.nullable?_of_ne_null nofun (Document.uint64?_ofNat n)

theorem toDocument_ne_null (q : Query) : q.toDocument ≠ .null := by
  rw [toDocument_eq]
  nofun

variable (f : Document.Format)

theorem branchOfDocument?_toDocument {read : Document → Option Query} {b : Branch Query}
    (h : read b.query.toDocument = some b.query.reread) :
    branchOfDocument? f read b.toDocument = some b.reread := by
  rw [branchOfDocument?, Branch.toDocument]
  refine Option.bind_eq_some_iff.mpr ⟨_, rfl, ?_⟩
  refine Document.defaulted?_bind rfl rfl ?_
  refine Document.required?_bind rfl h ?_
  rfl

theorem insertionOfDocument?_toDocument {read : Document → Option Query} {i : Insertion Query}
    (h : ∀ q ∈ i.source, read q.toDocument = some q.reread) :
    insertionOfDocument? f read i.toDocument = some i.reread := by
  have hrows := Document.list?_map fun row (_ : row ∈ i.rows) => exprs?_exprsDocument f row
  have hsource := Document.nullable?_getD toDocument_ne_null h
  have hmapped : i.source.map reread
      = (i.source.map withoutClosings).map (mapValues Value.reread) := (Option.map_map ..).symm
  rw [hmapped] at hsource
  rw [insertionOfDocument?, Insertion.toDocument]
  refine Option.bind_eq_some_iff.mpr ⟨_, rfl, ?_⟩
  refine Document.required?_bind rfl rfl ?_
  refine Document.required?_bind rfl (Document.list?_ofTexts i.columns) ?_
  refine Document.defaulted?_bind rfl hrows ?_
  refine Document.optional?_bind rfl hsource ?_
  rfl

theorem depth_branch_lt {q : Query} {b : Branch Query} (hb : b ∈ q.branches) :
    b.query.toDocument.depth + 1 < q.toDocument.depth := by
  have hquery : b.query.toDocument.depth < b.toDocument.depth :=
    Document.depth_lt_of_mem_table (.tail _ (.head _))
  have hitem := Document.depth_lt_of_mem_list (List.mem_map_of_mem (f := Branch.toDocument) hb)
  have hentry : ("union", Document.list (q.branches.map Branch.toDocument)) ∈ q.clauseEntries := by
    simp [clauseEntries]
  have hlist := Document.depth_lt_of_mem_table hentry
  rw [← toDocument_eq] at hlist
  omega

theorem depth_source_lt {q : Query} {i : Insertion Query} (hi : q.insertion = some i) {s : Query}
    (hs : i.source = some s) : s.toDocument.depth < q.toDocument.depth := by
  have hsource : s.toDocument.depth < i.toDocument.depth := by
    rw [Insertion.toDocument, hs]
    exact Document.depth_lt_of_mem_table (.tail _ (.tail _ (.tail _ (.head _))))
  have hentry : ("values", i.toDocument) ∈ q.clauseEntries := by
    simp [clauseEntries, hi]
  have hinsertion := Document.depth_lt_of_mem_table hentry
  rw [← toDocument_eq] at hinsertion
  omega

theorem ofDepth?_toDocument (q : Query) {n : Nat} (hn : q.toDocument.depth ≤ n) :
    ofDepth? f n q.toDocument = some q.reread := by
  induction q using Query.fullInduction generalizing n with
  | node q ihb ihi =>
    obtain ⟨n, rfl⟩ : ∃ m, n = m + 1 := by
      rw [toDocument_eq, Document.depth] at hn
      exact ⟨n - 1, by omega⟩
    have hbranch : ∀ b ∈ q.branches, b.query.toDocument.depth ≤ n := by
      intro b hb
      have := depth_branch_lt hb
      omega
    have hsource : ∀ i ∈ q.insertion, ∀ s ∈ i.source, s.toDocument.depth ≤ n := by
      intro i hi s hs
      have := depth_source_lt hi hs
      omega
    have hselect := Document.list?_map fun i (_ : i ∈ q.select) => i.ofDocument?_toDocument f
    have htables := Document.list?_map fun t (_ : t ∈ q.tables) => t.ofDocument?_toDocument f
    have hjoins := Document.list?_map fun j (_ : j ∈ q.joins) => j.ofDocument?_toDocument f
    have horder := Document.list?_map fun k (_ : k ∈ q.order) => k.ofDocument?_toDocument f
    have hbranches := Document.list?_map fun b hb =>
      branchOfDocument?_toDocument f (ihb b hb (hbranch b hb))
    have hepilog := Document.nullable?_getD Epilog.toDocument_ne_null
      fun e (_ : e ∈ q.epilog) => e.ofDocument?_toDocument f
    have hinsertion := Document.nullable?_getD Insertion.toDocument_ne_null fun i hi =>
      insertionOfDocument?_toDocument f fun s hs => ihi i hi s hs (hsource i hi s hs)
    have hupdate := Document.nullable?_getD Update.toDocument_ne_null
      fun u (_ : u ∈ q.update) => u.ofDocument?_toDocument f
    rw [List.map_id'] at htables
    rw [toDocument_eq, ofDepth?, reread_eq]
    -- one step for each clause, in the order in which they are read
    refine Option.bind_eq_some_iff.mpr ⟨_, rfl, ?_⟩
    refine Document.defaulted?_bind rfl (q.kind.oneOf?_name f) ?_
    refine Document.defaulted?_bind rfl rfl ?_
    refine Document.defaulted?_bind rfl hselect ?_
    refine Document.defaulted?_bind rfl htables ?_
    refine Document.defaulted?_bind rfl hjoins ?_
    refine Document.defaulted?_bind rfl (exprs?_exprsDocument f q.conditions) ?_
    refine Document.defaulted?_bind rfl (exprs?_exprsDocument f q.groups) ?_
    refine Document.defaulted?_bind rfl (exprs?_exprsDocument f q.having) ?_
    refine Document.defaulted?_bind rfl horder ?_
    refine Document.optional?_bind rfl (nullable?_countDocument q.limit) ?_
    refine Document.optional?_bind rfl (nullable?_countDocument q.offset) ?_
    refine Document.defaulted?_bind rfl hbranches ?_
    refine Document.optional?_bind rfl hepilog ?_
    refine Document.optional?_bind rfl hinsertion ?_
    refine Document.optional?_bind rfl hupdate ?_
    refine Document.defaulted?_bind rfl rfl ?_
    rfl

theorem ofDocument?_toDocument (q : Query) : ofDocument? f q.toDocument = some q.reread :=
  q.ofDepth?_toDocument f (Nat.le_refl _)

end Query

/-! ## What comes back as it was -/

theorem Value.reread_eq_self_iff {v : Value} (h : ∀ x, v = float x → x.isFinite = true) :
    v.reread = v ↔ ∀ s, v = text s → readMoment? s.toList = none ∧ readDate? s.toList = none := by
  cases v with
  | float x => simp [reread, h x rfl]
  | text s => simp [reread_text_eq_self_iff]
  | _ => simp [reread]

/-- A query with finite numbers and without closing texts is written and read back, and what comes
back is the query exactly if none of its texts reads as a moment or a date. -/
theorem Query.readsBack_iff (q : Query) (hfinite : ∀ x, .float x ∈ q.values → x.isFinite = true)
    (hclosings : q.withoutClosings = q) :
    ∃ q', Query.ofDocument? .json q.toDocument = some q' ∧
      (q' = q ↔ ∀ s, .text s ∈ q.values →
        readMoment? s.toList = none ∧ readDate? s.toList = none) := by
  refine ⟨q.reread, q.ofDocument?_toDocument .json, ?_⟩
  rw [reread, hclosings, mapValues_eq_self_iff]
  have hvalue : ∀ v ∈ q.values, v.reread = v ↔
      ∀ s, v = .text s → readMoment? s.toList = none ∧ readDate? s.toList = none :=
    fun v hv => Value.reread_eq_self_iff fun x hx => hfinite x (hx ▸ hv)
  constructor
  · intro h s hs
    exact (hvalue _ hs).mp (h _ hs) s rfl
  · intro h v hv
    exact (hvalue v hv).mpr fun s hs => h s (hs ▸ hv)

/-- What costs more than a number on a day. -/
def Query.dearOn (day : String) : Query :=
  (((selecting ["a"]).readFrom "t").filter (.filter "price" .gt (.float ⟨0x4004000000000000⟩))).filter
    (.filter "day" .eq (.text day))

/-- The last day of February reads as a date in a leap year only. -/
theorem Query.readsBack_iff_lastOfFebruary :
    Query.ofDocument? .json (Query.dearOn "2023-02-29").toDocument
        = some (Query.dearOn "2023-02-29") ∧
      ∃ q', Query.ofDocument? .json (Query.dearOn "2024-02-29").toDocument = some q' ∧
        q' ≠ Query.dearOn "2024-02-29" := by
  have hvalues (day : String) : (dearOn day).values = [.float ⟨0x4004000000000000⟩, .text day] := rfl
  have hfinite (day : String) : ∀ x, .float x ∈ (dearOn day).values → x.isFinite = true := by
    intro x hx
    obtain rfl : x = ⟨0x4004000000000000⟩ := by simpa [hvalues] using hx
    decide
  obtain ⟨p, hp, hkept⟩ := Query.readsBack_iff (dearOn "2023-02-29") (hfinite _) rfl
  obtain ⟨q, hq, hlost⟩ := Query.readsBack_iff (dearOn "2024-02-29") (hfinite _) rfl
  constructor
  · rw [hp, hkept.mpr]
    intro s hs
    obtain rfl : s = "2023-02-29" := by simpa [hvalues] using hs
    decide
  · refine ⟨q, hq, fun hsame => ?_⟩
    have h := (hlost.mp hsame "2024-02-29" (by simp [hvalues])).2
    revert h
    decide

end RownumSql
