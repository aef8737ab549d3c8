import RownumSql.Proofs.ServedRows

/-!
# Cursors that hold rows and cursors that do not

A cursor may read all rows of a run into memory or ask the client for them one by one.  A caller
cannot tell the difference: over a client that does not fail (`Plays`), both answer any requests as
a plain reading does, which has the rows of the last run that are still to come and nothing else.

    c.answers requests  gives  (log results requests reading).map c.reply

The log also says which rows the requests hand out: between two runs those of the first of them,
in the order of the client and each at most once, and none after the statement was closed
(`inOrder_splitOnP`).
-/

namespace RownumSql.Cursor

/-! ## Requests -/

/-- What a caller asks of a cursor; rows by field come under the names of the table at that time. -/
inductive Request where
  | execute
  | fetchRow (aliases : AliasTable)
  | fetchValues
  | fetchAll (aliases : AliasTable)
  | close
  | rowCount
deriving DecidableEq

/-- What a cursor answers. -/
inductive Answer where
  | done (r : Except SqlError Unit)
  | row (r : Except SqlError (Option Row))
  | values (r : Except SqlError (Option (List Value)))
  | rows (r : Except SqlError (List Row))
  | count (n : Nat)
deriving DecidableEq

section requests
variable {m : Type → Type} [Monad m] {T : Type} [NativeStatement m T]

def answer (c : Cursor T) : Request → m (Answer × Cursor T)
  | .execute => do
    let (r, c) ← c.execute
    pure (.done r, c)
  | .fetchRow aliases => do
    let (r, c) ← c.fetchRow aliases
    pure (.row r, c)
  | .fetchValues => do
    let (r, c) ← c.fetchValues
    pure (.values r, c)
  | .fetchAll aliases => do
    let (r, c) ← c.fetchAll aliases
    pure (.rows r, c)
  | .close => do
    let (r, c) ← c.close
    pure (.done r, c)
  | .rowCount => pure (.count c.rowCount, c)

/-- The answers to requests one after another. -/
def answers : List Request → Cursor T → m (List Answer)
  | [], _ => pure []
  | request :: rest, c => do
    let (first, c) ← c.answer request
    let others ← answers rest c
    pure (first :: others)

end requests

/-! ## Plain readings -/

/-- How far the rows of a statement have been read. -/
structure Reading where
  /-- How often the statement was run. -/
  runs : Nat
  /-- The rows of the last run that are still to come. -/
  left : List Row
  /-- The number of rows of the last run. -/
  count : Nat

/-- The rows that a request hands out, of those that are left. -/
def Request.takes : Request → List Row → List Row
  | fetchRow _, left => left.take 1
  | fetchValues, left => left.take 1
  | fetchAll _, left => left
  | _, _ => []

/-- A reading after a request; `results n` are the rows of the run with the number `n`. -/
def Reading.after (results : Nat → List Row) (r : Reading) : Request → Reading
  | .execute => ⟨r.runs + 1, results r.runs, (results r.runs).length⟩
  | .close => { r with left := [] }
  | request => { r with left := r.left.drop (request.takes r.left).length }

/-- A request with the rows that it hands out, and the number of rows of the last run. -/
structure Entry where
  request : Request
  rows : List Row
  count : Nat

/-- The log of a reading. -/
def log (results : Nat → List Row) : List Request → Reading → List Entry
  | [], _ => []
  | request :: rest, r =>
    ⟨request, request.takes r.left, r.count⟩ :: log results rest (r.after results request)

/-- The answer that presents what was handed out as the cursor presents rows. -/
def reply {T : Type} (c : Cursor T) (e : Entry) : Answer :=
  match e.request with
  | .execute => .done (.ok ())
  | .fetchRow aliases => .row (.ok (e.rows.head?.map (c.presentRow aliases)))
  | .fetchValues => .values (.ok (e.rows.head?.map c.presentValues))
  | .fetchAll aliases => .rows (.ok (e.rows.map (c.presentRow aliases)))
  | .close => .done (.ok ())
  | .rowCount => .count e.count

/-! ## Rows of one run -/

/-- Whether a request starts a new run. -/
def Entry.isExecute (e : Entry) : Bool := e.request = .execute

/-- The rows that are handed out are the first of the given rows, in order; behind a request that
closes the statement there are none. -/
structure InOrder (rows : List Row) (entries : List Entry) : Prop where
  isPrefix : entries.flatMap Entry.rows <+: rows
  closed : ∀ before e after, entries = before ++ e :: after → e.request = .close →
    after.flatMap Entry.rows = []

theorem InOrder.nil (rows : List Row) : InOrder rows [] where
  isPrefix := List.nil_prefix
  closed before e after h := by simp at h

theorem Request.takes_isPrefix (request : Request) (left : List Row) :
    request.takes left <+: left := by
  cases request with
  | fetchRow aliases => exact List.take_prefix 1 left
  | fetchValues => exact List.take_prefix 1 left
  | fetchAll aliases => exact List.prefix_refl left
  | _ => exact List.nil_prefix

/-- What a request hands out stands in front of what it leaves. -/
theorem Reading.takes_append_after (results : Nat → List Row) (r : Reading) {request : Request}
    (h : request ≠ .execute) :
    request.takes r.left ++ (r.after results request).left <+: r.left := by
  have hrest {taken : List Row} (htaken : taken <+: r.left) :
      taken ++ r.left.drop taken.length <+: r.left := by
    refine ⟨[], ?_⟩
    rw [List.append_nil, List.prefix_iff_eq_append.mp htaken]
  cases request with
  | execute => exact absurd rfl h
  | close => exact List.nil_prefix
  | _ => exact hrest (Request.takes_isPrefix _ r.left)

/-- A request that starts no run keeps the order. -/
theorem InOrder.cons {results : Nat → List Row} {r : Reading} {request : Request}
    {entries : List Entry} (hrequest : request ≠ .execute) (count : Nat)
    (h : InOrder (r.after results request).left entries) :
    InOrder r.left (⟨request, request.takes r.left, count⟩ :: entries) where
  isPrefix := by
    rw [List.flatMap_cons]
    exact ((List.prefix_append_right_inj _).mpr h.isPrefix).trans
      (r.takes_append_after results hrequest)
  closed := by
    intro before e after hsplit hclose
    cases before with
    | nil =>
      obtain ⟨rfl, rfl⟩ := List.cons.inj hsplit
      have hclose : request = .close := hclose
      subst hclose
      exact List.prefix_nil.mp h.isPrefix
    | cons first before => exact h.closed before e after (List.cons.inj hsplit).2 hclose

/-- Between two runs the rows of the first of them are handed out. -/
theorem inOrder_splitOnP (results : Nat → List Row) (requests : List Request) (r : Reading) :
    ∃ first others, (log results requests r).splitOnP Entry.isExecute = first :: others ∧
      InOrder r.left first ∧
      ∀ (n : Nat) (h : n < others.length), InOrder (results (r.runs + n)) others[n] := by
  induction requests generalizing r with
  | nil => exact ⟨[], [], rfl, .nil r.left, fun n h => absurd h (Nat.not_lt_zero n)⟩
  | cons request rest ih =>
    obtain ⟨first, others, hsplit, hfirst, hothers⟩ := ih (r.after results request)
    rw [log, List.splitOnP_cons_eq_if_modifyHead, hsplit]
    by_cases hrequest : request = .execute
    · subst hrequest
      refine ⟨[], first :: others, rfl, .nil r.left, ?_⟩
      intro n h
      cases n with
      | zero => exact hfirst
      | succ n =>
        have hn := hothers n (Nat.lt_of_succ_lt_succ h)
        have hruns : (r.after results .execute).runs + n = r.runs + (n + 1) := by
          show r.runs + 1 + n = _
          omega
        rw [hruns] at hn
        exact hn
    · have hfalse : Entry.isExecute ⟨request, request.takes r.left, r.count⟩ = false :=
        decide_eq_false hrequest
      have hruns : (r.after results request).runs = r.runs := by
        cases request with
        | execute => exact absurd rfl hrequest
        | _ => rfl
      rw [hruns] at hothers
      rw [hfalse, if_neg Bool.false_ne_true]
      exact ⟨_, others, rfl, hfirst.cons hrequest r.count, hothers⟩

/-! ## Clients that do not fail -/

section client
variable {m : Type → Type} {ps : Std.Do.PostShape} [Monad m] [Std.Do.WPMonad m ps] {T : Type}
  [NativeStatement m T]

/-- The statements of a client do not fail.  `holds n left native` tells that a statement was run
`n` times and still has the rows `left`; running it makes these the rows of its next result, and
their number the number of rows that it touched. -/
structure Plays (results : Nat → List Row) (holds : Nat → List Row → T → Prop) : Prop where
  execute {n : Nat} {left : List Row} {native : T} : holds n left native →
    Returns (NativeStatement.execute native) fun a => a.1 = .ok () ∧
      holds (n + 1) (results n) a.2 ∧ NativeStatement.rowCount a.2 = (results n).length
  fetch {n : Nat} {left : List Row} {native : T} : holds n left native →
    Returns (NativeStatement.fetch native) fun a => a.1 = .ok left.head? ∧ holds n left.tail a.2
  close {n : Nat} {left : List Row} {native : T} : holds n left native →
    Returns (NativeStatement.closeCursor native) fun a => a.1 = .ok () ∧ holds n [] a.2
  unread {n : Nat} {left : List Row} {native : T} : holds n left native →
    left.length ≤ NativeStatement.unread native

/-- The cursor has read as far as the reading: the rows that are left are those in memory, or those
of the client if there are none in memory. -/
structure Reads (holds : Nat → List Row → T → Prop) (c : Cursor T) (r : Reading) : Prop where
  count : c.rowCount = r.count
  left : ∃ rest, holds r.runs rest c.native ∧ r.left = c.held.getD rest

variable {results : Nat → List Row} {holds : Nat → List Row → T → Prop}

theorem Plays.returns_drain (h : Plays results holds) {k : Nat} {rows : List Row} {native : T}
    {n : Nat} (hn : rows.length < n) (hnative : holds k rows native) :
    Returns (drain n native) fun a => a.1 = .ok rows ∧ holds k [] a.2 := by
  induction rows generalizing native n with
  | nil =>
    obtain ⟨n, rfl⟩ := Nat.exists_eq_add_one.mpr hn
    apply Returns.bind (h.fetch hnative)
    rintro ⟨a, native'⟩ ⟨rfl, hnative'⟩
    exact .pure ⟨rfl, hnative'⟩
  | cons row rest ih =>
    obtain ⟨n, rfl⟩ := Nat.exists_eq_add_one.mpr (Nat.zero_lt_of_lt hn)
    apply Returns.bind (h.fetch hnative)
    rintro ⟨a, native'⟩ ⟨rfl, hnative'⟩
    apply Returns.bind (ih (Nat.lt_of_succ_lt_succ hn) hnative')
    rintro ⟨rows, native''⟩ ⟨rfl, hnative''⟩
    exact .pure ⟨rfl, hnative''⟩

/-! ## One request -/

variable {c : Cursor T} {r : Reading}

theorem Plays.returns_execute (h : Plays results holds) (hc : Reads holds c r) :
    Returns c.execute fun a => a.1 = .ok () ∧ Reads holds a.2 (r.after results .execute) ∧
      a.2.dropsRowNumber = c.dropsRowNumber := by
  obtain ⟨rest, hnative, -⟩ := hc.left
  apply Returns.bind (h.execute hnative)
  rintro ⟨a, native⟩ ⟨rfl, hnative', hcount⟩
  dsimp only
  by_cases hbuffers : c.buffers
  · -- all rows are in memory now, and none are left with the client
    have hlength := Nat.lt_succ_of_le (h.unread hnative')
    rw [if_pos hbuffers]
    apply Returns.bind (h.returns_drain hlength hnative')
    rintro ⟨a, native'⟩ ⟨rfl, hempty⟩
    exact .pure ⟨rfl, ⟨rfl, [], hempty, rfl⟩, rfl⟩
  · rw [if_neg hbuffers]
    exact .pure ⟨rfl, ⟨hcount, _, hnative', rfl⟩, rfl⟩

theorem Plays.returns_nextRow (h : Plays results holds) (hc : Reads holds c r) :
    Returns c.nextRow fun a => a.1 = .ok r.left.head? ∧
      Reads holds a.2 { r with left := r.left.tail } ∧ a.2.dropsRowNumber = c.dropsRowNumber := by
  obtain ⟨rest, hnative, hleft⟩ := hc.left
  rw [hleft]
  unfold nextRow
  cases hheld : c.held with
  | some rows =>
    cases rows with
    | nil => exact .pure ⟨rfl, ⟨hc.count, rest, hnative, by rw [hheld]; rfl⟩, rfl⟩
    | cons row rows => exact .pure ⟨rfl, ⟨hc.count, rest, hnative, rfl⟩, rfl⟩
  | none =>
    apply Returns.bind (h.fetch hnative)
    rintro ⟨a, native⟩ ⟨rfl, hnative'⟩
    exact .pure ⟨rfl, ⟨hc.count, rest.tail, hnative', rfl⟩, rfl⟩

theorem Plays.returns_close (h : Plays results holds) (hc : Reads holds c r) :
    Returns c.close fun a => a.1 = .ok () ∧ Reads holds a.2 { r with left := [] } ∧
      a.2.dropsRowNumber = c.dropsRowNumber := by
  obtain ⟨rest, hnative, -⟩ := hc.left
  apply Returns.bind (h.close hnative)
  rintro ⟨a, native⟩ ⟨rfl, hempty⟩
  exact .pure ⟨rfl, ⟨hc.count, [], hempty, rfl⟩, rfl⟩

theorem Plays.returns_fetchRow (h : Plays results holds) (hc : Reads holds c r)
    (aliases : AliasTable) :
    Returns (c.fetchRow aliases) fun a => a.1 = .ok (r.left.head?.map (c.presentRow aliases)) ∧
      Reads holds a.2 { r with left := r.left.tail } ∧ a.2.dropsRowNumber = c.dropsRowNumber := by
  apply Returns.bind (h.returns_nextRow hc)
  rintro ⟨a, c'⟩ ⟨rfl, hc', hdrops⟩
  have hdrops : c'.dropsRowNumber = c.dropsRowNumber := hdrops
  refine .pure ⟨?_, hc', hdrops⟩
  show Except.ok _ = Except.ok _
  rw [presentRow_congr hdrops]

theorem Plays.returns_fetchValues (h : Plays results holds) (hc : Reads holds c r) :
    Returns c.fetchValues fun a => a.1 = .ok (r.left.head?.map c.presentValues) ∧
      Reads holds a.2 { r with left := r.left.tail } ∧ a.2.dropsRowNumber = c.dropsRowNumber := by
  apply Returns.bind (h.returns_nextRow hc)
  rintro ⟨a, c'⟩ ⟨rfl, hc', hdrops⟩
  have hdrops : c'.dropsRowNumber = c.dropsRowNumber := hdrops
  refine .pure ⟨?_, hc', hdrops⟩
  show Except.ok _ = Except.ok _
  rw [presentValues_congr hdrops]

theorem Plays.returns_fetchRows (h : Plays results holds) (hc : Reads holds c r)
    (aliases : AliasTable) {n : Nat} (hn : r.left.length < n) :
    Returns (fetchRows aliases n c) fun a => a.1 = .ok (r.left.map (c.presentRow aliases)) ∧
      Reads holds a.2 { r with left := [] } ∧ a.2.dropsRowNumber = c.dropsRowNumber := by
  generalize hrows : r.left = rows at hn ⊢
  induction rows generalizing c r n with
  | nil =>
    obtain ⟨n, rfl⟩ := Nat.exists_eq_add_one.mpr hn
    apply Returns.bind (h.returns_fetchRow hc aliases)
    rw [hrows]
    rintro ⟨a, c'⟩ ⟨rfl, hc', hdrops⟩
    exact .pure ⟨rfl, hc', hdrops⟩
  | cons row rest ih =>
    obtain ⟨n, rfl⟩ := Nat.exists_eq_add_one.mpr (Nat.zero_lt_of_lt hn)
    apply Returns.bind (h.returns_fetchRow hc aliases)
    rw [hrows]
    rintro ⟨a, c'⟩ ⟨rfl, hc', hdrops⟩
    apply Returns.bind (ih hc' rfl (Nat.lt_of_succ_lt_succ hn))
    rintro ⟨a, c''⟩ ⟨rfl, hc'', hdrops'⟩
    rw [presentRow_congr hdrops]
    exact .pure ⟨rfl, hc'', hdrops'.trans hdrops⟩

theorem Plays.length_left_le (h : Plays results holds) (hc : Reads holds c r) :
    r.left.length ≤ c.unread := by
  obtain ⟨rest, hnative, hleft⟩ := hc.left
  rw [hleft]
  unfold Cursor.unread
  cases c.held with
  | some rows => exact Nat.le_refl _
  | none => exact h.unread hnative

/-- One request is answered as the reading answers it, whether the cursor holds rows or not. -/
theorem Plays.returns_answer (h : Plays results holds) (hc : Reads holds c r) (request : Request) :
    Returns (c.answer request) fun a =>
      a.1 = c.reply ⟨request, request.takes r.left, r.count⟩ ∧
      Reads holds a.2 (r.after results request) ∧ a.2.dropsRowNumber = c.dropsRowNumber := by
  -- taking a single row off
  have hhead : (r.left.take 1).head? = r.left.head? := by cases r.left <;> rfl
  have htail : r.left.drop (r.left.take 1).length = r.left.tail := by cases r.left <;> rfl
  cases request with
  | execute =>
    apply Returns.bind (h.returns_execute hc)
    rintro ⟨a, c'⟩ ⟨rfl, hc', hdrops⟩
    exact .pure ⟨rfl, hc', hdrops⟩
  | fetchRow aliases =>
    apply Returns.bind (h.returns_fetchRow hc aliases)
    rintro ⟨a, c'⟩ ⟨rfl, hc', hdrops⟩
    refine .pure ⟨?_, ?_, hdrops⟩
    · simp only [reply, Request.takes, hhead]
    · simpa only [Reading.after, Request.takes, htail] using hc'
  | fetchValues =>
    apply Returns.bind (h.returns_fetchValues hc)
    rintro ⟨a, c'⟩ ⟨rfl, hc', hdrops⟩
    refine .pure ⟨?_, ?_, hdrops⟩
    · simp only [reply, Request.takes, hhead]
    · simpa only [Reading.after, Request.takes, htail] using hc'
  | fetchAll aliases =>
    have hlength := Nat.lt_succ_of_le (h.length_left_le hc)
    apply Returns.bind (h.returns_fetchRows hc aliases hlength)
    rintro ⟨a, c'⟩ ⟨rfl, hc', hdrops⟩
    refine .pure ⟨rfl, ?_, hdrops⟩
    simpa only [Reading.after, Request.takes, List.drop_length] using hc'
  | close =>
    apply Returns.bind (h.returns_close hc)
    rintro ⟨a, c'⟩ ⟨rfl, hc', hdrops⟩
    exact .pure ⟨rfl, hc', hdrops⟩
  | rowCount =>
    refine .pure ⟨?_, hc, rfl⟩
    simp only [reply, hc.count]

/-! ## Any requests -/

theorem reply_congr {T' : Type} {c : Cursor T} {c' : Cursor T'}
    (h : c'.dropsRowNumber = c.dropsRowNumber) : c'.reply = c.reply := by
  funext e
  unfold reply presentRow presentValues
  rw [h]

theorem Plays.returns_answers (h : Plays results holds) (hc : Reads holds c r)
    (requests : List Request) :
    Returns (c.answers requests) fun as => as = (log results requests r).map c.reply := by
  induction requests generalizing c r with
  | nil => exact .pure rfl
  | cons request rest ih =>
    apply Returns.bind (h.returns_answer hc request)
    rintro ⟨a, c'⟩ ⟨rfl, hc', hdrops⟩
    apply Returns.bind (ih hc')
    rintro as rfl
    rw [reply_congr hdrops]
    exact .pure rfl

/-- **Holding rows cannot be seen.**  A cursor over a client that does not fail answers any requests
as the reading does, whether it holds rows or not.  From one run to the next the rows of the run are
handed out in order, each at most once, and none after the statement was closed. -/
theorem answers_eq_of_plays (h : Plays results holds) {n : Nat} {left : List Row}
    (hnative : holds n left c.native) (requests : List Request) :
    let entries := log results requests ⟨n, c.held.getD left, c.rowCount⟩
    (∀ mode, Returns ({ c with buffers := mode }.answers requests) fun as =>
      as = entries.map c.reply) ∧
    ∃ first others, entries.splitOnP Entry.isExecute = first :: others ∧
      InOrder (c.held.getD left) first ∧
      ∀ (k : Nat) (hk : k < others.length), InOrder (results (n + k)) others[k] := by
  intro entries
  constructor
  · intro mode
    have hreads : Reads holds { c with buffers := mode } ⟨n, c.held.getD left, c.rowCount⟩ :=
      ⟨rfl, left, hnative, rfl⟩
    exact h.returns_answers hreads requests
  · exact inOrder_splitOnP results requests ⟨n, c.held.getD left, c.rowCount⟩

end client

/-! ## A client that plays results -/

/-- A client that has the rows of every run before it starts. -/
structure Replay where
  results : Nat → List Row
  runs : Nat := 0
  left : List Row := []
  count : Nat := 0

instance : NativeStatement Id Replay where
  bindValue native _ _ := (.ok (), native)
  execute native :=
    (.ok (), { native with
      runs := native.runs + 1
      left := native.results native.runs
      count := (native.results native.runs).length })
  fetch native := (.ok native.left.head?, { native with left := native.left.tail })
  rowCount native := native.count
  closeCursor native := (.ok (), { native with left := [] })
  unread native := native.left.length

/-- The client plays the results that it was given. -/
theorem plays_replay (results : Nat → List Row) :
    Plays results fun n left (native : Replay) =>
      native.results = results ∧ native.runs = n ∧ native.left = left where
  execute := by
    rintro n left native ⟨rfl, rfl, rfl⟩
    exact .pure ⟨rfl, ⟨rfl, rfl, rfl⟩, rfl⟩
  fetch := by
    rintro n left native ⟨rfl, rfl, rfl⟩
    exact .pure ⟨rfl, rfl, rfl, rfl⟩
  close := by
    rintro n left native ⟨rfl, rfl, rfl⟩
    exact .pure ⟨rfl, rfl, rfl, rfl⟩
  unread := by
    rintro n left native ⟨rfl, rfl, rfl⟩
    exact Nat.le_refl _

/-- Two runs of a statement whose rows differ. -/
def replayed : Nat → List Row
  | 0 => [.ofList [("ID", .int 1), ("QAIL_RNUM", .int 6)],
      .ofList [("ID", .int 2), ("QAIL_RNUM", .int 7)]]
  | 1 => [.ofList [("ID", .int 3), ("qail_rnum", .int 6)]]
  | _ => []

/-- Requests that read a statement before, between and after its runs. -/
def replayRequests : List Request :=
  [.fetchValues, .execute, .fetchRow {}, .execute, .rowCount, .fetchValues, .fetchAll {}, .execute,
   .execute, .close, .fetchAll {}]

theorem answers_eq_of_plays_replayed :
    let c : Cursor Replay := { native := ⟨replayed, 0, [], 0⟩, sql := "", dropsRowNumber := true }
    (∀ mode, Returns ({ c with buffers := mode }.answers replayRequests) fun as => as =
      [.values (.ok none), .done (.ok ()), .row (.ok (some (.ofList [("ID", .int 1)]))),
       .done (.ok ()), .count 1, .values (.ok (some [.int 3])), .rows (.ok []), .done (.ok ()),
       .done (.ok ()), .done (.ok ()), .rows (.ok [])]) ∧
    ∃ first others, (log replayed replayRequests ⟨0, [], 0⟩).splitOnP Entry.isExecute
        = first :: others ∧
      InOrder [] first ∧ ∀ k (hk : k < others.length), InOrder (replayed (0 + k)) others[k] := by
  intro c
  have hstart : c.native.results = replayed ∧ c.native.runs = 0 ∧ c.native.left = [] :=
    ⟨rfl, rfl, rfl⟩
  obtain ⟨hanswers, hsegments⟩ :=
    answers_eq_of_plays (plays_replay replayed) hstart replayRequests
  refine ⟨fun mode => (hanswers mode).mono ?_, hsegments⟩
  rintro as rfl
  decide +kernel

end RownumSql.Cursor
