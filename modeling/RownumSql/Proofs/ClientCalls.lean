import RownumSql.Client.Scripted
import RownumSql.Session

/-!
# Calls of a client

What a step asks of its client, read off the log of a scripted client.  To prepare a query a session
asks for the statement, and from then on only for values to be bound.

    the log of s.prepare q  =  the log before, .prepare sql, calls that bind       (opens_prepare)
-/

namespace RownumSql

namespace Scripted

/-- All that the step asks of the client is of the given kind. -/
def Asks {α : Type} (kind : Call → Prop) (step : Logged α) : Prop :=
  ∀ log, ∃ calls, (step.run log).2 = log ++ calls ∧ ∀ call ∈ calls, kind call

namespace Asks
variable {α β : Type} {kind : Call → Prop}

theorem pure (x : α) : Asks kind (pure x) :=
  fun log => ⟨[], (List.append_nil log).symm, fun _ h => nomatch h⟩

theorem note {call : Call} (h : kind call) : Asks kind (note call) :=
  fun _ => ⟨[call], rfl, List.forall_mem_singleton.mpr h⟩

theorem bind {step : Logged α} {next : α → Logged β} (h : Asks kind step)
    (hn : ∀ x, Asks kind (next x)) : Asks kind (step >>= next) := by
  intro log
  obtain ⟨calls, hlog, hcalls⟩ := h log
  obtain ⟨more, hlog', hmore⟩ := hn (step.run log).1 (log ++ calls)
  refine ⟨calls ++ more, ?_, List.forall_mem_append.mpr ⟨hcalls, hmore⟩⟩
  show ((next (step.run log).1).run (step.run log).2).2 = _
  rw [hlog, hlog', List.append_assoc]

end Asks

/-- The step begins with the call, and all else that it asks of the client is of the given kind. -/
def Opens {α : Type} (first : Call) (kind : Call → Prop) (step : Logged α) : Prop :=
  ∀ log, ∃ calls, (step.run log).2 = log ++ first :: calls ∧ ∀ call ∈ calls, kind call

theorem Opens.bind {α β : Type} {first : Call} {kind : Call → Prop} {step : Logged α}
    {next : α → Logged β} (h : Opens first kind step) (hn : ∀ x, Asks kind (next x)) :
    Opens first kind (step >>= next) := by
  intro log
  obtain ⟨calls, hlog, hcalls⟩ := h log
  obtain ⟨more, hlog', hmore⟩ := hn (step.run log).1 (log ++ first :: calls)
  refine ⟨calls ++ more, ?_, List.forall_mem_append.mpr ⟨hcalls, hmore⟩⟩
  show ((next (step.run log).1).run (step.run log).2).2 = _
  rw [hlog, hlog', List.append_assoc, List.cons_append]

theorem opens_prepare (script : Script) (sql : String) (kind : Call → Prop) :
    Opens (.prepare sql) kind (NativeConnection.prepare script sql : Logged _) :=
  fun _ => ⟨[], rfl, fun _ h => nomatch h⟩

/-- The call binds a value. -/
def Call.Binds (call : Call) : Prop := ∃ key v, call = .bind key v

theorem asks_bindValue (s : Statement) (key : BindKey) (v : Value) :
    Asks Call.Binds (NativeStatement.bindValue s key v : Logged _) := by
  refine Asks.bind (.note ⟨key, v, rfl⟩) fun _ => ?_
  split
  · exact .pure _
  · exact .pure _

end Scripted

open Scripted (Asks Script)

theorem Cursor.asks_bindAll (bs : List Binding) (c : Cursor Scripted.Statement) :
    Asks Scripted.Call.Binds (c.bindAll bs) := by
  induction bs generalizing c with
  | nil => exact .pure _
  | cons b rest ih =>
    refine Asks.bind ((Scripted.asks_bindValue c.native b.key b.value).bind fun _ => .pure _) ?_
    rintro ⟨r, c⟩
    cases r with
    | error e => exact .pure _
    | ok => exact ih c

/-- What a session asks of its client to prepare a query: the SQL, and then the values. -/
theorem Session.opens_prepare (s : Session Script) (q : Query) {c : CompiledQuery}
    (h : (s.dialect.compile s.aliases q).result = .ok c) :
    Scripted.Opens (.prepare (Dialect.addDual c.sql)) Scripted.Call.Binds (s.prepare q) := by
  unfold prepare
  simp only [h]
  refine Scripted.Opens.bind ((Scripted.opens_prepare _ _ _).bind fun _ => .pure _) ?_
  intro r
  cases r with
  | error e => exact .pure _
  | ok cursor => exact (cursor.asks_bindAll c.bindings).bind fun _ => .pure _

end RownumSql
