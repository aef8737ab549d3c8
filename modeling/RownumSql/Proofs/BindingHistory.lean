import Mathlib.Data.List.DropRight
import RownumSql.Proofs.NumberedItems
import RownumSql.Proofs.SharedBindings

/-!
# Bindings as an environment

Bindings are made in two ways: a placeholder gets a new key, and a value bound under a name takes
the place of the one that is there.  As long as names begin with `QAIL_`, as those of windows do,
they are never those of placeholders, so that the list is an environment after any calls.

    since the last reset, placeholder `i` is `:ci` and keeps its value       (Environment.placed)
    a name has the value that was bound last                                 (Environment.bound)
    the keys stand in the order in which they came in, each once             (Environment.order)
-/

namespace RownumSql

open Bindings (value? put putAll placeholderName)

/-! ## Calls and what they give -/

/-- What can be asked of bindings. -/
inductive BindingCall where
  | place (v : Value)
  | bind (name : String) (v : Value)
  | reset
deriving DecidableEq

/-- A key of a fixed name: one that begins with `QAIL_`. -/
def BindKey.IsFixed (k : BindKey) : Prop := ∃ rest, k = .named ("QAIL_" ++ rest)

namespace BindingCall

/-- Whether the call asks for a placeholder. -/
def isPlace : BindingCall → Bool
  | place _ => true
  | _ => false

/-- A call binds under fixed names only. -/
def BindsFixed (c : BindingCall) : Prop := ∀ name v, c = bind name v → (BindKey.ofName name).IsFixed

end BindingCall

/-- A call with the placeholder that it gave, if it was asked for one. -/
structure BindingEvent where
  call : BindingCall
  answer : Option String
deriving DecidableEq

namespace BindingEvent

/-- The events since the last reset. -/
def sinceReset (events : List BindingEvent) : List BindingEvent :=
  events.rtakeWhile fun e => e.call ≠ .reset

/-- The number of placeholders that were asked for. -/
def places (events : List BindingEvent) : Nat := events.countP fun e => e.call.isPlace

/-- What an event binds; a placeholder is bound under its own name. -/
def binding? : BindingEvent → Option Binding
  | ⟨.place v, some placeholder⟩ => some ⟨.ofName placeholder, v⟩
  | ⟨.bind name v, _⟩ => some ⟨.ofName name, v⟩
  | _ => none

/-- What events bind, one after another. -/
def bindings (events : List BindingEvent) : List Binding := events.filterMap binding?

end BindingEvent

open BindingEvent (sinceReset places bindings)

namespace Bindings

/-- One call. -/
def call : BindingCall → StateM Bindings (Option String)
  | .place v => do
    let placeholder ← place v
    pure (some placeholder)
  | .bind name v => do
    modify (bind name v)
    pure none
  | .reset => do
    set ({} : Bindings)
    pure none

/-- Calls one after another. -/
def history (calls : List BindingCall) : StateM Bindings (List BindingEvent) :=
  calls.mapM fun c => do
    let answer ← call c
    pure ⟨c, answer⟩

/-- The entries are an environment for the events: every placeholder still has its value, every
name has the value of its last event, and the keys stand in the order of their first events. -/
structure Environment (events : List BindingEvent) (es : List Binding) : Prop where
  distinct : (es.map Binding.key).Nodup
  placed : ∀ before v answer after, events = before ++ ⟨.place v, answer⟩ :: after →
    answer = some (":" ++ placeholderName (places before)) ∧
      value? (.named (placeholderName (places before))) es = some v
  bound : ∀ before name v answer after, events = before ++ ⟨.bind name v, answer⟩ :: after →
    (∀ e ∈ after, ∀ other w, e.call = .bind other w → BindKey.ofName other ≠ .ofName name) →
      value? (.ofName name) es = some v
  order : es.map Binding.key = ((bindings events).map Binding.key).eraseDups

end Bindings

/-! ## Names of placeholders -/

theorem ofName_placeholder (n : Nat) :
    BindKey.ofName (":" ++ placeholderName n) = .named (placeholderName n) := by
  simp [BindKey.ofName, placeholderName, ← String.toList_inj]

theorem BindKey.IsFixed.ne_placeholder {k : BindKey} (h : k.IsFixed) (n : Nat) :
    k ≠ .named (placeholderName n) := by
  obtain ⟨rest, rfl⟩ := h
  simp [placeholderName, ← String.toList_inj]

/-- The names of windows are fixed. -/
theorem isFixed_windowNames (k : Nat) :
    (BindKey.ofName (windowNames k).offset).IsFixed ∧
      (BindKey.ofName (windowNames k).maxRow).IsFixed := by
  obtain ⟨hoffset, hmaxRow⟩ := Outline.ofName_windowNames k
  rw [hoffset, hmaxRow]
  constructor
  · refine ⟨"FETCH_OFFSET" ++ Slot.suffix k, congrArg BindKey.named ?_⟩
    rw [← String.append_assoc]
    exact Slot.name_skip k
  · refine ⟨"MAX_ROW_TO_FETCH" ++ Slot.suffix k, congrArg BindKey.named ?_⟩
    rw [← String.append_assoc]
    exact Slot.name_last k

/-! ## Placeholders in order -/

namespace BindingEvent

theorem places_append (events more : List BindingEvent) :
    places (events ++ more) = places events + places more :=
  List.countP_append

theorem places_place (v : Value) (answer : Option String) (events : List BindingEvent) :
    places (⟨.place v, answer⟩ :: events) = places events + 1 :=
  List.countP_cons_of_pos rfl

theorem bindings_append (events more : List BindingEvent) :
    bindings (events ++ more) = bindings events ++ bindings more :=
  List.filterMap_append

/-- The placeholders of the events are numbered through, and all other names are fixed. -/
structure Numbered (events : List BindingEvent) : Prop where
  placed : ∀ before v answer after, events = before ++ ⟨.place v, answer⟩ :: after →
    answer = some (":" ++ placeholderName (places before))
  fixed : ∀ e ∈ events, e.call.BindsFixed

theorem numbered_nil : Numbered [] where
  placed before v answer after h := by simp at h
  fixed _ h := nomatch h

namespace Numbered

theorem concat {events : List BindingEvent} (h : Numbered events) {e : BindingEvent}
    (hanswer : ∀ v, e.call = .place v → e.answer = some (":" ++ placeholderName (places events)))
    (hfixed : e.call.BindsFixed) : Numbered (events ++ [e]) where
  placed := by
    intro before v answer after heq
    rcases List.eq_nil_or_concat after with rfl | ⟨after, last, rfl⟩
    · obtain ⟨rfl, he⟩ := List.append_inj' heq rfl
      cases he
      exact hanswer v rfl
    · rw [List.concat_eq_append, ← List.cons_append, ← List.append_assoc] at heq
      exact h.placed before v answer after (List.append_inj' heq rfl).1
  fixed := by
    intro e' he'
    rcases List.mem_append.mp he' with he' | he'
    · exact h.fixed e' he'
    · rw [List.mem_singleton.mp he']
      exact hfixed

/-- What is bound behind some events is under a name of its own, or it is a placeholder with a
number that they had not reached. -/
theorem key_of_mem {before after : List BindingEvent} (h : Numbered (before ++ after))
    {key : BindKey} (hkey : key ∈ (bindings after).map Binding.key) :
    (∃ e ∈ after, ∃ name v, e.call = .bind name v ∧ key = .ofName name) ∨
      ∃ n, places before ≤ n ∧ n < places (before ++ after) ∧ key = .named (placeholderName n) := by
  obtain ⟨b, hb, rfl⟩ := List.mem_map.mp hkey
  obtain ⟨⟨c, answer⟩, he, hbinding⟩ := List.mem_filterMap.mp hb
  cases c with
  | reset => cases hbinding
  | bind name v =>
    cases hbinding
    exact .inl ⟨_, he, name, v, rfl, rfl⟩
  | place v =>
    obtain ⟨first, rest, rfl⟩ := List.append_of_mem he
    rw [← List.append_assoc] at h ⊢
    obtain rfl := h.placed (before ++ first) v answer rest rfl
    cases hbinding
    refine .inr ⟨places (before ++ first), ?_, ?_, ofName_placeholder _⟩
    · rw [places_append]
      exact Nat.le_add_right _ _
    · rw [places_append (before ++ first), places_place]
      omega

/-- A placeholder is bound once, where it is given out. -/
theorem placeholder_not_mem {before after : List BindingEvent} (h : Numbered (before ++ after))
    {n : Nat} (hn : n < places before ∨ places (before ++ after) ≤ n) :
    .named (placeholderName n) ∉ (bindings after).map Binding.key := by
  intro hkey
  rcases h.key_of_mem hkey with ⟨e, he, name, v, hcall, hname⟩ | ⟨m, hlow, hhigh, hm⟩
  · have hfixed := h.fixed e (List.mem_append_right before he) name v hcall
    exact hfixed.ne_placeholder n hname.symm
  · have hmn := Bindings.placeholderName_injective (BindKey.named.inj hm)
    omega

end Numbered

end BindingEvent

/-! ## Calls one after another -/

namespace Bindings
open BindingEvent

/-- What is put in for numbered events is an environment for them. -/
theorem environment_of_numbered {events : List BindingEvent} (h : Numbered events) :
    Environment events (putAll [] (bindings events)) where
  distinct := nodup_putAll List.nodup_nil
  placed := by
    rintro before v answer after rfl
    obtain rfl := h.placed before v answer after rfl
    refine ⟨rfl, ?_⟩
    rw [List.append_cons] at h
    have hlater : .named (placeholderName (places before)) ∉ (bindings after).map Binding.key := by
      refine h.placeholder_not_mem (.inl ?_)
      rw [places_append, places_place]
      omega
    have hbinding : bindings (⟨.place v, some (":" ++ placeholderName (places before))⟩ :: after)
        = ⟨.named (placeholderName (places before)), v⟩ :: bindings after := by
      rw [← ofName_placeholder]
      rfl
    rw [bindings_append, hbinding]
    exact value?_putAll_last (b := ⟨_, v⟩) hlater [] (bindings before)
  bound := by
    rintro before name v answer after rfl hlast
    have hfixed := h.fixed ⟨.bind name v, answer⟩ (by simp) name v rfl
    have hlater : BindKey.ofName name ∉ (bindings after).map Binding.key := by
      intro hkey
      rw [List.append_cons] at h
      rcases h.key_of_mem hkey with ⟨e, he, other, w, hcall, hname⟩ | ⟨n, -, -, hname⟩
      · exact hlast e he other w hcall hname.symm
      · exact hfixed.ne_placeholder n hname
    rw [bindings_append]
    exact value?_putAll_last (b := ⟨_, v⟩) hlater [] (bindings before)
  order := keys_putAll_nil (bindings events)

/-- The bindings are those that the events make from none. -/
structure Follows (events : List BindingEvent) (b : Bindings) : Prop where
  numbered : Numbered events
  entries : b.entries = putAll [] (bindings events)
  next : b.next = places events

theorem follows_nil : Follows [] {} := ⟨numbered_nil, rfl, rfl⟩

/-- One more call. -/
theorem Follows.call {events : List BindingEvent} {b : Bindings} (h : Follows events b)
    {c : BindingCall} (hfixed : c.BindsFixed) (hreset : c ≠ .reset) :
    Follows (events ++ [⟨c, ((call c).run b).1⟩]) ((call c).run b).2 := by
  cases c with
  | reset => exact absurd rfl hreset
  | bind name v =>
    refine ⟨h.numbered.concat ?_ hfixed, ?_, ?_⟩
    · rintro _ ⟨⟩
    · rw [bindings_append]
      show put (.ofName name) v b.entries = putAll [] (bindings events ++ [⟨.ofName name, v⟩])
      rw [putAll_concat, h.entries]
    · rw [places_append]
      exact h.next
  | place v =>
    have hanswer : ((Bindings.call (.place v)).run b).1
        = some (":" ++ placeholderName (places events)) := by
      rw [← h.next]
      rfl
    refine ⟨h.numbered.concat ?_ hfixed, ?_, ?_⟩
    · rintro _ -
      exact hanswer
    · -- the number is new, so that to append the value is to put it in
      have hnew : .named (placeholderName (places events)) ∉ b.entries.map Binding.key := by
        have hall : Numbered ([] ++ events) := h.numbered
        rw [h.entries, keys_putAll_nil, List.mem_eraseDups]
        exact hall.placeholder_not_mem (.inr (Nat.le_refl _))
      have hbinding : bindings [⟨.place v, some (":" ++ placeholderName (places events))⟩]
          = [⟨.named (placeholderName (places events)), v⟩] := by
        rw [← ofName_placeholder]
        rfl
      rw [hanswer, bindings_append, hbinding, putAll_concat, ← h.entries, put_of_not_mem hnew,
        ← h.next]
      rfl
    · rw [places_append, places_place]
      exact congrArg (· + 1) h.next

theorem history_concat (calls : List BindingCall) (c : BindingCall) (b : Bindings) :
    (history (calls ++ [c])).run b =
      let r := (history calls).run b
      (r.1 ++ [⟨c, ((call c).run r.2).1⟩], ((call c).run r.2).2) := by
  rw [history, List.mapM_append]
  rfl

theorem follows_history {calls : List BindingCall} (h : ∀ c ∈ calls, c.BindsFixed) :
    Follows (sinceReset ((history calls).run {}).1) ((history calls).run {}).2 := by
  induction calls using List.reverseRecOn with
  | nil => exact follows_nil
  | append_singleton calls c ih =>
    rw [List.forall_mem_append] at h
    have hfollows := ih h.1
    rw [history_concat, sinceReset, List.rtakeWhile_concat]
    by_cases hreset : c = .reset
    · rw [if_neg (by simpa using hreset), hreset]
      exact follows_nil
    · rw [if_pos (by simpa using hreset)]
      exact hfollows.call (h.2 c (List.mem_singleton_self c)) hreset

/-- **Bindings are a faithful environment.**  Whatever was asked of them, as long as values are
bound by name under fixed names only: the keys are distinct and stand in the order in which they
were first bound since the last reset; from then on the placeholders are numbered from zero on and
keep their values, and each name has the value that was bound last. -/
theorem environment_sinceReset (calls : List BindingCall)
    (hfixed : ∀ name v, .bind name v ∈ calls →
      ∃ rest, BindKey.ofName name = .named ("QAIL_" ++ rest)) :
    let r := (history calls).run {}
    Environment (sinceReset r.1) r.2.entries := by
  intro r
  have hcalls : ∀ c ∈ calls, c.BindsFixed := by
    rintro c hc name v rfl
    exact hfixed name v hc
  obtain ⟨hnumbered, hentries, -⟩ := follows_history hcalls
  rw [hentries]
  exact environment_of_numbered hnumbered

/-- Calls that bind windows behind a reset, the outermost one twice and once with a colon. -/
def windowsBehindReset : List BindingCall :=
  [.place (.int 1), .reset, .place (.text "a"), .bind (windowNames 0).maxRow (.int 5),
    .bind (windowNames 2).offset (.int 3), .place (.text "b"),
    .bind ":QAIL_MAX_ROW_TO_FETCH" (.int 15)]

/-- Numbering starts again behind the reset, and the window keeps the place of its first value. -/
theorem environment_sinceReset_windows :
    let r := (history windowsBehindReset).run {}
    r.2.entries = [⟨.named "c0", .text "a"⟩, ⟨.named "QAIL_MAX_ROW_TO_FETCH", .int 15⟩,
      ⟨.named "QAIL_FETCH_OFFSET_2", .int 3⟩, ⟨.named "c1", .text "b"⟩] ∧
    Environment (sinceReset r.1) r.2.entries := by
  refine ⟨by decide +kernel, environment_sinceReset windowsBehindReset ?_⟩
  intro name v hcall
  simp only [windowsBehindReset, List.mem_cons, reduceCtorEq, BindingCall.bind.injEq, false_or,
    List.not_mem_nil, or_false] at hcall
  rcases hcall with ⟨rfl, -⟩ | ⟨rfl, -⟩ | ⟨rfl, -⟩
  · exact (isFixed_windowNames 0).2
  · exact (isFixed_windowNames 2).1
  · exact ⟨"MAX_ROW_TO_FETCH", by decide +kernel⟩

end Bindings

end RownumSql
