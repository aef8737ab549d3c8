import RownumSql.Proofs.BoundValues
import RownumSql.Proofs.QueryTexts

/-!
# Placeholders in the text

A value is bound in order to be referred to.  A scalar is written as its placeholder, and the
closing of a window refers to what its opening binds, so that a selection writes one placeholder for
each value that it binds, and no other.  Colons that are not those of its placeholders are brought
in by the texts of the query.

    the placeholders of a selection are the keys that it binds, each written once
    colons anywhere else are those of a text of the query          (SelectTree.accounts_ofQuery)
-/

namespace RownumSql

/-! ## References -/

/-- The placeholders that a piece writes, without their colons. -/
def Piece.references (n : Nat) : Piece → List String
  | .scalar _ => [Bindings.placeholderName n]
  | .reference name => [name]
  | _ => []

namespace Template

/-- The placeholders that a template writes, in order and without their colons. -/
def references (n : Nat) : Template → List String
  | [] => []
  | x :: s => x.references n ++ references (n + x.scalars) s

@[simp] theorem references_append (n : Nat) (s u : Template) :
    references n (s ++ u) = s.references n ++ references (n + s.scalars) u := by
  induction s generalizing n with
  | nil => simp [references, scalars]
  | cons x s ih => simp [references, scalars, ih, Nat.add_assoc]

end Template

/-! ## Colons -/

/-- Whatever colons the text has are those of one of the given texts. -/
def Text.ColonsFrom (ts : List String) (s : String) : Prop :=
  ':' ∉ s.toList ∨ ∃ text ∈ ts, ∃ front back : String,
    s = front ++ text ++ back ∧ ':' ∉ front.toList ∧ ':' ∉ back.toList

open Text (ColonsFrom not_mem_append)

theorem Text.ColonsFrom.around {ts : List String} {s front back : String} (h : ColonsFrom ts s)
    (hfront : ':' ∉ front.toList) (hback : ':' ∉ back.toList) :
    ColonsFrom ts (front ++ s ++ back) := by
  rcases h with hnone | ⟨text, htext, before, behind, rfl, hbefore, hbehind⟩
  · exact .inl (not_mem_append (not_mem_append hfront hnone) hback)
  · refine .inr ⟨text, htext, front ++ before, behind ++ back, ?_,
      not_mem_append hfront hbefore, not_mem_append hbehind hback⟩
    simp only [String.append_assoc]

theorem Text.colonsFrom_of_mem {ts : List String} {text : String} (h : text ∈ ts) :
    ColonsFrom ts text :=
  .inr ⟨text, h, "", "", (String.append_empty.trans String.empty_append).symm, by decide, by decide⟩

/-- Whatever colons the piece has, but for that of a placeholder, are those of one of the texts. -/
def Piece.ColonsFrom (ts : List String) : Piece → Prop
  | .sql text => Text.ColonsFrom ts text
  | .identifier name => Text.ColonsFrom ts name
  | _ => True

/-! ## Templates that account for their placeholders -/

namespace Template

/-- The template writes one placeholder for each value that it binds and no other, and has no colons
elsewhere but those of the given texts. -/
structure Accounts (ts : List String) (s : Template) : Prop where
  matched : ∀ n, ((s.references n).map BindKey.named).Perm ((s.bindings n).map Binding.key)
  colons : ∀ x ∈ s, x.ColonsFrom ts

variable {ts : List String}

theorem accounts_nil : Accounts ts [] := ⟨fun _ => .refl _, fun _ h => nomatch h⟩

theorem Accounts.append {s u : Template} (hs : Accounts ts s) (hu : Accounts ts u) :
    Accounts ts (s ++ u) where
  matched n := by
    rw [references_append, bindings_append, List.map_append, List.map_append]
    exact (hs.matched n).append (hu.matched (n + s.scalars))
  colons := List.forall_mem_append.mpr ⟨hs.colons, hu.colons⟩

theorem accounts_sql {text : String} (h : ColonsFrom ts text) : Accounts ts [.sql text] :=
  ⟨fun _ => .refl _, List.forall_mem_singleton.mpr h⟩

theorem accounts_identifier {name : String} (h : ColonsFrom ts name) :
    Accounts ts [.identifier name] :=
  ⟨fun _ => .refl _, List.forall_mem_singleton.mpr h⟩

theorem accounts_scalar (v : Value) : Accounts ts [.scalar v] :=
  ⟨fun _ => .refl _, List.forall_mem_singleton.mpr trivial⟩

theorem accounts_branch : Accounts ts [.branch] :=
  ⟨fun _ => .refl _, List.forall_mem_singleton.mpr trivial⟩

/-- A text of which it is known what it consists of. -/
theorem accounts_words {text : String} (h : ':' ∉ text.toList) : Accounts ts [.sql text] :=
  accounts_sql (.inl h)

/-- What is bound in front is referred to behind. -/
theorem Accounts.referring {s : Template} (hs : Accounts ts s) {name : String}
    (hname : BindKey.ofName name = .named name) (v : Value) :
    Accounts ts (.bound name v :: s ++ [.reference name]) where
  matched n := by
    have hreferences : references n (.bound name v :: s ++ [.reference name])
        = s.references n ++ [name] := by
      simp [references, Piece.references, Piece.scalars]
    have hbindings : bindings n (.bound name v :: s ++ [.reference name])
        = ⟨.named name, v⟩ :: s.bindings n := by
      simp [bindings, Piece.bindings, Piece.scalars, hname]
    rw [hreferences, hbindings, List.map_append, List.map_cons]
    exact (List.perm_append_singleton _ _).trans ((hs.matched n).cons _)
  colons := by
    rw [List.forall_mem_append, List.forall_mem_cons, List.forall_mem_singleton]
    exact ⟨⟨trivial, hs.colons⟩, trivial⟩

/-! ## Windows -/

section windows
variable {s : Template} (hs : Accounts ts s)
include hs

theorem Accounts.counting (numbered : Bool) {cap : Option (String × UInt64)}
    (hcap : ∀ name last, cap = some (name, last) → BindKey.ofName name = .named name) :
    Accounts ts (countOpening numbered cap ++ s ++ countClosing cap) := by
  have hrow : ':' ∉ (if numbered then ", ROWNUM " ++ rowNumberColumn else "").toList := by
    cases numbered <;> decide
  have hopening (hint : String) (hhint : ':' ∉ hint.toList) :
      Accounts ts [.sql ("SELECT " ++ hint ++ "a.*"
        ++ (if numbered then ", ROWNUM " ++ rowNumberColumn else "") ++ " FROM (")] := by
    have hselect : ':' ∉ ("SELECT " ++ hint ++ "a.*").toList :=
      not_mem_append (not_mem_append (by decide) hhint) (by decide)
    exact accounts_words (not_mem_append (not_mem_append hselect hrow) (by decide))
  have hclose : Accounts ts [.sql ") a"] := accounts_words (by decide)
  cases cap with
  | none =>
    have hnone : ':' ∉ "".toList := by decide
    exact ((hopening "" hnone).append hs).append hclose
  | some cap =>
    obtain ⟨name, last⟩ := cap
    have hnumber : ':' ∉ (toString last.toNat).toList :=
      fun h => absurd (Text.isDigit_of_mem_toString h) (by decide)
    have hhint : ':' ∉ ("/*+ FIRST_ROWS(" ++ toString last.toNat ++ ") */ ").toList :=
      not_mem_append (not_mem_append (by decide) hnumber) (by decide)
    have hwhere : Accounts ts [.sql " WHERE ROWNUM <= "] := accounts_words (by decide)
    have hinside := ((((hopening _ hhint).append hs).append hclose).append hwhere).referring
      (hcap name last rfl) (.ofUInt64 last)
    simpa [countOpening, countClosing] using hinside

theorem Accounts.skipping {name : String} (hname : BindKey.ofName name = .named name)
    (offset : UInt64) : Accounts ts (skipOpening name offset ++ s ++ skipClosing name) := by
  have hopening : Accounts ts [.sql "SELECT * FROM ("] := accounts_words (by decide)
  have hwhere : Accounts ts [.sql (") WHERE " ++ rowNumberColumn ++ " > ")] :=
    accounts_words (by decide)
  have hinside := ((hopening.append hs).append hwhere).referring hname (.ofUInt64 offset)
  simpa [skipOpening, skipClosing] using hinside

end windows

/-! ## Selections -/

theorem composes_accounts (ts : List String) : Composes (ColonsFrom ts) (Accounts ts) where
  unmarked htext := .inl htext.2.2
  spaced {text} htext := by
    have hspaced : ColonsFrom ts (" " ++ text ++ "") := htext.around (by decide) (by decide)
    rwa [String.append_empty] at hspaced
  nil := accounts_nil
  append := Accounts.append
  sql := accounts_sql
  identifier := accounts_identifier
  scalar := accounts_scalar
  branch := accounts_branch
  enclosed {text s} htext hs := by
    have hopening : ColonsFrom ts ("" ++ text ++ "(") := htext.around (by decide) (by decide)
    rw [String.empty_append] at hopening
    exact ((accounts_sql hopening).append hs).append (accounts_words (by decide))
  counting numbered _ _ hcap hs := by
    refine hs.counting numbered ?_
    intro name last hname
    obtain ⟨k, rfl⟩ := hcap name last hname
    exact (Outline.ofName_windowNames k).2
  skipping k offset _ hs := hs.skipping (Outline.ofName_windowNames k).1 offset

end Template

/-- A selection accounts for its placeholders, those of its windows and of its branches included,
and has no colons elsewhere but those of its texts. -/
theorem SelectTree.accounts_ofQuery (q : Query) (k n : Nat) :
    (ofQuery (windowNames k) n q).template.Accounts q.texts :=
  (Template.composes_accounts q.texts).ofQuery (fun _ htext => Text.colonsFrom_of_mem htext) k n

end RownumSql
