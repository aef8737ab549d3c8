import RownumSql.Statement.Compile

/-!
# Templates

A template is SQL in which names and scalars are still open.  Writing one touches the aliases, the
bindings and the branch counter, but each of them on its own: `run_fill` splits a run into the text,
the aliases, the entries and two counts, all plain recursions over the pieces.

    ((fill d s).run p).1 = s.text d p.aliases p.bindings.next              (run_fill)
    distinct keys → s.entries n es = es ++ s.bindings n                    (entries_eq_append)
-/

namespace RownumSql

/-- A piece of SQL in which names and scalars are still open. -/
inductive Piece where
  | sql (text : String)
  /-- A name that is yet to be quoted. -/
  | identifier (name : String)
  /-- A scalar that is yet to get its placeholder. -/
  | scalar (v : Value)
  /-- A value that is referred to by the name that it is bound under. -/
  | reference (name : String)
  /-- A value under a name of its own; it has no text. -/
  | bound (name : String) (v : Value)
  /-- The start of a branch with a page; it has no text. -/
  | branch
deriving DecidableEq

/-- SQL as pieces, in the order in which they are written. -/
abbrev Template := List Piece

namespace Emit

/-! ## Writing a template -/

def piece (d : Dialect) : Piece → Emit String
  | .sql text => pure text
  | .identifier name => quote d name
  | .scalar v => place v
  | .reference name => pure (":" ++ name)
  | .bound name v => do
    bind name v
    pure ""
  | .branch => do
    let _ ← nextBranch
    pure ""

def fill (d : Dialect) : Template → Emit String
  | [] => pure ""
  | first :: rest => do
    let text ← piece d first
    let others ← fill d rest
    pure (text ++ others)

def fills (d : Dialect) : List Template → Emit (List String)
  | [] => pure []
  | first :: rest => do
    let text ← fill d first
    let others ← fills d rest
    pure (text :: others)

theorem run_bind {α β : Type} (step : Emit α) (next : α → Emit β) (p : Progress) :
    (step >>= next).run p = (next (step.run p).1).run (step.run p).2 := rfl

theorem run_pure {α : Type} (a : α) (p : Progress) : (pure a : Emit α).run p = (a, p) := rfl

@[simp] theorem fill_nil (d : Dialect) : fill d [] = pure "" := rfl

@[simp] theorem fill_sql_cons (d : Dialect) (text : String) (s : Template) :
    fill d (.sql text :: s) = (do
      let others ← fill d s
      pure (text ++ others)) := by
  simp [fill, piece]

theorem fill_append (d : Dialect) (s t : Template) :
    fill d (s ++ t) = (do
      let first ← fill d s
      let others ← fill d t
      pure (first ++ others)) := by
  induction s with
  | nil => simp only [List.nil_append, fill, pure_bind, String.empty_append, bind_pure]
  | cons first rest ih =>
    simp only [List.cons_append, fill, ih, bind_assoc, pure_bind, String.append_assoc]

@[simp] theorem fill_identifier (d : Dialect) (name : String) :
    fill d [.identifier name] = quote d name := by
  simp [fill, piece]

@[simp] theorem fill_scalar (d : Dialect) (v : Value) : fill d [.scalar v] = place v := by
  simp [fill, piece]

end Emit

namespace Template

/-- Templates one after another with a separator between them. -/
def joined (separator : String) : List Template → Template
  | [] => []
  | [s] => s
  | s :: t :: rest => s ++ .sql separator :: joined separator (t :: rest)

theorem fill_joined (d : Dialect) (separator : String) (ss : List Template) :
    Emit.fill d (joined separator ss) = (do
      let texts ← Emit.fills d ss
      pure (separator.intercalate texts)) := by
  induction ss with
  | nil => simp [joined, Emit.fills]
  | cons s rest ih =>
    cases rest with
    | nil => simp [joined, Emit.fills]
    | cons t rest =>
      rw [joined, Emit.fill_append, Emit.fill_sql_cons, ih]
      simp [Emit.fills, String.append_assoc]

end Template

/-! ## The parts of a run -/

namespace Piece

/-- The number of placeholders that a piece takes. -/
def scalars : Piece → Nat
  | .scalar _ => 1
  | _ => 0

/-- The number of branches that a piece counts. -/
def branches : Piece → Nat
  | .branch => 1
  | _ => 0

def aliases (d : Dialect) (t : AliasTable) : Piece → AliasTable
  | .identifier name => ((d.quote name).run t).2
  | _ => t

/-- The text of a piece, given the aliases and the number of the next placeholder. -/
def text (d : Dialect) (t : AliasTable) (n : Nat) : Piece → String
  | .sql text => text
  | .identifier name => ((d.quote name).run t).1
  | .scalar _ => ":" ++ Bindings.placeholderName n
  | .reference name => ":" ++ name
  | .bound .. => ""
  | .branch => ""

def bindings (n : Nat) : Piece → List Binding
  | .scalar v => [⟨.named (Bindings.placeholderName n), v⟩]
  | .bound name v => [⟨.ofName name, v⟩]
  | _ => []

/-- The entries after a piece: a placeholder is always new, a name may be there already. -/
def entries (n : Nat) (es : List Binding) : Piece → List Binding
  | .scalar v => es ++ [⟨.named (Bindings.placeholderName n), v⟩]
  | .bound name v => Bindings.put (.ofName name) v es
  | _ => es

theorem run_piece (d : Dialect) (x : Piece) (p : Progress) :
    (Emit.piece d x).run p =
      (x.text d p.aliases p.bindings.next,
        { aliases := x.aliases d p.aliases
          bindings := ⟨x.entries p.bindings.next p.bindings.entries,
            p.bindings.next + x.scalars⟩
          pagedBranches := p.pagedBranches + x.branches }) := by
  cases x <;> rfl

end Piece

namespace Template

/-- The number of placeholders that a template takes. -/
def scalars : Template → Nat
  | [] => 0
  | x :: s => x.scalars + scalars s

/-- The number of branches that a template counts. -/
def branches : Template → Nat
  | [] => 0
  | x :: s => x.branches + branches s

def aliases (d : Dialect) (t : AliasTable) : Template → AliasTable
  | [] => t
  | x :: s => aliases d (x.aliases d t) s

/-- The text of a template, given the aliases and the number of the next placeholder. -/
def text (d : Dialect) (t : AliasTable) (n : Nat) : Template → String
  | [] => ""
  | x :: s => x.text d t n ++ text d (x.aliases d t) (n + x.scalars) s

/-- What a template binds, in order. -/
def bindings (n : Nat) : Template → List Binding
  | [] => []
  | x :: s => x.bindings n ++ bindings (n + x.scalars) s

def entries (n : Nat) (es : List Binding) : Template → List Binding
  | [] => es
  | x :: s => entries (n + x.scalars) (x.entries n es) s

/-- What a template leaves behind. -/
def after (d : Dialect) (p : Progress) (s : Template) : Progress where
  aliases := s.aliases d p.aliases
  bindings := ⟨s.entries p.bindings.next p.bindings.entries, p.bindings.next + s.scalars⟩
  pagedBranches := p.pagedBranches + s.branches

theorem run_fill (d : Dialect) (s : Template) (p : Progress) :
    (Emit.fill d s).run p = (s.text d p.aliases p.bindings.next, s.after d p) := by
  induction s generalizing p with
  | nil => rfl
  | cons x s ih =>
    rw [Emit.fill, Emit.run_bind, Emit.run_bind, Emit.run_pure, Piece.run_piece, ih]
    simp only [after, text, aliases, entries, scalars, branches, Nat.add_assoc]

section append
variable (s u : Template)

@[simp] theorem scalars_append : scalars (s ++ u) = s.scalars + scalars u := by
  induction s with
  | nil => simp [scalars]
  | cons x s ih => simp [scalars, ih, Nat.add_assoc]

@[simp] theorem branches_append : branches (s ++ u) = s.branches + branches u := by
  induction s with
  | nil => simp [branches]
  | cons x s ih => simp [branches, ih, Nat.add_assoc]

@[simp] theorem aliases_append (d : Dialect) (t : AliasTable) :
    aliases d t (s ++ u) = aliases d (s.aliases d t) u := by
  induction s generalizing t with
  | nil => rfl
  | cons x s ih => simp [aliases, ih]

@[simp] theorem text_append (d : Dialect) (t : AliasTable) (n : Nat) :
    text d t n (s ++ u) = s.text d t n ++ text d (s.aliases d t) (n + s.scalars) u := by
  induction s generalizing t n with
  | nil => simp [text, aliases, scalars]
  | cons x s ih => simp [text, aliases, scalars, ih, String.append_assoc, Nat.add_assoc]

@[simp] theorem bindings_append (n : Nat) :
    bindings n (s ++ u) = s.bindings n ++ bindings (n + s.scalars) u := by
  induction s generalizing n with
  | nil => simp [bindings, scalars]
  | cons x s ih => simp [bindings, scalars, ih, Nat.add_assoc]

end append

def texts (d : Dialect) (t : AliasTable) (n : Nat) : List Template → List String
  | [] => []
  | s :: ss => s.text d t n :: texts d (s.aliases d t) (n + s.scalars) ss

/-- Templates with a separator are texts with that separator. -/
theorem text_joined (d : Dialect) (t : AliasTable) (n : Nat) (separator : String)
    (ss : List Template) :
    (joined separator ss).text d t n = separator.intercalate (texts d t n ss) := by
  induction ss generalizing t n with
  | nil => rfl
  | cons s rest ih =>
    cases rest with
    | nil => simp [joined, texts]
    | cons u rest =>
      have hsep (t : AliasTable) (n : Nat) :
          text d t n (.sql separator :: joined separator (u :: rest))
            = separator ++ text d t n (joined separator (u :: rest)) := rfl
      rw [joined, text_append, hsep, ih, texts, texts, texts, String.intercalate_cons_cons,
        String.append_assoc]

end Template

/-! ## Keys that do not clash -/

theorem Bindings.put_of_not_mem {key : BindKey} {es : List Binding}
    (h : key ∉ es.map Binding.key) (v : Value) : put key v es = es ++ [⟨key, v⟩] := by
  induction es with
  | nil => rfl
  | cons e es ih =>
    rw [List.map_cons, List.mem_cons, not_or] at h
    rw [put, if_neg (Ne.symm h.1), ih h.2, List.cons_append]

namespace Template

/-- If all keys are distinct, then the template only adds to the entries. -/
theorem entries_eq_append (s : Template) (n : Nat) (es : List Binding)
    (h : ((es ++ s.bindings n).map Binding.key).Nodup) : s.entries n es = es ++ s.bindings n := by
  induction s generalizing n es with
  | nil => simp [entries, bindings]
  | cons x s ih =>
    have hx : x.entries n es = es ++ x.bindings n := by
      cases x with
      | bound name v =>
        refine Bindings.put_of_not_mem ?_ v
        intro hmem
        rw [bindings, ← List.append_assoc, List.map_append, List.map_append] at h
        have hd := (List.nodup_append.mp (List.nodup_append.mp h).1).2.2
        exact hd _ hmem _ (by simp [Piece.bindings]) rfl
      | scalar v => rfl
      | sql text => simp [Piece.entries, Piece.bindings]
      | identifier name => simp [Piece.entries, Piece.bindings]
      | reference name => simp [Piece.entries, Piece.bindings]
      | branch => simp [Piece.entries, Piece.bindings]
    rw [bindings, ← List.append_assoc] at h
    rw [entries, hx, ih _ _ h, bindings, List.append_assoc]

end Template

end RownumSql
