import RownumSql.Dialect
import RownumSql.Proofs.QuotedTexts

/-!
# Reading quoted names

A quoted name is written part by part, with points between: a star stands bare, and every other part
is shortened and stands between double quotes.  Whatever aliases are made of, what is written can be
read in one way only, and reading gives the parts as they were shortened:

    readAll? (d.quote name) = the parts of name, shortened one after another      (readAll?_quote)

So two names with different shortened parts are never written alike.
-/

namespace RownumSql

/-! ## Parts of names -/

/-- A part of a quoted name. -/
inductive NamePart where
  | star
  /-- Text between quotes. -/
  | quoted (text : String)
deriving DecidableEq

namespace NamePart

def sql : NamePart → String
  | star => "*"
  | quoted text => Text.quoted '"' text

/-- The part of a name as it is shortened; a star stays what it is. -/
def shorten (part : String) : StateM AliasTable NamePart :=
  if part = "*" then pure star
  else do
    let short ← AliasTable.shorten part
    pure (quoted short)

/-! ## Reading -/

/-- The part at the front of the text, and what follows it. -/
def read? : List Char → Option (NamePart × List Char)
  | '*' :: cs => some (star, cs)
  | cs => (Text.readQuoted '"' cs).map fun r => (quoted (String.ofList r.1), r.2)

theorem read?_sql_append (x : NamePart) (rest : List Char) (h : rest.head? ≠ some '"') :
    read? (x.sql.toList ++ rest) = some (x, rest) := by
  cases x with
  | star => rfl
  | quoted text =>
    have hfront (cs : List Char) : read? ('"' :: cs) =
        (Text.readQuoted '"' ('"' :: cs)).map fun r => (quoted (String.ofList r.1), r.2) := rfl
    have hread := Text.readQuoted_quoted text h
    rw [sql]
    rw [Text.toList_quoted, List.cons_append] at hread ⊢
    rw [hfront, hread, Option.map_some, String.ofList_toList]

theorem length_lt_of_read? {cs rest : List Char} {x : NamePart}
    (h : read? cs = some (x, rest)) : rest.length < cs.length := by
  unfold read? at h
  split at h
  · cases h
    exact Nat.lt_add_one _
  · obtain ⟨⟨s, rest'⟩, hread, heq⟩ := Option.map_eq_some_iff.mp h
    cases heq
    exact Text.length_lt_of_readQuoted hread

/-- Parts with points between them, up to the end of the text. -/
def readAll? (cs : List Char) : Option (List NamePart) :=
  match h : read? cs with
  | some (x, '.' :: rest) =>
    have : rest.length < cs.length := Nat.lt_of_succ_lt (length_lt_of_read? h)
    (readAll? rest).map (x :: ·)
  | some (x, []) => some [x]
  | _ => none
termination_by cs.length

theorem readAll?_of_point {cs rest : List Char} {x : NamePart}
    (h : read? cs = some (x, '.' :: rest)) : readAll? cs = (readAll? rest).map (x :: ·) := by
  rw [readAll?]
  split <;> simp_all

theorem readAll?_of_end {cs : List Char} {x : NamePart} (h : read? cs = some (x, [])) :
    readAll? cs = some [x] := by
  rw [readAll?]
  split <;> simp_all

/-- Parts that are written with points between them are read back. -/
theorem readAll?_intercalate {xs : List NamePart} (h : xs ≠ []) :
    readAll? (".".intercalate (xs.map sql)).toList = some xs := by
  induction xs with
  | nil => exact absurd rfl h
  | cons x rest ih =>
    cases rest with
    | nil =>
      have hread := x.read?_sql_append [] nofun
      rw [List.append_nil] at hread
      rw [List.map_singleton, String.intercalate_singleton]
      exact readAll?_of_end hread
    | cons y rest =>
      have hread := x.read?_sql_append
        ('.' :: (".".intercalate ((y :: rest).map sql)).toList) (by simp)
      have hshape : (".".intercalate ((x :: y :: rest).map sql)).toList =
          x.sql.toList ++ '.' :: (".".intercalate ((y :: rest).map sql)).toList := by
        rw [List.map_cons, List.map_cons, String.intercalate_cons_cons, String.toList_append,
          String.toList_append, List.append_assoc]
        rfl
      -- a point is no quote, so the first part ends in front of it
      rw [hshape, readAll?_of_point hread, ih (List.cons_ne_nil y rest), Option.map_some]

end NamePart

/-! ## Names -/

namespace Dialect
variable (d : Dialect)

/-- The parts of a name as they are shortened one after another. -/
def shortParts (name : String) : StateM AliasTable (List NamePart) :=
  (parts name).mapM NamePart.shorten

theorem parts_ne_nil (name : String) : parts name ≠ [] := by
  rw [parts, Ne, List.map_eq_nil_iff]
  exact List.splitOn_ne_nil '.' name.toList

theorem shortParts_ne_nil (t : AliasTable) (name : String) :
    ((shortParts name).run t).1 ≠ [] := by
  obtain ⟨part, rest, hparts⟩ := List.exists_cons_of_ne_nil (parts_ne_nil name)
  rw [shortParts, hparts, List.mapM_cons]
  exact List.cons_ne_nil _ _

variable {d} (hquotes : d.quotes = true)
include hquotes

theorem quotePart_eq (part : String) :
    d.quotePart part = NamePart.sql <$> NamePart.shorten part := by
  unfold quotePart NamePart.shorten
  split
  · next hstar =>
    rw [hstar]
    rfl
  · simp only [map_bind, map_pure, NamePart.sql]

/-- With quotes, parts are written as they are shortened. -/
theorem quoteParts_eq (ps : List String) :
    d.quoteParts ps = List.map NamePart.sql <$> ps.mapM NamePart.shorten := by
  induction ps with
  | nil => rfl
  | cons part rest ih =>
    rw [quoteParts, quotePart_eq hquotes, ih, List.mapM_cons]
    rfl

/-- With quotes, a name is its shortened parts, with points between them. -/
theorem quote_eq {name : String} (hplain : isPlain name = true) :
    d.quote name = (fun xs => ".".intercalate (xs.map NamePart.sql)) <$> shortParts name := by
  rw [quote, hplain, quoteParts_eq hquotes]
  rfl

/-- What is written of a name reads as its shortened parts. -/
theorem readAll?_quote {name : String} (hplain : isPlain name = true) (t : AliasTable) :
    NamePart.readAll? ((d.quote name).run t).1.toList = some ((shortParts name).run t).1 := by
  rw [quote_eq hquotes hplain]
  exact NamePart.readAll?_intercalate (shortParts_ne_nil t name)

end Dialect

/-- **A quoted name reads back as its shortened parts.**  With quotes, whatever the aliases are made
of, what is written of an identifier reads to its end as the parts of the identifier: a star for a
star, and for any other part the text that shortening it gives.  So identifiers with different
shortened parts are written differently. -/
theorem quoted_name_reads_back (d : Dialect) (hquotes : d.quotes = true) (t : AliasTable)
    {name : String} (hplain : Dialect.isPlain name = true) :
    NamePart.readAll? ((d.quote name).run t).1.toList
      = some ((Dialect.shortParts name).run t).1 ∧
    ((d.quote name).run t).2 = ((Dialect.shortParts name).run t).2 ∧
    ∀ t' name', Dialect.isPlain name' = true →
      ((Dialect.shortParts name').run t').1 ≠ ((Dialect.shortParts name).run t).1 →
      ((d.quote name').run t').1 ≠ ((d.quote name).run t).1 := by
  have hread := Dialect.readAll?_quote hquotes hplain t
  refine ⟨hread, ?_, ?_⟩
  · rw [Dialect.quote_eq hquotes hplain]
    rfl
  · intro t' name' hplain' hdifferent hsame
    have hread' := Dialect.readAll?_quote hquotes hplain' t'
    rw [hsame, hread] at hread'
    exact hdifferent (Option.some.inj hread').symm

/-- An identifier with a part that gets an alias, an empty part and a star, where aliases begin with
a point between quotes. -/
theorem quoted_name_reads_back_hostileStem :
    let t : AliasTable := { maxLength := 3, stem := "\".\"" }
    ({} : Dialect).quotes = true ∧ Dialect.isPlain "long..*.x" = true ∧
    NamePart.readAll? ((({} : Dialect).quote "long..*.x").run t).1.toList
      = some [.quoted "\".\"1", .quoted "", .star, .quoted "x"] ∧
    ((({} : Dialect).quote "long").run t).1 ≠ ((({} : Dialect).quote "long..*.x").run t).1 := by
  intro t
  have hplain : Dialect.isPlain "long..*.x" = true := by decide
  obtain ⟨hread, -, hdiffer⟩ := quoted_name_reads_back {} rfl t hplain
  have hparts : ((Dialect.shortParts "long..*.x").run t).1
      = [.quoted "\".\"1", .quoted "", .star, .quoted "x"] := by decide +kernel
  rw [hparts] at hread hdiffer
  exact ⟨rfl, hplain, hread, hdiffer t "long" (by decide) (by decide +kernel)⟩

end RownumSql
