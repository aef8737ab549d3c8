import RownumSql.Proofs.DefinitionNames
import RownumSql.Proofs.QuotedTexts

/-!
# Literals in statements

Where nothing can be bound, a text stands in a statement as a literal: a comment behind the column
that it is about, and the schema in the block that switches its foreign keys.  A scanner that meets
the literal reads exactly the text, whatever quotes it has, and goes on with what was to follow:

    readQuoted '\'' (literal s ++ rest) = some (s, rest)        if rest does not begin with a quote

So no text of a table or of the settings can become a part of the statement.
-/

namespace RownumSql

/-! ## Scanning a statement -/

namespace Text

/-- Behind `front` the text has a literal for `value`, and `rest` follows the quote that ends it. -/
def LiteralAt (text front value rest : String) : Prop :=
  ∃ cs, text.toList = front.toList ++ cs ∧
    readQuoted '\'' cs = some (value.toList, rest.toList)

/-- The first literal of a text, and what follows it. -/
def firstLiteral? (text : String) : Option (String × String) :=
  (readQuoted '\'' (text.toList.dropWhile (· ≠ '\''))).map fun r =>
    (String.ofList r.1, String.ofList r.2)

/-- If there is no quote in front of a literal, then it is the first. -/
theorem LiteralAt.firstLiteral? {text front value rest : String}
    (h : LiteralAt text front value rest) (hfront : '\'' ∉ front.toList) :
    firstLiteral? text = some (value, rest) := by
  obtain ⟨cs, htext, hread⟩ := h
  have hskip : ∀ c ∈ front.toList, decide (c ≠ '\'') = true := by
    intro c hc
    rw [decide_eq_true_iff]
    rintro rfl
    exact hfront hc
  have hstart : cs.dropWhile (· ≠ '\'') = cs := by
    obtain ⟨hcs, -⟩ := readQuoted_eq_some_iff.mp hread
    rw [hcs, toList_quoted, List.cons_append, List.dropWhile_cons_of_neg (by simp)]
  rw [Text.firstLiteral?, htext, List.dropWhile_append_of_pos hskip, hstart, hread,
    Option.map_some, String.ofList_toList, String.ofList_toList]

end Text

open Text

/-! ## Literals of texts -/

/-- The literal of a text is read back, and what follows it is left. -/
theorem Spelling.readQuoted_literal (spelling : Spelling) (s : String) {rest : List Char}
    (h : rest.head? ≠ some '\'') :
    readQuoted '\'' ((spelling.literal (.text s)).toList ++ rest) = some (s.toList, rest) :=
  readQuoted_quoted s h

theorem Spelling.literalAt (spelling : Spelling) (front s rest : String)
    (h : rest.toList.head? ≠ some '\'') :
    LiteralAt (front ++ spelling.literal (.text s) ++ rest) front s rest := by
  refine ⟨(spelling.literal (.text s)).toList ++ rest.toList, ?_, spelling.readQuoted_literal s h⟩
  rw [String.toList_append, String.toList_append, List.append_assoc]

/-! ## Comments -/

namespace Define
variable (d : Dialect)

/-- What stands in front of the comment on a column. -/
def commentFront (u : AliasTable) (table column : String) : String :=
  "COMMENT ON COLUMN " ++ d.defined u table ++ "." ++ d.defined u column ++ " IS "

/-- If a table can be created, then a comment on each column that has one follows, in order. -/
theorem comments_createTable {T : Table} {t t' : AliasTable} {texts : List String}
    (h : (createTable d T).run.run t = (.ok texts, t')) :
    ∃ create, texts = create :: (commented T).map fun e =>
      commentFront d t' T.name e.1 ++ d.spelling.literal (.text e.2) := by
  -- the names stand in all statements as the last table has them
  have htexts := ((renders_createTable d T).run t texts t' h).2 t' (.refl t')
  rw [Kind.templates, List.map_cons, List.map_map] at htexts
  refine ⟨_, htexts.trans (congrArg (List.cons _) ?_)⟩
  refine List.map_congr_left fun e _ => ?_
  unfold commentFront
  simp [Template.spelled, Piece.spelled, String.append_assoc]

theorem literalAt_comment (u : AliasTable) (table column text : String) :
    LiteralAt (commentFront d u table column ++ d.spelling.literal (.text text))
      (commentFront d u table column) text "" := by
  have h := d.spelling.literalAt (commentFront d u table column) text "" nofun
  rwa [String.append_empty] at h

/-- A name without quotes has none in front of the comment. -/
theorem not_mem_commentFront {u : AliasTable} {table column : String}
    (htable : '\'' ∉ (d.defined u table).toList) (hcolumn : '\'' ∉ (d.defined u column).toList) :
    '\'' ∉ (commentFront d u table column).toList := by
  unfold commentFront
  refine not_mem_append (not_mem_append (not_mem_append (not_mem_append ?_ htable) ?_) hcolumn) ?_
  all_goals simp

end Define

/-! ## Foreign keys -/

namespace Dialect

/-- What stands in front of the owner in the block that switches foreign keys. -/
def ownerFront : String :=
  "declare\n            cursor c is select owner, table_name, constraint_name\n                "
    ++ "from sys.all_constraints\n                where owner = "

def ownerRest (action : String) : String :=
  " and constraint_type = 'R'" ++ (";\n            begin\n                for r in c loop\n"
    ++ "                    execute immediate 'alter table \"' || r.owner || '\".\"' || "
    ++ "r.table_name || '\" " ++ action ++ " constraint \"' || r.constraint_name || '\"';\n"
    ++ "                end loop;\n            end;")

/-- The schema is all that one block has and another has not. -/
theorem foreignKeyBlock_eq {d : Dialect} {schema : String} (h : d.schema = some schema)
    (action : String) :
    d.foreignKeyBlock action =
      ownerFront ++ d.spelling.literal (.text (upper schema)) ++ ownerRest action := by
  unfold foreignKeyBlock ownerFront ownerRest
  simp only [h, String.append_assoc]

theorem literalAt_foreignKeyBlock {d : Dialect} {schema : String} (h : d.schema = some schema)
    (action : String) :
    LiteralAt (d.foreignKeyBlock action) ownerFront (upper schema) (ownerRest action) := by
  rw [foreignKeyBlock_eq h]
  refine d.spelling.literalAt ownerFront (upper schema) (ownerRest action) ?_
  have hne : " and constraint_type = 'R'".toList ≠ [] := by simp
  unfold ownerRest
  rw [String.toList_append, List.head?_append_of_ne_nil _ hne]
  decide

theorem not_mem_ownerFront : '\'' ∉ ownerFront.toList := by
  decide +kernel

end Dialect

/-- **Literals cannot be broken out of.**  Read from its first quote, the literal of a text in a
statement gives exactly the text and leaves exactly what follows, unless that begins with a quote.
So a comment on a column is all that stands behind `IS`, and it is the first literal if the names in
front of it have no single quotes; and the first literal of the block that switches foreign keys is
the schema in capital letters, with the same text around it whatever the schema is. -/
theorem literals_read_back :
    (∀ (spelling : Spelling) (s : String) (rest : List Char), rest.head? ≠ some '\'' →
      readQuoted '\'' ((spelling.literal (.text s)).toList ++ rest) = some (s.toList, rest)) ∧
    (∀ (d : Dialect) (T : Table) (t t' : AliasTable) (texts : List String),
      (Define.createTable d T).run.run t = (.ok texts, t') →
      ∃ create comments, texts = create :: comments ∧
        List.Forall₂ (fun e text =>
          LiteralAt text (Define.commentFront d t' T.name e.1) e.2 "" ∧
          ('\'' ∉ (d.defined t' T.name).toList → '\'' ∉ (d.defined t' e.1).toList →
            firstLiteral? text = some (e.2, "")))
          (Define.commented T) comments) ∧
    (∀ (d : Dialect) (schema : String), d.schema = some schema →
      LiteralAt d.disableForeignKeys Dialect.ownerFront (upper schema)
        (Dialect.ownerRest "disable") ∧
      LiteralAt d.enableForeignKeys Dialect.ownerFront (upper schema)
        (Dialect.ownerRest "enable") ∧
      firstLiteral? d.disableForeignKeys = some (upper schema, Dialect.ownerRest "disable") ∧
      firstLiteral? d.enableForeignKeys = some (upper schema, Dialect.ownerRest "enable")) := by
  refine ⟨?_, ?_, ?_⟩
  · intro spelling s rest hrest
    exact spelling.readQuoted_literal s hrest
  · intro d T t t' texts h
    obtain ⟨create, htexts⟩ := Define.comments_createTable d h
    refine ⟨create, _, htexts, ?_⟩
    rw [List.forall₂_map_right_iff, List.forall₂_same]
    intro e _
    have hliteral := Define.literalAt_comment d t' T.name e.1 e.2
    refine ⟨hliteral, ?_⟩
    intro htable hcolumn
    exact hliteral.firstLiteral? (Define.not_mem_commentFront d htable hcolumn)
  · intro d schema h
    have hdisable := Dialect.literalAt_foreignKeyBlock h "disable"
    have henable := Dialect.literalAt_foreignKeyBlock h "enable"
    exact ⟨hdisable, henable, hdisable.firstLiteral? Dialect.not_mem_ownerFront,
      henable.firstLiteral? Dialect.not_mem_ownerFront⟩

/-- A table with a comment that begins and ends with a quote and tries to go on behind it. -/
def hostileComment : Table where
  name := "books"
  columns := OrderedMap.ofList [
    ("id", { type := some .integer, comment := some "'; DROP TABLE books; --'" })]

/-- A comment and a schema full of quotes stay what they are. -/
theorem literals_read_back_hostile :
    let d : Dialect := { schema := some "o'brien''" }
    readQuoted '\'' "'''it''''s''' || x".toList = some ("'it''s'".toList, " || x".toList) ∧
    (∃ create comment,
      (Define.createTable d hostileComment).run.run {} = (.ok [create, comment], {}) ∧
      firstLiteral? comment = some ("'; DROP TABLE books; --'", "")) ∧
    firstLiteral? d.disableForeignKeys = some ("O'BRIEN''", Dialect.ownerRest "disable") := by
  intro d
  obtain ⟨hread, hcomments, hblock⟩ := literals_read_back
  have hdefine : (Define.createTable d hostileComment).run.run {} =
      (.ok ["CREATE TABLE \"books\" (\n\"id\" NUMBER\n)",
        "COMMENT ON COLUMN \"books\".\"id\" IS '''; DROP TABLE books; --'''"], {}) :=
    Prod.ext (by decide +kernel) (by decide +kernel)
  refine ⟨hread .rownum "'it''s'" " || x".toList (by decide), ⟨_, _, hdefine, ?_⟩, ?_⟩
  · obtain ⟨create, comments, htexts, hall⟩ := hcomments d hostileComment {} {} _ hdefine
    obtain ⟨-, rfl⟩ := List.cons.inj htexts
    obtain ⟨⟨-, hfirst⟩, -⟩ := List.forall₂_cons.mp hall
    exact hfirst (by decide +kernel) (by decide +kernel)
  · obtain ⟨-, -, hdisable, -⟩ := hblock d "o'brien''" rfl
    have hupper : upper "o'brien''" = "O'BRIEN''" := by decide +kernel
    rw [hdisable, hupper]

end RownumSql
