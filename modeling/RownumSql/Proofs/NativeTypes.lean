import RownumSql.Proofs.DefinitionErrors
import RownumSql.Table.Reflection

/-!
# Native types

A column that was reflected from the catalog may be defined again, and the definition names a native
type.  `NativeType.ofText?` reads the type that a text denotes; `Catalog.HasType` tells the type of
a row.  Types go through the logical types of columns, so that some of them come back changed:

    the text in the definition denotes  type.defined length
    type.defined length = type ↔ type.Kept length                        (reflected_type_defined)
-/

namespace RownumSql

open RownumSql.Text (lower readNat? numeral)

/-! ## Types and their texts -/

/-- Native types, as the catalog and definitions name them. -/
inductive NativeType where
  /-- A number, with its digits and those of them behind the point if it has a size. -/
  | number (size : Option (Nat × Nat))
  | varchar2 (length : Option Nat)
  | char (length : Option Nat)
  | date
  /-- A moment with six digits behind the seconds. -/
  | timestamp
deriving DecidableEq, Repr

namespace NativeType

/-- The numbers in parentheses behind a word; nothing behind it is no numbers. -/
def sizes? : List Char → Option (List Nat)
  | [] => some []
  | '(' :: cs =>
    if cs.getLast? = some ')' then (cs.dropLast.splitOn ',').mapM readNat? else none
  | _ => none

def ofWord? : String → List Nat → Option NativeType
  | "NUMBER", [] => some (number none)
  | "NUMBER", [digits] => some (number (some (digits, 0)))
  | "NUMBER", [digits, places] => some (number (some (digits, places)))
  | "VARCHAR2", [] => some (varchar2 none)
  | "VARCHAR2", [length] => some (varchar2 (some length))
  | "CHAR", [] => some (char none)
  | "CHAR", [length] => some (char (some length))
  | "DATE", [] => some date
  | "TIMESTAMP", [6] => some timestamp
  | _, _ => none

/-- The type that a text denotes: a word, and the numbers in parentheses behind it. -/
def ofText? (text : String) : Option NativeType :=
  (sizes? (text.toList.dropWhile (· ≠ '('))).bind
    (ofWord? (String.ofList (text.toList.takeWhile (· ≠ '('))))

/-- A word with numbers in parentheses behind it, if there are any. -/
def sizedText (word : String) (sizes : List Nat) : String :=
  if sizes.isEmpty then word
  else word ++ "(" ++ ",".intercalate (sizes.map toString) ++ ")"

theorem space_sizedText_one (word : String) (n : Nat) :
    " " ++ sizedText word [n] = " " ++ word ++ ("(" ++ toString n ++ ")") := by
  simp [sizedText, String.append_assoc]

theorem space_sizedText_two (word : String) (n m : Nat) :
    " " ++ sizedText word [n, m] =
      " " ++ word ++ ("(" ++ toString n ++ "," ++ toString m ++ ")") := by
  simp [sizedText, String.append_assoc]

theorem sizes?_intercalate {sizes : List Nat} (h : sizes ≠ []) :
    sizes? ('(' :: [','].intercalate (sizes.map numeral) ++ [')']) = some sizes := by
  have hcomma : ∀ cs ∈ sizes.map numeral, ',' ∉ cs := by
    intro cs hcs hmem
    obtain ⟨n, -, rfl⟩ := List.mem_map.mp hcs
    exact absurd (Text.isDigit_of_mem_numeral hmem) (by decide)
  have hread : (sizes.map numeral).mapM readNat? = some sizes := by
    have hsome : readNat? ∘ numeral = fun n => pure (id n) := funext Text.readNat?_numeral
    rw [List.mapM_map, hsome, List.mapM_pure, List.map_id]
    rfl
  rw [List.cons_append, sizes?, List.getLast?_concat, if_pos rfl, List.dropLast_concat,
    List.splitOn_intercalate ',' hcomma (by simpa using h), hread]

theorem toList_sizedText (word : String) {sizes : List Nat} (h : sizes ≠ []) :
    (sizedText word sizes).toList =
      word.toList ++ ('(' :: [','].intercalate (sizes.map numeral) ++ [')']) := by
  have hnumerals : (sizes.map toString).map String.toList = sizes.map numeral := by
    rw [List.map_map]
    exact List.map_congr_left fun n _ => String.toList_ofList
  rw [sizedText, if_neg (by simpa using h), String.toList_append, String.toList_append,
    String.toList_append, String.toList_intercalate, hnumerals]
  simp

/-- A word with numbers is read back. -/
theorem ofText?_sizedText {word : String} (hword : '(' ∉ word.toList) (sizes : List Nat) :
    ofText? (sizedText word sizes) = ofWord? word sizes := by
  have hfront : ∀ c ∈ word.toList, decide (c ≠ '(') = true := by
    intro c hc
    rw [decide_eq_true_iff]
    rintro rfl
    exact hword hc
  have hread (text : String) (rest : List Char) (htext : text.toList = word.toList ++ rest)
      (htake : rest.takeWhile (· ≠ '(') = []) (hdrop : rest.dropWhile (· ≠ '(') = rest)
      (hsizes : sizes? rest = some sizes) : ofText? text = ofWord? word sizes := by
    rw [ofText?, htext, List.dropWhile_append_of_pos hfront, List.takeWhile_append_of_pos hfront,
      htake, hdrop, hsizes, List.append_nil, String.ofList_toList]
    rfl
  cases sizes with
  | nil => exact hread word [] (List.append_nil _).symm rfl rfl rfl
  | cons n rest =>
    have hne := List.cons_ne_nil n rest
    exact hread _ _ (toList_sizedText word hne) rfl rfl (sizes?_intercalate hne)

end NativeType

/-! ## Types of rows -/

namespace Catalog

/-- The whole number in a field that is not negative. -/
def wholeField? (row : Row) (name : String) : Option Nat := do
  let v ← field? row name
  let n ← v.int?
  if 0 ≤ n.toInt then some n.toInt.toNat else none

/-- The native type of the column that a row is about.  A number has a size if it has a precision,
which is not zero, and then its scale may be missing. -/
inductive HasType (row : Row) : NativeType → Prop
  | number (hname : textField? row "DATA_TYPE" = some "NUMBER")
      (hprecision : field? row "DATA_PRECISION" = none) (hscale : field? row "DATA_SCALE" = none) :
      HasType row (.number none)
  | sized {digits places : Nat} (hname : textField? row "DATA_TYPE" = some "NUMBER")
      (hprecision : wholeField? row "DATA_PRECISION" = some digits) (hdigits : 0 < digits)
      (hscale : wholeField? row "DATA_SCALE" = some places ∨
        field? row "DATA_SCALE" = none ∧ places = 0) :
      HasType row (.number (some (digits, places)))
  | varchar2 (hname : textField? row "DATA_TYPE" = some "VARCHAR2") :
      HasType row (.varchar2 (wholeField? row "DATA_LENGTH"))
  | char (hname : textField? row "DATA_TYPE" = some "CHAR") :
      HasType row (.char (wholeField? row "DATA_LENGTH"))
  | date (hname : textField? row "DATA_TYPE" = some "DATE") : HasType row .date
  | timestamp (hname : textField? row "DATA_TYPE" = some "TIMESTAMP(6)") : HasType row .timestamp

end Catalog

/-! ## Types that definitions give -/

namespace NativeType

/-- A number, if it fits into 32 bits. -/
def small? (n : Nat) : Option Nat := if n < UInt32.size then some n else none

/-- The type that the definition of a reflected column gives it; `length` is that of its row.  A
single digit is taken for a truth value, a number without precision has the length for its digits,
texts are never filled up, and have 255 characters if there is no length.  Numbers that do not fit
into 32 bits are not read. -/
def defined (length : Option Nat) : NativeType → NativeType
  | number none => number ((length.bind small?).map (·, 0))
  | number (some (digits, places)) =>
    if digits = 1 then number none
    else if digits < UInt32.size then number (some (digits, (small? places).getD 0))
    else number ((length.bind small?).map (·, 0))
  | varchar2 n => varchar2 (some ((n.bind small?).getD 255))
  | char n => varchar2 (some ((n.bind small?).getD 255))
  | date => date
  | timestamp => timestamp

/-- Whether the definition of a reflected column keeps its type; `length` is that of its row. -/
def Kept (length : Option Nat) : NativeType → Prop
  | number none => ∀ n, length = some n → UInt32.size ≤ n
  | number (some (digits, places)) =>
    digits ≠ 1 ∧ digits < UInt32.size ∧ places < UInt32.size
  | varchar2 n => ∃ k < UInt32.size, n = some k
  | char _ => False
  | date => True
  | timestamp => True

theorem small?_eq_some_iff {n k : Nat} : small? n = some k ↔ k = n ∧ n < UInt32.size := by
  unfold small?
  split
  · next h => simp [h, eq_comm]
  · next h => simp [h]

theorem defined_eq_iff (length : Option Nat) (type : NativeType) :
    type.defined length = type ↔ type.Kept length := by
  cases type with
  | number size =>
    cases size with
    | none =>
      cases length with
      | none => simp [defined, Kept]
      | some n => simp [defined, Kept, small?]
    | some size =>
      obtain ⟨digits, places⟩ := size
      simp only [defined, Kept]
      by_cases hone : digits = 1
      · simp [hone]
      · rw [if_neg hone]
        by_cases hdigits : digits < UInt32.size
        · rw [if_pos hdigits]
          unfold small?
          split
          · next hplaces => simp [hone, hdigits, hplaces]
          · next hplaces =>
            -- the scale that is not read is not zero
            refine iff_of_false ?_ fun h => hplaces h.2.2
            intro h
            cases h
            exact hplaces (by decide)
        · rw [if_neg hdigits]
          refine iff_of_false ?_ fun h => hdigits h.2.1
          intro h
          obtain ⟨n, hn, hpair⟩ := Option.map_eq_some_iff.mp (NativeType.number.inj h)
          obtain ⟨k, -, hk⟩ := Option.bind_eq_some_iff.mp hn
          cases hpair
          obtain ⟨rfl, hlt⟩ := small?_eq_some_iff.mp hk
          exact hdigits hlt
  | varchar2 n =>
    cases n with
    | none => simp [defined, Kept]
    | some k =>
      simp only [defined, Kept, Option.bind_some, varchar2.injEq, Option.some.injEq]
      unfold small?
      split
      · next hk => simpa using hk
      · next hk =>
        -- the length that is not read is not the one that texts have without a length
        refine iff_of_false ?_ ?_
        · rintro rfl
          exact hk (by decide)
        · rintro ⟨_, hlt, rfl⟩
          exact hk hlt
  | char n => simp [defined, Kept]
  | date => simp [defined, Kept]
  | timestamp => simp [defined, Kept]

end NativeType

namespace Catalog

theorem uint32?_toNat (v : Value) :
    v.uint32?.map UInt32.toNat =
      (v.int?.bind fun n => if 0 ≤ n.toInt then some n.toInt.toNat else none).bind
        NativeType.small? := by
  unfold Value.uint32?
  cases v.int? with
  | none => rfl
  | some n =>
    simp only [Option.bind_eq_bind, Option.bind_some, Bool.and_eq_true, decide_eq_true_eq]
    by_cases hnonneg : 0 ≤ n.toInt
    · rw [if_pos hnonneg, Option.bind_some, NativeType.small?]
      by_cases hlt : n.toInt < UInt32.size
      · have hnat : n.toInt.toNat < UInt32.size := by omega
        rw [if_pos ⟨hnonneg, hlt⟩, if_pos hnat, Option.map_some, UInt32.toNat_ofNat_of_lt' hnat]
      · have hnat : ¬ n.toInt.toNat < UInt32.size := by omega
        rw [if_neg fun h => hlt h.2, if_neg hnat, Option.map_none]
    · rw [if_neg fun h => hnonneg h.1, if_neg hnonneg]
      rfl

theorem numberField?_toNat (row : Row) (name : String) :
    (numberField? row name).map UInt32.toNat = (wholeField? row name).bind NativeType.small? := by
  unfold numberField? wholeField?
  cases field? row name with
  | none => rfl
  | some v => exact uint32?_toNat v

end Catalog

namespace Define

open Catalog

/-- The native type of a column with its size, as a definition names it. -/
def typeText? (c : Column) : Option String := do
  let type ← c.type
  let typeText ← (nativeType type c.fixed).toOption
  pure (typeText ++ sizeText c type)

/-- What stands behind the type of a column. -/
def optionsText (d : Dialect) (c : Column) : String :=
  (if c.nullable then "" else " NOT NULL") ++ match c.default with
    | some v => " DEFAULT " ++ d.spelling.literal v
    | none => ""

theorem columnTail?_eq (d : Dialect) (c : Column) :
    columnTail? d c = (typeText? c).map (· ++ optionsText d c) := by
  unfold columnTail? typeText?
  cases c.type with
  | none => rfl
  | some type =>
    simp only [Option.bind_eq_bind, Option.bind_some]
    cases nativeType type c.fixed with
    | error e => rfl
    | ok typeText => exact congrArg some (String.append_assoc ..)

/-- The type of the column has a text, and it denotes the native type. -/
def Denotes (c : Column) (type : NativeType) : Prop :=
  ∃ text, typeText? c = some (" " ++ text) ∧ NativeType.ofText? text = some type

theorem denotes_sizedText {c : Column} {type : NativeType} (word : String) (sizes : List Nat)
    (hword : '(' ∉ word.toList)
    (htext : typeText? c = some (" " ++ NativeType.sizedText word sizes))
    (htype : NativeType.ofWord? word sizes = some type) : Denotes c type :=
  ⟨_, htext, (NativeType.ofText?_sizedText hword sizes).trans htype⟩

section types
variable (length precision : Option UInt32) (scale : UInt32)

/-- Without precision, the length stands for the digits of a number. -/
theorem denotes_number : Denotes (columnOfType "NUMBER" length none scale)
    (.number ((length.map UInt32.toNat).map (·, 0))) := by
  cases length with
  | none => exact denotes_sizedText "NUMBER" [] (by decide) rfl rfl
  | some n =>
    refine denotes_sizedText "NUMBER" [n.toNat, 0] (by decide) ?_ rfl
    exact congrArg some (NativeType.space_sizedText_two "NUMBER" n.toNat 0).symm

theorem denotes_number_digits (p : UInt32) : Denotes (columnOfType "NUMBER" length (some p) scale)
    (.number (if p.toNat = 1 then none else some (p.toNat, scale.toNat))) := by
  by_cases hone : p = 1
  · subst hone
    exact denotes_sizedText "NUMBER" [] (by decide) rfl rfl
  · have hnat : p.toNat ≠ 1 := fun h => hone (UInt32.toNat_inj.mp h)
    have hcolumn : columnOfType "NUMBER" length (some p) scale =
        if 0 < scale then { type := some .decimal, length := some p, precision := some scale }
        else { type := some .integer, length := some p } := if_neg hone
    rw [if_neg hnat, hcolumn]
    split
    · refine denotes_sizedText "NUMBER" [p.toNat, scale.toNat] (by decide) ?_ rfl
      exact congrArg some (NativeType.space_sizedText_two "NUMBER" p.toNat scale.toNat).symm
    · next hscale =>
      -- a size of one number has no digits behind the point
      have hzero : scale.toNat = 0 := by
        simpa [UInt32.lt_iff_toNat_lt] using hscale
      rw [hzero]
      refine denotes_sizedText "NUMBER" [p.toNat] (by decide) ?_ rfl
      exact congrArg some (NativeType.space_sizedText_one "NUMBER" p.toNat).symm

theorem denotes_text {native : String} (h : native = "VARCHAR2" ∨ native = "CHAR") :
    Denotes (columnOfType native length precision scale)
      (.varchar2 (some ((length.map UInt32.toNat).getD 255))) := by
  have hcolumn : columnOfType native length precision scale = { type := some .string, length } := by
    rcases h with rfl | rfl <;> rfl
  have hlength : (length.map UInt32.toNat).getD 255 = (length.getD 255).toNat :=
    Option.getD_map UInt32.toNat 255 length
  rw [hcolumn, hlength]
  refine denotes_sizedText "VARCHAR2" [(length.getD 255).toNat] (by decide) ?_ rfl
  exact congrArg some (NativeType.space_sizedText_one "VARCHAR2" (length.getD 255).toNat).symm

end types

/-! ## Definitions of reflected columns -/

theorem numberField?_of_field? {row : Row} {name : String} (h : field? row name = none) :
    numberField? row name = none := by
  rw [numberField?, h, Option.bind_none]

/-- A scale that is missing or not read counts as zero. -/
theorem toNat_scale {row : Row} {places : Nat}
    (h : wholeField? row "DATA_SCALE" = some places ∨
      field? row "DATA_SCALE" = none ∧ places = 0) :
    ((numberField? row "DATA_SCALE").getD 0).toNat = (NativeType.small? places).getD 0 := by
  rcases h with h | ⟨h, rfl⟩
  · rw [← Option.getD_map UInt32.toNat, numberField?_toNat, h, Option.bind_some]
    rfl
  · rw [numberField?_of_field? h]
    rfl

/-- The type of a row is the one that the definition of its column starts from. -/
theorem denotes_of_hasType {row : Row} {type : NativeType} (h : HasType row type) :
    ∃ native, textField? row "DATA_TYPE" = some native ∧
      Denotes (columnOfType native (numberField? row "DATA_LENGTH")
          (numberField? row "DATA_PRECISION") ((numberField? row "DATA_SCALE").getD 0))
        (type.defined (wholeField? row "DATA_LENGTH")) := by
  have hlength := numberField?_toNat row "DATA_LENGTH"
  cases h with
  | number hname hprecision _ =>
    refine ⟨_, hname, ?_⟩
    rw [numberField?_of_field? hprecision, NativeType.defined, ← hlength]
    exact denotes_number ..
  | @sized digits places hname hprecision _ hscale =>
    refine ⟨_, hname, ?_⟩
    have hdigits := numberField?_toNat row "DATA_PRECISION"
    rw [hprecision, Option.bind_some, NativeType.small?] at hdigits
    rw [NativeType.defined, ← hlength]
    by_cases hfits : digits < UInt32.size
    · rw [if_pos hfits] at hdigits
      obtain ⟨p, hp, rfl⟩ := Option.map_eq_some_iff.mp hdigits
      rw [hp, if_pos hfits, ← toNat_scale hscale, ← apply_ite NativeType.number]
      exact denotes_number_digits ..
    · rw [if_neg hfits] at hdigits
      have hone : digits ≠ 1 := by
        rintro rfl
        exact hfits (by decide)
      rw [Option.map_eq_none_iff.mp hdigits, if_neg hone, if_neg hfits]
      exact denotes_number ..
  | varchar2 hname =>
    refine ⟨_, hname, ?_⟩
    rw [NativeType.defined, ← hlength]
    exact denotes_text _ _ _ (.inl rfl)
  | char hname =>
    refine ⟨_, hname, ?_⟩
    rw [NativeType.defined, ← hlength]
    exact denotes_text _ _ _ (.inr rfl)
  | date hname => exact ⟨_, hname, denotes_sizedText "DATE" [] (by decide) rfl rfl⟩
  | timestamp hname => exact ⟨_, hname, denotes_sizedText "TIMESTAMP" [6] (by decide) rfl rfl⟩

/-- The column of a row has a type, whatever its options are. -/
theorem addColumn_of_hasType (t : Table) {row : Row} {name : String} {type : NativeType}
    (hname : textField? row "COLUMN_NAME" = some name) (htype : HasType row type) :
    ∃ c, addColumn t row = .ok (t.addColumn (lower name) c) ∧
      Denotes c (type.defined (wholeField? row "DATA_LENGTH")) := by
  obtain ⟨native, hnative, hdenotes⟩ := denotes_of_hasType htype
  refine ⟨{ columnOfType native (numberField? row "DATA_LENGTH") (numberField? row "DATA_PRECISION")
      ((numberField? row "DATA_SCALE").getD 0) with
    nullable := textField? row "NULLABLE" = some "Y"
    default := field? row "DATA_DEFAULT" }, ?_, hdenotes⟩
  rw [addColumn, requiredText, requiredText, hname, hnative]
  rfl

theorem definable_of_typeText? {c : Column} {text : String} (h : typeText? c = some text) :
    c.definable = .ok () := by
  obtain ⟨type, htype, h⟩ := Option.bind_eq_some_iff.mp h
  rw [Column.definable_eq_ok_iff, htype]
  refine ⟨rfl, ?_⟩
  rintro ⟨⟩
  cases h

/-- The definition of a column is its name, its type and its options. -/
theorem run_column (d : Dialect) {t : Table} {name text : String} {c : Column}
    (hc : t.columns.get? name = some c) (htext : typeText? c = some text) (aliases : AliasTable) :
    ∃ aliases', (column d t name).run.run aliases =
      (.ok (d.defined aliases' name ++ text ++ optionsText d c), aliases') := by
  have hends := ends_column d hc
  rw [definable_of_typeText? htext] at hends
  obtain ⟨definition, aliases', hrun⟩ := hends.exists_run aliases
  have hrenders := ((renders_column d t name).run _ _ _ hrun).2 aliases' (.refl _)
  have htail : columnTail? d c = some (text ++ optionsText d c) := by
    rw [columnTail?_eq, htext, Option.map_some]
  refine ⟨aliases', ?_⟩
  rw [hrun, hrenders, columnTemplate, hc, Option.bind_some, htail]
  simp [Template.spelled, Piece.spelled, String.append_assoc]

end Define

/-- **Reflected columns are defined again by their types.**  The column of a row can be defined
under every table of aliases.  The definition is the name, the text of a type and options; the text
denotes the type that the logical column stands for, which is that of the row exactly if the row has
one of the types that are kept. -/
theorem reflected_type_defined (d : Dialect) (t : Table) {row : Row} {name : String}
    {type : NativeType} (hname : Catalog.textField? row "COLUMN_NAME" = some name)
    (htype : Catalog.HasType row type) :
    let length := Catalog.wholeField? row "DATA_LENGTH"
    ∃ t' c text, Catalog.addColumn t row = .ok t' ∧ t'.columns.get? (lower name) = some c ∧
      (∀ aliases, ∃ aliases', (Define.column d t' (lower name)).run.run aliases =
        (.ok (d.defined aliases' (lower name) ++ " " ++ text ++ Define.optionsText d c),
          aliases')) ∧
      NativeType.ofText? text = some (type.defined length) ∧
      (NativeType.ofText? text = some type ↔ type.Kept length) := by
  intro length
  obtain ⟨c, hadded, text, htext, hread⟩ := Define.addColumn_of_hasType t hname htype
  have hget : (t.addColumn (lower name) c).columns.get? (lower name) = some c := by
    rw [Table.addColumn, OrderedMap.get?_insert, if_pos rfl]
  refine ⟨_, c, text, hadded, hget, ?_, hread, ?_⟩
  · intro aliases
    obtain ⟨aliases', hrun⟩ := Define.run_column d hget htext aliases
    exact ⟨aliases', by rw [hrun, ← String.append_assoc]⟩
  · rw [hread, Option.some_inj]
    exact NativeType.defined_eq_iff length type

/-- The row of a column that must not be null, of a type with sizes. -/
def sizedRow (name type : String) (sizes : List (String × Int64)) : Row :=
  OrderedMap.ofList ([("COLUMN_NAME", .text name), ("DATA_TYPE", .text type),
    ("NULLABLE", .text "N")] ++ sizes.map fun e => (e.1, .int e.2))

/-- A price of eight digits, two of them behind the point, is defined again as that. -/
theorem reflected_type_defined_price :
    let row := sizedRow "PRICE" "NUMBER"
      [("DATA_LENGTH", 22), ("DATA_PRECISION", 8), ("DATA_SCALE", 2)]
    let price : NativeType := .number (some (8, 2))
    Catalog.textField? row "COLUMN_NAME" = some "PRICE" ∧ Catalog.HasType row price ∧
    price.Kept (some 22) ∧
    ∃ t c text, Catalog.addColumn { name := "books" } row = .ok t ∧
      t.columns.get? "price" = some c ∧
      (∀ aliases, ∃ aliases', (Define.column {} t "price").run.run aliases =
        (.ok (Dialect.defined {} aliases' "price" ++ " " ++ text ++ Define.optionsText {} c),
          aliases')) ∧
      NativeType.ofText? text = some price := by
  intro row price
  have hname : Catalog.textField? row "COLUMN_NAME" = some "PRICE" := by decide +kernel
  have htype : Catalog.HasType row price :=
    .sized (by decide +kernel) (by decide +kernel) (by decide) (.inl (by decide +kernel))
  have hkept : price.Kept (some 22) := ⟨by decide, by decide, by decide⟩
  have hlength : Catalog.wholeField? row "DATA_LENGTH" = some 22 := by decide +kernel
  obtain ⟨t, c, text, hadded, hget, hrun, -, hiff⟩ :=
    reflected_type_defined {} { name := "books" } hname htype
  have hlower : lower "PRICE" = "price" := by decide +kernel
  rw [hlower] at hget hrun
  rw [hlength] at hiff
  exact ⟨hname, htype, hkept, t, c, text, hadded, hget, hrun, hiff.mpr hkept⟩

/-- A flag of one digit, an amount without precision, a code of two characters, a title without
length and a text with a length beyond 32 bits are not defined again as what they are. -/
theorem reflected_type_changed :
    let flag := sizedRow "FLAG" "NUMBER"
      [("DATA_LENGTH", 22), ("DATA_PRECISION", 1), ("DATA_SCALE", 0)]
    let amount := sizedRow "AMOUNT" "NUMBER" [("DATA_LENGTH", 22)]
    let code := sizedRow "CODE" "CHAR" [("DATA_LENGTH", 2)]
    let title := sizedRow "TITLE" "VARCHAR2" []
    let body := sizedRow "BODY" "VARCHAR2" [("DATA_LENGTH", 4294967296)]
    let definitions : Except SqlError (List String) := do
      let t ← [flag, amount, code, title, body].foldlM Catalog.addColumn { name := "books" }
      ((t.columns.keys.mapM (Define.column {} t)).run.run {}).1
    (Catalog.HasType flag (.number (some (1, 0))) ∧ Catalog.HasType amount (.number none) ∧
      Catalog.HasType code (.char (some 2)) ∧ Catalog.HasType title (.varchar2 none) ∧
      Catalog.HasType body (.varchar2 (some 4294967296))) ∧
    definitions = .ok ["\"flag\" NUMBER NOT NULL", "\"amount\" NUMBER(22,0) NOT NULL",
      "\"code\" VARCHAR2(2) NOT NULL", "\"title\" VARCHAR2(255) NOT NULL",
      "\"body\" VARCHAR2(255) NOT NULL"] ∧
    ["NUMBER", "NUMBER(22,0)", "VARCHAR2(2)", "VARCHAR2(255)"].map NativeType.ofText? =
      [some (.number none), some (.number (some (22, 0))), some (.varchar2 (some 2)),
        some (.varchar2 (some 255))] := by
  intro flag amount code title body definitions
  have hcode : Catalog.wholeField? code "DATA_LENGTH" = some 2 := by decide +kernel
  have htitle : Catalog.wholeField? title "DATA_LENGTH" = none := by decide +kernel
  have hbody : Catalog.wholeField? body "DATA_LENGTH" = some 4294967296 := by decide +kernel
  refine ⟨⟨.sized ?_ ?_ ?_ (.inl ?_), .number ?_ ?_ ?_, hcode ▸ .char ?_, htitle ▸ .varchar2 ?_,
    hbody ▸ .varchar2 ?_⟩, ?_, ?_⟩
  all_goals decide +kernel

end RownumSql
