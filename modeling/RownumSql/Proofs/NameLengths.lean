import Mathlib.Data.List.Forall2
import Mathlib.Data.Nat.Digits.Defs
import RownumSql.Proofs.QuotedNames
import RownumSql.Proofs.Recompilation

/-!
# Lengths of quoted names

A server refuses names beyond a length, so a word beyond it stands in SQL as its alias, and aliases
stay within the length as long as their numbers have few enough digits.  But a part of an identifier
may have other characters than a word has, and then it is quoted as it stands, however long it is:

    every part is quoted within the limit ↔ each is a word, or itself within the limit
                                                                        (quoted_parts_fit_iff)
-/

namespace RownumSql

/-! ## Aliases -/

namespace AliasTable

/-- An alias has a number up to the size of the table. -/
theorem Valid.exists_number {t : AliasTable} (h : t.Valid) {short word : String}
    (he : (short, word) ∈ t.entries) : ∃ n ≤ t.size, short = t.stem ++ toString n := by
  have hmem : short ∈ t.entries.map Prod.fst := List.mem_map_of_mem he
  rw [h.aliases, List.mem_map] at hmem
  obtain ⟨n, hn, rfl⟩ := hmem
  rw [List.mem_range'_1] at hn
  exact ⟨n, by omega, rfl⟩

/-- The alias of a word is as long as the stem and a number with few digits. -/
theorem Valid.length_nameOf_le {t : AliasTable} (h : t.Valid) {digits : Nat} (hpos : 0 < digits)
    (hsize : t.size < 10 ^ digits) {word : String} (hknown : t.Knows word) (hlong : t.isLong word) :
    (t.nameOf word).length ≤ t.stem.length + digits := by
  have he := h.alias?_eq_some_iff.mp (hknown.alias? hlong)
  obtain ⟨n, hn, hname⟩ := h.exists_number he
  have hdigits : (toString n).length ≤ digits :=
    Nat.repr_length n digits hpos (Nat.lt_of_le_of_lt hn hsize)
  rw [hname, String.length_append]
  omega

end AliasTable

/-! ## Parts under a table -/

namespace NamePart

/-- A part of a name under a table. -/
def under (t : AliasTable) (part : String) : NamePart :=
  if part = "*" then star else quoted (t.nameOf part)

/-- Shortening a part only adds to the table, and every later table has the part as it was
shortened. -/
theorem run_shorten (part : String) (t : AliasTable) :
    t.Extends ((shorten part).run t).2 ∧ ∀ u, ((shorten part).run t).2.Extends u →
      ((shorten part).run t).1 = under u part ∧ u.Knows part := by
  unfold shorten under
  split
  · next hstar =>
    refine ⟨.refl t, ?_⟩
    intro u _
    refine ⟨rfl, ?_⟩
    have hlong : u.isLong part = false := by
      rw [hstar]
      rfl
    exact congrArg Prod.snd (AliasTable.run_shorten_of_not_long hlong)
  · refine ⟨(AliasTable.repeats_shorten part t).1, ?_⟩
    intro u hu
    obtain ⟨hknown, hname⟩ := AliasTable.knows_of_extends hu
    refine ⟨?_, hknown⟩
    rw [hname]
    rfl

/-- Every later table has all parts as they were shortened. -/
theorem run_mapM_shorten (ps : List String) (t : AliasTable) :
    t.Extends ((ps.mapM shorten).run t).2 ∧ ∀ u, ((ps.mapM shorten).run t).2.Extends u →
      ((ps.mapM shorten).run t).1 = ps.map (under u) ∧ ∀ part ∈ ps, u.Knows part := by
  induction ps generalizing t with
  | nil => exact ⟨.refl t, fun u _ => ⟨rfl, nofun⟩⟩
  | cons part rest ih =>
    obtain ⟨hfirst, hpart⟩ := run_shorten part t
    obtain ⟨hothers, hrest⟩ := ih ((shorten part).run t).2
    have hrun : ((part :: rest).mapM shorten).run t =
        (((shorten part).run t).1 :: ((rest.mapM shorten).run ((shorten part).run t).2).1,
          ((rest.mapM shorten).run ((shorten part).run t).2).2) := by
      rw [List.mapM_cons]
      rfl
    rw [hrun]
    refine ⟨hfirst.trans hothers, ?_⟩
    intro u hu
    obtain ⟨hsame, hknown⟩ := hpart u (hothers.trans hu)
    obtain ⟨hsame', hknown'⟩ := hrest u hu
    refine ⟨?_, List.forall_mem_cons.mpr ⟨hknown, hknown'⟩⟩
    rw [hsame, hsame', List.map_cons]

/-- A part is written as a star if it is one, and else between quotes, with at most `limit`
characters. -/
def Fits (limit : Nat) (part : String) (x : NamePart) : Prop :=
  if part = "*" then x = star else ∃ short, x = quoted short ∧ short.length ≤ limit

/-- Under a table that knows it, a part fits if it is a word, or if it is not long itself. -/
theorem fits_under_iff {t : AliasTable} (h : t.Valid) {digits : Nat} (hpos : 0 < digits)
    (hsize : t.size < 10 ^ digits) (hstem : t.stem.length + digits ≤ t.maxLength)
    {part : String} (hknown : t.Knows part) :
    Fits t.maxLength part (under t part) ↔
      AliasTable.isWord part = true ∨ part.length ≤ t.maxLength := by
  unfold Fits under
  split
  · next hstar =>
    have hone : part.length = 1 := by
      rw [hstar]
      rfl
    have hlimit : part.length ≤ t.maxLength := by omega
    exact iff_of_true rfl (.inr hlimit)
  · have hshort : (∃ short, quoted (t.nameOf part) = quoted short ∧ short.length ≤ t.maxLength) ↔
        (t.nameOf part).length ≤ t.maxLength := by simp
    rw [hshort]
    cases hlong : t.isLong part with
    | true =>
      have hname := h.length_nameOf_le hpos hsize hknown hlong
      rw [AliasTable.isLong, Bool.and_eq_true] at hlong
      exact iff_of_true (by omega) (.inl hlong.1)
    | false =>
      -- the part stands as it is, so its own length counts
      rw [AliasTable.nameOf_of_not_long hlong]
      rw [AliasTable.isLong, Bool.and_eq_false_iff, decide_eq_false_iff_not, Nat.not_lt] at hlong
      constructor
      · intro hle
        exact .inr hle
      · rintro (hword | hle)
        · rw [hword] at hlong
          simpa using hlong
        · exact hle

end NamePart

/-! ## Identifiers -/

/-- What is written of a name reads as its parts, and each of them fits. -/
def Dialect.PartsFit (limit : Nat) (name text : String) : Prop :=
  ∃ xs, NamePart.readAll? text.toList = some xs ∧
    List.Forall₂ (NamePart.Fits limit) (Dialect.parts name) xs

/-- If the aliases stay within the limit, then the parts of a name fit that are words or not long
themselves. -/
theorem Dialect.partsFit_quote_iff {d : Dialect} (hquotes : d.quotes = true) {t u : AliasTable}
    {name : String} (hplain : Dialect.isPlain name = true) (hu : ((d.quote name).run t).2 = u)
    (hvalid : u.Valid) {digits : Nat} (hpos : 0 < digits) (hsize : u.size < 10 ^ digits)
    (hstem : u.stem.length + digits ≤ u.maxLength) :
    Dialect.PartsFit u.maxLength name ((d.quote name).run t).1 ↔
      ∀ part ∈ Dialect.parts name,
        AliasTable.isWord part = true ∨ part.length ≤ u.maxLength := by
  have hlast : ((Dialect.shortParts name).run t).2 = u := by
    rw [← hu, Dialect.quote_eq hquotes hplain]
    rfl
  -- the parts are what the last table has, so they can be measured one by one under it
  obtain ⟨-, hlater⟩ := NamePart.run_mapM_shorten (Dialect.parts name) t
  obtain ⟨hparts, hknown⟩ := hlater u (hlast ▸ .refl _)
  have hread : NamePart.readAll? ((d.quote name).run t).1.toList
      = some ((Dialect.parts name).map (.under u)) := by
    rw [Dialect.readAll?_quote hquotes hplain, ← hparts]
    rfl
  have hfit : Dialect.PartsFit u.maxLength name ((d.quote name).run t).1 ↔
      ∀ part ∈ Dialect.parts name, NamePart.Fits u.maxLength part (.under u part) := by
    rw [Dialect.PartsFit, hread]
    constructor
    · rintro ⟨xs, hxs, hall⟩
      cases hxs
      exact List.forall₂_same.mp (List.forall₂_map_right_iff.mp hall)
    · intro hall
      exact ⟨_, rfl, List.forall₂_map_right_iff.mpr (List.forall₂_same.mpr hall)⟩
  rw [hfit]
  refine forall₂_congr fun part hpart => ?_
  exact NamePart.fits_under_iff hvalid hpos hsize hstem (hknown part hpart)

/-- **Identifiers are quoted within the limit if their long parts are words.**  However a session
with the usual settings was used before, as long as it has made fewer than 10^11 aliases, every part
of an identifier other than a star is written between quotes with at most 30 characters if and only
if each part that is longer is a word: letters, digits, underscores and hyphens. -/
theorem quoted_parts_fit_iff (calls : List Call) {name : String}
    (hplain : Dialect.isPlain name = true) :
    let d : Dialect := {}
    let written := (d.quote name).run (d.calls calls {})
    written.2.size < 10 ^ 11 →
      (Dialect.PartsFit 30 name written.1 ↔
        ∀ part ∈ Dialect.parts name, AliasTable.isWord part = true ∨ part.length ≤ 30) := by
  intro d written hsize
  have hgrows : AliasTable.Grows {} written.2 :=
    (d.grows_calls calls {}).trans (d.grows_quote name _)
  have hlimit : written.2.maxLength = 30 := hgrows.extends.maxLength
  have hstem : written.2.stem.length + 11 ≤ written.2.maxLength := by
    rw [hlimit, hgrows.stem]
    decide
  have hvalid : written.2.Valid := hgrows.valid (AliasTable.valid_empty 30 "XXAUTO_SHORTENED_ID")
  have hiff := Dialect.partsFit_quote_iff (d := d) rfl hplain rfl hvalid (by decide) hsize hstem
  rw [hlimit] at hiff
  exact hiff

/-- Of two parts beyond the limit one gets its alias, after another word has got the first. -/
theorem quoted_parts_fit_iff_secondAlias :
    let d : Dialect := {}
    let name := "Articles.Articles__a_really_long_field_name.*"
    let calls := [Call.quote "another_really_long_column_name_here"]
    Dialect.isPlain name = true ∧
    ((d.quote name).run (d.calls calls {})).2.size < 10 ^ 11 ∧
    ((d.quote name).run (d.calls calls {})).1 = "\"Articles\".\"XXAUTO_SHORTENED_ID2\".*" ∧
    Dialect.PartsFit 30 name ((d.quote name).run (d.calls calls {})).1 := by
  intro d name calls
  have hplain : Dialect.isPlain name = true := by decide
  have hsize : ((d.quote name).run (d.calls calls {})).2.size < 10 ^ 11 := by decide +kernel
  have hparts : ∀ part ∈ Dialect.parts name, AliasTable.isWord part = true ∨ part.length ≤ 30 := by
    decide +kernel
  exact ⟨hplain, hsize, by decide +kernel, (quoted_parts_fit_iff calls hplain hsize).mpr hparts⟩

/-- A name with a dollar sign is quoted beyond the limit. -/
theorem quoted_part_beyond_limit :
    let d : Dialect := {}
    let name := "ACCOUNT$TRANSACTION_HISTORY_TABLE"
    Dialect.isPlain name = true ∧ ((d.quote name).run {}).2.size < 10 ^ 11 ∧
    ((d.quote name).run {}).1 = "\"ACCOUNT$TRANSACTION_HISTORY_TABLE\"" ∧
    ¬ Dialect.PartsFit 30 name ((d.quote name).run {}).1 := by
  intro d name
  have hplain : Dialect.isPlain name = true := by decide
  have hrun : (d.quote name).run {} = ("\"ACCOUNT$TRANSACTION_HISTORY_TABLE\"", {}) :=
    Prod.ext (by decide +kernel) (by decide +kernel)
  have hsize : AliasTable.size {} < 10 ^ 11 := by decide
  have hiff := Dialect.partsFit_quote_iff (d := d) (t := {}) rfl hplain (congrArg Prod.snd hrun)
    (AliasTable.valid_empty 30 "XXAUTO_SHORTENED_ID") (by decide) hsize (by decide)
  have hlong : ¬ ∀ part ∈ Dialect.parts name,
      AliasTable.isWord part = true ∨ part.length ≤ 30 := by decide +kernel
  refine ⟨hplain, ?_, ?_, ?_⟩
  · rw [hrun]
    decide
  · rw [hrun]
  · intro hfit
    exact hlong (hiff.mp hfit)

end RownumSql
