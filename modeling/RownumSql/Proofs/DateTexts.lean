import RownumSql.Calendar.Reader

/-!
# Texts of dates and moments

A date or a moment is read back from its own text, over the whole range of years and with every
fraction of a second and every leap second.  The text of a date is no text of a moment, so a reader
that tries moments first does not take one for the other:

    readDate? d.chars = some d                    (readDate?_chars)
    readMoment? t.chars = some t                  (readMoment?_chars)
    readMoment? d.chars = none                    (readMoment?_chars_date)

The parts of a text are digits up to the mark that follows; `takeDigits_append` reads one part off.
-/

namespace RownumSql.Text

/-! ## Digits -/

theorem isDigit_of_mem_padded {width n : Nat} {c : Char} (h : c ∈ padded width n) :
    isDigit c = true := by
  rcases List.mem_append.mp h with h | h
  · rw [(List.mem_replicate.mp h).2]
    rfl
  · exact isDigit_of_mem_numeral h

theorem padded_ne_nil (width n : Nat) : padded width n ≠ [] :=
  List.append_ne_nil_of_right_ne_nil _ Nat.toDigits_ne_nil

theorem length_padded_of_lt {width n : Nat} (hw : 0 < width) (hn : n < Nat.pow 10 width) :
    (padded width n).length = width := by
  have hlen : (numeral n).length ≤ width :=
    (Nat.length_toDigits_le_iff (by decide) hw).mpr hn
  rw [padded, List.length_append, List.length_replicate, Nat.sub_add_cancel hlen]

theorem digitsValue_padded (width n : Nat) : digitsValue (padded width n) = n := by
  have hzeros (k : Nat) : Nat.ofDigitChars 10 (List.replicate k '0') 0 = 0 := by
    induction k with
    | zero => rfl
    | succ k ih => rw [List.replicate_succ, Nat.ofDigitChars_cons]; exact ih
  rw [digitsValue, padded, Nat.ofDigitChars_append, hzeros, numeral, Nat.ofDigitChars_ten_toDigits]

/-- The next character, if there is one, does not go on with the digits. -/
def EndsDigits (rest : List Char) : Prop := ∀ c ∈ rest.head?, isDigit c = false

theorem takeWhile_endsDigits {rest : List Char} (h : EndsDigits rest) :
    rest.takeWhile isDigit = [] := by
  cases rest with
  | nil => rfl
  | cons c rest => exact List.takeWhile_cons_of_neg (by simp [h c rfl])

theorem EndsDigits.take {rest : List Char} (h : EndsDigits rest) (k : Nat) :
    EndsDigits (rest.take k) := by
  intro c hc
  rw [List.head?_take] at hc
  split at hc
  · cases hc
  · exact h c hc

theorem takeDigits_append {most : Nat} {ds rest : List Char} (hds : ∀ c ∈ ds, isDigit c = true)
    (hne : ds ≠ []) (hlen : ds.length ≤ most) (hrest : ds.length = most ∨ EndsDigits rest) :
    takeDigits most (ds ++ rest) = some (digitsValue ds, rest) := by
  have hstop : (rest.take (most - ds.length)).takeWhile isDigit = [] := by
    rcases hrest with hfull | hends
    · rw [hfull, Nat.sub_self]
      rfl
    · exact takeWhile_endsDigits (hends.take _)
  have htaken : ((ds ++ rest).take most).takeWhile isDigit = ds := by
    rw [List.take_append, List.take_of_length_le hlen, List.takeWhile_append_of_pos hds, hstop,
      List.append_nil]
  unfold takeDigits
  simp only [htaken, List.isEmpty_iff, hne, if_false, List.drop_left]

theorem takeDigits_padded {width n : Nat} (hw : 0 < width) (hn : n < Nat.pow 10 width)
    (rest : List Char) : takeDigits width (padded width n ++ rest) = some (n, rest) := by
  have hlen := length_padded_of_lt hw hn
  rw [takeDigits_append (fun _ => isDigit_of_mem_padded) (padded_ne_nil width n)
    (Nat.le_of_eq hlen) (.inl hlen), digitsValue_padded]

/-! ## Blanks -/

theorem isBlank_of_isDigit {c : Char} (h : isDigit c = true) : isBlank c = false := by
  have hc : 48 ≤ c.toNat ∧ c.toNat ≤ 57 := by
    simpa [isDigit, Char.le_def, UInt32.le_iff_toNat_le] using h
  simp [isBlank]
  omega

theorem dropBlank_cons {c : Char} {cs : List Char} (h : isBlank c = false) :
    dropBlank (c :: cs) = c :: cs :=
  List.dropWhile_cons_of_neg (by simp [h])

theorem dropBlank_padded (width n : Nat) (rest : List Char) :
    dropBlank (padded width n ++ rest) = padded width n ++ rest := by
  cases h : padded width n with
  | nil => exact absurd h (padded_ne_nil width n)
  | cons c cs =>
    have hc : isDigit c = true := isDigit_of_mem_padded (h ▸ List.mem_cons_self)
    exact dropBlank_cons (isBlank_of_isDigit hc)

end RownumSql.Text

namespace RownumSql.Calendar

open RownumSql.Text

/-! ## Dates -/

theorem skipMark_padded {mark : Char} (hmark : isBlank mark = false) (width n : Nat)
    (rest : List Char) :
    skipMark mark (mark :: (padded width n ++ rest)) = some (padded width n ++ rest) := by
  rw [skipMark, dropBlank_cons hmark]
  exact (if_pos rfl).trans (by rw [dropBlank_padded])

/-- A text that starts with a digit is read as a year without a sign. -/
theorem readYear_of_isDigit {c : Char} {cs : List Char} (h : isDigit c = true) :
    readYear (c :: cs) = (takeDigits 4 (c :: cs)).map fun (n, rest) => ((n : Int), rest) := by
  unfold readYear
  split
  · next hplus => cases hplus; exact absurd h (by decide)
  · next hminus => cases hminus; exact absurd h (by decide)
  · rfl

theorem readYear_yearText (year : Int) (rest : List Char) (hrest : EndsDigits rest) :
    readYear (yearText year ++ rest) = some (year, rest) := by
  -- after a sign the digits go on up to `rest`, however many there are
  have hsigned : takeDigits (padded 4 year.natAbs ++ rest).length (padded 4 year.natAbs ++ rest)
      = some (year.natAbs, rest) := by
    rw [takeDigits_append (fun _ => isDigit_of_mem_padded) (padded_ne_nil 4 _) (by simp)
      (.inr hrest), digitsValue_padded]
  unfold yearText
  split
  · next h =>
    simp only [Bool.and_eq_true, decide_eq_true_eq] at h
    have hfour : takeDigits 4 (padded 4 year.natAbs ++ rest) = some (year.natAbs, rest) :=
      takeDigits_padded (by decide) (show year.natAbs < 10000 by omega) rest
    cases hp : padded 4 year.natAbs with
    | nil => exact absurd hp (padded_ne_nil 4 _)
    | cons c cs =>
      have hc : isDigit c = true := isDigit_of_mem_padded (hp ▸ List.mem_cons_self)
      rw [hp] at hfour
      have hyear : (year.natAbs : Int) = year := Int.natAbs_of_nonneg h.1
      rw [List.cons_append, readYear_of_isDigit hc, ← List.cons_append, hfour]
      exact congrArg (fun y => some (y, rest)) hyear
  · split
    · next hneg =>
      have hyear : -(year.natAbs : Int) = year := by omega
      rw [List.cons_append, readYear, hsigned]
      exact congrArg (fun y => some (y, rest)) hyear
    · next hpos =>
      have hyear : (year.natAbs : Int) = year := by omega
      rw [List.cons_append, readYear, hsigned]
      exact congrArg (fun y => some (y, rest)) hyear

theorem dropBlank_yearText (year : Int) (rest : List Char) :
    dropBlank (yearText year ++ rest) = yearText year ++ rest := by
  unfold yearText
  split
  · exact dropBlank_padded 4 _ rest
  · rw [List.cons_append]
    split <;> exact dropBlank_cons (by decide)

theorem Date.ofParts?_self (d : Date) : Date.ofParts? d.year d.month d.day = some d :=
  dif_pos d.onCalendar

theorem Date.month_lt (d : Date) : d.month < 100 := by
  have := d.onCalendar.2.1
  omega

theorem Date.day_lt (d : Date) : d.day < 100 := by
  have hday := d.onCalendar.2.2
  have hmonth : daysIn d.year d.month ≤ 31 := by
    unfold daysIn
    repeat' split
    all_goals decide
  omega

theorem readDatePart_chars (d : Date) (rest : List Char) :
    readDatePart (d.chars ++ rest) = some (d, dropBlank rest) := by
  have hhyphen : isBlank '-' = false := by decide
  have htext : d.chars ++ rest
      = yearText d.year ++ '-' :: (padded 2 d.month ++ '-' :: (padded 2 d.day ++ rest)) := by
    simp [Date.chars]
  have hends (cs : List Char) : EndsDigits ('-' :: cs) := by
    intro c hc
    obtain rfl : '-' = c := by simpa using hc
    rfl
  rw [htext]
  simp only [readDatePart, dropBlank_yearText, readYear_yearText _ _ (hends _),
    skipMark_padded hhyphen, takeDigits_padded (Nat.succ_pos 1) d.month_lt,
    takeDigits_padded (Nat.succ_pos 1) d.day_lt, d.ofParts?_self, Option.bind_eq_bind,
    Option.bind_some, Option.pure_def]

theorem readDate?_chars (d : Date) : readDate? d.chars = some d := by
  have hread := readDatePart_chars d []
  rw [List.append_nil] at hread
  rw [readDate?, hread]
  rfl

/-- Nothing follows a date where a moment goes on with its time. -/
theorem readMoment?_chars_date (d : Date) : readMoment? d.chars = none := by
  have hread := readDatePart_chars d []
  rw [List.append_nil] at hread
  rw [readMoment?, hread]
  rfl

/-! ## Moments -/

/-- A point and digits, as many as `width` says, denote a number of units of that size. -/
theorem readFraction_padded {width n : Nat} (hw : 0 < width) (hnine : width ≤ 9)
    (hn : n < Nat.pow 10 width) :
    readFraction ('.' :: padded width n) = some (n * Nat.pow 10 (9 - width), []) := by
  have hlen := length_padded_of_lt hw hn
  have htaken : (padded width n).takeWhile isDigit = padded width n := by
    have h : (padded width n ++ []).takeWhile isDigit = padded width n ++ [].takeWhile isDigit :=
      List.takeWhile_append_of_pos fun _ => isDigit_of_mem_padded
    simpa using h
  have hcut : (padded width n).take 9 = padded width n :=
    List.take_of_length_le (by omega)
  simp only [readFraction, htaken, hcut, List.isEmpty_iff, padded_ne_nil, if_false,
    digitsValue_padded, hlen, Nat.pow_eq, List.drop_of_length_le (Nat.le_of_eq hlen)]

theorem readFraction_fractionChars {n : Nat} (hn : n < 1000000000) :
    readFraction (fractionChars n) = some (n, []) := by
  unfold fractionChars
  split
  · next hzero => rw [hzero]; rfl
  · split
    · next hmilli =>
      have hlt : n / 1000000 < 1000 := by omega
      have hexact : n / 1000000 * 1000000 = n := by omega
      rw [readFraction_padded (by decide) (by decide) hlt]
      exact congrArg (fun k => some (k, [])) hexact
    · split
      · next hmicro =>
        have hlt : n / 1000 < 1000000 := by omega
        have hexact : n / 1000 * 1000 = n := by omega
        rw [readFraction_padded (by decide) (by decide) hlt]
        exact congrArg (fun k => some (k, [])) hexact
      · rw [readFraction_padded (by decide) (by decide) hn]
        exact congrArg (fun k => some (k, [])) (Nat.mul_one n)

theorem below?_fin {n : Nat} (k : Fin n) : below? n k = some k := dif_pos k.isLt

theorem readMoment?_chars (t : Moment) : readMoment? t.chars = some t := by
  have hletter : isBlank 'T' = false := by decide
  have hcolon : isBlank ':' = false := by decide
  have hdate : readDatePart t.chars = some (t.date, 'T' :: (padded 2 t.hour
      ++ ':' :: (padded 2 t.minute ++ ':' :: (padded 2 t.second ++ fractionChars t.nanosecond)))) := by
    rw [Moment.chars, Moment.clockChars, List.append_assoc, readDatePart_chars, List.cons_append,
      dropBlank_cons hletter]
    simp
  have hhour : (t.hour : Nat) < 100 := by omega
  have hminute : (t.minute : Nat) < 100 := by omega
  have hsecond : (t.second : Nat) < 100 := by omega
  have hnano : (t.nanosecond : Nat) < 1000000000 := t.nanosecond.isLt
  rw [readMoment?]
  refine Option.bind_eq_some_iff.mpr ⟨_, hdate, ?_⟩
  refine Option.bind_eq_some_iff.mpr ⟨_, skipMark_padded hletter 2 _ _, ?_⟩
  refine Option.bind_eq_some_iff.mpr ⟨_, takeDigits_padded (Nat.succ_pos 1) hhour _, ?_⟩
  refine Option.bind_eq_some_iff.mpr ⟨_, skipMark_padded hcolon 2 _ _, ?_⟩
  refine Option.bind_eq_some_iff.mpr ⟨_, takeDigits_padded (Nat.succ_pos 1) hminute _, ?_⟩
  refine Option.bind_eq_some_iff.mpr ⟨_, skipMark_padded hcolon 2 _ _, ?_⟩
  refine Option.bind_eq_some_iff.mpr ⟨_, takeDigits_padded (Nat.succ_pos 1) hsecond _, ?_⟩
  refine Option.bind_eq_some_iff.mpr ⟨_, readFraction_fractionChars hnano, ?_⟩
  refine Option.bind_eq_some_iff.mpr ⟨(), rfl, ?_⟩
  refine Option.bind_eq_some_iff.mpr ⟨_, below?_fin t.hour, ?_⟩
  refine Option.bind_eq_some_iff.mpr ⟨_, below?_fin t.minute, ?_⟩
  refine Option.bind_eq_some_iff.mpr ⟨_, below?_fin t.second, ?_⟩
  refine Option.bind_eq_some_iff.mpr ⟨_, below?_fin t.nanosecond, ?_⟩
  rfl

end RownumSql.Calendar
