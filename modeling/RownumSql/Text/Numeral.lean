/-!
# Decimal numerals

Reading whole numbers from ASCII digits and writing them, with leading zeros where a width is set.
-/

namespace RownumSql.Text

/-- ASCII digits only. -/
def isDigit (c : Char) : Bool := '0' ≤ c && c ≤ '9'

/-- The number that a row of digits denotes. -/
def digitsValue (cs : List Char) : Nat := Nat.ofDigitChars 10 cs 0

/-- A whole number: digits and nothing else, at least one. -/
def readNat? (cs : List Char) : Option Nat :=
  if !cs.isEmpty && cs.all isDigit then some (digitsValue cs) else none

/-- A whole number with an optional sign. -/
def readInt? : List Char → Option Int
  | '+' :: cs => (readNat? cs).map Int.ofNat
  | '-' :: cs => (readNat? cs).map fun n => -(n : Int)
  | cs => (readNat? cs).map Int.ofNat

/-- A whole number with an optional sign, within the bounds. -/
def readBounded? (low high : Int) (cs : List Char) : Option Int :=
  (readInt? cs).filter fun n => low ≤ n && n ≤ high

/-- A whole number that may have a plus sign but no minus sign, at most `high`. -/
def readUnsigned? (high : Nat) : List Char → Option Nat
  | '+' :: cs => (readNat? cs).filter (· ≤ high)
  | cs => (readNat? cs).filter (· ≤ high)

def numeral (n : Nat) : List Char := Nat.toDigits 10 n

theorem isDigit_of_mem_numeral {n : Nat} {c : Char} (h : c ∈ numeral n) : isDigit c = true :=
  Nat.isDigit_of_mem_toDigits (by decide) (by decide) h

theorem readNat?_numeral (n : Nat) : readNat? (numeral n) = some n := by
  have hdigits : (numeral n).all isDigit = true :=
    List.all_eq_true.mpr fun c => isDigit_of_mem_numeral
  have hne : (numeral n).isEmpty = false := List.isEmpty_eq_false_iff.mpr Nat.toDigits_ne_nil
  have hvalue : digitsValue (numeral n) = n := Nat.ofDigitChars_ten_toDigits
  rw [readNat?, hdigits, hne, hvalue]
  rfl

theorem toString_injective {m n : Nat} (h : toString m = toString n) : m = n := by
  have hd : numeral m = numeral n := String.ofList_injective h
  unfold numeral at hd
  rw [← Nat.ofDigitChars_ten_toDigits (n := m), hd, Nat.ofDigitChars_ten_toDigits]

theorem isDigit_of_mem_toString {n : Nat} {c : Char} (h : c ∈ (toString n).toList) :
    c.isDigit = true := by
  rw [show (toString n).toList = Nat.toDigits 10 n from String.toList_ofList] at h
  exact Nat.isDigit_of_mem_toDigits (by decide) (by decide) h

theorem exists_toString_eq_concat (n : Nat) :
    ∃ front digit, (toString n).toList = front ++ [digit] ∧ digit.isDigit = true := by
  have hlist : (toString n).toList = Nat.toDigits 10 n := String.toList_ofList
  rcases List.eq_nil_or_concat (Nat.toDigits 10 n) with hnil | ⟨front, digit, hcons⟩
  · exact absurd hnil Nat.toDigits_ne_nil
  · rw [List.concat_eq_append] at hcons
    refine ⟨front, digit, hlist.trans hcons, isDigit_of_mem_toString (n := n) ?_⟩
    rw [hlist, hcons]
    exact List.mem_append_right _ List.mem_cons_self

theorem toLower_of_isDigit {c : Char} (h : c.isDigit) : c.toLower = c := by
  simp only [Char.isDigit, Bool.and_eq_true, decide_eq_true_eq] at h
  refine dif_neg ?_
  rintro ⟨hge, -⟩
  exact absurd (UInt32.le_trans hge h.2) (by decide)

/-- The numeral with zeros in front up to `width` digits. -/
def padded (width n : Nat) : List Char :=
  List.replicate (width - (numeral n).length) '0' ++ numeral n

/-- The digits of one or two characters' worth at the front, with what follows them. -/
def takeDigits (most : Nat) (cs : List Char) : Option (Nat × List Char) :=
  let ds := (cs.take most).takeWhile isDigit
  if ds.isEmpty then none else some (digitsValue ds, cs.drop ds.length)

end RownumSql.Text
