import RownumSql.Calendar.Date
import RownumSql.Text.Basic

/-!
# Reading dates

A date is a year, a month and a day with hyphens between; a moment goes on with a `T` and a time.
Blanks may stand around every part.  A year without a sign has at most four digits.
-/

namespace RownumSql.Calendar

open RownumSql.Text

/-- The text after the expected character, blanks around it dropped. -/
def skipMark (mark : Char) (cs : List Char) : Option (List Char) :=
  match dropBlank cs with
  | c :: rest => if c = mark then some (dropBlank rest) else none
  | [] => none

/-- A year: any number of digits after a sign, up to four without one. -/
def readYear : List Char → Option (Int × List Char)
  | '+' :: cs => (takeDigits cs.length cs).map fun (n, rest) => ((n : Int), rest)
  | '-' :: cs => (takeDigits cs.length cs).map fun (n, rest) => (-(n : Int), rest)
  | cs => (takeDigits 4 cs).map fun (n, rest) => ((n : Int), rest)

/-- A date at the front of the text. -/
def readDatePart (cs : List Char) : Option (Date × List Char) := do
  let (year, cs) ← readYear (dropBlank cs)
  let cs ← skipMark '-' cs
  let (month, cs) ← takeDigits 2 cs
  let cs ← skipMark '-' cs
  let (day, cs) ← takeDigits 2 cs
  let date ← Date.ofParts? year month day
  pure (date, dropBlank cs)

/-- A fraction of a second at the front of the text, in nanoseconds; digits after the ninth do not
count. -/
def readFraction : List Char → Option (Nat × List Char)
  | '.' :: cs =>
    let ds := cs.takeWhile isDigit
    if ds.isEmpty then none
    else
      let nine := ds.take 9
      some (digitsValue nine * Nat.pow 10 (9 - nine.length), cs.drop ds.length)
  | cs => some (0, cs)

/-- The value as a member of `Fin n`, if it is below `n`. -/
def below? (n k : Nat) : Option (Fin n) := if h : k < n then some ⟨k, h⟩ else none

def readDate? (cs : List Char) : Option Date :=
  match readDatePart cs with
  | some (date, []) => some date
  | _ => none

def readMoment? (cs : List Char) : Option Moment := do
  let (date, cs) ← readDatePart cs
  let cs ← skipMark 'T' cs
  let (hour, cs) ← takeDigits 2 cs
  let cs ← skipMark ':' cs
  let (minute, cs) ← takeDigits 2 cs
  let cs ← skipMark ':' cs
  let (second, cs) ← takeDigits 2 cs
  let (nanosecond, cs) ← readFraction cs
  guard (dropBlank cs).isEmpty
  pure ⟨date, ← below? 24 hour, ← below? 60 minute, ← below? 61 second,
    ← below? 1000000000 nanosecond⟩

end RownumSql.Calendar
