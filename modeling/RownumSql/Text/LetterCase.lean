import RownumSql.Text.CaseTable

/-!
# Letter case

Capital and small forms of text under the full case mappings: a character may map to several, and a
capital sigma at the end of a word has its own small form.

* `upperChar_ascii`, `lowerChar_ascii`: on ASCII the mappings are those of the 26 letters
-/

namespace RownumSql.Text

/-! ## Characters -/

/-- The shift of the first span that a code point belongs to. -/
def findShift (n : Nat) : List CaseSpan → Option Int
  | [] => none
  | s :: rest =>
    if s.first ≤ n && n ≤ s.last && (n - s.first) % s.step == 0 then some s.shift
    else findShift n rest

/-- Maps a character beyond ASCII by the two kinds of table. -/
def mapCase (several : List (Nat × List Nat)) (spans : List CaseSpan) (c : Char) : List Char :=
  match several.lookup c.toNat with
  | some ns => ns.map Char.ofNat
  | none =>
    match findShift c.toNat spans with
    | some d => [Char.ofNat ((c.toNat : Int) + d).toNat]
    | none => [c]

/-- The capital form of a character. -/
def upperChar (c : Char) : List Char :=
  if c.toNat < 0x80 then [c.toUpper] else mapCase upperSeveral upperSpans c

/-- The small form of a character, for a sigma the one inside a word. -/
def lowerChar (c : Char) : List Char :=
  if c.toNat < 0x80 then [c.toLower] else mapCase lowerSeveral lowerSpans c

theorem upperChar_ascii (c : Char) (h : c.toNat < 0x80) : upperChar c = [c.toUpper] := by
  simp [upperChar, h]

theorem lowerChar_ascii (c : Char) (h : c.toNat < 0x80) : lowerChar c = [c.toLower] := by
  simp [lowerChar, h]

/-- Whether a code point lies in one of the spans. -/
def inSpans (n : Nat) (spans : List (Nat × Nat)) : Bool :=
  spans.any fun s => s.1 ≤ n && n ≤ s.2

/-- A character that has case and is not passed over. -/
def isCased (c : Char) : Bool := inSpans c.toNat casedSpans

/-- A character that is passed over when the ends of a word are looked for. -/
def isCaseIgnorable (c : Char) : Bool := inSpans c.toNat ignorableSpans

/-! ## Text -/

def upperChars (cs : List Char) : List Char := cs.flatMap upperChar

/-- Whether the first character that is not passed over has case. -/
def startsCased (cs : List Char) : Bool :=
  match cs.dropWhile isCaseIgnorable with
  | [] => false
  | c :: _ => isCased c

/-- The small form of a text; `inWord` tells whether a cased character came before. -/
def lowerCharsFrom (inWord : Bool) : List Char → List Char
  | [] => []
  | c :: cs =>
    let small :=
      if c = 'Σ' then (if inWord && !startsCased cs then ['ς'] else ['σ']) else lowerChar c
    small ++ lowerCharsFrom (if isCaseIgnorable c then inWord else isCased c) cs

def lowerChars (cs : List Char) : List Char := lowerCharsFrom false cs

def upper (s : String) : String := String.ofList (upperChars s.toList)

def lower (s : String) : String := String.ofList (lowerChars s.toList)

end RownumSql.Text
