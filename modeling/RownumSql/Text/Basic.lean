/-!
# Texts as characters

Blank characters and trimming, texts in texts, and text between quotes.

* `doubled_append`: quoting works character by character
-/

namespace RownumSql.Text

/-! ## Blank characters -/

/-- White_Space: what trimming removes and what may surround the parts of a date. -/
def isBlank (c : Char) : Bool :=
  let n := c.toNat
  (0x9 ≤ n && n ≤ 0xd) || n = 0x20 || n = 0x85 || n = 0xa0 || n = 0x1680
    || (0x2000 ≤ n && n ≤ 0x200a) || n = 0x2028 || n = 0x2029 || n = 0x202f || n = 0x205f
    || n = 0x3000

def dropBlank (cs : List Char) : List Char := cs.dropWhile isBlank

/-- The text without the blanks at either end. -/
def trimBlank (cs : List Char) : List Char := (dropBlank (dropBlank cs).reverse).reverse

/-! ## Texts in texts -/

/-- Whether `part` stands somewhere in the text. -/
def containsText (part : List Char) : List Char → Bool
  | [] => part.isEmpty
  | c :: cs => part.isPrefixOf (c :: cs) || containsText part cs

/-- Equality of texts that ignores the case of ASCII letters only. -/
def sameIgnoringCase (a b : String) : Bool :=
  a.toList.map Char.toLower == b.toList.map Char.toLower

theorem not_mem_append {c : Char} {s u : String} (hs : c ∉ s.toList) (hu : c ∉ u.toList) :
    c ∉ (s ++ u).toList := by
  rw [String.toList_append, List.mem_append, not_or]
  exact ⟨hs, hu⟩

/-! ## Quotes -/

/-- Every quote character written twice, all else once. -/
def doubled (quote : Char) (cs : List Char) : List Char :=
  cs.flatMap fun c => if c = quote then [c, c] else [c]

/-- The text between quotes, quotes inside doubled. -/
def quoted (quote : Char) (s : String) : String :=
  String.ofList (quote :: doubled quote s.toList ++ [quote])

@[simp] theorem doubled_nil (quote : Char) : doubled quote [] = [] := rfl

@[simp] theorem doubled_cons (quote c : Char) (cs : List Char) :
    doubled quote (c :: cs) = (if c = quote then [c, c] else [c]) ++ doubled quote cs := rfl

theorem doubled_append (quote : Char) (xs ys : List Char) :
    doubled quote (xs ++ ys) = doubled quote xs ++ doubled quote ys := by
  simp [doubled]

end RownumSql.Text
