/-!
White space at the ends of names. A character is blank when it has the Unicode property
White_Space, which twenty-five characters have; format characters such as U+FEFF and U+200B are
not among them.
-/

namespace SupplyGraph.Text

/-- Closed ranges of code points, ascending and apart. -/
def blankRanges : List (Nat × Nat) :=
  [(0x09, 0x0D), (0x20, 0x20), (0x85, 0x85), (0xA0, 0xA0), (0x1680, 0x1680), (0x2000, 0x200A),
    (0x2028, 0x2029), (0x202F, 0x202F), (0x205F, 0x205F), (0x3000, 0x3000)]

def isBlank (c : Char) : Bool :=
  blankRanges.any (fun range => range.1 ≤ c.toNat && c.toNat ≤ range.2)

/-- What is left of a list of characters without the blanks at its two ends. -/
def trimChars (chars : List Char) : List Char :=
  ((chars.dropWhile isBlank).reverse.dropWhile isBlank).reverse

/-- What is left of a text without the blanks at its two ends. -/
def trim (text : String) : String := String.ofList (trimChars text.toList)

example : (blankRanges.map (fun range => range.2 + 1 - range.1)).sum = 25 := by decide

end SupplyGraph.Text
