set_option autoImplicit false

/-! Blank characters, as closed ranges of code points. Two sets are in use: the wide one, which
text is trimmed by, and the narrow one, which a numeral may be surrounded by. They differ in the
four information separators. -/

namespace TxTemplate.Text

/-- Membership of a code point in a list of closed ranges. -/
def inRanges (ranges : List (Nat × Nat)) (code : Nat) : Bool :=
  ranges.any fun range => range.1 ≤ code && code ≤ range.2

def whiteSpaceRanges : List (Nat × Nat) :=
  [(0x09, 0x0D), (0x20, 0x20), (0x85, 0x85), (0xA0, 0xA0), (0x1680, 0x1680), (0x2000, 0x200A),
   (0x2028, 0x2029), (0x202F, 0x202F), (0x205F, 0x205F), (0x3000, 0x3000)]

def isWhiteSpace (c : Char) : Bool := inRanges whiteSpaceRanges c.toNat

/-- White space together with the four information separators. -/
def isBlank (c : Char) : Bool := isWhiteSpace c || (0x1C ≤ c.toNat && c.toNat ≤ 0x1F)

/-- The blanks of ASCII text formats: space, tab, line feed, vertical tab, form feed, return. -/
def isAsciiBlank (c : Char) : Bool := c.toNat = 0x20 || (0x09 ≤ c.toNat && c.toNat ≤ 0x0D)

def dropEndWhile (drop : Char → Bool) (text : List Char) : List Char :=
  (text.reverse.dropWhile drop).reverse

def trimBy (drop : Char → Bool) (text : List Char) : List Char :=
  dropEndWhile drop (text.dropWhile drop)

def strip (text : List Char) : List Char := trimBy isBlank text

end TxTemplate.Text
