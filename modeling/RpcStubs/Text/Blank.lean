/-
White space and trimming.

White space takes in the line and paragraph separators, the four information separators and the
spaces of every width; the zero-width space and the byte-order mark are not white space.
-/
import RpcStubs.Text.Ranges

namespace RpcStubs.Text

def blankRanges : Ranges :=
  [(9, 13), (28, 32), (0x85, 0x85), (0xA0, 0xA0), (0x1680, 0x1680), (0x2000, 0x200A),
   (0x2028, 0x2029), (0x202F, 0x202F), (0x205F, 0x205F), (0x3000, 0x3000)]

def isBlank (c : Char) : Bool :=
  blankRanges.has c

/-- A text without the white space at its two ends. -/
def trimChars (cs : List Char) : List Char :=
  ((cs.dropWhile isBlank).reverse.dropWhile isBlank).reverse

end RpcStubs.Text
