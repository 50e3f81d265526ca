/-
Cutting text at a character.
-/

namespace RpcStubs.Text

/-- The pieces of a text between the occurrences of a separator.  There is always one more piece
than there are separators. -/
def pieces (separator : Char) : List Char → List (List Char)
  | [] => [[]]
  | c :: cs =>
    if c = separator then [] :: pieces separator cs
    else match pieces separator cs with
      | p :: ps => (c :: p) :: ps
      | [] => [[c]]

/-- What stands before the first occurrence of a separator, and what stands after it.  Without
one, the whole text and nothing. -/
def cut (separator : Char) (cs : List Char) : List Char × List Char :=
  (cs.takeWhile (· ≠ separator), (cs.dropWhile (· ≠ separator)).drop 1)

/-- A text without the first occurrence of a pattern. -/
def eraseFirst (pattern : List Char) : List Char → List Char
  | [] => []
  | c :: cs =>
    if pattern.isPrefixOf (c :: cs) then (c :: cs).drop pattern.length
    else c :: eraseFirst pattern cs

/-- What stands before a suffix, if the text ends in it. -/
def beforeSuffix? (suffix cs : List Char) : Option (List Char) :=
  if suffix.isSuffixOf cs then some (cs.take (cs.length - suffix.length)) else none

end RpcStubs.Text
