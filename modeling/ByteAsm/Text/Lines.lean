import ByteAsm.Text.Blank

/-!
# Lines of a text

A text splits into lines after every line break, where a carriage return followed by a line feed
counts as one break. The breaks are not part of the lines, and a text that ends with a break has
no empty line after it, so the empty text has no lines at all.
-/

namespace ByteAsm

namespace Text

/-- The lines of `cs`, given the characters `current` of the unfinished line read so far, most
recent first. -/
def splitLines : List Char → List Char → List (List Char)
  | [], [] => []
  | [], current => [current.reverse]
  | '\r' :: '\n' :: rest, current => current.reverse :: splitLines rest []
  | c :: rest, current =>
    if isLineBreak c then current.reverse :: splitLines rest []
    else splitLines rest (c :: current)

/-- The lines of `s`. -/
def lines (s : String) : List String :=
  (splitLines s.toList []).map String.ofList

end Text

end ByteAsm
