import ByteAsm.Encoding.Error

/-!
# Code pages

A code page gives each of the 256 byte values a character of its own, or none. It is written as
a text of 256 characters in byte order, where the noncharacter `U+FFFE` stands for a byte without
a character. Decoding reads the bytes one at a time and stops at the first byte without a
character.
-/

namespace ByteAsm

/-- A table of the characters of the 256 byte values, in byte order, with `U+FFFE` for a byte
that has none. -/
structure CodePage where
  chars : String

namespace CodePage

/-- The characters of the bytes `00` to `7F` in ASCII, the lower half of most code pages. -/
def asciiHalf : String := String.ofList ((List.range 128).map Char.ofNat)

/-- The mark of a byte without a character. -/
def undefinedMark : Char := '\uFFFE'

/-- Decode `bytes` with the characters `table` of a code page, counting positions from `pos`. -/
def decodeFrom (table : Array Char) (bytes : List Nat) (pos : Nat) : Except DecodeError (List Char) :=
  match bytes with
  | [] => .ok []
  | b :: rest =>
    match table[b]? with
    | some c =>
      if c = undefinedMark then .error (.invalid "charmap" b pos (pos + 1) "character maps to <undefined>")
      else (decodeFrom table rest (pos + 1)).map (c :: ·)
    | none => .error (.invalid "charmap" b pos (pos + 1) "character maps to <undefined>")

/-- Decode `bytes` with the code page `page`. -/
def decode (page : CodePage) (bytes : List Nat) : Except DecodeError (List Char) :=
  decodeFrom page.chars.toList.toArray bytes 0

end CodePage

end ByteAsm
