import ByteAsm.Text.Quoted

/-!
# JSON strings in ASCII

A JSON string literal written with ASCII characters only. The double quote and the backslash
are preceded by a backslash; backspace, form feed, line feed, carriage return and tab have their
short escapes; every other character outside the printable ASCII range is written `\uhhhh` in
lower-case hexadecimal, a character beyond the basic plane as the two halves of its surrogate
pair, and the stand-in of a lone surrogate as that surrogate.
-/

namespace ByteAsm

namespace Text

/-- How `c` is written inside a JSON string literal in ASCII. -/
def jsonEscape (c : Char) : List Char :=
  if c = '"' then ['\\', '"']
  else if c = '\\' then ['\\', '\\']
  else if c = '\n' then ['\\', 'n']
  else if c = '\r' then ['\\', 'r']
  else if c = '\t' then ['\\', 't']
  else if c.toNat = 0x08 then ['\\', 'b']
  else if c.toNat = 0x0C then ['\\', 'f']
  else if 0x20 ≤ c.toNat ∧ c.toNat < 0x7F then [c]
  else
    let code := codePoint c
    if code < 0x10000 then '\\' :: 'u' :: hexDigitsLower 4 code
    else
      let n := code - 0x10000
      ('\\' :: 'u' :: hexDigitsLower 4 (0xD800 + n / 0x400)) ++
        ('\\' :: 'u' :: hexDigitsLower 4 (0xDC00 + n % 0x400))

/-- The JSON string literal of `s`, in ASCII. -/
def jsonString (s : String) : String :=
  String.ofList ('"' :: s.toList.flatMap jsonEscape ++ ['"'])

end Text

end ByteAsm
