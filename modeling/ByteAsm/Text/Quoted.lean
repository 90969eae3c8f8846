import ByteAsm.Text.Printable
import ByteAsm.Text.Surrogate

/-!
# Quoted text

The quoted form of a text, as messages show a value the user wrote. The text is put between
single quotes, or between double quotes when it holds a single quote and no double quote. Inside,
the chosen quote and the backslash are preceded by a backslash, tab, line feed and carriage
return are written `\t`, `\n` and `\r`, and every other character that is not printable is
written by its code in lower-case hexadecimal: `\xhh` below 256, `\uhhhh` below 65536, and
`\Uhhhhhhhh` above. A lone surrogate is not printable and is written by its own code.
-/

namespace ByteAsm

namespace Text

/-- The `width` lower-case hexadecimal digits of `n`, with leading zeros. -/
def hexDigitsLower (width n : Nat) : List Char :=
  let digits := Nat.toDigits 16 n
  List.replicate (width - digits.length) '0' ++ digits

/-- The quote that encloses the quoted form of `s`. -/
def quoteFor (s : List Char) : Char :=
  if s.contains '\'' && !s.contains '"' then '"' else '\''

/-- How the character `c` is written inside a literal enclosed by `q`. -/
def escapeIn (q c : Char) : List Char :=
  if c = q ∨ c = '\\' then ['\\', c]
  else if c = '\t' then ['\\', 't']
  else if c = '\n' then ['\\', 'n']
  else if c = '\r' then ['\\', 'r']
  else if c.toNat < 0x20 ∨ c.toNat = 0x7F then '\\' :: 'x' :: hexDigitsLower 2 c.toNat
  else if c.toNat < 0x7F ∨ isPrintable c then [c]
  else
    let n := codePoint c
    if n ≤ 0xFF then '\\' :: 'x' :: hexDigitsLower 2 n
    else if n ≤ 0xFFFF then '\\' :: 'u' :: hexDigitsLower 4 n
    else '\\' :: 'U' :: hexDigitsLower 8 n

/-- The quoted form of `s`. -/
def quote (s : String) : String :=
  let cs := s.toList
  let q := quoteFor cs
  String.ofList (q :: cs.flatMap (escapeIn q) ++ [q])

end Text

end ByteAsm
