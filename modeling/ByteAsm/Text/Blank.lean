/-!
# White space and line breaks

Two character classes of the Unicode standard, version 14.0, that the assembler's text rules
use. White space separates tokens; line breaks split a text into lines for diagnostics. Both
are small enough to list. The six blanks of the C locale are kept apart, because reading a
number skips only those once other white space has become plain spaces.
-/

namespace ByteAsm

namespace Text

/-- Whether `c` is white space: the controls tab to carriage return, the four information
separators, the space, next line, no-break space, and the spaces of general category Zs, Zl
and Zp. -/
def isBlank (c : Char) : Bool :=
  match c.toNat with
  | 0x09 | 0x0A | 0x0B | 0x0C | 0x0D | 0x1C | 0x1D | 0x1E | 0x1F | 0x20 => true
  | 0x85 | 0xA0 | 0x1680 | 0x2028 | 0x2029 | 0x202F | 0x205F | 0x3000 => true
  | n => 0x2000 ≤ n && n ≤ 0x200A

/-- Whether `c` is one of the six blanks of the C locale: space, tab, line feed, vertical tab,
form feed and carriage return. -/
def isCBlank (c : Char) : Bool :=
  c == ' ' || (0x09 ≤ c.toNat && c.toNat ≤ 0x0D)

/-- Whether `c` ends a line: line feed, carriage return, vertical tab, form feed, the file,
group and record separators, next line, and the line and paragraph separators. -/
def isLineBreak (c : Char) : Bool :=
  match c.toNat with
  | 0x0A | 0x0D | 0x0B | 0x0C | 0x1C | 0x1D | 0x1E | 0x85 | 0x2028 | 0x2029 => true
  | _ => false

end Text

end ByteAsm
