import ByteAsm.Text.Blank
import ByteAsm.Text.DecimalDigit
import ByteAsm.Text.Quoted

/-!
# Hexadecimal numerals and bytes

Numbers in assembly source are hexadecimal: a run of the digits `0`–`9` and `A`–`F`. Settings
and options read a hexadecimal byte more freely, as an integer literal: blanks around it, a
sign, a `0x` prefix, single underscores between digits, and decimal digits of any script. Bytes
are shown as two upper-case hexadecimal digits, and a jump distance is stored as the byte of its
two's-complement form.
-/

namespace ByteAsm

namespace Numeral

/-- The value of `c` as a hexadecimal digit of either case. -/
def hexDigit? (c : Char) : Option Nat :=
  if '0' ≤ c ∧ c ≤ '9' then some (c.toNat - '0'.toNat)
  else if 'a' ≤ c ∧ c ≤ 'f' then some (c.toNat - 'a'.toNat + 10)
  else if 'A' ≤ c ∧ c ≤ 'F' then some (c.toNat - 'A'.toNat + 10)
  else none

/-- The number written by hexadecimal digit values, most significant first. -/
def ofDigits (ds : List Nat) : Nat :=
  ds.foldl (fun acc d => 16 * acc + d) 0

/-- Whether `s` spells a number of assembly source: one or more of `0`–`9` and `A`–`F`. -/
def isNumeral (s : String) : Bool :=
  !s.isEmpty && s.all (fun c => ('0' ≤ c && c ≤ '9') || ('A' ≤ c && c ≤ 'F'))

/-- The value of a numeral of assembly source. -/
def numeralValue (s : String) : Nat :=
  ofDigits (s.toList.filterMap hexDigit?)

/-! ### Integer literals -/

/-- The text an integer literal is read from: blanks outside ASCII become spaces, decimal digits
of other scripts become ASCII digits, and a character that is neither ends the text with `?`,
which no literal contains. -/
def normalize : List Char → List Char
  | [] => []
  | c :: rest =>
    if c.toNat < 0x7F then c :: normalize rest
    else if Text.isBlank c then ' ' :: normalize rest
    else
      match Text.decimalValue? c with
      | some d => Char.ofNat ('0'.toNat + d) :: normalize rest
      | none => ['?']

/-- Read hexadecimal digits with single underscores between them, after at least one digit has
been read; `acc` is the value so far. Returns the value and the rest. -/
def readDigitGroups (acc : Nat) : List Char → Option (Nat × List Char)
  | [] => some (acc, [])
  | '_' :: c :: rest =>
    match hexDigit? c with
    | some d => readDigitGroups (16 * acc + d) rest
    | none => none
  | ['_'] => none
  | c :: rest =>
    match hexDigit? c with
    | some d => readDigitGroups (16 * acc + d) rest
    | none => some (acc, c :: rest)

/-- Read the digits of a literal: at least one hexadecimal digit, then digit groups. -/
def readDigits : List Char → Option (Nat × List Char)
  | c :: rest =>
    match hexDigit? c with
    | some d => readDigitGroups d rest
    | none => none
  | [] => none

/-- Skip an optional `0x` or `0X` prefix and one underscore after it. -/
def dropPrefix : List Char → List Char
  | '0' :: 'x' :: '_' :: rest => rest
  | '0' :: 'X' :: '_' :: rest => rest
  | '0' :: 'x' :: rest => rest
  | '0' :: 'X' :: rest => rest
  | cs => cs

/-- Read an optional sign: `-1` for a minus, `1` otherwise. -/
def readSign : List Char → Int × List Char
  | '-' :: rest => (-1, rest)
  | '+' :: rest => (1, rest)
  | cs => (1, cs)

/-- The value of a hexadecimal integer literal, if `s` is one. -/
def readLiteral? (s : String) : Option Int :=
  let cs := (normalize s.toList).dropWhile Text.isCBlank
  let (sign, afterSign) := readSign cs
  match readDigits (dropPrefix afterSign) with
  | some (value, rest) =>
    if rest.all Text.isCBlank then some (sign * value) else none
  | none => none

/-- The message for a text that is no hexadecimal integer literal; the quoted text is cut to
two hundred characters. -/
def literalError (s : String) : String :=
  "invalid literal for int() with base 16: " ++ String.ofList ((Text.quote s).toList.take 200)

/-! ### Bytes as text -/

/-- The upper-case hexadecimal digits of `n`. -/
def hexUpper (n : Nat) : String :=
  String.ofList ((Nat.toDigits 16 n).map Char.toUpper)

/-- A value as at least two upper-case hexadecimal digits, a negative one as a minus sign and
the digits of its magnitude. -/
def hexByte (v : Int) : String :=
  if v < 0 then "-" ++ hexUpper v.natAbs
  else
    let digits := hexUpper v.toNat
    if digits.length < 2 then "0" ++ digits else digits

/-- The signed value of a byte in two's complement: from 80 on, 256 less. -/
def toSigned (v : Int) : Int :=
  if 128 ≤ v then v - 256 else v

/-- The byte that stores a signed value in two's complement: a negative value plus 256. -/
def ofSigned (d : Int) : Int :=
  if d < 0 then d + 256 else d

end Numeral

end ByteAsm
