import ByteAsm.Encoding.Error
import ByteAsm.Encoding.Escape

/-!
# UTF-7

UTF-7 (RFC 2152) writes text in ASCII. Every ASCII byte but `+` stands for itself; `+` opens a
shift sequence of base-64 characters that carry UTF-16 units, sixteen bits each, closed by any
other byte, which counts as text unless it is `-`. `+-` stands for `+` itself.

Reading is lenient in what stands for itself and strict in shift sequences. It fails on a byte
above `7F` outside a shift sequence, on a `+` followed by a byte that is neither `-` nor
base-64, on a shift sequence closed with a partial unit or with bits left that are not zero, and
on a shift sequence that the text ends in while a unit or a surrogate pair is incomplete; a
failure inside a shift sequence is reported from its `+`. A surrogate that is not part of a pair
is kept alone, as its stand-in.
-/

namespace ByteAsm

namespace Encoding

/-- The value of a base-64 character: `A`–`Z`, `a`–`z`, `0`–`9`, `+` and `/`. -/
def base64Value? (b : Nat) : Option Nat :=
  if 0x41 ≤ b ∧ b ≤ 0x5A then some (b - 0x41)
  else if 0x61 ≤ b ∧ b ≤ 0x7A then some (b - 0x61 + 26)
  else if 0x30 ≤ b ∧ b ≤ 0x39 then some (b - 0x30 + 52)
  else if b = 0x2B then some 62
  else if b = 0x2F then some 63
  else none

/-- Whether the byte `b` stands for itself outside a shift sequence. -/
def directInUtf7 (b : Nat) : Bool := b ≤ 0x7F ∧ b ≠ 0x2B

/-- The state inside a shift sequence: where its `+` stands, the bits read and not yet used, how
many there are, and a high surrogate waiting for its low half. -/
structure Utf7Shift where
  start : Nat
  buffer : Nat
  bits : Nat
  surrogate : Option Nat

/-- The characters of a UTF-16 unit read in a shift sequence, and the surrogate left waiting. -/
def utf7Unit (waiting : Option Nat) (unit : Nat) : List Char × Option Nat :=
  let pending := match waiting with
    | some hi => if 0xDC00 ≤ unit ∧ unit < 0xE000 then none else some hi
    | none => none
  match waiting, pending with
  | some hi, none => ([Char.ofNat (0x10000 + (hi - 0xD800) * 0x400 + (unit - 0xDC00))], none)
  | _, _ =>
    let lone := pending.toList.map charOfCode
    if 0xD800 ≤ unit ∧ unit < 0xDC00 then (lone, some unit)
    else (lone ++ [charOfCode unit], none)

/-- The weight of being inside a shift sequence in the measure that decoding decreases. -/
def shiftWeight : Option Utf7Shift → Nat
  | some _ => 1
  | none => 0

/-- Decode UTF-7 from position `pos` of a text of `total` bytes, inside the shift sequence
`shift` if there is one. -/
def decodeUtf7 (input : List Nat) (pos total : Nat) (shift : Option Utf7Shift) :
    Except DecodeError (List Char) :=
  match input, shift with
  | [], none => .ok []
  | [], some st =>
    if st.surrogate.isSome ∨ st.bits ≥ 6 ∨ (st.bits > 0 ∧ st.buffer ≠ 0) then
      .error (.invalid "utf7" 0x2B st.start total "unterminated shift sequence")
    else .ok []
  | b :: rest, some st =>
    match base64Value? b with
    | some v =>
      let buffer := st.buffer * 64 + v
      let bits := st.bits + 6
      if bits ≥ 16 then
        let unit := buffer >>> (bits - 16)
        let (out, waiting) := utf7Unit st.surrogate unit
        let next : Utf7Shift :=
          { st with buffer := buffer % (1 <<< (bits - 16)), bits := bits - 16, surrogate := waiting }
        (decodeUtf7 rest (pos + 1) total (some next)).map (out ++ ·)
      else decodeUtf7 rest (pos + 1) total (some { st with buffer, bits })
    | none =>
      if st.bits ≥ 6 then
        .error (.invalid "utf7" 0x2B st.start (pos + 1) "partial character in shift sequence")
      else if st.bits > 0 ∧ st.buffer ≠ 0 then
        .error (.invalid "utf7" 0x2B st.start (pos + 1) "non-zero padding bits in shift sequence")
      else
        let lone := if directInUtf7 b then st.surrogate.toList.map charOfCode else []
        if b = 0x2D then (decodeUtf7 rest (pos + 1) total none).map (lone ++ ·)
        else (decodeUtf7 (b :: rest) pos total none).map (lone ++ ·)
  | 0x2B :: 0x2D :: more, none => (decodeUtf7 more (pos + 2) total none).map ('+' :: ·)
  | 0x2B :: rest, none =>
    match rest.head? with
    | some c =>
      if (base64Value? c).isSome then decodeUtf7 rest (pos + 1) total (some ⟨pos, 0, 0, none⟩)
      else .error (.invalid "utf7" 0x2B pos (pos + 2) "ill-formed sequence")
    | none => decodeUtf7 rest (pos + 1) total (some ⟨pos, 0, 0, none⟩)
  | b :: rest, none =>
    if directInUtf7 b then (decodeUtf7 rest (pos + 1) total none).map (Char.ofNat b :: ·)
    else .error (.invalid "utf7" b pos (pos + 1) "unexpected special character")
termination_by 2 * input.length + shiftWeight shift
decreasing_by all_goals (simp only [List.length_cons, shiftWeight]; omega)

end Encoding

end ByteAsm
