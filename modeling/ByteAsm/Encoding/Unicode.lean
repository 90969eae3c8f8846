import ByteAsm.Encoding.Error

/-!
# Unicode encodings

UTF-8, UTF-16 and UTF-32 read as the Unicode standard defines them. UTF-8 rejects an invalid
start byte, an invalid continuation byte (naming the valid ones before it), and an unexpected end
of data. UTF-16 rejects a lone low surrogate, a high surrogate not followed by a low one, and an
odd last byte; UTF-32 rejects surrogates and code points beyond `10FFFF`.
-/

namespace ByteAsm

namespace Encoding

/-! ### UTF-8 -/

/-- The number of continuation bytes after a lead byte, and the range the first of them must
lie in; `none` for a byte that cannot start a character. -/
def utf8Lead (b : Nat) : Option (Nat × Nat × Nat) :=
  if b < 0xC2 then none
  else if b ≤ 0xDF then some (1, 0x80, 0xBF)
  else if b = 0xE0 then some (2, 0xA0, 0xBF)
  else if b = 0xED then some (2, 0x80, 0x9F)
  else if b ≤ 0xEF then some (2, 0x80, 0xBF)
  else if b = 0xF0 then some (3, 0x90, 0xBF)
  else if b ≤ 0xF3 then some (3, 0x80, 0xBF)
  else if b = 0xF4 then some (3, 0x80, 0x8F)
  else none

/-- How many of the continuation bytes `tail` are valid, the first within `[lo, hi]` and the
others within `80`–`BF`. -/
def validPrefix (lo hi : Nat) (tail : List Nat) : Nat :=
  match tail with
  | [] => 0
  | b :: rest =>
    if lo ≤ b ∧ b ≤ hi then 1 + (rest.takeWhile fun x => 0x80 ≤ x ∧ x ≤ 0xBF).length else 0

/-- The code point of a lead byte and its continuation bytes. -/
def utf8Value (lead : Nat) (tail : List Nat) : Nat :=
  let bits := match tail.length with
    | 1 => lead % 0x20
    | 2 => lead % 0x10
    | _ => lead % 0x08
  tail.foldl (fun acc b => acc * 64 + b % 64) bits

/-- Decode UTF-8 bytes starting at offset `pos`. -/
def decodeUtf8 (bytes : List Nat) (pos : Nat) : Except DecodeError (List Char) :=
  match bytes with
  | [] => .ok []
  | b :: rest =>
    if b < 0x80 then (decodeUtf8 rest (pos + 1)).map (Char.ofNat b :: ·)
    else
      match utf8Lead b with
      | none => .error (.invalid "utf-8" b pos (pos + 1) "invalid start byte")
      | some (count, lo, hi) =>
        let tail := rest.take count
        let valid := validPrefix lo hi tail
        if valid < tail.length then
          .error (.invalid "utf-8" b pos (pos + 1 + valid) "invalid continuation byte")
        else if tail.length < count then
          .error (.invalid "utf-8" b pos (pos + 1 + rest.length) "unexpected end of data")
        else
          (decodeUtf8 (rest.drop count) (pos + 1 + count)).map (Char.ofNat (utf8Value b tail) :: ·)
termination_by bytes.length
decreasing_by all_goals (simp only [List.length_drop, List.length_cons]; omega)

/-! ### UTF-16 and UTF-32 -/

/-- The 16-bit units of `bytes`, in little- or big-endian order, and a last odd byte. -/
def units16 (little : Bool) : List Nat → List Nat × Option Nat
  | a :: b :: rest =>
    let (us, odd) := units16 little rest
    ((if little then a + 256 * b else 256 * a + b) :: us, odd)
  | [a] => ([], some a)
  | [] => ([], none)

/-- Decode 16-bit units starting at byte offset `pos`; `odd` is a last byte left over. -/
def decodeUnits16 (codec : String) (odd : Option Nat) (total : Nat) :
    List Nat → Nat → Except DecodeError (List Char)
  | [], pos =>
    match odd with
    | some b => .error (.invalid codec b pos (pos + 1) "truncated data")
    | none => .ok []
  | u :: rest, pos =>
    if u < 0xD800 ∨ 0xE000 ≤ u then (decodeUnits16 codec odd total rest (pos + 2)).map (Char.ofNat u :: ·)
    else if 0xDC00 ≤ u then .error (.invalid codec (u % 256) pos (pos + 2) "illegal encoding")
    else
      match rest with
      | [] => .error (.invalid codec (u % 256) pos total "unexpected end of data")
      | v :: more =>
        if 0xDC00 ≤ v ∧ v < 0xE000 then
          (decodeUnits16 codec odd total more (pos + 4)).map
            (Char.ofNat (0x10000 + (u - 0xD800) * 0x400 + (v - 0xDC00)) :: ·)
        else .error (.invalid codec (u % 256) pos (pos + 2) "illegal UTF-16 surrogate")

/-- Decode UTF-16 in a fixed byte order, from byte offset `pos` of a text of `total` bytes. -/
def decodeUtf16 (little : Bool) (bytes : List Nat) (pos total : Nat) : Except DecodeError (List Char) :=
  let (us, odd) := units16 little bytes
  decodeUnits16 (if little then "utf-16-le" else "utf-16-be") odd total us pos

/-- Decode UTF-32 in a fixed byte order, from byte offset `pos`. -/
def decodeUtf32 (little : Bool) (bytes : List Nat) (pos : Nat) : Except DecodeError (List Char) :=
  let codec := if little then "utf-32-le" else "utf-32-be"
  match bytes with
  | a :: b :: c :: d :: rest =>
    let u := if little then a + 256 * b + 65536 * c + 16777216 * d
      else 16777216 * a + 65536 * b + 256 * c + d
    if 0x110000 ≤ u then .error (.invalid codec a pos (pos + 4) "code point not in range(0x110000)")
    else if 0xD800 ≤ u ∧ u < 0xE000 then
      .error (.invalid codec a pos (pos + 4) "code point in surrogate code point range(0xd800, 0xe000)")
    else (decodeUtf32 little rest (pos + 4)).map (Char.ofNat u :: ·)
  | [] => .ok []
  | b :: _ => .error (.invalid codec b pos (pos + bytes.length) "truncated data")

end Encoding

end ByteAsm
