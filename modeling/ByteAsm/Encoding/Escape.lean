import ByteAsm.Encoding.Error
import ByteAsm.Text.Surrogate

/-!
# Escaped text

Two encodings read bytes as Latin-1 text in which a backslash starts an escape. In the full form
a backslash takes a line feed away, stands for a quote, a backslash or a control character
(`\b \f \t \n \r \v \a`), starts a number: up to three octal digits, or exactly two, four or
eight hexadecimal digits after `x`, `u` or `U`, or names a character by its Unicode name between
braces after `N`; after any other character the backslash stays as it is. In the raw form only
`\u` and `\U` are escapes, and a backslash before any other character keeps both.

An escape that the bytes end in, a hexadecimal digit missing, or a code point beyond `10FFFF`
fails, from the backslash up to the character where the escape went wrong. A code point of a
surrogate, which text cannot hold alone, is kept as its stand-in.
-/

namespace ByteAsm

namespace Encoding

/-- The value of an ASCII hexadecimal digit. -/
def hexValue? (b : Nat) : Option Nat :=
  if 0x30 ≤ b ∧ b ≤ 0x39 then some (b - 0x30)
  else if 0x61 ≤ b ∧ b ≤ 0x66 then some (b - 0x61 + 10)
  else if 0x41 ≤ b ∧ b ≤ 0x46 then some (b - 0x41 + 10)
  else none

/-- The character of a code point, a surrogate kept as its stand-in. -/
def charOfCode (n : Nat) : Char :=
  if Text.isSurrogate n then Text.standIn n else Char.ofNat n

/-- The value of the hexadecimal digits at the front of `input`, at most `count` of them, and
how many there were. -/
def hexRun (input : List Nat) (count : Nat) : Nat × Nat :=
  let digits := (input.take count).takeWhile fun b => (hexValue? b).isSome
  (digits.foldl (fun acc b => acc * 16 + (hexValue? b).getD 0) 0, digits.length)

/-- The character of a simple escape `\c`. -/
def simpleEscape? (c : Nat) : Option Char :=
  [(0x5C, '\\'), (0x27, '\x27'), (0x22, '"'), (0x62, '\x08'), (0x66, '\x0c'), (0x74, '\t'),
    (0x6E, '\n'), (0x72, '\r'), (0x76, '\x0b'), (0x61, '\x07')].lookup c

/-- Decode escaped text, whose bytes `input` start at position `pos`. The codec is `codec`,
`raw` selects the raw form, and `named` gives the code point of a character name. -/
def decodeEscapes (codec : String) (raw : Bool) (named : List Nat → Option Nat) (input : List Nat)
    (pos : Nat) : Except DecodeError (List Char) :=
  match input with
  | [] => .ok []
  | b :: rest =>
    if b ≠ 0x5C then (decodeEscapes codec raw named rest (pos + 1)).map (Char.ofNat b :: ·)
    else
      match rest with
      | [] =>
        if raw then .ok ['\\']
        else .error (.invalid codec b pos (pos + 1) "\\ at end of string")
      | c :: more =>
        let hexWidth := if c = 0x75 then 4 else if c = 0x55 then 8
          else if c = 0x78 ∧ !raw then 2 else 0
        if hexWidth > 0 then
          let (value, found) := hexRun more hexWidth
          let message := if c = 0x78 then "truncated \\xXX escape"
            else if c = 0x75 then "truncated \\uXXXX escape" else "truncated \\UXXXXXXXX escape"
          if found < hexWidth then .error (.invalid codec b pos (pos + 2 + found) message)
          else if value > 0x10FFFF then
            .error (.invalid codec b pos (pos + 2 + found)
              (if raw then "\\Uxxxxxxxx out of range" else "illegal Unicode character"))
          else (decodeEscapes codec raw named (more.drop hexWidth) (pos + 2 + hexWidth)).map
            (charOfCode value :: ·)
        else if raw then (decodeEscapes codec raw named more (pos + 2)).map (['\\', Char.ofNat c] ++ ·)
        else if c = 0x4E then
          let malformed := "malformed \\N character escape"
          match more with
          | 0x7B :: inside =>
            let name := inside.takeWhile (· ≠ 0x7D)
            if name.length = inside.length then .error (.invalid codec b pos (pos + 3 + name.length) malformed)
            else if name.isEmpty then .error (.invalid codec b pos (pos + 3) malformed)
            else
              match named name with
              | some value =>
                (decodeEscapes codec raw named (inside.drop (name.length + 1)) (pos + 4 + name.length)).map
                  (charOfCode value :: ·)
              | none => .error (.invalid codec b pos (pos + 4 + name.length) "unknown Unicode character name")
          | _ => .error (.invalid codec b pos (pos + 2) malformed)
        else if c = 0x0A then decodeEscapes codec raw named more (pos + 2)
        else if 0x30 ≤ c ∧ c ≤ 0x37 then
          let digits := (more.take 2).takeWhile fun d => 0x30 ≤ d ∧ d ≤ 0x37
          let value := digits.foldl (fun acc d => acc * 8 + (d - 0x30)) (c - 0x30)
          (decodeEscapes codec raw named (more.drop digits.length) (pos + 2 + digits.length)).map
            (Char.ofNat value :: ·)
        else
          match simpleEscape? c with
          | some ch => (decodeEscapes codec raw named more (pos + 2)).map (ch :: ·)
          | none => (decodeEscapes codec raw named more (pos + 2)).map (['\\', Char.ofNat c] ++ ·)
termination_by input.length
decreasing_by all_goals (simp only [List.length_drop, List.length_cons]; omega)

end Encoding

end ByteAsm
