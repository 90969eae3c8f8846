import ByteAsm.Encoding.Stateful
import ByteAsm.Encoding.PrefixCode.Gb

/-!
# HZ

HZ (RFC 1843) writes simplified Chinese in 7-bit bytes. The text starts in ASCII; `~{` switches
to GB 2312, whose characters are then written as pairs of bytes from `21` to `7E`, and `~}`
switches back. In ASCII `~~` stands for a tilde and `~` before a line feed for nothing. Any other
byte after a tilde, and every byte from `80` on, is illegal.
-/

namespace ByteAsm

namespace Encoding

namespace Hz

/-- One step of reading HZ, in GB 2312 if `inGb`. -/
def step (inGb : Bool) (input : List Nat) : Advance Bool :=
  match input with
  | [] => .incomplete
  | c :: rest =>
    if c = 0x7E then
      match rest with
      | [] => .incomplete
      | c2 :: _ =>
        if c2 = 0x7E ∧ !inGb then .emit ['~'] 2 inGb
        else if c2 = 0x7B ∧ !inGb then .emit [] 2 true
        else if c2 = 0x0A ∧ !inGb then .emit [] 2 inGb
        else if c2 = 0x7D ∧ inGb then .emit [] 2 false
        else .illegal 1
    else if c ≥ 0x80 then .illegal 1
    else if !inGb then .emit [Char.ofNat c] 1 inGb
    else
      match rest with
      | [] => .incomplete
      | c2 :: _ =>
        match eucGb c c2 with
        | some cs => .emit cs 2 inGb
        | none => .illegal 1
where
  /-- The characters of the pair `c d` of GB 2312, read as the pair `c+80 d+80` of EUC-CN. -/
  eucGb (c d : Nat) : Option (List Char) :=
    if 0x21 ≤ c ∧ c ≤ 0x7E ∧ 0x21 ≤ d ∧ d ≤ 0x7E then
      PrefixCode.gb2312.charsAt [c + 0x80] (d + 0x80)
    else none

/-- Decode HZ. -/
def decode (bytes : List Nat) : Except DecodeError (List Char) :=
  runSteps "hz" step bytes 0 bytes.length false

end Hz

end Encoding

end ByteAsm
