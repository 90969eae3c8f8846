import ByteAsm.Text.CodeTable
import ByteAsm.Text.LowerCase

/-!
# Case-blind character matching

A pattern that ignores case matches a cased pattern character by the lower-case form of the
input character: the two lower-case forms must agree, or be two lower-case letters that share
an upper-case form (dotted and dotless i, long and short s, the Greek letters with a symbol
variant). An uncased pattern character matches only itself.
-/

namespace ByteAsm

namespace Text

/-- For a lower-case letter, the other lower-case letters with the same upper-case form, sorted
by code point. -/
def caseFellows : Array (Nat × List Nat) := #[
    (0x69, [0x131]),
    (0x73, [0x17F]),
    (0xB5, [0x3BC]),
    (0x131, [0x69]),
    (0x17F, [0x73]),
    (0x345, [0x3B9, 0x1FBE]),
    (0x390, [0x1FD3]),
    (0x3B0, [0x1FE3]),
    (0x3B2, [0x3D0]),
    (0x3B5, [0x3F5]),
    (0x3B8, [0x3D1]),
    (0x3B9, [0x345, 0x1FBE]),
    (0x3BA, [0x3F0]),
    (0x3BC, [0xB5]),
    (0x3C0, [0x3D6]),
    (0x3C1, [0x3F1]),
    (0x3C2, [0x3C3]),
    (0x3C3, [0x3C2]),
    (0x3C6, [0x3D5]),
    (0x3D0, [0x3B2]),
    (0x3D1, [0x3B8]),
    (0x3D5, [0x3C6]),
    (0x3D6, [0x3C0]),
    (0x3F0, [0x3BA]),
    (0x3F1, [0x3C1]),
    (0x3F5, [0x3B5]),
    (0x432, [0x1C80]),
    (0x434, [0x1C81]),
    (0x43E, [0x1C82]),
    (0x441, [0x1C83]),
    (0x442, [0x1C84, 0x1C85]),
    (0x44A, [0x1C86]),
    (0x463, [0x1C87]),
    (0x1C80, [0x432]),
    (0x1C81, [0x434]),
    (0x1C82, [0x43E]),
    (0x1C83, [0x441]),
    (0x1C84, [0x442, 0x1C85]),
    (0x1C85, [0x442, 0x1C84]),
    (0x1C86, [0x44A]),
    (0x1C87, [0x463]),
    (0x1C88, [0xA64B]),
    (0x1E61, [0x1E9B]),
    (0x1E9B, [0x1E61]),
    (0x1FBE, [0x345, 0x3B9]),
    (0x1FD3, [0x390]),
    (0x1FE3, [0x3B0]),
    (0xA64B, [0x1C88]),
    (0xFB05, [0xFB06]),
    (0xFB06, [0xFB05])

  ]

/-- The lower-case letters that a case-blind pattern accepts for a cased pattern character
whose lower-case form is `lo`. -/
def caselessClass (lo : Char) : List Char :=
  match lastAtMost caseFellows Prod.fst lo.toNat with
  | some (code, fellows) => if code = lo.toNat then lo :: fellows.map Char.ofNat else [lo]
  | none => [lo]

/-- Whether the input character `input` matches the character `pattern` of a pattern that
ignores case. -/
def caselessMatch (pattern input : Char) : Bool :=
  if isCased pattern then
    (caselessClass (lowerChar pattern)).contains (lowerChar input)
  else
    input == pattern

end Text

end ByteAsm
