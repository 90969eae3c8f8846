import Mathlib
import ByteAsm.Token.Scan
import ByteAsm.InstructionSet.Sms32

/-!
# Token positions follow from token offsets

The line and column that the scanner keeps while it walks the text are exact: every token's span
carries, at both ends, the position that its offset has in the source (`Position.ofOffset`).
-/

namespace ByteAsm

namespace Token

theorem advance_ofOffset (source : List Char) (k n : Nat) :
    (Position.ofOffset source k).advance ((source.drop k).take n) =
      Position.ofOffset source (k + n) := by
  rw [Position.ofOffset, Position.advance_after, ← List.take_add]
  rfl

/-- Scanning the rest of `source` from offset `offset`, at the position of that offset, gives
every token the positions of its offsets. -/
theorem scanFrom_positions (terminator : String) (names : List String) (source : List Char)
    (cs : List Char) (offset : Nat) (pos : Position) (tokens : List Token) {wordBefore : Bool}
    (hcs : cs = source.drop offset) (hpos : pos = Position.ofOffset source offset)
    (h : scanFrom terminator names wordBefore cs offset pos = .ok tokens) :
    ∀ t ∈ tokens, t.span.startPos = Position.ofOffset source t.span.start ∧
      t.span.stopPos = Position.ofOffset source t.span.stop := by
  fun_induction scanFrom terminator names wordBefore cs offset pos generalizing tokens with
  | case1 =>
    cases Except.ok.inj h
    simp
  | case2 => cases h
  | case3 => cases h
  | case4 wordBefore offset pos c tail n raw stopPos rest wordAfter hn hnext ih =>
    apply ih tokens _ _ h
    · simp only [rest, hcs, List.drop_drop]
    · simp only [stopPos, raw, hcs, hpos, advance_ofOffset]
  | case5 wordBefore offset pos c tail n raw stopPos kind token hterm hnext =>
    cases Except.ok.inj h
    intro t ht
    simp only [List.mem_singleton] at ht
    subst ht
    exact ⟨hpos, by simp only [token, make, stopPos, raw, hcs, hpos, advance_ofOffset]⟩
  | case6 => cases h
  | case7 wordBefore offset pos c tail n raw stopPos rest wordAfter kind token hterm hn hnext ih =>
    cases hrest : scanFrom terminator names wordAfter rest (offset + n) stopPos with
    | error e => rw [hrest] at h; cases h
    | ok more =>
      rw [hrest] at h
      cases Except.ok.inj h
      have hmore := ih more
        (by simp only [rest, hcs, List.drop_drop])
        (by simp only [stopPos, raw, hcs, hpos, advance_ofOffset]) hrest
      intro t ht
      simp only [List.mem_cons] at ht
      rcases ht with rfl | ht
      · exact ⟨hpos, by simp only [token, make, stopPos, raw, hcs, hpos, advance_ofOffset]⟩
      · exact hmore t ht

/-- Every token that scanning finds starts and ends at the positions of its offsets. -/
theorem span_positions_of_scan {set : InstructionSet} {source : String} {tokens : List Token}
    (h : scan set source = .ok tokens) :
    ∀ t ∈ tokens, t.span.startPos = Position.ofOffset source.toList t.span.start ∧
      t.span.stopPos = Position.ofOffset source.toList t.span.stop :=
  scanFrom_positions _ _ source.toList source.toList 0 Position.start tokens
    (List.drop_zero).symm rfl h

/-- An instruction whose second operand stands on the next line. -/
def twoLines : String := "mov al,\n 01"

/-- The tokens of `twoLines` under the SMS32 table. -/
def twoLineTokens : List Token := [
  ⟨.bare, "MOV", "mov", ⟨0, 3, ⟨1, 0⟩, ⟨1, 3⟩⟩⟩,
  ⟨.register, "AL", "al", ⟨4, 6, ⟨1, 4⟩, ⟨1, 6⟩⟩⟩,
  ⟨.comma, ",", ",", ⟨6, 7, ⟨1, 6⟩, ⟨1, 7⟩⟩⟩,
  ⟨.digits, "01", "01", ⟨9, 11, ⟨2, 1⟩, ⟨2, 3⟩⟩⟩]

/-- The operand on the second line is placed on line 2, one column in. -/
theorem scan_twoLines_positions :
    scan InstructionSet.sms32 twoLines = .ok twoLineTokens ∧
      ∀ t ∈ twoLineTokens, t.span.startPos = Position.ofOffset twoLines.toList t.span.start ∧
        t.span.stopPos = Position.ofOffset twoLines.toList t.span.stop :=
  have h : scan InstructionSet.sms32 twoLines = .ok twoLineTokens := by cbv
  ⟨h, span_positions_of_scan h⟩

end Token

end ByteAsm
