import ByteAsm.Token.Scan

/-!
# What scanning hands to the parser

Two facts about the tokens of a source that the parser relies on. A colon token is written as
a colon and nothing else, so no colon can pass for a label name; and scanning stops at the first
token whose value is the terminator of the instruction table, so only the last token may carry
that value. Both follow the scanning loop, one lexeme at a time.
-/

namespace ByteAsm

namespace Token

theorem next_colon {names : List String} {cs : List Char} {n : Nat}
    (h : Lexeme.next names cs = some (.token .colon, n)) : cs.head? = some ':' ∧ n = 1 := by
  unfold Lexeme.next at h
  split at h
  · cases h
  · next c rest =>
    split at h
    · cases h
    split at h
    · cases h
    split at h
    · cases h
    split at h
    · next hcolon =>
      cases h
      exact ⟨by simp [hcolon], rfl⟩
    · simp only [Option.orElse_eq_orElse, Option.orElse_eq_or, Option.or_eq_some_iff,
        Option.map_eq_some_iff] at h
      split at h <;> simp at h

theorem make_colon_value {names : List String} {wordBefore : Bool} {c : Char} {more : List Char}
    {n : Nat} {kind : TokenKind} {span : Span}
    (hnext : Lexeme.at names wordBefore (c :: more) = some (.token kind, n))
    (hkind : kind = .colon) : (make kind (String.ofList ((c :: more).take n)) span).value = ":" := by
  subst hkind
  have hcolon : Lexeme.next names (c :: more) = some (.token .colon, n) := by
    rcases Lexeme.at_eq_next_or hnext with hnext | ⟨hkind, -⟩
    · exact hnext
    · cases hkind
  obtain ⟨hc, rfl⟩ := next_colon hcolon
  cases hc
  simp [make, valueOf, unwrap, TokenKind.ignoresCase]

theorem scanFrom_colon_value {terminator : String} {names : List String} {wordBefore : Bool}
    {cs : List Char} {offset : Nat} {pos : Position} (tokens : List Token)
    (h : scanFrom terminator names wordBefore cs offset pos = .ok tokens) :
    ∀ t ∈ tokens, t.kind = .colon → t.value = ":" := by
  fun_induction scanFrom terminator names wordBefore cs offset pos generalizing tokens with
  | case1 =>
    cases Except.ok.inj h
    simp
  | case2 => cases h
  | case3 => cases h
  | case4 wordBefore offset pos c tail n raw stopPos rest wordAfter hn hnext ih => exact ih tokens h
  | case5 wordBefore offset pos c tail n raw stopPos kind token hterm hnext =>
    cases Except.ok.inj h
    intro t ht hkind
    rw [List.mem_singleton.1 ht] at hkind ⊢
    exact make_colon_value hnext hkind
  | case6 => cases h
  | case7 wordBefore offset pos c tail n raw stopPos rest wordAfter kind token hterm hn hnext ih =>
    cases hrest : scanFrom terminator names wordAfter rest (offset + n) stopPos with
    | error e => rw [hrest] at h; cases h
    | ok more =>
      rw [hrest] at h
      cases Except.ok.inj h
      intro t ht hkind
      rcases List.mem_cons.1 ht with rfl | ht
      · exact make_colon_value hnext hkind
      · exact ih more hrest t ht hkind

/-- Scanning stops at the terminator: no token before the last carries its value. -/
theorem scanFrom_terminator_last {terminator : String} {names : List String} {wordBefore : Bool}
    {cs : List Char} {offset : Nat} {pos : Position} (tokens : List Token)
    (h : scanFrom terminator names wordBefore cs offset pos = .ok tokens) :
    ∀ t ∈ tokens.dropLast, t.value ≠ terminator := by
  fun_induction scanFrom terminator names wordBefore cs offset pos generalizing tokens with
  | case1 =>
    cases Except.ok.inj h
    simp
  | case2 => cases h
  | case3 => cases h
  | case4 wordBefore offset pos c tail n raw stopPos rest wordAfter hn hnext ih => exact ih tokens h
  | case5 =>
    cases Except.ok.inj h
    simp
  | case6 => cases h
  | case7 wordBefore offset pos c tail n raw stopPos rest wordAfter kind token hterm hn hnext ih =>
    cases hrest : scanFrom terminator names wordAfter rest (offset + n) stopPos with
    | error e => rw [hrest] at h; cases h
    | ok more =>
      rw [hrest] at h
      cases Except.ok.inj h
      have hvalue : token.value ≠ terminator := fun heq => hterm (by simp [heq])
      cases more with
      | nil => simp
      | cons next more =>
        intro t ht
        rw [List.dropLast_cons_cons] at ht
        rcases List.mem_cons.1 ht with rfl | ht
        · exact hvalue
        · exact ih _ hrest t ht

/-- A colon token of a scanned source is a colon. -/
theorem colon_value_of_scan {set : InstructionSet} {source : String} {tokens : List Token}
    (h : scan set source = .ok tokens) : ∀ t ∈ tokens, t.kind = .colon → t.value = ":" :=
  scanFrom_colon_value tokens h

/-- In a scanned source only the last token may carry the terminator's value. -/
theorem terminator_last_of_scan {set : InstructionSet} {source : String} {tokens : List Token}
    (h : scan set source = .ok tokens) : ∀ t ∈ tokens.dropLast, t.value ≠ set.terminator :=
  scanFrom_terminator_last tokens h

end Token

end ByteAsm
