import Mathlib
import ByteAsm.Proofs.DiagnosticSpans

/-!
# Tokens and skipped text tile the source

For a table whose register names are all nonempty, and which has at least one, scanning succeeds
on every source, and the source splits into stretches of white space and whole-line comments,
each followed by the text of the next token, written at its span (`scan_tiles_source`). The
proof follows the scanning loop with the tiling of the text still to read as its invariant
(`Tiling`); without register names the empty register name breaks it
(`registerless_scan_empty_token`).
-/

namespace ByteAsm

namespace Token

open Text

/-! ### Skipped text and tilings -/

/-- Text that scanning skips: white space, and comments from a semicolon to the line feed that
ends their line. -/
inductive Skipped : List Char → Prop
  | nil : Skipped []
  | blank {c : Char} {rest : List Char} : isBlank c = true → Skipped rest → Skipped (c :: rest)
  | comment {body rest : List Char} : '\n' ∉ body → Skipped rest →
      Skipped (';' :: body ++ '\n' :: rest)

/-- Skipped text at the end of the source, where the last comment needs no line feed. -/
def SkippedToEnd (cs : List Char) : Prop :=
  Skipped cs ∨ ∃ gap body, cs = gap ++ ';' :: body ∧ Skipped gap ∧ '\n' ∉ body

theorem Skipped.append {gap cs : List Char} (hgap : Skipped gap) (hcs : Skipped cs) :
    Skipped (gap ++ cs) := by
  induction hgap with
  | nil => exact hcs
  | blank hc _ ih => exact .blank hc ih
  | @comment body rest hbody _ ih =>
    rw [List.append_assoc, List.cons_append]
    exact .comment hbody ih

theorem Skipped.of_forall_blank {cs : List Char} (h : ∀ c ∈ cs, isBlank c = true) :
    Skipped cs := by
  induction cs with
  | nil => exact .nil
  | cons c rest ih =>
    exact .blank (h c List.mem_cons_self) (ih fun x hx => h x (List.mem_cons_of_mem c hx))

theorem Skipped.of_lineFeed {rest : List Char} (h : Skipped ('\n' :: rest)) : Skipped rest := by
  cases h with
  | blank _ hrest => exact hrest

theorem SkippedToEnd.skip {skipped cs : List Char} (hskipped : Skipped skipped)
    (h : SkippedToEnd cs) : SkippedToEnd (skipped ++ cs) := by
  rcases h with h | ⟨gap, body, rfl, hgap, hbody⟩
  · exact .inl (hskipped.append h)
  · exact .inr ⟨skipped ++ gap, body, (List.append_assoc _ _ _).symm, hskipped.append hgap, hbody⟩

theorem SkippedToEnd.comment {body cs : List Char} (hbody : '\n' ∉ body)
    (hend : ∀ c ∈ cs.head?, c = '\n') (h : SkippedToEnd cs) :
    SkippedToEnd (';' :: body ++ cs) := by
  cases cs with
  | nil => exact .inr ⟨[], body, by simp, .nil, hbody⟩
  | cons c rest =>
    obtain rfl := hend c rfl
    rcases h with h | ⟨gap, body', hsplit, hgap, hbody'⟩
    · exact .inl (.comment hbody h.of_lineFeed)
    · cases gap with
      | nil => simp at hsplit
      | cons g gap =>
        simp only [List.cons_append, List.cons.injEq] at hsplit
        obtain ⟨rfl, rfl⟩ := hsplit
        exact .inr ⟨';' :: body ++ '\n' :: gap, body', by simp, .comment hbody hgap.of_lineFeed,
          hbody'⟩

/-- The token `t` is written as `raw` right after the skipped text `gap`, which starts at offset
`offset`; `raw` is not empty, and starts with a character that starts no skipped text. -/
structure Placed (offset : Nat) (gap raw : List Char) (t : Token) : Prop where
  skipped : Skipped gap
  nonempty : raw ≠ []
  opens : ∀ c ∈ raw.head?, isBlank c = false ∧ c ≠ ';'
  raw_eq : t.raw = String.ofList raw
  start_eq : t.span.start = offset + gap.length
  stop_eq : t.span.stop = t.span.start + raw.length

/-- The tokens `tokens` tile the text `cs`, which starts at offset `offset` of the source: each
token is placed after a stretch of skipped text, from where the one before it stops; the tokens
end with the first whose value is `terminator`, and the text after the last token is skipped
text to the end unless that token is the terminator. -/
inductive Tiling (terminator : String) : Nat → List Char → List Token → Prop
  | rest {offset : Nat} {cs : List Char} : SkippedToEnd cs → Tiling terminator offset cs []
  | last {offset : Nat} {gap raw rest : List Char} {t : Token} :
      Placed offset gap raw t → t.value = terminator →
      Tiling terminator offset (gap ++ raw ++ rest) [t]
  | cons {offset : Nat} {gap raw rest : List Char} {t : Token} {ts : List Token} :
      Placed offset gap raw t → t.value ≠ terminator → Tiling terminator t.span.stop rest ts →
      Tiling terminator offset (gap ++ raw ++ rest) (t :: ts)

variable {terminator : String}

theorem Placed.skip {offset : Nat} {skipped gap raw : List Char} {t : Token}
    (hskipped : Skipped skipped) (h : Placed (offset + skipped.length) gap raw t) :
    Placed offset (skipped ++ gap) raw t :=
  ⟨hskipped.append h.skipped, h.nonempty, h.opens, h.raw_eq,
    by rw [h.start_eq, List.length_append, Nat.add_assoc], h.stop_eq⟩

theorem Placed.comment {offset : Nat} {body gap raw : List Char} {t : Token} (hbody : '\n' ∉ body)
    (h : Placed (offset + (body.length + 1)) ('\n' :: gap) raw t) :
    Placed offset (';' :: body ++ '\n' :: gap) raw t :=
  ⟨.comment hbody h.skipped.of_lineFeed, h.nonempty, h.opens, h.raw_eq,
    by simp only [h.start_eq, List.length_append, List.length_cons]; omega, h.stop_eq⟩

theorem Placed.gap_of_lineFeed {offset : Nat} {gap raw rest : List Char} {t : Token}
    (hp : Placed offset gap raw t) (hend : ∀ c ∈ (gap ++ raw ++ rest).head?, c = '\n') :
    ∃ gap', gap = '\n' :: gap' := by
  cases gap with
  | nil =>
    obtain ⟨c, raw', rfl⟩ := List.exists_cons_of_ne_nil hp.nonempty
    obtain ⟨hblank, -⟩ := hp.opens c rfl
    rw [hend c rfl] at hblank
    exact absurd hblank (by decide)
  | cons c gap' =>
    obtain rfl := hend c rfl
    exact ⟨gap', rfl⟩

theorem Tiling.skip {offset : Nat} {skipped cs : List Char} {tokens : List Token}
    (hskipped : Skipped skipped) (h : Tiling terminator (offset + skipped.length) cs tokens) :
    Tiling terminator offset (skipped ++ cs) tokens := by
  cases h with
  | rest hcs => exact .rest (hcs.skip hskipped)
  | last hplaced hterm =>
    rw [← List.append_assoc, ← List.append_assoc]
    exact .last (hplaced.skip hskipped) hterm
  | cons hplaced hterm htail =>
    rw [← List.append_assoc, ← List.append_assoc]
    exact .cons (hplaced.skip hskipped) hterm htail

theorem Tiling.comment {offset : Nat} {body cs : List Char} {tokens : List Token}
    (hbody : '\n' ∉ body) (hend : ∀ c ∈ cs.head?, c = '\n')
    (h : Tiling terminator (offset + (body.length + 1)) cs tokens) :
    Tiling terminator offset (';' :: body ++ cs) tokens := by
  cases h with
  | rest hcs => exact .rest (hcs.comment hbody hend)
  | last hp hterm =>
    obtain ⟨gap, rfl⟩ := hp.gap_of_lineFeed hend
    rw [← List.append_assoc, ← List.append_assoc]
    exact .last (hp.comment hbody) hterm
  | cons hp hterm htail =>
    obtain ⟨gap, rfl⟩ := hp.gap_of_lineFeed hend
    rw [← List.append_assoc, ← List.append_assoc]
    exact .cons (hp.comment hbody) hterm htail

theorem Placed.slice {source : List Char} {offset : Nat} {gap raw rest : List Char} {t : Token}
    (hp : Placed offset gap raw t) (hsplit : gap ++ raw ++ rest = source.drop offset) :
    source.drop t.span.stop = rest ∧
      String.ofList ((source.drop t.span.start).take (t.span.stop - t.span.start)) = t.raw ∧
      t.raw ≠ "" := by
  have hstart : source.drop t.span.start = raw ++ rest := by
    rw [hp.start_eq, ← List.drop_drop, ← hsplit, List.append_assoc, List.drop_left]
  refine ⟨?_, ?_, ?_⟩
  · rw [hp.stop_eq, ← List.drop_drop, hstart, List.drop_left]
  · rw [hstart, hp.stop_eq, Nat.add_sub_cancel_left, List.take_left, hp.raw_eq]
  · rw [hp.raw_eq, ne_eq, String.ofList_eq_empty_iff]
    exact hp.nonempty

/-- A tiling of the source from offset `offset` on places every token at its own text: the
source between its offsets is its text, which is not empty; and the tokens start at or after
`offset` and each ends before the next starts. -/
theorem Tiling.slices {source : List Char} {offset : Nat} {cs : List Char} {tokens : List Token}
    (h : Tiling terminator offset cs tokens) (hcs : cs = source.drop offset) :
    (∀ t ∈ tokens, offset ≤ t.span.start ∧
      String.ofList ((source.drop t.span.start).take (t.span.stop - t.span.start)) = t.raw ∧
      t.raw ≠ "") ∧
      tokens.Pairwise fun a b => a.span.stop ≤ b.span.start := by
  induction h with
  | rest => simp
  | last hp hterm =>
    obtain ⟨-, hslice, hne⟩ := hp.slice hcs
    simp only [List.mem_singleton, forall_eq, List.pairwise_singleton, and_true]
    exact ⟨by rw [hp.start_eq]; omega, hslice, hne⟩
  | @cons offset gap raw rest t ts hp hterm htail ih =>
    obtain ⟨hstop, hslice, hne⟩ := hp.slice hcs
    obtain ⟨hbounds, hsorted⟩ := ih hstop.symm
    have hstart : offset ≤ t.span.start := by rw [hp.start_eq]; omega
    have hlength : t.span.start ≤ t.span.stop := by rw [hp.stop_eq]; omega
    refine ⟨fun t' ht' => ?_, List.pairwise_cons.2 ⟨fun t' ht' => (hbounds t' ht').1, hsorted⟩⟩
    rcases List.mem_cons.1 ht' with rfl | ht'
    · exact ⟨hstart, hslice, hne⟩
    · obtain ⟨hafter, hslice', hne'⟩ := hbounds t' ht'
      exact ⟨by omega, hslice', hne'⟩

/-! ### Every character starts a lexeme -/

theorem Lexeme.next_ne_none (names : List String) (c : Char) (more : List Char) :
    Lexeme.next names (c :: more) ≠ none := by
  simp only [Lexeme.next]
  by_cases hblank : isBlank c = true
  · simp [hblank]
  rw [if_neg hblank]
  by_cases hsemi : c = ';'
  · simp [hsemi]
  rw [if_neg hsemi]
  by_cases hcomma : c = ','
  · simp [hcomma]
  rw [if_neg hcomma]
  by_cases hcolon : c = ':'
  · simp [hcolon]
  rw [if_neg hcolon]
  have hends : endsWord c = false := by simp [endsWord, hblank, hsemi, hcomma, hcolon]
  have hbare : (List.takeWhile (fun x => !endsWord x) (c :: more)).length ≠ 0 := by simp [hends]
  simp [hbare]

/-- What a skipped lexeme takes is white space, or a comment that a line feed or the end of the
text ends. -/
theorem Lexeme.next_skip {names : List String} {cs : List Char} {n : Nat}
    (h : Lexeme.next names cs = some (.skip, n)) :
    Skipped (cs.take n) ∨
      ∃ body, cs.take n = ';' :: body ∧ '\n' ∉ body ∧ ∀ c ∈ (cs.drop n).head?, c = '\n' := by
  unfold Lexeme.next at h
  split at h
  · cases h
  · next c rest =>
    have hsplit : ∀ p : Char → Bool,
        (c :: rest).take (1 + (rest.takeWhile p).length) = c :: rest.takeWhile p ∧
          (c :: rest).drop (1 + (rest.takeWhile p).length) = rest.dropWhile p := by
      intro p
      have hleft := @List.take_left _ (rest.takeWhile p) (rest.dropWhile p)
      have hright := @List.drop_left _ (rest.takeWhile p) (rest.dropWhile p)
      rw [List.takeWhile_append_dropWhile] at hleft hright
      rw [Nat.add_comm, List.take_succ_cons, List.drop_succ_cons, hleft, hright]
      exact ⟨rfl, rfl⟩
    split at h
    · next hblank =>
      cases h
      rw [(hsplit _).1]
      exact .inl (.blank hblank (.of_forall_blank fun x hx => List.mem_takeWhile_imp hx))
    split at h
    · next hsemi =>
      cases h
      rw [(hsplit _).1, (hsplit _).2, hsemi]
      refine .inr ⟨_, rfl, fun hmem => ?_, fun x hx => ?_⟩
      · simpa using List.mem_takeWhile_imp hmem
      · have hnot := List.head?_dropWhile_not (fun x => decide (x ≠ '\n')) rest
        rw [show (rest.dropWhile _).head? = some x from hx] at hnot
        simpa using hnot
    split at h
    · cases h
    split at h
    · cases h
    simp only [Option.orElse_eq_orElse, Option.orElse_eq_or, Option.or_eq_some_iff,
      Option.map_eq_some_iff] at h
    split at h <;> simp at h

theorem Lexeme.next_token_opens {names : List String} {c : Char} {rest : List Char}
    {kind : TokenKind} {n : Nat} (h : Lexeme.next names (c :: rest) = some (.token kind, n)) :
    isBlank c = false ∧ c ≠ ';' := by
  simp only [Lexeme.next] at h
  by_cases hblank : isBlank c = true
  · rw [if_pos hblank] at h
    cases h
  by_cases hsemi : c = ';'
  · rw [if_neg hblank, if_pos hsemi] at h
    cases h
  exact ⟨by simpa using hblank, hsemi⟩

theorem Lexeme.next_placed {names : List String} {cs : List Char} {kind : TokenKind} {n : Nat}
    (offset : Nat) (pos stopPos : Position) (hnext : Lexeme.next names cs = some (.token kind, n)) :
    Placed offset [] (cs.take n)
      (make kind (String.ofList (cs.take n)) ⟨offset, offset + n, pos, stopPos⟩) := by
  obtain ⟨hpos, hle⟩ := Lexeme.next_length hnext
  cases cs with
  | nil => simp [Lexeme.next] at hnext
  | cons c rest =>
    obtain ⟨m, rfl⟩ := Nat.exists_eq_succ_of_ne_zero (Nat.pos_iff_ne_zero.1 hpos)
    refine ⟨.nil, by simp, ?_, rfl, rfl, ?_⟩
    · simpa using Lexeme.next_token_opens hnext
    · simpa [make] using hle

/-! ### Scanning tiles the text -/

/-- Where the register pattern does not match the empty text, scanning succeeds on every text,
and its tokens tile the text. -/
theorem scanFrom_tiles (terminator : String) {names : List String}
    (hnames : matchesEmpty names = false) (wordBefore : Bool) (cs : List Char) (offset : Nat)
    (pos : Position) :
    ∃ tokens, scanFrom terminator names wordBefore cs offset pos = .ok tokens ∧
      Tiling terminator offset cs tokens := by
  fun_induction scanFrom terminator names wordBefore cs offset pos with
  | case1 => exact ⟨[], rfl, .rest (.inl .nil)⟩
  | case2 wordBefore offset pos c tail hnext =>
    rw [Lexeme.at_of_matchesEmpty_eq_false _ _ hnames] at hnext
    exact absurd hnext (Lexeme.next_ne_none names c tail)
  | case3 wordBefore offset pos c tail hnext =>
    rw [Lexeme.at_of_matchesEmpty_eq_false _ _ hnames] at hnext
    exact absurd (Lexeme.next_length hnext).1 (lt_irrefl 0)
  | case4 wordBefore offset pos c tail n raw stopPos rest wordAfter hn hnext ih =>
    rw [Lexeme.at_of_matchesEmpty_eq_false _ _ hnames] at hnext
    obtain ⟨tokens, hscan, htiling⟩ := ih
    have hlength : raw.length = n := List.length_take_of_le (Lexeme.next_length hnext).2
    refine ⟨tokens, hscan, ?_⟩
    rw [← List.take_append_drop n (c :: tail)]
    rcases Lexeme.next_skip hnext with hskipped | ⟨body, hbody_eq, hbody, hend⟩
    · exact Tiling.skip hskipped (by rw [hlength]; exact htiling)
    · have hn : body.length + 1 = n := by
        rw [← hlength, show raw = ';' :: body from hbody_eq, List.length_cons]
      rw [hbody_eq]
      exact Tiling.comment hbody hend (by rw [hn]; exact htiling)
  | case5 wordBefore offset pos c tail n raw stopPos kind token hterm hnext =>
    rw [Lexeme.at_of_matchesEmpty_eq_false _ _ hnames] at hnext
    refine ⟨[token], rfl, ?_⟩
    rw [← List.nil_append (c :: tail), ← List.take_append_drop n (c :: tail), ← List.append_assoc]
    exact .last (Lexeme.next_placed offset pos stopPos hnext) (beq_iff_eq.1 hterm)
  | case6 wordBefore offset pos c tail kind raw stopPos token hterm hnext =>
    rw [Lexeme.at_of_matchesEmpty_eq_false _ _ hnames] at hnext
    exact absurd (Lexeme.next_length hnext).1 (lt_irrefl 0)
  | case7 wordBefore offset pos c tail n raw stopPos rest wordAfter kind token hterm hn hnext ih =>
    rw [Lexeme.at_of_matchesEmpty_eq_false _ _ hnames] at hnext
    obtain ⟨more, hscan, htiling⟩ := ih
    refine ⟨token :: more, by rw [hscan]; rfl, ?_⟩
    rw [← List.nil_append (c :: tail), ← List.take_append_drop n (c :: tail), ← List.append_assoc]
    exact .cons (Lexeme.next_placed offset pos stopPos hnext) (fun heq => hterm (by simp [heq]))
      htiling

theorem matchesEmpty_registerNamesByLength (set : InstructionSet) :
    matchesEmpty set.registerNamesByLength = false ↔
      set.registers ≠ [] ∧ ∀ r ∈ set.registers, r.1 ≠ "" := by
  have hperm := List.mergeSort_perm (set.registers.map Prod.fst) fun a b => b.length ≤ a.length
  unfold matchesEmpty InstructionSet.registerNamesByLength
  rw [Bool.or_eq_false_iff, hperm.isEmpty_eq, List.any_eq_false]
  simp [hperm.mem_iff]

/-- Under a table with at least one register, and no register with the empty name, scanning
succeeds on every source, and its tokens tile the source: each is written at its span, nonempty,
each ending before the next starts, with only white space and comments between them and before
the first; the tokens end with the first whose value is the terminator, and if none is, only
white space and comments follow the last. -/
theorem scan_tiles_source (set : InstructionSet) (hregisters : set.registers ≠ [])
    (hnames : ∀ r ∈ set.registers, r.1 ≠ "") (source : String) :
    ∃ tokens, scan set source = .ok tokens ∧ Tiling set.terminator 0 source.toList tokens ∧
      (∀ t ∈ tokens,
        String.ofList ((source.toList.drop t.span.start).take (t.span.stop - t.span.start)) =
          t.raw ∧ t.raw ≠ "") ∧
      tokens.Pairwise fun a b => a.span.stop ≤ b.span.start := by
  have hempty : matchesEmpty set.registerNamesByLength = false :=
    (matchesEmpty_registerNamesByLength set).2 ⟨hregisters, hnames⟩
  obtain ⟨tokens, hscan, htiling⟩ :=
    scanFrom_tiles set.terminator hempty false source.toList 0 Position.start
  obtain ⟨hbounds, hsorted⟩ := htiling.slices (List.drop_zero).symm
  exact ⟨tokens, hscan, htiling, fun t ht => (hbounds t ht).2, hsorted⟩

/-- The SMS32 table has registers, all named, so every source is tiled by its tokens; here one
with a label, a comment and the terminator. -/
theorem sms32_scan_tiles :
    (InstructionSet.sms32.registers ≠ [] ∧ ∀ r ∈ InstructionSet.sms32.registers, r.1 ≠ "") ∧
      ∃ tokens, scan InstructionSet.sms32 "start: mov al, 01 ; load\nend" = .ok tokens ∧
        Tiling "END" 0 "start: mov al, 01 ; load\nend".toList tokens ∧
        (∀ t ∈ tokens,
          String.ofList (("start: mov al, 01 ; load\nend".toList.drop t.span.start).take
            (t.span.stop - t.span.start)) = t.raw ∧ t.raw ≠ "") ∧
        tokens.Pairwise fun a b => a.span.stop ≤ b.span.start :=
  have hregisters : InstructionSet.sms32.registers ≠ [] := by decide
  have hnames : ∀ r ∈ InstructionSet.sms32.registers, r.1 ≠ "" := by decide
  ⟨⟨hregisters, hnames⟩, scan_tiles_source InstructionSet.sms32 hregisters hnames _⟩

/-- A table that passes its checks with no register at all; its terminator is the empty
mnemonic. -/
def registerlessTable : InstructionSet where
  forms := [("", [⟨[], none⟩]), ("ORG", [⟨[.number], none⟩])]
  registers := []
  terminator := ""
  origin := "ORG"
  data := "DB"

/-- Without register names the register pattern matches the empty text, at the word boundary
before `x`: scanning `x` gives one empty register token, which is the terminator, and `x` itself
lands in no token. -/
theorem registerless_scan_empty_token :
    registerlessTable.check = .ok () ∧
      scan registerlessTable "x" = .ok [⟨.register, "", "", ⟨0, 0, ⟨1, 0⟩, ⟨1, 0⟩⟩⟩] := by
  constructor
  · decide +kernel
  · cbv

end Token

end ByteAsm
