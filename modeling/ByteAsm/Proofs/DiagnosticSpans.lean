import Mathlib
import ByteAsm.Proofs.FailureSites
import ByteAsm.Proofs.TokenPositions

/-!
# Every diagnostic points into its source

Every span a diagnostic carries is a span of the source, with its offsets in order and within the
text and its positions those of its offsets (`Span.Within`); a duplicate label points back to the
first declaration of its name, which ends before it starts. The spans come from tokens, which
the scanner places in order (`Token.scan_spans`), and the parser and the passes keep them.
-/

namespace ByteAsm

/-- A span of the text `source`: its offsets are in order and within the text, and its positions
are those of its offsets. -/
structure Span.Within (source : List Char) (s : Span) : Prop where
  ordered : s.start ≤ s.stop
  bounded : s.stop ≤ source.length
  startPos : s.startPos = Position.ofOffset source s.start
  stopPos : s.stopPos = Position.ofOffset source s.stop

namespace Span

variable {source : List Char}

theorem within_empty : Span.empty.Within source :=
  ⟨le_rfl, Nat.zero_le _, rfl, rfl⟩

theorem Within.atEnd {s : Span} (h : s.Within source) : s.atEnd.Within source :=
  ⟨le_rfl, h.bounded, h.stopPos, h.stopPos⟩

theorem Within.cover {a b : Span} (ha : a.Within source) (hb : b.Within source)
    (hab : a.start ≤ b.stop) : (Span.cover a b).Within source :=
  ⟨hab, hb.bounded, ha.startPos, hb.stopPos⟩

end Span

namespace Token

/-! ### Lexemes and tokens stay within the text -/

theorem closedLength_le {closer : Char} {allowed : Char → Bool} {cs : List Char} {n : Nat}
    (h : closedLength closer allowed cs = some n) : n ≤ cs.length := by
  induction cs generalizing n with
  | nil => cases h
  | cons c rest ih =>
    unfold closedLength at h
    split at h
    · cases h
      simp
    · split at h
      · obtain ⟨m, hm, rfl⟩ := Option.map_eq_some_iff.1 h
        simpa using ih hm
      · cases h

theorem digitsLength?_le {cs : List Char} {n : Nat} (h : digitsLength? cs = some n) :
    n ≤ cs.length := by
  unfold digitsLength? at h
  dsimp only at h
  split at h
  · cases h
  · split at h
    · cases h
      exact (List.takeWhile_sublist _).length_le
    · split at h
      · cases h
      · cases h
        exact (List.takeWhile_sublist _).length_le

theorem spells_length_le {p cs : List Char} (h : spells p cs = true) : p.length ≤ cs.length := by
  fun_induction spells p cs with
  | case1 => simp
  | case2 c ps d cs ih =>
    simp only [Bool.and_eq_true] at h
    simpa using ih h.2
  | case3 => cases h

theorem registerLength?_le {names : List String} {cs : List Char} {n : Nat}
    (h : registerLength? names cs = some n) : n ≤ cs.length := by
  obtain ⟨-, name, -, -, hname, -⟩ := List.findSome?_eq_some_iff.1 h
  dsimp only at hname
  split at hname
  · next hcond =>
    cases hname
    simp only [Bool.and_eq_true] at hcond
    exact spells_length_le hcond.1.2
  · cases hname

theorem digitsLength?_pos {cs : List Char} {n : Nat} (h : digitsLength? cs = some n) : 0 < n := by
  unfold digitsLength? at h
  dsimp only at h
  split at h
  · cases h
  · next hzero =>
    split at h
    · cases h
      omega
    · split at h
      · cases h
      · cases h
        omega

theorem registerLength?_pos {names : List String} {cs : List Char} {n : Nat}
    (h : registerLength? names cs = some n) : 0 < n := by
  obtain ⟨-, name, -, -, hname, -⟩ := List.findSome?_eq_some_iff.1 h
  dsimp only at hname
  split at hname
  · next hcond =>
    cases hname
    simp only [Bool.and_eq_true, Bool.not_eq_true', List.isEmpty_eq_false_iff] at hcond
    exact List.length_pos_of_ne_nil hcond.1.1
  · cases hname

theorem Lexeme.next_length {names : List String} {cs : List Char} {lexeme : Lexeme} {n : Nat}
    (h : Lexeme.next names cs = some (lexeme, n)) : 0 < n ∧ n ≤ cs.length := by
  unfold Lexeme.next at h
  split at h
  · cases h
  · next c rest =>
    have hrest : ∀ p : Char → Bool, 1 + (rest.takeWhile p).length ≤ (c :: rest).length := by
      intro p
      have hle := (List.takeWhile_sublist p (l := rest)).length_le
      simp only [List.length_cons]
      omega
    split at h
    · cases h
      exact ⟨by omega, hrest _⟩
    split at h
    · cases h
      exact ⟨by omega, hrest _⟩
    split at h
    · cases h
      simp
    split at h
    · cases h
      simp
    rcases (Option.orElse_eq_some _ _ _).1 h with h | ⟨-, h⟩
    · obtain ⟨m, hm, hmn⟩ := Option.map_eq_some_iff.1 h
      cases hmn
      exact ⟨digitsLength?_pos hm, digitsLength?_le hm⟩
    rcases (Option.orElse_eq_some _ _ _).1 h with h | ⟨-, h⟩
    · obtain ⟨m, hm, hmn⟩ := Option.map_eq_some_iff.1 h
      cases hmn
      exact ⟨registerLength?_pos hm, registerLength?_le hm⟩
    rcases (Option.orElse_eq_some _ _ _).1 h with h | ⟨-, h⟩
    · obtain ⟨m, hm, hmn⟩ := Option.map_eq_some_iff.1 h
      cases hmn
      split at hm
      · exact ⟨by omega, by simpa using closedLength_le hm⟩
      · cases hm
    rcases (Option.orElse_eq_some _ _ _).1 h with h | ⟨-, h⟩
    · obtain ⟨m, hm, hmn⟩ := Option.map_eq_some_iff.1 h
      cases hmn
      split at hm
      · exact ⟨by omega, by simpa using closedLength_le hm⟩
      · cases hm
    · dsimp only at h
      split at h
      · cases h
      · next hzero =>
        cases h
        exact ⟨by omega, (List.takeWhile_sublist _).length_le⟩

theorem Lexeme.at_length {names : List String} {wordBefore : Bool} {cs : List Char}
    {lexeme : Lexeme} {n : Nat} (h : Lexeme.at names wordBefore cs = some (lexeme, n)) :
    n ≤ cs.length ∧ (lexeme ≠ .token .register → 0 < n) := by
  rcases Lexeme.at_eq_next_or h with hnext | ⟨rfl, rfl, -⟩
  · exact ⟨(Lexeme.next_length hnext).2, fun _ => (Lexeme.next_length hnext).1⟩
  · exact ⟨Nat.zero_le _, fun hne => absurd rfl hne⟩

theorem Lexeme.at_empty {names : List String} {wordBefore : Bool} {cs : List Char}
    {lexeme : Lexeme} (h : Lexeme.at names wordBefore cs = some (lexeme, 0)) :
    lexeme = .token .register ∧ matchesEmpty names = true := by
  rcases Lexeme.at_eq_next_or h with hnext | ⟨rfl, -, hempty, -⟩
  · exact absurd (Lexeme.next_length hnext).1 (lt_irrefl 0)
  · exact ⟨rfl, hempty⟩

/-- Scanning the rest of `source` from offset `offset` gives tokens that start at or after it,
each within the text and nonempty unless it is a register token, and each ending before the next
starts. -/
theorem scanFrom_spans (terminator : String) (names : List String) (source : List Char)
    (cs : List Char) (offset : Nat) (pos : Position) (tokens : List Token) {wordBefore : Bool}
    (hcs : cs = source.drop offset)
    (h : scanFrom terminator names wordBefore cs offset pos = .ok tokens) :
    (∀ t ∈ tokens, offset ≤ t.span.start ∧ t.span.start ≤ t.span.stop ∧
      (t.kind ≠ .register → t.span.start < t.span.stop) ∧ t.span.stop ≤ source.length) ∧
      tokens.Pairwise fun a b => a.span.stop ≤ b.span.start := by
  fun_induction scanFrom terminator names wordBefore cs offset pos generalizing tokens with
  | case1 =>
    cases Except.ok.inj h
    simp
  | case2 => cases h
  | case3 => cases h
  | case4 wordBefore offset pos c tail n raw stopPos rest wordAfter hn hnext ih =>
    obtain ⟨hbounds, hsorted⟩ := ih tokens (by simp only [rest, hcs, List.drop_drop]) h
    refine ⟨fun t ht => ?_, hsorted⟩
    obtain ⟨hafter, hordered, hnonempty, hbounded⟩ := hbounds t ht
    exact ⟨by omega, hordered, hnonempty, hbounded⟩
  | case5 wordBefore offset pos c tail n raw stopPos kind token hterm hnext =>
    cases Except.ok.inj h
    have hlength : (c :: tail).length = source.length - offset := by rw [hcs, List.length_drop]
    obtain ⟨hn', hpos⟩ := Lexeme.at_length hnext
    simp only [List.length_cons] at hlength hn'
    simp only [List.mem_singleton, forall_eq, List.pairwise_singleton, and_true]
    refine ⟨le_rfl, by simp only [token, make]; omega, fun hkind => ?_,
      by simp only [token, make]; omega⟩
    have := hpos fun heq => hkind (Lexeme.token.inj heq)
    simp only [token, make]
    omega
  | case6 => cases h
  | case7 wordBefore offset pos c tail n raw stopPos rest wordAfter kind token hterm hn hnext ih =>
    cases hrest : scanFrom terminator names wordAfter rest (offset + n) stopPos with
    | error e => rw [hrest] at h; cases h
    | ok more =>
      rw [hrest] at h
      cases Except.ok.inj h
      obtain ⟨hbounds, hsorted⟩ := ih more (by simp only [rest, hcs, List.drop_drop]) hrest
      have hlength : (c :: tail).length = source.length - offset := by rw [hcs, List.length_drop]
      have hn' := (Lexeme.at_length hnext).1
      simp only [List.length_cons] at hlength hn'
      have hstop : token.span.stop = offset + n := rfl
      refine ⟨fun t ht => ?_, List.pairwise_cons.2 ⟨fun t ht => ?_, hsorted⟩⟩
      · rcases List.mem_cons.1 ht with rfl | ht
        · exact ⟨le_rfl, by simp only [token, make]; omega,
            fun _ => by simp only [token, make]; omega, by simp only [token, make]; omega⟩
        · obtain ⟨hafter, hordered, hnonempty, hbounded⟩ := hbounds t ht
          exact ⟨by omega, hordered, hnonempty, hbounded⟩
      · have := (hbounds t ht).1
        omega

/-- Scanning fails at a character that starts no lexeme, with the empty span at that character,
which is a span of the text; or it never ends, where it finds the empty register name of a
pattern that matches the empty text. -/
theorem scanFrom_error (terminator : String) (names : List String) (source : List Char)
    (cs : List Char) (offset : Nat) (pos : Position) (f : Failure) {wordBefore : Bool}
    (hcs : cs = source.drop offset) (hpos : pos = Position.ofOffset source offset)
    (h : scanFrom terminator names wordBefore cs offset pos = .error f) :
    (∃ d, f = .diagnostic d ∧ (∃ c, d = .unexpectedChar c d.span) ∧ d.span.Within source) ∨
      f = .endless ∧ matchesEmpty names = true := by
  have hstuck : ∀ c tail offset pos, c :: tail = source.drop offset →
      pos = Position.ofOffset source offset →
      (Diagnostic.unexpectedChar c ⟨offset, offset, pos, pos⟩).span.Within source := by
    intro c tail offset pos hcs hpos
    have hlength : (c :: tail).length = source.length - offset := by rw [hcs, List.length_drop]
    simp only [List.length_cons] at hlength
    exact ⟨le_rfl, by simp only [Diagnostic.span]; omega, hpos, hpos⟩
  fun_induction scanFrom terminator names wordBefore cs offset pos with
  | case1 => cases h
  | case2 wordBefore offset pos c tail hnext =>
    cases h
    exact .inl ⟨_, rfl, ⟨c, rfl⟩, hstuck c tail offset pos hcs hpos⟩
  | case3 wordBefore offset pos c tail hnext =>
    cases (Lexeme.at_empty hnext).1
  | case4 wordBefore offset pos c tail n raw stopPos rest wordAfter hn hnext ih =>
    exact ih (by simp only [rest, hcs, List.drop_drop])
      (by simp only [stopPos, raw, hcs, hpos, advance_ofOffset]) h
  | case5 => cases h
  | case6 wordBefore offset pos c tail kind raw stopPos token hterm hnext =>
    cases h
    exact .inr ⟨rfl, (Lexeme.at_empty hnext).2⟩
  | case7 wordBefore offset pos c tail n raw stopPos rest wordAfter kind token hterm hn hnext ih =>
    cases hrest : scanFrom terminator names wordAfter rest (offset + n) stopPos with
    | error e =>
      rw [hrest] at h
      cases h
      exact ih (by simp only [rest, hcs, List.drop_drop])
        (by simp only [stopPos, raw, hcs, hpos, advance_ofOffset]) hrest
    | ok more =>
      rw [hrest] at h
      cases h

/-- Tokens in the order of the text: each ends where it starts or later, only a register token
may be empty, and each ends before the next starts. -/
structure InOrder (ts : List Token) : Prop where
  ordered : ∀ t ∈ ts, t.span.start ≤ t.span.stop
  nonempty : ∀ t ∈ ts, t.kind ≠ .register → t.span.start < t.span.stop
  sorted : ts.Pairwise fun a b => a.span.stop ≤ b.span.start

theorem InOrder.sublist {ts ts' : List Token} (h : InOrder ts) (hsub : List.Sublist ts' ts) :
    InOrder ts' :=
  ⟨fun t ht => h.ordered t (hsub.subset ht), fun t ht => h.nonempty t (hsub.subset ht),
    h.sorted.sublist hsub⟩

theorem InOrder.stop_le {before after : List Token} {t t' : Token}
    (h : InOrder (before ++ t :: after)) (ht' : t' ∈ after) : t.span.stop ≤ t'.span.start :=
  (List.pairwise_cons.1 (List.pairwise_append.1 h.sorted).2.1).1 t' ht'

variable {set : InstructionSet} {source : String}

theorem scan_spans {tokens : List Token} (h : scan set source = .ok tokens) :
    InOrder tokens ∧ ∀ t ∈ tokens, t.span.Within source.toList := by
  obtain ⟨hbounds, hsorted⟩ := scanFrom_spans _ _ source.toList source.toList 0 Position.start
    tokens (List.drop_zero).symm h
  have hpositions := scanFrom_positions _ _ source.toList source.toList 0 Position.start tokens
    (List.drop_zero).symm rfl h
  refine ⟨⟨fun t ht => (hbounds t ht).2.1, fun t ht => (hbounds t ht).2.2.1, hsorted⟩,
    fun t ht => ?_⟩
  obtain ⟨-, hordered, -, hbounded⟩ := hbounds t ht
  exact ⟨hordered, hbounded, (hpositions t ht).1, (hpositions t ht).2⟩

theorem scan_error {f : Failure} (h : scan set source = .error f) :
    (∃ d, f = .diagnostic d ∧ (∃ c, d = .unexpectedChar c d.span) ∧
        d.span.Within source.toList) ∨
      f = .endless ∧ matchesEmpty set.registerNamesByLength = true :=
  scanFrom_error _ _ source.toList source.toList 0 Position.start f (List.drop_zero).symm rfl h

end Token

namespace Statement

variable {set : InstructionSet}

theorem exists_of_mem_forall₂ {α β : Type} {R : α → β → Prop} {as : List α} {bs : List β}
    (h : List.Forall₂ R as bs) {a : α} (ha : a ∈ as) : ∃ b ∈ bs, R a b := by
  induction h with
  | nil => cases ha
  | @cons a' b' _ _ hab _ ih =>
    rcases List.mem_cons.1 ha with rfl | ha
    · exact ⟨b', List.mem_cons_self, hab⟩
    · obtain ⟨b, hb, hr⟩ := ih ha
      exact ⟨b, List.mem_cons_of_mem _ hb, hr⟩

theorem OperandsRead.exists_mem_span {ts : List Token} {os : List Operand}
    (h : OperandsRead set ts os) : ∀ o ∈ os, ∃ t ∈ ts, o.span = t.span := by
  cases h with
  | none => simp
  | one ho =>
    intro o hmem
    rw [List.mem_singleton.1 hmem]
    exact ⟨_, List.mem_singleton_self _, ho.span⟩
  | two h₁ _ h₂ =>
    intro o ho
    rcases List.mem_pair.1 ho with rfl | rfl
    · exact ⟨_, List.mem_cons_self, h₁.span⟩
    · exact ⟨_, by simp, h₂.span⟩

/-- Statement `s` keeps the spans of the tokens `chunk` it was read from: its label, if it has
one, is the name that starts the chunk, followed by another token; its mnemonic is a token of the
chunk, and every operand has the span of a token after it. -/
structure SpansFrom (s : Statement) (chunk : List Token) : Prop where
  label : s.label = none ∨
    ∃ name colon rest, chunk = name :: colon :: rest ∧ colon.kind = .colon ∧
      s.label = some ⟨name.value, name.span⟩
  mnemonic : ∃ before m after, chunk = before ++ m :: after ∧ s.mnemonicSpan = m.span ∧
    ∀ o ∈ s.operands, ∃ t ∈ after, o.span = t.span

theorem take_spans {stop : Span} {ts rest : List Token} {s : Statement}
    (h : take set stop ts = .ok (s, rest)) : ∃ chunk, ts = chunk ++ rest ∧ SpansFrom s chunk := by
  unfold take at h
  rcases hlabel : takeLabel ts with e | ⟨label, afterLabel⟩
  · rw [hlabel] at h
    cases h
  rw [hlabel] at h
  rcases afterLabel with _ | ⟨m, afterMnemonic⟩
  · cases h
  dsimp only at h
  rcases hforms : formsNamed set m with _ | forms
  · rw [hforms] at h
    cases h
  rw [hforms] at h
  dsimp only at h
  rcases hoperands : takeOperands set stop forms afterMnemonic with e | ⟨operands, rest'⟩
  · rw [hoperands] at h
    cases h
  rw [hoperands] at h
  dsimp only at h
  obtain ⟨operandTokens, rfl, hread⟩ := takeOperands_ok hoperands
  split at h
  · cases h
  · cases h
    have hspans := hread.exists_mem_span
    rcases takeLabel_cases hlabel with ⟨rfl, rfl⟩ | ⟨name, colon, rfl, hcolon, rfl⟩
    · exact ⟨m :: operandTokens, rfl, .inl rfl, [], m, operandTokens, rfl, rfl, hspans⟩
    · exact ⟨name :: colon :: m :: operandTokens, rfl, .inr ⟨name, colon, _, rfl, hcolon, rfl⟩,
        [name, colon], m, operandTokens, rfl, rfl, hspans⟩

theorem parse_spans {tokens : List Token} {statements : List Statement}
    (h : parse set tokens = .ok statements) :
    ∃ chunks, tokens = chunks.flatten ∧ List.Forall₂ SpansFrom statements chunks := by
  unfold parse at h
  split at h
  · cases h
  · next all hall =>
    split at h
    · cases h
      exact takeAll_chunks take_spans hall
    · cases h

/-! ### Spans of statements, labels and operands -/

variable {source : List Char}

/-- A statement, its label and its operands have spans of the text. -/
structure Within (source : List Char) (s : Statement) : Prop where
  span : s.span.Within source
  label : ∀ l, s.label = some l → l.span.Within source
  operands : ∀ o ∈ s.operands, o.span.Within source

theorem SpansFrom.within {s : Statement} {chunk : List Token} (h : SpansFrom s chunk)
    (horder : Token.InOrder chunk) (hwithin : ∀ t ∈ chunk, t.span.Within source) :
    Within source s := by
  obtain ⟨before, m, after, rfl, hm, hoperands⟩ := h.mnemonic
  have hmem : ∀ t ∈ after, t ∈ before ++ m :: after := fun t ht => by simp [ht]
  have hoperands' : ∀ o ∈ s.operands, o.span.Within source := by
    intro o ho
    obtain ⟨t, ht, hspan⟩ := hoperands o ho
    rw [hspan]
    exact hwithin t (hmem t ht)
  refine ⟨?_, fun l hl => ?_, hoperands'⟩
  · unfold Statement.span
    split
    · next last hlast =>
      obtain ⟨t, ht, hspan⟩ := hoperands last (List.mem_of_getLast? hlast)
      have hbefore := horder.stop_le ht
      have hm' := horder.ordered m (by simp)
      have ht' := horder.ordered t (hmem t ht)
      rw [hm, hspan]
      exact (hwithin m (by simp)).cover (hwithin t (hmem t ht)) (by omega)
    · rw [hm]
      exact hwithin m (by simp)
  · rcases h.label with hnone | ⟨name, colon, rest, hchunk, -, hname⟩
    · rw [hnone] at hl
      cases hl
    · rw [hname] at hl
      cases hl
      exact hwithin name (by rw [hchunk]; exact List.mem_cons_self)

theorem SpansFrom.label_stop_lt {s : Statement} {chunk : List Token} {l : LabelDecl}
    (h : SpansFrom s chunk) (horder : Token.InOrder chunk) (hl : s.label = some l) :
    ∃ t ∈ chunk, l.span.stop < t.span.stop := by
  rcases h.label with hnone | ⟨name, colon, rest, rfl, hkind, hname⟩
  · rw [hnone] at hl
    cases hl
  · rw [hname] at hl
    cases hl
    have hbefore := (List.pairwise_cons.1 horder.sorted).1 colon List.mem_cons_self
    have hcolon := horder.nonempty colon (by simp) (by rw [hkind]; decide)
    exact ⟨colon, by simp, by simp only at hbefore ⊢; omega⟩

theorem SpansFrom.label_mem {s : Statement} {chunk : List Token} {l : LabelDecl}
    (h : SpansFrom s chunk) (hl : s.label = some l) : ∃ t ∈ chunk, l.span = t.span := by
  rcases h.label with hnone | ⟨name, colon, rest, rfl, -, hname⟩
  · rw [hnone] at hl
    cases hl
  · rw [hname] at hl
    cases hl
    exact ⟨name, List.mem_cons_self, rfl⟩

theorem labels_in_order {statements : List Statement} {chunks : List (List Token)}
    (h : List.Forall₂ SpansFrom statements chunks) (horder : Token.InOrder chunks.flatten) :
    (statements.filterMap (·.label)).Pairwise fun a b => a.span.stop < b.span.start := by
  induction h with
  | nil => simp
  | @cons s chunk ss cs hs hrest ih =>
    rw [List.flatten_cons] at horder
    have ih' := ih (horder.sublist (List.sublist_append_right _ _))
    cases hl : s.label with
    | none => simpa [hl] using ih'
    | some l =>
      rw [List.filterMap_cons_some hl]
      refine List.pairwise_cons.2 ⟨fun b hb => ?_, ih'⟩
      obtain ⟨s', hs', hb'⟩ := List.mem_filterMap.1 hb
      obtain ⟨chunk', hchunk', hspans'⟩ := exists_of_mem_forall₂ hrest hs'
      obtain ⟨t', ht', hspan'⟩ := hspans'.label_mem hb'
      obtain ⟨t, ht, hlt⟩ := hs.label_stop_lt (horder.sublist (List.sublist_append_left _ _)) hl
      have hbefore := (List.pairwise_append.1 horder.sorted).2.2 t ht t'
        (List.mem_flatten.2 ⟨chunk', hchunk', ht'⟩)
      rw [hspan']
      omega

theorem within_of_parse {tokens : List Token} {statements : List Statement}
    (h : parse set tokens = .ok statements) (horder : Token.InOrder tokens)
    (hwithin : ∀ t ∈ tokens, t.span.Within source) : ∀ s ∈ statements, Within source s := by
  obtain ⟨chunks, rfl, hspans⟩ := parse_spans h
  intro s hs
  obtain ⟨chunk, hchunk, hspan⟩ := exists_of_mem_forall₂ hspans hs
  have hpiece := List.infix_of_mem_flatten hchunk
  exact hspan.within (horder.sublist hpiece.sublist) fun t ht => hwithin t (hpiece.subset ht)

theorem endOf_within {tokens : List Token} (hwithin : ∀ t ∈ tokens, t.span.Within source) :
    (endOf tokens).Within source := by
  unfold endOf
  split
  · next t hlast => exact (hwithin t (List.mem_of_getLast? hlast)).atEnd
  · exact Span.within_empty

theorem parse_diagnostic {tokens : List Token} {d : Diagnostic}
    (h : parse set tokens = .error (.diagnostic d)) (hwithin : ∀ t ∈ tokens, t.span.Within source) :
    d.span.Within source ∧ ∀ name span first, d ≠ .duplicateLabel name span first := by
  have hfault := parse_error h
  cases d with
  | duplicateLabel => exact hfault.elim
  | _ =>
    refine ⟨?_, fun name span first hdup => by cases hdup⟩
    rcases hfault with hstop | ⟨t, ht, hspan⟩
    · rw [hstop]
      exact endOf_within hwithin
    · rw [hspan]
      exact hwithin t ht

end Statement

namespace Layout

variable {set : InstructionSet} {source : List Char} {statements : List Statement}

theorem labels_diagnostic {d : Diagnostic} (h : labels set statements = .error (.diagnostic d))
    (hwithin : ∀ s ∈ statements, Statement.Within source s) : d.span.Within source := by
  have hfault := labels_error h
  cases d with
  | duplicateLabel name span first =>
    obtain ⟨s, hs, l, hl, -, rfl⟩ := hfault
    exact (hwithin s hs).label l hl
  | outOfMemory span =>
    obtain ⟨s, hs, rfl⟩ := hfault
    exact (hwithin s hs).span
  | _ => exact hfault.elim

theorem duplicate_points_back {chunks : List (List Token)} {name : String} {span first : Span}
    (h : labels set statements = .error (.diagnostic (.duplicateLabel name span first)))
    (hspans : List.Forall₂ Statement.SpansFrom statements chunks)
    (horder : Token.InOrder chunks.flatten)
    (hwithin : ∀ s ∈ statements, Statement.Within source s) :
    first.Within source ∧ first.stop < span.start ∧
      ∃ pre post, statements.filterMap (·.label) = pre ++ ⟨name, span⟩ :: post ∧
        (pre.map (·.name)).Nodup ∧ (pre.map fun l => (l.name, l.span)).lookup name = some first := by
  obtain ⟨pre, l, post, hdecls, rfl, hnodup, hlookup⟩ := walk_duplicate h List.nodup_nil
  simp only [List.nil_append, List.map_map] at hnodup hlookup
  obtain ⟨before, after, hsplit, -⟩ := List.lookup_eq_some_iff.1 hlookup
  have hmem : (name, first) ∈ pre.map fun l => (l.name, l.span) := by simp [hsplit]
  obtain ⟨earlier, hearlier, hpair⟩ := List.mem_map.1 hmem
  obtain ⟨-, rfl⟩ := Prod.mk.inj hpair
  have hdecl : earlier ∈ statements.filterMap (·.label) := by simp [hdecls, hearlier]
  obtain ⟨s, hs, hl⟩ := List.mem_filterMap.1 hdecl
  have hordered := Statement.labels_in_order hspans horder
  rw [hdecls] at hordered
  have hlt := (List.pairwise_append.1 hordered).2.2 earlier hearlier _ List.mem_cons_self
  exact ⟨(hwithin s hs).label earlier hl, hlt, pre, post, hdecls,
    by simpa [Function.comp_def] using hnodup, hlookup⟩

end Layout

namespace Placement

variable {set : InstructionSet} {source : List Char} {statements : List Statement}

/-- The second pass points at the first operand of a statement. -/
theorem run_diagnostic {labels : OrderedMap String OperandValue} {d : Diagnostic}
    (h : run set labels statements = .error (.diagnostic d))
    (hwithin : ∀ s ∈ statements, Statement.Within source s) :
    d.span.Within source ∧ ∀ name span first, d ≠ .duplicateLabel name span first := by
  have hfault := run_error h
  cases d with
  | unknownLabel name span similar =>
    obtain ⟨-, s, hs, o, ho, -, rfl⟩ := hfault
    exact ⟨(hwithin s hs).operands o (List.mem_of_mem_head? ho), fun _ _ _ hdup => by cases hdup⟩
  | jumpTooFar name distance span =>
    obtain ⟨s, hs, o, ho, -, rfl⟩ := hfault
    exact ⟨(hwithin s hs).operands o (List.mem_of_mem_head? ho), fun _ _ _ hdup => by cases hdup⟩
  | _ => exact hfault.elim

end Placement

/-- Every diagnostic of an assembly points into its source: its span, and for a duplicate label
the span of the first declaration, are spans of the source. A duplicate label is reported at the
earliest declaration that repeats a name: the labels declared before it have distinct names, and
the first declaration of its name among them, which ends before it starts, is the one it points
back to. -/
theorem diagnostics_point_into_source {set : InstructionSet} {source : String} {d : Diagnostic}
    (h : Assembly.assemble set source = .error (.diagnostic d)) :
    d.span.Within source.toList ∧
      ∀ name span first, d = .duplicateLabel name span first →
        first.Within source.toList ∧ first.stop < span.start ∧
        ∃ tokens statements, Token.scan set source = .ok tokens ∧
          Statement.parse set tokens = .ok statements ∧
          ∃ pre post, statements.filterMap (·.label) = pre ++ ⟨name, span⟩ :: post ∧
            (pre.map (·.name)).Nodup ∧
            (pre.map fun l => (l.name, l.span)).lookup name = some first := by
  unfold Assembly.assemble Assembly.attempt at h
  rcases hscan : Token.scan set source with f | tokens
  · rw [hscan] at h
    cases h
    rcases Token.scan_error hscan with ⟨d', hd', ⟨c, hc⟩, hwithin⟩ | ⟨hendless, -⟩
    · cases hd'
      refine ⟨hwithin, fun name span first hdup => ?_⟩
      rw [hdup] at hc
      cases hc
    · cases hendless
  rw [hscan] at h
  dsimp only at h
  obtain ⟨horder, htokens⟩ := Token.scan_spans hscan
  rcases hparse : Statement.parse set tokens with f | statements
  · rw [hparse] at h
    cases h
    obtain ⟨hwithin, hnotDup⟩ := Statement.parse_diagnostic hparse htokens
    exact ⟨hwithin, fun name span first hdup => absurd hdup (hnotDup name span first)⟩
  rw [hparse] at h
  dsimp only at h
  have hstatements := Statement.within_of_parse hparse horder htokens
  rcases hlabels : Layout.labels set statements with f | labels
  · rw [hlabels] at h
    cases h
    refine ⟨Layout.labels_diagnostic hlabels hstatements, fun name span first hdup => ?_⟩
    subst hdup
    obtain ⟨chunks, htokensEq, hspans⟩ := Statement.parse_spans hparse
    obtain ⟨hfirst, hlt, hdecls⟩ :=
      Layout.duplicate_points_back hlabels hspans (htokensEq ▸ horder) hstatements
    exact ⟨hfirst, hlt, tokens, statements, rfl, hparse, hdecls⟩
  rw [hlabels] at h
  dsimp only at h
  rcases hrun : Placement.run set labels statements with f | placed
  · rw [hrun] at h
    cases h
    obtain ⟨hwithin, hnotDup⟩ := Placement.run_diagnostic hrun hstatements
    exact ⟨hwithin, fun name span first hdup => absurd hdup (hnotDup name span first)⟩
  · rw [hrun] at h
    cases h

/-- A label declared twice, on two lines. -/
def twiceLabelled : String := "x: nop\nx: nop\nend"

/-- The second declaration of `X` is reported, pointing back to the first. -/
theorem twiceLabelled_points_back :
    Assembly.assemble InstructionSet.sms32 twiceLabelled =
      .error (.diagnostic (.duplicateLabel "X" ⟨7, 8, ⟨2, 0⟩, ⟨2, 1⟩⟩ ⟨0, 1, ⟨1, 0⟩, ⟨1, 1⟩⟩)) ∧
    (Span.Within twiceLabelled.toList ⟨7, 8, ⟨2, 0⟩, ⟨2, 1⟩⟩ ∧
      ∀ name span first,
        Diagnostic.duplicateLabel "X" ⟨7, 8, ⟨2, 0⟩, ⟨2, 1⟩⟩ ⟨0, 1, ⟨1, 0⟩, ⟨1, 1⟩⟩ =
          .duplicateLabel name span first →
        first.Within twiceLabelled.toList ∧ first.stop < span.start ∧
        ∃ tokens statements, Token.scan InstructionSet.sms32 twiceLabelled = .ok tokens ∧
          Statement.parse InstructionSet.sms32 tokens = .ok statements ∧
          ∃ pre post, statements.filterMap (·.label) = pre ++ ⟨name, span⟩ :: post ∧
            (pre.map (·.name)).Nodup ∧
            (pre.map fun l => (l.name, l.span)).lookup name = some first) := by
  have hfails : Assembly.assemble InstructionSet.sms32 twiceLabelled =
      .error (.diagnostic (.duplicateLabel "X" ⟨7, 8, ⟨2, 0⟩, ⟨2, 1⟩⟩ ⟨0, 1, ⟨1, 0⟩, ⟨1, 1⟩⟩)) := by
    simp only [Assembly.assemble, Assembly.attempt, Statement.parse, Statement.takeAll_eq_bounded]
    cbv
  exact ⟨hfails, diagnostics_point_into_source hfails⟩

end ByteAsm
