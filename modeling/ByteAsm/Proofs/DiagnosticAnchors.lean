import ByteAsm.Proofs.DiagnosticSpans

/-!
# Diagnostics point at tokens

Every span a diagnostic carries is made from the spans of the tokens of its text
(`Span.Anchored`): the span of a token, the empty span just after one or at the start of the
text, or the span from a token to a later one (`diagnostic_anchored`).
-/

namespace ByteAsm

/-- The spans made from the tokens `tokens`: the empty span at the start of the text, the span of
a token, the empty span just after a token, and the span from a token to a later one. -/
inductive Span.Anchored (tokens : List Token) : Span → Prop where
  | start : Span.Anchored tokens Span.empty
  | token {t : Token} : t ∈ tokens → Span.Anchored tokens t.span
  | after {t : Token} : t ∈ tokens → Span.Anchored tokens t.span.atEnd
  | cover {t t' : Token} : t ∈ tokens → t' ∈ tokens → t.span.stop ≤ t'.span.start →
      Span.Anchored tokens (Span.cover t.span t'.span)

theorem Span.Anchored.mono {ts ts' : List Token} {s : Span} (h : s.Anchored ts)
    (hsub : ∀ t ∈ ts, t ∈ ts') : s.Anchored ts' := by
  cases h with
  | start => exact .start
  | token ht => exact .token (hsub _ ht)
  | after ht => exact .after (hsub _ ht)
  | cover ht ht' hle => exact .cover (hsub _ ht) (hsub _ ht') hle

namespace Statement

variable {set : InstructionSet}

/-- A statement whose span is made from the tokens `tokens`, and whose label and operands have
spans of tokens of `tokens`. -/
structure AnchoredIn (tokens : List Token) (s : Statement) : Prop where
  span : s.span.Anchored tokens
  label : ∀ l, s.label = some l → ∃ t ∈ tokens, l.span = t.span
  operands : ∀ o ∈ s.operands, ∃ t ∈ tokens, o.span = t.span

theorem AnchoredIn.mono {ts ts' : List Token} {s : Statement} (h : AnchoredIn ts s)
    (hsub : ∀ t ∈ ts, t ∈ ts') : AnchoredIn ts' s := by
  refine ⟨h.span.mono hsub, fun l hl => ?_, fun o ho => ?_⟩
  · obtain ⟨t, ht, hspan⟩ := h.label l hl
    exact ⟨t, hsub t ht, hspan⟩
  · obtain ⟨t, ht, hspan⟩ := h.operands o ho
    exact ⟨t, hsub t ht, hspan⟩

theorem AnchoredIn.label_anchored {tokens : List Token} {s : Statement} (h : AnchoredIn tokens s)
    {l : LabelDecl} (hl : s.label = some l) : l.span.Anchored tokens := by
  obtain ⟨t, ht, hspan⟩ := h.label l hl
  rw [hspan]
  exact .token ht

theorem AnchoredIn.operand_anchored {tokens : List Token} {s : Statement}
    (h : AnchoredIn tokens s) {o : Operand} (ho : o ∈ s.operands) : o.span.Anchored tokens := by
  obtain ⟨t, ht, hspan⟩ := h.operands o ho
  rw [hspan]
  exact .token ht

theorem SpansFrom.anchoredIn {s : Statement} {chunk : List Token} (h : SpansFrom s chunk)
    (horder : Token.InOrder chunk) : AnchoredIn chunk s := by
  obtain ⟨before, m, after, rfl, hm, hoperands⟩ := h.mnemonic
  have hmem : ∀ t ∈ after, t ∈ before ++ m :: after := fun t ht => by simp [ht]
  refine ⟨?_, fun l hl => h.label_mem hl, fun o ho => ?_⟩
  · unfold Statement.span
    split
    · next last hlast =>
      obtain ⟨t, ht, hspan⟩ := hoperands last (List.mem_of_getLast? hlast)
      rw [hm, hspan]
      exact .cover (by simp) (hmem t ht) (horder.stop_le ht)
    · rw [hm]
      exact .token (by simp)
  · obtain ⟨t, ht, hspan⟩ := hoperands o ho
    exact ⟨t, hmem t ht, hspan⟩

theorem anchoredIn_of_parse {tokens : List Token} {statements : List Statement}
    (h : parse set tokens = .ok statements) (horder : Token.InOrder tokens) :
    ∀ s ∈ statements, AnchoredIn tokens s := by
  obtain ⟨chunks, rfl, hspans⟩ := parse_spans h
  intro s hs
  obtain ⟨chunk, hchunk, hspan⟩ := exists_of_mem_forall₂ hspans hs
  have hpiece := List.infix_of_mem_flatten hchunk
  exact (hspan.anchoredIn (horder.sublist hpiece.sublist)).mono fun t ht => hpiece.subset ht

theorem endOf_anchored (tokens : List Token) : (endOf tokens).Anchored tokens := by
  unfold endOf
  split
  · next t hlast => exact .after (List.mem_of_getLast? hlast)
  · exact .start

/-- The parser reports at one of the tokens, or just after the last. -/
theorem parse_anchored {tokens : List Token} {d : Diagnostic}
    (h : parse set tokens = .error (.diagnostic d)) : d.span.Anchored tokens := by
  have hfault := parse_error h
  cases d with
  | duplicateLabel => exact hfault.elim
  | _ =>
    rcases hfault with hstop | ⟨t, ht, hspan⟩
    · rw [hstop]
      exact endOf_anchored tokens
    · rw [hspan]
      exact .token ht

end Statement

theorem Layout.labels_anchored {set : InstructionSet} {tokens : List Token}
    {statements : List Statement} {d : Diagnostic}
    (h : Layout.labels set statements = .error (.diagnostic d))
    (hstatements : ∀ s ∈ statements, Statement.AnchoredIn tokens s) : d.span.Anchored tokens := by
  have hfault := Layout.labels_error h
  cases d with
  | duplicateLabel name span first =>
    obtain ⟨s, hs, l, hl, -, rfl⟩ := hfault
    exact (hstatements s hs).label_anchored hl
  | outOfMemory span =>
    obtain ⟨s, hs, rfl⟩ := hfault
    exact (hstatements s hs).span
  | _ => exact hfault.elim

/-- The second pass reports at the first operand of a statement. -/
theorem Placement.run_anchored {set : InstructionSet} {labels : OrderedMap String OperandValue}
    {tokens : List Token} {statements : List Statement} {d : Diagnostic}
    (h : Placement.run set labels statements = .error (.diagnostic d))
    (hstatements : ∀ s ∈ statements, Statement.AnchoredIn tokens s) : d.span.Anchored tokens := by
  have hfault := Placement.run_error h
  cases d with
  | unknownLabel name span similar =>
    obtain ⟨-, s, hs, o, ho, -, rfl⟩ := hfault
    exact (hstatements s hs).operand_anchored (List.mem_of_mem_head? ho)
  | jumpTooFar name distance span =>
    obtain ⟨s, hs, o, ho, -, rfl⟩ := hfault
    exact (hstatements s hs).operand_anchored (List.mem_of_mem_head? ho)
  | _ => exact hfault.elim

/-- Every diagnostic of an assembly whose source scans into `tokens` points at those tokens: at a
token, just after one, at the start of the text, or from a token to a later one. -/
theorem diagnostic_anchored {set : InstructionSet} {source : String} {tokens : List Token}
    {d : Diagnostic} (hscan : Token.scan set source = .ok tokens)
    (h : Assembly.assemble set source = .error (.diagnostic d)) : d.span.Anchored tokens := by
  unfold Assembly.assemble Assembly.attempt at h
  rw [hscan] at h
  dsimp only at h
  have horder := (Token.scan_spans hscan).1
  rcases hparse : Statement.parse set tokens with f | statements
  · rw [hparse] at h
    cases h
    exact Statement.parse_anchored hparse
  rw [hparse] at h
  dsimp only at h
  have hstatements := Statement.anchoredIn_of_parse hparse horder
  rcases hlabels : Layout.labels set statements with f | labels
  · rw [hlabels] at h
    cases h
    exact Layout.labels_anchored hlabels hstatements
  rw [hlabels] at h
  dsimp only at h
  rcases hrun : Placement.run set labels statements with f | placed
  · rw [hrun] at h
    cases h
    exact Placement.run_anchored hrun hstatements
  · rw [hrun] at h
    cases h

end ByteAsm
