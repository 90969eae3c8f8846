import Mathlib
import ByteAsm.Proofs.DiagnosticSpans

/-!
# An assembly fails with a diagnostic, or at a fault of its table

With a table that passes its check, a failed assembly reports a diagnostic about the source, or
meets one of four faults of the table that the check does not look for: a register that the
scanner matches but the table names in another case, an origin directive without an operand, a
location counter that the origin directive sets to a string or a label, and a register pattern
that matches the empty text, where scanning never ends
(`validated_tables_fail_outside_diagnostics`).
-/

namespace ByteAsm

namespace Statement

variable {set : InstructionSet}

theorem ReadAs.value_cases {t : Token} {o : Operand} (h : ReadAs set t o) :
    (∃ n, o.value = .scalar n) ∨ (o.kind = .text ∧ ∃ cs, o.value = .codes cs) ∨
      (o.kind = .label ∧ o.value = .pending) := by
  have hvalue := h.value
  generalize o.kind = k at hvalue ⊢
  generalize o.value = v at hvalue ⊢
  cases k with
  | number | address =>
    cases Except.ok.inj hvalue
    exact .inl ⟨_, rfl⟩
  | register | registerAddress =>
    obtain ⟨i, -, rfl⟩ := registerIndex_of_operandValue (by simp) hvalue
    exact .inl ⟨i, rfl⟩
  | text =>
    cases Except.ok.inj hvalue
    exact .inr (.inl ⟨rfl, _, rfl⟩)
  | label =>
    cases Except.ok.inj hvalue
    exact .inr (.inr ⟨rfl, rfl⟩)

theorem ReadFrom.origin_form_of_operands_nil {s : Statement} {chunk : List Token}
    (h : ReadFrom set s chunk) (horigin : s.mnemonic = set.origin) (hnil : s.operands = []) :
    ∃ forms, set.formsOf? set.origin = some forms ∧ ∃ form ∈ forms, form.kinds = [] := by
  obtain ⟨forms, form, hforms, hform, hkinds, -⟩ := h.form
  rw [horigin] at hforms
  exact ⟨forms, hforms, form, hform, by simp [hkinds, hnil]⟩

theorem ReadFrom.origin_form_of_target {s : Statement} {chunk : List Token} {c : OperandValue}
    (h : ReadFrom set s chunk) (horigin : s.mnemonic = set.origin)
    (htarget : s.originTarget = .ok c) (hc : ∀ a, c ≠ .scalar a) :
    ∃ forms, set.formsOf? set.origin = some forms ∧ ∃ form ∈ forms,
      (c.kind = .codes ∧ form.kinds.head? = some .text) ∨
        (c.kind = .unknown ∧ form.kinds.head? = some .label) := by
  unfold Statement.originTarget at htarget
  split at htarget
  · cases htarget
  · next o others hoperands =>
    cases htarget
    obtain ⟨_, _, _, -, -, -, -, hread⟩ := h.tokens
    obtain ⟨forms, form, hforms, hform, hkinds, -⟩ := h.form
    rw [horigin] at hforms
    have hhead : form.kinds.head? = some o.kind := by simp [hkinds, hoperands]
    obtain ⟨t, ho⟩ := hread.exists_readAs o (by simp [hoperands])
    refine ⟨forms, hforms, form, hform, ?_⟩
    rcases ho.value_cases with ⟨n, hn⟩ | ⟨htext, cs, hcs⟩ | ⟨hlabel, hpending⟩
    · exact absurd hn (hc n)
    · exact .inl ⟨by rw [hcs]; rfl, htext ▸ hhead⟩
    · exact .inr ⟨by rw [hpending]; rfl, hlabel ▸ hhead⟩

end Statement

namespace Assembly

variable {set : InstructionSet}

/-- The faults of a table that a source can bring to light, as an assembly stops at them: a
register token of the source whose value the table does not know; an origin directive without an
operand, where no form of the origin directive takes one; a counter that holds no address, where
a form of the origin directive takes a string first (the counter holds codes) or a label first
(the counter holds a value unknown yet); and a scan that never ends, where the register pattern
matches the empty text. -/
def TableFault (set : InstructionSet) (source : String) : Failure → Prop
  | .unknownRegister name => set.registerIndex? name = none ∧
    ∃ tokens, Token.scan set source = .ok tokens ∧ ∃ t ∈ tokens, t.kind = .register ∧ t.value = name
  | .originWithoutOperand =>
    ∃ forms, set.formsOf? set.origin = some forms ∧ ∀ form ∈ forms, form.kinds = []
  | .advanceFrom k | .distanceFrom k =>
    ∃ forms, set.formsOf? set.origin = some forms ∧ ∃ form ∈ forms,
      (k = .codes ∧ form.kinds.head? = some .text) ∨ (k = .unknown ∧ form.kinds.head? = some .label)
  | .endless => Token.matchesEmpty set.registerNamesByLength = true
  | _ => False

section Parsed

variable {source : String} {statements : List Statement} {f : Failure}

theorem tableFault_originWithoutOperand (hset : set.check = .ok ())
    (hparse : ∃ tokens, Token.scan set source = .ok tokens ∧ Statement.parse set tokens = .ok statements)
    (h : ∃ s ∈ statements, s.mnemonic = set.origin ∧ s.operands = []) :
    TableFault set source .originWithoutOperand := by
  obtain ⟨tokens, -, hstatements⟩ := hparse
  obtain ⟨s, hs, horigin, hnil⟩ := h
  obtain ⟨chunk, hread⟩ := Statement.exists_read_of_parse hstatements s hs
  obtain ⟨forms, hforms, form, hform, hempty⟩ := hread.origin_form_of_operands_nil horigin hnil
  have hlengths := InstructionSet.formsOf?_lengths hset hforms
  refine ⟨forms, hforms, fun other hother => List.eq_nil_of_length_eq_zero ?_⟩
  rw [hlengths other hother form hform, hempty, List.length_nil]

/-- A counter that holds no address in a walk over a parsed program is a fault of the table,
whether a statement takes room there or a jump measures its distance from it. -/
theorem tableFault_counter {c : OperandValue} (k : ValueKind) (hk : c.kind = k)
    (hf : f = .advanceFrom k ∨ f = .distanceFrom k)
    (hparse : ∃ tokens, Token.scan set source = .ok tokens ∧ Statement.parse set tokens = .ok statements)
    (hc : Layout.CounterFrom set statements c) (hne : ∀ a, c ≠ .scalar a) :
    TableFault set source f := by
  obtain ⟨tokens, -, hstatements⟩ := hparse
  rcases hc with ⟨a, rfl⟩ | ⟨s, hs, horigin, htarget⟩
  · exact absurd rfl (hne a)
  obtain ⟨chunk, hread⟩ := Statement.exists_read_of_parse hstatements s hs
  obtain ⟨forms, hforms, form, hform, hcases⟩ := hread.origin_form_of_target horigin htarget hne
  rw [hk] at hcases
  rcases hf with rfl | rfl
  · exact ⟨forms, hforms, form, hform, hcases⟩
  · exact ⟨forms, hforms, form, hform, hcases⟩

theorem parse_fault {tokens : List Token} (hset : set.check = .ok ())
    (hscan : Token.scan set source = .ok tokens) (hparse : Statement.parse set tokens = .error f) :
    (∃ d, f = .diagnostic d) ∨ TableFault set source f := by
  cases f with
  | diagnostic d => exact .inl ⟨d, rfl⟩
  | unknownRegister name =>
    obtain ⟨hnone, hregister⟩ := Statement.parse_error hparse
    exact .inr ⟨hnone, tokens, hscan, hregister⟩
  | noSuchForm mnemonic =>
    obtain ⟨forms, hforms, hrefused⟩ := Statement.parse_error hparse
    exact absurd (InstructionSet.checkForms_of_check hset _
      (InstructionSet.mem_forms_of_formsOf? hforms)) hrefused
  | originWithoutOperand | advanceFrom _ | distanceFrom _ | endless =>
    exact (Statement.parse_error hparse).elim

theorem labels_fault (hset : set.check = .ok ())
    (hparse : ∃ tokens, Token.scan set source = .ok tokens ∧ Statement.parse set tokens = .ok statements)
    (hlabels : Layout.labels set statements = .error f) :
    (∃ d, f = .diagnostic d) ∨ TableFault set source f := by
  cases f with
  | diagnostic d => exact .inl ⟨d, rfl⟩
  | originWithoutOperand =>
    exact .inr (tableFault_originWithoutOperand hset hparse (Layout.labels_error hlabels))
  | advanceFrom k =>
    obtain ⟨c, hc, hk, hne⟩ := Layout.labels_error hlabels
    exact .inr (tableFault_counter k hk (.inl rfl) hparse hc hne)
  | unknownRegister _ | noSuchForm _ | distanceFrom _ | endless =>
    exact (Layout.labels_error hlabels).elim

theorem run_fault {labels : OrderedMap String OperandValue} (hset : set.check = .ok ())
    (hparse : ∃ tokens, Token.scan set source = .ok tokens ∧ Statement.parse set tokens = .ok statements)
    (hlabels : Layout.labels set statements = .ok labels)
    (hrun : Placement.run set labels statements = .error f) :
    (∃ d, f = .diagnostic d) ∨ TableFault set source f := by
  cases f with
  | diagnostic d => exact .inl ⟨d, rfl⟩
  | originWithoutOperand =>
    exact .inr (tableFault_originWithoutOperand hset hparse (Placement.run_error hrun))
  | advanceFrom k =>
    obtain ⟨c, hc, hk, hne⟩ := Placement.run_error hrun
    exact .inr (tableFault_counter k hk (.inl rfl) hparse hc hne)
  | distanceFrom k =>
    obtain ⟨name, v, hv, hk, hne⟩ := Placement.run_error hrun
    exact .inr (tableFault_counter k hk (.inr rfl) hparse (Layout.labels_counterFrom hlabels hv) hne)
  | unknownRegister _ | noSuchForm _ | endless =>
    exact (Placement.run_error hrun).elim

end Parsed

end Assembly

/-- With a table that passes its check, an assembly fails with a diagnostic about the source or
at a fault of the table: a register the scanner found but the table does not name, an origin
directive that takes no operand, one that takes a string or a label first and so leaves the
counter at a value that is no address, or a register pattern that matches the empty text, with
which scanning never ends. -/
theorem assembly_fails_by_diagnostic_or_table_fault {set : InstructionSet} {source : String}
    {f : Failure} (hset : set.check = .ok ()) (h : Assembly.assemble set source = .error f) :
    (∃ d, f = .diagnostic d) ∨ Assembly.TableFault set source f := by
  unfold Assembly.assemble Assembly.attempt at h
  rcases hscan : Token.scan set source with f' | tokens
  · rw [hscan] at h
    cases h
    rcases Token.scan_error hscan with ⟨d, rfl, -⟩ | ⟨rfl, hempty⟩
    · exact .inl ⟨d, rfl⟩
    · exact .inr hempty
  rw [hscan] at h
  dsimp only at h
  rcases hparse : Statement.parse set tokens with f' | statements
  · rw [hparse] at h
    cases h
    exact Assembly.parse_fault hset hscan hparse
  rw [hparse] at h
  dsimp only at h
  have hparsed : ∃ tokens, Token.scan set source = .ok tokens ∧
      Statement.parse set tokens = .ok statements := ⟨tokens, hscan, hparse⟩
  rcases hlabels : Layout.labels set statements with f' | labels
  · rw [hlabels] at h
    cases h
    exact Assembly.labels_fault hset hparsed hlabels
  rw [hlabels] at h
  dsimp only at h
  rcases hrun : Placement.run set labels statements with f' | placed
  · rw [hrun] at h
    cases h
    exact Assembly.run_fault hset hparsed hlabels hrun
  · rw [hrun] at h
    cases h

/-- The lower-case register of `Statement.lowerRegisterTable` is found by the scanner and then
not by the table. -/
theorem lowerRegister_table_fault :
    Statement.lowerRegisterTable.check = .ok () ∧
      Assembly.assemble Statement.lowerRegisterTable "push al\nend" = .error (.unknownRegister "AL") ∧
      ((∃ d, Failure.unknownRegister "AL" = .diagnostic d) ∨
        Assembly.TableFault Statement.lowerRegisterTable "push al\nend" (.unknownRegister "AL")) := by
  have hset : Statement.lowerRegisterTable.check = .ok () := by cbv
  have hfails : Assembly.assemble Statement.lowerRegisterTable "push al\nend" =
      .error (.unknownRegister "AL") := by
    simp only [Assembly.assemble, Assembly.attempt, Statement.parse, Statement.takeAll_eq_bounded]
    cbv
  exact ⟨hset, hfails, assembly_fails_by_diagnostic_or_table_fault hset hfails⟩

/-- A table whose origin directive `AT` takes no operand. -/
def bareOriginTable : InstructionSet where
  forms := [("AT", [⟨[], none⟩]), ("STOP", [⟨[], none⟩])]
  registers := [("R0", 0)]
  terminator := "STOP"
  origin := "AT"
  data := "DB"

/-- A table whose origin directive `AT` takes a number or a string, with a jump `GO`. -/
def textOriginJumpTable : InstructionSet where
  forms := [("AT", [⟨[.number], none⟩, ⟨[.text], none⟩]), ("GO", [⟨[.label], some 16⟩]),
    ("STOP", [⟨[], none⟩])]
  registers := [("R0", 0)]
  terminator := "STOP"
  origin := "AT"
  data := "DB"

/-- The SMS32 table without its registers, which passes its check. -/
def sms32WithoutRegisters : InstructionSet := { InstructionSet.sms32 with registers := [] }

/-- Tables that pass their check, under which an assembly fails with no diagnostic: at a register
named in lower case, at an origin directive that takes no operand, after an origin directive that
moves the counter to a string's codes, both where the next statement would take room and where a
jump measures its distance from a label bound there, and, with no register at all, in a scan that
never ends, as the empty register name is found before the first word. -/
theorem validated_tables_fail_outside_diagnostics :
    (Statement.lowerRegisterTable.check = .ok () ∧
      Assembly.assemble Statement.lowerRegisterTable "push al\nend" = .error (.unknownRegister "AL")) ∧
    (bareOriginTable.check = .ok () ∧
      Assembly.assemble bareOriginTable "at\nstop" = .error .originWithoutOperand) ∧
    (textOriginJumpTable.check = .ok () ∧
      Assembly.assemble textOriginJumpTable "at \"A\"\nstop" = .error (.advanceFrom .codes) ∧
      Assembly.assemble textOriginJumpTable "at \"A\"\nx: at 10\ngo x\nstop" =
        .error (.distanceFrom .codes)) ∧
    (sms32WithoutRegisters.check = .ok () ∧
      Assembly.assemble sms32WithoutRegisters "nop\nend" = .error .endless) := by
  refine ⟨⟨by cbv, ?_⟩, ⟨by cbv, ?_⟩, ⟨by cbv, ?_, ?_⟩, ⟨by cbv, ?_⟩⟩ <;>
  · simp only [Assembly.assemble, Assembly.attempt, Statement.parse, Statement.takeAll_eq_bounded]
    cbv

end ByteAsm
