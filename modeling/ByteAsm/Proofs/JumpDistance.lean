import Mathlib
import ByteAsm.Assembly
import ByteAsm.Proofs.PassAgreement
import ByteAsm.Proofs.StatementGrammar

/-!
# Jump distances

In every successful assembly a statement whose first operand is a label has it bound to an
address, and the signed byte it gained leads from the statement to the label
(`jump_distances_land_on_labels`). A label elsewhere, in second place or on the origin directive,
is never resolved, and the assembly succeeds even where it is declared nowhere
(`unresolved_labels_assemble`).
-/

namespace ByteAsm

namespace Numeral

theorem ofSigned_eq_emod {d : Int} (hlow : -128 ≤ d) (hhigh : d ≤ 127) :
    ofSigned d = d % 256 := by
  unfold ofSigned
  split <;> omega

theorem toSigned_emod {d : Int} (hlow : -128 ≤ d) (hhigh : d ≤ 127) : toSigned (d % 256) = d := by
  unfold toSigned
  split <;> omega

end Numeral

theorem exists_ok_of_map_eq_ok {ε α β : Type} {x : Except ε α} {f : α → β} {b : β}
    (h : x.map f = .ok b) : ∃ a, x = .ok a ∧ f a = b := by
  cases x with
  | error e => cases h
  | ok a => exact ⟨a, rfl, Except.ok.inj h⟩

namespace Assembly

theorem assemble_ok {set : InstructionSet} {source : String} {R : Assembly}
    (h : assemble set source = .ok R) :
    ∃ tokens statements placed, Token.scan set source = .ok tokens ∧
      Statement.parse set tokens = .ok statements ∧ Layout.labels set statements = .ok R.labels ∧
      Placement.run set R.labels statements = .ok placed ∧ R.bytes = placed.bytes ∧
      R.statements = placed.statements := by
  unfold assemble attempt at h
  split at h
  · cases h
  · next tokens htokens =>
    split at h
    · cases h
    · next statements hstatements =>
      split at h
      · cases h
      · next labels hlabels =>
        split at h
        · cases h
        · next placed hplaced =>
          cases h
          exact ⟨tokens, statements, placed, htokens, hstatements, hlabels, hplaced, rfl, rfl⟩

end Assembly

namespace Statement

theorem ReadAs.label_pending {set : InstructionSet} {t : Token} {o : Operand}
    (h : ReadAs set t o) (hlabel : o.kind = .label) : o.value = .pending := by
  have hvalue := h.value
  rw [hlabel] at hvalue
  exact (Except.ok.inj hvalue).symm

theorem OperandsRead.label_pending {set : InstructionSet} {ts : List Token} {os : List Operand}
    (h : OperandsRead set ts os) : ∀ o ∈ os, o.kind = .label → o.value = .pending := by
  cases h with
  | none => simp
  | one ho => simpa using ho.label_pending
  | two h₁ _ h₂ =>
    intro o ho
    rcases List.mem_pair.1 ho with rfl | rfl
    · exact h₁.label_pending
    · exact h₂.label_pending

theorem labels_pending_of_parse {set : InstructionSet} {tokens : List Token}
    {statements : List Statement} (h : parse set tokens = .ok statements) :
    ∀ s ∈ statements, ∀ o ∈ s.operands, o.kind = .label → o.value = .pending := by
  intro s hs
  obtain ⟨chunk, hread⟩ := exists_read_of_parse h s hs
  obtain ⟨_, _, _, -, -, -, -, hoperands⟩ := hread.tokens
  exact hoperands.label_pending

end Statement

namespace Placement

/-- Statement `s`, placed by the second pass as `placed` where the counter held `counter`, has
its jump resolved: unless it is the origin directive, a first operand that is a label names a
label bound to an address `target` at most 128 bytes before the statement's address `a` and at
most 127 after it; the distance `target - a` modulo 256 is the operand's value and the one byte
appended to the statement's bytes, and read back as a signed byte it leads from `a` to
`target`. -/
def LandsOnLabel (set : InstructionSet) (labels : OrderedMap String OperandValue) (s : Statement)
    (counter : OperandValue) (placed : Statement) : Prop :=
  s.mnemonic ≠ set.origin → ∀ o others, s.operands = o :: others → o.kind = .label →
    ∃ a target, counter = .scalar a ∧ labels.get? o.text = some (.scalar target) ∧
      -128 ≤ target - a ∧ target - a ≤ 127 ∧
      placed.operands = { o with value := .scalar ((target - a) % 256) } :: others ∧
      placed.code = s.code ++ [(target - a) % 256] ∧
      a + Numeral.toSigned ((target - a) % 256) = target

theorem place_landsOnLabel {set : InstructionSet} {labels : OrderedMap String OperandValue}
    {s s' : Statement} {counter next : OperandValue}
    (h : place set labels s counter = .ok (s', next))
    (hpending : ∀ o ∈ s.operands, o.kind = .label → o.value = .pending) :
    LandsOnLabel set labels s counter s' := by
  intro hne o others hoperands hlabel
  rcases place_ok h with ⟨horigin, -⟩ | ⟨-, a, rfl, hresolved, -⟩
  · exact absurd horigin hne
  have hawaits : s.awaitsDistance = true := by
    have hvalue := hpending o (by simp [hoperands]) hlabel
    simp [Statement.awaitsDistance, hoperands, hlabel, hvalue]
  rw [if_pos hawaits] at hresolved
  rcases resolve_ok hresolved with ⟨hnone, -⟩ | ⟨o', others', target, hops, hget, hlow, hhigh, rfl⟩
  · rw [hoperands] at hnone
    cases hnone
  rw [hoperands] at hops
  obtain ⟨rfl, rfl⟩ := List.cons.inj hops
  have hbyte := Numeral.ofSigned_eq_emod hlow hhigh
  refine ⟨a, target, rfl, hget, hlow, hhigh, by simp [hbyte], by simp [hbyte], ?_⟩
  rw [Numeral.toSigned_emod hlow hhigh]
  omega

/-- Every step of the second pass resolves the jump of its statement, where the parser left
every label operand without a value. -/
theorem trace_landsOnLabel {set : InstructionSet} {labels : OrderedMap String OperandValue}
    {statements : List Statement} {counter : OperandValue}
    {steps : List (OperandValue × Statement)} (h : trace set labels statements counter = .ok steps)
    (hpending : ∀ s ∈ statements, ∀ o ∈ s.operands, o.kind = .label → o.value = .pending) :
    List.Forall₂ (fun s (step : OperandValue × Statement) =>
      LandsOnLabel set labels s step.1 step.2) statements steps := by
  induction statements generalizing counter steps with
  | nil =>
    cases h
    exact .nil
  | cons s rest ih =>
    obtain ⟨s', next, more, hplace, hrest, rfl⟩ := trace_cons_ok h
    exact .cons (place_landsOnLabel hplace (hpending s List.mem_cons_self))
      (ih hrest fun s hs => hpending s (List.mem_cons_of_mem _ hs))

end Placement

/-- Every jump of a successful assembly lands on its label. The statements parsed from the source
are placed by the second pass step by step, the assembly keeps the maps those steps record, and
each step has resolved the jump of its statement: a first operand that is a label, on any
statement but the origin directive, names a label of the assembly whose address is within a
signed byte's reach of the statement's, and the distance, as a byte, is the operand's value and
the statement's last byte. -/
theorem jump_distances_land_on_labels {set : InstructionSet} {source : String} {R : Assembly}
    (h : Assembly.assemble set source = .ok R) :
    ∃ statements steps,
      (∃ tokens, Token.scan set source = .ok tokens ∧ Statement.parse set tokens = .ok statements) ∧
      Placement.trace set R.labels statements (.scalar 0) = .ok steps ∧
      (⟨R.bytes, R.statements⟩ : Placement) =
        steps.foldl (fun p step => Placement.record set p step.1 step.2)
          ⟨OrderedMap.empty, OrderedMap.empty⟩ ∧
      List.Forall₂ (fun s (step : OperandValue × Statement) =>
        Placement.LandsOnLabel set R.labels s step.1 step.2) statements steps := by
  obtain ⟨tokens, statements, placed, hscan, hparse, -, hrun, hbytes, hstatements⟩ :=
    Assembly.assemble_ok h
  obtain ⟨steps, htrace, rfl⟩ := Placement.run_ok hrun
  refine ⟨statements, steps, ⟨tokens, hscan, hparse⟩, htrace, ?_, ?_⟩
  · rw [hbytes, hstatements]
  · exact Placement.trace_landsOnLabel htrace (Statement.labels_pending_of_parse hparse)

/-- A loop of the SMS32 machine whose jump leads three bytes back. -/
def backJumpSource : String := "start: mov al, 01\njmp start\nend"

theorem backJumpSource_lands_on_label :
    ∃ R, Assembly.assemble InstructionSet.sms32 backJumpSource = .ok R ∧
      R.bytes.entries = [(0, 0xD0), (1, 0), (2, 1), (3, 0xC0), (4, 0xFD)] ∧
      ∃ statements steps,
        (∃ tokens, Token.scan InstructionSet.sms32 backJumpSource = .ok tokens ∧
          Statement.parse InstructionSet.sms32 tokens = .ok statements) ∧
        Placement.trace InstructionSet.sms32 R.labels statements (.scalar 0) = .ok steps ∧
        (⟨R.bytes, R.statements⟩ : Placement) =
          steps.foldl (fun p step => Placement.record InstructionSet.sms32 p step.1 step.2)
            ⟨OrderedMap.empty, OrderedMap.empty⟩ ∧
        List.Forall₂ (fun s (step : OperandValue × Statement) =>
          Placement.LandsOnLabel InstructionSet.sms32 R.labels s step.1 step.2) statements steps := by
  have hbytes : (Assembly.assemble InstructionSet.sms32 backJumpSource).map (·.bytes.entries) =
      .ok [(0, 0xD0), (1, 0), (2, 1), (3, 0xC0), (4, 0xFD)] := by
    simp only [Assembly.assemble, Assembly.attempt, Statement.parse, Statement.takeAll_eq_bounded]
    cbv
  obtain ⟨R, hR, hentries⟩ := exists_ok_of_map_eq_ok hbytes
  exact ⟨R, hR, hentries, jump_distances_land_on_labels hR⟩

/-- A table whose `SKIP` takes a number and then a label. -/
def skipTable : InstructionSet where
  forms := [("AT", [⟨[.number], none⟩]), ("SKIP", [⟨[.number, .label], some 48⟩]),
    ("STOP", [⟨[], none⟩])]
  registers := [("R0", 0)]
  terminator := "STOP"
  origin := "AT"
  data := "DB"

/-- A table whose origin directive `AT` takes a number or a label. -/
def labelledOriginTable : InstructionSet where
  forms := [("AT", [⟨[.number], none⟩, ⟨[.label], none⟩]), ("STOP", [⟨[], none⟩])]
  registers := [("R0", 0)]
  terminator := "STOP"
  origin := "AT"
  data := "DB"

/-- Two validated tables under which a program assembles with a label operand that names no label
and stays without a value: a label in second place, and a label given to the origin directive. -/
theorem unresolved_labels_assemble :
    (skipTable.check = .ok () ∧ ∃ R, Assembly.assemble skipTable "skip 01, zz\nstop" = .ok R ∧
      R.labels.keys = [] ∧ (R.statementAt 0).map (·.operands.map fun o => (o.kind, o.text, o.value)) =
        some [(.number, "01", .scalar 1), (.label, "ZZ", .pending)]) ∧
    (labelledOriginTable.check = .ok () ∧
      ∃ R, Assembly.assemble labelledOriginTable "at foo\nat 10\nstop" = .ok R ∧
      R.labels.keys = [] ∧ (R.statementAt 0).map (·.operands.map fun o => (o.kind, o.text, o.value)) =
        some [(.label, "FOO", .pending)]) := by
  have hskip : (Assembly.assemble skipTable "skip 01, zz\nstop").map (fun R => (R.labels.keys,
      (R.statementAt 0).map (·.operands.map fun o => (o.kind, o.text, o.value)))) =
      .ok ([], some [(.number, "01", .scalar 1), (.label, "ZZ", .pending)]) := by
    simp only [Assembly.assemble, Assembly.attempt, Statement.parse, Statement.takeAll_eq_bounded]
    cbv
  have horigin : (Assembly.assemble labelledOriginTable "at foo\nat 10\nstop").map (fun R =>
      (R.labels.keys, (R.statementAt 0).map (·.operands.map fun o => (o.kind, o.text, o.value)))) =
      .ok ([], some [(.label, "FOO", .pending)]) := by
    simp only [Assembly.assemble, Assembly.attempt, Statement.parse, Statement.takeAll_eq_bounded]
    cbv
  obtain ⟨R, hR, hsummary⟩ := exists_ok_of_map_eq_ok hskip
  obtain ⟨R', hR', hsummary'⟩ := exists_ok_of_map_eq_ok horigin
  refine ⟨⟨by cbv, R, hR, ?_⟩, ⟨by cbv, R', hR', ?_⟩⟩
  · exact Prod.mk.inj hsummary
  · exact Prod.mk.inj hsummary'

end ByteAsm
