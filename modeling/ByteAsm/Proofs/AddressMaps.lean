import Mathlib
import ByteAsm.Proofs.StatementBytes
import ByteAsm.Proofs.MemoryBounds

/-!
# The two maps of the second pass

Once the second pass succeeds, its maps are read off the list of its steps (`Placement.trace`):
an address holds the byte that the last step other than the origin directive writes there
(`Placement.byteAt`), and a step's counter holds the last statement with bytes that starts there,
or else the first (`Placement.recordedAt`). The origin directive never displaces the statement
recorded where it stands (`second_origin_not_recorded`).
-/

namespace ByteAsm

namespace Placement

variable {set : InstructionSet}

/-- The byte that step `step` writes at `address`: none for the origin directive or a step that
does not reach the address, else the byte of its code that falls there. -/
def byteAt (set : InstructionSet) (step : OperandValue × Statement) (address : Int) : Option Int :=
  if step.2.mnemonic = set.origin then none
  else
    match step.1 with
    | .scalar start => if start ≤ address then step.2.code[(address - start).toNat]? else none
    | _ => none

/-- Whether step `step` starts at `c` with a statement that displaces the one recorded there: it
is not the origin directive and has bytes. -/
def displacesAt (set : InstructionSet) (c : OperandValue) (step : OperandValue × Statement) : Bool :=
  step.1 == c && step.2.mnemonic != set.origin && !step.2.code.isEmpty

/-- The statement recorded at counter `c` after the steps `steps`: the last statement with bytes,
other than the origin directive, that starts at `c`, or else the first statement that starts
there. -/
def recordedAt (set : InstructionSet) (steps : List (OperandValue × Statement))
    (c : OperandValue) : Option Statement :=
  (((steps.filter (displacesAt set c)).getLast?).or (steps.find? (·.1 == c))).map Prod.snd

/-- The maps after recording `steps` in order from empty maps. -/
def recordAll (set : InstructionSet) (steps : List (OperandValue × Statement)) : Placement :=
  steps.foldl (fun p step => record set p step.1 step.2) ⟨OrderedMap.empty, OrderedMap.empty⟩

theorem recordAll_append_singleton (steps : List (OperandValue × Statement))
    (step : OperandValue × Statement) :
    recordAll set (steps ++ [step]) = record set (recordAll set steps) step.1 step.2 := by
  simp only [recordAll, List.foldl_append, List.foldl_cons, List.foldl_nil]

/-! ### Bytes -/

theorem isSome_byteAt_iff {step : OperandValue × Statement} {a : Int} :
    (byteAt set step a).isSome ↔ Writes set step a := by
  obtain ⟨counter, s⟩ := step
  unfold byteAt Writes
  by_cases horigin : s.mnemonic = set.origin
  · simp [horigin]
  · rcases counter with start | cs | _
    · by_cases hstart : start ≤ a
      · simp only [if_neg horigin, if_pos hstart, isSome_getElem?]
        constructor
        · intro hk
          exact ⟨horigin, start, rfl, hstart, by omega⟩
        · rintro ⟨-, b, hb, -, hend⟩
          cases hb
          omega
      · simp only [if_neg horigin, if_neg hstart]
        simp only [Option.isSome_none, Bool.false_eq_true, false_iff, not_and, not_exists]
        intro _ b hb hle
        cases hb
        omega
    · simp [horigin]
    · simp [horigin]

theorem get?_record_bytes (placed : Placement) (counter : OperandValue) (s : Statement) (a : Int) :
    (record set placed counter s).bytes.get? a = (byteAt set (counter, s) a).or (placed.bytes.get? a) := by
  by_cases horigin : s.mnemonic = set.origin
  · simp [record, byteAt, horigin]
  rcases counter with start | cs | _
  · by_cases hcovers : start ≤ a ∧ a < start + s.code.length
    · obtain ⟨k, rfl⟩ : ∃ k : Nat, a = start + k := ⟨(a - start).toNat, by omega⟩
      have hk : k < s.code.length := by omega
      rw [get?_record_bytes_of_lt horigin hk]
      simp [byteAt, horigin, hk]
    · have hmiss : ¬ Writes set (.scalar start, s) a := by
        rintro ⟨-, b, hb, hle, hlt⟩
        cases hb
        exact hcovers ⟨hle, hlt⟩
      have hnone : byteAt set (.scalar start, s) a = none := by
        rw [← Option.not_isSome_iff_eq_none, isSome_byteAt_iff]
        exact hmiss
      rw [hnone, Option.none_or]
      exact get?_record_bytes_of_not_writes hmiss
  · simp [record, byteAt, horigin]
  · simp [record, byteAt, horigin]

/-- The byte at an address after the steps is the last byte that a step writes there. -/
theorem get?_recordAll_bytes (steps : List (OperandValue × Statement)) (a : Int) :
    (recordAll set steps).bytes.get? a = (steps.filterMap fun step => byteAt set step a).getLast? := by
  induction steps using List.reverseRecOn with
  | nil => rfl
  | append_singleton before last ih =>
    rw [recordAll_append_singleton, get?_record_bytes, ih, List.filterMap_append,
      List.getLast?_append]
    cases hlast : byteAt set last a <;> simp [hlast]

theorem mem_recordAll_bytes_keys (steps : List (OperandValue × Statement)) (a : Int) :
    a ∈ (recordAll set steps).bytes.keys ↔ ∃ step ∈ steps, Writes set step a := by
  rw [OrderedMap.mem_keys_iff_isSome_get?, get?_recordAll_bytes]
  constructor
  · intro hsome
    obtain ⟨b, hb⟩ := Option.isSome_iff_exists.1 hsome
    obtain ⟨step, hstep, hbyte⟩ := List.mem_filterMap.1 (List.mem_of_getLast? hb)
    exact ⟨step, hstep, isSome_byteAt_iff.1 (by simp [hbyte])⟩
  · rintro ⟨step, hstep, hwrites⟩
    obtain ⟨b, hb⟩ := Option.isSome_iff_exists.1 (isSome_byteAt_iff.2 hwrites)
    have hmem : b ∈ steps.filterMap fun step => byteAt set step a :=
      List.mem_filterMap.2 ⟨step, hstep, hb⟩
    exact List.getLast?_isSome.2 (List.ne_nil_of_mem hmem)

/-! ### Statements -/

theorem statements_get?_record {placed : Placement} {counter : OperandValue} {s : Statement}
    (hstart : s.mnemonic ≠ set.origin → ∃ a, counter = .scalar a) (c : OperandValue) :
    (record set placed counter s).statements.get? c =
      if displacesAt set c (counter, s) then some s
      else (placed.statements.get? c).or (if counter == c then some s else none) := by
  by_cases horigin : s.mnemonic = set.origin
  · simp [record, displacesAt, horigin]
  obtain ⟨a, rfl⟩ := hstart horigin
  by_cases hcode : s.code = []
  · simp [record, displacesAt, horigin, hcode]
  · by_cases hc : OperandValue.scalar a = c
    · subst hc
      simp [record, displacesAt, horigin, hcode]
    · simp [record, displacesAt, horigin, hcode, hc]

theorem recordedAt_append_singleton (steps : List (OperandValue × Statement))
    (step : OperandValue × Statement) (c : OperandValue) :
    recordedAt set (steps ++ [step]) c =
      if displacesAt set c step then some step.2
      else (recordedAt set steps c).or (if step.1 == c then some step.2 else none) := by
  unfold recordedAt
  by_cases hdisplaces : displacesAt set c step = true
  · simp [List.getLast?_append, hdisplaces]
  · have hfilter : (steps ++ [step]).filter (displacesAt set c) = steps.filter (displacesAt set c) := by
      simp [hdisplaces]
    rw [if_neg hdisplaces, hfilter, List.find?_append, ← Option.or_assoc, Option.map_or]
    by_cases hc : step.1 == c <;> simp [hc]

/-- The statement kept at a counter after the steps, where every step but the origin directive
starts at an address, is the one `recordedAt` names. -/
theorem statements_get?_recordAll {steps : List (OperandValue × Statement)}
    (hstarts : ∀ step ∈ steps, step.2.mnemonic ≠ set.origin → ∃ a, step.1 = .scalar a)
    (c : OperandValue) : (recordAll set steps).statements.get? c = recordedAt set steps c := by
  induction steps using List.reverseRecOn with
  | nil => rfl
  | append_singleton before last ih =>
    rw [recordAll_append_singleton, statements_get?_record (hstarts last (by simp)),
      ih fun step hstep => hstarts step (List.mem_append_left _ hstep),
      recordedAt_append_singleton]

theorem isSome_recordedAt_iff {steps : List (OperandValue × Statement)} {c : OperandValue} :
    (recordedAt set steps c).isSome ↔ ∃ step ∈ steps, step.1 = c := by
  unfold recordedAt
  rw [Option.isSome_map, Option.isSome_or, Bool.or_eq_true, List.find?_isSome]
  simp only [beq_iff_eq]
  constructor
  · rintro (hlast | hfirst)
    · obtain ⟨step, hstep⟩ := Option.isSome_iff_exists.1 hlast
      obtain ⟨hmem, hdisplaces⟩ := List.mem_filter.1 (List.mem_of_getLast? hstep)
      simp only [displacesAt, Bool.and_eq_true, beq_iff_eq] at hdisplaces
      exact ⟨step, hmem, hdisplaces.1.1⟩
    · exact hfirst
  · exact .inr

/-! ### The second pass -/

/-- Every step of a successful second pass other than the origin directive starts at an
address. -/
theorem trace_starts {labels : OrderedMap String OperandValue} {statements : List Statement}
    {steps : List (OperandValue × Statement)} (h : trace set labels statements (.scalar 0) = .ok steps) :
    ∀ step ∈ steps, step.2.mnemonic ≠ set.origin → ∃ a, step.1 = .scalar a := by
  intro step hstep hne
  obtain ⟨s, -, next, hplace⟩ := trace_mem h step hstep
  rcases place_ok hplace with ⟨horigin, rfl, -⟩ | ⟨-, start, hstart, -, -⟩
  · exact absurd horigin hne
  · exact ⟨start, hstart⟩

theorem trace_mnemonics {labels : OrderedMap String OperandValue} {statements : List Statement}
    {counter : OperandValue} {steps : List (OperandValue × Statement)}
    (h : trace set labels statements counter = .ok steps) :
    List.Forall₂ (fun s (step : OperandValue × Statement) => step.2.mnemonic = s.mnemonic)
      statements steps := by
  induction statements generalizing counter steps with
  | nil =>
    cases h
    exact .nil
  | cons s rest ih =>
    obtain ⟨s', next, more, hplace, hrest, rfl⟩ := trace_cons_ok h
    exact .cons (place_mnemonic hplace) (ih hrest)

end Placement

/-- **The maps of the second pass, exactly.** Where the second pass succeeds, with the steps of
its trace (the counter where each statement is handled, and the statement as placed): the byte
map has exactly the addresses that some step other than the origin directive covers, each holding
the byte of the last step that writes it; the statement map has exactly the counters where the
steps start, each holding the last statement with bytes other than the origin directive that
starts there, or else the first statement that starts there. -/
theorem placement_maps_by_last_writer {set : InstructionSet}
    {labels : OrderedMap String OperandValue} {statements : List Statement} {P : Placement}
    (h : Placement.run set labels statements = .ok P) :
    ∃ steps, Placement.trace set labels statements (.scalar 0) = .ok steps ∧
      List.Forall₂ (fun s (step : OperandValue × Statement) => step.2.mnemonic = s.mnemonic)
        statements steps ∧
      (∀ a, a ∈ P.bytes.keys ↔ ∃ step ∈ steps, Placement.Writes set step a) ∧
      (∀ a, P.bytes.get? a = (steps.filterMap fun step => Placement.byteAt set step a).getLast?) ∧
      (∀ c, c ∈ P.statements.keys ↔ ∃ step ∈ steps, step.1 = c) ∧
      (∀ c, P.statements.get? c = Placement.recordedAt set steps c) := by
  obtain ⟨steps, htrace, hP⟩ := Placement.run_ok h
  have hrecorded : P = Placement.recordAll set steps := hP
  subst hrecorded
  have hstarts := Placement.trace_starts htrace
  refine ⟨steps, htrace, Placement.trace_mnemonics htrace, Placement.mem_recordAll_bytes_keys steps,
    Placement.get?_recordAll_bytes steps, fun c => ?_, Placement.statements_get?_recordAll hstarts⟩
  rw [OrderedMap.mem_keys_iff_isSome_get?, Placement.statements_get?_recordAll hstarts c,
    Placement.isSome_recordedAt_iff]

/-- A string at address 0, a move back to address 1, a `NOP` there over the string's second
byte, and the terminator where the move was recorded. -/
def backOverData : List Statement := [
  ⟨none, "DB", Span.empty, none, [⟨.text, .codes [0x41, 0x42], "AB", "\"AB\"", Span.empty⟩],
    [0x41, 0x42]⟩,
  ⟨none, "ORG", Span.empty, none, [⟨.number, .scalar 1, "01", "01", Span.empty⟩], [1]⟩,
  ⟨none, "NOP", Span.empty, some 0xFF, [], [0xFF]⟩,
  ⟨none, "END", Span.empty, none, [], []⟩]

theorem backOverData_maps :
    ∃ P, Placement.run InstructionSet.sms32 OrderedMap.empty backOverData = .ok P ∧
      ∃ steps, Placement.trace InstructionSet.sms32 OrderedMap.empty backOverData (.scalar 0) =
          .ok steps ∧
        List.Forall₂ (fun s (step : OperandValue × Statement) => step.2.mnemonic = s.mnemonic)
          backOverData steps ∧
        (∀ a, a ∈ P.bytes.keys ↔ ∃ step ∈ steps, Placement.Writes InstructionSet.sms32 step a) ∧
        (∀ a, P.bytes.get? a =
          (steps.filterMap fun step => Placement.byteAt InstructionSet.sms32 step a).getLast?) ∧
        (∀ c, c ∈ P.statements.keys ↔ ∃ step ∈ steps, step.1 = c) ∧
        (∀ c, P.statements.get? c = Placement.recordedAt InstructionSet.sms32 steps c) :=
  ⟨_, rfl, placement_maps_by_last_writer rfl⟩

/-- The statements of `org 00`, `org 00`, `end`. -/
def twiceToZero : List Statement := [
  ⟨none, "ORG", ⟨0, 3, ⟨1, 0⟩, ⟨1, 3⟩⟩, none,
    [⟨.number, .scalar 0, "00", "00", ⟨4, 6, ⟨1, 4⟩, ⟨1, 6⟩⟩⟩], [0]⟩,
  ⟨none, "ORG", ⟨7, 10, ⟨2, 0⟩, ⟨2, 3⟩⟩, none,
    [⟨.number, .scalar 0, "00", "00", ⟨11, 13, ⟨2, 4⟩, ⟨2, 6⟩⟩⟩], [0]⟩,
  ⟨none, "END", ⟨14, 17, ⟨3, 0⟩, ⟨3, 3⟩⟩, none, [], []⟩]

/-- The origin directive does not displace: in `twiceToZero`, as parsed from its source, both
origin directives start at address 0 and keep their operand as a byte, and the statement map
holds the first of them there, not the last statement with bytes. -/
theorem second_origin_not_recorded :
    (Token.scan InstructionSet.sms32 "org 00\norg 00\nend").bind
        (Statement.parse InstructionSet.sms32) = .ok twiceToZero ∧
      ∃ P steps, Placement.run InstructionSet.sms32 OrderedMap.empty twiceToZero = .ok P ∧
        Placement.trace InstructionSet.sms32 OrderedMap.empty twiceToZero (.scalar 0) =
          .ok steps ∧
        (steps.filter fun step => step.1 == .scalar 0 && !step.2.code.isEmpty).getLast?.map
          Prod.snd = some twiceToZero[1] ∧
        P.statements.get? (.scalar 0) = some twiceToZero[0] ∧ twiceToZero[0] ≠ twiceToZero[1] := by
  refine ⟨?_, _, _, rfl, rfl, rfl, rfl, by decide⟩
  show (Token.scan _ _).bind (fun tokens => Statement.parse _ tokens) = _
  simp only [Statement.parse, Statement.takeAll_eq_bounded]
  cbv

end ByteAsm
