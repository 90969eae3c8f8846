import Mathlib
import ByteAsm.Proofs.JumpDistance

/-!
# The statement at an address and the bytes there

The statement that the second pass records at an address, when it has bytes and is not the
origin directive, has its bytes in memory from that address on, each of them unless a later
statement writes the same address again (`statement_bytes_in_memory`). Both exceptions occur
(`statement_bytes_overwritten`).
-/

namespace ByteAsm

namespace Placement

variable {set : InstructionSet}

/-- Step `step` of the second pass writes a byte at `address`: it is not the origin directive,
and it starts at an address at most `address` with bytes that reach past it. -/
def Writes (set : InstructionSet) (step : OperandValue × Statement) (address : Int) : Prop :=
  step.2.mnemonic ≠ set.origin ∧
    ∃ b, step.1 = .scalar b ∧ b ≤ address ∧ address < b + step.2.code.length

/-- A statement displaces the one recorded where it starts: it is not the origin directive and
it has bytes. -/
def Displaces (set : InstructionSet) (s : Statement) : Prop :=
  s.mnemonic ≠ set.origin ∧ s.code ≠ []

/-- Statement `s`, found at address `a` once the steps `steps` of the second pass are recorded,
is placed at `a` by one of the steps, and no step after it places there a statement that
displaces it; and each byte of `s` is in `bytes` at its address, unless a step after it writes
that address. -/
def KeepsBytes (set : InstructionSet) (bytes : OrderedMap Int Int)
    (steps : List (OperandValue × Statement)) (a : Int) (s : Statement) : Prop :=
  ∃ before after, steps = before ++ (.scalar a, s) :: after ∧
    (∀ step ∈ after, step.1 = .scalar a → ¬ Displaces set step.2) ∧
    ∀ k (hk : k < s.code.length), (∀ step ∈ after, ¬ Writes set step (a + k)) →
      bytes.get? (a + k) = some s.code[k]

/-! ### Writing bytes -/

theorem get?_foldl_insert_of_ne {code : List Int} {start x : Int} {n : Nat}
    (m : OrderedMap Int Int) (hx : ∀ k < code.length, start + ((n + k : Nat) : Int) ≠ x) :
    ((code.zipIdx n).foldl (fun m (b, i) => m.insert (start + i) b) m).get? x = m.get? x := by
  induction code generalizing n m with
  | nil => rfl
  | cons b rest ih =>
    rw [List.zipIdx_cons, List.foldl_cons]
    have hrest : ∀ k < rest.length, start + ((n + 1 + k : Nat) : Int) ≠ x := by
      intro k hk
      have hne := hx (k + 1) (by simp; omega)
      rwa [show n + (k + 1) = n + 1 + k by omega] at hne
    have hhead : start + (n : Int) ≠ x := by simpa using hx 0 (by simp)
    rw [ih _ hrest]
    simp [hhead]

theorem get?_foldl_insert_of_lt {code : List Int} {start : Int} {n k : Nat}
    (m : OrderedMap Int Int) (hk : k < code.length) :
    ((code.zipIdx n).foldl (fun m (b, i) => m.insert (start + i) b) m).get?
      (start + ((n + k : Nat) : Int)) = some code[k] := by
  induction code generalizing n k m with
  | nil => cases hk
  | cons b rest ih =>
    rw [List.zipIdx_cons, List.foldl_cons]
    cases k with
    | zero =>
      rw [get?_foldl_insert_of_ne _ fun j _ => by omega]
      simp
    | succ k =>
      have hshift : n + (k + 1) = n + 1 + k := by omega
      rw [hshift, ih _ (by simpa using hk)]
      rfl

theorem get?_writeBytes_of_lt (m : OrderedMap Int Int) (start : Int) {code : List Int} {k : Nat}
    (hk : k < code.length) : (writeBytes m start code).get? (start + k) = some code[k] := by
  have hwritten := @get?_foldl_insert_of_lt code start 0 k m hk
  simpa [writeBytes] using hwritten

theorem get?_writeBytes_of_not_mem (m : OrderedMap Int Int) {start x : Int} {code : List Int}
    (hx : ¬ (start ≤ x ∧ x < start + code.length)) : (writeBytes m start code).get? x = m.get? x :=
  get?_foldl_insert_of_ne (n := 0) m fun k hk heq => hx ⟨by omega, by omega⟩

/-! ### Recording one step -/

theorem get?_record_bytes_of_not_writes {placed : Placement} {counter : OperandValue}
    {s : Statement} {x : Int} (h : ¬ Writes set (counter, s) x) :
    (record set placed counter s).bytes.get? x = placed.bytes.get? x := by
  unfold record
  split
  · rfl
  · next hne =>
    split
    · next start =>
      exact get?_writeBytes_of_not_mem _ fun ⟨hlow, hhigh⟩ => h ⟨hne, start, rfl, hlow, hhigh⟩
    · rfl

theorem get?_record_bytes_of_lt {placed : Placement} {a : Int} {s : Statement} {k : Nat}
    (hs : s.mnemonic ≠ set.origin) (hk : k < s.code.length) :
    (record set placed (.scalar a) s).bytes.get? (a + k) = some s.code[k] := by
  simp only [record, if_neg hs]
  exact get?_writeBytes_of_lt _ _ hk

theorem get?_record_statements_of_displaces {placed : Placement} {a : Int} {s : Statement}
    (hs : Displaces set s) :
    (record set placed (.scalar a) s).statements.get? (.scalar a) = some s := by
  have hcode : s.code.isEmpty = false := List.isEmpty_eq_false_iff.2 hs.2
  simp [record, hs.1, hcode]

/-- After recording a step, the statement found at a counter was found there before, or is the
one the step placed there. -/
theorem get?_record_statements {placed : Placement} {counter c : OperandValue}
    {s s' : Statement} (h : (record set placed counter s).statements.get? c = some s') :
    placed.statements.get? c = some s' ∨ (c = counter ∧ s' = s) := by
  unfold record at h
  split at h
  · rw [OrderedMap.get?_insertIfAbsent] at h
    cases hbefore : placed.statements.get? c with
    | some found => simp_all
    | none =>
      by_cases hc : counter = c <;> simp_all
  · split at h
    · next start =>
      split at h
      · rw [OrderedMap.get?_insertIfAbsent] at h
        cases hbefore : placed.statements.get? c with
        | some found => simp_all
        | none =>
          by_cases hc : OperandValue.scalar start = c <;> simp_all
      · rw [OrderedMap.get?_insert] at h
        by_cases hc : OperandValue.scalar start = c <;> simp_all
    · exact .inl h

/-! ### The whole pass -/

theorem keepsBytes_of_get? {steps : List (OperandValue × Statement)} {a : Int} {s : Statement}
    (hs : Displaces set s)
    (h : (steps.foldl (fun p step => record set p step.1 step.2)
      ⟨OrderedMap.empty, OrderedMap.empty⟩).statements.get? (.scalar a) = some s) :
    KeepsBytes set (steps.foldl (fun p step => record set p step.1 step.2)
      ⟨OrderedMap.empty, OrderedMap.empty⟩).bytes steps a s := by
  induction steps using List.reverseRecOn with
  | nil => simp [OrderedMap.empty, OrderedMap.get?] at h
  | append_singleton before last ih =>
    rw [List.foldl_append, List.foldl_cons, List.foldl_nil] at h ⊢
    obtain ⟨counter, placedLast⟩ := last
    by_cases hlast : counter = .scalar a ∧ Displaces set placedLast
    · obtain ⟨rfl, hdisplaces⟩ := hlast
      rw [get?_record_statements_of_displaces hdisplaces] at h
      cases h
      refine ⟨before, [], by simp, by simp, fun k hk _ => ?_⟩
      exact get?_record_bytes_of_lt hs.1 hk
    · have hbefore : (before.foldl (fun p step => record set p step.1 step.2)
          ⟨OrderedMap.empty, OrderedMap.empty⟩).statements.get? (.scalar a) = some s := by
        rcases get?_record_statements h with hfound | ⟨hc, rfl⟩
        · exact hfound
        · exact absurd ⟨hc.symm, hs⟩ hlast
      obtain ⟨front, after, hsplit, hlater, hbytes⟩ := ih hbefore
      refine ⟨front, after ++ [(counter, placedLast)], by simp [hsplit], ?_, ?_⟩
      · intro step hstep hstart
        rcases List.mem_append.1 hstep with hstep | hstep
        · exact hlater step hstep hstart
        · rw [List.mem_singleton.1 hstep] at hstart ⊢
          exact fun hdisplaces => hlast ⟨hstart, hdisplaces⟩
      · intro k hk hnone
        rw [get?_record_bytes_of_not_writes (hnone _ (by simp))]
        exact hbytes k hk fun step hstep => hnone step (List.mem_append_left _ hstep)

end Placement

/-- **The statement at an address has its bytes in memory there.** For every assembly, the
statement found at an address `a`, if it has bytes and is not the origin directive, is placed at
`a` by a step of the second pass over the parsed statements; no later step places there a
statement with bytes, and each byte of it lies in memory at its address from `a` on, unless a
later step writes that address. -/
theorem statement_bytes_in_memory {set : InstructionSet} {source : String} {R : Assembly}
    (h : Assembly.assemble set source = .ok R) :
    ∃ statements steps,
      (∃ tokens, Token.scan set source = .ok tokens ∧ Statement.parse set tokens = .ok statements) ∧
      Placement.trace set R.labels statements (.scalar 0) = .ok steps ∧
      ∀ a s, R.statementAt a = some s → s.mnemonic ≠ set.origin → s.code ≠ [] →
        Placement.KeepsBytes set R.bytes steps a s := by
  obtain ⟨tokens, statements, placed, hscan, hparse, -, hrun, hbytes, hstatements⟩ :=
    Assembly.assemble_ok h
  obtain ⟨steps, htrace, rfl⟩ := Placement.run_ok hrun
  refine ⟨statements, steps, ⟨tokens, hscan, hparse⟩, htrace, fun a s hat hne hcode => ?_⟩
  rw [hbytes]
  rw [Assembly.statementAt, hstatements] at hat
  exact Placement.keepsBytes_of_get? ⟨hne, hcode⟩ hat

/-- A program of the SMS32 machine that goes back twice over its data: the string `A`, `ÿ`,
`04`, `B` at address 0, then a move to address `[04]` placed at 1, which writes `00` at 3, then a
`NOP` at 1 that displaces the move, and a `HALT` at 4 over the record of the first origin
directive. -/
def overlapSource : String :=
  "db \"A\xff\x04B\"\norg 01\nmov [04], al\norg 01\nnop\norg 04\nhalt\nend"

set_option maxRecDepth 8000 in
theorem overlapSource_assembles :
    (Assembly.assemble InstructionSet.sms32 overlapSource).map
      (fun R => ((R.statementAt 0).map (fun s => (s.mnemonic, s.code)), R.bytes.get? 3)) =
      .ok (some ("DB", [0x41, 0xFF, 0x04, 0x42]), some 0) := by
  simp only [Assembly.assemble, Assembly.attempt, Statement.parse, Statement.takeAll_eq_bounded]
  cbv

theorem overlapSource_statement_bytes :
    ∃ R, Assembly.assemble InstructionSet.sms32 overlapSource = .ok R ∧
      ∃ statements steps,
        (∃ tokens, Token.scan InstructionSet.sms32 overlapSource = .ok tokens ∧
          Statement.parse InstructionSet.sms32 tokens = .ok statements) ∧
        Placement.trace InstructionSet.sms32 R.labels statements (.scalar 0) = .ok steps ∧
        ∀ a s, R.statementAt a = some s → s.mnemonic ≠ InstructionSet.sms32.origin → s.code ≠ [] →
          Placement.KeepsBytes InstructionSet.sms32 R.bytes steps a s := by
  obtain ⟨R, hR, -⟩ := exists_ok_of_map_eq_ok overlapSource_assembles
  exact ⟨R, hR, statement_bytes_in_memory hR⟩

/-- The statement found at an address need not have its bytes there. After `org 10` the origin
directive is found at address 0 with the byte `10`, and memory holds nothing there. In
`overlapSource` the string is found at address 0, but the move placed after it wrote `00` at
address 3, where the string has `B`. -/
theorem statement_bytes_overwritten :
    (∃ R, Assembly.assemble InstructionSet.sms32 "org 10\nend" = .ok R ∧
      ∃ s, R.statementAt 0 = some s ∧ s.code = [0x10] ∧ R.bytes.get? 0 = none) ∧
    (∃ R, Assembly.assemble InstructionSet.sms32 overlapSource = .ok R ∧
      ∃ s, R.statementAt 0 = some s ∧ s.mnemonic = "DB" ∧ s.code = [0x41, 0xFF, 0x04, 0x42] ∧
        R.bytes.get? 3 = some 0) := by
  have horigin : (Assembly.assemble InstructionSet.sms32 "org 10\nend").map
      (fun R => ((R.statementAt 0).map (·.code), R.bytes.get? 0)) = .ok (some [0x10], none) := by
    simp only [Assembly.assemble, Assembly.attempt, Statement.parse, Statement.takeAll_eq_bounded]
    cbv
  obtain ⟨R, hR, hat⟩ := exists_ok_of_map_eq_ok horigin
  obtain ⟨R', hR', hat'⟩ := exists_ok_of_map_eq_ok overlapSource_assembles
  obtain ⟨hstatement, hbyte⟩ := Prod.mk.inj hat
  obtain ⟨hstatement', hbyte'⟩ := Prod.mk.inj hat'
  obtain ⟨s, hs, hcode⟩ := Option.map_eq_some_iff.1 hstatement
  obtain ⟨s', hs', hfields⟩ := Option.map_eq_some_iff.1 hstatement'
  obtain ⟨hmnemonic, hcode'⟩ := Prod.mk.inj hfields
  exact ⟨⟨R, hR, s, hs, hcode, hbyte⟩, ⟨R', hR', s', hs', hmnemonic, hcode', hbyte'⟩⟩

end ByteAsm
