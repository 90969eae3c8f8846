import Mathlib.Data.List.Forall2
import ByteAsm.Placement
import ByteAsm.InstructionSet.Sms32

/-!
# The two passes agree on the layout

Both passes walk the statements with a location counter, the first by the size of each statement
and the second by the length of its bytes once its distance is filled in. The two counters never
part, so every label is bound to the address where the second pass places the statement it
precedes (`placement_agrees_with_layout`).
-/

namespace ByteAsm

namespace Layout

/-- The location counter after statement `s`, from `counter` before it: the origin directive
sets it to its operand's value, and every other statement moves an address on by its size. -/
def advance (set : InstructionSet) (s : Statement) (counter : OperandValue) :
    Except Failure OperandValue :=
  if s.mnemonic = set.origin then s.originTarget
  else
    match counter with
    | .scalar a => .ok (.scalar (a + s.size))
    | other => .error (.advanceFrom other.kind)

/-- The location counter before each of `statements`, from `counter` before the first. -/
def counters (set : InstructionSet) : List Statement → OperandValue →
    Except Failure (List OperandValue)
  | [], _ => .ok []
  | s :: rest, counter =>
    match advance set s counter with
    | .error f => .error f
    | .ok next =>
      match counters set rest next with
      | .error f => .error f
      | .ok more => .ok (counter :: more)

/-- The labels of `statements`, each with the counter before its statement, in order. -/
def labelled (statements : List Statement) (cs : List OperandValue) :
    List (String × OperandValue) :=
  (statements.zip cs).filterMap fun (s, c) => s.label.map fun l => (l.name, c)

theorem counters_cons_ok {set : InstructionSet} {s : Statement} {rest : List Statement}
    {counter next : OperandValue} {more : List OperandValue}
    (hnext : advance set s counter = .ok next) (hmore : counters set rest next = .ok more) :
    counters set (s :: rest) counter = .ok (counter :: more) := by
  simp only [counters, hnext, hmore]

theorem bindLabel_ok {labels labels' : OrderedMap String OperandValue}
    {declared declared' : List (String × Span)} {s : Statement} {counter : OperandValue}
    (h : bindLabel labels declared s counter = .ok (labels', declared')) :
    (s.label = none ∧ labels' = labels ∧ declared' = declared) ∨
      ∃ l, s.label = some l ∧ declared.lookup l.name = none ∧
        labels' = labels.insert l.name counter ∧ declared' = declared ++ [(l.name, l.span)] := by
  unfold bindLabel at h
  split at h
  · next hl =>
    cases h
    exact .inl ⟨hl, rfl, rfl⟩
  · next l hl =>
    split at h
    · cases h
    · next hlookup =>
      cases h
      exact .inr ⟨l, hl, hlookup, rfl, rfl⟩

theorem walk_cons_ok {set : InstructionSet} {s : Statement} {rest : List Statement}
    {labels L : OrderedMap String OperandValue} {declared : List (String × Span)}
    {counter : OperandValue} (h : walk set (s :: rest) labels declared counter = .ok L) :
    ∃ labels' declared' next, bindLabel labels declared s counter = .ok (labels', declared') ∧
      advance set s counter = .ok next ∧ walk set rest labels' declared' next = .ok L ∧
      (s.mnemonic ≠ set.origin → rest ≠ [] → ∃ a, next = .scalar a ∧ a ≤ 0xFF) := by
  unfold walk at h
  rcases hbind : bindLabel labels declared s counter with f | ⟨labels', declared'⟩
  · rw [hbind] at h
    cases h
  rw [hbind] at h
  dsimp only at h
  by_cases horigin : s.mnemonic = set.origin
  · rw [if_pos horigin] at h
    rcases htarget : s.originTarget with f | target
    · rw [htarget] at h
      cases h
    rw [htarget] at h
    refine ⟨labels', declared', target, rfl, ?_, h, fun hne => absurd horigin hne⟩
    unfold advance
    rw [if_pos horigin, htarget]
  · rw [if_neg horigin] at h
    rcases counter with a | cs | _
    · dsimp only at h
      split at h
      · cases h
      · next hbound =>
        refine ⟨labels', declared', .scalar (a + s.size), rfl, ?_, h,
          fun _ hrest => ⟨a + s.size, rfl, ?_⟩⟩
        · unfold advance
          rw [if_neg horigin]
        have hnonempty : rest.isEmpty = false := by
          cases rest with
          | nil => exact absurd rfl hrest
          | cons _ _ => rfl
        simp only [hnonempty, Bool.not_false, and_true] at hbound
        omega
    · cases h
    · cases h

theorem walk_entries {set : InstructionSet} {statements : List Statement}
    {labels L : OrderedMap String OperandValue} {declared : List (String × Span)}
    {counter : OperandValue} (h : walk set statements labels declared counter = .ok L)
    (hkeys : labels.keys = declared.map Prod.fst) (hnodup : labels.keys.Nodup) :
    ∃ cs, counters set statements counter = .ok cs ∧
      L.entries = labels.entries ++ labelled statements cs ∧ L.keys.Nodup := by
  induction statements generalizing labels declared counter with
  | nil =>
    simp only [walk, Except.ok.injEq] at h
    subst h
    exact ⟨[], rfl, by simp [labelled], hnodup⟩
  | cons s rest ih =>
    obtain ⟨labels', declared', next, hbind, hnext, hrest, -⟩ := walk_cons_ok h
    rcases bindLabel_ok hbind with ⟨hl, rfl, rfl⟩ | ⟨l, hl, hfresh, rfl, rfl⟩
    · obtain ⟨cs, hcs, hentries, hnd⟩ := ih hrest hkeys hnodup
      refine ⟨counter :: cs, counters_cons_ok hnext hcs, ?_, hnd⟩
      simp [hentries, labelled, hl]
    · have hfresh' : l.name ∉ labels.keys := by
        rw [hkeys]
        intro hmem
        obtain ⟨p, hp, hname⟩ := List.mem_map.1 hmem
        have hdiffers := List.lookup_eq_none_iff.1 hfresh p hp
        simp [hname] at hdiffers
      have hinsert := OrderedMap.entries_insert_of_not_mem counter hfresh'
      have hkeys' : (labels.insert l.name counter).keys = labels.keys ++ [l.name] := by
        simp [OrderedMap.keys, hinsert]
      obtain ⟨cs, hcs, hentries, hnd⟩ := ih hrest (by simp [hkeys', hkeys])
        (by
          rw [hkeys']
          exact List.nodup_append.2 ⟨hnodup, by simp, fun a ha b hb => by
            rw [List.mem_singleton.1 hb]
            exact fun heq => hfresh' (heq ▸ ha)⟩)
      refine ⟨counter :: cs, counters_cons_ok hnext hcs, ?_, hnd⟩
      simp [hentries, hinsert, labelled, hl]

theorem labelled_keys {statements : List Statement} {cs : List OperandValue}
    (h : statements.length = cs.length) :
    (labelled statements cs).map Prod.fst = statements.filterMap fun s => s.label.map (·.name) := by
  induction statements generalizing cs with
  | nil => rfl
  | cons s rest ih =>
    cases cs with
    | nil => cases h
    | cons c cs =>
      have hrest := ih (Nat.succ.inj h)
      cases hl : s.label <;> simp_all [labelled]

theorem mem_labelled {statements : List Statement} {cs : List OperandValue} {s : Statement}
    {c : OperandValue} {l : LabelDecl} (hmem : (s, c) ∈ statements.zip cs)
    (hl : s.label = some l) : (l.name, c) ∈ labelled statements cs :=
  List.mem_filterMap.2 ⟨(s, c), hmem, by simp [hl]⟩

end Layout

namespace Placement

/-- What the second pass makes of statement `s` where the location counter holds `counter`: the
statement as placed, a jump with its distance filled in, and the counter after it. -/
def place (set : InstructionSet) (labels : OrderedMap String OperandValue) (s : Statement)
    (counter : OperandValue) : Except Failure (Statement × OperandValue) :=
  if s.mnemonic = set.origin then
    match s.originTarget with
    | .error f => .error f
    | .ok target => .ok (s, target)
  else
    match counter with
    | .scalar start =>
      match (if s.awaitsDistance then resolve labels start s else .ok s) with
      | .error f => .error f
      | .ok placed => .ok (placed, .scalar (start + placed.code.length))
    | other => .error (.advanceFrom other.kind)

/-- The maps after recording statement `s`, placed where the counter held `counter`: the origin
directive only where no statement starts yet, any other statement with its bytes. -/
def record (set : InstructionSet) (placed : Placement) (counter : OperandValue)
    (s : Statement) : Placement :=
  if s.mnemonic = set.origin then
    { placed with statements := placed.statements.insertIfAbsent counter s }
  else
    match counter with
    | .scalar start =>
      ⟨writeBytes placed.bytes start s.code,
        if s.code.isEmpty then placed.statements.insertIfAbsent counter s
        else placed.statements.insert counter s⟩
    | _ => placed

/-- The statements of `statements` as the second pass places them, from `counter` before the
first: each with the counter where it starts. -/
def trace (set : InstructionSet) (labels : OrderedMap String OperandValue) :
    List Statement → OperandValue → Except Failure (List (OperandValue × Statement))
  | [], _ => .ok []
  | s :: rest, counter =>
    match place set labels s counter with
    | .error f => .error f
    | .ok (s', next) =>
      match trace set labels rest next with
      | .error f => .error f
      | .ok more => .ok ((counter, s') :: more)

theorem resolve_ok {labels : OrderedMap String OperandValue} {start : Int} {s s' : Statement}
    (h : resolve labels start s = .ok s') :
    (s.operands = [] ∧ s' = s) ∨
      ∃ o others target, s.operands = o :: others ∧
        labels.get? o.text = some (.scalar target) ∧
        -128 ≤ target - start ∧ target - start ≤ 127 ∧
        s' = { s with
          operands := { o with value := .scalar (Numeral.ofSigned (target - start)) } :: others,
          code := s.code ++ [Numeral.ofSigned (target - start)] } := by
  unfold resolve at h
  split at h
  · next hnil =>
    cases h
    exact .inl ⟨hnil, rfl⟩
  · next o others hcons =>
    split at h
    · cases h
    · next target hget =>
      dsimp only at h
      split at h
      · cases h
      · next hrange =>
        cases h
        exact .inr ⟨o, others, target, hcons, hget, by omega, by omega, rfl⟩
    · cases h

theorem resolve_mnemonic {labels : OrderedMap String OperandValue} {start : Int}
    {s s' : Statement} (h : resolve labels start s = .ok s') : s'.mnemonic = s.mnemonic := by
  rcases resolve_ok h with ⟨-, rfl⟩ | ⟨o, others, target, -, -, -, -, rfl⟩ <;> rfl

theorem place_ok {set : InstructionSet} {labels : OrderedMap String OperandValue}
    {s s' : Statement} {counter next : OperandValue}
    (h : place set labels s counter = .ok (s', next)) :
    (s.mnemonic = set.origin ∧ s' = s ∧ s.originTarget = .ok next) ∨
      (s.mnemonic ≠ set.origin ∧ ∃ start, counter = .scalar start ∧
        (if s.awaitsDistance then resolve labels start s else .ok s) = .ok s' ∧
        next = .scalar (start + s'.code.length)) := by
  unfold place at h
  by_cases horigin : s.mnemonic = set.origin
  · rw [if_pos horigin] at h
    split at h
    · cases h
    · next target htarget =>
      cases h
      exact .inl ⟨horigin, rfl, htarget⟩
  · rw [if_neg horigin] at h
    rcases counter with start | cs | _
    · dsimp only at h
      split at h
      · cases h
      · next placed hres =>
        cases h
        exact .inr ⟨horigin, start, rfl, hres, rfl⟩
    · cases h
    · cases h

theorem place_size {set : InstructionSet} {labels : OrderedMap String OperandValue}
    {s s' : Statement} {counter next : OperandValue}
    (h : place set labels s counter = .ok (s', next)) (hne : s.mnemonic ≠ set.origin) :
    s'.code.length = s.size := by
  rcases place_ok h with ⟨horigin, -⟩ | ⟨-, start, -, hres, -⟩
  · exact absurd horigin hne
  by_cases hawait : s.awaitsDistance = true
  · rw [if_pos hawait] at hres
    rcases resolve_ok hres with ⟨hnil, -⟩ | ⟨o, others, target, -, -, -, -, rfl⟩
    · simp [Statement.awaitsDistance, hnil] at hawait
    · simp [Statement.size, hawait]
  · rw [if_neg hawait] at hres
    cases hres
    simp [Statement.size, hawait]

theorem place_mnemonic {set : InstructionSet} {labels : OrderedMap String OperandValue}
    {s s' : Statement} {counter next : OperandValue}
    (h : place set labels s counter = .ok (s', next)) : s'.mnemonic = s.mnemonic := by
  rcases place_ok h with ⟨-, rfl, -⟩ | ⟨-, start, -, hres, -⟩
  · rfl
  · split at hres
    · exact resolve_mnemonic hres
    · cases hres
      rfl

theorem place_advance {set : InstructionSet} {labels : OrderedMap String OperandValue}
    {s s' : Statement} {counter next : OperandValue}
    (h : place set labels s counter = .ok (s', next)) :
    Layout.advance set s counter = .ok next := by
  rcases place_ok h with ⟨horigin, -, htarget⟩ | ⟨horigin, start, rfl, -, rfl⟩
  · unfold Layout.advance
    rw [if_pos horigin, htarget]
  · unfold Layout.advance
    rw [if_neg horigin, place_size h horigin]

theorem walk_cons (set : InstructionSet) (labels : OrderedMap String OperandValue)
    (s : Statement) (rest : List Statement) (placed : Placement) (counter : OperandValue) :
    walk set labels (s :: rest) placed counter =
      match place set labels s counter with
      | .error f => .error f
      | .ok (s', next) => walk set labels rest (record set placed counter s') next := by
  rw [walk.eq_def]
  unfold place
  dsimp only
  by_cases horigin : s.mnemonic = set.origin
  · rw [if_pos horigin, if_pos horigin]
    rcases s.originTarget with f | target
    · rfl
    · simp only [record, if_pos horigin]
  · rw [if_neg horigin, if_neg horigin]
    rcases counter with start | cs | _
    · dsimp only
      rcases hres : (if s.awaitsDistance then resolve labels start s else .ok s) with f | s'
      · rfl
      · have hmnemonic : s'.mnemonic = s.mnemonic := by
          split at hres
          · exact resolve_mnemonic hres
          · cases hres
            rfl
        simp only [record, hmnemonic, if_neg horigin]
    · rfl
    · rfl

theorem trace_cons_ok {set : InstructionSet} {labels : OrderedMap String OperandValue}
    {s : Statement} {rest : List Statement} {counter : OperandValue}
    {steps : List (OperandValue × Statement)}
    (h : trace set labels (s :: rest) counter = .ok steps) :
    ∃ s' next more, place set labels s counter = .ok (s', next) ∧
      trace set labels rest next = .ok more ∧ steps = (counter, s') :: more := by
  simp only [trace] at h
  rcases hplace : place set labels s counter with f | ⟨s', next⟩
  · rw [hplace] at h
    cases h
  rw [hplace] at h
  dsimp only at h
  rcases hrest : trace set labels rest next with f | more
  · rw [hrest] at h
    cases h
  rw [hrest] at h
  cases h
  exact ⟨s', next, more, rfl, hrest, rfl⟩

/-- The maps of the second pass are the record, in order, of the statements it places. -/
theorem walk_eq_trace (set : InstructionSet) (labels : OrderedMap String OperandValue) :
    ∀ (statements : List Statement) (placed : Placement) (counter : OperandValue),
      walk set labels statements placed counter =
        (trace set labels statements counter).map fun steps =>
          steps.foldl (fun p step => record set p step.1 step.2) placed
  | [], _, _ => rfl
  | s :: rest, placed, counter => by
    rw [walk_cons]
    simp only [trace]
    rcases place set labels s counter with f | ⟨s', next⟩
    · rfl
    · dsimp only
      rw [walk_eq_trace set labels rest]
      rcases trace set labels rest next with f | more <;> rfl

theorem trace_counters {set : InstructionSet} {labels : OrderedMap String OperandValue}
    {statements : List Statement} {counter : OperandValue}
    {steps : List (OperandValue × Statement)}
    (h : trace set labels statements counter = .ok steps) :
    Layout.counters set statements counter = .ok (steps.map Prod.fst) := by
  induction statements generalizing counter steps with
  | nil =>
    simp only [trace, Except.ok.injEq] at h
    subst h
    rfl
  | cons s rest ih =>
    obtain ⟨s', next, more, hplace, hrest, rfl⟩ := trace_cons_ok h
    exact Layout.counters_cons_ok (place_advance hplace) (ih hrest)

theorem trace_sizes {set : InstructionSet} {labels : OrderedMap String OperandValue}
    {statements : List Statement} {counter : OperandValue}
    {steps : List (OperandValue × Statement)}
    (h : trace set labels statements counter = .ok steps) :
    List.Forall₂ (fun s (step : OperandValue × Statement) =>
      s.mnemonic ≠ set.origin → step.2.code.length = s.size) statements steps := by
  induction statements generalizing counter steps with
  | nil =>
    simp only [trace, Except.ok.injEq] at h
    subst h
    exact .nil
  | cons s rest ih =>
    obtain ⟨s', next, more, hplace, hrest, rfl⟩ := trace_cons_ok h
    exact .cons (place_size hplace) (ih hrest)

/-- A successful second pass is the record of each step of its trace from address zero. -/
theorem run_ok {set : InstructionSet} {labels : OrderedMap String OperandValue}
    {statements : List Statement} {P : Placement} (h : run set labels statements = .ok P) :
    ∃ steps, trace set labels statements (.scalar 0) = .ok steps ∧
      P = steps.foldl (fun p step => record set p step.1 step.2)
        ⟨OrderedMap.empty, OrderedMap.empty⟩ := by
  rw [run, walk_eq_trace] at h
  rcases htrace : trace set labels statements (.scalar 0) with f | steps
  · rw [htrace] at h
    cases h
  · rw [htrace] at h
    exact ⟨steps, rfl, (Except.ok.inj h).symm⟩

end Placement

/-- The two passes lay a program out alike. Where both succeed, the second pass starts every
statement at the counter the first pass had before it; so the label table holds exactly the
declared labels, in order, each bound to the address where the second pass places the statement
it precedes, and every statement but the origin directive takes the room reserved for it. -/
theorem placement_agrees_with_layout {set : InstructionSet} {statements : List Statement}
    {L : OrderedMap String OperandValue} {P : Placement}
    (hL : Layout.labels set statements = .ok L) (hP : Placement.run set L statements = .ok P) :
    ∃ steps, Placement.trace set L statements (.scalar 0) = .ok steps ∧
      P = steps.foldl (fun p step => Placement.record set p step.1 step.2)
        ⟨OrderedMap.empty, OrderedMap.empty⟩ ∧
      Layout.counters set statements (.scalar 0) = .ok (steps.map Prod.fst) ∧
      L.keys = statements.filterMap (fun s => s.label.map (·.name)) ∧
      List.Forall₂ (fun s (step : OperandValue × Statement) =>
        (∀ l, s.label = some l → L.get? l.name = some step.1) ∧
          (s.mnemonic ≠ set.origin → step.2.code.length = s.size)) statements steps := by
  obtain ⟨cs, hcs, hentries, hnodup⟩ := Layout.walk_entries hL rfl List.nodup_nil
  obtain ⟨steps, htrace, rfl⟩ := Placement.run_ok hP
  have hcounters := Placement.trace_counters htrace
  have hsizes := Placement.trace_sizes htrace
  -- the counters of the first pass are the starts of the second
  have hstarts : cs = steps.map Prod.fst := Except.ok.inj (hcs.symm.trans hcounters)
  subst hstarts
  have hlength : statements.length = (steps.map Prod.fst).length := by
    rw [List.length_map]
    exact hsizes.length_eq
  refine ⟨steps, htrace, rfl, hcounters, ?_, ?_⟩
  · rw [OrderedMap.keys, hentries, ← Layout.labelled_keys hlength]
    rfl
  · refine List.forall₂_iff_zip.2 ⟨hsizes.length_eq, fun {s step} hmem => ⟨fun l hl => ?_,
      List.forall₂_zip hsizes hmem⟩⟩
    apply OrderedMap.get?_eq_of_mem hnodup
    rw [hentries]
    refine List.mem_append_right _ (Layout.mem_labelled ?_ hl)
    rw [List.zip_map_right]
    exact List.mem_map_of_mem (f := Prod.map id Prod.fst) hmem

/-- A loop of the SMS32 machine: `START: MOV AL, 01`, then `JMP START`, then `END`. -/
def loopProgram : List Statement := [
  ⟨some ⟨"START", Span.empty⟩, "MOV", Span.empty, some 0xD0,
    [⟨.register, .scalar 0, "AL", "al", Span.empty⟩, ⟨.number, .scalar 1, "01", "01", Span.empty⟩],
    [0xD0, 0x00, 0x01]⟩,
  ⟨none, "JMP", Span.empty, some 0xC0, [⟨.label, .pending, "START", "start", Span.empty⟩], [0xC0]⟩,
  ⟨none, "END", Span.empty, none, [], []⟩]

/-- The labels of `loopProgram`. -/
def loopLabels : OrderedMap String OperandValue := ⟨[("START", .scalar 0)]⟩

/-- The bytes and statements of `loopProgram`: the jump at address 3 goes back three bytes. -/
def loopPlacement : Placement :=
  ⟨⟨[(0, 0xD0), (1, 0x00), (2, 0x01), (3, 0xC0), (4, 0xFD)]⟩,
    ⟨[(.scalar 0, loopProgram[0]),
      (.scalar 3, ⟨none, "JMP", Span.empty, some 0xC0,
        [⟨.label, .scalar 0xFD, "START", "start", Span.empty⟩], [0xC0, 0xFD]⟩),
      (.scalar 5, loopProgram[2])]⟩⟩

/-- In `loopProgram` the two passes agree: the jump starts at address 3 in both. -/
theorem loopProgram_passes_agree :
    Layout.labels InstructionSet.sms32 loopProgram = .ok loopLabels ∧
      Placement.run InstructionSet.sms32 loopLabels loopProgram = .ok loopPlacement ∧
      ∃ steps, Placement.trace InstructionSet.sms32 loopLabels loopProgram (.scalar 0) =
          .ok steps ∧
        loopPlacement = steps.foldl
          (fun p step => Placement.record InstructionSet.sms32 p step.1 step.2)
          ⟨OrderedMap.empty, OrderedMap.empty⟩ ∧
        Layout.counters InstructionSet.sms32 loopProgram (.scalar 0) =
          .ok (steps.map Prod.fst) ∧
        loopLabels.keys = loopProgram.filterMap (fun s => s.label.map (·.name)) ∧
        List.Forall₂ (fun s (step : OperandValue × Statement) =>
          (∀ l, s.label = some l → loopLabels.get? l.name = some step.1) ∧
            (s.mnemonic ≠ InstructionSet.sms32.origin → step.2.code.length = s.size))
          loopProgram steps :=
  have hL : Layout.labels InstructionSet.sms32 loopProgram = .ok loopLabels := rfl
  have hP : Placement.run InstructionSet.sms32 loopLabels loopProgram = .ok loopPlacement := rfl
  ⟨hL, hP, placement_agrees_with_layout hL hP⟩

end ByteAsm
