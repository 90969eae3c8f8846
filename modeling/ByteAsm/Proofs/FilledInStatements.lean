import ByteAsm.Proofs.PassAgreement

/-!
# Placing filled-in statements again

The second pass fills in the distance of every jump it reaches (`Placement.fillIn`). Filling in
is stable: every statement keeps its size, label, mnemonic and span, so the first pass binds the
same labels over the filled-in statements, and the second pass, placing them again, builds the
same maps or stops with the same failure (`filled_in_statements_place_alike`).
-/

namespace ByteAsm

namespace Statement

/-- Statements that the first pass cannot tell apart: the same label, mnemonic, size and span,
and the very same statement where it is the origin directive, whose operand sets the counter. -/
structure LaysOutAs (set : InstructionSet) (s s' : Statement) : Prop where
  label : s'.label = s.label
  mnemonic : s'.mnemonic = s.mnemonic
  size : s'.size = s.size
  span : s'.span = s.span
  origin : s.mnemonic = set.origin → s' = s

theorem LaysOutAs.refl (set : InstructionSet) (s : Statement) : s.LaysOutAs set s :=
  ⟨rfl, rfl, rfl, rfl, fun _ => rfl⟩

end Statement

namespace Layout

theorem bindLabel_congr {labels : OrderedMap String OperandValue}
    {declared : List (String × Span)} {s s' : Statement} (counter : OperandValue)
    (hlabel : s'.label = s.label) :
    bindLabel labels declared s' counter = bindLabel labels declared s counter := by
  unfold bindLabel
  rw [hlabel]

theorem walk_congr {set : InstructionSet} {statements statements' : List Statement}
    (h : List.Forall₂ (Statement.LaysOutAs set) statements statements') :
    ∀ labels declared counter,
      walk set statements' labels declared counter = walk set statements labels declared counter := by
  induction h with
  | nil => intro labels declared counter; rfl
  | @cons s s' rest rest' hs hrest ih =>
    intro labels declared counter
    have hempty : rest'.isEmpty = rest.isEmpty := by
      cases hrest <;> rfl
    simp only [walk, bindLabel_congr counter hs.label, hs.mnemonic]
    rcases bindLabel labels declared s counter with f | ⟨labels', declared'⟩
    · rfl
    · dsimp only
      by_cases horigin : s.mnemonic = set.origin
      · rw [if_pos horigin, if_pos horigin, hs.origin horigin]
        rcases s.originTarget with f | target
        · rfl
        · exact ih labels' declared' target
      · rw [if_neg horigin, if_neg horigin, hs.size, hs.span, hempty]
        rcases counter with a | cs | _
        · dsimp only
          split
          · rfl
          · exact ih labels' declared' _
        · rfl
        · rfl

theorem labels_congr {set : InstructionSet} {statements statements' : List Statement}
    (h : List.Forall₂ (Statement.LaysOutAs set) statements statements') :
    labels set statements' = labels set statements :=
  walk_congr h _ _ _

end Layout

namespace Placement

/-- The statements `statements` as the second pass leaves them, from `counter` before the first:
each statement it places, with its distance filled in if it awaited one, then the statement where
it stops and every one after it as they were. -/
def fillIn (set : InstructionSet) (labels : OrderedMap String OperandValue) :
    List Statement → OperandValue → List Statement
  | [], _ => []
  | s :: rest, counter =>
    match place set labels s counter with
    | .error _ => s :: rest
    | .ok (s', next) => s' :: fillIn set labels rest next

section Step

variable {set : InstructionSet} {labels : OrderedMap String OperandValue}

theorem fillIn_cons_of_ok {s s' : Statement} {rest : List Statement} {counter next : OperandValue}
    (h : place set labels s counter = .ok (s', next)) :
    fillIn set labels (s :: rest) counter = s' :: fillIn set labels rest next := by
  simp only [fillIn, h]

theorem fillIn_cons_of_error {s : Statement} {rest : List Statement} {counter : OperandValue}
    {f : Failure} (h : place set labels s counter = .error f) :
    fillIn set labels (s :: rest) counter = s :: rest := by
  simp only [fillIn, h]

theorem resolved_awaits_nothing {start : Int} {s s' : Statement}
    (h : (if s.awaitsDistance then resolve labels start s else .ok s) = .ok s') :
    s'.awaitsDistance = false := by
  by_cases hawait : s.awaitsDistance = true
  · rw [if_pos hawait] at h
    rcases resolve_ok h with ⟨hnil, -⟩ | ⟨o, others, target, -, -, -, -, rfl⟩
    · simp [Statement.awaitsDistance, hnil] at hawait
    · simp [Statement.awaitsDistance]
  · rw [if_neg hawait] at h
    cases h
    simpa using hawait

theorem resolved_laysOutAs {start : Int} {s s' : Statement}
    (h : (if s.awaitsDistance then resolve labels start s else .ok s) = .ok s') :
    s'.label = s.label ∧ s'.mnemonic = s.mnemonic ∧ s'.size = s.size ∧ s'.span = s.span := by
  by_cases hawait : s.awaitsDistance = true
  · rw [if_pos hawait] at h
    rcases resolve_ok h with ⟨hnil, -⟩ | ⟨o, others, target, hcons, -, -, -, rfl⟩
    · simp [Statement.awaitsDistance, hnil] at hawait
    · refine ⟨rfl, rfl, ?_, ?_⟩
      · simp only [Statement.size, hawait, ↓reduceIte]
        simp [Statement.awaitsDistance]
      · cases others <;> simp [Statement.span, hcons, List.getLast?_cons]
  · rw [if_neg hawait] at h
    cases h
    exact ⟨rfl, rfl, rfl, rfl⟩

theorem place_laysOutAs {s s' : Statement} {counter next : OperandValue}
    (h : place set labels s counter = .ok (s', next)) : s.LaysOutAs set s' := by
  rcases place_ok h with ⟨-, rfl, -⟩ | ⟨horigin, start, -, hres, -⟩
  · exact Statement.LaysOutAs.refl set _
  · obtain ⟨hlabel, hmnemonic, hsize, hspan⟩ := resolved_laysOutAs hres
    exact ⟨hlabel, hmnemonic, hsize, hspan, fun hs => absurd hs horigin⟩

/-- A statement the second pass has placed is placed again as it is, from the same counter to
the same counter. -/
theorem place_again {s s' : Statement} {counter next : OperandValue}
    (h : place set labels s counter = .ok (s', next)) :
    place set labels s' counter = .ok (s', next) := by
  rcases place_ok h with ⟨-, rfl, -⟩ | ⟨horigin, start, rfl, hres, rfl⟩
  · exact h
  · have horigin' : s'.mnemonic ≠ set.origin := by
      rw [place_mnemonic h]
      exact horigin
    unfold place
    rw [if_neg horigin', resolved_awaits_nothing hres]
    rfl

end Step

section Run

variable {set : InstructionSet} {labels : OrderedMap String OperandValue}

theorem trace_fillIn (statements : List Statement) (counter : OperandValue) :
    trace set labels (fillIn set labels statements counter) counter =
      trace set labels statements counter := by
  induction statements generalizing counter with
  | nil => rfl
  | cons s rest ih =>
    rcases hplace : place set labels s counter with f | ⟨s', next⟩
    · rw [fillIn_cons_of_error hplace]
    · rw [fillIn_cons_of_ok hplace]
      simp only [trace, place_again hplace, hplace, ih]

theorem fillIn_fillIn (statements : List Statement) (counter : OperandValue) :
    fillIn set labels (fillIn set labels statements counter) counter =
      fillIn set labels statements counter := by
  induction statements generalizing counter with
  | nil => rfl
  | cons s rest ih =>
    rcases hplace : place set labels s counter with f | ⟨s', next⟩
    · rw [fillIn_cons_of_error hplace, fillIn_cons_of_error hplace]
    · rw [fillIn_cons_of_ok hplace, fillIn_cons_of_ok (place_again hplace), ih]

/-- The first pass cannot tell the statements from their filled-in forms, statement by
statement, up to where the second pass stops and beyond. -/
theorem fillIn_laysOutAs (statements : List Statement) (counter : OperandValue) :
    List.Forall₂ (Statement.LaysOutAs set) statements (fillIn set labels statements counter) := by
  induction statements generalizing counter with
  | nil => exact .nil
  | cons s rest ih =>
    rcases hplace : place set labels s counter with f | ⟨s', next⟩
    · rw [fillIn_cons_of_error hplace]
      exact .cons (Statement.LaysOutAs.refl set s)
        (List.forall₂_same.2 fun s _ => Statement.LaysOutAs.refl set s)
    · rw [fillIn_cons_of_ok hplace]
      exact .cons (place_laysOutAs hplace) (ih next)

theorem fillIn_sizes (statements : List Statement) (counter : OperandValue) :
    (fillIn set labels statements counter).map Statement.size = statements.map Statement.size := by
  have hsizes : List.Forall₂ (fun s s' : Statement => s'.size = s.size) statements
      (fillIn set labels statements counter) :=
    (fillIn_laysOutAs statements counter).imp fun _ _ h => h.size
  rw [← List.forall₂_eq_eq_eq]
  exact List.forall₂_map_left_iff.2 (List.forall₂_map_right_iff.2 hsizes.flip)

theorem run_fillIn (statements : List Statement) :
    run set labels (fillIn set labels statements (.scalar 0)) = run set labels statements := by
  rw [run, run, walk_eq_trace, walk_eq_trace, trace_fillIn]

end Run

end Placement

/-- Filling in jump distances is stable. Over the statements as the second pass leaves them,
whether it placed them all or stopped part-way, every statement keeps its size, so the first
pass binds the labels as before; and the second pass, run again over them, builds the same maps,
or stops with the same failure, and fills in nothing more. -/
theorem filled_in_statements_place_alike (set : InstructionSet)
    (labels : OrderedMap String OperandValue) (statements : List Statement) :
    (Placement.fillIn set labels statements (.scalar 0)).map Statement.size =
        statements.map Statement.size ∧
      Layout.labels set (Placement.fillIn set labels statements (.scalar 0)) =
        Layout.labels set statements ∧
      Placement.run set labels (Placement.fillIn set labels statements (.scalar 0)) =
        Placement.run set labels statements ∧
      Placement.fillIn set labels (Placement.fillIn set labels statements (.scalar 0)) (.scalar 0) =
        Placement.fillIn set labels statements (.scalar 0) :=
  ⟨Placement.fillIn_sizes statements _,
    Layout.labels_congr (Placement.fillIn_laysOutAs statements _),
    Placement.run_fillIn statements,
    Placement.fillIn_fillIn statements _⟩

/-- In `loopProgram` the jump back to `START` is filled in with the distance `-3`, the byte `FD`,
and keeps its two bytes. -/
example : Placement.fillIn InstructionSet.sms32 loopLabels loopProgram (.scalar 0) =
    [loopProgram[0],
      ⟨none, "JMP", Span.empty, some 0xC0, [⟨.label, .scalar 0xFD, "START", "start", Span.empty⟩],
        [0xC0, 0xFD]⟩,
      loopProgram[2]] := by
  decide

end ByteAsm
