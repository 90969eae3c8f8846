import Mathlib
import ByteAsm.Proofs.MemoryBounds

/-!
# Where an assembly can fail

The parser fails with a diagnostic at one of its tokens or at the end of the text, at a register
token the table does not know, or at a mnemonic whose forms the table's check would refuse
(`Statement.ParseFault`). The two passes fail with a diagnostic about a statement, at an origin
directive without an operand, or where the location counter holds no address
(`Layout.CounterFrom`).
-/

namespace ByteAsm

theorem error_of_then_pure {ε α : Type} {x : Except ε Unit} {a : α} {e : ε}
    (h : (x >>= fun _ => pure a) = .error e) : x = .error e := by
  cases x with
  | error e' =>
    simp only [bind, Except.bind, Except.error.injEq] at h
    rw [h]
  | ok u => cases h

namespace InstructionSet

theorem checkForms_count {mnemonic : String} {forms : List Form}
    (h : checkForms mnemonic forms = .ok ()) :
    forms ≠ [] ∧ ∃ n ≤ 2, ∀ f ∈ forms, f.kinds.length = n := by
  unfold checkForms at h
  split at h
  · cases h
  · next count hcount =>
    split at h
    · cases h
    · next hsmall =>
      have hcounted : ∀ f ∈ forms, f.kinds.length = count := by
        intro f hf
        have hmem : f.kinds.length ∈ operandCounts forms := by
          simp only [operandCounts, List.mem_mergeSort, List.mem_eraseDups, List.mem_map]
          exact ⟨f, hf, rfl⟩
        simpa [hcount] using hmem
      refine ⟨fun hnil => ?_, count, by omega, hcounted⟩
      simp [hnil, operandCounts] at hcount
  · cases h

end InstructionSet

namespace Statement

variable {set : InstructionSet}

/-- What parsing the tokens `ts`, with missing pieces reported at `stop`, can fail with: a
diagnostic whose span is `stop` or the span of one of the tokens, and which is never a duplicate
label, the first pass's to find; a register token whose value is no register name of the table;
or a mnemonic whose forms the table's check refuses. -/
def ParseFault (set : InstructionSet) (ts : List Token) (stop : Span) : Failure → Prop
  | .diagnostic (.duplicateLabel ..) => False
  | .diagnostic d => d.span = stop ∨ ∃ t ∈ ts, d.span = t.span
  | .unknownRegister name =>
    set.registerIndex? name = none ∧ ∃ t ∈ ts, t.kind = .register ∧ t.value = name
  | .noSuchForm mnemonic =>
    ∃ forms, set.formsOf? mnemonic = some forms ∧ InstructionSet.checkForms mnemonic forms ≠ .ok ()
  | _ => False

theorem ParseFault.mono {ts ts' : List Token} {stop : Span} {f : Failure}
    (h : ParseFault set ts stop f) (hsub : ∀ t ∈ ts, t ∈ ts') : ParseFault set ts' stop f := by
  cases f with
  | diagnostic d =>
    cases d with
    | duplicateLabel => exact h.elim
    | _ =>
      rcases h with hstop | ⟨t, ht, hspan⟩
      · exact .inl hstop
      · exact .inr ⟨t, hsub t ht, hspan⟩
  | unknownRegister name =>
    obtain ⟨hnone, t, ht, hkind, hvalue⟩ := h
    exact ⟨hnone, t, hsub t ht, hkind, hvalue⟩
  | noSuchForm mnemonic => exact h
  | originWithoutOperand | advanceFrom _ | distanceFrom _ | endless => exact h

theorem checkByte_error {t : Token} {rest : List Token} {stop : Span} {f : Failure}
    (h : checkByte t = .error f) : ParseFault set (t :: rest) stop f := by
  unfold checkByte at h
  split at h
  · cases h
    exact .inr ⟨t, List.mem_cons_self, rfl⟩
  · cases h

theorem checkChars_error {t : Token} {rest : List Token} {stop : Span} {f : Failure}
    (h : checkChars t = .error f) : ParseFault set (t :: rest) stop f := by
  unfold checkChars at h
  split at h
  · cases h
    exact .inr ⟨t, List.mem_cons_self, rfl⟩
  · cases h

theorem checkLabel_error {t : Token} {rest : List Token} {stop : Span} {f : Failure}
    (h : checkLabel t = .error f) : ParseFault set (t :: rest) stop f := by
  unfold checkLabel at h
  split at h
  · cases h
  · cases h
    exact .inr ⟨t, List.mem_cons_self, rfl⟩

theorem classify_error {expected : List OperandKind} {t : Token} {rest : List Token} {stop : Span}
    {f : Failure} (h : classify set expected t = .error f) : ParseFault set (t :: rest) stop f := by
  unfold classify at h
  split at h
  · split at h
    · exact checkByte_error (error_of_then_pure h)
    · cases h
      exact .inr ⟨t, List.mem_cons_self, rfl⟩
  · split at h
    · cases h
    · cases h
      exact .inr ⟨t, List.mem_cons_self, rfl⟩
  · split at h
    · exact checkByte_error (error_of_then_pure h)
    · split at h
      · split at h
        · cases h
        · cases h
          exact .inr ⟨t, List.mem_cons_self, rfl⟩
      · cases h
        exact .inr ⟨t, List.mem_cons_self, rfl⟩
  · split at h
    · exact checkChars_error (error_of_then_pure h)
    · cases h
      exact .inr ⟨t, List.mem_cons_self, rfl⟩
  · split at h
    · cases h
      exact .inr ⟨t, List.mem_cons_self, rfl⟩
    split at h
    · cases h
      exact .inr ⟨t, List.mem_cons_self, rfl⟩
    split at h
    · cases h
      exact .inr ⟨t, List.mem_cons_self, rfl⟩
    split at h
    · exact checkByte_error (error_of_then_pure h)
    split at h
    · exact checkLabel_error (error_of_then_pure h)
    · cases h
      exact .inr ⟨t, List.mem_cons_self, rfl⟩
  · cases h
    exact .inr ⟨t, List.mem_cons_self, rfl⟩
  · cases h
    exact .inr ⟨t, List.mem_cons_self, rfl⟩

theorem classify_registers {expected : List OperandKind} {t : Token} {k : OperandKind}
    (h : classify set expected t = .ok k) :
    (k = .register → t.kind = .register) ∧ (k = .registerAddress → set.isRegister t.value = true) := by
  unfold classify at h
  split at h <;> rename_i hkind
  · split at h
    · obtain ⟨-, rfl⟩ := ok_of_then_pure h
      simp
    · cases h
  · split at h
    · cases h
      exact ⟨fun _ => hkind, by simp⟩
    · cases h
  · split at h
    · obtain ⟨-, rfl⟩ := ok_of_then_pure h
      simp
    · split at h
      · split at h
        · next hreg =>
          cases h
          exact ⟨by simp, fun _ => hreg⟩
        · cases h
      · cases h
  · split at h
    · obtain ⟨-, rfl⟩ := ok_of_then_pure h
      simp
    · cases h
  · split at h
    · cases h
    split at h
    · cases h
    split at h
    · cases h
    split at h
    · obtain ⟨-, rfl⟩ := ok_of_then_pure h
      simp
    split at h
    · obtain ⟨-, rfl⟩ := ok_of_then_pure h
      simp
    · cases h
  · cases h
  · cases h

theorem operandValue_error {k : OperandKind} {t : Token} {f : Failure}
    (h : operandValue set k t = .error f) :
    f = .unknownRegister t.value ∧ set.registerIndex? t.value = none ∧
      (k = .register ∨ k = .registerAddress) := by
  cases k with
  | register | registerAddress =>
    simp only [operandValue] at h
    split at h
    · cases h
    · next hnone =>
      cases h
      simp [hnone]
  | number | address | text | label => cases h

theorem takeOperand_error {stop : Span} {expected : List OperandKind} {ts : List Token}
    {f : Failure} (h : takeOperand set stop expected ts = .error f) : ParseFault set ts stop f := by
  unfold takeOperand at h
  split at h
  · cases h
    exact .inl rfl
  · next t rest =>
    split at h
    · next e hclassify =>
      cases h
      exact classify_error hclassify
    · next k hclassify =>
      split at h
      · next e hvalue =>
        cases h
        obtain ⟨rfl, hnone, hk⟩ := operandValue_error hvalue
        obtain ⟨hregister, haddress⟩ := classify_registers hclassify
        rcases hk with rfl | rfl
        · exact ⟨hnone, t, List.mem_cons_self, hregister rfl, rfl⟩
        · obtain ⟨i, hi⟩ := InstructionSet.registerIndex_of_isRegister (haddress rfl)
          rw [hi] at hnone
          cases hnone
      · cases h

theorem takeComma_error {stop : Span} {ts : List Token} {f : Failure}
    (h : takeComma stop ts = .error f) : ParseFault set ts stop f := by
  unfold takeComma at h
  split at h
  · cases h
    exact .inl rfl
  · split at h
    · cases h
    · cases h
      exact .inr ⟨_, List.mem_cons_self, rfl⟩

theorem takeOperands_error {stop : Span} {forms : List Form} {ts : List Token} {f : Failure}
    (h : takeOperands set stop forms ts = .error f) : ParseFault set ts stop f := by
  unfold takeOperands at h
  dsimp only at h
  split at h
  · cases h
  rcases hfirst : takeOperand set stop (firstKinds forms) ts with e | ⟨first, afterFirst⟩
  · rw [hfirst] at h
    cases h
    exact takeOperand_error hfirst
  rw [hfirst] at h
  dsimp only at h
  obtain ⟨t₁, rfl, -⟩ := takeOperand_ok hfirst
  split at h
  · rcases hcomma : takeComma stop afterFirst with e | afterComma
    · rw [hcomma] at h
      cases h
      exact (takeComma_error hcomma).mono fun t ht => List.mem_cons_of_mem _ ht
    rw [hcomma] at h
    dsimp only at h
    obtain ⟨comma, rfl, -⟩ := takeComma_ok hcomma
    rcases hsecond : takeOperand set stop (secondKinds forms first.kind) afterComma with
      e | ⟨second, rest⟩
    · rw [hsecond] at h
      cases h
      exact (takeOperand_error hsecond).mono fun t ht =>
        List.mem_cons_of_mem _ (List.mem_cons_of_mem _ ht)
    · rw [hsecond] at h
      cases h
  · cases h

theorem takeLabel_error {stop : Span} {ts : List Token} {f : Failure} (h : takeLabel ts = .error f) :
    ParseFault set ts stop f := by
  unfold takeLabel at h
  split at h
  · split at h
    · split at h
      · cases h
      · cases h
        exact .inr ⟨_, List.mem_cons_self, rfl⟩
    · cases h
  · cases h

theorem takeLabel_cases {ts rest : List Token} {label : Option LabelDecl}
    (h : takeLabel ts = .ok (label, rest)) :
    (label = none ∧ rest = ts) ∨
      ∃ name colon, ts = name :: colon :: rest ∧ colon.kind = .colon ∧
        label = some ⟨name.value, name.span⟩ := by
  unfold takeLabel at h
  split at h
  · next name colon more =>
    split at h
    · next hcolon =>
      split at h
      · cases h
        exact .inr ⟨name, colon, rfl, hcolon, rfl⟩
      · cases h
    · cases h
      exact .inl ⟨rfl, rfl⟩
  · cases h
    exact .inl ⟨rfl, rfl⟩

theorem exists_of_mem_firstKinds {forms : List Form} {k : OperandKind}
    (h : k ∈ firstKinds forms) : ∃ form ∈ forms, form.kinds.head? = some k := by
  simpa [firstKinds] using h

theorem exists_of_mem_secondKinds {forms : List Form} {first second : OperandKind}
    (h : second ∈ secondKinds forms first) :
    ∃ form ∈ forms, ∃ more, form.kinds = first :: second :: more := by
  simp only [secondKinds, List.mem_eraseDups, List.mem_filterMap] at h
  obtain ⟨form, hform, hkinds⟩ := h
  refine ⟨form, hform, ?_⟩
  split at hkinds
  · next k₁ k₂ more hmatch =>
    split at hkinds
    · next hfirst =>
      cases hkinds
      exact ⟨more, by rw [hmatch, hfirst]⟩
    · cases hkinds
  · cases hkinds

theorem takeOperands_form {mnemonic : String} {stop : Span} {forms : List Form}
    {ts rest : List Token} {operands : List Operand}
    (hcheck : InstructionSet.checkForms mnemonic forms = .ok ())
    (h : takeOperands set stop forms ts = .ok (operands, rest)) :
    ∃ form ∈ forms, form.kinds = operands.map (·.kind) := by
  obtain ⟨hnonempty, n, hn, hlengths⟩ := InstructionSet.checkForms_count hcheck
  obtain ⟨head, more, rfl⟩ := List.exists_cons_of_ne_nil hnonempty
  have hcount : ((head :: more).head?.map (·.kinds.length)).getD 0 = n := by
    simp [hlengths head List.mem_cons_self]
  unfold takeOperands at h
  dsimp only at h
  rw [hcount] at h
  split at h
  · next hzero =>
    cases h
    refine ⟨head, List.mem_cons_self, List.eq_nil_of_length_eq_zero ?_⟩
    rw [hlengths head List.mem_cons_self, hzero]
  rcases hfirst : takeOperand set stop (firstKinds (head :: more)) ts with e | ⟨first, afterFirst⟩
  · rw [hfirst] at h
    cases h
  rw [hfirst] at h
  dsimp only at h
  obtain ⟨-, -, hkind₁, -⟩ := takeOperand_ok hfirst
  split at h
  · next htwo =>
    rcases hcomma : takeComma stop afterFirst with e | afterComma
    · rw [hcomma] at h
      cases h
    rw [hcomma] at h
    dsimp only at h
    rcases hsecond : takeOperand set stop (secondKinds (head :: more) first.kind) afterComma with
      e | ⟨second, rest'⟩
    · rw [hsecond] at h
      cases h
    rw [hsecond] at h
    cases h
    obtain ⟨-, -, hkind₂, -⟩ := takeOperand_ok hsecond
    obtain ⟨form, hform, extra, hkinds⟩ := exists_of_mem_secondKinds hkind₂
    have hlength := hlengths form hform
    rw [hkinds] at hlength
    have hextra : extra = [] := List.eq_nil_of_length_eq_zero (by simp at hlength; omega)
    exact ⟨form, hform, by simp [hkinds, hextra]⟩
  · next htwo =>
    cases h
    obtain ⟨form, hform, hhead⟩ := exists_of_mem_firstKinds hkind₁
    have hlength := hlengths form hform
    cases hkinds : form.kinds with
    | nil => simp [hkinds] at hhead
    | cons k extra =>
      rw [hkinds] at hlength hhead
      have hextra : extra = [] := List.eq_nil_of_length_eq_zero (by simp at hlength; omega)
      simp only [List.head?_cons, Option.some.injEq] at hhead
      exact ⟨form, hform, by simp [hkinds, hhead, hextra]⟩

theorem take_error {stop : Span} {ts : List Token} {f : Failure}
    (h : take set stop ts = .error f) : ParseFault set ts stop f := by
  unfold take at h
  rcases hlabel : takeLabel ts with e | ⟨label, afterLabel⟩
  · rw [hlabel] at h
    cases h
    exact takeLabel_error hlabel
  rw [hlabel] at h
  obtain ⟨labelTokens, rfl, -⟩ := takeLabel_ok hlabel
  rcases afterLabel with _ | ⟨m, afterMnemonic⟩
  · cases h
    exact .inl rfl
  dsimp only at h
  have hm : m ∈ labelTokens ++ m :: afterMnemonic := by simp
  rcases hforms : formsNamed set m with _ | forms
  · rw [hforms] at h
    cases h
    exact .inr ⟨m, hm, rfl⟩
  rw [hforms] at h
  dsimp only at h
  rcases hoperands : takeOperands set stop forms afterMnemonic with e | ⟨operands, rest⟩
  · rw [hoperands] at h
    cases h
    exact (takeOperands_error hoperands).mono fun t ht => by simp [ht]
  rw [hoperands] at h
  dsimp only at h
  split at h
  · next e hopcode =>
    cases h
    obtain ⟨-, hformsOf⟩ := formsNamed_some hforms
    refine ⟨forms, hformsOf, fun hcheck => ?_⟩
    obtain ⟨form, hform, hkinds⟩ := takeOperands_form hcheck hoperands
    obtain ⟨opcode, hfound⟩ := opcodeOf_complete hformsOf hform
    rw [hkinds, hopcode] at hfound
    cases hfound
  · cases h

theorem takeAll_error {stop : Span} {ts : List Token} {f : Failure}
    (h : takeAll set stop ts = .error f) : ParseFault set ts stop f := by
  fun_induction takeAll set stop ts with
  | case1 => cases h
  | case2 t more e htake =>
    cases h
    exact take_error htake
  | case3 t more s rest htake ih =>
    rcases hrest : takeAll set stop rest with e | statements
    · rw [hrest] at h
      cases h
      obtain ⟨chunk, hsplit, -⟩ := take_ok htake
      exact (ih hrest).mono fun t ht => by rw [hsplit]; exact List.mem_append_right _ ht
    · rw [hrest] at h
      cases h

/-- Parsing fails with a fault of the tokens, a missing piece being reported after the last. -/
theorem parse_error {tokens : List Token} {f : Failure} (h : parse set tokens = .error f) :
    ParseFault set tokens (endOf tokens) f := by
  unfold parse at h
  split at h
  · next e hall =>
    cases h
    exact takeAll_error hall
  · split at h
    · cases h
    · cases h
      exact .inl rfl

end Statement

namespace Layout

variable {set : InstructionSet}

/-- Where the location counter may stand in a walk over statements of `S` that starts at an
address: at an address, or at the value an origin directive of `S` sets it to. -/
def CounterFrom (set : InstructionSet) (S : List Statement) (c : OperandValue) : Prop :=
  (∃ a, c = .scalar a) ∨ ∃ s ∈ S, s.mnemonic = set.origin ∧ s.originTarget = .ok c

theorem advance_counterFrom {S : List Statement} {s : Statement} {counter next : OperandValue}
    (hs : s ∈ S) (h : advance set s counter = .ok next) : CounterFrom set S next := by
  unfold advance at h
  split at h
  · next horigin => exact .inr ⟨s, hs, horigin, h⟩
  · split at h
    · cases h
      exact .inl ⟨_, rfl⟩
    · cases h

theorem advance_error {s : Statement} {counter : OperandValue} {f : Failure}
    (h : advance set s counter = .error f) :
    (s.mnemonic = set.origin ∧ s.operands = [] ∧ f = .originWithoutOperand) ∨
      ((∀ a, counter ≠ .scalar a) ∧ f = .advanceFrom counter.kind) := by
  unfold advance at h
  split at h
  · next horigin =>
    unfold Statement.originTarget at h
    split at h
    · next hnil =>
      cases h
      exact .inl ⟨horigin, hnil, rfl⟩
    · cases h
  · split at h
    · cases h
    · next other hother =>
      cases h
      exact .inr ⟨hother, rfl⟩

theorem bindLabel_error {labels : OrderedMap String OperandValue} {declared : List (String × Span)}
    {s : Statement} {counter : OperandValue} {f : Failure}
    (h : bindLabel labels declared s counter = .error f) :
    ∃ l first, s.label = some l ∧ declared.lookup l.name = some first ∧
      f = .diagnostic (.duplicateLabel l.name l.span first) := by
  unfold bindLabel at h
  split at h
  · cases h
  · next l hl =>
    split at h
    · next first hfirst =>
      cases h
      exact ⟨l, first, hl, hfirst, rfl⟩
    · cases h

theorem walk_cons_error {s : Statement} {rest : List Statement}
    {labels : OrderedMap String OperandValue} {declared : List (String × Span)}
    {counter : OperandValue} {f : Failure}
    (h : walk set (s :: rest) labels declared counter = .error f) :
    bindLabel labels declared s counter = .error f ∨ advance set s counter = .error f ∨
      (rest ≠ [] ∧ f = .diagnostic (.outOfMemory s.span)) ∨
      ∃ labels' declared' next, bindLabel labels declared s counter = .ok (labels', declared') ∧
        advance set s counter = .ok next ∧ walk set rest labels' declared' next = .error f := by
  unfold walk at h
  rcases hbind : bindLabel labels declared s counter with f' | ⟨labels', declared'⟩
  · rw [hbind] at h
    cases h
    exact .inl rfl
  rw [hbind] at h
  dsimp only at h
  by_cases horigin : s.mnemonic = set.origin
  · rw [if_pos horigin] at h
    have hadvance : advance set s counter = s.originTarget := by
      unfold advance
      rw [if_pos horigin]
    rcases htarget : s.originTarget with f' | target
    · rw [htarget] at h
      cases h
      exact .inr (.inl (hadvance.trans htarget))
    · rw [htarget] at h
      exact .inr (.inr (.inr ⟨labels', declared', target, rfl, hadvance.trans htarget, h⟩))
  · rw [if_neg horigin] at h
    rcases counter with a | cs | _
    · dsimp only at h
      have hadvance : advance set s (.scalar a) = .ok (.scalar (a + s.size)) := by
        unfold advance
        rw [if_neg horigin]
      split at h
      · next hbound =>
        cases h
        have hrest : rest ≠ [] := by
          rintro rfl
          simp at hbound
        exact .inr (.inr (.inl ⟨hrest, rfl⟩))
      · exact .inr (.inr (.inr ⟨labels', declared', _, rfl, hadvance, h⟩))
    all_goals
      cases h
      refine .inr (.inl ?_)
      unfold advance
      rw [if_neg horigin]

/-- What the first pass over statements of `S` can fail with: a label declared twice, a statement
that would end beyond memory, an origin directive without operands, or a statement that takes
room where the counter holds a value that is no address. -/
def Fault (set : InstructionSet) (S : List Statement) : Failure → Prop
  | .diagnostic (.duplicateLabel name span _) =>
    ∃ s ∈ S, ∃ l, s.label = some l ∧ l.name = name ∧ l.span = span
  | .diagnostic (.outOfMemory span) => ∃ s ∈ S, s.span = span
  | .diagnostic _ => False
  | .originWithoutOperand => ∃ s ∈ S, s.mnemonic = set.origin ∧ s.operands = []
  | .advanceFrom k => ∃ c, CounterFrom set S c ∧ c.kind = k ∧ ∀ a, c ≠ .scalar a
  | _ => False

theorem advance_fault {S : List Statement} {s : Statement} {counter : OperandValue} {f : Failure}
    (hs : s ∈ S) (hc : CounterFrom set S counter) (h : advance set s counter = .error f) :
    Fault set S f := by
  rcases advance_error h with ⟨horigin, hnil, rfl⟩ | ⟨hne, rfl⟩
  · exact ⟨s, hs, horigin, hnil⟩
  · exact ⟨counter, hc, rfl, hne⟩

/-- The first pass over statements of `S`, from a counter where `CounterFrom` says, fails with a
fault. The induction follows the walk, the counter staying where `CounterFrom` says. -/
theorem walk_error {S statements : List Statement} {labels : OrderedMap String OperandValue}
    {declared : List (String × Span)} {counter : OperandValue} {f : Failure}
    (h : walk set statements labels declared counter = .error f)
    (hS : ∀ s ∈ statements, s ∈ S) (hc : CounterFrom set S counter) : Fault set S f := by
  induction statements generalizing labels declared counter with
  | nil => cases h
  | cons s rest ih =>
    have hs := hS s List.mem_cons_self
    rcases walk_cons_error h with hbind | hadvance | ⟨-, rfl⟩ | ⟨labels', declared', next, -, hnext, hrest⟩
    · obtain ⟨l, first, hl, -, rfl⟩ := bindLabel_error hbind
      exact ⟨s, hs, l, hl, rfl, rfl⟩
    · exact advance_fault hs hc hadvance
    · exact ⟨s, hs, rfl⟩
    · exact ih hrest (fun s' hs' => hS s' (List.mem_cons_of_mem _ hs'))
        (advance_counterFrom hs hnext)

theorem labels_error {statements : List Statement} {f : Failure}
    (h : labels set statements = .error f) : Fault set statements f :=
  walk_error h (fun _ hs => hs) (.inl ⟨0, rfl⟩)

theorem counters_counterFrom {S statements : List Statement} {counter : OperandValue}
    {cs : List OperandValue} (h : counters set statements counter = .ok cs)
    (hS : ∀ s ∈ statements, s ∈ S) (hc : CounterFrom set S counter) :
    ∀ c ∈ cs, CounterFrom set S c := by
  induction statements generalizing counter cs with
  | nil =>
    cases h
    simp
  | cons s rest ih =>
    simp only [counters] at h
    rcases hnext : advance set s counter with f | next
    · rw [hnext] at h
      cases h
    rw [hnext] at h
    dsimp only at h
    rcases hmore : counters set rest next with f | more
    · rw [hmore] at h
      cases h
    rw [hmore] at h
    cases h
    intro c hmem
    rcases List.mem_cons.1 hmem with rfl | hmem
    · exact hc
    · exact ih hmore (fun s' hs' => hS s' (List.mem_cons_of_mem _ hs'))
        (advance_counterFrom (hS s List.mem_cons_self) hnext) c hmem

theorem labels_counterFrom {statements : List Statement} {L : OrderedMap String OperandValue}
    (h : labels set statements = .ok L) {name : String} {v : OperandValue}
    (hv : L.get? name = some v) : CounterFrom set statements v := by
  obtain ⟨cs, hcs, hentries, -⟩ := walk_entries h (by rfl) List.nodup_nil
  have hmem : (name, v) ∈ labelled statements cs := by
    have hentry := OrderedMap.mem_entries_of_get? hv
    simpa [hentries, OrderedMap.empty] using hentry
  exact counters_counterFrom hcs (fun _ hs => hs) (.inl ⟨0, rfl⟩) v
    (value_mem_of_labelled hmem)

theorem walk_duplicate {statements : List Statement} {labels : OrderedMap String OperandValue}
    {declared : List (String × Span)} {counter : OperandValue} {name : String} {span first : Span}
    (h : walk set statements labels declared counter =
      .error (.diagnostic (.duplicateLabel name span first)))
    (hnodup : (declared.map Prod.fst).Nodup) :
    ∃ pre l post, statements.filterMap (·.label) = pre ++ l :: post ∧ l = ⟨name, span⟩ ∧
      ((declared ++ pre.map fun l => (l.name, l.span)).map Prod.fst).Nodup ∧
      (declared ++ pre.map fun l => (l.name, l.span)).lookup name = some first := by
  induction statements generalizing labels declared counter with
  | nil => cases h
  | cons s rest ih =>
    rcases walk_cons_error h with hbind | hadvance | ⟨-, hmemory⟩ |
      ⟨labels', declared', next, hbind, -, hrest⟩
    · obtain ⟨l, first', hl, hfirst, hdup⟩ := bindLabel_error hbind
      cases hdup
      exact ⟨[], l, rest.filterMap (·.label), by simp [hl], rfl, by simpa using hnodup,
        by simpa using hfirst⟩
    · rcases advance_error hadvance with ⟨-, -, hf⟩ | ⟨-, hf⟩ <;> cases hf
    · cases hmemory
    · rcases bindLabel_ok hbind with ⟨hl, -, rfl⟩ | ⟨l', hl, hfresh, -, rfl⟩
      · obtain ⟨pre, l, post, hlabels, hl', hnd, hlookup⟩ := ih hrest hnodup
        exact ⟨pre, l, post, by simp [hl, hlabels], hl', hnd, hlookup⟩
      · have hnodup' : ((declared ++ [(l'.name, l'.span)]).map Prod.fst).Nodup := by
          have hfresh' : l'.name ∉ declared.map Prod.fst := by
            intro hmem
            obtain ⟨p, hp, hname⟩ := List.mem_map.1 hmem
            have hdiffers := List.lookup_eq_none_iff.1 hfresh p hp
            simp [hname] at hdiffers
          rw [List.map_append, List.nodup_append_comm]
          exact List.nodup_cons.2 ⟨hfresh', hnodup⟩
        obtain ⟨pre, l, post, hlabels, hl', hnd, hlookup⟩ := ih hrest hnodup'
        refine ⟨l' :: pre, l, post, by simp [hl, hlabels], hl', ?_, ?_⟩
        · simpa using hnd
        · simpa using hlookup

end Layout

namespace Placement

variable {set : InstructionSet} {labels : OrderedMap String OperandValue}

theorem resolve_error {start : Int} {s : Statement} {f : Failure}
    (h : resolve labels start s = .error f) :
    ∃ o others, s.operands = o :: others ∧
      ((labels.get? o.text = none ∧ ∃ similar, f = .diagnostic (.unknownLabel o.text o.span similar)) ∨
        (∃ d, f = .diagnostic (.jumpTooFar o.text d o.span)) ∨
        ∃ v, labels.get? o.text = some v ∧ (∀ a, v ≠ .scalar a) ∧ f = .distanceFrom v.kind) := by
  unfold resolve at h
  split at h
  · cases h
  · next o others hcons =>
    refine ⟨o, others, hcons, ?_⟩
    split at h
    · next hnone =>
      cases h
      exact .inl ⟨hnone, _, rfl⟩
    · dsimp only at h
      split at h
      · cases h
        exact .inr (.inl ⟨_, rfl⟩)
      · cases h
    · next v hv hne =>
      cases h
      exact .inr (.inr ⟨v, hne, fun a heq => hv a (heq ▸ rfl), rfl⟩)

theorem place_error {s : Statement} {counter : OperandValue} {f : Failure}
    (h : place set labels s counter = .error f) :
    Layout.advance set s counter = .error f ∨
      ∃ start, counter = .scalar start ∧ resolve labels start s = .error f := by
  unfold place at h
  by_cases horigin : s.mnemonic = set.origin
  · rw [if_pos horigin] at h
    refine .inl ?_
    unfold Layout.advance
    rw [if_pos horigin]
    split at h
    · next f' htarget =>
      cases h
      exact htarget
    · cases h
  · rw [if_neg horigin] at h
    rcases counter with start | cs | _
    · dsimp only at h
      split at h
      · next f' hres =>
        cases h
        split at hres
        · exact .inr ⟨start, rfl, hres⟩
        · cases hres
      · cases h
    all_goals
      cases h
      refine .inl ?_
      unfold Layout.advance
      rw [if_neg horigin]

/-- What the second pass over statements of `S` can fail with: a jump to a label that is not
declared, or too far away; an origin directive without operands; a statement that takes room
where the counter holds no address; or a jump to a label bound where the counter held no
address. -/
def Fault (set : InstructionSet) (labels : OrderedMap String OperandValue) (S : List Statement) :
    Failure → Prop
  | .diagnostic (.unknownLabel name span _) =>
    labels.get? name = none ∧ ∃ s ∈ S, ∃ o ∈ s.operands.head?, o.text = name ∧ o.span = span
  | .diagnostic (.jumpTooFar name _ span) =>
    ∃ s ∈ S, ∃ o ∈ s.operands.head?, o.text = name ∧ o.span = span
  | .diagnostic _ => False
  | .originWithoutOperand => ∃ s ∈ S, s.mnemonic = set.origin ∧ s.operands = []
  | .advanceFrom k => ∃ c, Layout.CounterFrom set S c ∧ c.kind = k ∧ ∀ a, c ≠ .scalar a
  | .distanceFrom k => ∃ name v, labels.get? name = some v ∧ v.kind = k ∧ ∀ a, v ≠ .scalar a
  | _ => False

theorem place_fault {S : List Statement} {s : Statement} {counter : OperandValue} {f : Failure}
    (hs : s ∈ S) (hc : Layout.CounterFrom set S counter) (h : place set labels s counter = .error f) :
    Fault set labels S f := by
  rcases place_error h with hadvance | ⟨start, -, hres⟩
  · rcases Layout.advance_error hadvance with ⟨horigin, hnil, rfl⟩ | ⟨hne, rfl⟩
    · exact ⟨s, hs, horigin, hnil⟩
    · exact ⟨counter, hc, rfl, hne⟩
  · obtain ⟨o, others, hcons, hcases⟩ := resolve_error hres
    have ho : o ∈ s.operands.head? := by simp [hcons]
    rcases hcases with ⟨hnone, similar, rfl⟩ | ⟨d, rfl⟩ | ⟨v, hv, hne, rfl⟩
    · exact ⟨hnone, s, hs, o, ho, rfl, rfl⟩
    · exact ⟨s, hs, o, ho, rfl, rfl⟩
    · exact ⟨o.text, v, hv, rfl, hne⟩

/-- The second pass over statements of `S`, from a counter where `CounterFrom` says, fails with a
fault. -/
theorem trace_error {S statements : List Statement} {counter : OperandValue} {f : Failure}
    (h : trace set labels statements counter = .error f) (hS : ∀ s ∈ statements, s ∈ S)
    (hc : Layout.CounterFrom set S counter) : Fault set labels S f := by
  induction statements generalizing counter with
  | nil => cases h
  | cons s rest ih =>
    have hs := hS s List.mem_cons_self
    simp only [trace] at h
    rcases hplace : place set labels s counter with f' | ⟨s', next⟩
    · rw [hplace] at h
      cases h
      exact place_fault hs hc hplace
    rw [hplace] at h
    dsimp only at h
    rcases hrest : trace set labels rest next with f' | more
    · rw [hrest] at h
      cases h
      exact ih hrest (fun s' hs' => hS s' (List.mem_cons_of_mem _ hs'))
        (Layout.advance_counterFrom hs (place_advance hplace))
    · rw [hrest] at h
      cases h

theorem run_error {statements : List Statement} {f : Failure}
    (h : run set labels statements = .error f) : Fault set labels statements f := by
  rw [run, walk_eq_trace] at h
  rcases htrace : trace set labels statements (.scalar 0) with f' | steps
  · rw [htrace] at h
    cases h
    exact trace_error htrace (fun _ hs => hs) (.inl ⟨0, rfl⟩)
  · rw [htrace] at h
    cases h

end Placement

end ByteAsm
