import Mathlib
import ByteAsm.Statement.Parse
import ByteAsm.InstructionSet.Sms32
import ByteAsm.Proofs.ScannedTokens

/-!
# The statement grammar

A program is a list of statements, each an optional label, a mnemonic of the table and the
operands of one of its forms, the last statement being the terminator (`Statement.ProgramTokens`).
Every statement list the parser returns is read from such a split of the tokens, and where the
parser's priorities never have to choose (`InstructionSet.unambiguous`), as with the SMS32
table, every such split is read (`parse_accepts_statement_grammar`).
-/

namespace ByteAsm

namespace Statement

/-! ### The grammar -/

/-- Whether a token's text opens with none of a square bracket, a double quote and a single
quote. -/
def plainText (raw : String) : Bool :=
  !raw.startsWith "[" && !raw.startsWith "\"" && !raw.startsWith "'"

/-- Whether token `t` can stand as an operand of kind `k` under the table `set`: digits, or a
plain bare word of hexadecimal digits, for a number that fits a byte; a register token naming a
register; an address of hexadecimal digits that fits a byte; an address holding a register's
name; a string of characters that fit a byte; a plain bare word of letters and underscores for
a label. -/
def Fits (set : InstructionSet) : OperandKind → Token → Prop
  | .number, t =>
    (t.kind = .digits ∨ (t.kind = .bare ∧ plainText t.raw = true ∧
      Numeral.isNumeral t.value = true)) ∧ Numeral.numeralValue t.value ≤ 0xFF
  | .register, t => t.kind = .register ∧ set.isRegister t.value = true
  | .address, t =>
    t.kind = .address ∧ Numeral.isNumeral t.value = true ∧ Numeral.numeralValue t.value ≤ 0xFF
  | .registerAddress, t => t.kind = .address ∧ set.isRegister t.value = true
  | .text, t => t.kind = .text ∧ ∀ c ∈ t.value.toList, c.toNat ≤ 0xFF
  | .label, t => t.kind = .bare ∧ plainText t.raw = true ∧ isLabelName t.value = true

/-- The tokens of a label declaration: none, or a name of letters and underscores and a
colon. -/
inductive LabelTokens : List Token → Prop
  | none : LabelTokens []
  | some {name colon : Token} : isLabelName name.value = true → colon.kind = .colon →
      LabelTokens [name, colon]

/-- The tokens of the operands of a form with operand kinds `kinds`: none, one, or two parted
by a comma. -/
inductive OperandTokens (set : InstructionSet) : List OperandKind → List Token → Prop
  | none : OperandTokens set [] []
  | one {k : OperandKind} {o : Token} : Fits set k o → OperandTokens set [k] [o]
  | two {k₁ k₂ : OperandKind} {o₁ comma o₂ : Token} : Fits set k₁ o₁ → comma.kind = .comma →
      Fits set k₂ o₂ → OperandTokens set [k₁, k₂] [o₁, comma, o₂]

/-- The tokens of one statement with mnemonic `mnemonic`: a label declaration, the mnemonic as a
bare word, and the operands of one of its forms. -/
inductive StatementTokens (set : InstructionSet) : String → List Token → Prop
  | mk {label operands : List Token} {m : Token} {forms : List Form} {form : Form} :
      LabelTokens label → m.kind = .bare → set.formsOf? m.value = some forms → form ∈ forms →
      OperandTokens set form.kinds operands → StatementTokens set m.value (label ++ m :: operands)

/-- The tokens of a program: statements one after another, the last with the terminator as its
mnemonic. -/
inductive ProgramTokens (set : InstructionSet) : List Token → Prop
  | last {ts : List Token} : StatementTokens set set.terminator ts → ProgramTokens set ts
  | cons {mnemonic : String} {ts rest : List Token} : StatementTokens set mnemonic ts →
      ProgramTokens set rest → ProgramTokens set (ts ++ rest)

/-! ### What the parser reads -/

/-- Operand `o` as read from token `t`: it keeps the token's value, text and span, the token
fits the operand's kind, and the operand holds the value the token spells. -/
structure ReadAs (set : InstructionSet) (t : Token) (o : Operand) : Prop where
  text : o.text = t.value
  raw : o.raw = t.raw
  span : o.span = t.span
  fits : Fits set o.kind t
  value : operandValue set o.kind t = .ok o.value

/-- Operands read from tokens: none from none, one from one token, two from two tokens parted by
a comma. -/
inductive OperandsRead (set : InstructionSet) : List Token → List Operand → Prop
  | none : OperandsRead set [] []
  | one {t : Token} {o : Operand} : ReadAs set t o → OperandsRead set [t] [o]
  | two {t₁ comma t₂ : Token} {o₁ o₂ : Operand} : ReadAs set t₁ o₁ → comma.kind = .comma →
      ReadAs set t₂ o₂ → OperandsRead set [t₁, comma, t₂] [o₁, o₂]

/-- Statement `s` as read from the tokens `chunk`: a label declaration, the mnemonic, and the
operands; the operands have the kinds of a form of the mnemonic, whose opcode the statement
takes, and its bytes are that opcode and the operands' values. -/
structure ReadFrom (set : InstructionSet) (s : Statement) (chunk : List Token) : Prop where
  tokens : ∃ label m operandTokens, chunk = label ++ m :: operandTokens ∧ LabelTokens label ∧
    m.kind = .bare ∧ m.value = s.mnemonic ∧ OperandsRead set operandTokens s.operands
  form : ∃ forms form, set.formsOf? s.mnemonic = some forms ∧ form ∈ forms ∧
    form.kinds = s.operands.map (·.kind) ∧ s.opcode = form.opcode
  code : s.code = assembleBytes s.opcode s.operands

theorem operandTokens_of_read {set : InstructionSet} {ts : List Token} {os : List Operand}
    (h : OperandsRead set ts os) : OperandTokens set (os.map (·.kind)) ts := by
  cases h with
  | none => exact .none
  | one ho => exact .one ho.fits
  | two h₁ hcomma h₂ => exact .two h₁.fits hcomma h₂.fits

theorem ReadFrom.statementTokens {set : InstructionSet} {s : Statement} {chunk : List Token}
    (h : ReadFrom set s chunk) : StatementTokens set s.mnemonic chunk := by
  obtain ⟨label, m, operandTokens, rfl, hlabel, hbare, hm, hread⟩ := h.tokens
  obtain ⟨forms, form, hforms, hform, hkinds, -⟩ := h.form
  rw [← hm] at hforms ⊢
  exact .mk hlabel hbare hforms hform (hkinds ▸ operandTokens_of_read hread)

/-! ### One step of the parser at a time -/

theorem ok_of_then_pure {ε α : Type} {x : Except ε Unit} {a b : α}
    (h : (x >>= fun _ => pure a) = .ok b) : x = .ok () ∧ b = a := by
  cases x with
  | error e => cases h
  | ok u => exact ⟨rfl, (Except.ok.inj h).symm⟩

theorem checkByte_ok {t : Token} (h : checkByte t = .ok ()) :
    Numeral.numeralValue t.value ≤ 0xFF := by
  unfold checkByte at h
  split at h
  · cases h
  · omega

theorem checkChars_ok {t : Token} (h : checkChars t = .ok ()) :
    ∀ c ∈ t.value.toList, c.toNat ≤ 0xFF := by
  unfold checkChars at h
  split at h
  · cases h
  · next hnone =>
    intro c hc
    rw [← List.zipIdx_map_fst 0 t.value.toList] at hc
    obtain ⟨p, hp, rfl⟩ := List.mem_map.1 hc
    have hsmall := List.find?_eq_none.1 hnone p hp
    simp only [gt_iff_lt, decide_eq_true_eq, Nat.not_lt] at hsmall
    exact hsmall

theorem checkLabel_ok {t : Token} (h : checkLabel t = .ok ()) : isLabelName t.value = true := by
  unfold checkLabel at h
  split at h
  · assumption
  · cases h

theorem isRegister_of_registerIndex {set : InstructionSet} {name : String} {i : Int}
    (h : set.registerIndex? name = some i) : set.isRegister name = true := by
  obtain ⟨r, hfind, -⟩ := Option.map_eq_some_iff.1 h
  unfold InstructionSet.isRegister
  exact List.any_eq_true.2
    ⟨r, List.mem_of_find?_eq_some hfind, List.find?_some (p := fun x : String × Int => x.fst == name) hfind⟩

theorem registerIndex_of_operandValue {set : InstructionSet} {k : OperandKind} {t : Token}
    {v : OperandValue} (hk : k = .register ∨ k = .registerAddress)
    (hv : operandValue set k t = .ok v) :
    ∃ i, set.registerIndex? t.value = some i ∧ v = .scalar i := by
  rcases hk with rfl | rfl <;>
  · simp only [operandValue] at hv
    split at hv
    · next i hi =>
      cases hv
      exact ⟨i, hi, rfl⟩
    · cases hv

theorem classify_fits {set : InstructionSet} {expected : List OperandKind} {t : Token}
    {k : OperandKind} {v : OperandValue} (h : classify set expected t = .ok k)
    (hv : operandValue set k t = .ok v) : k ∈ expected ∧ Fits set k t := by
  unfold classify at h
  split at h
  · next hkind =>
    split at h
    · next hexp =>
      obtain ⟨hbyte, rfl⟩ := ok_of_then_pure h
      exact ⟨List.contains_iff_mem.1 hexp, .inl hkind, checkByte_ok hbyte⟩
    · cases h
  · next hkind =>
    split at h
    · next hexp =>
      cases h
      obtain ⟨i, hi, -⟩ := registerIndex_of_operandValue (.inl rfl) hv
      exact ⟨List.contains_iff_mem.1 hexp, hkind, isRegister_of_registerIndex hi⟩
    · cases h
  · next hkind =>
    split at h
    · next hexp =>
      obtain ⟨hbyte, rfl⟩ := ok_of_then_pure h
      simp only [Bool.and_eq_true] at hexp
      exact ⟨List.contains_iff_mem.1 hexp.1, hkind, hexp.2, checkByte_ok hbyte⟩
    · split at h
      · next hexp =>
        split at h
        · next hreg =>
          cases h
          exact ⟨List.contains_iff_mem.1 hexp, hkind, hreg⟩
        · cases h
      · cases h
  · next hkind =>
    split at h
    · next hexp =>
      obtain ⟨hchars, rfl⟩ := ok_of_then_pure h
      exact ⟨List.contains_iff_mem.1 hexp, hkind, checkChars_ok hchars⟩
    · cases h
  · next hkind =>
    split at h
    · cases h
    split at h
    · cases h
    split at h
    · cases h
    rename_i hbracket hquote hsingle
    have hplain : plainText t.raw = true := by simp [plainText, hbracket, hquote, hsingle]
    split at h
    · next hexp =>
      obtain ⟨hbyte, rfl⟩ := ok_of_then_pure h
      simp only [Bool.and_eq_true] at hexp
      exact ⟨List.contains_iff_mem.1 hexp.1, .inr ⟨hkind, hplain, hexp.2⟩, checkByte_ok hbyte⟩
    · split at h
      · next hexp =>
        obtain ⟨hlabel, rfl⟩ := ok_of_then_pure h
        exact ⟨List.contains_iff_mem.1 hexp, hkind, hplain, checkLabel_ok hlabel⟩
      · cases h
  · cases h
  · cases h

theorem takeOperand_ok {set : InstructionSet} {stop : Span} {expected : List OperandKind}
    {ts rest : List Token} {o : Operand} (h : takeOperand set stop expected ts = .ok (o, rest)) :
    ∃ t, ts = t :: rest ∧ o.kind ∈ expected ∧ ReadAs set t o := by
  unfold takeOperand at h
  split at h
  · cases h
  · next t more =>
    split at h
    · cases h
    · next kind hkind =>
      split at h
      · cases h
      · next value hvalue =>
        cases h
        obtain ⟨hexpected, hfits⟩ := classify_fits hkind hvalue
        exact ⟨t, rfl, hexpected, ⟨rfl, rfl, rfl, hfits, hvalue⟩⟩

theorem takeComma_ok {stop : Span} {ts rest : List Token} (h : takeComma stop ts = .ok rest) :
    ∃ comma, ts = comma :: rest ∧ comma.kind = .comma := by
  unfold takeComma at h
  split at h
  · cases h
  · next comma more =>
    split at h
    · next hcomma =>
      cases h
      exact ⟨comma, rfl, hcomma⟩
    · cases h

theorem takeOperands_ok {set : InstructionSet} {stop : Span} {forms : List Form}
    {ts rest : List Token} {operands : List Operand}
    (h : takeOperands set stop forms ts = .ok (operands, rest)) :
    ∃ operandTokens, ts = operandTokens ++ rest ∧ OperandsRead set operandTokens operands := by
  unfold takeOperands at h
  dsimp only at h
  split at h
  · cases h
    exact ⟨[], rfl, .none⟩
  rcases hfirst : takeOperand set stop (firstKinds forms) ts with e | ⟨first, afterFirst⟩
  · rw [hfirst] at h
    cases h
  rw [hfirst] at h
  dsimp only at h
  obtain ⟨t₁, rfl, -, hread₁⟩ := takeOperand_ok hfirst
  split at h
  · rcases hcomma : takeComma stop afterFirst with e | afterComma
    · rw [hcomma] at h
      cases h
    rw [hcomma] at h
    dsimp only at h
    obtain ⟨comma, rfl, hkind⟩ := takeComma_ok hcomma
    rcases hsecond : takeOperand set stop (secondKinds forms first.kind) afterComma with
      e | ⟨second, rest'⟩
    · rw [hsecond] at h
      cases h
    rw [hsecond] at h
    cases h
    obtain ⟨t₂, rfl, -, hread₂⟩ := takeOperand_ok hsecond
    exact ⟨[t₁, comma, t₂], rfl, .two hread₁ hkind hread₂⟩
  · cases h
    exact ⟨[t₁], rfl, .one hread₁⟩

theorem takeLabel_ok {ts rest : List Token} {label : Option LabelDecl}
    (h : takeLabel ts = .ok (label, rest)) :
    ∃ labelTokens, ts = labelTokens ++ rest ∧ LabelTokens labelTokens := by
  unfold takeLabel at h
  split at h
  · next name colon more =>
    split at h
    · next hcolon =>
      split at h
      · next hname =>
        cases h
        exact ⟨[name, colon], rfl, .some hname hcolon⟩
      · cases h
    · cases h
      exact ⟨[], rfl, .none⟩
  · cases h
    exact ⟨[], rfl, .none⟩

theorem formsNamed_some {set : InstructionSet} {m : Token} {forms : List Form}
    (h : formsNamed set m = some forms) : m.kind = .bare ∧ set.formsOf? m.value = some forms := by
  unfold formsNamed at h
  split at h
  · next hbare => exact ⟨hbare, h⟩
  · cases h

theorem opcodeOf_ok {set : InstructionSet} {mnemonic : String} {kinds : List OperandKind}
    {opcode : Option Int} (h : set.opcodeOf mnemonic kinds = .ok opcode) :
    ∃ forms form, set.formsOf? mnemonic = some forms ∧ form ∈ forms ∧ form.kinds = kinds ∧
      opcode = form.opcode := by
  unfold InstructionSet.opcodeOf at h
  split at h
  · cases h
  · next forms hforms =>
    split at h
    · next form hfind =>
      cases h
      have hkinds := List.find?_some (p := fun f : Form => f.kinds == kinds) hfind
      exact ⟨forms, form, hforms, List.mem_of_find?_eq_some hfind, by simpa using hkinds, rfl⟩
    · cases h

/-- One statement taken by the parser is read from the tokens it consumed. -/
theorem take_ok {set : InstructionSet} {stop : Span} {ts rest : List Token} {s : Statement}
    (h : take set stop ts = .ok (s, rest)) : ∃ chunk, ts = chunk ++ rest ∧ ReadFrom set s chunk := by
  unfold take at h
  rcases hlabel : takeLabel ts with e | ⟨label, afterLabel⟩
  · rw [hlabel] at h
    cases h
  rw [hlabel] at h
  obtain ⟨labelTokens, rfl, hlabelTokens⟩ := takeLabel_ok hlabel
  rcases afterLabel with _ | ⟨m, afterMnemonic⟩
  · cases h
  dsimp only at h
  rcases hforms : formsNamed set m with _ | forms
  · rw [hforms] at h
    cases h
  rw [hforms] at h
  dsimp only at h
  obtain ⟨hbare, hformsOf⟩ := formsNamed_some hforms
  rcases hoperands : takeOperands set stop forms afterMnemonic with e | ⟨operands, rest'⟩
  · rw [hoperands] at h
    cases h
  rw [hoperands] at h
  dsimp only at h
  obtain ⟨operandTokens, rfl, hread⟩ := takeOperands_ok hoperands
  split at h
  · cases h
  · next opcode hopcode =>
    cases h
    obtain ⟨forms', form, hforms', hform, hkinds, rfl⟩ := opcodeOf_ok hopcode
    refine ⟨labelTokens ++ m :: operandTokens, by simp, ⟨?_, ?_, rfl⟩⟩
    · exact ⟨labelTokens, m, operandTokens, rfl, hlabelTokens, hbare, rfl, hread⟩
    · exact ⟨forms', form, hforms', hform, hkinds, rfl⟩

theorem takeAll_chunks {set : InstructionSet} {stop : Span} {R : Statement → List Token → Prop}
    (hR : ∀ {ts rest : List Token} {s : Statement}, take set stop ts = .ok (s, rest) →
      ∃ chunk, ts = chunk ++ rest ∧ R s chunk)
    {ts : List Token} {statements : List Statement} (h : takeAll set stop ts = .ok statements) :
    ∃ chunks, ts = chunks.flatten ∧ List.Forall₂ R statements chunks := by
  fun_induction takeAll set stop ts generalizing statements with
  | case1 =>
    cases h
    exact ⟨[], rfl, .nil⟩
  | case2 => cases h
  | case3 t more s rest htake ih =>
    rcases hrest : takeAll set stop rest with e | more'
    · rw [hrest] at h
      cases h
    rw [hrest] at h
    cases h
    obtain ⟨chunk, hts, hread⟩ := hR htake
    obtain ⟨chunks, rfl, hreads⟩ := ih hrest
    exact ⟨chunk :: chunks, by simp [hts], .cons hread hreads⟩

theorem takeAll_ok {set : InstructionSet} {stop : Span} {ts : List Token}
    {statements : List Statement} (h : takeAll set stop ts = .ok statements) :
    ∃ chunks, ts = chunks.flatten ∧ List.Forall₂ (ReadFrom set) statements chunks :=
  takeAll_chunks take_ok h

/-- A successful parse reads every statement from a piece of the tokens, in order, and ends with
the terminator. -/
theorem parse_ok {set : InstructionSet} {tokens : List Token} {statements : List Statement}
    (h : parse set tokens = .ok statements) :
    ∃ chunks, tokens = chunks.flatten ∧ List.Forall₂ (ReadFrom set) statements chunks ∧
      statements.getLast?.map (·.mnemonic) = some set.terminator := by
  unfold parse at h
  split at h
  · cases h
  · next all hall =>
    split at h
    · next hlast =>
      cases h
      obtain ⟨chunks, htokens, hreads⟩ := takeAll_ok hall
      exact ⟨chunks, htokens, hreads, hlast⟩
    · cases h

theorem exists_read_of_parse {set : InstructionSet} {tokens : List Token}
    {statements : List Statement} (h : parse set tokens = .ok statements) :
    ∀ s ∈ statements, ∃ chunk, ReadFrom set s chunk := by
  obtain ⟨chunks, -, hreads, -⟩ := parse_ok h
  clear h
  induction hreads with
  | nil => simp
  | @cons s chunk _ _ hs _ ih =>
    intro s' hmem
    rcases List.mem_cons.1 hmem with rfl | hmem
    · exact ⟨chunk, hs⟩
    · exact ih s' hmem

theorem programTokens_of_read {set : InstructionSet} {statements : List Statement}
    {chunks : List (List Token)} (h : List.Forall₂ (ReadFrom set) statements chunks)
    (hlast : statements.getLast?.map (·.mnemonic) = some set.terminator) :
    ProgramTokens set chunks.flatten := by
  induction h with
  | nil => cases hlast
  | @cons s chunk ss cs hs hrest ih =>
    cases hrest with
    | nil =>
      have hterminator : s.mnemonic = set.terminator := by simpa using hlast
      simpa [← hterminator] using ProgramTokens.last (hterminator ▸ hs.statementTokens)
    | cons hs' hrest' =>
      exact ProgramTokens.cons hs.statementTokens (ih (by simpa using hlast))

theorem programTokens_of_parse {set : InstructionSet} {tokens : List Token}
    {statements : List Statement} (h : parse set tokens = .ok statements) :
    ProgramTokens set tokens := by
  obtain ⟨chunks, rfl, hreads, hlast⟩ := parse_ok h
  exact programTokens_of_read hreads hlast

end Statement

/-! ### Tables whose priorities never choose -/

namespace InstructionSet

/-- Whether the parser's priorities never have to choose among the operand kinds `expected`:
they do not hold both a number and a label, as a bare word of hexadecimal letters such as `ABC`
is both, nor both an address and a register address while some register is named by hexadecimal
digits. -/
def distinguishes (set : InstructionSet) (expected : List OperandKind) : Bool :=
  !(expected.contains .number && expected.contains .label) &&
    !(expected.contains .address && expected.contains .registerAddress &&
      set.registers.any fun r => Numeral.isNumeral r.1)

/-- Whether no operand position of the table makes the parser choose: neither the first kinds of
a mnemonic's forms nor the second kinds after any first kind. -/
def unambiguous (set : InstructionSet) : Bool :=
  set.forms.all fun entry =>
    set.distinguishes (Statement.firstKinds entry.2) &&
      (Statement.firstKinds entry.2).all fun k =>
        set.distinguishes (Statement.secondKinds entry.2 k)

theorem mem_forms_of_formsOf? {set : InstructionSet} {mnemonic : String} {forms : List Form}
    (h : set.formsOf? mnemonic = some forms) : (mnemonic, forms) ∈ set.forms := by
  obtain ⟨entry, hfind, rfl⟩ := Option.map_eq_some_iff.1 h
  have hname : entry.1 = mnemonic := by
    simpa using List.find?_some (p := fun e : String × List Form => e.1 == mnemonic) hfind
  rw [← hname]
  exact List.mem_of_find?_eq_some hfind

theorem checkForms_lengths {mnemonic : String} {forms : List Form}
    (h : checkForms mnemonic forms = .ok ()) :
    ∀ f ∈ forms, ∀ g ∈ forms, f.kinds.length = g.kinds.length := by
  unfold checkForms at h
  split at h
  · cases h
  · next count hcount =>
    have hcounted : ∀ f ∈ forms, f.kinds.length = count := by
      intro f hf
      have hmem : f.kinds.length ∈ operandCounts forms := by
        simp only [operandCounts, List.mem_mergeSort, List.mem_eraseDups, List.mem_map]
        exact ⟨f, hf, rfl⟩
      simpa [hcount] using hmem
    intro f hf g hg
    rw [hcounted f hf, hcounted g hg]
  · cases h

theorem forIn_checkForms_ok {entries : List (String × List Form)}
    (h : (forIn entries PUnit.unit fun entry _ => match entry with
      | (mnemonic, forms) => do
        checkForms mnemonic forms
        pure (ForInStep.yield PUnit.unit)) = (Except.ok PUnit.unit : Except TableError PUnit)) :
    ∀ entry ∈ entries, checkForms entry.1 entry.2 = .ok () := by
  induction entries with
  | nil => simp
  | cons entry rest ih =>
    rw [List.forIn_cons] at h
    obtain ⟨mnemonic, forms⟩ := entry
    dsimp only at h
    rcases hforms : checkForms mnemonic forms with e | u
    · rw [hforms] at h
      cases h
    · rw [hforms] at h
      intro entry hentry
      rcases List.mem_cons.1 hentry with rfl | hentry
      · exact hforms
      · exact ih h entry hentry

theorem checkForms_of_check {set : InstructionSet} (h : set.check = .ok ()) :
    ∀ entry ∈ set.forms, checkForms entry.1 entry.2 = .ok () := by
  unfold check at h
  simp only [bind, Except.bind] at h
  split at h
  · cases h
  · next hloop => exact forIn_checkForms_ok hloop

theorem formsOf?_lengths {set : InstructionSet} {mnemonic : String} {forms : List Form}
    (h : set.check = .ok ()) (hforms : set.formsOf? mnemonic = some forms) :
    ∀ f ∈ forms, ∀ g ∈ forms, f.kinds.length = g.kinds.length :=
  checkForms_lengths (checkForms_of_check h _ (mem_forms_of_formsOf? hforms))

theorem unambiguous_formsOf? {set : InstructionSet} {mnemonic : String} {forms : List Form}
    (h : set.unambiguous = true) (hforms : set.formsOf? mnemonic = some forms) :
    set.distinguishes (Statement.firstKinds forms) = true ∧
      ∀ k ∈ Statement.firstKinds forms, set.distinguishes (Statement.secondKinds forms k) = true := by
  have hentry := List.all_eq_true.1 h _ (mem_forms_of_formsOf? hforms)
  simpa [List.all_eq_true] using hentry

theorem registerIndex_of_isRegister {set : InstructionSet} {name : String}
    (h : set.isRegister name = true) : ∃ i, set.registerIndex? name = some i := by
  unfold registerIndex?
  cases hfind : set.registers.find? (·.1 == name) with
  | none =>
    obtain ⟨r, hr, hname⟩ := List.any_eq_true.1 h
    exact absurd hname (by simpa using List.find?_eq_none.1 hfind r hr)
  | some r => exact ⟨r.2, rfl⟩

end InstructionSet

namespace Statement

/-! ### What the grammar derives, the parser reads -/

theorem mem_firstKinds {forms : List Form} {form : Form} {k : OperandKind}
    {ks : List OperandKind} (hform : form ∈ forms) (hkinds : form.kinds = k :: ks) :
    k ∈ firstKinds forms := by
  unfold firstKinds
  rw [List.mem_eraseDups]
  exact List.mem_filterMap.2 ⟨form, hform, by simp [hkinds]⟩

theorem mem_secondKinds {forms : List Form} {form : Form} {k₁ k₂ : OperandKind}
    (hform : form ∈ forms) (hkinds : form.kinds = [k₁, k₂]) : k₂ ∈ secondKinds forms k₁ := by
  unfold secondKinds
  rw [List.mem_eraseDups]
  exact List.mem_filterMap.2 ⟨form, hform, by simp [hkinds]⟩

theorem Fits.kind_ne_colon {set : InstructionSet} {k : OperandKind} {t : Token}
    (h : Fits set k t) : t.kind ≠ .colon := by
  intro hcolon
  cases k <;> simp [Fits, hcolon] at h

theorem checkByte_complete {t : Token} (h : Numeral.numeralValue t.value ≤ 0xFF) :
    checkByte t = .ok () := by
  unfold checkByte
  rw [if_neg (by omega)]

theorem checkChars_complete {t : Token} (h : ∀ c ∈ t.value.toList, c.toNat ≤ 0xFF) :
    checkChars t = .ok () := by
  unfold checkChars
  split
  · next c i hfind =>
    have hlarge := List.find?_some (p := fun p : Char × Nat => decide (p.1.toNat > 0xFF)) hfind
    have hmem : c ∈ t.value.toList := by
      have hpair := List.mem_of_find?_eq_some hfind
      rw [← List.zipIdx_map_fst 0 t.value.toList]
      exact List.mem_map.2 ⟨(c, i), hpair, rfl⟩
    have hsmall := h c hmem
    simp only [gt_iff_lt, decide_eq_true_eq] at hlarge
    omega
  · rfl

theorem checkLabel_complete {t : Token} (h : isLabelName t.value = true) : checkLabel t = .ok () := by
  simp [checkLabel, h]

theorem classify_complete {set : InstructionSet} {expected : List OperandKind} {t : Token}
    {k : OperandKind} (hfits : Fits set k t) (hk : k ∈ expected)
    (hd : set.distinguishes expected = true) : classify set expected t = .ok k := by
  simp only [InstructionSet.distinguishes, List.contains_eq_mem, Bool.not_and, Bool.and_eq_true,
    Bool.or_eq_true, Bool.not_eq_eq_eq_not, Bool.not_true, decide_eq_false_iff_not,
    List.any_eq_false, Bool.not_eq_true, Prod.forall] at hd
  cases k with
  | number =>
    obtain ⟨hkind | ⟨hkind, hplain, hnumeral⟩, hbyte⟩ := hfits
    · simp [classify, hkind, hk, checkByte_complete hbyte, bind, Except.bind, pure, Except.pure]
    · simp only [plainText, Bool.and_eq_true, Bool.not_eq_true'] at hplain
      simp [classify, hkind, hk, hplain, hnumeral, checkByte_complete hbyte, bind, Except.bind, pure, Except.pure]
  | register =>
    obtain ⟨hkind, -⟩ := hfits
    simp [classify, hkind, hk, pure, Except.pure]
  | address =>
    obtain ⟨hkind, hnumeral, hbyte⟩ := hfits
    simp [classify, hkind, hk, hnumeral, checkByte_complete hbyte, bind, Except.bind, pure, Except.pure]
  | registerAddress =>
    obtain ⟨hkind, hregister⟩ := hfits
    -- an address naming a register is read as a number only where an address is expected too,
    -- and there no register is named by hexadecimal digits
    have hnotNumeral : OperandKind.address ∈ expected → Numeral.isNumeral t.value = false := by
      intro haddress
      obtain ⟨⟨name, i⟩, hr, hname⟩ := List.any_eq_true.1 hregister
      rcases hd.2 with hnone | hnone
      · simp_all
      · have hsame : name = t.value := beq_iff_eq.1 hname
        rw [← hsame]
        exact hnone name i hr
    by_cases haddress : OperandKind.address ∈ expected
    · simp [classify, hkind, hk, hnotNumeral haddress, hregister, pure, Except.pure]
    · simp [classify, hkind, hk, haddress, hregister, pure, Except.pure]
  | text =>
    obtain ⟨hkind, hchars⟩ := hfits
    simp [classify, hkind, hk, checkChars_complete hchars, bind, Except.bind, pure, Except.pure]
  | label =>
    obtain ⟨hkind, hplain, hlabel⟩ := hfits
    simp only [plainText, Bool.and_eq_true, Bool.not_eq_true'] at hplain
    -- a bare word is read as a number first, but no number is expected beside a label
    have hnoNumber : OperandKind.number ∉ expected := by
      rcases hd.1 with hnone | hnone
      · exact hnone
      · exact absurd hk hnone
    simp [classify, hkind, hk, hplain, hnoNumber, checkLabel_complete hlabel, bind, Except.bind, pure, Except.pure]

theorem operandValue_complete {set : InstructionSet} {k : OperandKind} {t : Token}
    (h : Fits set k t) : ∃ v, operandValue set k t = .ok v := by
  cases k with
  | register | registerAddress =>
    obtain ⟨i, hi⟩ := InstructionSet.registerIndex_of_isRegister h.2
    exact ⟨.scalar i, by simp [operandValue, hi, pure, Except.pure]⟩
  | number | address | text | label => exact ⟨_, rfl⟩

theorem takeOperand_complete {set : InstructionSet} {expected : List OperandKind} {t : Token}
    {k : OperandKind} (stop : Span) (rest : List Token) (hfits : Fits set k t) (hk : k ∈ expected)
    (hd : set.distinguishes expected = true) :
    ∃ o, takeOperand set stop expected (t :: rest) = .ok (o, rest) ∧ o.kind = k := by
  obtain ⟨v, hv⟩ := operandValue_complete hfits
  exact ⟨⟨k, v, t.value, t.raw, t.span⟩, by simp [takeOperand, classify_complete hfits hk hd, hv], rfl⟩

theorem takeOperands_complete {set : InstructionSet} {forms : List Form} {form : Form}
    {operandTokens : List Token} (stop : Span) (rest : List Token) (hform : form ∈ forms)
    (hlengths : ∀ f ∈ forms, f.kinds.length = form.kinds.length)
    (hfirst : set.distinguishes (firstKinds forms) = true)
    (hsecond : ∀ k ∈ firstKinds forms, set.distinguishes (secondKinds forms k) = true)
    (h : OperandTokens set form.kinds operandTokens) :
    ∃ operands, takeOperands set stop forms (operandTokens ++ rest) = .ok (operands, rest) ∧
      operands.map (·.kind) = form.kinds := by
  have hcount : (forms.head?.map (·.kinds.length)).getD 0 = form.kinds.length := by
    cases forms with
    | nil => cases hform
    | cons f more => simp [hlengths f List.mem_cons_self]
  generalize hkinds : form.kinds = kinds at h hcount
  cases h with
  | none => exact ⟨[], by simp [takeOperands, hcount], rfl⟩
  | one hfits =>
    obtain ⟨o, ho, hkind⟩ :=
      takeOperand_complete stop rest hfits (mem_firstKinds hform hkinds) hfirst
    exact ⟨[o], by simp [takeOperands, hcount, ho], by simp [hkind]⟩
  | @two k₁ k₂ t₁ comma t₂ hfits₁ hcomma hfits₂ =>
    have hk₁ := mem_firstKinds hform hkinds
    obtain ⟨o₁, ho₁, hkind₁⟩ := takeOperand_complete stop (comma :: t₂ :: rest) hfits₁ hk₁ hfirst
    obtain ⟨o₂, ho₂, hkind₂⟩ := takeOperand_complete stop rest hfits₂
      (hkind₁ ▸ mem_secondKinds hform hkinds) (hkind₁ ▸ hsecond _ hk₁)
    refine ⟨[o₁, o₂], ?_, by simp [hkind₁, hkind₂]⟩
    simp [takeOperands, hcount, ho₁, takeComma, hcomma, ho₂]

theorem takeLabel_complete {label : List Token} {after : List Token} (m : Token)
    (h : LabelTokens label) (hnext : ∀ t ∈ after.head?, t.kind ≠ .colon) :
    ∃ decl, takeLabel (label ++ m :: after) = .ok (decl, m :: after) := by
  cases h with
  | none =>
    refine ⟨none, ?_⟩
    cases after with
    | nil => rfl
    | cons next more => simp [takeLabel, hnext next rfl]
  | @some name colon hname hcolon =>
    exact ⟨some ⟨name.value, name.span⟩, by simp [takeLabel, hcolon, hname]⟩

theorem opcodeOf_complete {set : InstructionSet} {mnemonic : String} {forms : List Form}
    {form : Form} (hforms : set.formsOf? mnemonic = some forms) (hform : form ∈ forms) :
    ∃ opcode, set.opcodeOf mnemonic form.kinds = .ok opcode := by
  unfold InstructionSet.opcodeOf
  rw [hforms]
  dsimp only
  split
  · exact ⟨_, rfl⟩
  · next hnone => exact absurd (List.find?_eq_none.1 hnone form hform) (by simp)

theorem OperandTokens.head_not_colon {set : InstructionSet} {kinds : List OperandKind}
    {operandTokens rest : List Token} (h : OperandTokens set kinds operandTokens)
    (hnext : ∀ t ∈ rest.head?, t.kind ≠ .colon) :
    ∀ t ∈ (operandTokens ++ rest).head?, t.kind ≠ .colon := by
  cases h with
  | none => exact hnext
  | one hfits => simpa using hfits.kind_ne_colon
  | two hfits₁ _ _ => simpa using hfits₁.kind_ne_colon

theorem StatementTokens.head_not_colon {set : InstructionSet} {mnemonic : String}
    {chunk : List Token} (h : StatementTokens set mnemonic chunk)
    (hcolons : ∀ t ∈ chunk, t.kind = .colon → t.value = ":") (rest : List Token) :
    ∀ t ∈ (chunk ++ rest).head?, t.kind ≠ .colon := by
  cases h with
  | mk hlabel hbare _ _ _ =>
    cases hlabel with
    | none => simp [hbare]
    | @some name colon hname _ =>
      have hnotColon : name.kind ≠ .colon := fun hcolon => by
        have hvalue := hcolons name List.mem_cons_self hcolon
        have hcolonName : isLabelName ":" = false := by cbv
        rw [hvalue, hcolonName] at hname
        cases hname
      simpa using hnotColon

theorem ProgramTokens.head_not_colon {set : InstructionSet} {ts : List Token}
    (h : ProgramTokens set ts) (hcolons : ∀ t ∈ ts, t.kind = .colon → t.value = ":") :
    ∀ t ∈ ts.head?, t.kind ≠ .colon := by
  cases h with
  | last hs => simpa using hs.head_not_colon hcolons []
  | cons hs _ => exact hs.head_not_colon (fun t ht => hcolons t (List.mem_append_left _ ht)) _

/-- A statement of the grammar is taken whole, where the next token is no colon and the table is
validated and never makes the parser choose. -/
theorem take_complete {set : InstructionSet} {mnemonic : String} {chunk : List Token}
    (stop : Span) (rest : List Token) (hset : set.check = .ok ())
    (hunambiguous : set.unambiguous = true)
    (h : StatementTokens set mnemonic chunk) (hnext : ∀ t ∈ rest.head?, t.kind ≠ .colon) :
    ∃ s, take set stop (chunk ++ rest) = .ok (s, rest) ∧ s.mnemonic = mnemonic := by
  cases h with
  | @mk label operandTokens m forms form hlabel hbare hforms hform hoperands =>
    obtain ⟨hfirst, hsecond⟩ := InstructionSet.unambiguous_formsOf? hunambiguous hforms
    have hlengths : ∀ f ∈ forms, f.kinds.length = form.kinds.length :=
      fun f hf => InstructionSet.formsOf?_lengths hset hforms f hf form hform
    obtain ⟨operands, hoperandsTaken, hkinds⟩ :=
      takeOperands_complete stop rest hform hlengths hfirst hsecond hoperands
    obtain ⟨decl, hdecl⟩ := takeLabel_complete m hlabel (hoperands.head_not_colon hnext)
    obtain ⟨opcode, hopcode⟩ := opcodeOf_complete hforms hform
    rw [← hkinds] at hopcode
    refine ⟨⟨decl, m.value, m.span, opcode, operands, assembleBytes opcode operands⟩, ?_, rfl⟩
    have hsplit : label ++ m :: operandTokens ++ rest = label ++ m :: (operandTokens ++ rest) := by
      simp
    rw [hsplit]
    unfold take
    simp [hdecl, formsNamed, hbare, hforms, hoperandsTaken, hopcode]

theorem takeAll_of_take {set : InstructionSet} {stop : Span} {ts rest : List Token}
    {s : Statement} (h : take set stop ts = .ok (s, rest)) :
    takeAll set stop ts = (takeAll set stop rest).map (s :: ·) := by
  cases ts with
  | nil => simp [take, takeLabel] at h
  | cons t more =>
    rw [takeAll]
    split
    · next e he =>
      rw [h] at he
      cases he
    · next s' rest' he =>
      rw [h] at he
      cases he
      rfl

theorem takeAll_of_take_error {set : InstructionSet} {stop : Span} {t : Token}
    {more : List Token} {e : Failure} (h : take set stop (t :: more) = .error e) :
    takeAll set stop (t :: more) = .error e := by
  rw [takeAll]
  split
  · next e' he =>
    rw [h] at he
    cases he
    rfl
  · next s rest he =>
    rw [h] at he
    cases he

/-- The statements of `ts`, taken at most `bound` times: `takeAll` in a form that evaluation can
run. -/
def takeAllBounded (set : InstructionSet) (stop : Span) :
    Nat → List Token → Except Failure (List Statement)
  | _, [] => .ok []
  | 0, _ :: _ => .ok []
  | bound + 1, t :: more =>
    match take set stop (t :: more) with
    | .error e => .error e
    | .ok (s, rest) => (takeAllBounded set stop bound rest).map (s :: ·)

theorem takeAll_eq_bounded (set : InstructionSet) (stop : Span) (ts : List Token) :
    takeAll set stop ts = takeAllBounded set stop ts.length ts := by
  suffices h : ∀ bound ts, ts.length ≤ bound →
      takeAll set stop ts = takeAllBounded set stop bound ts from h _ ts (Nat.le_refl _)
  intro bound
  induction bound with
  | zero =>
    intro ts hts
    cases ts with
    | nil =>
      rw [takeAll]
      rfl
    | cons t more => simp at hts
  | succ bound ih =>
    intro ts hts
    cases ts with
    | nil =>
      rw [takeAll]
      rfl
    | cons t more =>
      rcases htake : take set stop (t :: more) with e | ⟨s, rest⟩
      · rw [takeAll_of_take_error htake, takeAllBounded, htake]
      · have hshorter := take_length_lt htake
        have hrest : rest.length ≤ bound := by
          simp only [List.length_cons] at hts hshorter
          omega
        rw [takeAll_of_take htake, takeAllBounded, htake, ih rest hrest]

/-- The statements of the grammar are taken one after another, the last being the
terminator. -/
theorem takeAll_complete {set : InstructionSet} {ts : List Token} (stop : Span)
    (hset : set.check = .ok ()) (hunambiguous : set.unambiguous = true)
    (h : ProgramTokens set ts) (hcolons : ∀ t ∈ ts, t.kind = .colon → t.value = ":") :
    ∃ statements, takeAll set stop ts = .ok statements ∧
      statements.getLast?.map (·.mnemonic) = some set.terminator := by
  induction h with
  | @last chunk hs =>
    obtain ⟨s, htake, hmnemonic⟩ :=
      take_complete stop [] hset hunambiguous hs (by simp)
    rw [List.append_nil] at htake
    refine ⟨[s], ?_, by simp [hmnemonic]⟩
    rw [takeAll_of_take htake, takeAll]
    rfl
  | @cons mnemonic chunk rest hs hrest ih =>
    have hcolonsRest : ∀ t ∈ rest, t.kind = .colon → t.value = ":" :=
      fun t ht => hcolons t (List.mem_append_right _ ht)
    obtain ⟨s, htake, -⟩ :=
      take_complete stop rest hset hunambiguous hs (hrest.head_not_colon hcolonsRest)
    obtain ⟨statements, hall, hlast⟩ := ih hcolonsRest
    refine ⟨s :: statements, by rw [takeAll_of_take htake, hall]; rfl, ?_⟩
    cases statements with
    | nil => cases hlast
    | cons next more => simpa using hlast

theorem parse_complete {set : InstructionSet} {tokens : List Token} (hset : set.check = .ok ())
    (hunambiguous : set.unambiguous = true) (h : ProgramTokens set tokens)
    (hcolons : ∀ t ∈ tokens, t.kind = .colon → t.value = ":") :
    ∃ statements, parse set tokens = .ok statements := by
  obtain ⟨statements, hall, hlast⟩ := takeAll_complete (endOf tokens) hset hunambiguous h hcolons
  exact ⟨statements, by simp [parse, hall, hlast]⟩

theorem parse_of_take_error {set : InstructionSet} {tokens : List Token} {e : Failure}
    (h : take set (endOf tokens) tokens = .error e) : parse set tokens = .error e := by
  cases tokens with
  | nil =>
    simp only [take, takeLabel] at h
    cases h
    unfold parse
    rw [takeAll]
    rfl
  | cons t more =>
    unfold parse
    rw [takeAll_of_take_error h]

/-! ### The parser and the grammar -/

/-- The parser reads the statement grammar. Every token list it reads splits into statements of
the grammar, the last of them the terminator; and under a validated table that never makes the
parser choose, every scanned token list that so splits is read. -/
theorem parse_accepts_statement_grammar {set : InstructionSet} {source : String}
    {tokens : List Token} (hset : set.check = .ok ())
    (hscan : Token.scan set source = .ok tokens) :
    ((∃ statements, parse set tokens = .ok statements) → ProgramTokens set tokens) ∧
      (set.unambiguous = true → ProgramTokens set tokens →
        ∃ statements, parse set tokens = .ok statements) :=
  ⟨fun ⟨_, h⟩ => programTokens_of_parse h,
    fun hunambiguous h => parse_complete hset hunambiguous h (Token.colon_value_of_scan hscan)⟩

/-- A labelled instruction with two operands, then the terminator. -/
def loopSource : String := "loop: mov al, 01\nend"

/-- The tokens of `loopSource` under the SMS32 table. -/
def loopTokens : List Token := [
  ⟨.bare, "LOOP", "loop", ⟨0, 4, ⟨1, 0⟩, ⟨1, 4⟩⟩⟩,
  ⟨.colon, ":", ":", ⟨4, 5, ⟨1, 4⟩, ⟨1, 5⟩⟩⟩,
  ⟨.bare, "MOV", "mov", ⟨6, 9, ⟨1, 6⟩, ⟨1, 9⟩⟩⟩,
  ⟨.register, "AL", "al", ⟨10, 12, ⟨1, 10⟩, ⟨1, 12⟩⟩⟩,
  ⟨.comma, ",", ",", ⟨12, 13, ⟨1, 12⟩, ⟨1, 13⟩⟩⟩,
  ⟨.digits, "01", "01", ⟨14, 16, ⟨1, 14⟩, ⟨1, 16⟩⟩⟩,
  ⟨.bare, "END", "end", ⟨17, 20, ⟨2, 0⟩, ⟨2, 3⟩⟩⟩]

theorem loopSource_read_by_grammar :
    InstructionSet.sms32.check = .ok () ∧ InstructionSet.sms32.unambiguous = true ∧
      Token.scan InstructionSet.sms32 loopSource = .ok loopTokens ∧
      (((∃ statements, parse InstructionSet.sms32 loopTokens = .ok statements) →
          ProgramTokens InstructionSet.sms32 loopTokens) ∧
        (InstructionSet.sms32.unambiguous = true → ProgramTokens InstructionSet.sms32 loopTokens →
          ∃ statements, parse InstructionSet.sms32 loopTokens = .ok statements)) :=
  have hset : InstructionSet.sms32.check = .ok () := by cbv
  have hscan : Token.scan InstructionSet.sms32 loopSource = .ok loopTokens := by cbv
  ⟨hset, by cbv, hscan, parse_accepts_statement_grammar hset hscan⟩

/-- A table whose `PICK` takes a number or a label. -/
def pickTable : InstructionSet where
  forms := [("AT", [⟨[.number], none⟩]), ("PICK", [⟨[.number], some 64⟩, ⟨[.label], some 65⟩]),
    ("STOP", [⟨[], none⟩])]
  registers := [("R0", 0)]
  terminator := "STOP"
  origin := "AT"
  data := "DB"

/-- The tokens of `pick abcde` and the terminator under `pickTable`. -/
def pickTokens : List Token := [
  ⟨.bare, "PICK", "pick", ⟨0, 4, ⟨1, 0⟩, ⟨1, 4⟩⟩⟩,
  ⟨.bare, "ABCDE", "abcde", ⟨5, 10, ⟨1, 5⟩, ⟨1, 10⟩⟩⟩,
  ⟨.bare, "STOP", "stop", ⟨11, 15, ⟨2, 0⟩, ⟨2, 4⟩⟩⟩]

/-- The SMS32 table with its one register named in lower case. -/
def lowerRegisterTable : InstructionSet := { InstructionSet.sms32 with registers := [("al", 0)] }

/-- The tokens of `push al` and the terminator under `lowerRegisterTable`. -/
def pushTokens : List Token := [
  ⟨.bare, "PUSH", "push", ⟨0, 4, ⟨1, 0⟩, ⟨1, 4⟩⟩⟩,
  ⟨.register, "AL", "al", ⟨5, 7, ⟨1, 5⟩, ⟨1, 7⟩⟩⟩,
  ⟨.bare, "END", "end", ⟨8, 11, ⟨2, 0⟩, ⟨2, 3⟩⟩⟩]

/-- Two validated tables where the parser refuses a statement that splits as the grammar says.
Under `pickTable` the bare word `abcde` is a label, but the parser reads a hexadecimal word as a
number first and refuses it as too large. Under `lowerRegisterTable` the scanner finds the
register `al` whatever its case and writes it in upper case, a name the table does not know. -/
theorem parse_refuses_grammar_statements :
    (pickTable.check = .ok () ∧ Token.scan pickTable "pick abcde\nstop" = .ok pickTokens ∧
      ProgramTokens pickTable pickTokens ∧
      parse pickTable pickTokens =
        .error (.diagnostic (.numberTooLarge "ABCDE" ⟨5, 10, ⟨1, 5⟩, ⟨1, 10⟩⟩))) ∧
    (lowerRegisterTable.check = .ok () ∧
      Token.scan lowerRegisterTable "push al\nend" = .ok pushTokens ∧
      lowerRegisterTable.formsOf? "PUSH" = some [⟨[.register], some 0xE0⟩] ∧
      parse lowerRegisterTable pushTokens = .error (.unknownRegister "AL")) := by
  have hlabel : Fits pickTable .label pickTokens[1] := ⟨rfl, by cbv, by cbv⟩
  have hpick : StatementTokens pickTable "PICK" (pickTokens.take 2) :=
    @StatementTokens.mk pickTable [] [pickTokens[1]] pickTokens[0]
      [⟨[.number], some 64⟩, ⟨[.label], some 65⟩] ⟨[.label], some 65⟩ .none rfl (by cbv) (by simp)
      (.one hlabel)
  have hstop : StatementTokens pickTable pickTable.terminator (pickTokens.drop 2) :=
    @StatementTokens.mk pickTable [] [] pickTokens[2] [⟨[], none⟩] ⟨[], none⟩ .none rfl (by cbv)
      (by simp) .none
  have hpickRefused : parse pickTable pickTokens =
      .error (.diagnostic (.numberTooLarge "ABCDE" ⟨5, 10, ⟨1, 5⟩, ⟨1, 10⟩⟩)) :=
    parse_of_take_error (by cbv)
  have hpushRefused : parse lowerRegisterTable pushTokens = .error (.unknownRegister "AL") :=
    parse_of_take_error (by cbv)
  refine ⟨⟨by cbv, by cbv, ?_, hpickRefused⟩, ⟨by cbv, by cbv, by cbv, hpushRefused⟩⟩
  exact ProgramTokens.cons hpick (ProgramTokens.last hstop)

end Statement

end ByteAsm
