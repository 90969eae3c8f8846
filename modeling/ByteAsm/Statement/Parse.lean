import ByteAsm.Statement
import ByteAsm.Token
import ByteAsm.Failure
import ByteAsm.Numeral

/-!
# Parsing tokens into statements

A statement is an optional label (a token of letters and underscores, then a colon), a mnemonic
of the table, and as many operands as its forms take, separated by a comma; the second operand's
kinds are those of the forms whose first kind the first operand has. Digits and hexadecimal bare
words are numbers, other bare words labels, register names registers, and addresses of
hexadecimal digits or of a register name addresses or register addresses; numbers, addresses and
string codes must fit in a byte. The last statement must be the terminator, and parsing stops at
the first error.
-/

namespace ByteAsm

namespace Statement

/-- Whether `name` is a label name: one or more upper-case letters and underscores. -/
def isLabelName (name : String) : Bool :=
  !name.isEmpty && name.all (fun c => ('A' ≤ c && c ≤ 'Z') || c == '_')

/-- The empty span after the last token, where a missing piece is reported. -/
def endOf (tokens : List Token) : Span :=
  match tokens.getLast? with
  | some t => t.span.atEnd
  | none => Span.empty

/-- The kinds of operand the forms allow first, each once, in the order of the forms. -/
def firstKinds (forms : List Form) : List OperandKind :=
  (forms.filterMap (·.kinds.head?)).eraseDups

/-- The kinds of operand the forms allow second after a first operand of kind `first`. -/
def secondKinds (forms : List Form) (first : OperandKind) : List OperandKind :=
  (forms.filterMap fun f => match f.kinds with
    | k₁ :: k₂ :: _ => if k₁ = first then some k₂ else none
    | _ => none).eraseDups

/-- Check that the number of a token fits in a byte. -/
def checkByte (t : Token) : Except Failure Unit :=
  if Numeral.numeralValue t.value > 0xFF then .error (.diagnostic (.numberTooLarge t.value t.span))
  else .ok ()

/-- Check that every character code of a string fits in a byte. -/
def checkChars (t : Token) : Except Failure Unit :=
  match (t.value.toList.zipIdx).find? (fun (c, _) => c.toNat > 0xFF) with
  | some (c, i) => .error (.diagnostic (.charTooLarge c i t.span))
  | none => .ok ()

/-- Check that a token's value is a label name. -/
def checkLabel (t : Token) : Except Failure Unit :=
  if isLabelName t.value then .ok () else .error (.diagnostic (.badLabel t.value t.span))

/-- The kind of operand that token `t` is, among the `expected` kinds. -/
def classify (set : InstructionSet) (expected : List OperandKind) (t : Token) :
    Except Failure OperandKind :=
  let wrong : Except Failure OperandKind := .error (.diagnostic (.wrongOperand t.raw expected t.span))
  match t.kind with
  | .digits => if expected.contains .number then do checkByte t; pure .number else wrong
  | .register => if expected.contains .register then pure .register else wrong
  | .address =>
    if expected.contains .address && Numeral.isNumeral t.value then do checkByte t; pure .address
    else if expected.contains .registerAddress then
      if set.isRegister t.value then pure .registerAddress
      else .error (.diagnostic (.badAddress t.raw t.span))
    else wrong
  | .text => if expected.contains .text then do checkChars t; pure .text else wrong
  | .bare =>
    if t.raw.startsWith "[" then .error (.diagnostic (.unterminatedAddress t.raw t.span))
    else if t.raw.startsWith "\"" then .error (.diagnostic (.unterminatedString t.raw t.span))
    else if t.raw.startsWith "'" then .error (.diagnostic (.singleQuote t.raw t.span))
    else if expected.contains .number && Numeral.isNumeral t.value then do checkByte t; pure .number
    else if expected.contains .label then do checkLabel t; pure .label
    else wrong
  | .comma | .colon => wrong

/-- The value of an operand of kind `kind` written as token `t`. -/
def operandValue (set : InstructionSet) (kind : OperandKind) (t : Token) :
    Except Failure OperandValue :=
  match kind with
  | .number | .address => pure (.scalar (Numeral.numeralValue t.value))
  | .register | .registerAddress =>
    match set.registerIndex? t.value with
    | some i => pure (.scalar i)
    | none => .error (.unknownRegister t.value)
  | .text => pure (.codes (t.value.toList.map Char.toNat))
  | .label => pure .pending

/-- Take an operand of one of the `expected` kinds from the head of `ts`. -/
def takeOperand (set : InstructionSet) (stop : Span) (expected : List OperandKind) :
    List Token → Except Failure (Operand × List Token)
  | [] => .error (.diagnostic (.missingEnd stop))
  | t :: rest =>
    match classify set expected t with
    | .error e => .error e
    | .ok kind =>
      match operandValue set kind t with
      | .error e => .error e
      | .ok value => .ok (⟨kind, value, t.value, t.raw, t.span⟩, rest)

/-- Take the comma between two operands from the head of `ts`. -/
def takeComma (stop : Span) : List Token → Except Failure (List Token)
  | [] => .error (.diagnostic (.missingEnd stop))
  | t :: rest =>
    if t.kind = .comma then .ok rest else .error (.diagnostic (.missingComma t.raw t.span))

/-- Take the operands of a mnemonic with the given forms from the head of `ts`: none, one, or two
separated by a comma, as many as the first form takes. -/
def takeOperands (set : InstructionSet) (stop : Span) (forms : List Form) (ts : List Token) :
    Except Failure (List Operand × List Token) :=
  let count := (forms.head?.map (·.kinds.length)).getD 0
  if count = 0 then .ok ([], ts)
  else
    match takeOperand set stop (firstKinds forms) ts with
    | .error e => .error e
    | .ok (first, afterFirst) =>
      if count = 2 then
        match takeComma stop afterFirst with
        | .error e => .error e
        | .ok afterComma =>
          match takeOperand set stop (secondKinds forms first.kind) afterComma with
          | .error e => .error e
          | .ok (second, rest) => .ok ([first, second], rest)
      else .ok ([first], afterFirst)

/-- Take a label declaration from the head of `ts`, if a colon follows its first token. -/
def takeLabel : List Token → Except Failure (Option LabelDecl × List Token)
  | t :: colon :: rest =>
    if colon.kind = .colon then
      if isLabelName t.value then .ok (some ⟨t.value, t.span⟩, rest)
      else .error (.diagnostic (.badLabel t.value t.span))
    else .ok (none, t :: colon :: rest)
  | ts => .ok (none, ts)

/-- The forms of the mnemonic that token `m` names, if it is a bare word naming one. -/
def formsNamed (set : InstructionSet) (m : Token) : Option (List Form) :=
  if m.kind = .bare then set.formsOf? m.value else none

/-- Take one statement from the head of `ts`; `stop` is where a missing piece is reported. -/
def take (set : InstructionSet) (stop : Span) (ts : List Token) :
    Except Failure (Statement × List Token) :=
  match takeLabel ts with
  | .error e => .error e
  | .ok (_, []) => .error (.diagnostic (.missingEnd stop))
  | .ok (label, m :: afterMnemonic) =>
    match formsNamed set m with
    | none => .error (.diagnostic (.noInstruction m.raw m.span label.isSome))
    | some forms =>
      match takeOperands set stop forms afterMnemonic with
      | .error e => .error e
      | .ok (operands, rest) =>
        match set.opcodeOf m.value (operands.map (·.kind)) with
        | .error _ => .error (.noSuchForm m.value)
        | .ok opcode =>
          .ok (⟨label, m.value, m.span, opcode, operands, assembleBytes opcode operands⟩, rest)

/-! ### The rest never grows -/

theorem takeOperand_length_lt {set : InstructionSet} {stop : Span} {expected : List OperandKind}
    {ts rest : List Token} {o : Operand} (h : takeOperand set stop expected ts = .ok (o, rest)) :
    rest.length < ts.length := by
  unfold takeOperand at h
  split at h
  · simp at h
  · split at h
    · simp at h
    · split at h
      · simp at h
      · obtain ⟨-, rfl⟩ := Prod.mk.inj (Except.ok.inj h)
        simp

theorem takeComma_length_lt {stop : Span} {ts rest : List Token}
    (h : takeComma stop ts = .ok rest) : rest.length < ts.length := by
  unfold takeComma at h
  split at h
  · simp at h
  · split at h
    · cases Except.ok.inj h
      simp
    · simp at h

theorem takeOperands_length_le {set : InstructionSet} {stop : Span} {forms : List Form}
    {ts rest : List Token} {os : List Operand}
    (h : takeOperands set stop forms ts = .ok (os, rest)) : rest.length ≤ ts.length := by
  unfold takeOperands at h
  dsimp only at h
  by_cases hc : (forms.head?.map (·.kinds.length)).getD 0 = 0
  · rw [if_pos hc] at h
    obtain ⟨-, rfl⟩ := Prod.mk.inj (Except.ok.inj h)
    exact Nat.le_refl _
  · rw [if_neg hc] at h
    cases hFirst : takeOperand set stop (firstKinds forms) ts with
    | error e => rw [hFirst] at h; simp at h
    | ok p =>
      obtain ⟨first, afterFirst⟩ := p
      have h₁ := takeOperand_length_lt hFirst
      rw [hFirst] at h
      dsimp only at h
      by_cases h2 : (forms.head?.map (·.kinds.length)).getD 0 = 2
      · rw [if_pos h2] at h
        cases hComma : takeComma stop afterFirst with
        | error e => rw [hComma] at h; simp at h
        | ok afterComma =>
          have h₂ := takeComma_length_lt hComma
          rw [hComma] at h
          dsimp only at h
          cases hSecond : takeOperand set stop (secondKinds forms first.kind) afterComma with
          | error e => rw [hSecond] at h; simp at h
          | ok q =>
            obtain ⟨second, rest'⟩ := q
            have h₃ := takeOperand_length_lt hSecond
            rw [hSecond] at h
            obtain ⟨-, rfl⟩ := Prod.mk.inj (Except.ok.inj h)
            omega
      · rw [if_neg h2] at h
        obtain ⟨-, rfl⟩ := Prod.mk.inj (Except.ok.inj h)
        omega

theorem takeLabel_length_le {ts rest : List Token} {label : Option LabelDecl}
    (h : takeLabel ts = .ok (label, rest)) : rest.length ≤ ts.length := by
  unfold takeLabel at h
  split at h
  · rename_i t colon more
    by_cases hc : colon.kind = .colon
    · rw [if_pos hc] at h
      by_cases hl : isLabelName t.value = true
      · rw [if_pos hl] at h
        obtain ⟨-, rfl⟩ := Prod.mk.inj (Except.ok.inj h)
        simp only [List.length_cons]
        omega
      · rw [if_neg hl] at h
        simp at h
    · rw [if_neg hc] at h
      obtain ⟨-, rfl⟩ := Prod.mk.inj (Except.ok.inj h)
      exact Nat.le_refl _
  · obtain ⟨-, rfl⟩ := Prod.mk.inj (Except.ok.inj h)
    exact Nat.le_refl _

theorem take_length_lt {set : InstructionSet} {stop : Span} {ts rest : List Token} {s : Statement}
    (h : take set stop ts = .ok (s, rest)) : rest.length < ts.length := by
  unfold take at h
  cases hLabel : takeLabel ts with
  | error e => rw [hLabel] at h; simp at h
  | ok p =>
    obtain ⟨label, afterLabel⟩ := p
    have h₁ := takeLabel_length_le hLabel
    rw [hLabel] at h
    match afterLabel, h₁, h with
    | [], _, h => simp at h
    | m :: afterMnemonic, h₁, h =>
      dsimp only at h
      cases hForms : formsNamed set m with
      | none => rw [hForms] at h; simp at h
      | some forms =>
        rw [hForms] at h
        dsimp only at h
        cases hOperands : takeOperands set stop forms afterMnemonic with
        | error e => rw [hOperands] at h; simp at h
        | ok q =>
          obtain ⟨operands, rest'⟩ := q
          have h₂ := takeOperands_length_le hOperands
          rw [hOperands] at h
          dsimp only at h
          split at h
          · simp at h
          · obtain ⟨-, rfl⟩ := Prod.mk.inj (Except.ok.inj h)
            simp only [List.length_cons] at h₁
            omega

/-- The statements of `ts`, taken one after another. -/
def takeAll (set : InstructionSet) (stop : Span) (ts : List Token) :
    Except Failure (List Statement) :=
  match ts with
  | [] => .ok []
  | t :: more =>
    match _h : take set stop (t :: more) with
    | .error e => .error e
    | .ok (s, rest) => (takeAll set stop rest).map (s :: ·)
termination_by ts.length
decreasing_by exact take_length_lt _h

/-- The statements of a program's tokens, which must end with the terminator. -/
def parse (set : InstructionSet) (tokens : List Token) : Except Failure (List Statement) :=
  match takeAll set (endOf tokens) tokens with
  | .error e => .error e
  | .ok statements =>
    if (statements.getLast?.map (·.mnemonic)) = some set.terminator then .ok statements
    else .error (.diagnostic (.missingEnd (endOf tokens)))

end Statement

end ByteAsm
