import Mathlib
import ByteAsm.Proofs.FailureSites

/-!
# The text as written is read only for messages

Rewriting the text as written of every token, in a way that keeps what it opens, changes a parse
only in the text that operands and diagnostics quote (`Statement.parse_rewrite`), and nothing in
what the two passes make of the statements, so the two sources assemble alike
(`Assembly.assemble_rewrite`).
-/

namespace ByteAsm

/-- The token with its text as written replaced by `g` of it. -/
def Token.rewrite (g : String → String) (t : Token) : Token := { t with raw := g t.raw }

/-- The operand with its text as written replaced by `g` of it. -/
def Operand.rewrite (g : String → String) (o : Operand) : Operand := { o with raw := g o.raw }

/-- The statement with the text of its operands as written replaced by `g` of it. -/
def Statement.rewrite (g : String → String) (s : Statement) : Statement :=
  { s with operands := s.operands.map (Operand.rewrite g) }

namespace Diagnostic

/-- The diagnostic with the text as written that it quotes replaced by `g` of it, and the
character it could not read by `h` of it. -/
def rewrite (g : String → String) (h : Char → Char) : Diagnostic → Diagnostic
  | unexpectedChar c s => unexpectedChar (h c) s
  | unterminatedAddress raw s => unterminatedAddress (g raw) s
  | unterminatedString raw s => unterminatedString (g raw) s
  | singleQuote raw s => singleQuote (g raw) s
  | noInstruction raw s afterLabel => noInstruction (g raw) s afterLabel
  | missingComma raw s => missingComma (g raw) s
  | wrongOperand raw kinds s => wrongOperand (g raw) kinds s
  | badAddress raw s => badAddress (g raw) s
  | d => d

/-- Rewriting what a diagnostic quotes keeps its kind. -/
@[simp] theorem kindName_rewrite (g : String → String) (h : Char → Char) (d : Diagnostic) :
    (d.rewrite g h).kindName = d.kindName := by
  cases d <;> rfl

end Diagnostic

/-- The failure with the text that its diagnostic quotes rewritten. -/
def Failure.rewrite (g : String → String) (h : Char → Char) : Failure → Failure
  | .diagnostic d => .diagnostic (d.rewrite g h)
  | f => f

section Fields

variable {g : String → String}

@[simp] theorem mapError_error {ε α : Type} (F : ε → ε) (e : ε) :
    (Except.error e : Except ε α).mapError F = .error (F e) := rfl

@[simp] theorem mapError_ok {ε α : Type} (F : ε → ε) (a : α) :
    (Except.ok a : Except ε α).mapError F = .ok a := rfl

@[simp] theorem map_ok {ε α β : Type} (f : α → β) (a : α) :
    (Except.ok a : Except ε α).map f = .ok (f a) := rfl

@[simp] theorem map_error {ε α β : Type} (f : α → β) (e : ε) :
    (Except.error e : Except ε α).map f = .error e := rfl

@[simp] theorem mapError_pure {ε α : Type} (F : ε → ε) (a : α) :
    (pure a : Except ε α).mapError F = pure a := rfl

@[simp] theorem mapError_bind {ε α β : Type} (F : ε → ε) (x : Except ε α) (f : α → Except ε β) :
    (x >>= f).mapError F = x.mapError F >>= fun a => (f a).mapError F := by
  cases x <;> rfl

@[simp] theorem Token.rewrite_raw (t : Token) : (t.rewrite g).raw = g t.raw := rfl
@[simp] theorem Token.rewrite_kind (t : Token) : (t.rewrite g).kind = t.kind := rfl
@[simp] theorem Token.rewrite_value (t : Token) : (t.rewrite g).value = t.value := rfl
@[simp] theorem Token.rewrite_span (t : Token) : (t.rewrite g).span = t.span := rfl
@[simp] theorem Operand.rewrite_kind (o : Operand) : (o.rewrite g).kind = o.kind := rfl
@[simp] theorem Operand.rewrite_value (o : Operand) : (o.rewrite g).value = o.value := rfl
@[simp] theorem Operand.rewrite_text (o : Operand) : (o.rewrite g).text = o.text := rfl
@[simp] theorem Operand.rewrite_span (o : Operand) : (o.rewrite g).span = o.span := rfl
@[simp] theorem Statement.rewrite_label (s : Statement) : (s.rewrite g).label = s.label := rfl
@[simp] theorem Statement.rewrite_mnemonic (s : Statement) :
    (s.rewrite g).mnemonic = s.mnemonic := rfl
@[simp] theorem Statement.rewrite_mnemonicSpan (s : Statement) :
    (s.rewrite g).mnemonicSpan = s.mnemonicSpan := rfl
@[simp] theorem Statement.rewrite_code (s : Statement) : (s.rewrite g).code = s.code := rfl
@[simp] theorem Statement.rewrite_operands (s : Statement) :
    (s.rewrite g).operands = s.operands.map (Operand.rewrite g) := rfl

/-- The bytes of operands are those of their values. -/
@[simp] theorem Statement.assembleBytes_rewrite (opcode : Option Int) (operands : List Operand) :
    assembleBytes opcode (operands.map (Operand.rewrite g)) = assembleBytes opcode operands := by
  simp [assembleBytes, List.flatMap_map]

@[simp] theorem Statement.awaitsDistance_rewrite (s : Statement) :
    (s.rewrite g).awaitsDistance = s.awaitsDistance := by
  unfold Statement.awaitsDistance
  rw [Statement.rewrite_operands]
  cases s.operands <;> rfl

@[simp] theorem Statement.size_rewrite (s : Statement) : (s.rewrite g).size = s.size := by
  simp [Statement.size]

@[simp] theorem Statement.span_rewrite (s : Statement) : (s.rewrite g).span = s.span := by
  unfold Statement.span
  rw [Statement.rewrite_operands, List.getLast?_map]
  cases s.operands.getLast? <;> rfl

@[simp] theorem Statement.originTarget_rewrite (s : Statement) :
    (s.rewrite g).originTarget = s.originTarget := by
  unfold Statement.originTarget
  rw [Statement.rewrite_operands]
  cases s.operands <;> rfl

end Fields

namespace Statement

variable {set : InstructionSet} {g : String → String} {h : Char → Char}

/-- Rewriting the text `raw` as `g raw` keeps what the parser reads of it: whether it opens a
bracket, a double quote or a single quote. -/
structure KeepsOpening (g : String → String) (raw : String) : Prop where
  bracket : (g raw).startsWith "[" = raw.startsWith "["
  quote : (g raw).startsWith "\"" = raw.startsWith "\""
  apostrophe : (g raw).startsWith "'" = raw.startsWith "'"

@[simp] theorem checkByte_rewrite (t : Token) : checkByte (t.rewrite g) = checkByte t := rfl
@[simp] theorem checkChars_rewrite (t : Token) : checkChars (t.rewrite g) = checkChars t := rfl
@[simp] theorem checkLabel_rewrite (t : Token) : checkLabel (t.rewrite g) = checkLabel t := rfl

@[simp] theorem checkByte_mapError (t : Token) :
    (checkByte t).mapError (Failure.rewrite g h) = checkByte t := by
  unfold checkByte
  split <;> rfl

@[simp] theorem checkChars_mapError (t : Token) :
    (checkChars t).mapError (Failure.rewrite g h) = checkChars t := by
  unfold checkChars
  split <;> rfl

@[simp] theorem checkLabel_mapError (t : Token) :
    (checkLabel t).mapError (Failure.rewrite g h) = checkLabel t := by
  unfold checkLabel
  split <;> rfl

theorem classify_rewrite {expected : List OperandKind} {t : Token} (hkeeps : KeepsOpening g t.raw) :
    classify set expected (t.rewrite g) =
      (classify set expected t).mapError (Failure.rewrite g h) := by
  unfold classify
  simp only [Token.rewrite_kind, Token.rewrite_value, Token.rewrite_span, Token.rewrite_raw,
    hkeeps.bracket, hkeeps.quote, hkeeps.apostrophe]
  cases t.kind with
  | comma | colon => rfl
  | _ =>
    simp only [apply_ite (Except.mapError (Failure.rewrite g h)), mapError_bind, mapError_pure,
      mapError_error, checkByte_rewrite, checkChars_rewrite, checkLabel_rewrite, checkByte_mapError,
      checkChars_mapError, checkLabel_mapError, Failure.rewrite, Diagnostic.rewrite] <;> rfl

@[simp] theorem operandValue_rewrite (kind : OperandKind) (t : Token) :
    operandValue set kind (t.rewrite g) = operandValue set kind t := rfl

/-- Reading a value quotes no text: its only failure is an unknown register. -/
@[simp] theorem operandValue_mapError (kind : OperandKind) (t : Token) :
    (operandValue set kind t).mapError (Failure.rewrite g h) = operandValue set kind t := by
  unfold operandValue
  cases kind with
  | register | registerAddress => cases set.registerIndex? t.value <;> rfl
  | _ => rfl

@[simp] theorem formsNamed_rewrite (m : Token) : formsNamed set (m.rewrite g) = formsNamed set m :=
  rfl

@[simp] theorem endOf_rewrite (tokens : List Token) :
    endOf (tokens.map (Token.rewrite g)) = endOf tokens := by
  unfold endOf
  rw [List.getLast?_map]
  cases tokens.getLast? <;> rfl

section Parser

variable {stop : Span}

theorem takeOperand_rewrite {expected : List OperandKind} {ts : List Token}
    (hkeeps : ∀ t ∈ ts, KeepsOpening g t.raw) :
    takeOperand set stop expected (ts.map (Token.rewrite g)) =
      ((takeOperand set stop expected ts).map
        (Prod.map (Operand.rewrite g) (List.map (Token.rewrite g)))).mapError
          (Failure.rewrite g h) := by
  cases ts with
  | nil => rfl
  | cons t rest =>
    simp only [List.map_cons, takeOperand, classify_rewrite (h := h) (hkeeps t List.mem_cons_self),
      operandValue_rewrite]
    rcases classify set expected t with e | kind
    · rfl
    · dsimp only [mapError_ok]
      rcases hvalue : operandValue set kind t with e | value
      · have hfix : (operandValue set kind t).mapError (Failure.rewrite g h) = _ :=
          operandValue_mapError kind t
        rw [hvalue, mapError_error, Except.error.injEq] at hfix
        simp [hfix]
      · rfl

theorem takeComma_rewrite {ts : List Token} :
    takeComma stop (ts.map (Token.rewrite g)) =
      ((takeComma stop ts).map (List.map (Token.rewrite g))).mapError (Failure.rewrite g h) := by
  cases ts with
  | nil => rfl
  | cons t rest =>
    by_cases hcomma : t.kind = .comma
    · simp [takeComma, hcomma]
    · simp [takeComma, hcomma, Failure.rewrite, Diagnostic.rewrite]

theorem takeOperands_rewrite {forms : List Form} {ts : List Token}
    (hkeeps : ∀ t ∈ ts, KeepsOpening g t.raw) :
    takeOperands set stop forms (ts.map (Token.rewrite g)) =
      ((takeOperands set stop forms ts).map
        (Prod.map (List.map (Operand.rewrite g)) (List.map (Token.rewrite g)))).mapError
          (Failure.rewrite g h) := by
  unfold takeOperands
  dsimp only
  split
  · rfl
  rw [takeOperand_rewrite (h := h) hkeeps]
  rcases hfirst : takeOperand set stop (firstKinds forms) ts with e | ⟨first, afterFirst⟩
  · rfl
  obtain ⟨t₁, rfl, -, -⟩ := takeOperand_ok hfirst
  dsimp only [Except.map, Except.mapError, Prod.map]
  split
  · rw [takeComma_rewrite (h := h)]
    rcases hcomma : takeComma stop afterFirst with e | afterComma
    · rfl
    obtain ⟨comma, rfl, -⟩ := takeComma_ok hcomma
    dsimp only [Except.map, Except.mapError]
    rw [Operand.rewrite_kind, takeOperand_rewrite (h := h) fun t ht => hkeeps t (by simp [ht])]
    rcases takeOperand set stop (secondKinds forms first.kind) afterComma with e | ⟨second, rest⟩
      <;> rfl
  · rfl

theorem takeLabel_rewrite {ts : List Token} :
    takeLabel (ts.map (Token.rewrite g)) =
      ((takeLabel ts).map (Prod.map id (List.map (Token.rewrite g)))).mapError
        (Failure.rewrite g h) := by
  match ts with
  | t :: colon :: rest =>
    by_cases hcolon : colon.kind = .colon
    · by_cases hname : isLabelName t.value
      · simp [takeLabel, hcolon, hname]
      · simp [takeLabel, hcolon, hname, Failure.rewrite, Diagnostic.rewrite]
    · simp [takeLabel, hcolon]
  | [] => rfl
  | [t] => rfl

theorem take_rewrite {ts : List Token} (hkeeps : ∀ t ∈ ts, KeepsOpening g t.raw) :
    take set stop (ts.map (Token.rewrite g)) =
      ((take set stop ts).map
        (Prod.map (Statement.rewrite g) (List.map (Token.rewrite g)))).mapError
          (Failure.rewrite g h) := by
  unfold take
  rw [takeLabel_rewrite (h := h)]
  rcases hlabel : takeLabel ts with e | ⟨label, afterLabel⟩
  · rfl
  obtain ⟨labelTokens, rfl, -⟩ := takeLabel_ok hlabel
  rcases afterLabel with _ | ⟨m, afterMnemonic⟩
  · rfl
  simp only [map_ok, mapError_ok, Prod.map, List.map_cons, id]
  rw [formsNamed_rewrite]
  rcases formsNamed set m with _ | forms
  · rfl
  dsimp only
  rw [takeOperands_rewrite (h := h) fun t ht => hkeeps t (by simp [ht])]
  rcases takeOperands set stop forms afterMnemonic with e | ⟨operands, rest⟩
  · rfl
  simp only [map_ok, mapError_ok, Prod.map, List.map_map, Token.rewrite_value,
    Token.rewrite_span]
  have hkinds : (Operand.kind ∘ Operand.rewrite g) = Operand.kind := rfl
  rw [hkinds]
  rcases set.opcodeOf m.value (operands.map Operand.kind) with e | opcode
  · simp [Failure.rewrite]
  · simp [Statement.rewrite]

theorem takeAll_rewrite {ts : List Token} (hkeeps : ∀ t ∈ ts, KeepsOpening g t.raw) :
    takeAll set stop (ts.map (Token.rewrite g)) =
      ((takeAll set stop ts).map (List.map (Statement.rewrite g))).mapError
        (Failure.rewrite g h) := by
  fun_induction takeAll set stop ts with
  | case1 => simp [takeAll]
  | case2 t more e htake =>
    have htake' : take set stop ((t :: more).map (Token.rewrite g)) = _ :=
      take_rewrite (h := h) hkeeps
    rw [htake, map_error, mapError_error, List.map_cons] at htake'
    rw [List.map_cons, takeAll_of_take_error htake']
    rfl
  | case3 t more s rest htake ih =>
    obtain ⟨chunk, hts, -⟩ := take_ok htake
    have htake' : take set stop ((t :: more).map (Token.rewrite g)) = _ :=
      take_rewrite (h := h) hkeeps
    rw [htake, map_ok, mapError_ok] at htake'
    rw [takeAll_of_take htake', ih fun t ht => hkeeps t (hts ▸ List.mem_append_right _ ht)]
    cases takeAll set stop rest <;> rfl

/-- Parsing rewritten tokens gives the same statements, with the text of their operands
rewritten, or fails in the same way. -/
theorem parse_rewrite {tokens : List Token} (hkeeps : ∀ t ∈ tokens, KeepsOpening g t.raw) :
    parse set (tokens.map (Token.rewrite g)) =
      ((parse set tokens).map (List.map (Statement.rewrite g))).mapError
        (Failure.rewrite g h) := by
  unfold parse
  rw [endOf_rewrite, takeAll_rewrite (h := h) hkeeps]
  rcases takeAll set (endOf tokens) tokens with e | statements
  · rfl
  dsimp only [map_ok, mapError_ok]
  have hmnemonic : ((·.mnemonic) ∘ Statement.rewrite g) = (·.mnemonic) := rfl
  rw [List.getLast?_map, Option.map_map, hmnemonic]
  split_ifs <;> rfl

end Parser

end Statement

namespace OrderedMap

variable {κ ν ν' : Type} [BEq κ]

/-- The map with `f` applied to every value. -/
def mapValues (f : ν → ν') (m : OrderedMap κ ν) : OrderedMap κ ν' :=
  ⟨m.entries.map fun e => (e.1, f e.2)⟩

variable (f : ν → ν') (m : OrderedMap κ ν) (k : κ) (v : ν)

omit [BEq κ] in
@[simp] theorem keys_mapValues : (m.mapValues f).keys = m.keys := by
  simp [keys, mapValues, Function.comp_def]

@[simp] theorem contains_mapValues : (m.mapValues f).contains k = m.contains k := by
  simp [contains, mapValues, List.any_map, Function.comp_def]

theorem insert_mapValues : (m.mapValues f).insert k (f v) = (m.insert k v).mapValues f := by
  unfold insert
  rw [contains_mapValues]
  split
  · simp only [mapValues, List.map_map, mk.injEq]
    refine List.map_congr_left fun e _ => ?_
    simp only [Function.comp_apply]
    split <;> rfl
  · simp [mapValues]

theorem insertIfAbsent_mapValues :
    (m.mapValues f).insertIfAbsent k (f v) = (m.insertIfAbsent k v).mapValues f := by
  unfold insertIfAbsent
  rw [contains_mapValues]
  split
  · rfl
  · simp [mapValues]

end OrderedMap

section Passes

variable {set : InstructionSet} {g : String → String} {h : Char → Char}

theorem Layout.rewrite_of_fault {S : List Statement} {f : Failure} (hf : Layout.Fault set S f) :
    f.rewrite g h = f := by
  cases f with
  | diagnostic d =>
    cases d with
    | duplicateLabel | outOfMemory => rfl
    | _ => cases hf
  | _ => rfl

theorem Placement.rewrite_of_fault {labels : OrderedMap String OperandValue} {S : List Statement}
    {f : Failure} (hf : Placement.Fault set labels S f) : f.rewrite g h = f := by
  cases f with
  | diagnostic d =>
    cases d with
    | unknownLabel | jumpTooFar => rfl
    | _ => cases hf
  | _ => rfl

theorem Layout.walk_rewrite (statements : List Statement) (labels : OrderedMap String OperandValue)
    (declared : List (String × Span)) (counter : OperandValue) :
    Layout.walk set (statements.map (Statement.rewrite g)) labels declared counter =
      Layout.walk set statements labels declared counter := by
  induction statements generalizing labels declared counter with
  | nil => rfl
  | cons s rest ih =>
    have hbind : Layout.bindLabel labels declared (s.rewrite g) counter =
        Layout.bindLabel labels declared s counter := rfl
    simp only [List.map_cons, Layout.walk, hbind, Statement.rewrite_mnemonic,
      Statement.originTarget_rewrite, Statement.size_rewrite, Statement.span_rewrite,
      List.isEmpty_map, ih]

theorem Layout.labels_rewrite (statements : List Statement) :
    Layout.labels set (statements.map (Statement.rewrite g)) = Layout.labels set statements :=
  Layout.walk_rewrite statements _ _ _

/-- The placement with the text of its statements' operands rewritten. -/
def Placement.rewrite (g : String → String) (placed : Placement) : Placement :=
  ⟨placed.bytes, placed.statements.mapValues (Statement.rewrite g)⟩

theorem Placement.resolve_rewrite (labels : OrderedMap String OperandValue) (start : Int)
    (s : Statement) :
    Placement.resolve labels start (s.rewrite g) =
      (Placement.resolve labels start s).map (Statement.rewrite g) := by
  unfold Placement.resolve
  rw [Statement.rewrite_operands]
  cases s.operands with
  | nil => rfl
  | cons o others =>
    simp only [List.map_cons, Operand.rewrite_text, Operand.rewrite_span]
    rcases labels.get? o.text with _ | value
    · rfl
    · cases value with
      | scalar target =>
        dsimp only
        split_ifs <;> rfl
      | _ => rfl

theorem Placement.record_rewrite (placed : Placement) (counter : OperandValue) (start : Int)
    (s : Statement) :
    (⟨writeBytes (placed.rewrite g).bytes start (s.rewrite g).code,
      if (s.rewrite g).code.isEmpty then (placed.rewrite g).statements.insertIfAbsent counter (s.rewrite g)
      else (placed.rewrite g).statements.insert counter (s.rewrite g)⟩ : Placement) =
      Placement.rewrite g ⟨writeBytes placed.bytes start s.code,
        if s.code.isEmpty then placed.statements.insertIfAbsent counter s
        else placed.statements.insert counter s⟩ := by
  simp only [Placement.rewrite, Statement.rewrite_code]
  by_cases hempty : s.code.isEmpty
  · simp only [hempty, if_true, OrderedMap.insertIfAbsent_mapValues]
  · simp only [hempty, Bool.false_eq_true, if_false, OrderedMap.insert_mapValues]

theorem Placement.walk_rewrite (labels : OrderedMap String OperandValue)
    (statements : List Statement) (placed : Placement) (counter : OperandValue) :
    Placement.walk set labels (statements.map (Statement.rewrite g)) (placed.rewrite g) counter =
      (Placement.walk set labels statements placed counter).map (Placement.rewrite g) := by
  induction statements generalizing placed counter with
  | nil => rfl
  | cons s rest ih =>
    simp only [List.map_cons, Placement.walk, Statement.rewrite_mnemonic,
      Statement.originTarget_rewrite]
    by_cases horigin : s.mnemonic = set.origin
    · simp only [horigin, if_true]
      rcases s.originTarget with f | target
      · rfl
      · rw [← ih]
        simp [Placement.rewrite, OrderedMap.insertIfAbsent_mapValues]
    · simp only [horigin, if_false]
      cases counter with
      | scalar start =>
        have hresolved : (if (s.rewrite g).awaitsDistance then
              Placement.resolve labels start (s.rewrite g) else .ok (s.rewrite g)) =
            (if s.awaitsDistance then Placement.resolve labels start s else .ok s).map
              (Statement.rewrite g) := by
          rw [Statement.awaitsDistance_rewrite]
          split_ifs
          · exact Placement.resolve_rewrite labels start s
          · rfl
        dsimp only
        rw [hresolved]
        rcases (if s.awaitsDistance then Placement.resolve labels start s else .ok s) with f | s'
        · rfl
        · simp only [map_ok]
          rw [Placement.record_rewrite, Statement.rewrite_code, ih]
      | _ => rfl

theorem Placement.run_rewrite (labels : OrderedMap String OperandValue)
    (statements : List Statement) :
    Placement.run set labels (statements.map (Statement.rewrite g)) =
      (Placement.run set labels statements).map (Placement.rewrite g) :=
  Placement.walk_rewrite labels statements ⟨OrderedMap.empty, OrderedMap.empty⟩ _

end Passes

/-- What an assembly puts in memory: its bytes, its labels, and the places where statements
start. -/
def Assembly.footprint (a : Assembly) :
    OrderedMap Int Int × OrderedMap String OperandValue × List OperandValue :=
  (a.bytes, a.labels, a.statements.keys)

/-- Two sources whose tokens differ only in their text as written, in a way that keeps what
each token opens, assemble to the same footprint, or fail in the same way. -/
theorem Assembly.assemble_rewrite {set : InstructionSet} {g : String → String} {h : Char → Char}
    {source source' : String}
    (hscan : Token.scan set source' =
      ((Token.scan set source).map (List.map (Token.rewrite g))).mapError (Failure.rewrite g h))
    (hkeeps : ∀ tokens, Token.scan set source = .ok tokens →
      ∀ t ∈ tokens, Statement.KeepsOpening g t.raw) :
    (Assembly.assemble set source').map Assembly.footprint =
      ((Assembly.assemble set source).map Assembly.footprint).mapError (Failure.rewrite g h) := by
  unfold Assembly.assemble Assembly.attempt
  rw [hscan]
  rcases hs : Token.scan set source with d | tokens
  · rfl
  simp only [map_ok, mapError_ok]
  rw [Statement.parse_rewrite (h := h) (hkeeps tokens hs)]
  rcases Statement.parse set tokens with f | statements
  · rfl
  simp only [map_ok, mapError_ok]
  rw [Layout.labels_rewrite]
  rcases hlabels : Layout.labels set statements with f | labels
  · simp [Layout.rewrite_of_fault (Layout.labels_error hlabels)]
  simp only
  rw [Placement.run_rewrite]
  rcases hrun : Placement.run set labels statements with f | placed
  · simp [Placement.rewrite_of_fault (Placement.run_error hrun)]
  · simp [Assembly.footprint, Placement.rewrite]

end ByteAsm
