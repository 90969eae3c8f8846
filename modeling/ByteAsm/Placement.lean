import ByteAsm.Layout
import ByteAsm.Numeral
import ByteAsm.Text.CloseMatch

/-!
# Placement: bytes and statements by address

The second pass walks the statements again from address zero, now knowing every label. A jump
gets its distance to its label as a signed byte, each statement's bytes are written from its
address on, a later byte replacing an earlier one, and each address records the last statement
with bytes that starts there, or else the first. A counter that is no address, which only an
origin directive can bring about, gives a jump to a label bound there no distance.
-/

namespace ByteAsm

/-- The bytes of a program by address and its statements by the counter's value where they
start, in order of first writing. -/
structure Placement where
  bytes : OrderedMap Int Int
  statements : OrderedMap OperandValue Statement
deriving Inhabited

namespace Placement

/-- The statement `s` at `start` with its jump distance filled in: the label operand's value and
the last byte become the distance to the label, as a byte. -/
def resolve (labels : OrderedMap String OperandValue) (start : Int) (s : Statement) :
    Except Failure Statement :=
  match s.operands with
  | [] => .ok s
  | o :: others =>
    match labels.get? o.text with
    | none => .error (.diagnostic (.unknownLabel o.text o.span (Text.closeMatches o.text labels.keys 3)))
    | some (.scalar target) =>
      let distance := target - start
      if distance < -128 ∨ distance > 127 then
        .error (.diagnostic (.jumpTooFar o.text distance o.span))
      else
        let byte := Numeral.ofSigned distance
        .ok { s with operands := { o with value := .scalar byte } :: others, code := s.code ++ [byte] }
    | some other => .error (.distanceFrom other.kind)

/-- Write `code` from address `start` on. -/
def writeBytes (bytes : OrderedMap Int Int) (start : Int) (code : List Int) : OrderedMap Int Int :=
  (code.zipIdx).foldl (fun m (b, i) => m.insert (start + i) b) bytes

/-- Place `statements` from the counter's value `counter` on. -/
def walk (set : InstructionSet) (labels : OrderedMap String OperandValue) :
    List Statement → Placement → OperandValue → Except Failure Placement
  | [], placed, _ => .ok placed
  | s :: rest, placed, counter =>
    if s.mnemonic = set.origin then
      match s.originTarget with
      | .error f => .error f
      | .ok target =>
        walk set labels rest { placed with statements := placed.statements.insertIfAbsent counter s } target
    else
      match counter with
      | .scalar start =>
        let resolved := if s.awaitsDistance then resolve labels start s else .ok s
        match resolved with
        | .error f => .error f
        | .ok s =>
          let statements := if s.code.isEmpty then placed.statements.insertIfAbsent counter s
            else placed.statements.insert counter s
          walk set labels rest ⟨writeBytes placed.bytes start s.code, statements⟩
            (.scalar (start + s.code.length))
      | other => .error (.advanceFrom other.kind)

end Placement

/-- The bytes and statements of a program by address, given the value of every label. -/
def Placement.run (set : InstructionSet) (labels : OrderedMap String OperandValue)
    (statements : List Statement) : Except Failure Placement :=
  Placement.walk set labels statements ⟨OrderedMap.empty, OrderedMap.empty⟩ (.scalar 0)

end ByteAsm
