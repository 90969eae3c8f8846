import ByteAsm.Span
import ByteAsm.InstructionSet

/-!
# Statements

A statement is one instruction or directive of a program: an optional label, a mnemonic, its
operands and the bytes it assembles to. Until the second pass, a jump's label operand has no
value and its distance byte is missing from the statement's bytes; the statement's size counts
that byte already.
-/

namespace ByteAsm

/-- A label declared before a statement: its name and the span of the name. -/
structure LabelDecl where
  name : String
  span : Span
deriving DecidableEq, Repr, Inhabited

/-- The value of an operand: a number (a byte, an address, a register's number, or a jump's
distance byte once it is known), the character codes of a string, or nothing yet for a label. -/
inductive OperandValue where
  | scalar (n : Int)
  | codes (cs : List Nat)
  | pending
deriving DecidableEq, Repr, Inhabited

/-- The bytes an operand value adds to its statement. -/
def OperandValue.bytes : OperandValue → List Int
  | .scalar n => [n]
  | .codes cs => cs.map Int.ofNat
  | .pending => []

/-- The kinds of operand value, told apart where a value of one kind is used as another. -/
inductive ValueKind where
  | number
  | codes
  | unknown
deriving DecidableEq, Repr

/-- The name of a kind of value, as errors give it. -/
def ValueKind.name : ValueKind → String
  | .number => "int"
  | .codes => "tuple"
  | .unknown => "NoneType"

/-- The kind of an operand value. -/
def OperandValue.kind : OperandValue → ValueKind
  | .scalar _ => .number
  | .codes _ => .codes
  | .pending => .unknown

/-- An operand: its kind, its value, the value of its token, its text as written and the span of
that text. -/
structure Operand where
  kind : OperandKind
  value : OperandValue
  text : String
  raw : String
  span : Span
deriving DecidableEq, Repr, Inhabited

/-- A statement: its label if it has one, its mnemonic and the span of the mnemonic, the opcode
of its form, its operands and the bytes assembled so far. -/
structure Statement where
  label : Option LabelDecl
  mnemonic : String
  mnemonicSpan : Span
  opcode : Option Int
  operands : List Operand
  code : List Int
deriving DecidableEq, Repr, Inhabited

namespace Statement

/-- The span from the mnemonic to the last operand. -/
def span (s : Statement) : Span :=
  match s.operands.getLast? with
  | some last => Span.cover s.mnemonicSpan last.span
  | none => s.mnemonicSpan

/-- Whether the first operand is a label whose distance is not known yet. -/
def awaitsDistance (s : Statement) : Bool :=
  match s.operands with
  | first :: _ => first.kind == .label && first.value == .pending
  | [] => false

/-- The number of bytes the statement takes once assembled: its bytes so far, and one for the
distance it awaits. -/
def size (s : Statement) : Nat :=
  s.code.length + (if s.awaitsDistance then 1 else 0)

/-- The bytes of a statement with the given opcode and operands: the opcode, then the value of
every operand that has one. -/
def assembleBytes (opcode : Option Int) (operands : List Operand) : List Int :=
  opcode.toList ++ operands.flatMap (·.value.bytes)

end Statement

end ByteAsm
