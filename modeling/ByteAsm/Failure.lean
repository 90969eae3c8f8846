import ByteAsm.Diagnostic
import ByteAsm.Statement

/-!
# Why an assembly stops

An assembly stops at the first diagnostic about the source, or at a fault of the instruction
table that the source brings to light: a register name the scanner accepts in any case but the
table spells in lower case, an origin directive without an operand, or one whose operand is no
number. Such an origin directive leaves the location counter at a value that is no address: a
string's codes, or the value of a label, which is not known in the first pass. The counter
cannot move on from it, and a label placed there has no distance to a jump.
-/

namespace ByteAsm

/-- Why an assembly stops. -/
inductive Failure where
  /-- The source is wrong, as the diagnostic says. -/
  | diagnostic (d : Diagnostic)
  /-- The table has no register of this name, though the scanner took the text for one. -/
  | unknownRegister (name : String)
  /-- No form of the mnemonic has the operand kinds found: the table's forms disagree on their
  number of operands. -/
  | noSuchForm (mnemonic : String)
  /-- The origin directive has no operand to take the address from. -/
  | originWithoutOperand
  /-- A statement that takes room follows an origin directive that left the location counter
  at a value of this kind. -/
  | advanceFrom (kind : ValueKind)
  /-- A jump's label stands where the location counter held a value of this kind. -/
  | distanceFrom (kind : ValueKind)
  /-- The scanner finds a lexeme of no characters that is not the terminator, as a register
  pattern that matches the empty text does: it would find it again at the same point forever,
  and the assembly never ends. -/
  | endless
deriving Repr, Inhabited

/-- The message of a failure that is not a diagnostic; a diagnostic gives its own, and a run that
never ends has none. -/
def Failure.message : Failure → String
  | .diagnostic d => d.message
  | .unknownRegister name => name
  | .noSuchForm _ => ""
  | .originWithoutOperand => "list index out of range"
  | .advanceFrom .codes => "can only concatenate tuple (not \"int\") to tuple"
  | .advanceFrom k => "unsupported operand type(s) for +=: '" ++ k.name ++ "' and 'int'"
  | .distanceFrom k => "unsupported operand type(s) for -: '" ++ k.name ++ "' and 'int'"
  | .endless => ""

end ByteAsm
