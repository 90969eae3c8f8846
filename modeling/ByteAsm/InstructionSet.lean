/-!
# Instruction tables

An instruction table describes the assembly language of a machine: for each mnemonic the forms
its operands may take, each form with the opcode it assembles to; the register names with their
numbers; and the names of three directives: the terminator that ends a program, the origin
directive that moves the address of the next statement, and the data directive that places raw
bytes.

A table is checked before use. Every mnemonic needs at least one form, all forms of a mnemonic
take the same number of operands, and no form takes more than two. The terminator and the origin
directive must be mnemonics of the table.
-/

namespace ByteAsm

/-- The kinds of operand: a number, a register, an address in brackets, a register in brackets,
a string and a label. -/
inductive OperandKind where
  | number
  | register
  | address
  | registerAddress
  | text
  | label
deriving DecidableEq, Repr, Inhabited

namespace OperandKind

/-- The name of a kind in an instruction table. -/
def name : OperandKind → String
  | number => "Number"
  | register => "Register"
  | address => "Address"
  | registerAddress => "RegisterAddress"
  | text => "String"
  | label => "Label"

/-- The kind with the given name in an instruction table. -/
def ofName? : String → Option OperandKind
  | "Number" => some number
  | "Register" => some register
  | "Address" => some address
  | "RegisterAddress" => some registerAddress
  | "String" => some text
  | "Label" => some label
  | _ => none

/-- The tag of a kind in a list of expected kinds, in upper case with underscores. -/
def tag : OperandKind → String
  | number => "NUMBER"
  | register => "REGISTER"
  | address => "ADDRESS"
  | registerAddress => "REGISTER_ADDRESS"
  | text => "STRING"
  | label => "LABEL"

/-- The words for a kind in a message: its tag in lower case, with spaces for underscores. -/
def noun (k : OperandKind) : String :=
  String.ofList (k.tag.toList.map fun c => if c = '_' then ' ' else c.toLower)

end OperandKind

/-- One form of a mnemonic: the kinds of its operands, in order, and the opcode it assembles
to, if it has one. -/
structure Form where
  kinds : List OperandKind
  opcode : Option Int
deriving DecidableEq, Repr, Inhabited

/-- The description of an assembly language: forms by mnemonic and register numbers by name,
both in the order the table gives them, and the names of the three directives. -/
structure InstructionSet where
  forms : List (String × List Form)
  registers : List (String × Int)
  terminator : String
  origin : String
  data : String
deriving Repr, Inhabited

/-- Why an instruction table is refused. -/
inductive TableError where
  | noForm (mnemonic : String)
  | mixedCounts (mnemonic : String) (counts : List Nat)
  | tooManyOperands (mnemonic : String)
  | missingDirective (name : String)
deriving DecidableEq, Repr

/-- The message that explains why a table is refused. -/
def TableError.message : TableError → String
  | .noForm m => s!"mnemonic '{m}' has no operand signature"
  | .mixedCounts m counts =>
    "mnemonic '" ++ m ++ "' mixes operand counts [" ++ ", ".intercalate (counts.map toString) ++ "]"
  | .tooManyOperands m => s!"mnemonic '{m}' takes more than two operands"
  | .missingDirective n => s!"directive '{n}' is not in the signature table"

namespace InstructionSet

/-- The distinct numbers of operands of `forms`, in increasing order. -/
def operandCounts (forms : List Form) : List Nat :=
  (forms.map (·.kinds.length)).eraseDups.mergeSort

/-- Check one mnemonic's forms. -/
def checkForms (mnemonic : String) (forms : List Form) : Except TableError Unit :=
  match operandCounts forms with
  | [] => .error (.noForm mnemonic)
  | [count] => if count > 2 then .error (.tooManyOperands mnemonic) else .ok ()
  | counts => .error (.mixedCounts mnemonic counts)

/-- The forms of `mnemonic`, if it is one of the table. -/
def formsOf? (set : InstructionSet) (mnemonic : String) : Option (List Form) :=
  (set.forms.find? (·.1 == mnemonic)).map Prod.snd

/-- Whether `name` is a mnemonic of the table. -/
def isMnemonic (set : InstructionSet) (name : String) : Bool :=
  set.forms.any (·.1 == name)

/-- Check a table: the forms of every mnemonic in order, then the terminator, then the origin
directive. -/
def check (set : InstructionSet) : Except TableError Unit := do
  for (mnemonic, forms) in set.forms do
    checkForms mnemonic forms
  for name in [set.terminator, set.origin] do
    unless set.isMnemonic name do
      throw (.missingDirective name)

/-- The number of operands of `mnemonic`: that of its first form. -/
def operandCount? (set : InstructionSet) (mnemonic : String) : Option Nat :=
  match set.formsOf? mnemonic with
  | some (form :: _) => some form.kinds.length
  | _ => none

/-- The number of the register named `name`, if it is one. -/
def registerIndex? (set : InstructionSet) (name : String) : Option Int :=
  (set.registers.find? (·.1 == name)).map Prod.snd

/-- Whether `name` is a register of the table. -/
def isRegister (set : InstructionSet) (name : String) : Bool :=
  set.registers.any (·.1 == name)

/-- The register names that a scanner tries, longest first and in table order among names of
equal length. -/
def registerNamesByLength (set : InstructionSet) : List String :=
  (set.registers.map Prod.fst).mergeSort (fun a b => b.length ≤ a.length)

/-- How a character of a register name is written in a pattern: the characters with a meaning
in patterns, and the blanks, behind a backslash. -/
def patternChar (c : Char) : List Char :=
  if "()[]{}?*+-|^$\\.&~# \t\n\r\x0b\x0c".contains c then ['\\', c] else [c]

/-- The pattern that matches any register name: the names longest first, each with its special
characters escaped, separated by bars. -/
def registerPattern (set : InstructionSet) : String :=
  "|".intercalate ((registerNamesByLength set).map fun n => String.ofList (n.toList.flatMap patternChar))

/-- Why an opcode look-up fails: the mnemonic is unknown, or none of its forms has the given
kinds. -/
inductive LookupError where
  | unknownMnemonic (mnemonic : String)
  | noSuchForm
deriving DecidableEq, Repr

/-- The opcode of the first form of `mnemonic` whose operand kinds are `kinds`. -/
def opcodeOf (set : InstructionSet) (mnemonic : String) (kinds : List OperandKind) :
    Except LookupError (Option Int) :=
  match set.formsOf? mnemonic with
  | none => .error (.unknownMnemonic mnemonic)
  | some forms =>
    match forms.find? (·.kinds == kinds) with
    | some form => .ok form.opcode
    | none => .error .noSuchForm

end InstructionSet

end ByteAsm
