import ByteAsm.InstructionSet

/-!
# The SMS32 instruction table

The table of the SMS32 teaching machine, the default of the assembler. It has four registers,
`AL` to `DL`, numbered 0 to 3. Arithmetic and logic take a register and a register or a number;
jumps take a label, and store the distance to it; `MOV` moves between registers, numbers and
memory, addressed directly or through a register. The terminator `END`, the origin directive
`ORG` and the data directive `DB` assemble to no opcode of their own.
-/

namespace ByteAsm

namespace InstructionSet

open OperandKind

/-- The two forms of an arithmetic or logic mnemonic: register with register, and register with
number. -/
def arithmetic (byRegister byNumber : Int) : List Form :=
  [⟨[register, register], some byRegister⟩, ⟨[register, number], some byNumber⟩]

/-- The single form of a mnemonic with the given operand kinds and opcode. -/
def only (kinds : List OperandKind) (opcode : Option Int) : List Form :=
  [⟨kinds, opcode⟩]

/-- The forms of the SMS32 mnemonics, in the order of the machine's manual. -/
def sms32Forms : List (String × List Form) := [
  ("END", only [] none),
  ("HALT", only [] (some 0x00)),
  ("RET", only [] (some 0xCB)),
  ("IRET", only [] (some 0xCD)),
  ("PUSHF", only [] (some 0xEA)),
  ("POPF", only [] (some 0xEB)),
  ("STI", only [] (some 0xFC)),
  ("CLI", only [] (some 0xFD)),
  ("CLO", only [] (some 0xFE)),
  ("NOP", only [] (some 0xFF)),
  ("INC", only [register] (some 0xA4)),
  ("DEC", only [register] (some 0xA5)),
  ("NOT", only [register] (some 0xAD)),
  ("ROL", only [register] (some 0x9A)),
  ("ROR", only [register] (some 0x9B)),
  ("SHL", only [register] (some 0x9C)),
  ("SHR", only [register] (some 0x9D)),
  ("JMP", only [label] (some 0xC0)),
  ("JZ", only [label] (some 0xC1)),
  ("JNZ", only [label] (some 0xC2)),
  ("JS", only [label] (some 0xC3)),
  ("JNS", only [label] (some 0xC4)),
  ("JO", only [label] (some 0xC5)),
  ("JNO", only [label] (some 0xC6)),
  ("PUSH", only [register] (some 0xE0)),
  ("POP", only [register] (some 0xE1)),
  ("CALL", only [number] (some 0xCA)),
  ("INT", only [number] (some 0xCC)),
  ("IN", only [number] (some 0xF0)),
  ("OUT", only [number] (some 0xF1)),
  ("ORG", only [number] none),
  ("DB", [⟨[number], none⟩, ⟨[text], none⟩]),
  ("ADD", arithmetic 0xA0 0xB0),
  ("SUB", arithmetic 0xA1 0xB1),
  ("MUL", arithmetic 0xA2 0xB2),
  ("DIV", arithmetic 0xA3 0xB3),
  ("MOD", arithmetic 0xA6 0xB6),
  ("AND", arithmetic 0xAA 0xBA),
  ("OR", arithmetic 0xAB 0xBB),
  ("XOR", arithmetic 0xAC 0xBC),
  ("MOV", [
    ⟨[register, number], some 0xD0⟩,
    ⟨[register, address], some 0xD1⟩,
    ⟨[address, register], some 0xD2⟩,
    ⟨[register, registerAddress], some 0xD3⟩,
    ⟨[registerAddress, register], some 0xD4⟩]),
  ("CMP", [
    ⟨[register, register], some 0xDA⟩,
    ⟨[register, number], some 0xDB⟩,
    ⟨[register, address], some 0xDC⟩])]

/-- The SMS32 registers and their numbers. -/
def sms32Registers : List (String × Int) :=
  [("AL", 0), ("BL", 1), ("CL", 2), ("DL", 3)]

/-- The SMS32 instruction table. -/
def sms32 : InstructionSet where
  forms := sms32Forms
  registers := sms32Registers
  terminator := "END"
  origin := "ORG"
  data := "DB"

end InstructionSet

end ByteAsm
