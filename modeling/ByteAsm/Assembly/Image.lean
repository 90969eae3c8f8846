import ByteAsm.Assembly

/-!
# Memory images

The memory of the machine holds 256 bytes. Its image after loading a program has the program's
bytes where it writes them and a fill byte everywhere else. A byte written below address zero
counts from the end of memory, as far back as its start; a byte beyond the end is dropped. Every
value stored must be a byte. An address is taken as a signed 64-bit word before anything else is
checked, so one below -2^63 fails first, whatever its value.
-/

namespace ByteAsm

/-- The number of bytes of memory. -/
def memorySize : Nat := 256

/-- Why a memory image cannot be built. -/
inductive ImageError where
  /-- A value to store is not a byte. -/
  | notAByte
  /-- An address lies before the start of memory, counted from its end. -/
  | beforeStart
  /-- An address does not fit a signed 64-bit word. -/
  | beyondWord
deriving DecidableEq, Repr

/-- The message that explains an image error. -/
def ImageError.message : ImageError → String
  | .notAByte => "byte must be in range(0, 256)"
  | .beforeStart => "bytearray index out of range"
  | .beyondWord => "cannot fit 'int' into an index-sized integer"

/-- The least address that a signed 64-bit word holds. -/
def wordFloor : Int := -9223372036854775808

namespace Assembly

/-- Store `byte` at `address` of `image`. The address must fit a word before the value is
checked, and the value must be a byte before the address is checked against memory. -/
def store (image : Array Nat) (address byte : Int) : Except ImageError (Array Nat) :=
  if address ≥ memorySize then .ok image
  else if address < wordFloor then .error .beyondWord
  else if byte < 0 ∨ byte > 0xFF then .error .notAByte
  else
    let index := if address < 0 then address + memorySize else address
    if index < 0 then .error .beforeStart
    else .ok (image.set! index.toNat byte.toNat)

/-- The memory image of the program, with `fill` in every byte it does not write. -/
def image (a : Assembly) (fill : Int) : Except ImageError (Array Nat) :=
  if fill < 0 ∨ fill > 0xFF then .error .notAByte
  else a.bytes.entries.foldlM (fun img (address, byte) => store img address byte)
    (Array.replicate memorySize fill.toNat)

/-- The memory image as sixteen rows of sixteen bytes in hexadecimal, each row led by its
address. -/
def hexDump (a : Assembly) (fill : Int) : Except ImageError String := do
  let img ← a.image fill
  let rows := (List.range 16).map fun r =>
    let cells := ((img.toList.drop (16 * r)).take 16).map fun (b : Nat) => Numeral.hexByte b
    Numeral.hexByte (16 * r : Nat) ++ ": " ++ " ".intercalate cells
  pure ("\n".intercalate rows)

end Assembly

end ByteAsm
