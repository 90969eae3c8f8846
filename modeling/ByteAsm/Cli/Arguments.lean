import ByteAsm.Cli.Workspace
import ByteAsm.Settings

/-!
# What the command line asks for

The command is built on a command-line library, which is not modelled here: it reads the
arguments against the parameters the command declares, shows its help screen or its version at
once when asked, and otherwise hands the command the values of its parameters. It also echoes
the command's text to a stream that is no terminal. `Cli.Library` takes both as parameters.
-/

namespace ByteAsm

namespace Cli

/-- A run of the command as the arguments ask for it, once the library has checked its values:
the input file, the output, listing and label files, the output format, the fill byte, and the
flags for JSON reports and verbose runs. -/
structure Invocation where
  input : String
  output : Option String
  format : Option OutputFormat
  fill : Option (Fin 256)
  listing : Option String
  symbols : Option String
  jsonErrors : Bool
  verbose : Bool
deriving Repr

/-- What the arguments ask for: a screen that the library shows at once and ends the command
with, such as the help screen or the version, or a run. -/
inductive Request where
  | screen (text : String)
  | run (inv : Invocation)
deriving Repr

/-- The command-line library: how it reads the arguments, given the files they may name, into a
request or the text of a usage error, and how its echo writes a text to a stream that is no
terminal. -/
structure Library where
  read : List String → Workspace → Except String Request
  echo : String → String

/-- The fill byte that the value of `--fill` names: a hexadecimal number from 0 to FF, or the
message that refuses the value. -/
def fillByte (value : String) : Except String (Fin 256) :=
  match Numeral.readLiteral? value with
  | none => .error ("'" ++ value ++ "' is not a hex byte")
  | some n =>
    if h : 0 ≤ n ∧ n ≤ 0xFF then .ok ⟨n.toNat, by omega⟩
    else .error ("'" ++ value ++ "' is greater than FF")

end Cli

end ByteAsm
