import ByteAsm.Numeral

/-!
# Settings

The settings of an assembler: the format of its output file (a raw memory image or a hex dump),
the byte that fills memory the program does not write, the text encoding of source files, and
whether it reports its progress. Settings given directly are checked and refused when wrong;
settings read from the environment ignore a wrong value with a warning.
-/

namespace ByteAsm

/-- The formats of an output file: the raw memory image, or its hex dump. -/
inductive OutputFormat where
  | bin
  | hex
deriving DecidableEq, Repr, Inhabited

namespace OutputFormat

/-- The name of a format, which is also the suffix of its files. -/
def name : OutputFormat → String
  | bin => "bin"
  | hex => "hex"

/-- The format with the given name. -/
def ofName? : String → Option OutputFormat
  | "bin" => some bin
  | "hex" => some hex
  | _ => none

end OutputFormat

/-- The settings of an assembler. -/
structure Settings where
  format : OutputFormat
  fill : Nat
  encoding : String
  verbose : Bool
  fill_le : fill ≤ 0xFF

/-- Why settings are refused. -/
inductive SettingsError where
  | badFormat (name : String)
  | badFill (fill : Int)
deriving DecidableEq, Repr

/-- The message that explains why settings are refused. -/
def SettingsError.message : SettingsError → String
  | .badFormat n => s!"output_format must be one of bin, hex, got '{n}'"
  | .badFill n => s!"fill_byte must be between 00 and FF, got {n}"

namespace Settings

/-- The default settings: a raw image, zero fill, UTF-8 sources, no progress report. -/
def standard : Settings := ⟨.bin, 0, "utf-8", false, by decide⟩

/-- Settings from given values, the format checked before the fill byte. -/
def make (format : String) (fill : Int) (encoding : String) (verbose : Bool) :
    Except SettingsError Settings :=
  match OutputFormat.ofName? format with
  | none => .error (.badFormat format)
  | some f =>
    if h : 0 ≤ fill ∧ fill ≤ 0xFF then .ok ⟨f, fill.toNat, encoding, verbose, by omega⟩
    else .error (.badFill fill)

/-- `s` in lower case, for comparing with words in ASCII: no character outside ASCII lowers to
an ASCII letter of the words compared with. -/
def asciiLower (s : String) : String :=
  String.ofList (s.toList.map Char.toLower)

/-- The settings that the environment `env` gives, starting from the defaults, with a warning for
each value that is ignored. An empty value counts as absent. The format is read first, then the
fill byte, the encoding and verbosity. -/
def fromEnv (env : String → Option String) : Settings × List String :=
  let given (name : String) : Option String := (env name).filter (!·.isEmpty)
  let (format, w₁) : OutputFormat × List String := match given "SIM8_OUTPUT_FORMAT" with
    | none => (.bin, [])
    | some v => match OutputFormat.ofName? (asciiLower v) with
      | some f => (f, [])
      | none => (.bin, [s!"Ignoring invalid SIM8_OUTPUT_FORMAT: {v}"])
  let (fill, w₂) : { n : Nat // n ≤ 0xFF } × List String := match given "SIM8_FILL_BYTE" with
    | none => (⟨0, by decide⟩, [])
    | some v => match Numeral.readLiteral? v with
      | some n => if h : 0 ≤ n ∧ n ≤ 0xFF then (⟨n.toNat, by omega⟩, [])
        else (⟨0, by decide⟩, [s!"Ignoring invalid SIM8_FILL_BYTE: {v}"])
      | none => (⟨0, by decide⟩, [s!"Ignoring invalid SIM8_FILL_BYTE: {v}"])
  let encoding := (given "SIM8_ENCODING").getD "utf-8"
  let verbose := match given "SIM8_VERBOSE" with
    | some v => ["1", "true", "yes"].contains (asciiLower v)
    | none => false
  (⟨format, fill.1, encoding, verbose, fill.2⟩, w₁ ++ w₂)

end Settings

end ByteAsm
