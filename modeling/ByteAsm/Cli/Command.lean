import ByteAsm.Cli.Arguments
import ByteAsm.Assembly.Image
import ByteAsm.Assembly.Listing
import ByteAsm.InstructionSet.Sms32
import ByteAsm.Encoding

/-!
# The assembler command

A run of `sim8asm` reads its settings from the environment and its options, reads the input in
the settings' encoding with uniform line ends, assembles it with the SMS32 table, and writes the
output, the listing and the label file, stopping at the first write that fails. Its exit status
is 0 for success, 1 for a diagnostic about the source, 2 for wrong arguments, an unreadable input,
a stored value that is not a byte or a missing directory, and 3 for anything else.
-/

namespace ByteAsm

namespace Cli

/-- How a run of the command ends: its exit status, what it printed on standard output and on
standard error, and the workspace it leaves. -/
structure Outcome where
  exitCode : Nat
  stdout : String
  stderr : String
  workspace : Workspace

/-- The text printed so far and the workspace, while a run goes on. -/
structure Progress where
  stdout : String
  stderr : String
  workspace : Workspace

/-- Lines of the log as standard error shows them: each line with a lone surrogate written as
its escape. -/
def logText (lines : List String) : String :=
  String.join (lines.map (Text.escapeSurrogates · ++ "\n"))

/-- The lines of the log that a verbose run shows, marked as debug lines; a quiet run shows
none. -/
def debugLines (verbose : Bool) (lines : List String) : List String :=
  if verbose then lines.map ("DEBUG: " ++ ·) else []

namespace Progress

/-- End the run with `code`, printing `line` on standard error as the library's echo writes it. -/
def fail (echo : String → String) (p : Progress) (code : Nat) (line : String) : Outcome :=
  ⟨code, p.stdout, p.stderr ++ Text.escapeSurrogates (echo line) ++ "\n", p.workspace⟩

/-- End the run with `code`. -/
def finish (p : Progress) (code : Nat) : Outcome :=
  ⟨code, p.stdout, p.stderr, p.workspace⟩

/-- Print `lines` on standard output as the library's echo writes them. -/
def say (echo : String → String) (p : Progress) (lines : List String) : Progress :=
  { p with stdout := p.stdout ++ String.join (lines.map (echo · ++ "\n")) }

/-- Print `lines` of the log on standard error. -/
def warn (p : Progress) (lines : List String) : Progress :=
  { p with stderr := p.stderr ++ logText lines }

end Progress

section Steps

variable (echo : String → String)

/-- Write a file, ending the run if that fails: a missing directory is an error of the
arguments, any other failure an internal error. -/
def writeFile (p : Progress) (path : String) (contents : List UInt8) (next : Progress → Outcome) :
    Outcome :=
  match p.workspace.write path contents with
  | .ok ws => next { p with workspace := ws }
  | .error e@(.noSuchPath _) => p.fail echo 2 ("Error: " ++ e.message)
  | .error e => p.fail echo 3 ("Internal error: " ++ e.message)

/-- The bytes of a text written as UTF-8. -/
def utf8Bytes (s : String) : List UInt8 := s.toUTF8.toList

/-- Write a text file in UTF-8. A text that holds a lone surrogate has no UTF-8 form: the file is
created empty and the run ends with an error of the arguments. -/
def writeText (p : Progress) (path : String) (text : String) (next : Progress → Outcome) :
    Outcome :=
  match Text.utf8Failure? text with
  | none => writeFile echo p path (utf8Bytes text) next
  | some failure => writeFile echo p path [] fun p => p.fail echo 2 ("Error: " ++ failure.message)

/-- The report of a failed assembly on standard error. -/
def failureReport (f : Failure) (source : String) (asRecord : Bool) : Nat × String :=
  match f with
  | .diagnostic d => (1, if asRecord then d.record else d.render (d.sourceLine source))
  | .unknownRegister name => (3, "Internal error: " ++ Text.quote name)
  | other => (3, "Internal error: " ++ other.message)

/-- The contents of the output file: the memory image, or its hex dump as a text. -/
def outputBytes (settings : Settings) (a : Assembly) : Except ImageError (List UInt8) :=
  match settings.format with
  | .bin => (a.image settings.fill).map fun img => img.toList.map Nat.toUInt8
  | .hex => (a.hexDump settings.fill).map fun dump => utf8Bytes (dump ++ "\n")

/-- End a run whose files are written. A verbose run says which addresses the program takes and
how many labels it defines. -/
def summarize (settings : Settings) (a : Assembly) (p : Progress) : Outcome :=
  if settings.verbose then
    let used := a.sortedBytes.map Prod.fst
    let complete := match used.head?, used.getLast? with
      | some lo, some hi =>
        [s!"Assembly complete: {used.length} bytes between {Numeral.hexByte lo} and {Numeral.hexByte hi}"]
      | _, _ => []
    (p.say echo (complete ++ [s!"Defined {a.labels.size} labels"])).finish 0
  else p.finish 0

/-- Write the label file if `inv` asks for one, then end the run. -/
def writeSymbols (inv : Invocation) (settings : Settings) (a : Assembly) (p : Progress) :
    Outcome :=
  match inv.symbols with
  | some path =>
    match a.labelFile with
    | .error e => p.fail echo 3 ("Internal error: " ++ e.message)
    | .ok text =>
    writeText echo p path text fun p =>
      summarize echo settings a
        (if settings.verbose then p.say echo ["Wrote labels to " ++ showPath path] else p)
  | none => summarize echo settings a p

/-- Write the listing if `inv` asks for one, then the label file. -/
def writeListing (inv : Invocation) (settings : Settings) (a : Assembly) (p : Progress) :
    Outcome :=
  match inv.listing with
  | some path =>
    match a.listing with
    | .error e => p.fail echo 3 ("Internal error: " ++ e.message)
    | .ok text =>
    writeText echo p path (text ++ "\n") fun p =>
      writeSymbols echo inv settings a
        (if settings.verbose then p.say echo ["Wrote listing to " ++ showPath path] else p)
  | none => writeSymbols echo inv settings a p

/-- Write the files that `inv` asks for from the assembly `a`: the output to `output` in the
settings' format, then the listing and the label file if asked for, stopping at the first write
that fails. -/
def writeAssembly (inv : Invocation) (settings : Settings) (output : String) (a : Assembly)
    (p : Progress) : Outcome :=
  match outputBytes settings a with
  | .error e@.notAByte => p.fail echo 2 ("Error: " ++ e.message)
  | .error e => p.fail echo 3 ("Internal error: " ++ e.message)
  | .ok bytes =>
    writeFile echo p output bytes fun p =>
      writeListing echo inv settings a
        (if settings.verbose then p.say echo [s!"Wrote {a.bytes.size} bytes to {showPath output}"]
        else p)

/-- Assemble the input of `inv` with `settings` and write the files it asks for. -/
def assembleFiles (inv : Invocation) (settings : Settings) (p : Progress) : Outcome :=
  let output := match inv.output with
    | some o => o
    | none => withSuffix inv.input ("." ++ settings.format.name)
  let p := p.warn (debugLines settings.verbose ["Assembling " ++ showPath inv.input])
  match Encoding.lookup settings.encoding with
  | .error e => p.fail echo 3 ("Internal error: " ++ e.message)
  | .ok encoding =>
    match encoding.decode ((p.workspace.read? inv.input).getD []) with
    | .error e@.codecFault => p.fail echo 3 ("Internal error: " ++ e.message)
    | .error e => p.fail echo 2 ("Error: " ++ e.message)
    | .ok text =>
      let source := withUniformNewlines text
      let (notes, result) := Assembly.attempt InstructionSet.sms32 source
      let p := p.warn (debugLines settings.verbose notes)
      match result with
      | .error f =>
        let (code, report) := failureReport f source inv.jsonErrors
        p.fail echo code report
      | .ok a => writeAssembly echo inv settings output a p

end Steps

/-- The settings of a run: those of the environment, overridden by the options given. -/
def effectiveSettings (inv : Invocation) (base : Settings) : Settings :=
  { base with
    format := inv.format.getD base.format
    fill := match inv.fill with
      | some f => f.val
      | none => base.fill
    fill_le := by
      cases inv.fill with
      | none => exact base.fill_le
      | some f => exact Nat.le_of_lt_succ f.isLt
    verbose := inv.verbose || base.verbose }

/-- What the command does with what the library read from its arguments, with environment `env`
in the workspace `ws`: a usage error ends it with status 2, a screen with status 0, and a run
assembles its input with the settings of the environment, overridden by the options. -/
def respond (echo : String → String) (request : Except String Request)
    (env : String → Option String) (ws : Workspace) : Outcome :=
  let start : Progress := ⟨"", "", ws⟩
  match request with
  | .error usage => start.fail echo 2 usage
  | .ok (.screen text) => (start.say echo [text]).finish 0
  | .ok (.run inv) =>
    let (base, warnings) := Settings.fromEnv env
    assembleFiles echo inv (effectiveSettings inv base) (start.warn warnings)

/-- Run the command on the library `lib` with arguments `args` and environment `env` in the
workspace `ws`. -/
def run (lib : Library) (args : List String) (env : String → Option String) (ws : Workspace) :
    Outcome :=
  respond lib.echo (lib.read args ws) env ws

end Cli

end ByteAsm
