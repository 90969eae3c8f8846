import ByteAsm.Assembly.Image
import ByteAsm.Assembly.Listing
import ByteAsm.Settings

/-!
# Assembler sessions

A session assembles source after source with one instruction table and one set of settings, and
keeps the last assembly that succeeded. A failed assembly leaves the kept one as it was. An
assembly may also be tried: a diagnostic then comes back as the outcome instead of being raised,
while a failure that is no diagnostic is raised all the same. The session's files are made from
the kept assembly: the output file in the format of the settings, or explicitly the memory image,
the hex dump, the listing or the label file.

The calls a session takes are `Session.Call`; `Session.call` makes one and `Session.perform`
makes them in order, each answering a `Session.Reply` or raising a `Session.CallError`.
-/

namespace ByteAsm

/-- An assembler session: its table, its settings and the last assembly that succeeded. -/
structure Session where
  set : InstructionSet
  settings : Settings
  last : Option Assembly

/-- The contents of a file: raw bytes, or text. -/
inductive FileContents where
  | bytes (bs : List Nat)
  | text (s : String)
deriving DecidableEq, Repr

/-- Why a session cannot answer: nothing was assembled yet, the memory image fails, or part of
the assembly cannot be shown. -/
inductive SessionError where
  | nothingAssembled
  | image (e : ImageError)
  | show (e : ShowError)
deriving DecidableEq, Repr

/-- The message that explains a session error. -/
def SessionError.message : SessionError → String
  | .nothingAssembled => "nothing has been assembled yet"
  | .image e => e.message
  | .show e => e.message

namespace Session

/-- A session that has assembled nothing yet. -/
def start (set : InstructionSet) (settings : Settings) : Session := ⟨set, settings, none⟩

/-- Assemble `source`, keeping the assembly if it succeeds. -/
def assemble (s : Session) (source : String) : Session × Except Failure Assembly :=
  match Assembly.assemble s.set source with
  | .ok a => ({ s with last := some a }, .ok a)
  | .error f => (s, .error f)

/-- What trying an assembly hands back: the assembly, or the diagnostic that stopped it. -/
inductive Outcome where
  | assembled (a : Assembly)
  | failed (d : Diagnostic)

/-- Whether the outcome holds an assembly. -/
def Outcome.ok : Outcome → Bool
  | .assembled _ => true
  | .failed _ => false

/-- Assemble `source` as `assemble` does, handing back a diagnostic as the outcome instead of
raising it; a failure that is no diagnostic is raised all the same. -/
def tryAssemble (s : Session) (source : String) : Session × Except Failure Outcome :=
  match s.assemble source with
  | (s', .ok a) => (s', .ok (.assembled a))
  | (s', .error (.diagnostic d)) => (s', .ok (.failed d))
  | (s', .error f) => (s', .error f)

/-- The last assembly that succeeded. -/
def result (s : Session) : Except SessionError Assembly :=
  match s.last with
  | some a => .ok a
  | none => .error .nothingAssembled

/-- The memory image file, filled with the settings' fill byte. -/
def binaryFile (s : Session) : Except SessionError FileContents := do
  let a ← s.result
  match a.image s.settings.fill with
  | .ok img => pure (.bytes img.toList)
  | .error e => throw (.image e)

/-- The hex dump file. -/
def hexFile (s : Session) : Except SessionError FileContents := do
  let a ← s.result
  match a.hexDump s.settings.fill with
  | .ok dump => pure (.text (dump ++ "\n"))
  | .error e => throw (.image e)

/-- The output file, in the format of the settings. -/
def outputFile (s : Session) : Except SessionError FileContents :=
  match s.settings.format with
  | .hex => s.hexFile
  | .bin => s.binaryFile

/-- The listing file. -/
def listingFile (s : Session) : Except SessionError FileContents := do
  let a ← s.result
  match a.listing with
  | .ok text => pure (.text (text ++ "\n"))
  | .error e => throw (.show e)

/-- The label file. -/
def labelFile (s : Session) : Except SessionError FileContents := do
  let a ← s.result
  match a.labelFile with
  | .ok text => pure (.text text)
  | .error e => throw (.show e)

/-- A call on a session: assembling or trying to assemble a source, asking for the kept assembly,
its labels or its listing, or making one of its files. -/
inductive Call where
  | assemble (source : String)
  | tryAssemble (source : String)
  | result
  | symbols
  | listing
  | outputFile
  | binaryFile
  | hexFile
  | listingFile
  | labelFile

/-- What a call answers: an assembly, the outcome of a try, the kept assembly, its labels, its
listing, or the contents of a file. -/
inductive Reply where
  | assembled (a : Assembly)
  | outcome (o : Outcome)
  | result (a : Assembly)
  | symbols (labels : OrderedMap String OperandValue)
  | listing (text : String)
  | file (contents : FileContents)

/-- Why a call raises: the assembly failed, or the session cannot answer. -/
inductive CallError where
  | failure (f : Failure)
  | session (e : SessionError)

/-- The kept assembly, answered through `reply`, or the session error. -/
def fromResult (s : Session) (reply : Assembly → Except CallError Reply) : Except CallError Reply :=
  match s.result with
  | .ok a => reply a
  | .error e => .error (.session e)

/-- A file of the session, or the session error. -/
def fromFile (file : Except SessionError FileContents) : Except CallError Reply :=
  match file with
  | .ok contents => .ok (.file contents)
  | .error e => .error (.session e)

/-- Make the call `c`: the session after it and its answer. Only assembling changes the session. -/
def call (s : Session) (c : Call) : Session × Except CallError Reply :=
  match c with
  | .assemble source =>
    match s.assemble source with
    | (s', .ok a) => (s', .ok (.assembled a))
    | (s', .error f) => (s', .error (.failure f))
  | .tryAssemble source =>
    match s.tryAssemble source with
    | (s', .ok o) => (s', .ok (.outcome o))
    | (s', .error f) => (s', .error (.failure f))
  | .result => (s, s.fromResult fun a => .ok (.result a))
  | .symbols => (s, s.fromResult fun a => .ok (.symbols a.labels))
  | .listing => (s, s.fromResult fun a =>
      match a.listing with
      | .ok text => .ok (.listing text)
      | .error e => .error (.session (.show e)))
  | .outputFile => (s, fromFile s.outputFile)
  | .binaryFile => (s, fromFile s.binaryFile)
  | .hexFile => (s, fromFile s.hexFile)
  | .listingFile => (s, fromFile s.listingFile)
  | .labelFile => (s, fromFile s.labelFile)

/-- Make the calls `calls` in order: the session after them and the answer of each. -/
def perform (s : Session) : List Call → Session × List (Except CallError Reply)
  | [] => (s, [])
  | c :: rest =>
    let (next, reply) := s.call c
    let (final, replies) := next.perform rest
    (final, reply :: replies)

end Session

end ByteAsm
