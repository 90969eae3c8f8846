import ByteAsm.Token.Scan
import ByteAsm.Statement.Parse
import ByteAsm.Placement
import ByteAsm.RunSort

/-!
# Assemblies

An assembly runs the stages in order: scanning the source into tokens, parsing the tokens into
statements, laying out the labels, and placing bytes and statements by address. It stops at the
first failure. Its result keeps the bytes and statements by address, the label table, the source
and the instruction table. Each stage also reports its progress in a line of text, which a
verbose command line shows.
-/

namespace ByteAsm

/-- A program assembled: its bytes by address, its statements by the counter's value where they
start, the value of each label in order of declaration, its source and its instruction table. -/
structure Assembly where
  bytes : OrderedMap Int Int
  statements : OrderedMap OperandValue Statement
  labels : OrderedMap String OperandValue
  source : String
  set : InstructionSet
deriving Inhabited

/-- Why part of an assembly cannot be shown: two values of the counter that cannot be ordered,
or a value that cannot be written as a hexadecimal address. -/
inductive ShowError where
  | unordered (left right : ValueKind)
  | notHex (kind : ValueKind)
deriving DecidableEq, Repr

/-- The message that explains a show error. -/
def ShowError.message : ShowError → String
  | .unordered l r => "'<' not supported between instances of '" ++ l.name ++ "' and '" ++ r.name ++ "'"
  | .notHex k => "unsupported format string passed to " ++ k.name ++ ".__format__"

/-- Whether the codes `a` come before the codes `b`: at the first place where they differ, or as
a proper prefix. -/
def codesBefore : List Nat → List Nat → Bool
  | [], [] => false
  | [], _ :: _ => true
  | _ :: _, [] => false
  | x :: xs, y :: ys => if x = y then codesBefore xs ys else x < y

/-- Whether the value `a` comes before `b`: numbers by size, codes in dictionary order, and
values of two different kinds, or two unknown values, not at all. -/
def OperandValue.precedes (a b : OperandValue) : Except ShowError Bool :=
  match a, b with
  | .scalar x, .scalar y => .ok (decide (x < y))
  | .codes x, .codes y => .ok (codesBefore x y)
  | _, _ => .error (.unordered a.kind b.kind)

/-- The value as a two-digit hexadecimal address, which only a number has. -/
def OperandValue.hexAddress : OperandValue → Except ShowError String
  | .scalar n => .ok (Numeral.hexByte n)
  | other => .error (.notHex other.kind)

namespace Assembly

/-- The progress lines of an assembly that stops with `failure`: a diagnostic is reported with
its kind and position; other failures are not. -/
def failureNote (failure : Failure) : List String :=
  match failure with
  | .diagnostic d => [s!"Assembly failed: {d.kindName} at {d.span.startPos.render}"]
  | _ => []

/-- Assemble `source` with the table `set`: the progress lines, and the assembly or the reason
it stopped. -/
def attempt (set : InstructionSet) (source : String) : List String × Except Failure Assembly :=
  match Token.scan set source with
  | .error f => (failureNote f, .error f)
  | .ok tokens =>
    let scanned := s!"Tokenized {tokens.length} tokens from {Token.linesScanned set source tokens} lines"
    match Statement.parse set tokens with
    | .error f => (scanned :: failureNote f, .error f)
    | .ok statements =>
      let parsed := s!"Parsed {statements.length} statements"
      match Layout.labels set statements with
      | .error f => ([scanned, parsed] ++ failureNote f, .error f)
      | .ok labels =>
        let laidOut := s!"Resolved {labels.size} labels"
        match Placement.run set labels statements with
        | .error f => ([scanned, parsed, laidOut] ++ failureNote f, .error f)
        | .ok placed =>
          let count := statements.length
          let size := placed.bytes.size
          ([scanned, parsed, laidOut, s!"Generated {size} bytes for {count} statements",
            s!"Assembled {count} statements into {size} bytes"],
            .ok ⟨placed.bytes, placed.statements, labels, source, set⟩)

/-- Assemble `source` with the table `set`. -/
def assemble (set : InstructionSet) (source : String) : Except Failure Assembly :=
  (attempt set source).2

/-- The statement whose code starts at `address`. -/
def statementAt (a : Assembly) (address : Int) : Option Statement :=
  a.statements.get? (.scalar address)

/-- The bytes by address, in increasing order of address. -/
def sortedBytes (a : Assembly) : List (Int × Int) :=
  a.bytes.entries.mergeSort (fun x y => x.1 ≤ y.1)

/-- The statements in increasing order of the counter's value where they start. -/
def sortedStatements (a : Assembly) : Except ShowError (List (OperandValue × Statement)) :=
  RunSort.sort (fun x y => x.1.precedes y.1) a.statements.entries

/-- The labels with their values, in code point order of their names. -/
def sortedLabels (a : Assembly) : List (String × OperandValue) :=
  a.labels.entries.mergeSort (fun x y => decide (x.1 ≤ y.1))

end Assembly

end ByteAsm
