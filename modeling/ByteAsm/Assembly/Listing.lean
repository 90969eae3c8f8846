import ByteAsm.Assembly

/-!
# Listings and label files

A listing shows each recorded statement by address: the address, the statement's bytes (none for
the origin directive), its line number and its source text with its label, followed by the label
table sorted by name. A label file has two comment lines and then one label per line with its
address. Either fails where statements stand at values that cannot be ordered, or an address to
be written is no number.
-/

namespace ByteAsm

namespace Assembly

/-- `s` followed by spaces up to `width` characters. -/
def padRight (s : String) (width : Nat) : String :=
  s ++ String.ofList (List.replicate (width - s.length) ' ')

/-- `s` preceded by spaces up to `width` characters. -/
def padLeft (s : String) (width : Nat) : String :=
  String.ofList (List.replicate (width - s.length) ' ') ++ s

/-- The listing line of statement `s` recorded at `address`. -/
def listingLine (a : Assembly) (address : OperandValue) (s : Statement) : Except ShowError String := do
  let shown ← address.hexAddress
  let code := if s.mnemonic = a.set.origin then "" else " ".intercalate (s.code.map Numeral.hexByte)
  let text := String.ofList ((a.source.toList.drop s.span.start).take (s.span.stop - s.span.start))
  let text := match s.label with
    | some l => l.name ++ ": " ++ text
    | none => text
  pure (shown ++ "    " ++ padRight code 12 ++ "  " ++
    padLeft (toString s.span.startPos.line) 4 ++ "  " ++ text)

/-- The listing of the program. -/
def listing (a : Assembly) : Except ShowError String := do
  let header := ["sim8 Assembler Listing", String.ofList (List.replicate 60 '='), "",
    "Addr  Code          Line  Source", String.ofList (List.replicate 60 '-')]
  let body ← (← a.sortedStatements).mapM fun (address, s) => a.listingLine address s
  let table ← a.sortedLabels.mapM fun (name, value) =>
    value.hexAddress.map fun shown => padRight name 20 ++ " = " ++ shown
  pure ("\n".intercalate (header ++ body ++ ["", "Label Table", String.ofList (List.replicate 30 '-')] ++ table))

/-- The text of the label file. -/
def labelFile (a : Assembly) : Except ShowError String := do
  let rows ← a.sortedLabels.mapM fun (name, value) => value.hexAddress.map fun shown => name ++ " " ++ shown
  pure ("\n".intercalate (["# Label table", "# Generated by sim8asm"] ++ rows) ++ "\n")

end Assembly

end ByteAsm
