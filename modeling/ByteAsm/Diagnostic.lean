import ByteAsm.Span
import ByteAsm.InstructionSet
import ByteAsm.Text.Lines
import ByteAsm.Text.JsonString

/-!
# Diagnostics

A diagnostic says why a source does not assemble, and where. Each cause carries the span of the
offending text and what a reader needs to fix it: the text as written, the label concerned, the
kinds of operand expected, close label names, a jump's distance.

A diagnostic is shown as its position and message, then, when the source is at hand, the line it
points into with carets under the offending text, then a hint if it has one. It can also be
written as a JSON record of its kind, message and span.
-/

namespace ByteAsm

/-- Why a source does not assemble. -/
inductive Diagnostic where
  /-- No lexeme starts with this character. -/
  | unexpectedChar (c : Char) (span : Span)
  /-- An operand opens a bracket that is not closed. -/
  | unterminatedAddress (raw : String) (span : Span)
  /-- An operand opens a string that is not closed. -/
  | unterminatedString (raw : String) (span : Span)
  /-- An operand is in single quotes. -/
  | singleQuote (raw : String) (span : Span)
  /-- A statement does not start with a mnemonic, after its label if it has one. -/
  | noInstruction (raw : String) (span : Span) (afterLabel : Bool)
  /-- Two operands are not separated by a comma. -/
  | missingComma (raw : String) (span : Span)
  /-- The text ends in the middle of a statement, or without the terminator. -/
  | missingEnd (span : Span)
  /-- A label is not made of letters and underscores. -/
  | badLabel (name : String) (span : Span)
  /-- A label is declared a second time; `first` is the span of the first declaration. -/
  | duplicateLabel (name : String) (span : Span) (first : Span)
  /-- A jump names a label that is not declared; `similar` are declared names close to it. -/
  | unknownLabel (name : String) (span : Span) (similar : List String)
  /-- A number is larger than a byte. -/
  | numberTooLarge (numeral : String) (span : Span)
  /-- A character of a string has a code larger than a byte; `index` is its place in the
  string. -/
  | charTooLarge (c : Char) (index : Nat) (span : Span)
  /-- A jump's target is further than a signed byte reaches. -/
  | jumpTooFar (name : String) (distance : Int) (span : Span)
  /-- A statement other than the last ends beyond the last address. -/
  | outOfMemory (span : Span)
  /-- An operand is of a kind the mnemonic does not take here. -/
  | wrongOperand (raw : String) (expected : List OperandKind) (span : Span)
  /-- The text in brackets is neither a number nor a register. -/
  | badAddress (raw : String) (span : Span)
deriving Repr, Inhabited

namespace Diagnostic

/-- The span of the offending text. -/
def span : Diagnostic → Span
  | unexpectedChar _ s | unterminatedAddress _ s | unterminatedString _ s | singleQuote _ s
  | noInstruction _ s _ | missingComma _ s | missingEnd s | badLabel _ s | duplicateLabel _ s _
  | unknownLabel _ s _ | numberTooLarge _ s | charTooLarge _ _ s | jumpTooFar _ _ s
  | outOfMemory s | wrongOperand _ _ s | badAddress _ s => s

/-- The name of the kind of a diagnostic. -/
def kindName : Diagnostic → String
  | unexpectedChar .. => "AssemblySyntaxError"
  | unterminatedAddress .. => "UnterminatedAddressError"
  | unterminatedString .. => "UnterminatedStringError"
  | singleQuote .. => "SingleQuoteError"
  | noInstruction .. => "StatementError"
  | missingComma .. => "MissingCommaError"
  | missingEnd .. => "MissingEndError"
  | badLabel .. => "InvalidLabelError"
  | duplicateLabel .. => "DuplicateLabelError"
  | unknownLabel .. => "LabelNotFoundError"
  | numberTooLarge .. => "InvalidNumberError"
  | charTooLarge .. => "InvalidStringError"
  | jumpTooFar .. => "JumpDistanceError"
  | outOfMemory .. => "EndOfMemoryError"
  | wrongOperand .. => "OperandTypeError"
  | badAddress .. => "AddressError"

/-- The operand kinds a diagnostic says were expected: those of a wrong operand, a number or a
register for a bad address. -/
def expected? : Diagnostic → Option (List OperandKind)
  | wrongOperand _ kinds _ => some kinds
  | badAddress .. => some [.number, .register]
  | _ => none

/-- The kinds in a message: `a`, `a or b`, `a, b or c`. -/
def wanted (kinds : List OperandKind) : String :=
  match kinds.map OperandKind.noun |>.reverse with
  | [] => "operand"
  | [one] => one
  | last :: earlier => ", ".intercalate earlier.reverse ++ " or " ++ last

/-- The message of a diagnostic, without its position. -/
def message : Diagnostic → String
  | unexpectedChar c _ => "unexpected character '" ++ String.singleton c ++ "'"
  | unterminatedAddress raw _ => s!"Unterminated square brackets '{raw}'."
  | unterminatedString raw _ => s!"Unterminated string '{raw}'."
  | singleQuote raw _ => s!"Single quote is not allowed: '{raw}'."
  | noInstruction raw _ afterLabel =>
    let what := if afterLabel then "instruction" else "label or instruction"
    s!"Expected {what}, got '{raw}'."
  | missingComma raw _ => s!"Expected comma, got '{raw}'."
  | missingEnd _ => "Expected END at the end of the source."
  | badLabel name _ => s!"Label should contain only letters or underscores, got '{name}'."
  | duplicateLabel name _ _ => s!"Duplicate label '{name}'."
  | unknownLabel name _ _ => s!"Label '{name}' does not exist."
  | numberTooLarge numeral _ => s!"Number '{numeral}' is greater than FF."
  | charTooLarge c _ _ => "Character code of '" ++ String.singleton c ++ "' is greater than FF."
  | jumpTooFar _ distance _ => s!"Jump distance should be between -128 and 127, got {distance}."
  | outOfMemory _ => "Can not generate code beyond the end of RAM."
  | wrongOperand raw kinds _ => s!"Expected {wanted kinds}, got '{raw}'."
  | badAddress raw _ => s!"Expected a number or register inside brackets, got '{raw}'."

/-- The hint that suggests a fix, for the kinds that have one. -/
def hint : Diagnostic → Option String
  | unterminatedAddress .. => some "addresses are written as [C0] or [BL]"
  | singleQuote .. => some "use double quotes for string literals"
  | missingEnd _ => some "add END as the last statement"
  | duplicateLabel name _ first => some s!"'{name}' was first defined at {first.startPos.render}"
  | unknownLabel _ _ similar =>
    if similar.isEmpty then none
    else some ("did you mean " ++ ", ".intercalate ((similar.take 3).map fun s => s!"'{s}'") ++ "?")
  | jumpTooFar name _ _ => some s!"move '{name}' closer to the jump"
  | _ => none

/-- The line of `source` that a diagnostic points into, if the source has that many lines. -/
def sourceLine (d : Diagnostic) (source : String) : Option String :=
  (Text.lines source)[d.span.startPos.line - 1]?

/-- The number of carets under the offending text: one for each character of the span when it
ends on the line it starts on, but at least one, and one otherwise. -/
def caretWidth (d : Diagnostic) : Nat :=
  let s := d.span
  if s.stopPos.line = s.startPos.line then max 1 (s.stopPos.column - s.startPos.column) else 1

/-- The diagnostic as shown to a reader: position and message, then the source line with carets
under the offending text when the line is known, then the hint. -/
def render (d : Diagnostic) (line : Option String) : String :=
  let s := d.span
  let head := s.startPos.render ++ ": error: " ++ d.message
  let shown := match line with
    | some text =>
      [text, String.ofList (List.replicate s.startPos.column ' ' ++ List.replicate d.caretWidth '^')]
    | none => []
  let advice := match d.hint with
    | some h => if h.isEmpty then [] else ["hint: " ++ h]
    | none => []
  "\n".intercalate (head :: shown ++ advice)

/-- A position as a JSON object. -/
def positionRecord (p : Position) : String :=
  "\x7b\"line\": " ++ toString p.line ++ ", \"column\": " ++ toString p.column ++ "\x7d"

/-- A span as a JSON object: its offsets, then the positions of its ends. -/
def spanRecord (s : Span) : String :=
  "\x7b\"start\": " ++ toString s.start ++ ", \"end\": " ++ toString s.stop ++
    ", \"loc\": \x7b\"start\": " ++ positionRecord s.startPos ++ ", \"end\": " ++
    positionRecord s.stopPos ++ "\x7d\x7d"

/-- The diagnostic as a JSON record of its kind, message and span. -/
def record (d : Diagnostic) : String :=
  "\x7b\"name\": " ++ Text.jsonString d.kindName ++ ", \"message\": " ++ Text.jsonString d.message ++
    ", \"range\": " ++ spanRecord d.span ++ "\x7d"

end Diagnostic

end ByteAsm
