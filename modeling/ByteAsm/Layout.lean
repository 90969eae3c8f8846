import ByteAsm.Statement
import ByteAsm.Failure
import ByteAsm.OrderedMap

/-!
# Layout: the addresses of labels

The first pass walks the statements with a location counter that starts at address zero. A label
is bound to the counter's value at the statement it precedes, and may be declared only once. The
origin directive sets the counter to its operand's value and takes no room itself; every other
statement moves it on by its size, counting one byte for a jump's distance that is not known
yet. A statement other than the last may not end beyond the last address, `FF`.

An origin directive whose operand is no number leaves the counter at a value that is no address.
A label may still be bound to it, and a later origin directive may set the counter again, but a
statement that takes room fails there.
-/

namespace ByteAsm

/-- The value the origin directive `s` sets the location counter to: its first operand's value.
A statement without operands fails. -/
def Statement.originTarget (s : Statement) : Except Failure OperandValue :=
  match s.operands with
  | [] => .error .originWithoutOperand
  | o :: _ => .ok o.value

namespace Layout

/-- The label table after binding the label of `s`, if it has one, to `counter`; `declared`
holds the span of each label's first declaration. -/
def bindLabel (labels : OrderedMap String OperandValue) (declared : List (String × Span))
    (s : Statement) (counter : OperandValue) :
    Except Failure (OrderedMap String OperandValue × List (String × Span)) :=
  match s.label with
  | none => .ok (labels, declared)
  | some l =>
    match declared.lookup l.name with
    | some first => .error (.diagnostic (.duplicateLabel l.name l.span first))
    | none => .ok (labels.insert l.name counter, declared ++ [(l.name, l.span)])

/-- Lay out `statements` from the counter's value `counter` on, with the labels bound so far. -/
def walk (set : InstructionSet) : List Statement → OrderedMap String OperandValue →
    List (String × Span) → OperandValue → Except Failure (OrderedMap String OperandValue)
  | [], labels, _, _ => .ok labels
  | s :: rest, labels, declared, counter =>
    match bindLabel labels declared s counter with
    | .error f => .error f
    | .ok (labels, declared) =>
      if s.mnemonic = set.origin then
        match s.originTarget with
        | .error f => .error f
        | .ok target => walk set rest labels declared target
      else
        match counter with
        | .scalar a =>
          let next := a + s.size
          if next > 0xFF ∧ !rest.isEmpty then .error (.diagnostic (.outOfMemory s.span))
          else walk set rest labels declared (.scalar next)
        | other => .error (.advanceFrom other.kind)

end Layout

/-- The value of every label of a program, in order of declaration. -/
def Layout.labels (set : InstructionSet) (statements : List Statement) :
    Except Failure (OrderedMap String OperandValue) :=
  Layout.walk set statements OrderedMap.empty [] (.scalar 0)

end ByteAsm
