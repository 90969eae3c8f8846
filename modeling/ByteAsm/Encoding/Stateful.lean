import ByteAsm.Encoding.Error

/-!
# Encodings with a state

Some encodings switch between character sets inside the text, by escape sequences or shift
bytes, so that what a byte means depends on what came before it. Such an encoding is read by a
step that looks at the bytes ahead in a state and either gives characters, having used some
bytes, in a new state; or finds the bytes ahead illegal, blaming a number of them; or finds the
text ending in the middle of a sequence; or meets a state it has no rule for.

Decoding runs the steps from the start of the text and stops at the first failure.
-/

namespace ByteAsm

namespace Encoding

/-- What one step of a stateful encoding does with the bytes ahead. -/
inductive Advance (σ : Type) where
  /-- The characters `cs` stand for the first `used` bytes, after which the state is `next`. -/
  | emit (cs : List Char) (used : Nat) (next : σ)
  /-- The first `length` bytes are illegal. -/
  | illegal (length : Nat)
  /-- The text ends in the middle of a sequence. -/
  | incomplete
  /-- The state has no rule for the bytes ahead. -/
  | fault

/-- Decode `input`, which starts at position `pos` of a text of `total` bytes, with the step
`step` of the encoding named `name`, from the state `state`. A step that uses no bytes is a
fault. -/
def runSteps {σ : Type} (name : String) (step : σ → List Nat → Advance σ) (input : List Nat)
    (pos total : Nat) (state : σ) : Except DecodeError (List Char) :=
  match input with
  | [] => .ok []
  | b :: more =>
    match step state (b :: more) with
    | .emit _ 0 _ => .error .codecFault
    | .emit cs (n + 1) next =>
      (runSteps name step (more.drop n) (pos + n + 1) total next).map (cs ++ ·)
    | .illegal n => .error (.invalid name b pos (pos + n) "illegal multibyte sequence")
    | .incomplete => .error (.invalid name b pos total "incomplete multibyte sequence")
    | .fault => .error .codecFault
termination_by input.length
decreasing_by simp only [List.length_drop, List.length_cons]; omega

end Encoding

end ByteAsm
