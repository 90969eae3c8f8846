import ByteAsm.Text.Quoted

/-!
# Decoding errors

Reading bytes as text fails when no encoding has the name asked for, when the name belongs to a
codec that turns bytes into bytes rather than into text, or at the first bytes that the encoding
cannot read. Such bytes are reported by the codec's own name, their position and the reason; a
few codecs report a failure in words of their own. A codec can also reach a state it has no rule
for, which is a fault of the codec rather than of the text.
-/

namespace ByteAsm

/-- Why bytes cannot be read as text. -/
inductive DecodeError where
  /-- No encoding has this name. -/
  | unknownEncoding (name : String)
  /-- The name belongs to a codec from bytes to bytes. -/
  | notText (name : String)
  /-- The bytes from `start` up to `stop` are not valid in the codec `codec`; `byte` is the
  first of them. -/
  | invalid (codec : String) (byte start stop : Nat) (reason : String)
  /-- A UTF-16 or UTF-32 text of the given width in bits does not start with a byte order
  mark. -/
  | noByteOrderMark (width : Nat)
  /-- The codec refuses the text for the reason it gives. -/
  | refused (reason : String)
  /-- The codec reached a state that it has no rule for. -/
  | codecFault
deriving DecidableEq, Repr

/-- The longest prefix of `s` whose UTF-8 form has at most `limit` bytes, followed by a
replacement character if a character had to be cut. -/
def clipUtf8 (s : String) (limit : Nat) : String :=
  let kept := (s.toList.foldl (fun (acc : List Char × Nat) c =>
    if acc.2 + c.utf8Size ≤ limit then (c :: acc.1, acc.2 + c.utf8Size) else (acc.1, limit + 1)) ([], 0))
  if kept.2 = limit + 1 ∧ (String.ofList kept.1.reverse).utf8ByteSize < limit then
    String.ofList kept.1.reverse ++ "\uFFFD"
  else String.ofList kept.1.reverse

/-- The message that explains a decoding error. A codec's name in a refusal is cut to 400
bytes. -/
def DecodeError.message : DecodeError → String
  | .unknownEncoding name => "unknown encoding: " ++ name
  | .notText name =>
    "'" ++ clipUtf8 name 400 ++ "' is not a text encoding; use codecs.open() to handle arbitrary codecs"
  | .invalid codec byte start stop reason =>
    if stop = start + 1 then
      "'" ++ codec ++ "' codec can't decode byte 0x" ++ String.ofList (Text.hexDigitsLower 2 byte) ++
        " in position " ++ toString start ++ ": " ++ reason
    else "'" ++ codec ++ "' codec can't decode bytes in position " ++ toString start ++ "-" ++
      toString (stop - 1) ++ ": " ++ reason
  | .noByteOrderMark width => "UTF-" ++ toString width ++ " stream does not start with BOM"
  | .refused reason => reason
  | .codecFault => "internal codec error"

end ByteAsm
