import ByteAsm.Encoding.Punycode
import ByteAsm.Encoding.Nameprep

/-!
# Internationalized domain names

A domain name (RFC 3490) is read as ASCII and cut at its dots into labels. A label that starts
with the prefix `xn--` is Punycode for the label in Unicode. It is accepted only if it reads
back: writing the label in ASCII again, through nameprep and Punycode, must give the label
written in lower case. Other labels stand for themselves. A dot at the end of the name stays. A
failure to read Punycode is reported as a failure of that codec.

Writing a label in ASCII fails when it comes out empty or longer than 63 characters, when
nameprep refuses it, and when it starts with the prefix after nameprep but holds characters
outside ASCII.
-/

namespace ByteAsm

namespace Idna

/-- The prefix of a label written in Punycode. -/
def acePrefix : List Char := ['x', 'n', '-', '-']

/-- How an error shows a label: as a literal byte string. -/
def bytesLiteral (label : List Char) : String :=
  "b" ++ Text.quote (String.ofList label)

/-- The label `label` if its length is allowed. -/
def sized (label : List Char) : Except DecodeError (List Char) :=
  if 0 < label.length ∧ label.length < 64 then .ok label
  else .error (.refused "label empty or too long")

/-- Write the label of code points `label` in ASCII. -/
def toAscii (label : List Nat) : Except DecodeError (List Char) :=
  if label.all (· < 0x80) then sized (label.map Char.ofNat)
  else
    match Nameprep.prepare label with
    | .error e => .error (.refused e.message)
    | .ok prepared =>
      let chars := prepared.map Char.ofNat
      if prepared.all (· < 0x80) then sized chars
      else if acePrefix.isPrefixOf chars then .error (.refused "Label starts with ACE prefix")
      else sized (acePrefix ++ Punycode.encode chars)

/-- A failure of Punycode inside a label, reported as a failure of decoding with that codec,
with the failure's own words. -/
def punycodeFailure : DecodeError → DecodeError
  | .refused reason =>
    .refused ("decoding with 'punycode' codec failed (UnicodeError: " ++ reason ++ ")")
  | other => other

/-- Read the ASCII label `label` in Unicode. -/
def toUnicode (label : List Char) : Except DecodeError (List Char) :=
  if acePrefix.isPrefixOf label then do
    let result ← (Punycode.decodeCodes ((label.drop acePrefix.length).map Char.toNat)).mapError
      punycodeFailure
    let back ← toAscii result
    if label.map Char.toLower = back then pure (result.map Encoding.charOfCode)
    else .error (.refused ("('IDNA does not round-trip', " ++ bytesLiteral label ++ ", " ++
      bytesLiteral back ++ ")"))
  else .ok label

/-- Decode a domain name. -/
def decode (bytes : List Nat) : Except DecodeError (List Char) :=
  if bytes.isEmpty then .ok []
  else do
    let text ← Punycode.asciiText bytes
    let labels := text.splitOn '.'
    let (labels, dot) := if labels.getLast? = some [] then (labels.dropLast, ['.']) else (labels, [])
    let read ← labels.mapM toUnicode
    pure (['.'].intercalate read ++ dot)

end Idna

end ByteAsm
