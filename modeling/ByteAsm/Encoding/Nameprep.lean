import ByteAsm.Text.Normalization
import ByteAsm.Text.Quoted
import ByteAsm.Encoding.Nameprep.Data

/-!
# Nameprep

Nameprep (RFC 3491) prepares a label of an internationalized domain name before it is written in
ASCII. It maps a few invisible characters to nothing and folds case, puts the text into
normalization form KC, refuses prohibited characters, and checks the direction of writing: a
label that holds a character written from right to left may hold none written from left to
right, and must start and end with one written from right to left.

Labels are code points here, since a label read from Punycode may hold a surrogate, which
nameprep refuses.
-/

namespace ByteAsm

namespace Nameprep

/-- Why a label cannot be prepared. -/
inductive PrepError where
  /-- The prepared label holds the prohibited code point. -/
  | prohibited (code : Nat)
  /-- The label mixes characters written in both directions. -/
  | mixedDirections
  /-- The label holds characters written from right to left but does not start and end with
  one. -/
  | rightToLeftEnds
deriving DecidableEq, Repr

/-- The quoted form of a single code point, a surrogate written by its code. -/
def quoteCode (c : Nat) : String :=
  if 0xD800 ≤ c ∧ c < 0xE000 then "'\\u" ++ String.ofList (Text.hexDigitsLower 4 c) ++ "'"
  else Text.quote (String.singleton (Char.ofNat c))

/-- The message that explains why a label cannot be prepared. -/
def PrepError.message : PrepError → String
  | .prohibited c => "Invalid character " ++ quoteCode c
  | .mixedDirections => "Violation of BIDI requirement 2"
  | .rightToLeftEnds => "Violation of BIDI requirement 3"

/-- The case folding, sorted by code point. -/
def folding : Array (Nat × List Nat) := Text.hexMap foldingRows

/-- The prohibited code points, as sorted ranges. -/
def prohibited : Array (Nat × Nat) := Text.hexRanges prohibitedRows

/-- The characters written from right to left, as sorted ranges. -/
def rightToLeft : Array (Nat × Nat) := Text.hexRanges rightToLeftRows

/-- The characters written from left to right, as sorted ranges. -/
def leftToRight : Array (Nat × Nat) := Text.hexRanges leftToRightRows

/-- What the code point `c` is mapped to before normalization. -/
def mapCode (c : Nat) : List Nat :=
  if mappedToNothing.contains c then [] else (Text.mapLookup folding c).getD [c]

/-- Check the direction of writing of a prepared label. -/
def checkDirections (label : List Nat) : Except PrepError (List Nat) :=
  let fromRight := label.map (Text.inRanges rightToLeft)
  if !fromRight.any id then .ok label
  else if label.any (Text.inRanges leftToRight) then .error .mixedDirections
  else if fromRight.head? = some true ∧ fromRight.getLast? = some true then .ok label
  else .error .rightToLeftEnds

/-- Prepare a label. -/
def prepare (label : List Nat) : Except PrepError (List Nat) :=
  let normal := Text.formKC (label.flatMap mapCode)
  match normal.find? (Text.inRanges prohibited) with
  | some c => .error (.prohibited c)
  | none => checkDirections normal

end Nameprep

end ByteAsm
