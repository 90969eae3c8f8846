import ByteAsm.Span
import ByteAsm.Text.UpperCase

/-!
# Tokens

A token is a piece of source text with a kind: a comma, a colon, a run of decimal digits, a
register name, an address in brackets, a string in double quotes, or a bare word (a mnemonic, a
label, a hexadecimal number, or anything else the other kinds do not take). A token keeps its
text as written and its value: the text without one pair of enclosing brackets or quotes, in
upper case for registers, addresses and bare words, where the language ignores case.
-/

namespace ByteAsm

/-- The kinds of token. -/
inductive TokenKind where
  | comma
  | colon
  | digits
  | register
  | address
  | text
  | bare
deriving DecidableEq, Repr, Inhabited

/-- Whether the value of a token of this kind is in upper case. -/
def TokenKind.ignoresCase : TokenKind → Bool
  | .register | .address | .bare => true
  | _ => false

/-- A token: its kind, its value, its text as written and the span of that text. -/
structure Token where
  kind : TokenKind
  value : String
  raw : String
  span : Span
deriving Repr, Inhabited

namespace Token

/-- The inside of `rest`, the text after an opening bracket or quote, when it ends with the
matching `closer`, or with the closer and one line feed. -/
def inside (closer : Char) (rest : List Char) : Option (List Char) :=
  if rest.getLast? = some closer then some rest.dropLast
  else if rest.getLast? = some '\n' ∧ rest.dropLast.getLast? = some closer then
    some rest.dropLast.dropLast
  else none

/-- The text without one pair of enclosing square brackets or double quotes; a closing bracket
or quote may be followed by one line feed. Other text is kept as it is. -/
def unwrap (s : String) : String :=
  match s.toList with
  | '[' :: rest => match inside ']' rest with
    | some body => String.ofList body
    | none => s
  | '"' :: rest => match inside '"' rest with
    | some body => String.ofList body
    | none => s
  | _ => s

/-- The value of a token of kind `kind` written as `raw`. -/
def valueOf (kind : TokenKind) (raw : String) : String :=
  if kind.ignoresCase then Text.upper (unwrap raw) else unwrap raw

/-- The token of kind `kind` written as `raw` at `span`. -/
def make (kind : TokenKind) (raw : String) (span : Span) : Token :=
  ⟨kind, valueOf kind raw, raw, span⟩

end Token

end ByteAsm
