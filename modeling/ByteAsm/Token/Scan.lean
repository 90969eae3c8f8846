import ByteAsm.Token
import ByteAsm.Failure
import ByteAsm.Text.Blank
import ByteAsm.Text.WordChar
import ByteAsm.Text.CaseFold

/-!
# Scanning source text into tokens

At each point of the text the scanner takes the first of: white space or a comment from `;` to
the end of the line, which it skips; a comma or a colon; decimal digits, or a register name of the
table in any case, longest first, either ended by a word boundary; an address `[` … `]` or a
string `"` … `"`, the shortest followed by a separator; and a bare word up to white space, `;`,
`,` or `:`. Scanning stops after the first token whose value is the terminator.

A table with no register names, or with an empty one, has a register pattern that matches the
empty text; unless the empty register token it gives is the terminator, scanning finds it again
at the same point without end (`Failure.endless`).
-/

namespace ByteAsm

namespace Token

open Text

/-- What the scanner finds at a point of the text: text to skip, or a token of some kind. -/
inductive Lexeme where
  | skip
  | token (kind : TokenKind)
deriving DecidableEq, Repr

/-- Whether a separator may follow an address or a string that ends before `rest`: white
space, a semicolon, a comma, or the end of the text. -/
def separatedAt (rest : List Char) : Bool :=
  match rest with
  | [] => true
  | c :: _ => isBlank c || c == ';' || c == ','

/-- The length of the shortest head of `cs` that ends with `closer` followed by a separator,
all of whose earlier characters satisfy `allowed`. -/
def closedLength (closer : Char) (allowed : Char → Bool) : List Char → Option Nat
  | [] => none
  | c :: rest =>
    if c = closer ∧ separatedAt rest then some 1
    else if allowed c then (closedLength closer allowed rest).map (· + 1)
    else none

/-- The length of the run of decimal digits at the head of `cs`, if a word boundary ends it. -/
def digitsLength? (cs : List Char) : Option Nat :=
  let n := (cs.takeWhile Char.isDigit).length
  if n = 0 then none
  else
    match cs.drop n with
    | [] => some n
    | c :: _ => if isWordChar c then none else some n

/-- Whether the head of `cs` spells `name`, ignoring case. -/
def spells : List Char → List Char → Bool
  | [], _ => true
  | p :: ps, c :: cs => caselessMatch p c && spells ps cs
  | _ :: _, [] => false

/-- Whether a word boundary lies after the first `n` characters of `cs`, where `n` is positive. -/
def boundaryAfter (cs : List Char) (n : Nat) : Bool :=
  let before := match cs[n - 1]? with
    | some c => isWordChar c
    | none => false
  let after := match cs[n]? with
    | some c => isWordChar c
    | none => false
  before != after

/-- The length of the first of `names` that the head of `cs` spells, ignoring case, with a word
boundary after it. -/
def registerLength? (names : List String) (cs : List Char) : Option Nat :=
  names.findSome? fun name =>
    let p := name.toList
    if !p.isEmpty && spells p cs && boundaryAfter cs p.length then some p.length else none

/-- Whether `c` ends a bare word. -/
def endsWord (c : Char) : Bool :=
  isBlank c || c == ';' || c == ',' || c == ':'

/-- The first lexeme at the head of `cs`, with its length; `names` are the register names in the
order they are tried. -/
def Lexeme.next (names : List String) (cs : List Char) : Option (Lexeme × Nat) :=
  match cs with
  | [] => none
  | c :: rest =>
    if isBlank c then some (.skip, 1 + (rest.takeWhile isBlank).length)
    else if c = ';' then some (.skip, 1 + (rest.takeWhile (· ≠ '\n')).length)
    else if c = ',' then some (.token .comma, 1)
    else if c = ':' then some (.token .colon, 1)
    else
      ((digitsLength? cs).map fun n => (.token .digits, n)) <|>
      ((registerLength? names cs).map fun n => (.token .register, n)) <|>
      ((if c = '[' then closedLength ']' (fun x => !isBlank x) rest else none).map
        fun n => (.token .address, n + 1)) <|>
      ((if c = '"' then closedLength '"' (fun x => x != '\r' && x != '\n') rest else none).map
        fun n => (.token .text, n + 1)) <|>
      (let n := (cs.takeWhile (fun x => !endsWord x)).length
       if n = 0 then none else some (.token .bare, n))

/-- Whether the pattern of the register names `names` matches the empty text: it has no names,
its alternation then being empty, or one of its names is empty. -/
def matchesEmpty (names : List String) : Bool :=
  names.isEmpty || names.any (·.isEmpty)

/-- Whether a word boundary lies at the head of `cs`, where `wordBefore` tells whether a word
character comes before it. -/
def boundaryAt (wordBefore : Bool) (cs : List Char) : Bool :=
  wordBefore != cs.head?.any isWordChar

/-- The lexeme at the head of `cs`, where `wordBefore` tells whether a word character comes
before it: that of `Lexeme.next`, except that a register pattern that matches the empty text
finds the empty name at a word boundary before an address, a string or a bare word. -/
def Lexeme.at (names : List String) (wordBefore : Bool) (cs : List Char) :
    Option (Lexeme × Nat) :=
  match Lexeme.next names cs with
  | some (.token kind, n) =>
    if (kind == .address || kind == .text || kind == .bare) && matchesEmpty names &&
        boundaryAt wordBefore cs then some (.token .register, 0)
    else some (.token kind, n)
  | other => other

/-- A lexeme is the one that `Lexeme.next` finds, or the empty register name at a word boundary,
where the register pattern matches the empty text. -/
theorem Lexeme.at_eq_next_or {names : List String} {wordBefore : Bool} {cs : List Char}
    {lexeme : Lexeme} {n : Nat} (h : Lexeme.at names wordBefore cs = some (lexeme, n)) :
    Lexeme.next names cs = some (lexeme, n) ∨
      lexeme = .token .register ∧ n = 0 ∧ matchesEmpty names = true ∧
        boundaryAt wordBefore cs = true := by
  unfold Lexeme.at at h
  split at h
  · next kind m hnext =>
    split at h
    · next hempty =>
      cases h
      simp only [Bool.and_eq_true] at hempty
      exact .inr ⟨rfl, rfl, hempty.1.2, hempty.2⟩
    · cases h
      exact .inl hnext
  · next other hnext =>
    rw [← h]
    exact .inl rfl

/-- Where the register pattern does not match the empty text, a lexeme is the one that
`Lexeme.next` finds. -/
theorem Lexeme.at_of_matchesEmpty_eq_false {names : List String} (wordBefore : Bool)
    (cs : List Char) (h : matchesEmpty names = false) :
    Lexeme.at names wordBefore cs = Lexeme.next names cs := by
  unfold Lexeme.at
  split
  · next hnext => simp [h, hnext]
  · rfl

/-- The tokens of `cs`, the text from offset `offset` on, which starts at position `pos` after a
word character if `wordBefore`. -/
def scanFrom (terminator : String) (names : List String) (wordBefore : Bool) (cs : List Char)
    (offset : Nat) (pos : Position) : Except Failure (List Token) :=
  match cs with
  | [] => .ok []
  | c :: more =>
    match Lexeme.at names wordBefore (c :: more) with
    | none => .error (.diagnostic (.unexpectedChar c ⟨offset, offset, pos, pos⟩))
    | some (lexeme, n) =>
      let raw := (c :: more).take n
      let stopPos := pos.advance raw
      let rest := (c :: more).drop n
      let wordAfter := raw.getLast?.any isWordChar
      match lexeme with
      | .skip =>
        if _hn : n = 0 then .error .endless
        else scanFrom terminator names wordAfter rest (offset + n) stopPos
      | .token kind =>
        let token := make kind (String.ofList raw) ⟨offset, offset + n, pos, stopPos⟩
        if token.value == terminator then .ok [token]
        else if _hn : n = 0 then .error .endless
        else (scanFrom terminator names wordAfter rest (offset + n) stopPos).map (token :: ·)
termination_by cs.length
decreasing_by all_goals (simp only [List.length_drop, List.length_cons]; omega)

/-- The tokens of `source` under the instruction table `set`. -/
def scan (set : InstructionSet) (source : String) : Except Failure (List Token) :=
  scanFrom set.terminator set.registerNamesByLength false source.toList 0 Position.start

/-- The number of the line where scanning `source` into `tokens` stopped: the last line of the
terminator if scanning stopped there, otherwise the last line of the text. -/
def linesScanned (set : InstructionSet) (source : String) (tokens : List Token) : Nat :=
  match tokens.getLast? with
  | some last => if last.value == set.terminator then last.span.stopPos.line
    else (Position.start.advance source.toList).line
  | none => (Position.start.advance source.toList).line

end Token

end ByteAsm
