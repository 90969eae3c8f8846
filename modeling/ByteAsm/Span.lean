/-!
# Positions and spans of source text

A position names a place in source text by line and column: lines count from one, columns from
zero, and only the line feed starts a new line, so a column counts the characters since the
last line feed. A span is a stretch of the text, given by the character offsets of its first
character and of the character after its last, together with their positions. Every token and
every diagnostic carries a span.
-/

namespace ByteAsm

/-- A place in source text: a line, counted from one, and a column, counted from zero. -/
structure Position where
  line : Nat
  column : Nat
deriving DecidableEq, Repr, Inhabited

namespace Position

/-- The position of the first character of a text. -/
def start : Position := ⟨1, 0⟩

/-- The position after reading `text` from `p`: a line feed moves to the start of the next line,
any other character one column on. -/
def advance (p : Position) : List Char → Position
  | [] => p
  | c :: rest =>
    let next : Position := if c = '\n' then ⟨p.line + 1, 0⟩ else ⟨p.line, p.column + 1⟩
    next.advance rest

/-- The position just after the text `before`: its line is one more than the number of line
feeds in `before`, and its column the number of characters after the last of them. -/
def after (before : List Char) : Position :=
  ⟨before.count '\n' + 1, (before.reverse.takeWhile (· ≠ '\n')).length⟩

/-- The position of the character at offset `k` of `source`, from the text before it. -/
def ofOffset (source : List Char) (k : Nat) : Position :=
  after (source.take k)

@[simp]
theorem after_nil : after [] = start := rfl

theorem after_append_singleton (before : List Char) (c : Char) :
    after (before ++ [c]) =
      if c = '\n' then ⟨(after before).line + 1, 0⟩
      else ⟨(after before).line, (after before).column + 1⟩ := by
  by_cases h : c = '\n'
  · subst h
    simp [after, List.count_append]
  · simp [after, List.count_append, h]

/-- Reading `text` from the position after `before` ends at the position after both. -/
theorem advance_after (before text : List Char) :
    (after before).advance text = after (before ++ text) := by
  induction text generalizing before with
  | nil => simp [advance]
  | cons c rest ih =>
    rw [advance, ← after_append_singleton, ih]
    simp

theorem start_advance_take (source : List Char) (k : Nat) :
    start.advance (source.take k) = ofOffset source k := by
  rw [← after_nil, advance_after]
  rfl

/-- The position written as `line:column`, as diagnostics show it. -/
def render (p : Position) : String :=
  s!"{p.line}:{p.column}"

end Position

/-- A stretch of source text: the offset of its first character, the offset just past its last,
and the positions of both. -/
structure Span where
  start : Nat
  stop : Nat
  startPos : Position
  stopPos : Position
deriving DecidableEq, Repr, Inhabited

namespace Span

/-- The empty span at the start of the text, for a diagnostic with nothing to point at. -/
def empty : Span := ⟨0, 0, Position.start, Position.start⟩

/-- The span from the start of `first` to the end of `last`. -/
def cover (first last : Span) : Span :=
  ⟨first.start, last.stop, first.startPos, last.stopPos⟩

/-- The empty span at the end of `s`. -/
def atEnd (s : Span) : Span :=
  ⟨s.stop, s.stop, s.stopPos, s.stopPos⟩

end Span

end ByteAsm
