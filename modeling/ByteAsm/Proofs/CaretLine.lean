import Mathlib
import ByteAsm.Proofs.DiagnosticAnchors
import ByteAsm.Proofs.TextAfterTerminator
import ByteAsm.Proofs.UpperCaseSource

/-!
# The line a diagnostic shows

A diagnostic's position counts lines by line feeds alone, while the line it shows is taken from
the source split at every line break (`Text.lines`). Where every line break is a line feed,
perhaps after a carriage return, the two agree, and under the SMS32 table the carets under a span
that ends on its own line cover exactly its text (`caret_underlines_offending_text`). A form feed
splits the shown line before the offending text (`form_feed_splits_shown_line`).
-/

namespace ByteAsm

namespace Text

/-- A line without the carriage return at its end, if it has one. -/
def dropReturn (line : List Char) : List Char :=
  if line.getLast? = some '\r' then line.dropLast else line

/-- The lines of `cs` split at line feeds alone, each without a carriage return at its end. -/
def feedLines (cs : List Char) : List (List Char) :=
  (cs.splitOn '\n').map dropReturn

/-- Whether every line break of `cs` is a line feed, or a carriage return right before one. -/
def breaksAtLineFeeds : List Char → Bool
  | [] => true
  | '\r' :: '\n' :: rest => breaksAtLineFeeds rest
  | c :: rest => (c == '\n' || !isLineBreak c) && breaksAtLineFeeds rest

section Lines

theorem take_dropReturn {head rest : List Char} (h : head.getLast? ≠ some '\r') :
    (dropReturn (head ++ rest)).take head.length = head := by
  unfold dropReturn
  split
  · next hlast =>
    have hrest : rest ≠ [] := by
      rintro rfl
      exact h (by simpa using hlast)
    rw [List.dropLast_append_of_ne_nil hrest, List.take_left]
  · exact List.take_left

theorem dropReturn_reverse {current : List Char}
    (hcurrent : ∀ x ∈ current, isLineBreak x = false) :
    dropReturn current.reverse = current.reverse := by
  unfold dropReturn
  rw [List.getLast?_reverse, if_neg]
  intro hhead
  have hmem := List.mem_of_mem_head? hhead
  exact absurd (hcurrent '\r' hmem) (by decide)

theorem ne_of_isLineBreak {c : Char} (h : isLineBreak c = false) : c ≠ '\n' ∧ c ≠ '\r' := by
  constructor <;> rintro rfl <;> exact absurd h (by decide)

theorem length_splitOn_lineFeed (cs : List Char) :
    (cs.splitOn '\n').length = cs.count '\n' + 1 := by
  induction cs with
  | nil => rfl
  | cons c rest ih =>
    rw [List.splitOn_cons_eq_if_modifyHead]
    by_cases hc : c = '\n'
    · subst hc
      simp [ih]
    · simp [hc, ih]

theorem head_splitOn_lineFeed (cs : List Char) :
    (cs.splitOn '\n')[0]? = some (cs.takeWhile (· != '\n')) := by
  induction cs with
  | nil => rfl
  | cons c rest ih =>
    rw [List.splitOn_cons_eq_if_modifyHead]
    by_cases hc : c = '\n'
    · subst hc
      simp
    · obtain ⟨l, ls, hls⟩ := List.exists_cons_of_ne_nil (List.splitOn_ne_nil '\n' rest)
      rw [hls] at ih ⊢
      simp only [List.getElem?_cons_zero, Option.some.injEq] at ih
      simp [hc, ih]

theorem feedLines_append {before : List Char} (hbefore : ∀ c ∈ before.getLast?, c = '\n')
    (cs : List Char) :
    (feedLines (before ++ cs))[before.count '\n']? =
      some (dropReturn (cs.takeWhile (· != '\n'))) := by
  rcases List.eq_nil_or_concat before with rfl | ⟨before', c, rfl⟩
  · simp [feedLines, head_splitOn_lineFeed]
  · have hc : c = '\n' := hbefore c (by simp)
    subst hc
    have hlength : (before'.splitOn '\n').length = (before' ++ ['\n']).count '\n' := by
      simp [length_splitOn_lineFeed]
    rw [feedLines, List.concat_eq_append, List.append_assoc, List.singleton_append,
      List.splitOn_append_cons_self, List.map_append,
      List.getElem?_append_right (by rw [List.length_map, hlength]), List.length_map, hlength,
      Nat.sub_self, List.getElem?_map, head_splitOn_lineFeed]
    rfl

theorem getLast?_all_lineFeed (xs rest : List Char) :
    (xs ++ '\n' :: rest).getLast?.all (· == '\n') = rest.getLast?.all (· == '\n') := by
  rcases List.eq_nil_or_concat rest with rfl | ⟨rest', c, rfl⟩
  · simp
  · rw [List.concat_eq_append, ← List.cons_append, ← List.append_assoc, List.getLast?_concat,
      List.getLast?_concat]

theorem splitOnPPrepend_lineFeed {cs current : List Char} (hbreaks : breaksAtLineFeeds cs = true)
    (hcurrent : ∀ x ∈ current, isLineBreak x = false) :
    (cs.splitOnPPrepend (· == '\n') current).map dropReturn =
      splitLines cs current ++
        bif (current.reverse ++ cs).getLast?.all (· == '\n') then [[]] else [] := by
  fun_induction splitLines cs current with
  | case1 => rfl
  | case2 current hne =>
    obtain ⟨x, xs, rfl⟩ := List.exists_cons_of_ne_nil hne
    have hx : (x == '\n') = false :=
      beq_eq_false_iff_ne.2 (ne_of_isLineBreak (hcurrent x List.mem_cons_self)).1
    rw [List.splitOnPPrepend_nil, List.append_nil, List.getLast?_reverse, List.map_singleton,
      dropReturn_reverse hcurrent]
    simp [hx]
  | case3 rest current ih =>
    have hrest : breaksAtLineFeeds rest = true := by simpa [breaksAtLineFeeds] using hbreaks
    rw [List.splitOnPPrepend_cons_neg (by decide), List.splitOnPPrepend_cons_pos (by decide),
      List.map_cons, List.splitOnP_eq_splitOnPPrepend, ih hrest (by simp),
      List.reverse_cons, List.reverse_nil, List.nil_append, List.cons_append,
      show current.reverse ++ '\r' :: '\n' :: rest = (current.reverse ++ ['\r']) ++ '\n' :: rest
        by simp,
      getLast?_all_lineFeed]
    simp [dropReturn]
  | case4 c rest current hpat hbreak ih =>
    rw [breaksAtLineFeeds.eq_3 _ _ hpat] at hbreaks
    simp only [Bool.and_eq_true, Bool.or_eq_true, beq_iff_eq, hbreak, Bool.not_true,
      Bool.false_eq_true, or_false] at hbreaks
    obtain ⟨rfl, hrest⟩ := hbreaks
    rw [List.splitOnPPrepend_cons_pos (by decide), List.map_cons, List.splitOnP_eq_splitOnPPrepend,
      ih hrest (by simp), dropReturn_reverse hcurrent, getLast?_all_lineFeed]
    simp
  | case5 c rest current hpat hbreak ih =>
    rw [breaksAtLineFeeds.eq_3 _ _ hpat] at hbreaks
    have hc : isLineBreak c = false := by simpa using hbreak
    have hrest : breaksAtLineFeeds rest = true := by simp_all
    rw [List.splitOnPPrepend_cons_neg (by simpa using (ne_of_isLineBreak hc).1),
      ih hrest (by simpa [hc] using hcurrent)]
    simp

/-- Where every line break is a line feed, perhaps right after a carriage return, the lines of a
text are its lines split at line feeds, but for the empty line after a final line feed, or of the
empty text. -/
theorem feedLines_eq_splitLines {cs : List Char} (hbreaks : breaksAtLineFeeds cs = true) :
    feedLines cs = splitLines cs [] ++ bif cs.getLast?.all (· == '\n') then [[]] else [] := by
  simpa [feedLines, List.splitOn_eq_splitOnP] using
    @splitOnPPrepend_lineFeed cs [] hbreaks (by simp)

/-- In a text whose line breaks are line feeds, perhaps right after carriage returns, the line
that starts after `before`, which is empty or ends with a line feed, runs to the next line feed,
less a carriage return at its end, where the text goes on after `before`. -/
theorem splitLines_lineStart {before rest : List Char}
    (hbreaks : breaksAtLineFeeds (before ++ rest) = true)
    (hbefore : ∀ c ∈ before.getLast?, c = '\n') (hrest : rest ≠ []) :
    (splitLines (before ++ rest) [])[before.count '\n']? =
      some (dropReturn (rest.takeWhile (· != '\n'))) := by
  have hfeed := feedLines_append hbefore rest
  have hlength := congrArg List.length (feedLines_eq_splitLines hbreaks)
  rw [feedLines_eq_splitLines hbreaks] at hfeed
  rw [List.getLast?_append_of_ne_nil _ hrest] at hfeed hlength
  cases hend : rest.getLast?.all (· == '\n')
  · simpa [hend] using hfeed
  · obtain ⟨x, hx⟩ := Option.ne_none_iff_exists'.1 (mt List.getLast?_eq_none_iff.1 hrest)
    have hcount : 0 < rest.count '\n' := by
      have hx' : x = '\n' := by simpa [hx] using hend
      exact List.count_pos_iff.2 (hx' ▸ List.mem_of_getLast? hx)
    simp only [hend, cond_true, feedLines, List.length_map, length_splitOn_lineFeed,
      List.length_append, List.length_singleton, List.count_append] at hlength
    rwa [hend, cond_true, List.getElem?_append_left (by omega)] at hfeed

/-- Carets from the column of a stretch `stretch` of one line, as many as its characters, cover
exactly that stretch, where it does not end with a carriage return. -/
theorem caret_slice {head stretch : List Char} (hhead : '\n' ∉ head)
    (hstretch : '\n' ∉ stretch) (hne : stretch ≠ []) (hlast : stretch.getLast? ≠ some '\r')
    (rest : List Char) :
    ((dropReturn ((head ++ (stretch ++ rest)).takeWhile (· != '\n'))).drop head.length).take
      stretch.length = stretch := by
  have hpos : ∀ xs : List Char, '\n' ∉ xs → ∀ a ∈ xs, (a != '\n') = true := fun xs hxs a ha => by
    simpa using fun h : a = '\n' => hxs (h ▸ ha)
  have hend : (head ++ stretch).getLast? ≠ some '\r' := by
    rwa [List.getLast?_append_of_ne_nil _ hne]
  rw [List.takeWhile_append_of_pos (hpos head hhead),
    List.takeWhile_append_of_pos (hpos _ hstretch), ← List.append_assoc, List.take_drop,
    ← List.length_append, take_dropReturn hend, List.drop_left]

end Lines

end Text

namespace Position

theorem exists_lineStart (cs : List Char) :
    ∃ before head, cs = before ++ head ∧ (∀ c ∈ before.getLast?, c = '\n') ∧ '\n' ∉ head := by
  refine ⟨(cs.reverse.dropWhile (· != '\n')).reverse, (cs.reverse.takeWhile (· != '\n')).reverse,
    ?_, fun c hc => ?_, fun hmem => ?_⟩
  · rw [← List.reverse_append, List.takeWhile_append_dropWhile, List.reverse_reverse]
  · rw [List.getLast?_reverse] at hc
    have hnot := List.head?_dropWhile_not (· != '\n') cs.reverse
    rw [hc] at hnot
    simpa using hnot
  · have hnot := List.mem_takeWhile_imp (List.mem_reverse.1 hmem)
    simp at hnot

theorem after_lineStart {before head : List Char} (hbefore : ∀ c ∈ before.getLast?, c = '\n')
    (hhead : '\n' ∉ head) : after (before ++ head) = ⟨before.count '\n' + 1, head.length⟩ := by
  have hline : ∀ a ∈ head.reverse, decide (a ≠ '\n') = true := fun a ha => by
    simpa using fun h : a = '\n' => hhead (h ▸ List.mem_reverse.1 ha)
  have hstop : before.reverse.takeWhile (fun c => decide (c ≠ '\n')) = [] := by
    rcases List.eq_nil_or_concat before with rfl | ⟨before', c, rfl⟩
    · rfl
    · simp [hbefore c (by simp)]
  rw [after, List.count_append, List.count_eq_zero.2 hhead, List.reverse_append,
    List.takeWhile_append_of_pos hline, hstop]
  simp

theorem ofOffset_lineStart (cs : List Char) (k : Nat) :
    ∃ before head, cs.take k = before ++ head ∧ (∀ c ∈ before.getLast?, c = '\n') ∧
      '\n' ∉ head ∧ ofOffset cs k = ⟨before.count '\n' + 1, head.length⟩ := by
  obtain ⟨before, head, htake, hbefore, hhead⟩ := exists_lineStart (cs.take k)
  refine ⟨before, head, htake, hbefore, hhead, ?_⟩
  rw [ofOffset, htake, after_lineStart hbefore hhead]

end Position

namespace Token

open Text

theorem takeWhile_last {p : Char → Bool} {cs : List Char} (hn : 0 < (cs.takeWhile p).length) :
    ∃ c, cs[(cs.takeWhile p).length - 1]? = some c ∧ p c = true := by
  have hk : (cs.takeWhile p).length - 1 < (cs.takeWhile p).length := by omega
  exact ⟨_, List.prefix_iff_getElem?.1 (List.takeWhile_prefix p) _ hk,
    List.mem_takeWhile_imp (List.getElem_mem hk)⟩

theorem closedLength_last {closer : Char} {allowed : Char → Bool} {cs : List Char} {k : Nat}
    (h : closedLength closer allowed cs = some k) : cs[k - 1]? = some closer := by
  induction cs generalizing k with
  | nil => cases h
  | cons c rest ih =>
    unfold closedLength at h
    split at h
    · next hc =>
      cases h
      simp [hc.1]
    · split at h
      · obtain ⟨m, hm, rfl⟩ := Option.map_eq_some_iff.1 h
        obtain ⟨j, rfl⟩ : ∃ j, m = j + 1 := ⟨m - 1, by have := closedLength_pos hm; omega⟩
        simpa using ih hm
      · cases h

theorem closedLength_last_cons {closer c : Char} {allowed : Char → Bool} {rest : List Char}
    {m : Nat} (h : closedLength closer allowed rest = some m) :
    (c :: rest)[m + 1 - 1]? = some closer := by
  obtain ⟨j, rfl⟩ : ∃ j, m = j + 1 := ⟨m - 1, by have := closedLength_pos h; omega⟩
  simpa using closedLength_last h

theorem spells_getElem? {p cs : List Char} (h : spells p cs = true) {i : Nat} (hi : i < p.length) :
    ∃ c, cs[i]? = some c ∧ caselessMatch p[i] c = true := by
  induction p generalizing cs i with
  | nil => cases hi
  | cons q ps ih =>
    cases cs with
    | nil => cases h
    | cons c rest =>
      simp only [spells, Bool.and_eq_true] at h
      cases i with
      | zero => exact ⟨c, rfl, h.1⟩
      | succ i => simpa using ih h.2 (by simpa using hi)

variable {names : List String}
  (hnames : ∀ name ∈ names, ∀ q ∈ name.toList, ∀ b, isBlank b = true → caselessMatch q b = false)

include hnames

theorem registerLength?_last {cs : List Char} {n : Nat} (h : registerLength? names cs = some n) :
    ∃ c, cs[n - 1]? = some c ∧ isBlank c = false := by
  obtain ⟨name, hname, hmatch⟩ := List.exists_of_findSome?_eq_some h
  simp only [Bool.and_eq_true, Bool.not_eq_true', List.isEmpty_eq_false_iff] at hmatch
  split_ifs at hmatch with hcases
  cases hmatch
  obtain ⟨⟨hne, hspells⟩, -⟩ := hcases
  have hi : name.toList.length - 1 < name.toList.length := by
    have := List.length_pos_iff.2 hne
    omega
  obtain ⟨c, hc, hmatch⟩ := spells_getElem? hspells hi
  refine ⟨c, hc, ?_⟩
  cases hb : isBlank c
  · rfl
  · rw [hnames name hname _ (List.getElem_mem hi) c hb] at hmatch
    cases hmatch

theorem Lexeme.next_last {cs : List Char} {kind : TokenKind} {n : Nat}
    (h : Lexeme.next names cs = some (.token kind, n)) :
    ∃ c, cs[n - 1]? = some c ∧ isBlank c = false := by
  unfold Lexeme.next at h
  split at h
  · cases h
  · next c rest =>
    split at h
    · cases h
    split at h
    · cases h
    split at h
    · next hcomma =>
      cases h
      exact ⟨c, rfl, by rw [hcomma]; decide⟩
    split at h
    · next hcolon =>
      cases h
      exact ⟨c, rfl, by rw [hcolon]; decide⟩
    simp only [Option.orElse_eq_orElse, Option.orElse_eq_or, Option.or_eq_some_iff,
      Option.map_eq_some_iff, Prod.mk.injEq, Lexeme.token.injEq] at h
    rcases h with ⟨m, hdigits, -, rfl⟩ | ⟨-, ⟨m, hregister, -, rfl⟩ | ⟨-, ⟨m, haddress, -, rfl⟩ |
      ⟨-, ⟨m, hstring, -, rfl⟩ | ⟨-, hbare⟩⟩⟩⟩
    · rw [digitsLength?_eq hdigits]
      obtain ⟨d, hd, hdigit⟩ := takeWhile_last (digitsLength?_eq hdigits ▸ digitsLength?_pos hdigits)
      refine ⟨d, hd, ?_⟩
      cases hb : isBlank d
      · rfl
      · rw [isDigit_of_isBlank hb] at hdigit
        cases hdigit
    · exact registerLength?_last hnames hregister
    · split_ifs at haddress
      exact ⟨']', closedLength_last_cons haddress, by decide⟩
    · split_ifs at hstring
      exact ⟨'"', closedLength_last_cons hstring, by decide⟩
    · split_ifs at hbare with hzero
      cases hbare
      obtain ⟨d, hd, hword⟩ := takeWhile_last (Nat.pos_of_ne_zero hzero)
      exact ⟨d, hd, by simp_all [endsWord]⟩

theorem Lexeme.next_ends {source : List Char} {offset n : Nat} {kind : TokenKind}
    (h : Lexeme.next names (source.drop offset) = some (.token kind, n)) :
    offset < offset + n ∧ ∃ c, source[offset + n - 1]? = some c ∧ isBlank c = false := by
  have hn := (Lexeme.next_length h).1
  obtain ⟨c, hc, hblank⟩ := Lexeme.next_last hnames h
  rw [List.getElem?_drop, show offset + (n - 1) = offset + n - 1 by omega] at hc
  exact ⟨by omega, c, hc, hblank⟩

/-- Scanning the rest of `source` from offset `offset`, where the register pattern does not match
the empty text and no register name matches white space, gives tokens that are not empty and end
with a character that is no white space. -/
theorem scanFrom_ends (terminator : String) (hempty : matchesEmpty names = false)
    (source : List Char) (cs : List Char) (offset : Nat) (pos : Position) (tokens : List Token)
    {wordBefore : Bool} (hcs : cs = source.drop offset)
    (h : scanFrom terminator names wordBefore cs offset pos = .ok tokens) :
    ∀ t ∈ tokens, t.span.start < t.span.stop ∧
      ∃ c, source[t.span.stop - 1]? = some c ∧ isBlank c = false := by
  fun_induction scanFrom terminator names wordBefore cs offset pos generalizing tokens with
  | case1 =>
    cases Except.ok.inj h
    simp
  | case2 => cases h
  | case3 => cases h
  | case4 wordBefore offset pos c tail n raw stopPos rest wordAfter hn hnext ih =>
    exact ih tokens (by simp only [rest, hcs, List.drop_drop]) h
  | case5 wordBefore offset pos c tail n raw stopPos kind token hterm hnext =>
    cases Except.ok.inj h
    rw [Lexeme.at_of_matchesEmpty_eq_false _ _ hempty, hcs] at hnext
    intro t ht
    rw [List.mem_singleton.1 ht]
    exact Lexeme.next_ends hnames hnext
  | case6 => cases h
  | case7 wordBefore offset pos c tail n raw stopPos rest wordAfter kind token hterm hn hnext ih =>
    cases hrest : scanFrom terminator names wordAfter rest (offset + n) stopPos with
    | error e => rw [hrest] at h; cases h
    | ok more =>
      rw [hrest] at h
      cases Except.ok.inj h
      rw [Lexeme.at_of_matchesEmpty_eq_false _ _ hempty, hcs] at hnext
      intro t ht
      rcases List.mem_cons.1 ht with rfl | ht
      · exact Lexeme.next_ends hnames hnext
      · exact ih more (by simp only [rest, hcs, List.drop_drop]) hrest t ht

end Token

namespace Span

variable {source : List Char} {tokens : List Token}

theorem Within.sameLine {s : Span} (h : s.Within source)
    (hsame : s.stopPos.line = s.startPos.line) :
    '\n' ∉ (source.drop s.start).take (s.stop - s.start) ∧
      s.stopPos.column = s.startPos.column + (s.stop - s.start) := by
  obtain ⟨before, head, htake, hbefore, hhead, hpos⟩ := Position.ofOffset_lineStart source s.start
  generalize hstretch : (source.drop s.start).take (s.stop - s.start) = stretch
  have hlength : stretch.length = s.stop - s.start := by
    have hbounded := h.bounded
    rw [← hstretch, List.length_take, List.length_drop]
    omega
  have htakeStop : source.take s.stop = before ++ (head ++ stretch) := by
    rw [← List.append_assoc, ← htake, ← hstretch, ← List.take_add, Nat.add_sub_cancel' h.ordered]
  have hnoFeed : '\n' ∉ stretch := by
    have hline := congrArg Position.line h.stopPos
    rw [hsame, h.startPos, hpos, Position.ofOffset, htakeStop] at hline
    simp only [Position.after, List.count_append, List.count_eq_zero.2 hhead] at hline
    exact List.count_eq_zero.1 (by omega)
  refine ⟨hnoFeed, ?_⟩
  rw [h.stopPos, h.startPos, hpos, Position.ofOffset, htakeStop,
    Position.after_lineStart hbefore (by simp [hhead, hnoFeed]), List.length_append, hlength]

theorem Anchored.within {s : Span} (h : s.Anchored tokens)
    (htokens : ∀ t ∈ tokens, t.span.Within source) : s.Within source := by
  cases h with
  | start => exact within_empty
  | token ht => exact htokens _ ht
  | after ht => exact (htokens _ ht).atEnd
  | @cover t t' ht ht' hle =>
    have hordered := (htokens t ht).ordered
    have hordered' := (htokens t' ht').ordered
    exact (htokens t ht).cover (htokens t' ht') (by omega)

theorem Anchored.ends {s : Span} (h : s.Anchored tokens) (hsource : source ≠ [])
    (htokens : ∀ t ∈ tokens, t.span.start < t.span.stop ∧
      ∃ c, source[t.span.stop - 1]? = some c ∧ Text.isBlank c = false) :
    (s.start < source.length ∨ ∃ c, source.getLast? = some c ∧ Text.isBlank c = false) ∧
      (s.start < s.stop → ∃ c, source[s.stop - 1]? = some c ∧ Text.isBlank c = false) := by
  cases h with
  | start => exact ⟨.inl (List.length_pos_iff.2 hsource), fun h => absurd h (lt_irrefl 0)⟩
  | token ht =>
    obtain ⟨hlt, c, hc, hblank⟩ := htokens _ ht
    have hbound := (List.getElem?_eq_some_iff.1 hc).1
    exact ⟨.inl (by omega), fun _ => ⟨c, hc, hblank⟩⟩
  | @after t ht =>
    obtain ⟨hlt, c, hc, hblank⟩ := htokens _ ht
    have hbound := (List.getElem?_eq_some_iff.1 hc).1
    refine ⟨?_, fun h => absurd h (lt_irrefl _)⟩
    by_cases hend : t.span.stop < source.length
    · exact .inl hend
    · refine .inr ⟨c, ?_, hblank⟩
      rw [List.getLast?_eq_getElem?, ← hc]
      congr 1
      omega
  | cover ht ht' hle =>
    obtain ⟨hlt, c, hc, -⟩ := htokens _ ht
    obtain ⟨-, c', hc', hblank'⟩ := htokens _ ht'
    have hbound := (List.getElem?_eq_some_iff.1 hc).1
    exact ⟨.inl (by simp only [Span.cover]; omega), fun _ => ⟨c', hc', hblank'⟩⟩

/-- Carets from the column of a nonempty span that ends on the line it starts on, as many as its
characters, cover exactly its text on the line shown: the text from the start `head` of the
span's line to the next line feed, less a carriage return at its end, which the span cannot reach
as its last character is no white space. -/
theorem Within.caret_slice {s : Span} (h : s.Within source)
    (hsame : s.stopPos.line = s.startPos.line) (hlt : s.start < s.stop)
    (hlast : ∃ c, source[s.stop - 1]? = some c ∧ Text.isBlank c = false)
    {head : List Char} (hhead : '\n' ∉ head) :
    ((Text.dropReturn ((head ++ source.drop s.start).takeWhile (· != '\n'))).drop
      head.length).take (s.stop - s.start) = (source.drop s.start).take (s.stop - s.start) := by
  have hbounded := h.bounded
  have hnoFeed := (h.sameLine hsame).1
  generalize hstretch : (source.drop s.start).take (s.stop - s.start) = stretch at hnoFeed ⊢
  have hlength : stretch.length = s.stop - s.start := by
    rw [← hstretch, List.length_take, List.length_drop]
    omega
  obtain ⟨c, hc, hblank⟩ := hlast
  have hend : stretch.getLast? = some c := by
    rw [← hstretch, List.getLast?_take, if_neg (by omega), List.getElem?_drop,
      show s.start + (s.stop - s.start - 1) = s.stop - 1 by omega, hc]
    rfl
  have hreturn : stretch.getLast? ≠ some '\r' := by
    rw [hend]
    rintro ⟨⟩
    exact absurd hblank (by decide)
  have hne : stretch ≠ [] := by
    rintro rfl
    cases hend
  have hslice := Text.caret_slice hhead hnoFeed hne hreturn
    ((source.drop s.start).drop (s.stop - s.start))
  rw [← hstretch, List.take_append_drop, hstretch] at hslice
  rw [← hlength]
  exact hslice

end Span

theorem Diagnostic.caretWidth_of_sameLine {d : Diagnostic} {source : List Char}
    (h : d.span.Within source) (hsame : d.span.stopPos.line = d.span.startPos.line)
    (hlt : d.span.start < d.span.stop) : d.caretWidth = d.span.stop - d.span.start := by
  rw [Diagnostic.caretWidth, if_pos hsame, (h.sameLine hsame).2]
  omega

theorem sms32_diagnostic_ends {source : String} {d : Diagnostic} (hsource : source ≠ "")
    (h : Assembly.assemble InstructionSet.sms32 source = .error (.diagnostic d)) :
    d.span.Within source.toList ∧
      (d.span.start < source.toList.length ∨
        ∃ c, source.toList.getLast? = some c ∧ Text.isBlank c = false) ∧
      (d.span.start < d.span.stop →
        ∃ c, source.toList[d.span.stop - 1]? = some c ∧ Text.isBlank c = false) := by
  have hempty : Token.matchesEmpty InstructionSet.sms32.registerNamesByLength = false := by cbv
  obtain ⟨tokens, hscan, -⟩ := Token.scanFrom_tiles InstructionSet.sms32.terminator hempty false
    source.toList 0 Position.start
  have hanchored := diagnostic_anchored hscan h
  exact ⟨hanchored.within (Token.scan_spans hscan).2,
    hanchored.ends (by simpa [String.toList_eq_nil_iff] using hsource)
      (Token.scanFrom_ends sms32_names_match_no_blank _ hempty source.toList _ 0 _ tokens
        (List.drop_zero).symm hscan)⟩

/-- Under the SMS32 table, a diagnostic of a nonempty source whose line breaks are all line
feeds, each perhaps right after a carriage return, shows the line its position names: the line
of that number when the source is split at line feeds, without its carriage return. Where its
span is not empty and ends on the line it starts on, the carets, from the span's column on,
underline exactly the text of the span. -/
theorem caret_underlines_offending_text {source : String} {d : Diagnostic}
    (hsource : source ≠ "") (hbreaks : Text.breaksAtLineFeeds source.toList = true)
    (h : Assembly.assemble InstructionSet.sms32 source = .error (.diagnostic d)) :
    ∃ line, (Text.feedLines source.toList)[d.span.startPos.line - 1]? = some line ∧
      d.sourceLine source = some (String.ofList line) ∧
      (d.span.start < d.span.stop → d.span.stopPos.line = d.span.startPos.line →
        (line.drop d.span.startPos.column).take d.caretWidth =
          (source.toList.drop d.span.start).take (d.span.stop - d.span.start)) := by
  obtain ⟨hwithin, hstart, hstop⟩ := sms32_diagnostic_ends hsource h
  obtain ⟨before, head, htake, hbefore, hhead, hpos⟩ :=
    Position.ofOffset_lineStart source.toList d.span.start
  rw [← hwithin.startPos] at hpos
  have hsplit : source.toList = before ++ (head ++ source.toList.drop d.span.start) := by
    rw [← List.append_assoc, ← htake, List.take_append_drop]
  have hrest : head ++ source.toList.drop d.span.start ≠ [] := by
    intro hnil
    obtain ⟨rfl, hdrop⟩ := List.append_eq_nil_iff.1 hnil
    have hwhole : source.toList = before := by simpa [hdrop] using hsplit
    rcases hstart with hlt | ⟨c, hc, hblank⟩
    · rw [List.drop_eq_nil_iff] at hdrop
      omega
    · rw [hwhole] at hc
      rw [hbefore c hc] at hblank
      exact absurd hblank (by decide)
  have hfeed := Text.feedLines_append hbefore (head ++ source.toList.drop d.span.start)
  have hlines := Text.splitLines_lineStart (hsplit ▸ hbreaks) hbefore hrest
  rw [← hsplit] at hfeed hlines
  refine ⟨_, by rw [hpos]; exact hfeed, ?_, fun hlt hsame => ?_⟩
  · rw [Diagnostic.sourceLine, Text.lines, hpos, List.getElem?_map, Nat.add_sub_cancel, hlines]
    rfl
  rw [hpos, Diagnostic.caretWidth_of_sameLine hwithin hsame hlt]
  exact hwithin.caret_slice hsame hlt (hstop hlt) hhead

/-- A source with carriage returns before its line feeds, whose second line names no
instruction. -/
def crlfSource : String := "nop\r\nfoo\r\nend"

/-- The diagnostic about `foo` shows the second line, `foo` without its carriage return, with
three carets under it. -/
theorem crlfSource_caret_under_foo :
    crlfSource ≠ "" ∧ Text.breaksAtLineFeeds crlfSource.toList = true ∧
      Assembly.assemble InstructionSet.sms32 crlfSource =
        .error (.diagnostic (.noInstruction "foo" ⟨5, 8, ⟨2, 0⟩, ⟨2, 3⟩⟩ false)) ∧
      ∃ line, (Text.feedLines crlfSource.toList)[2 - 1]? = some line ∧
        (Diagnostic.noInstruction "foo" ⟨5, 8, ⟨2, 0⟩, ⟨2, 3⟩⟩ false).sourceLine crlfSource =
          some (String.ofList line) ∧
        (5 < 8 → 2 = 2 →
          (line.drop 0).take (Diagnostic.noInstruction "foo" ⟨5, 8, ⟨2, 0⟩, ⟨2, 3⟩⟩ false).caretWidth =
            (crlfSource.toList.drop 5).take (8 - 5)) := by
  have hfails : Assembly.assemble InstructionSet.sms32 crlfSource =
      .error (.diagnostic (.noInstruction "foo" ⟨5, 8, ⟨2, 0⟩, ⟨2, 3⟩⟩ false)) := by
    simp only [Assembly.assemble, Assembly.attempt, Statement.parse, Statement.takeAll_eq_bounded]
    cbv
  have hsource : crlfSource ≠ "" := by decide
  have hbreaks : Text.breaksAtLineFeeds crlfSource.toList = true := by cbv
  exact ⟨hsource, hbreaks, hfails, caret_underlines_offending_text hsource hbreaks hfails⟩

/-- A source with a form feed, which the scanner reads as white space but which ends a line of
`Text.lines`. -/
def formFeedSource : String := "nop\x0cfoo\nend"

/-- The diagnostic about `foo` is on line 1, at column 4, but the line shown is `nop` alone: it
stops at the form feed, before the offending text, where line 1 split at line feeds goes on to
`foo`. -/
theorem form_feed_splits_shown_line :
    Assembly.assemble InstructionSet.sms32 formFeedSource =
        .error (.diagnostic (.noInstruction "foo" ⟨4, 7, ⟨1, 4⟩, ⟨1, 7⟩⟩ false)) ∧
      (Diagnostic.noInstruction "foo" ⟨4, 7, ⟨1, 4⟩, ⟨1, 7⟩⟩ false).sourceLine formFeedSource =
        some "nop" ∧
      (Text.feedLines formFeedSource.toList)[0]? = some "nop\x0cfoo".toList := by
  refine ⟨?_, by cbv, by cbv⟩
  simp only [Assembly.assemble, Assembly.attempt, Statement.parse, Statement.takeAll_eq_bounded]
  cbv

end ByteAsm
