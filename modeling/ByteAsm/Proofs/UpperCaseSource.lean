import Mathlib
import ByteAsm.Proofs.TextAsWritten

/-!
# Upper-casing a source

Upper-casing the letters `a` to `z` changes none of the scanner's tests, so a source without
strings assembles as its upper-cased form does (`Assembly.assemble_toUpper`). Beyond ASCII the
full upper-case mapping may turn a character that is no word character into one
(`upper_case_moves_word_boundary`).
-/

namespace ByteAsm

namespace Text

theorem toUpper_eq_self_or (c : Char) : c.toUpper = c ∨ ∃ n < 26, c = Char.ofNat (97 + n) := by
  unfold Char.toUpper
  split
  · next hc =>
    right
    have hlo : 97 ≤ c.toNat := UInt32.le_iff_toNat_le.1 hc.1
    have hhi : c.toNat ≤ 122 := UInt32.le_iff_toNat_le.1 hc.2
    refine ⟨c.toNat - 97, by omega, ?_⟩
    rw [show 97 + (c.toNat - 97) = c.toNat by omega, Char.ofNat_toNat]
  · left
    rfl

theorem toUpper_invariant {β : Type} (f : Char → β)
    (hf : ∀ n < 26, f (Char.ofNat (97 + n)).toUpper = f (Char.ofNat (97 + n))) (c : Char) :
    f c.toUpper = f c := by
  rcases toUpper_eq_self_or c with hc | ⟨n, hn, rfl⟩
  · rw [hc]
  · exact hf n hn

theorem toUpper_eq_iff {c x : Char} (hx : x.isAlpha = false) : c.toUpper = x ↔ c = x := by
  rcases toUpper_eq_self_or c with hc | ⟨n, hn, rfl⟩
  · rw [hc]
  · have hletters : ∀ n < 26,
        (Char.ofNat (97 + n)).isAlpha ∧ (Char.ofNat (97 + n)).toUpper.isAlpha := by
      decide
    obtain ⟨hlower, hupper⟩ := hletters n hn
    constructor <;> rintro rfl <;> simp_all

theorem toUpper_eq_self {x : Char} (hx : x.isAlpha = false) : x.toUpper = x :=
  (toUpper_eq_iff hx).2 rfl

theorem map_toUpper_eq_some {o : Option Char} {x : Char} (hx : x.isAlpha = false) :
    o.map Char.toUpper = some x ↔ o = some x := by
  cases o <;> simp [toUpper_eq_iff hx]

@[simp] theorem isBlank_toUpper (c : Char) : isBlank c.toUpper = isBlank c :=
  toUpper_invariant isBlank (by decide) c

@[simp] theorem isDigit_toUpper (c : Char) : c.toUpper.isDigit = c.isDigit :=
  toUpper_invariant Char.isDigit (by decide) c

@[simp] theorem isWordChar_toUpper (c : Char) : isWordChar c.toUpper = isWordChar c :=
  toUpper_invariant isWordChar (by decide) c

@[simp] theorem lowerChar_toUpper (c : Char) : lowerChar c.toUpper = lowerChar c :=
  toUpper_invariant lowerChar (by decide) c

@[simp] theorem upperChars_toUpper (c : Char) : upperChars c.toUpper = upperChars c :=
  toUpper_invariant upperChars (by decide) c

theorem toUpper_of_isDigit {c : Char} (h : c.isDigit = true) : c.toUpper = c := by
  rcases toUpper_eq_self_or c with hc | ⟨n, hn, rfl⟩
  · exact hc
  · have hletters : ∀ n < 26, (Char.ofNat (97 + n)).isDigit = false := by decide
    simp [hletters n hn] at h

/-- Matching a register name ignoring case cannot tell a character from its upper-case form. -/
@[simp] theorem caselessMatch_toUpper (p c : Char) :
    caselessMatch p c.toUpper = caselessMatch p c := by
  unfold caselessMatch
  split
  · rw [lowerChar_toUpper]
  · next hp =>
    rcases toUpper_eq_self_or c with hc | ⟨n, hn, rfl⟩
    · rw [hc]
    · have hletters : ∀ n < 26,
          isCased (Char.ofNat (97 + n)) ∧ isCased (Char.ofNat (97 + n)).toUpper := by
        decide
      obtain ⟨hlower, hupper⟩ := hletters n hn
      have hne : Char.ofNat (97 + n) ≠ p := fun e => hp (e ▸ hlower)
      have hne' : (Char.ofNat (97 + n)).toUpper ≠ p := fun e => hp (e ▸ hupper)
      simp [hne, hne']

theorem ofList_toUpper (l : List Char) :
    String.ofList (l.map Char.toUpper) = (String.ofList l).toUpper :=
  String.ext (by simp [String.toUpper, String.toList_map])

theorem upper_toUpper (s : String) : upper s.toUpper = upper s := by
  simp only [upper, String.toUpper, String.toList_map, List.flatMap_map, upperChars_toUpper]

theorem upper_of_ascii {s : String} (hs : ∀ c ∈ s.toList, c.toNat < 0x80) :
    upper s = s.toUpper := by
  apply String.ext
  rw [upper, String.toList_ofList, String.toUpper, String.toList_map]
  generalize s.toList = l at hs
  induction l with
  | nil => rfl
  | cons c rest ih =>
    have hc : upperChars c = [c.toUpper] := by simp [upperChars, hs c List.mem_cons_self]
    rw [List.flatMap_cons, hc, ih fun x hx => hs x (List.mem_cons_of_mem c hx)]
    rfl

end Text

open Text

/-- Upper-casing a text moves no line break. -/
@[simp] theorem Position.advance_toUpper (p : Position) (cs : List Char) :
    p.advance (cs.map Char.toUpper) = p.advance cs := by
  induction cs generalizing p with
  | nil => rfl
  | cons c rest ih => simp [Position.advance, toUpper_eq_iff (x := '\n') (by decide), ih]

namespace Token

/-! ### Lexemes -/

theorem takeWhile_toUpper_length {p : Char → Bool} (hp : ∀ x, p x.toUpper = p x)
    (cs : List Char) : ((cs.map Char.toUpper).takeWhile p).length = (cs.takeWhile p).length := by
  rw [List.takeWhile_map, List.length_map, show p ∘ Char.toUpper = p from funext hp]

@[simp] theorem separatedAt_toUpper (rest : List Char) :
    separatedAt (rest.map Char.toUpper) = separatedAt rest := by
  cases rest with
  | nil => rfl
  | cons c rest =>
    exact toUpper_invariant (fun c => isBlank c || c == ';' || c == ',') (by decide) c

@[simp] theorem endsWord_toUpper (c : Char) : endsWord c.toUpper = endsWord c :=
  toUpper_invariant endsWord (by decide) c

theorem closedLength_toUpper {closer : Char} {allowed : Char → Bool}
    (hcloser : closer.isAlpha = false) (hallowed : ∀ x, allowed x.toUpper = allowed x)
    (cs : List Char) :
    closedLength closer allowed (cs.map Char.toUpper) = closedLength closer allowed cs := by
  induction cs with
  | nil => rfl
  | cons c rest ih =>
    simp only [List.map_cons, closedLength, toUpper_eq_iff hcloser, separatedAt_toUpper, hallowed,
      ih]

theorem digitsLength?_toUpper (cs : List Char) :
    digitsLength? (cs.map Char.toUpper) = digitsLength? cs := by
  unfold digitsLength?
  rw [takeWhile_toUpper_length isDigit_toUpper]
  dsimp only
  rw [← List.map_drop]
  cases cs.drop (cs.takeWhile Char.isDigit).length with
  | nil => rfl
  | cons c rest => simp

theorem spells_toUpper (p cs : List Char) : spells p (cs.map Char.toUpper) = spells p cs := by
  induction p generalizing cs with
  | nil => rfl
  | cons q ps ih =>
    cases cs with
    | nil => rfl
    | cons c rest => simp [spells, ih]

theorem boundaryAfter_toUpper (cs : List Char) (n : Nat) :
    boundaryAfter (cs.map Char.toUpper) n = boundaryAfter cs n := by
  unfold boundaryAfter
  simp only [List.getElem?_map]
  cases cs[n - 1]? <;> cases cs[n]? <;> simp

theorem registerLength?_toUpper (names : List String) (cs : List Char) :
    registerLength? names (cs.map Char.toUpper) = registerLength? names cs := by
  simp only [registerLength?, spells_toUpper, boundaryAfter_toUpper]

theorem Lexeme.next_toUpper (names : List String) (cs : List Char) :
    Lexeme.next names (cs.map Char.toUpper) = Lexeme.next names cs := by
  cases cs with
  | nil => rfl
  | cons c rest =>
    have hdigits := digitsLength?_toUpper (c :: rest)
    have hregister := registerLength?_toUpper names (c :: rest)
    have hbare := takeWhile_toUpper_length (p := fun x => !endsWord x) (by simp) (c :: rest)
    have hblank := takeWhile_toUpper_length isBlank_toUpper rest
    have hline := takeWhile_toUpper_length (p := fun x => decide (x ≠ '\n'))
      (by simp [toUpper_eq_iff (x := '\n') (by decide)]) rest
    have haddress := @closedLength_toUpper ']' (fun x => !isBlank x) (by decide) (by simp) rest
    have hstring := @closedLength_toUpper '"' (fun x => x != '\r' && x != '\n') (by decide)
      (toUpper_invariant (fun x => x != '\r' && x != '\n') (by decide)) rest
    simp only [List.map_cons] at hdigits hregister hbare
    simp only [List.map_cons, Lexeme.next, isBlank_toUpper, hblank, hline, hdigits, hregister,
      hbare, haddress, hstring, toUpper_eq_iff (x := ';') (by decide),
      toUpper_eq_iff (x := ',') (by decide), toUpper_eq_iff (x := ':') (by decide),
      toUpper_eq_iff (x := '[') (by decide), toUpper_eq_iff (x := '"') (by decide)]

theorem boundaryAt_toUpper (wordBefore : Bool) (cs : List Char) :
    boundaryAt wordBefore (cs.map Char.toUpper) = boundaryAt wordBefore cs := by
  cases cs <;> simp [boundaryAt]

/-- Upper-casing a text leaves the lexeme at its head as it is, whatever comes before it. -/
theorem Lexeme.at_toUpper (names : List String) (wordBefore : Bool) (cs : List Char) :
    Lexeme.at names wordBefore (cs.map Char.toUpper) = Lexeme.at names wordBefore cs := by
  simp only [Lexeme.at, Lexeme.next_toUpper, boundaryAt_toUpper]

theorem endsWithWordChar_toUpper (cs : List Char) :
    (cs.map Char.toUpper).getLast?.any isWordChar = cs.getLast?.any isWordChar := by
  rw [List.getLast?_map]
  cases cs.getLast? <;> simp

/-! ### Tokens -/

theorem inside_toUpper {closer : Char} (hcloser : closer.isAlpha = false) (rest : List Char) :
    inside closer (rest.map Char.toUpper) = (inside closer rest).map (List.map Char.toUpper) := by
  unfold inside
  rw [List.getLast?_map, ← List.map_dropLast, List.getLast?_map, ← List.map_dropLast]
  split_ifs <;> simp_all [map_toUpper_eq_some hcloser, map_toUpper_eq_some (x := '\n') (by decide),
    toUpper_eq_self hcloser]

theorem unwrap_of_opening {s : String} {opening closer : Char} {rest : List Char}
    (hs : s.toList = opening :: rest) (hopening : opening = '[' ∧ closer = ']' ∨
      opening = '"' ∧ closer = '"') :
    unwrap s = ((inside closer rest).map String.ofList).getD s := by
  unfold unwrap
  rw [hs]
  rcases hopening with ⟨rfl, rfl⟩ | ⟨rfl, rfl⟩ <;>
    cases hinside : inside _ rest <;> simp [hinside]

theorem unwrap_of_plain {s : String} (hs : ∀ c rest, s.toList = c :: rest → c ≠ '[' ∧ c ≠ '"') :
    unwrap s = s := by
  unfold unwrap
  split
  · next rest hs' => exact absurd rfl (hs _ _ hs').1
  · next rest hs' => exact absurd rfl (hs _ _ hs').2
  · rfl

theorem unwrap_toUpper (s : String) : unwrap s.toUpper = (unwrap s).toUpper := by
  have hlist : s.toUpper.toList = s.toList.map Char.toUpper := by
    rw [String.toUpper, String.toList_map]
  rcases hs : s.toList with _ | ⟨c, rest⟩
  · rw [hs, List.map_nil] at hlist
    rw [unwrap_of_plain (by simp [hlist]), unwrap_of_plain (by simp [hs])]
  rw [hs, List.map_cons] at hlist
  by_cases hopening : c = '[' ∨ c = '"'
  · obtain ⟨closer, hcloser⟩ : ∃ closer, c = '[' ∧ closer = ']' ∨ c = '"' ∧ closer = '"' := by
      rcases hopening with rfl | rfl
      · exact ⟨']', .inl ⟨rfl, rfl⟩⟩
      · exact ⟨'"', .inr ⟨rfl, rfl⟩⟩
    have hupper : c.toUpper = c := by rcases hcloser with ⟨rfl, -⟩ | ⟨rfl, -⟩ <;> rfl
    have halpha : closer.isAlpha = false := by rcases hcloser with ⟨-, rfl⟩ | ⟨-, rfl⟩ <;> rfl
    rw [hupper] at hlist
    rw [unwrap_of_opening hlist hcloser, unwrap_of_opening hs hcloser, inside_toUpper halpha]
    cases inside closer rest with
    | none => rfl
    | some body => exact ofList_toUpper body
  · have hplain : c ≠ '[' ∧ c ≠ '"' := not_or.1 hopening
    have hplain' : c.toUpper ≠ '[' ∧ c.toUpper ≠ '"' := by
      rwa [Ne, Ne, toUpper_eq_iff (by decide), toUpper_eq_iff (by decide)]
    rw [unwrap_of_plain (by simp [hlist, hplain']), unwrap_of_plain (by simp [hs, hplain])]

theorem valueOf_toUpper {kind : TokenKind} {raw : String}
    (h : kind.ignoresCase = true ∨ raw.toUpper = raw) : valueOf kind raw.toUpper = valueOf kind raw := by
  rcases h with hcase | hraw
  · simp only [valueOf, hcase, if_true, unwrap_toUpper, upper_toUpper]
  · rw [hraw]

theorem make_toUpper {kind : TokenKind} {raw : List Char} {span : Span}
    (h : kind.ignoresCase = true ∨ raw.map Char.toUpper = raw) :
    make kind (String.ofList (raw.map Char.toUpper)) span =
      (make kind (String.ofList raw) span).rewrite String.toUpper := by
  have hvalue : valueOf kind (String.ofList raw).toUpper = valueOf kind (String.ofList raw) := by
    refine valueOf_toUpper (h.imp id fun hraw => ?_)
    rw [← ofList_toUpper, hraw]
  simp only [make, Token.rewrite, ofList_toUpper, hvalue]

/-! ### The scanning loop -/

theorem digitsLength?_eq {cs : List Char} {n : Nat} (h : digitsLength? cs = some n) :
    n = (cs.takeWhile Char.isDigit).length := by
  unfold digitsLength? at h
  dsimp only at h
  split_ifs at h
  split at h
  · exact (Option.some.inj h).symm
  · split_ifs at h
    exact (Option.some.inj h).symm

theorem digitsLength?_toUpper_fixed {cs : List Char} {n : Nat} (h : digitsLength? cs = some n) :
    (cs.take n).map Char.toUpper = cs.take n := by
  rw [digitsLength?_eq h, ← List.prefix_iff_eq_take.1 (List.takeWhile_prefix _)]
  exact List.map_congr_left (fun x hx => toUpper_of_isDigit (List.mem_takeWhile_imp hx)) |>.trans
    (List.map_id _)

theorem next_token_cases {names : List String} {cs : List Char} {kind : TokenKind} {n : Nat}
    (h : Lexeme.next names cs = some (.token kind, n)) :
    kind.ignoresCase = true ∨ (cs.take n).map Char.toUpper = cs.take n ∨ cs.head? = some '"' := by
  unfold Lexeme.next at h
  split at h
  · cases h
  · next c rest =>
    split at h
    · cases h
    split at h
    · cases h
    split at h
    · next hcomma =>
      cases h
      subst hcomma
      exact .inr (.inl rfl)
    split at h
    · next hcolon =>
      cases h
      subst hcolon
      exact .inr (.inl rfl)
    simp only [Option.orElse_eq_orElse, Option.orElse_eq_or, Option.or_eq_some_iff,
      Option.map_eq_some_iff, Prod.mk.injEq, Lexeme.token.injEq] at h
    rcases h with ⟨m, hdigits, rfl, rfl⟩ | ⟨-, ⟨m, -, rfl, -⟩ | ⟨-, ⟨m, -, rfl, -⟩ |
      ⟨-, ⟨m, hstring, rfl, -⟩ | ⟨-, hbare⟩⟩⟩⟩
    · exact .inr (.inl (digitsLength?_toUpper_fixed hdigits))
    · exact .inl rfl
    · exact .inl rfl
    · split_ifs at hstring with hquote
      exact .inr (.inr (by simp [hquote]))
    · split_ifs at hbare
      cases hbare
      exact .inl rfl

theorem make_next_toUpper {names : List String} {cs : List Char} {kind : TokenKind} {n : Nat}
    (span : Span) (hnext : Lexeme.next names cs = some (.token kind, n)) (hquote : '"' ∉ cs) :
    make kind (String.ofList ((cs.take n).map Char.toUpper)) span =
      (make kind (String.ofList (cs.take n)) span).rewrite String.toUpper := by
  refine make_toUpper ((next_token_cases hnext).imp_right fun h => h.resolve_right fun hhead => ?_)
  obtain ⟨rest, rfl⟩ : ∃ rest, cs = '"' :: rest := by
    cases cs with
    | nil => cases hhead
    | cons c rest => exact ⟨rest, by simpa using hhead⟩
  exact hquote List.mem_cons_self

theorem make_at_toUpper {names : List String} {wordBefore : Bool} {cs : List Char}
    {kind : TokenKind} {n : Nat} (span : Span)
    (hnext : Lexeme.at names wordBefore cs = some (.token kind, n)) (hquote : '"' ∉ cs) :
    make kind (String.ofList ((cs.take n).map Char.toUpper)) span =
      (make kind (String.ofList (cs.take n)) span).rewrite String.toUpper := by
  rcases Lexeme.at_eq_next_or hnext with hnext | ⟨hkind, -⟩
  · exact make_next_toUpper span hnext hquote
  · cases hkind
    exact make_toUpper (.inl rfl)

theorem scanFrom_toUpper (terminator : String) (names : List String) (cs : List Char)
    (offset : Nat) (pos : Position) {wordBefore : Bool} (hquote : '"' ∉ cs) :
    scanFrom terminator names wordBefore (cs.map Char.toUpper) offset pos =
      ((scanFrom terminator names wordBefore cs offset pos).map
        (List.map (Token.rewrite String.toUpper))).mapError
          (Failure.rewrite String.toUpper Char.toUpper) := by
  fun_induction scanFrom terminator names wordBefore cs offset pos with
  | case1 => rw [List.map_nil, scanFrom.eq_1]; rfl
  | case2 wordBefore offset pos c tail hnext =>
    rw [List.map_cons, scanFrom.eq_2, ← List.map_cons, Lexeme.at_toUpper, hnext]
    rfl
  | case3 wordBefore offset pos c tail hnext =>
    rw [List.map_cons, scanFrom.eq_2, ← List.map_cons, Lexeme.at_toUpper, hnext]
    rfl
  | case4 wordBefore offset pos c tail n raw stopPos rest wordAfter hn hnext ih =>
    rw [List.map_cons, scanFrom.eq_2, ← List.map_cons, Lexeme.at_toUpper, hnext]
    simp only [hn, dite_false, ← List.map_take, ← List.map_drop, Position.advance_toUpper,
      endsWithWordChar_toUpper]
    exact ih fun hmem => hquote (List.mem_of_mem_drop hmem)
  | case5 wordBefore offset pos c tail n raw stopPos kind token hterm hnext =>
    simp only [token, raw, stopPos] at hterm
    rw [List.map_cons, scanFrom.eq_2, ← List.map_cons, Lexeme.at_toUpper, hnext]
    simp only [← List.map_take, make_at_toUpper _ hnext hquote, Position.advance_toUpper,
      Token.rewrite_value, hterm, if_true]
    rfl
  | case6 wordBefore offset pos c tail kind raw stopPos token hterm hnext =>
    simp only [token, raw, stopPos] at hterm
    rw [List.map_cons, scanFrom.eq_2, ← List.map_cons, Lexeme.at_toUpper, hnext]
    simp only [← List.map_take, make_at_toUpper _ hnext hquote, Position.advance_toUpper,
      Token.rewrite_value, hterm, Bool.false_eq_true, if_false, dite_true]
    rfl
  | case7 wordBefore offset pos c tail n raw stopPos rest wordAfter kind token hterm hn hnext ih =>
    simp only [token, raw, stopPos] at hterm
    rw [List.map_cons, scanFrom.eq_2, ← List.map_cons, Lexeme.at_toUpper, hnext]
    simp only [hn, dite_false, ← List.map_take, ← List.map_drop, make_at_toUpper _ hnext hquote,
      Position.advance_toUpper, Token.rewrite_value, hterm, Bool.false_eq_true, if_false,
      endsWithWordChar_toUpper]
    rw [ih fun hmem => hquote (List.mem_of_mem_drop hmem)]
    cases scanFrom terminator names wordAfter rest (offset + n) stopPos <;> rfl

/-- Scanning a source without double quotes, upper-cased, finds the same tokens with their
text upper-cased, or fails in the same way. -/
theorem scan_toUpper (set : InstructionSet) {source : String} (hquote : '"' ∉ source.toList) :
    scan set source.toUpper =
      ((scan set source).map (List.map (Token.rewrite String.toUpper))).mapError
        (Failure.rewrite String.toUpper Char.toUpper) := by
  rw [scan, scan, String.toUpper, String.toList_map]
  exact scanFrom_toUpper _ _ _ _ _ hquote

end Token

theorem startsWith_toUpper {pattern : String} {x : Char} (hpattern : pattern.toList = [x])
    (hx : x.isAlpha = false) (s : String) :
    s.toUpper.startsWith pattern = s.startsWith pattern := by
  rw [Bool.eq_iff_iff, String.startsWith_string_iff, String.startsWith_string_iff, hpattern,
    String.toUpper, String.toList_map]
  cases s.toList with
  | nil => simp
  | cons c rest =>
    simp only [List.map_cons, List.cons_prefix_cons, List.nil_prefix, and_true]
    rw [eq_comm, toUpper_eq_iff hx, eq_comm]

theorem Statement.keepsOpening_toUpper (raw : String) :
    Statement.KeepsOpening String.toUpper raw :=
  ⟨startsWith_toUpper rfl (by decide) raw, startsWith_toUpper rfl (by decide) raw,
    startsWith_toUpper rfl (by decide) raw⟩

/-- Upper-casing the letters `a` to `z` of a source without double quotes changes neither its
bytes, nor its labels, nor the places where its statements start; a failure stays the same,
quoting the upper-cased text. -/
theorem Assembly.assemble_toUpper (set : InstructionSet) {source : String}
    (hquote : '"' ∉ source.toList) :
    (Assembly.assemble set source.toUpper).map Assembly.footprint =
      ((Assembly.assemble set source).map Assembly.footprint).mapError
        (Failure.rewrite String.toUpper Char.toUpper) :=
  Assembly.assemble_rewrite (Token.scan_toUpper set hquote) fun _ _ t _ =>
    Statement.keepsOpening_toUpper t.raw

/-- An ASCII source without double quotes assembles, after the full upper-case mapping, to the
same bytes, labels and places of statements, or fails in the same way, quoting the upper-cased
text. -/
theorem upper_case_ascii_source_assembles_alike {set : InstructionSet} {source : String}
    (hascii : ∀ c ∈ source.toList, c.toNat < 0x80) (hquote : '"' ∉ source.toList) :
    (Assembly.assemble set (Text.upper source)).map Assembly.footprint =
      ((Assembly.assemble set source).map Assembly.footprint).mapError
        (Failure.rewrite String.toUpper Char.toUpper) := by
  rw [Text.upper_of_ascii hascii]
  exact Assembly.assemble_toUpper set hquote

/-- A move written in lower case. -/
def lowerCaseMove : String := "mov al, 01\nend"

theorem lowerCaseMove_assembles_alike :
    (∀ c ∈ lowerCaseMove.toList, c.toNat < 0x80) ∧ '"' ∉ lowerCaseMove.toList ∧
      (Assembly.assemble InstructionSet.sms32 (Text.upper lowerCaseMove)).map Assembly.footprint =
        ((Assembly.assemble InstructionSet.sms32 lowerCaseMove).map Assembly.footprint).mapError
          (Failure.rewrite String.toUpper Char.toUpper) := by
  have hascii : ∀ c ∈ lowerCaseMove.toList, c.toNat < 0x80 := by simp [lowerCaseMove]
  have hquote : '"' ∉ lowerCaseMove.toList := by decide
  exact ⟨hascii, hquote, upper_case_ascii_source_assembles_alike hascii hquote⟩

/-- A number followed by the combining ypogegrammeni, which is no word character; its capital,
the Greek capital iota, is one. -/
def ypogegrammeniSource : String := "mov al, 01\u0345\nend"

set_option maxRecDepth 20000 in
/-- Upper-casing beyond ASCII can move a word boundary: the number that the source ends before
the combining ypogegrammeni is, upper-cased, part of a word, and the failure changes kind. -/
theorem upper_case_moves_word_boundary :
    ∃ d d', Assembly.assemble InstructionSet.sms32 ypogegrammeniSource = .error (.diagnostic d) ∧
      Assembly.assemble InstructionSet.sms32 (Text.upper ypogegrammeniSource) =
        .error (.diagnostic d') ∧
      d.kindName = "StatementError" ∧ d'.kindName = "OperandTypeError" := by
  refine ⟨.noInstruction "\u0345" ⟨10, 11, ⟨1, 10⟩, ⟨1, 11⟩⟩ false,
    .wrongOperand "01\u0399" [.number, .address, .registerAddress] ⟨8, 11, ⟨1, 8⟩, ⟨1, 11⟩⟩,
    ?_, ?_, rfl, rfl⟩
  all_goals
    simp only [Assembly.assemble, Assembly.attempt, Statement.parse, Statement.takeAll_eq_bounded]
    cbv

end ByteAsm
