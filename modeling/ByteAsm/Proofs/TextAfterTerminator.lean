import Mathlib
import ByteAsm.Proofs.SourceTiling

/-!
# Text after the terminator

Scanning stops at the terminator, and the text after it is not even looked at when it is empty or
starts with white space: `x ++ u` has the tokens of `x` (`Token.scan_append_of_terminator`). A
string is the one lexeme that can look past the end of `x`, which it does for the SMS32 table
(`quote_reaches_past_terminator`).
-/

namespace ByteAsm

namespace Text

/-- The code points of white space. -/
def blankCodes : List Nat :=
  [0x09, 0x0A, 0x0B, 0x0C, 0x0D, 0x1C, 0x1D, 0x1E, 0x1F, 0x20, 0x85, 0xA0, 0x1680,
    0x2000, 0x2001, 0x2002, 0x2003, 0x2004, 0x2005, 0x2006, 0x2007, 0x2008, 0x2009, 0x200A,
    0x2028, 0x2029, 0x202F, 0x205F, 0x3000]

theorem isBlank_code {c : Char} (h : isBlank c = true) : c.toNat ∈ blankCodes := by
  unfold isBlank at h
  split at h <;> simp_all [blankCodes]
  omega

theorem of_isBlank {p : Char → Bool} (hcodes : blankCodes.all (fun k => p (Char.ofNat k)) = true)
    {c : Char} (h : isBlank c = true) : p c = true := by
  have hcode := List.all_eq_true.1 hcodes c.toNat (isBlank_code h)
  rwa [Char.ofNat_toNat] at hcode

set_option maxRecDepth 20000 in
theorem isWordChar_of_isBlank {c : Char} (h : isBlank c = true) : isWordChar c = false := by
  have hcodes : blankCodes.all (fun k => !isWordChar (Char.ofNat k)) = true := by cbv
  simpa using of_isBlank (p := fun c => !isWordChar c) hcodes h

theorem isDigit_of_isBlank {c : Char} (h : isBlank c = true) : c.isDigit = false := by
  have hcodes : blankCodes.all (fun k => !(Char.ofNat k).isDigit) = true := by decide
  simpa using of_isBlank (p := fun c => !c.isDigit) hcodes h

end Text

namespace Token

open Text

/-! ### A gap after the text

A gap is text that is empty or starts with white space. To every lexeme but a string, a gap
after a text reads as the end of the text. -/

section Gap

variable {w : List Char}

theorem takeWhile_append_gap {p : Char → Bool} (hp : ∀ b, isBlank b = true → p b = false)
    (hw : ∀ b ∈ w.head?, isBlank b = true) (cs : List Char) :
    (cs ++ w).takeWhile p = cs.takeWhile p := by
  induction cs with
  | nil =>
    cases w with
    | nil => rfl
    | cons b rest => simp [hp b (hw b (by simp))]
  | cons c rest ih => simp only [List.cons_append, List.takeWhile_cons, ih]

theorem takeWhile_append_of_length_lt {p : Char → Bool} {cs : List Char} (w : List Char)
    (h : (cs.takeWhile p).length < cs.length) : (cs ++ w).takeWhile p = cs.takeWhile p := by
  rw [List.takeWhile_append, if_neg (Nat.ne_of_lt h)]

theorem takeWhile_of_append_length_lt {p : Char → Bool} {cs : List Char} (w : List Char)
    (h : ((cs ++ w).takeWhile p).length < cs.length) : (cs ++ w).takeWhile p = cs.takeWhile p := by
  rw [List.takeWhile_append] at h ⊢
  split
  · next hall =>
    rw [if_pos hall, List.length_append] at h
    omega
  · rfl

theorem separatedAt_append_gap (hw : ∀ b ∈ w.head?, isBlank b = true) (cs : List Char) :
    separatedAt (cs ++ w) = separatedAt cs := by
  cases cs with
  | nil =>
    cases w with
    | nil => rfl
    | cons b rest => simp [separatedAt, hw b (by simp)]
  | cons c rest => rfl

theorem closedLength_pos {closer : Char} {allowed : Char → Bool} {cs : List Char} {k : Nat}
    (h : closedLength closer allowed cs = some k) : 0 < k := by
  cases cs with
  | nil => cases h
  | cons c rest =>
    unfold closedLength at h
    split at h
    · cases h
      omega
    · split at h
      · obtain ⟨m, -, rfl⟩ := Option.map_eq_some_iff.1 h
        omega
      · cases h

theorem closedLength_append_gap (closer : Char) (allowed : Char → Bool)
    (hw : ∀ b ∈ w.head?, isBlank b = true) (hclosed : closedLength closer allowed w = none)
    (cs : List Char) :
    closedLength closer allowed (cs ++ w) = closedLength closer allowed cs := by
  induction cs with
  | nil => exact hclosed
  | cons c rest ih => simp only [List.cons_append, closedLength, separatedAt_append_gap hw, ih]

theorem closedLength_append_cases (closer : Char) (allowed : Char → Bool)
    (hw : ∀ b ∈ w.head?, isBlank b = true) (cs : List Char) :
    closedLength closer allowed (cs ++ w) = closedLength closer allowed cs ∨
      ∃ k, closedLength closer allowed (cs ++ w) = some k ∧ cs.length < k := by
  induction cs with
  | nil =>
    cases hclosed : closedLength closer allowed w with
    | none => exact .inl (by rw [List.nil_append, hclosed]; rfl)
    | some k => exact .inr ⟨k, by rw [List.nil_append, hclosed], closedLength_pos hclosed⟩
  | cons c rest ih =>
    simp only [List.cons_append, closedLength, separatedAt_append_gap hw]
    split
    · exact .inl rfl
    · split
      · rcases ih with ih | ⟨k, hk, hlt⟩
        · exact .inl (by rw [ih])
        · exact .inr ⟨k + 1, by rw [hk]; rfl, by simp only [List.length_cons]; omega⟩
      · exact .inl rfl

theorem closedLength_address_gap (hw : ∀ b ∈ w.head?, isBlank b = true) :
    closedLength ']' (fun x => !isBlank x) w = none := by
  cases w with
  | nil => rfl
  | cons b rest =>
    have hb := hw b (by simp)
    have hclose : b ≠ ']' := fun heq => absurd (heq ▸ hb) (by decide)
    simp [closedLength, hclose, hb]

theorem digitsLength?_append_gap (hw : ∀ b ∈ w.head?, isBlank b = true) (cs : List Char) :
    digitsLength? (cs ++ w) = digitsLength? cs := by
  unfold digitsLength?
  rw [takeWhile_append_gap (fun b hb => isDigit_of_isBlank hb) hw]
  have hle : (cs.takeWhile Char.isDigit).length ≤ cs.length := (List.takeWhile_sublist _).length_le
  simp only [List.drop_append_of_le_length hle]
  cases cs.drop (cs.takeWhile Char.isDigit).length with
  | cons c rest => rfl
  | nil =>
    cases w with
    | nil => rfl
    | cons b rest => simp [isWordChar_of_isBlank (hw b (by simp))]

theorem spells_append_gap {p : List Char}
    (hp : ∀ q ∈ p, ∀ b, isBlank b = true → caselessMatch q b = false)
    (hw : ∀ b ∈ w.head?, isBlank b = true) (cs : List Char) :
    spells p (cs ++ w) = spells p cs := by
  induction p generalizing cs with
  | nil => rfl
  | cons q ps ih =>
    cases cs with
    | nil =>
      cases w with
      | nil => rfl
      | cons b rest => simp [spells, hp q List.mem_cons_self b (hw b (by simp))]
    | cons c rest =>
      simp only [List.cons_append, spells, ih (fun q' hq' => hp q' (List.mem_cons_of_mem q hq'))]

theorem boundaryAfter_eq (cs : List Char) (n : Nat) :
    boundaryAfter cs n = (cs[n - 1]?.any isWordChar != cs[n]?.any isWordChar) := by
  unfold boundaryAfter
  cases cs[n - 1]? <;> cases cs[n]? <;> rfl

theorem boundaryAfter_append_gap (hw : ∀ b ∈ w.head?, isBlank b = true) {cs : List Char} {n : Nat}
    (hn : n ≤ cs.length) : boundaryAfter (cs ++ w) n = boundaryAfter cs n := by
  have hat : ∀ i ≤ cs.length, (cs ++ w)[i]?.any isWordChar = cs[i]?.any isWordChar := by
    intro i hi
    rcases Nat.lt_or_eq_of_le hi with hlt | rfl
    · rw [List.getElem?_append_left hlt]
    · rw [List.getElem?_append_right le_rfl, Nat.sub_self, List.getElem?_eq_none le_rfl]
      cases w with
      | nil => rfl
      | cons b rest => simp [isWordChar_of_isBlank (hw b (by simp))]
  rw [boundaryAfter_eq, boundaryAfter_eq, hat (n - 1) (by omega), hat n hn]

theorem registerLength?_append_gap {names : List String}
    (hnames : ∀ name ∈ names, ∀ q ∈ name.toList, ∀ b, isBlank b = true → caselessMatch q b = false)
    (hw : ∀ b ∈ w.head?, isBlank b = true) (cs : List Char) :
    registerLength? names (cs ++ w) = registerLength? names cs := by
  induction names with
  | nil => rfl
  | cons name more ih =>
    have hmore := ih fun n hn => hnames n (List.mem_cons_of_mem name hn)
    have hspells := spells_append_gap (hnames name List.mem_cons_self) hw cs
    unfold registerLength? at hmore ⊢
    simp only [List.findSome?_cons, hmore, hspells]
    by_cases hsp : spells name.toList cs = true
    · rw [boundaryAfter_append_gap hw (spells_length_le hsp)]
    · simp [hsp]

end Gap

/-! ### Lexemes that end inside the text -/

section Lexemes

variable {names : List String} {w : List Char}

/-- A lexeme of a text is also the lexeme of the text with a gap after it, unless it is white
space or a comment that reaches the end of the text, or the gap closes a string. -/
theorem Lexeme.next_append
    (hnames : ∀ name ∈ names, ∀ q ∈ name.toList, ∀ b, isBlank b = true → caselessMatch q b = false)
    (hw : ∀ b ∈ w.head?, isBlank b = true)
    (hquote : closedLength '"' (fun x => x != '\r' && x != '\n') w = none)
    {cs : List Char} {lexeme : Lexeme} {n : Nat} (h : Lexeme.next names cs = some (lexeme, n))
    (hskip : lexeme = .skip → n < cs.length) :
    Lexeme.next names (cs ++ w) = some (lexeme, n) := by
  cases cs with
  | nil => cases h
  | cons c rest =>
    have hdigits := digitsLength?_append_gap hw (c :: rest)
    have hregister := registerLength?_append_gap hnames hw (c :: rest)
    have hbare := takeWhile_append_gap (p := fun x => !endsWord x)
      (fun b hb => by simp [endsWord, hb]) hw (c :: rest)
    have haddress := closedLength_append_gap ']' (fun x => !isBlank x) hw
      (closedLength_address_gap hw) rest
    have hstring := closedLength_append_gap '"' (fun x => x != '\r' && x != '\n') hw hquote rest
    simp only [List.cons_append] at hdigits hregister hbare ⊢
    simp only [Lexeme.next] at h ⊢
    by_cases hblank : isBlank c = true
    · rw [if_pos hblank] at h ⊢
      obtain ⟨rfl, rfl⟩ := Prod.mk.inj (Option.some.inj h)
      have hlt := hskip rfl
      simp only [List.length_cons] at hlt
      rw [takeWhile_append_of_length_lt w (by omega)]
    rw [if_neg hblank] at h ⊢
    by_cases hsemi : c = ';'
    · rw [if_pos hsemi] at h ⊢
      obtain ⟨rfl, rfl⟩ := Prod.mk.inj (Option.some.inj h)
      have hlt := hskip rfl
      simp only [List.length_cons] at hlt
      rw [takeWhile_append_of_length_lt w (by omega)]
    rw [if_neg hsemi] at h ⊢
    simpa only [hdigits, hregister, haddress, hstring, hbare] using h

theorem Lexeme.next_of_append
    (hnames : ∀ name ∈ names, ∀ q ∈ name.toList, ∀ b, isBlank b = true → caselessMatch q b = false)
    (hw : ∀ b ∈ w.head?, isBlank b = true)
    {cs : List Char} {lexeme : Lexeme} {n : Nat} (h : Lexeme.next names (cs ++ w) = some (lexeme, n))
    (hn : n < cs.length ∨ n = cs.length ∧ lexeme ≠ .skip) :
    Lexeme.next names cs = some (lexeme, n) := by
  cases cs with
  | nil =>
    have hpos := (Lexeme.next_length h).1
    simp only [List.length_nil] at hn
    omega
  | cons c rest =>
    have hdigits := digitsLength?_append_gap hw (c :: rest)
    have hregister := registerLength?_append_gap hnames hw (c :: rest)
    have hbare := takeWhile_append_gap (p := fun x => !endsWord x)
      (fun b hb => by simp [endsWord, hb]) hw (c :: rest)
    have haddress := closedLength_append_gap ']' (fun x => !isBlank x) hw
      (closedLength_address_gap hw) rest
    simp only [List.cons_append] at hdigits hregister hbare h
    simp only [Lexeme.next] at h ⊢
    simp only [List.length_cons] at hn
    by_cases hblank : isBlank c = true
    · rw [if_pos hblank] at h ⊢
      obtain ⟨rfl, rfl⟩ := Prod.mk.inj (Option.some.inj h)
      have hlt : ((rest ++ w).takeWhile isBlank).length < rest.length := by
        rcases hn with hlt | ⟨-, hskip⟩
        · omega
        · exact absurd rfl hskip
      rw [takeWhile_of_append_length_lt w hlt]
    rw [if_neg hblank] at h ⊢
    by_cases hsemi : c = ';'
    · rw [if_pos hsemi] at h ⊢
      obtain ⟨rfl, rfl⟩ := Prod.mk.inj (Option.some.inj h)
      have hlt : ((rest ++ w).takeWhile (· ≠ '\n')).length < rest.length := by
        rcases hn with hlt | ⟨-, hskip⟩
        · omega
        · exact absurd rfl hskip
      rw [takeWhile_of_append_length_lt w hlt]
    rw [if_neg hsemi] at h ⊢
    by_cases hcomma : c = ','
    · rwa [if_pos hcomma] at h ⊢
    rw [if_neg hcomma] at h ⊢
    by_cases hcolon : c = ':'
    · rwa [if_pos hcolon] at h ⊢
    rw [if_neg hcolon] at h ⊢
    rw [hdigits, hregister, haddress, hbare] at h
    by_cases hopen : c = '"'
    · rw [if_pos hopen] at h ⊢
      rcases closedLength_append_cases '"' (fun x => x != '\r' && x != '\n') hw rest with
        hstring | ⟨k, hk, hlong⟩
      · rwa [hstring] at h
      have haddr : c ≠ '[' := by rw [hopen]; decide
      rw [hk, if_neg haddr] at h
      rw [if_neg haddr]
      cases hD : digitsLength? (c :: rest) with
      | some m => simpa [hD] using h
      | none =>
        cases hR : registerLength? names (c :: rest) with
        | some m => simpa [hD, hR] using h
        | none =>
          simp [hD, hR] at h
          omega
    · rw [if_neg hopen] at h ⊢
      exact h

end Lexemes

/-! ### Scanning up to the terminator -/

section Scanning

variable {terminator : String} {names : List String} {w : List Char}

theorem Tiling.starts_after {offset : Nat} {cs : List Char} {tokens : List Token}
    (h : Tiling terminator offset cs tokens) :
    ∀ t ∈ tokens, offset ≤ t.span.start ∧ t.span.start < t.span.stop := by
  induction h with
  | rest => simp
  | last hp hterm =>
    have hlength := List.length_pos_of_ne_nil hp.nonempty
    simp only [List.mem_singleton, forall_eq, hp.stop_eq, hp.start_eq]
    omega
  | cons hp hterm htail ih =>
    have hlength := List.length_pos_of_ne_nil hp.nonempty
    intro t' ht'
    rcases List.mem_cons.1 ht' with rfl | ht'
    · rw [hp.stop_eq, hp.start_eq]
      omega
    · obtain ⟨hafter, hnonempty⟩ := ih t' ht'
      rw [hp.stop_eq, hp.start_eq] at hafter
      omega

theorem scanFrom_starts_after (hempty : matchesEmpty names = false) {wordBefore : Bool}
    {cs : List Char} {offset : Nat} {pos : Position} {tokens : List Token}
    (h : scanFrom terminator names wordBefore cs offset pos = .ok tokens) :
    ∀ t ∈ tokens, offset ≤ t.span.start ∧ t.span.start < t.span.stop := by
  obtain ⟨tokens', hscan, htiling⟩ := scanFrom_tiles terminator hempty wordBefore cs offset pos
  rw [h] at hscan
  cases hscan
  exact htiling.starts_after

theorem lt_of_scanFrom_rest (hempty : matchesEmpty names = false) {wordBefore : Bool}
    {rest : List Char} {offset n stop : Nat} {pos : Position} {tokens : List Token}
    (h : scanFrom terminator names wordBefore rest (offset + n) pos = .ok tokens)
    (hlast : ∃ t ∈ tokens.getLast?, t.value = terminator ∧ t.span.stop = offset + stop) :
    n < stop := by
  obtain ⟨t, ht, -, hstop⟩ := hlast
  obtain ⟨hafter, hnonempty⟩ := scanFrom_starts_after hempty h t (List.mem_of_getLast? ht)
  omega

theorem scanFrom_of_skip {wordBefore : Bool} {offset : Nat} {pos : Position} {c : Char}
    {more : List Char} {n : Nat}
    (hnext : Lexeme.at names wordBefore (c :: more) = some (.skip, n)) (hn : n ≠ 0) :
    scanFrom terminator names wordBefore (c :: more) offset pos =
      scanFrom terminator names (((c :: more).take n).getLast?.any isWordChar)
        ((c :: more).drop n) (offset + n) (pos.advance ((c :: more).take n)) := by
  rw [scanFrom.eq_2, hnext]
  simp only [dif_neg hn]

theorem scanFrom_of_token {wordBefore : Bool} {offset : Nat} {pos : Position} {c : Char}
    {more : List Char} {kind : TokenKind} {n : Nat}
    (hnext : Lexeme.at names wordBefore (c :: more) = some (.token kind, n)) (hn : n ≠ 0) :
    scanFrom terminator names wordBefore (c :: more) offset pos =
      if (make kind (String.ofList ((c :: more).take n))
          ⟨offset, offset + n, pos, pos.advance ((c :: more).take n)⟩).value == terminator then
        .ok [make kind (String.ofList ((c :: more).take n))
          ⟨offset, offset + n, pos, pos.advance ((c :: more).take n)⟩]
      else (scanFrom terminator names (((c :: more).take n).getLast?.any isWordChar)
          ((c :: more).drop n) (offset + n) (pos.advance ((c :: more).take n))).map
        (make kind (String.ofList ((c :: more).take n))
          ⟨offset, offset + n, pos, pos.advance ((c :: more).take n)⟩ :: ·) := by
  rw [scanFrom.eq_2, hnext]
  simp only [dif_neg hn]

variable (hempty : matchesEmpty names = false)
  (hnames : ∀ name ∈ names, ∀ q ∈ name.toList, ∀ b, isBlank b = true → caselessMatch q b = false)
  (hw : ∀ b ∈ w.head?, isBlank b = true)
include hempty hnames hw

/-- Where the tokens of a text end with the terminator at its end, a gap after the text that
closes no string leaves them as they are. -/
theorem scanFrom_append (hquote : closedLength '"' (fun x => x != '\r' && x != '\n') w = none)
    {wordBefore : Bool} {cs : List Char} {offset : Nat} {pos : Position} (tokens : List Token)
    (h : scanFrom terminator names wordBefore cs offset pos = .ok tokens)
    (hlast : ∃ t ∈ tokens.getLast?, t.value = terminator ∧ t.span.stop = offset + cs.length) :
    scanFrom terminator names wordBefore (cs ++ w) offset pos = .ok tokens := by
  -- the scans of the text and of the text with the gap take the same steps
  fun_induction scanFrom terminator names wordBefore cs offset pos generalizing tokens with
  | case1 =>
    cases Except.ok.inj h
    simp at hlast
  | case2 => cases h
  | case3 => cases h
  | case4 wordBefore offset pos c tail n raw stopPos rest wordAfter hn hnext ih =>
    have hlt := lt_of_scanFrom_rest hempty h hlast
    have hle : n ≤ (c :: tail).length := Nat.le_of_lt hlt
    rw [Lexeme.at_of_matchesEmpty_eq_false _ _ hempty] at hnext
    have hnext' := Lexeme.next_append hnames hw hquote hnext fun _ => hlt
    rw [← Lexeme.at_of_matchesEmpty_eq_false wordBefore _ hempty, List.cons_append] at hnext'
    rw [List.cons_append, scanFrom_of_skip hnext' hn, ← List.cons_append,
      List.take_append_of_le_length hle, List.drop_append_of_le_length hle]
    refine ih tokens h ?_
    simp only [rest, List.length_drop] at hlast ⊢
    obtain ⟨t, ht, hterm, hstop⟩ := hlast
    exact ⟨t, ht, hterm, by omega⟩
  | case5 wordBefore offset pos c tail n raw stopPos kind token hterm hnext =>
    cases Except.ok.inj h
    obtain ⟨t, ht, -, hstop⟩ := hlast
    simp only [List.getLast?_singleton, Option.mem_def, Option.some.injEq] at ht
    subst ht
    have hend : n = (c :: tail).length := by
      simp only [token, make] at hstop
      omega
    rw [Lexeme.at_of_matchesEmpty_eq_false _ _ hempty] at hnext
    have hpos := (Lexeme.next_length hnext).1
    have hnext' := Lexeme.next_append hnames hw hquote hnext fun h => by cases h
    rw [← Lexeme.at_of_matchesEmpty_eq_false wordBefore _ hempty, List.cons_append] at hnext'
    rw [List.cons_append, scanFrom_of_token hnext' (by omega), ← List.cons_append,
      List.take_append_of_le_length hend.le]
    exact if_pos hterm
  | case6 => cases h
  | case7 wordBefore offset pos c tail n raw stopPos rest wordAfter kind token hterm hn hnext ih =>
    cases hrest : scanFrom terminator names wordAfter rest (offset + n) stopPos with
    | error e => rw [hrest] at h; cases h
    | ok more =>
      rw [hrest] at h
      cases Except.ok.inj h
      have hmore : ∃ t ∈ more.getLast?, t.value = terminator ∧ t.span.stop = offset + (c :: tail).length := by
        obtain ⟨t, ht, hvalue, hstop⟩ := hlast
        cases more with
        | nil =>
          simp only [List.getLast?_singleton, Option.mem_def, Option.some.injEq] at ht
          subst ht
          simp [hvalue] at hterm
        | cons t' more => exact ⟨t, by simpa [List.getLast?_cons_cons] using ht, hvalue, hstop⟩
      have hlt := lt_of_scanFrom_rest hempty hrest hmore
      have hle : n ≤ (c :: tail).length := Nat.le_of_lt hlt
      rw [Lexeme.at_of_matchesEmpty_eq_false _ _ hempty] at hnext
      have hnext' := Lexeme.next_append hnames hw hquote hnext fun h => by cases h
      rw [← Lexeme.at_of_matchesEmpty_eq_false wordBefore _ hempty, List.cons_append] at hnext'
      rw [List.cons_append, scanFrom_of_token hnext' hn, ← List.cons_append,
        List.take_append_of_le_length hle, List.drop_append_of_le_length hle, if_neg hterm]
      rw [ih more hrest (by
        simp only [rest, List.length_drop]
        obtain ⟨t, ht, hvalue, hstop⟩ := hmore
        exact ⟨t, ht, hvalue, by omega⟩)]
      rfl

theorem scanFrom_of_append {wordBefore : Bool} {text : List Char} {offset : Nat} {pos : Position}
    (tokens : List Token) (h : scanFrom terminator names wordBefore text offset pos = .ok tokens)
    (cs : List Char) (htext : text = cs ++ w)
    (hlast : ∃ t ∈ tokens.getLast?, t.value = terminator ∧ t.span.stop = offset + cs.length) :
    scanFrom terminator names wordBefore cs offset pos = .ok tokens := by
  -- the scans of the text with the gap and of the text alone take the same steps
  fun_induction scanFrom terminator names wordBefore text offset pos generalizing tokens cs with
  | case1 =>
    cases Except.ok.inj h
    simp at hlast
  | case2 => cases h
  | case3 => cases h
  | case4 wordBefore offset pos c tail n raw stopPos rest wordAfter hn hnext ih =>
    have hlt := lt_of_scanFrom_rest hempty h hlast
    cases cs with
    | nil => simp at hlt
    | cons c' cs =>
      obtain ⟨rfl, rfl⟩ := List.cons.inj (htext.trans (List.cons_append ..))
      have hle : n ≤ (c :: cs).length := hlt.le
      rw [Lexeme.at_of_matchesEmpty_eq_false _ _ hempty, ← List.cons_append] at hnext
      have hnext' := Lexeme.next_of_append hnames hw hnext (.inl hlt)
      rw [← Lexeme.at_of_matchesEmpty_eq_false wordBefore _ hempty] at hnext'
      have htake : (c :: cs).take n = raw := by
        rw [← @List.take_append_of_le_length _ _ w _ hle]
        rfl
      rw [scanFrom_of_skip hnext' hn, htake]
      refine ih tokens h ((c :: cs).drop n)
        (by rw [← List.drop_append_of_le_length hle]; rfl) ?_
      simp only [List.length_drop] at hlast ⊢
      obtain ⟨t, ht, hterm, hstop⟩ := hlast
      exact ⟨t, ht, hterm, by omega⟩
  | case5 wordBefore offset pos c tail n raw stopPos kind token hterm hnext =>
    cases Except.ok.inj h
    obtain ⟨t, ht, -, hstop⟩ := hlast
    simp only [List.getLast?_singleton, Option.mem_def, Option.some.injEq] at ht
    subst ht
    rw [Lexeme.at_of_matchesEmpty_eq_false _ _ hempty] at hnext
    have hpos := (Lexeme.next_length hnext).1
    have hend : n = cs.length := by
      simp only [token, make] at hstop
      omega
    cases cs with
    | nil => simp at hend; omega
    | cons c' cs =>
      obtain ⟨rfl, rfl⟩ := List.cons.inj (htext.trans (List.cons_append ..))
      rw [← List.cons_append] at hnext
      have hnext' := Lexeme.next_of_append hnames hw hnext (.inr ⟨hend, by simp⟩)
      rw [← Lexeme.at_of_matchesEmpty_eq_false wordBefore _ hempty] at hnext'
      have htake : (c :: cs).take n = raw := by
        rw [← @List.take_append_of_le_length _ _ w _ hend.le]
        rfl
      rw [scanFrom_of_token hnext' (by omega), htake]
      exact if_pos hterm
  | case6 => cases h
  | case7 wordBefore offset pos c tail n raw stopPos rest wordAfter kind token hterm hn hnext ih =>
    cases hrest : scanFrom terminator names wordAfter rest (offset + n) stopPos with
    | error e => rw [hrest] at h; cases h
    | ok more =>
      rw [hrest] at h
      cases Except.ok.inj h
      have hmore : ∃ t ∈ more.getLast?, t.value = terminator ∧ t.span.stop = offset + cs.length := by
        obtain ⟨t, ht, hvalue, hstop⟩ := hlast
        cases more with
        | nil =>
          simp only [List.getLast?_singleton, Option.mem_def, Option.some.injEq] at ht
          subst ht
          simp [hvalue] at hterm
        | cons t' more => exact ⟨t, by simpa [List.getLast?_cons_cons] using ht, hvalue, hstop⟩
      have hlt := lt_of_scanFrom_rest hempty hrest hmore
      cases cs with
      | nil => simp at hlt
      | cons c' cs =>
        obtain ⟨rfl, rfl⟩ := List.cons.inj (htext.trans (List.cons_append ..))
        have hle : n ≤ (c :: cs).length := hlt.le
        rw [Lexeme.at_of_matchesEmpty_eq_false _ _ hempty, ← List.cons_append] at hnext
        have hnext' := Lexeme.next_of_append hnames hw hnext (.inl hlt)
        rw [← Lexeme.at_of_matchesEmpty_eq_false wordBefore _ hempty] at hnext'
        have htake : (c :: cs).take n = raw := by
          rw [← @List.take_append_of_le_length _ _ w _ hle]
          rfl
        rw [scanFrom_of_token hnext' hn, htake, if_neg hterm]
        rw [ih more hrest ((c :: cs).drop n)
          (by rw [← List.drop_append_of_le_length hle]; rfl) (by
            simp only [List.length_drop]
            obtain ⟨t, ht, hvalue, hstop⟩ := hmore
            exact ⟨t, ht, hvalue, by omega⟩)]
        rfl

end Scanning

/-- Under a table whose register pattern matches no empty text and whose register names match
no white space, where the tokens of `x` with a gap `u` after it end with the terminator at the
end of `x`, they are the tokens of `x`, and of `x` with any gap `v` after it that closes no
string. -/
theorem scan_append_of_terminator {set : InstructionSet}
    (hempty : matchesEmpty set.registerNamesByLength = false)
    (hnames : ∀ name ∈ set.registerNamesByLength, ∀ q ∈ name.toList, ∀ b,
      isBlank b = true → caselessMatch q b = false)
    {x u v : String} (hu : ∀ b ∈ u.toList.head?, isBlank b = true)
    (hv : ∀ b ∈ v.toList.head?, isBlank b = true)
    (hquote : closedLength '"' (fun c => c != '\r' && c != '\n') v.toList = none)
    {tokens : List Token} (h : scan set (x ++ u) = .ok tokens)
    (hlast : ∃ t ∈ tokens.getLast?, t.value = set.terminator ∧ t.span.stop = x.length) :
    scan set x = .ok tokens ∧ scan set (x ++ v) = .ok tokens := by
  have hlast' : ∃ t ∈ tokens.getLast?, t.value = set.terminator ∧
      t.span.stop = 0 + x.toList.length := by
    simpa [String.length_toList] using hlast
  have hx : scan set x = .ok tokens :=
    scanFrom_of_append hempty hnames hu tokens h x.toList String.toList_append hlast'
  refine ⟨hx, ?_⟩
  unfold scan
  rw [String.toList_append]
  exact scanFrom_append hempty hnames hv hquote tokens hx hlast'

end Token

set_option maxRecDepth 20000 in
theorem sms32_names_match_no_blank :
    ∀ name ∈ InstructionSet.sms32.registerNamesByLength, ∀ q ∈ name.toList, ∀ b,
      Text.isBlank b = true → Text.caselessMatch q b = false := by
  have hcodes : InstructionSet.sms32.registerNamesByLength.all (fun name => name.toList.all
      fun q => Text.blankCodes.all fun k => !Text.caselessMatch q (Char.ofNat k)) = true := by
    cbv
  intro name hname q hq b hb
  have hq' := List.all_eq_true.1 (List.all_eq_true.1 hcodes name hname) q hq
  simpa using Text.of_isBlank (p := fun b => !Text.caselessMatch q b) hq' hb

/-- Under the SMS32 table, where the tokens of a source `x` with text `u` after it, empty or
starting with white space, end with the terminator at the end of `x`, they are the tokens of
`x`; and `x` with any other such text `v` after it has the same tokens, unless a string closes
in `v` before its first line ends: a double quote there that white space, a semicolon, a comma
or the end of the text follows. -/
theorem text_after_terminator_unread {x u v : String}
    (hu : ∀ b ∈ u.toList.head?, Text.isBlank b = true)
    (hv : ∀ b ∈ v.toList.head?, Text.isBlank b = true)
    (hquote : Token.closedLength '"' (fun c => c != '\r' && c != '\n') v.toList = none)
    {tokens : List Token} (h : Token.scan InstructionSet.sms32 (x ++ u) = .ok tokens)
    (hlast : ∃ t ∈ tokens.getLast?, t.value = InstructionSet.sms32.terminator ∧
      t.span.stop = x.length) :
    Token.scan InstructionSet.sms32 x = .ok tokens ∧
      Token.scan InstructionSet.sms32 (x ++ v) = .ok tokens :=
  Token.scan_append_of_terminator (by cbv) sms32_names_match_no_blank hu hv hquote h hlast

/-- The tokens of `nop` and `end` on two lines. -/
def nopEndTokens : List Token := [
  ⟨.bare, "NOP", "nop", ⟨0, 3, ⟨1, 0⟩, ⟨1, 3⟩⟩⟩,
  ⟨.bare, "END", "end", ⟨4, 7, ⟨2, 0⟩, ⟨2, 3⟩⟩⟩]

/-- Neither words after the terminator nor a string on a later line change the tokens of
`nop` and `end`. -/
theorem nopEnd_tokens_ignore_trailing_text :
    Token.scan InstructionSet.sms32 ("nop\nend" ++ " junk") = .ok nopEndTokens ∧
      Token.scan InstructionSet.sms32 "nop\nend" = .ok nopEndTokens ∧
      Token.scan InstructionSet.sms32 ("nop\nend" ++ "\n\"more\"") = .ok nopEndTokens :=
  have h : Token.scan InstructionSet.sms32 ("nop\nend" ++ " junk") = .ok nopEndTokens := by cbv
  ⟨h, text_after_terminator_unread (by simp [Text.isBlank]) (by simp [Text.isBlank]) (by cbv) h
    ⟨_, rfl, rfl, by decide⟩⟩

/-- The tokens of a double quote that nothing closes, then the terminator: a bare word `"A` and
`END`. -/
def openQuoteTokens : List Token := [
  ⟨.bare, "\"A", "\"a", ⟨0, 2, ⟨1, 0⟩, ⟨1, 2⟩⟩⟩,
  ⟨.bare, "END", "end", ⟨3, 6, ⟨1, 3⟩, ⟨1, 6⟩⟩⟩]

/-- A double quote after the terminator closes a string that opens before it: `"a end` ends
with the terminator at its end, but a space and a double quote after it turn the whole text
into one string. -/
theorem quote_reaches_past_terminator :
    Token.scan InstructionSet.sms32 "\"a end" = .ok openQuoteTokens ∧
      Token.scan InstructionSet.sms32 ("\"a end" ++ " \"") =
        .ok [⟨.text, "a end ", "\"a end \"", ⟨0, 8, ⟨1, 0⟩, ⟨1, 8⟩⟩⟩] ∧
      [(⟨.text, "a end ", "\"a end \"", ⟨0, 8, ⟨1, 0⟩, ⟨1, 8⟩⟩⟩ : Token)] ≠ openQuoteTokens :=
  ⟨by cbv, by cbv, fun h => by simp [openQuoteTokens] at h⟩

end ByteAsm
