import Mathlib
import ByteAsm.Assembly.Image
import ByteAsm.Proofs.JumpDistance

/-!
# Everything an assembly produces fits the machine

An assembly that succeeds fits the 256 bytes of the machine: its bytes lie at addresses 0 to `FF`,
its statements start there and its labels are bound there, so every memory image of it can be
built and dumped (`assembly_fits_memory`). An origin directive that takes a string or a label
moves the counter to a value that is no address (`origin_beyond_addresses`).
-/

namespace ByteAsm

namespace InstructionSet

/-- Whether every opcode of the table and every register number is a byte. -/
def byteCoded (set : InstructionSet) : Bool :=
  (set.forms.all fun entry => entry.2.all fun f => f.opcode.all fun op => 0 ≤ op && op ≤ 0xFF) &&
    set.registers.all fun r => 0 ≤ r.2 && r.2 ≤ 0xFF

/-- Whether the origin directive takes an address: none of its forms takes a string or a label
first. -/
def originTakesAddress (set : InstructionSet) : Bool :=
  (set.formsOf? set.origin).all fun forms =>
    forms.all fun f => f.kinds.head?.all fun k => k != .text && k != .label

theorem opcode_byte {set : InstructionSet} {mnemonic : String} {forms : List Form} {f : Form}
    {op : Int} (h : set.byteCoded = true) (hforms : set.formsOf? mnemonic = some forms)
    (hf : f ∈ forms) (hop : f.opcode = some op) : 0 ≤ op ∧ op ≤ 0xFF := by
  simp only [byteCoded, Bool.and_eq_true, List.all_eq_true] at h
  have hentry := h.1 _ (mem_forms_of_formsOf? hforms) f hf
  simpa [hop] using hentry

theorem registerIndex_byte {set : InstructionSet} {name : String} {i : Int}
    (h : set.byteCoded = true) (hi : set.registerIndex? name = some i) : 0 ≤ i ∧ i ≤ 0xFF := by
  simp only [byteCoded, Bool.and_eq_true, List.all_eq_true] at h
  obtain ⟨r, hfind, rfl⟩ := Option.map_eq_some_iff.1 hi
  simpa using h.2 r (List.mem_of_find?_eq_some hfind)

theorem origin_first_kind {set : InstructionSet} {forms : List Form} {f : Form}
    {k : OperandKind} (h : set.originTakesAddress = true)
    (hforms : set.formsOf? set.origin = some forms) (hf : f ∈ forms) (hk : f.kinds.head? = some k) :
    k ≠ .text ∧ k ≠ .label := by
  simp only [originTakesAddress, hforms, Option.all_some, List.all_eq_true] at h
  simpa [hk] using h f hf

end InstructionSet

namespace Statement

theorem ReadAs.value_byte {set : InstructionSet} {t : Token} {o : Operand}
    (hset : set.byteCoded = true) (h : ReadAs set t o) :
    (o.kind = .text ∧ ∃ cs, o.value = .codes cs ∧ ∀ c ∈ cs, c ≤ 0xFF) ∨
      (o.kind = .label ∧ o.value = .pending) ∨ ∃ n, o.value = .scalar n ∧ 0 ≤ n ∧ n ≤ 0xFF := by
  have hvalue := h.value
  have hfits := h.fits
  generalize o.kind = k at hvalue hfits ⊢
  generalize o.value = v at hvalue ⊢
  cases k with
  | number =>
    cases Except.ok.inj hvalue
    exact .inr (.inr ⟨_, rfl, by omega, by exact_mod_cast hfits.2⟩)
  | address =>
    cases Except.ok.inj hvalue
    exact .inr (.inr ⟨_, rfl, by omega, by exact_mod_cast hfits.2.2⟩)
  | register | registerAddress =>
    obtain ⟨i, hi, rfl⟩ := registerIndex_of_operandValue (by simp) hvalue
    exact .inr (.inr ⟨i, rfl, InstructionSet.registerIndex_byte hset hi⟩)
  | text =>
    cases Except.ok.inj hvalue
    refine .inl ⟨rfl, _, rfl, ?_⟩
    intro c hc
    obtain ⟨ch, hch, rfl⟩ := List.mem_map.1 hc
    exact hfits.2 ch hch
  | label =>
    cases Except.ok.inj hvalue
    exact .inr (.inl ⟨rfl, rfl⟩)

theorem ReadAs.bytes_byte {set : InstructionSet} {t : Token} {o : Operand}
    (hset : set.byteCoded = true) (h : ReadAs set t o) :
    ∀ b ∈ o.value.bytes, 0 ≤ b ∧ b ≤ 0xFF := by
  rcases h.value_byte hset with ⟨-, cs, hcs, hsmall⟩ | ⟨-, hpending⟩ | ⟨n, hn, hbyte⟩
  · intro b hb
    rw [hcs, OperandValue.bytes] at hb
    obtain ⟨c, hc, rfl⟩ := List.mem_map.1 hb
    have hc' := hsmall c hc
    simp only [Int.ofNat_eq_natCast]
    omega
  · simp [hpending, OperandValue.bytes]
  · simpa [hn, OperandValue.bytes] using hbyte

theorem OperandsRead.exists_readAs {set : InstructionSet} {ts : List Token} {os : List Operand}
    (h : OperandsRead set ts os) : ∀ o ∈ os, ∃ t, ReadAs set t o := by
  cases h with
  | none => simp
  | one ho => simpa using ⟨_, ho⟩
  | two h₁ _ h₂ =>
    intro o ho
    rcases List.mem_pair.1 ho with rfl | rfl
    · exact ⟨_, h₁⟩
    · exact ⟨_, h₂⟩

theorem ReadFrom.code_byte {set : InstructionSet} {s : Statement} {chunk : List Token}
    (hset : set.byteCoded = true) (h : ReadFrom set s chunk) : ∀ b ∈ s.code, 0 ≤ b ∧ b ≤ 0xFF := by
  obtain ⟨_, _, _, -, -, -, -, hread⟩ := h.tokens
  obtain ⟨forms, form, hforms, hform, -, hopcode⟩ := h.form
  rw [h.code]
  intro b hb
  simp only [assembleBytes, List.mem_append, List.mem_flatMap] at hb
  rcases hb with hb | ⟨o, ho, hb⟩
  · have hsome : form.opcode = some b := by
      rw [← hopcode]
      simpa using hb
    exact InstructionSet.opcode_byte hset hforms hform hsome
  · obtain ⟨t, hread⟩ := hread.exists_readAs o ho
    exact hread.bytes_byte hset b hb

theorem ReadFrom.originTarget_byte {set : InstructionSet} {s : Statement} {chunk : List Token}
    {target : OperandValue} (hset : set.byteCoded = true)
    (horigin : set.originTakesAddress = true) (h : ReadFrom set s chunk)
    (hs : s.mnemonic = set.origin) (htarget : s.originTarget = .ok target) :
    ∃ a, target = .scalar a ∧ 0 ≤ a ∧ a ≤ 0xFF := by
  unfold Statement.originTarget at htarget
  split at htarget
  · cases htarget
  · next o others hoperands =>
    cases htarget
    obtain ⟨_, _, _, -, -, -, -, hread⟩ := h.tokens
    obtain ⟨forms, form, hforms, hform, hkinds, -⟩ := h.form
    rw [hs] at hforms
    have hhead : form.kinds.head? = some o.kind := by simp [hkinds, hoperands]
    obtain ⟨hnotText, hnotLabel⟩ := InstructionSet.origin_first_kind horigin hforms hform hhead
    obtain ⟨t, ho⟩ := hread.exists_readAs o (by simp [hoperands])
    rcases ho.value_byte hset with ⟨htext, -⟩ | ⟨hlabel, -⟩ | hscalar
    · exact absurd htext hnotText
    · exact absurd hlabel hnotLabel
    · exact hscalar

/-- What the second pass needs of a statement to keep within memory: its bytes are bytes, its
label operands have no value yet, and as the origin directive it moves the counter to an
address. -/
structure Placeable (set : InstructionSet) (s : Statement) : Prop where
  code : ∀ b ∈ s.code, 0 ≤ b ∧ b ≤ 0xFF
  pending : ∀ o ∈ s.operands, o.kind = .label → o.value = .pending
  origin : s.mnemonic = set.origin → ∀ target, s.originTarget = .ok target →
    ∃ a, target = .scalar a ∧ 0 ≤ a ∧ a ≤ 0xFF

theorem placeable_of_parse {set : InstructionSet} {tokens : List Token}
    {statements : List Statement} (hset : set.byteCoded = true)
    (horigin : set.originTakesAddress = true) (h : parse set tokens = .ok statements) :
    ∀ s ∈ statements, Placeable set s := by
  intro s hs
  obtain ⟨chunk, hread⟩ := exists_read_of_parse h s hs
  obtain ⟨_, _, _, -, -, -, -, hoperands⟩ := hread.tokens
  exact ⟨hread.code_byte hset, hoperands.label_pending,
    fun hmnemonic _ htarget => hread.originTarget_byte hset horigin hmnemonic htarget⟩

theorem ReadFrom.operands_nil_of_last {set : InstructionSet} {s : Statement} {chunk : List Token}
    (h : ReadFrom set s chunk) (hlast : ∀ t ∈ chunk.dropLast, t.value ≠ s.mnemonic) :
    s.operands = [] := by
  obtain ⟨label, m, operandTokens, rfl, -, -, hm, hread⟩ := h.tokens
  generalize s.operands = operands at hread ⊢
  cases operandTokens with
  | nil =>
    cases hread
    rfl
  | cons t more =>
    have hmem : m ∈ (label ++ m :: t :: more).dropLast := by
      simp [List.dropLast_append_of_ne_nil]
    exact absurd hm (hlast m hmem)

theorem exists_last_of_forall₂ {α β : Type} {R : α → List β → Prop} {as : List α}
    {chunks : List (List β)} (h : List.Forall₂ R as chunks) :
    ∀ a ∈ as.getLast?, ∃ before chunk, R a chunk ∧ chunks.flatten = before ++ chunk := by
  induction h with
  | nil => simp
  | @cons a chunk as' chunks' ha hrest ih =>
    cases hrest with
    | nil =>
      intro a' ha'
      cases ha'
      exact ⟨[], chunk, ha, by simp⟩
    | cons hb hrest' =>
      intro a' ha'
      obtain ⟨before, last, hlast, hflatten⟩ := ih a' (by simpa using ha')
      exact ⟨chunk ++ before, last, hlast, by simp [hflatten]⟩

theorem last_of_parse {set : InstructionSet} {source : String} {tokens : List Token}
    {statements : List Statement} (hscan : Token.scan set source = .ok tokens)
    (h : parse set tokens = .ok statements) :
    ∀ s ∈ statements.getLast?, s.mnemonic = set.terminator ∧ s.operands = [] ∧
      s.code = s.opcode.toList ∧ ∃ forms form, set.formsOf? set.terminator = some forms ∧
        form ∈ forms ∧ s.opcode = form.opcode := by
  intro s hs
  obtain ⟨chunks, rfl, hreads, hterminator⟩ := parse_ok h
  have hmnemonic : s.mnemonic = set.terminator := by
    rw [hs] at hterminator
    simpa using hterminator
  obtain ⟨before, chunk, hread, hflatten⟩ := exists_last_of_forall₂ hreads s hs
  have hchunk : chunk ≠ [] := by
    obtain ⟨label, m, operandTokens, rfl, -⟩ := hread.tokens
    simp
  have hlast : ∀ t ∈ chunk.dropLast, t.value ≠ s.mnemonic := by
    intro t ht
    rw [hmnemonic]
    apply Token.terminator_last_of_scan hscan t
    rw [hflatten, List.dropLast_append_of_ne_nil hchunk]
    exact List.mem_append_right _ ht
  have hoperands := hread.operands_nil_of_last hlast
  obtain ⟨forms, form, hforms, hform, -, hopcode⟩ := hread.form
  refine ⟨hmnemonic, hoperands, by simp [hread.code, hoperands, assembleBytes], forms, form, ?_,
    hform, hopcode⟩
  rwa [← hmnemonic]

end Statement

namespace Placement

variable {set : InstructionSet} {labels : OrderedMap String OperandValue}

theorem trace_mem {statements : List Statement} {counter : OperandValue}
    {steps : List (OperandValue × Statement)} (h : trace set labels statements counter = .ok steps) :
    ∀ step ∈ steps, ∃ s ∈ statements, ∃ next, place set labels s step.1 = .ok (step.2, next) := by
  induction statements generalizing counter steps with
  | nil =>
    cases h
    simp
  | cons s rest ih =>
    obtain ⟨s', next, more, hplace, hrest, rfl⟩ := trace_cons_ok h
    intro step hstep
    rcases List.mem_cons.1 hstep with rfl | hstep
    · exact ⟨s, List.mem_cons_self, next, hplace⟩
    · obtain ⟨s'', hs'', next', hplace'⟩ := ih hrest step hstep
      exact ⟨s'', List.mem_cons_of_mem _ hs'', next', hplace'⟩

theorem trace_getLast {statements : List Statement} {counter : OperandValue}
    {steps : List (OperandValue × Statement)} (h : trace set labels statements counter = .ok steps) :
    ∀ step ∈ steps.getLast?, ∃ s ∈ statements.getLast?, ∃ next,
      place set labels s step.1 = .ok (step.2, next) := by
  induction statements generalizing counter steps with
  | nil =>
    cases h
    simp
  | cons s rest ih =>
    obtain ⟨s', next, more, hplace, hrest, rfl⟩ := trace_cons_ok h
    cases rest with
    | nil =>
      cases hrest
      intro step hstep
      cases hstep
      exact ⟨s, rfl, next, hplace⟩
    | cons s₂ rest =>
      obtain ⟨s₂', next₂, more', -, -, rfl⟩ := trace_cons_ok hrest
      intro step hstep
      exact ih hrest step (by simpa using hstep)

theorem place_code_byte {s s' : Statement} {counter next : OperandValue}
    (h : place set labels s counter = .ok (s', next)) (hs : Statement.Placeable set s) :
    ∀ b ∈ s'.code, 0 ≤ b ∧ b ≤ 0xFF := by
  rcases place_ok h with ⟨-, rfl, -⟩ | ⟨-, start, -, hresolved, -⟩
  · exact hs.code
  split at hresolved
  · rcases resolve_ok hresolved with ⟨-, rfl⟩ | ⟨o, others, target, -, -, hlow, hhigh, rfl⟩
    · exact hs.code
    intro b hb
    rcases List.mem_append.1 hb with hb | hb
    · exact hs.code b hb
    · rw [List.mem_singleton.1 hb, Numeral.ofSigned_eq_emod hlow hhigh]
      omega
  · cases hresolved
    exact hs.code

theorem place_of_operands_nil {s s' : Statement} {counter next : OperandValue}
    (h : place set labels s counter = .ok (s', next)) (hs : s.operands = []) :
    s' = s ∧ s.mnemonic ≠ set.origin ∧ ∃ a, counter = .scalar a := by
  rcases place_ok h with ⟨-, -, htarget⟩ | ⟨hne, start, rfl, hresolved, -⟩
  · simp [Statement.originTarget, hs] at htarget
  have hawaits : s.awaitsDistance = false := by simp [Statement.awaitsDistance, hs]
  rw [if_neg (by simp [hawaits])] at hresolved
  cases hresolved
  exact ⟨rfl, hne, start, rfl⟩

theorem place_next_in_memory {s s' : Statement} {a : Int} {next : OperandValue}
    (h : place set labels s (.scalar a) = .ok (s', next)) (ha : 0 ≤ a)
    (hbound : s.mnemonic ≠ set.origin → ∃ b, next = .scalar b ∧ b ≤ 0xFF)
    (hs : Statement.Placeable set s) :
    (s.mnemonic ≠ set.origin →
      next = .scalar (a + s'.code.length) ∧ a + s'.code.length ≤ 0xFF) ∧
      ∃ b, next = .scalar b ∧ 0 ≤ b ∧ b ≤ 0xFF := by
  have hends : s.mnemonic ≠ set.origin →
      next = .scalar (a + s'.code.length) ∧ a + s'.code.length ≤ 0xFF := by
    intro hne
    rcases place_ok h with ⟨horigin, -⟩ | ⟨-, start, hstart, -, rfl⟩
    · exact absurd horigin hne
    cases hstart
    obtain ⟨b, hb, hbound'⟩ := hbound hne
    cases hb
    exact ⟨rfl, hbound'⟩
  refine ⟨hends, ?_⟩
  by_cases horigin : s.mnemonic = set.origin
  · rcases place_ok h with ⟨-, -, htarget⟩ | ⟨hne, -⟩
    · exact hs.origin horigin next htarget
    · exact absurd horigin hne
  · obtain ⟨hnext, hend⟩ := hends horigin
    exact ⟨_, hnext, by omega, hend⟩

/-- The second pass keeps within memory, as the first pass checked: every statement starts at an
address, and every one but the last that is not the origin directive ends by the last address. -/
theorem trace_in_memory {statements : List Statement} {counter : OperandValue}
    {steps : List (OperandValue × Statement)} {L L' : OrderedMap String OperandValue}
    {declared : List (String × Span)} (h : trace set labels statements counter = .ok steps)
    (hwalk : Layout.walk set statements L declared counter = .ok L')
    (hcounter : ∃ a, counter = .scalar a ∧ 0 ≤ a ∧ a ≤ 0xFF)
    (hplaceable : ∀ s ∈ statements, Statement.Placeable set s) :
    (∀ step ∈ steps, ∃ a, step.1 = .scalar a ∧ 0 ≤ a ∧ a ≤ 0xFF) ∧
      ∀ step ∈ steps.dropLast, step.2.mnemonic ≠ set.origin →
        ∃ a, step.1 = .scalar a ∧ 0 ≤ a ∧ a + step.2.code.length ≤ 0xFF := by
  induction statements generalizing counter steps L declared with
  | nil =>
    cases h
    simp
  | cons s rest ih =>
    obtain ⟨s', next, more, hplace, hrest, rfl⟩ := trace_cons_ok h
    obtain ⟨L₁, declared₁, next', -, hadvance, hwalkRest, hbound⟩ := Layout.walk_cons_ok hwalk
    have hnext : next' = next := by
      rw [place_advance hplace] at hadvance
      exact (Except.ok.inj hadvance).symm
    rw [hnext] at hwalkRest hbound
    obtain ⟨a, rfl, ha0, ha⟩ := hcounter
    cases rest with
    | nil =>
      cases hrest
      refine ⟨?_, by simp⟩
      intro step hstep
      rw [List.mem_singleton.1 hstep]
      exact ⟨a, rfl, ha0, ha⟩
    | cons s₂ rest =>
      have hmore : more ≠ [] := by
        obtain ⟨_, _, _, -, -, rfl⟩ := trace_cons_ok hrest
        simp
      have hmnemonic := place_mnemonic hplace
      obtain ⟨hends, hnextIn⟩ := place_next_in_memory hplace ha0
        (fun hne => hbound hne (by simp)) (hplaceable s List.mem_cons_self)
      obtain ⟨hall, hlast⟩ := ih hrest hwalkRest hnextIn
        (fun s hs => hplaceable s (List.mem_cons_of_mem _ hs))
      refine ⟨?_, ?_⟩
      · intro step hstep
        rcases List.mem_cons.1 hstep with rfl | hstep
        · exact ⟨a, rfl, ha0, ha⟩
        · exact hall step hstep
      · rw [List.dropLast_cons_of_ne_nil hmore]
        intro step hstep hne
        rcases List.mem_cons.1 hstep with rfl | hstep
        · exact ⟨a, rfl, ha0, (hends (hmnemonic ▸ hne)).2⟩
        · exact hlast step hstep hne

/-- The bytes of a map lie at distinct addresses from 0 up to below `bound`, and each is a
byte. -/
structure BytesBelow (bound : Int) (bytes : OrderedMap Int Int) : Prop where
  nodup : bytes.keys.Nodup
  entries : ∀ e ∈ bytes.entries, 0 ≤ e.1 ∧ e.1 < bound ∧ 0 ≤ e.2 ∧ e.2 ≤ 0xFF

theorem bytesBelow_empty (bound : Int) : BytesBelow bound OrderedMap.empty :=
  ⟨List.nodup_nil, by simp [OrderedMap.empty]⟩

theorem writeBytes_below {bound start : Int} {bytes : OrderedMap Int Int} {code : List Int}
    (hbytes : BytesBelow bound bytes) (hcode : ∀ b ∈ code, 0 ≤ b ∧ b ≤ 0xFF) (hstart : 0 ≤ start)
    (hend : start + code.length ≤ bound) : BytesBelow bound (writeBytes bytes start code) := by
  unfold writeBytes
  refine List.foldlRecOn (motive := BytesBelow bound) _ _ hbytes ?_
  intro m hm p hp
  obtain ⟨b, i⟩ := p
  have hi : i < code.length := by simpa using List.snd_lt_of_mem_zipIdx hp
  have hb := hcode b (List.fst_mem_of_mem_zipIdx hp)
  refine ⟨OrderedMap.keys_nodup_insert _ hm.nodup, fun e he => ?_⟩
  rcases OrderedMap.mem_entries_insert he with he | rfl
  · exact hm.entries e he
  · dsimp only
    omega

theorem record_below {bound : Int} {placed : Placement} {counter : OperandValue} {s : Statement}
    (hplaced : BytesBelow bound placed.bytes) (hcode : ∀ b ∈ s.code, 0 ≤ b ∧ b ≤ 0xFF)
    (hends : s.mnemonic ≠ set.origin →
      ∃ a, counter = .scalar a ∧ 0 ≤ a ∧ a + s.code.length ≤ bound) :
    BytesBelow bound (record set placed counter s).bytes := by
  unfold record
  split
  · exact hplaced
  · next hne =>
    split
    · next start =>
      obtain ⟨a, ha, ha0, hend⟩ := hends hne
      cases ha
      exact writeBytes_below hplaced hcode ha0 hend
    · exact hplaced

theorem mem_record_statements {placed : Placement} {counter : OperandValue} {s : Statement}
    {e : OperandValue × Statement} (h : e ∈ (record set placed counter s).statements.entries) :
    e ∈ placed.statements.entries ∨ e.1 = counter := by
  unfold record at h
  split at h
  · rcases OrderedMap.mem_entries_insertIfAbsent h with h | rfl
    · exact .inl h
    · exact .inr rfl
  · split at h
    · split at h
      · rcases OrderedMap.mem_entries_insertIfAbsent h with h | rfl
        · exact .inl h
        · exact .inr rfl
      · rcases OrderedMap.mem_entries_insert h with h | rfl
        · exact .inl h
        · exact .inr rfl
    · exact .inl h

/-- The steps of a second pass that keep within memory: each starts at an address and writes
bytes, each but the last that is not the origin directive ends by the last address, and the last
places the terminator without operands, so it writes at most an opcode of the terminator. -/
structure InMemory (set : InstructionSet) (steps : List (OperandValue × Statement)) : Prop where
  starts : ∀ step ∈ steps, ∃ a, step.1 = .scalar a ∧ 0 ≤ a ∧ a ≤ 0xFF
  code : ∀ step ∈ steps, ∀ b ∈ step.2.code, 0 ≤ b ∧ b ≤ 0xFF
  ends : ∀ step ∈ steps.dropLast, step.2.mnemonic ≠ set.origin →
    ∃ a, step.1 = .scalar a ∧ 0 ≤ a ∧ a + step.2.code.length ≤ 0xFF
  last : ∀ step ∈ steps.getLast?, step.2.mnemonic = set.terminator ∧ step.2.operands = [] ∧
    step.2.code = step.2.opcode.toList ∧ ∃ forms form, set.formsOf? set.terminator = some forms ∧
      form ∈ forms ∧ step.2.opcode = form.opcode

theorem inMemory_of_parse {source : String} {tokens : List Token} {statements : List Statement}
    {L : OrderedMap String OperandValue} {steps : List (OperandValue × Statement)}
    (hcoded : set.byteCoded = true) (horigin : set.originTakesAddress = true)
    (hscan : Token.scan set source = .ok tokens)
    (hparse : Statement.parse set tokens = .ok statements)
    (hlabels : Layout.labels set statements = .ok L)
    (h : trace set labels statements (.scalar 0) = .ok steps) : InMemory set steps := by
  have hplaceable := Statement.placeable_of_parse hcoded horigin hparse
  obtain ⟨hstarts, hends⟩ := trace_in_memory h hlabels ⟨0, rfl, le_refl _, by norm_num⟩ hplaceable
  refine ⟨hstarts, ?code, hends, ?last⟩
  case code =>
    intro step hstep
    obtain ⟨s, hs, next, hplace⟩ := trace_mem h step hstep
    exact place_code_byte hplace (hplaceable s hs)
  case last =>
    intro step hstep
    obtain ⟨s, hs, next, hplace⟩ := trace_getLast h step hstep
    obtain ⟨hmnemonic, hoperands, hcode, hform⟩ := Statement.last_of_parse hscan hparse s hs
    obtain ⟨rfl, -, -⟩ := place_of_operands_nil hplace hoperands
    exact ⟨hmnemonic, hoperands, hcode, hform⟩

namespace InMemory

variable {steps : List (OperandValue × Statement)}

theorem last_length (h : InMemory set steps) :
    ∀ step ∈ steps.getLast?, step.2.code.length ≤ 1 ∧
      ((∀ forms, set.formsOf? set.terminator = some forms → ∀ f ∈ forms, f.opcode = none) →
        step.2.code = []) := by
  intro step hstep
  obtain ⟨-, -, hcode, forms, form, hforms, hform, hopcode⟩ := h.last step hstep
  refine ⟨?_, fun hnone => ?_⟩
  · rw [hcode]
    cases step.2.opcode <;> simp
  · rw [hcode, hopcode, hnone forms hforms form hform]
    rfl

theorem ends_below (h : InMemory set steps) {bound : Int} (hbound : 0xFF ≤ bound)
    (hlast : ∀ step ∈ steps.getLast?, 0xFF + step.2.code.length ≤ bound) :
    ∀ step ∈ steps, step.2.mnemonic ≠ set.origin →
      ∃ a, step.1 = .scalar a ∧ 0 ≤ a ∧ a + step.2.code.length ≤ bound := by
  intro step hstep hne
  by_cases hisLast : steps.getLast? = some step
  · obtain ⟨a, hstart, ha0, ha⟩ := h.starts step hstep
    have hfits := hlast step hisLast
    exact ⟨a, hstart, ha0, by omega⟩
  · have hbefore : step ∈ steps.dropLast :=
      List.mem_dropLast_of_mem_of_ne_getLast? hstep (Ne.symm hisLast)
    obtain ⟨a, ha, ha0, hend⟩ := h.ends step hbefore hne
    exact ⟨a, ha, ha0, by omega⟩

theorem bytesBelow (h : InMemory set steps) {bound : Int} (hbound : 0xFF ≤ bound)
    (hlast : ∀ step ∈ steps.getLast?, 0xFF + step.2.code.length ≤ bound) :
    BytesBelow bound (steps.foldl (fun p step => record set p step.1 step.2)
      ⟨OrderedMap.empty, OrderedMap.empty⟩).bytes := by
  refine List.foldlRecOn (motive := fun p : Placement => BytesBelow bound p.bytes) _ _
    (bytesBelow_empty bound) ?_
  intro p hp step hstep
  exact record_below hp (h.code step hstep) (h.ends_below hbound hlast step hstep)

/-- Recording the steps keys every statement by an address. -/
theorem statements_at_addresses (h : InMemory set steps) :
    ∀ e ∈ (steps.foldl (fun p step => record set p step.1 step.2)
      ⟨OrderedMap.empty, OrderedMap.empty⟩).statements.entries,
      ∃ a, e.1 = .scalar a ∧ 0 ≤ a ∧ a ≤ 0xFF := by
  refine List.foldlRecOn
    (motive := fun p : Placement => ∀ e ∈ p.statements.entries, ∃ a, e.1 = .scalar a ∧ 0 ≤ a ∧ a ≤ 0xFF)
    _ _ (by simp [OrderedMap.empty]) ?_
  intro p hp step hstep e he
  rcases mem_record_statements he with he | he
  · exact hp e he
  · rw [he]
    exact h.starts step hstep

end InMemory

end Placement

namespace Layout

theorem value_mem_of_labelled {statements : List Statement} {cs : List OperandValue}
    {e : String × OperandValue} (h : e ∈ labelled statements cs) : e.2 ∈ cs := by
  obtain ⟨⟨s, c⟩, hmem, he⟩ := List.mem_filterMap.1 h
  obtain ⟨l, -, rfl⟩ := Option.map_eq_some_iff.1 he
  exact (List.of_mem_zip hmem).2

end Layout

namespace Assembly

theorem store_ok {img : Array Nat} {address byte : Int} (haddress : 0 ≤ address ∧ address < 256)
    (hbyte : 0 ≤ byte ∧ byte ≤ 0xFF) :
    store img address byte = .ok (img.set! address.toNat byte.toNat) := by
  unfold store memorySize wordFloor
  rw [if_neg (by omega), if_neg (by omega), if_neg (by omega)]
  simp [show ¬address < 0 by omega]

theorem foldlM_store {entries : List (Int × Int)}
    (h : ∀ e ∈ entries, 0 ≤ e.1 ∧ e.1 < 256 ∧ 0 ≤ e.2 ∧ e.2 ≤ 0xFF) (img : Array Nat) :
    entries.foldlM (fun img (address, byte) => store img address byte) img =
      .ok (entries.foldl (fun img (e : Int × Int) => img.set! e.1.toNat e.2.toNat) img) := by
  induction entries generalizing img with
  | nil => rfl
  | cons e rest ih =>
    obtain ⟨he0, he, hb0, hb⟩ := h e List.mem_cons_self
    obtain ⟨address, byte⟩ := e
    rw [List.foldlM_cons, List.foldl_cons]
    dsimp only
    rw [store_ok ⟨he0, he⟩ ⟨hb0, hb⟩]
    exact ih (fun e' he' => h e' (List.mem_cons_of_mem _ he')) _

theorem toList_foldl_set (entries : List (Int × Int)) (img : Array Nat) :
    (entries.foldl (fun img (e : Int × Int) => img.set! e.1.toNat e.2.toNat) img).toList =
      entries.foldl (fun l (e : Int × Int) => l.set e.1.toNat e.2.toNat) img.toList := by
  induction entries generalizing img with
  | nil => rfl
  | cons e rest ih => rw [List.foldl_cons, List.foldl_cons, ih, Array.toList_set!]

theorem getElem?_foldl_set {entries : List (Int × Int)} (hnodup : (entries.map Prod.fst).Nodup)
    (hkeys : ∀ e ∈ entries, 0 ≤ e.1) (l : List Nat) (i : Nat) :
    (entries.foldl (fun l (e : Int × Int) => l.set e.1.toNat e.2.toNat) l)[i]? =
      l[i]?.map fun x =>
        (((entries.find? fun e => e.1 == (i : Int)).map Prod.snd).map Int.toNat).getD x := by
  induction entries generalizing l with
  | nil => simp
  | cons e rest ih =>
    simp only [List.map_cons, List.nodup_cons] at hnodup
    rw [List.foldl_cons, ih hnodup.2 (fun e' he' => hkeys e' (List.mem_cons_of_mem _ he'))]
    have he0 := hkeys e List.mem_cons_self
    by_cases hi : e.1 = (i : Int)
    · have hrest : (rest.find? fun e' => e'.1 == (i : Int)) = none := by
        rw [List.find?_eq_none]
        intro e' he' hsame
        exact hnodup.1 (List.mem_map.2 ⟨e', he', (beq_iff_eq.1 hsame).trans hi.symm⟩)
      have hindex : e.1.toNat = i := by omega
      rw [hindex, List.getElem?_set_self']
      simp [hrest, hi]
      rfl
    · have hindex : e.1.toNat ≠ i := by omega
      rw [List.getElem?_set_ne hindex]
      simp [hi]

/-- The memory image of an assembly whose bytes lie at distinct addresses of memory and are
bytes: the byte written at each address, and the fill byte where none is. -/
theorem image_ok {a : Assembly} {fill : Int} (hbytes : Placement.BytesBelow 256 a.bytes)
    (hfill : 0 ≤ fill ∧ fill ≤ 0xFF) :
    ∃ img, a.image fill = .ok img ∧
      img.toList = (List.range memorySize).map fun i : Nat => ((a.bytes.get? i).getD fill).toNat := by
  unfold image
  rw [if_neg (by omega), foldlM_store hbytes.entries]
  refine ⟨_, rfl, ?_⟩
  rw [toList_foldl_set]
  apply List.ext_getElem?
  intro i
  rw [getElem?_foldl_set hbytes.nodup (fun e he => (hbytes.entries e he).1)]
  by_cases hi : i < memorySize
  · simp only [Array.toList_replicate, List.getElem?_replicate, List.getElem?_map,
      List.getElem?_range hi, if_pos hi]
    simp only [Option.map_some, OrderedMap.get?]
    cases (a.bytes.entries.find? fun e => e.1 == (i : Int)) <;> rfl
  · simp [hi]

theorem hexDump_ok {a : Assembly} {fill : Int} (hbytes : Placement.BytesBelow 256 a.bytes)
    (hfill : 0 ≤ fill ∧ fill ≤ 0xFF) : ∃ dump, a.hexDump fill = .ok dump := by
  obtain ⟨img, himage, -⟩ := image_ok hbytes hfill
  unfold hexDump
  rw [himage]
  exact ⟨_, rfl⟩

end Assembly

/-- **An assembly fits the machine.** Where the table codes its opcodes and registers within a
byte and its origin directive takes an address, an assembly that succeeds writes bytes at
addresses of memory, starts every statement at an address and binds every label to one. It is
the fold of a second pass that keeps within memory; where the terminator has no opcode the last
address is left free; and for every fill byte its memory image holds the program's bytes where it
writes them and the fill byte elsewhere, and its hexadecimal dump can be shown. -/
theorem assembly_fits_memory {set : InstructionSet} {source : String} {R : Assembly}
    (hcoded : set.byteCoded = true) (horigin : set.originTakesAddress = true)
    (h : Assembly.assemble set source = .ok R) :
    (∀ e ∈ R.bytes.entries, 0 ≤ e.1 ∧ e.1 ≤ 0xFF ∧ 0 ≤ e.2 ∧ e.2 ≤ 0xFF) ∧
    (∀ e ∈ R.statements.entries, ∃ a, e.1 = .scalar a ∧ 0 ≤ a ∧ a ≤ 0xFF) ∧
    (∀ e ∈ R.labels.entries, ∃ a, e.2 = .scalar a ∧ 0 ≤ a ∧ a ≤ 0xFF) ∧
    (∃ statements steps,
      (∃ tokens, Token.scan set source = .ok tokens ∧
        Statement.parse set tokens = .ok statements) ∧
      Placement.trace set R.labels statements (.scalar 0) = .ok steps ∧
      (⟨R.bytes, R.statements⟩ : Placement) =
        steps.foldl (fun p step => Placement.record set p step.1 step.2)
          ⟨OrderedMap.empty, OrderedMap.empty⟩ ∧
      Placement.InMemory set steps) ∧
    ((∀ forms, set.formsOf? set.terminator = some forms → ∀ f ∈ forms, f.opcode = none) →
      ∀ e ∈ R.bytes.entries, e.1 < 0xFF) ∧
    ∀ fill, 0 ≤ fill → fill ≤ 0xFF → ∃ img, R.image fill = .ok img ∧
      img.toList = (List.range memorySize).map (fun i : Nat => ((R.bytes.get? i).getD fill).toNat) ∧
      ∃ dump, R.hexDump fill = .ok dump := by
  obtain ⟨tokens, statements, placed, hscan, hparse, hlabels, hrun, hbytes, hstatements⟩ :=
    Assembly.assemble_ok h
  obtain ⟨steps, htrace, rfl⟩ := Placement.run_ok hrun
  have hmemory := Placement.inMemory_of_parse hcoded horigin hscan hparse hlabels htrace
  -- the last statement writes at most its opcode, so everything lies below 256
  have hbelow : Placement.BytesBelow 256 R.bytes := by
    rw [hbytes]
    refine hmemory.bytesBelow (by norm_num) fun step hstep => ?_
    have hlength := (hmemory.last_length step hstep).1
    omega
  refine ⟨?bytes, ?statements, ?labels, ⟨statements, steps, ⟨tokens, hscan, hparse⟩, htrace,
    by rw [hbytes, hstatements], hmemory⟩, ?lastFree, ?image⟩
  case bytes =>
    intro e he
    obtain ⟨h0, hlt, hb0, hb⟩ := hbelow.entries e he
    exact ⟨h0, by omega, hb0, hb⟩
  case statements =>
    rw [hstatements]
    exact hmemory.statements_at_addresses
  case labels =>
    obtain ⟨cs, hcs, hentries, -⟩ := Layout.walk_entries hlabels rfl List.nodup_nil
    have hstarts : cs = steps.map Prod.fst :=
      Except.ok.inj (hcs.symm.trans (Placement.trace_counters htrace))
    intro e he
    rw [hentries, OrderedMap.empty, List.nil_append] at he
    have hmem := Layout.value_mem_of_labelled he
    rw [hstarts] at hmem
    obtain ⟨step, hstep, hcounter⟩ := List.mem_map.1 hmem
    rw [← hcounter]
    exact hmemory.starts step hstep
  case lastFree =>
    intro hnone e he
    have hbelowFF : Placement.BytesBelow 0xFF R.bytes := by
      rw [hbytes]
      refine hmemory.bytesBelow (le_refl _) fun step hstep => ?_
      rw [(hmemory.last_length step hstep).2 hnone]
      simp
    exact (hbelowFF.entries e he).2.1
  case image =>
    intro fill h0 h1
    obtain ⟨img, himg, hlist⟩ := Assembly.image_ok hbelow ⟨h0, h1⟩
    exact ⟨img, himg, hlist, Assembly.hexDump_ok hbelow ⟨h0, h1⟩⟩

/-- A program of the SMS32 machine whose move takes the last bytes of memory but one. -/
def topSource : String := "org fc\nmov al, 01\nend"

theorem topSource_fits_memory :
    InstructionSet.sms32.byteCoded = true ∧ InstructionSet.sms32.originTakesAddress = true ∧
    ∃ R, Assembly.assemble InstructionSet.sms32 topSource = .ok R ∧
      R.bytes.entries = [(0xFC, 0xD0), (0xFD, 0), (0xFE, 1)] ∧
      ∀ fill, 0 ≤ fill → fill ≤ 0xFF → ∃ img, R.image fill = .ok img ∧
        img.toList =
          (List.range memorySize).map (fun i : Nat => ((R.bytes.get? i).getD fill).toNat) ∧
        ∃ dump, R.hexDump fill = .ok dump := by
  have hcoded : InstructionSet.sms32.byteCoded = true := by cbv
  have horigin : InstructionSet.sms32.originTakesAddress = true := by cbv
  have hbytes : (Assembly.assemble InstructionSet.sms32 topSource).map (·.bytes.entries) =
      .ok [(0xFC, 0xD0), (0xFD, 0), (0xFE, 1)] := by
    simp only [Assembly.assemble, Assembly.attempt, Statement.parse, Statement.takeAll_eq_bounded]
    cbv
  obtain ⟨R, hR, hentries⟩ := exists_ok_of_map_eq_ok hbytes
  obtain ⟨-, -, -, -, -, himage⟩ := assembly_fits_memory hcoded horigin hR
  exact ⟨hcoded, horigin, R, hR, hentries, himage⟩

/-- A table whose origin directive `AT` takes a number or a string. -/
def textOriginTable : InstructionSet where
  forms := [("AT", [⟨[.number], none⟩, ⟨[.text], none⟩]), ("STOP", [⟨[], none⟩])]
  registers := [("R0", 0)]
  terminator := "STOP"
  origin := "AT"
  data := "DB"

/-- A validated table that codes within a byte but whose origin directive takes a string: the
counter moves to the string's codes, and the label declared there is bound to them, which is no
address. -/
theorem origin_beyond_addresses :
    textOriginTable.check = .ok () ∧ textOriginTable.byteCoded = true ∧
      textOriginTable.originTakesAddress = false ∧
      ∃ R, Assembly.assemble textOriginTable "at \"AB\"\nx: at 10\nstop" = .ok R ∧
        R.labels.entries = [("X", .codes [65, 66])] := by
  have hlabels : (Assembly.assemble textOriginTable "at \"AB\"\nx: at 10\nstop").map
      (·.labels.entries) = .ok [("X", .codes [65, 66])] := by
    simp only [Assembly.assemble, Assembly.attempt, Statement.parse, Statement.takeAll_eq_bounded]
    cbv
  obtain ⟨R, hR, hentries⟩ := exists_ok_of_map_eq_ok hlabels
  exact ⟨by cbv, by cbv, by cbv, R, hR, hentries⟩

end ByteAsm
