import Mathlib
import ByteAsm.Cli.Command
import ByteAsm.Proofs.StatementGrammar

/-!
# A failed assembly writes nothing

A run that gets as far as assembling its input either reports a failed assembly and stops, or
writes the output, the listing and the label file in turn. Exit status 1 is that of a diagnostic
about the source and of nothing else, and a run that ends with it leaves the workspace as it
found it, writing its report after the log (`Cli.failed_assembly_writes_nothing`). Of the
command-line library (`Cli.Library`) only that its echo leaves plain ASCII text alone is assumed.
-/

namespace ByteAsm

namespace Text

/-! ### Text in printable ASCII -/

/-- Whether `c` is a printable ASCII character, from the space to the tilde. -/
def isPlainAscii (c : Char) : Bool :=
  0x20 ≤ c.toNat && c.toNat < 0x7F

/-- Whether every character of `s` is printable ASCII. -/
def plainAscii (s : String) : Bool :=
  s.toList.all isPlainAscii

theorem plainAscii_append (a b : String) :
    plainAscii (a ++ b) = (plainAscii a && plainAscii b) := by
  rw [plainAscii, String.toList_append, List.all_append]
  rfl

theorem isPlainAscii_digitChar {n : Nat} (h : n < 16) : isPlainAscii (Nat.digitChar n) = true := by
  have hdigits : ∀ k < 16, isPlainAscii (Nat.digitChar k) = true := by decide
  exact hdigits n h

theorem isPlainAscii_of_mem_toDigitsCore {base fuel n : Nat} {ds : List Char} {c : Char}
    (hbase : 0 < base ∧ base ≤ 16) (hds : ∀ d ∈ ds, isPlainAscii d = true)
    (h : c ∈ Nat.toDigitsCore base fuel n ds) : isPlainAscii c = true := by
  induction fuel generalizing n ds with
  | zero => exact hds c h
  | succ fuel ih =>
    have hcons : ∀ d ∈ Nat.digitChar (n % base) :: ds, isPlainAscii d = true := by
      intro d hd
      rcases List.mem_cons.1 hd with rfl | hd
      · have hlt := Nat.mod_lt n hbase.1
        exact isPlainAscii_digitChar (by omega)
      · exact hds d hd
    simp only [Nat.toDigitsCore] at h
    split at h
    · exact hcons c h
    · exact ih hcons h

theorem all_isPlainAscii_toDigits {base : Nat} (hbase : 0 < base ∧ base ≤ 16) (n : Nat) :
    (Nat.toDigits base n).all isPlainAscii = true :=
  List.all_eq_true.2 fun _ h => isPlainAscii_of_mem_toDigitsCore hbase (by simp) h

theorem plainAscii_toString (n : Nat) : plainAscii (toString n) = true := by
  rw [plainAscii, Nat.toString_eq_ofList_toDigits, String.toList_ofList]
  exact all_isPlainAscii_toDigits (by decide) n

theorem all_isPlainAscii_hexDigitsLower (width n : Nat) :
    (hexDigitsLower width n).all isPlainAscii = true := by
  rw [hexDigitsLower, List.all_append, all_isPlainAscii_toDigits (by decide), Bool.and_true,
    List.all_eq_true]
  intro c hc
  rw [List.eq_of_mem_replicate hc]
  rfl

theorem all_isPlainAscii_jsonEscape (c : Char) : (jsonEscape c).all isPlainAscii = true := by
  rw [jsonEscape]
  by_cases hquote : c = '"'
  · rw [if_pos hquote]; decide
  rw [if_neg hquote]
  by_cases hbackslash : c = '\\'
  · rw [if_pos hbackslash]; decide
  rw [if_neg hbackslash]
  by_cases hnewline : c = '\n'
  · rw [if_pos hnewline]; decide
  rw [if_neg hnewline]
  by_cases hreturn : c = '\r'
  · rw [if_pos hreturn]; decide
  rw [if_neg hreturn]
  by_cases htab : c = '\t'
  · rw [if_pos htab]; decide
  rw [if_neg htab]
  by_cases hbackspace : c.toNat = 0x08
  · rw [if_pos hbackspace]; decide
  rw [if_neg hbackspace]
  by_cases hformfeed : c.toNat = 0x0C
  · rw [if_pos hformfeed]; decide
  rw [if_neg hformfeed]
  by_cases hplain : 0x20 ≤ c.toNat ∧ c.toNat < 0x7F
  · rw [if_pos hplain, List.all_cons, List.all_nil, Bool.and_true]
    simpa [isPlainAscii] using hplain
  · rw [if_neg hplain]
    have hescape : ∀ n, ('\\' :: 'u' :: hexDigitsLower 4 n).all isPlainAscii = true := fun n => by
      rw [List.all_cons, List.all_cons, all_isPlainAscii_hexDigitsLower]
      rfl
    simp only
    split
    · exact hescape _
    · rw [List.all_append, hescape, hescape]
      rfl

theorem plainAscii_jsonString (s : String) : plainAscii (jsonString s) = true := by
  rw [plainAscii, jsonString, String.toList_ofList, List.all_append, List.all_cons,
    List.all_flatMap]
  simp [all_isPlainAscii_jsonEscape, isPlainAscii]

/-! ### Text in printable ASCII comes out as it is -/

theorem surrogateOf?_of_isPlainAscii {c : Char} (h : isPlainAscii c = true) :
    surrogateOf? c = none := by
  simp only [isPlainAscii, Bool.and_eq_true, decide_eq_true_eq] at h
  have hbelow : c.toNat - standInShift = 0 := by
    simp only [standInShift]
    omega
  simp [surrogateOf?, hbelow, isSurrogate]

theorem join_map_of_singleton {f : Char → String} {cs : List Char}
    (h : ∀ c ∈ cs, f c = String.singleton c) : String.join (cs.map f) = String.ofList cs := by
  induction cs with
  | nil => rfl
  | cons c cs ih =>
    rw [List.map_cons, String.join_cons, h c List.mem_cons_self,
      ih fun c' hc' => h c' (List.mem_cons_of_mem c hc'), String.ofList_cons]

theorem escapeSurrogates_of_plainAscii {s : String} (h : plainAscii s = true) :
    escapeSurrogates s = s := by
  unfold escapeSurrogates
  rw [join_map_of_singleton fun c hc => ?_, String.ofList_toList]
  simp only [surrogateOf?_of_isPlainAscii (List.all_eq_true.1 h c hc)]

end Text

theorem Diagnostic.plainAscii_record (d : Diagnostic) : Text.plainAscii d.record = true := by
  unfold Diagnostic.record Diagnostic.spanRecord Diagnostic.positionRecord
  simp only [Text.plainAscii_append, Text.plainAscii_jsonString, Text.plainAscii_toString,
    Bool.and_true]
  decide

/-- Standard error shows the JSON record of a diagnostic as it is, through any echo that keeps
printable ASCII text. -/
theorem Diagnostic.shown_record (d : Diagnostic) {echo : String → String}
    (hplain : ∀ s, Text.plainAscii s = true → echo s = s) :
    Text.escapeSurrogates (echo d.record) = d.record := by
  rw [hplain _ d.plainAscii_record, Text.escapeSurrogates_of_plainAscii d.plainAscii_record]

theorem Encoding.lookup_default : Encoding.lookup "utf-8" = .ok .utf8 := by
  have hnormal : Encoding.normalName "utf-8" = "utf_8" := by cbv
  have hnone : Encoding.aliases.lookup "utf_8" = none := by decide +kernel
  obtain ⟨rest, hcodecs⟩ : ∃ rest, Encoding.codecs = ("utf_8", .text .utf8) :: rest :=
    ⟨_, rfl⟩
  unfold Encoding.lookup Encoding.ownNames
  rw [hnormal]
  simp [hnone, hcodecs]

namespace Cli

/-! ### The steps after a successful assembly -/

@[simp]
theorem Progress.warn_workspace (p : Progress) (lines : List String) :
    (p.warn lines).workspace = p.workspace := rfl

@[simp]
theorem Progress.warn_nil (p : Progress) : p.warn [] = p := by
  simp [Progress.warn, logText]

theorem logText_append (first second : List String) :
    logText (first ++ second) = logText first ++ logText second := by
  simp [logText]

theorem Progress.warn_warn (p : Progress) (first second : List String) :
    (p.warn first).warn second = p.warn (first ++ second) := by
  simp [Progress.warn, logText_append, String.append_assoc]

theorem debugLines_append (verbose : Bool) (first second : List String) :
    debugLines verbose first ++ debugLines verbose second = debugLines verbose (first ++ second) := by
  cases verbose <;> simp [debugLines]

section Steps

variable {echo : String → String}

theorem writeFile_exitCode_ne_one {p : Progress} {path : String} {contents : List UInt8}
    {next : Progress → Outcome} (hnext : ∀ q, (next q).exitCode ≠ 1) :
    (writeFile echo p path contents next).exitCode ≠ 1 := by
  unfold writeFile
  split
  · exact hnext _
  · simp [Progress.fail]
  · simp [Progress.fail]

theorem writeText_exitCode_ne_one {p : Progress} {path text : String}
    {next : Progress → Outcome} (hnext : ∀ q, (next q).exitCode ≠ 1) :
    (writeText echo p path text next).exitCode ≠ 1 := by
  unfold writeText
  split
  · exact writeFile_exitCode_ne_one hnext
  · exact writeFile_exitCode_ne_one fun _ => by simp [Progress.fail]

theorem summarize_exitCode (settings : Settings) (a : Assembly) (p : Progress) :
    (summarize echo settings a p).exitCode = 0 := by
  unfold summarize
  split <;> rfl

theorem writeSymbols_exitCode_ne_one (inv : Invocation) (settings : Settings) (a : Assembly)
    (p : Progress) : (writeSymbols echo inv settings a p).exitCode ≠ 1 := by
  unfold writeSymbols
  split
  · split
    · simp [Progress.fail]
    · exact writeText_exitCode_ne_one fun _ => by simp [summarize_exitCode]
  · simp [summarize_exitCode]

theorem writeListing_exitCode_ne_one (inv : Invocation) (settings : Settings) (a : Assembly)
    (p : Progress) : (writeListing echo inv settings a p).exitCode ≠ 1 := by
  unfold writeListing
  split
  · split
    · simp [Progress.fail]
    · exact writeText_exitCode_ne_one fun _ => writeSymbols_exitCode_ne_one inv settings a _
  · exact writeSymbols_exitCode_ne_one inv settings a p

theorem writeAssembly_exitCode_ne_one (inv : Invocation) (settings : Settings) (output : String)
    (a : Assembly) (p : Progress) : (writeAssembly echo inv settings output a p).exitCode ≠ 1 := by
  unfold writeAssembly
  split
  · simp [Progress.fail]
  · simp [Progress.fail]
  · exact writeFile_exitCode_ne_one fun _ => writeListing_exitCode_ne_one inv settings a _

/-! ### A run up to its assembly -/

theorem failureReport_code_eq_one {f : Failure} {source : String} {asRecord : Bool} :
    (failureReport f source asRecord).1 = 1 ↔ ∃ d, f = .diagnostic d := by
  cases f <;> simp [failureReport]

/-- A failed assembly ends the run with its report, after the log lines of the input's name and
of the assembly's stages, which only a verbose run shows. -/
theorem assembleFiles_of_failure {inv : Invocation} {settings : Settings} {p : Progress}
    {encoding : Encoding} {text : String} {f : Failure}
    (hlookup : Encoding.lookup settings.encoding = .ok encoding)
    (hdecode : encoding.decode ((p.workspace.read? inv.input).getD []) = .ok text)
    (hfailed : Assembly.assemble InstructionSet.sms32 (withUniformNewlines text) = .error f) :
    assembleFiles echo inv settings p =
      (p.warn (debugLines settings.verbose (("Assembling " ++ showPath inv.input) ::
        (Assembly.attempt InstructionSet.sms32 (withUniformNewlines text)).1))).fail echo
        (failureReport f (withUniformNewlines text) inv.jsonErrors).1
        (failureReport f (withUniformNewlines text) inv.jsonErrors).2 := by
  unfold assembleFiles
  simp only [hlookup, Progress.warn_workspace, hdecode, Progress.warn_warn, debugLines_append]
  rcases hattempt : Assembly.attempt InstructionSet.sms32 (withUniformNewlines text) with
    ⟨notes, result⟩
  have hresult : result = .error f := by
    rw [← hfailed, Assembly.assemble, hattempt]
  subst hresult
  rfl

theorem assembleFiles_of_assembled {inv : Invocation} {settings : Settings} {p : Progress}
    {encoding : Encoding} {text : String} {a : Assembly}
    (hlookup : Encoding.lookup settings.encoding = .ok encoding)
    (hdecode : encoding.decode ((p.workspace.read? inv.input).getD []) = .ok text)
    (hassembled : Assembly.assemble InstructionSet.sms32 (withUniformNewlines text) = .ok a) :
    ∃ lines output,
      assembleFiles echo inv settings p = writeAssembly echo inv settings output a (p.warn lines) := by
  unfold assembleFiles
  simp only [hlookup, Progress.warn_workspace, hdecode, Progress.warn_warn]
  rcases hattempt : Assembly.attempt InstructionSet.sms32 (withUniformNewlines text) with
    ⟨notes, result⟩
  have hresult : result = .ok a := by
    rw [← hassembled, Assembly.assemble, hattempt]
  subst hresult
  exact ⟨_, _, rfl⟩

end Steps

theorem run_of_read {lib : Library} {args : List String} (env : String → Option String)
    {ws : Workspace} {inv : Invocation} (hread : lib.read args ws = .ok (.run inv)) :
    run lib args env ws = assembleFiles lib.echo inv (effectiveSettings inv (Settings.fromEnv env).1)
      ((⟨"", "", ws⟩ : Progress).warn (Settings.fromEnv env).2) := by
  unfold run respond
  rw [hread]

/-! ### The status of a run -/

/-- **A failed assembly writes nothing.** For every library whose echo keeps printable ASCII text,
and every run whose arguments it reads as an assembly, neither a screen nor a usage error, of an
input that decodes in the encoding of the settings: the run ends with status 1 exactly when
assembling the input, its line ends made uniform, fails with a diagnostic. Such a run leaves the
workspace as it found it, prints nothing on standard output, and prints on standard error the
warnings about the environment, then, if the run is verbose, the log lines of the input's name
and of the assembly's stages, then the report: the diagnostic's JSON record as it is, or its
rendering with the source line as the library's echo writes it. -/
theorem failed_assembly_writes_nothing (lib : Library)
    (hplain : ∀ s, Text.plainAscii s = true → lib.echo s = s)
    {args : List String} {env : String → Option String} {ws : Workspace} {inv : Invocation}
    (hread : lib.read args ws = .ok (.run inv)) {encoding : Encoding}
    (hlookup : Encoding.lookup (effectiveSettings inv (Settings.fromEnv env).1).encoding =
      .ok encoding)
    {text : String} (hdecode : encoding.decode ((ws.read? inv.input).getD []) = .ok text) :
    ((run lib args env ws).exitCode = 1 ↔
        ∃ d, Assembly.assemble InstructionSet.sms32 (withUniformNewlines text) =
          .error (.diagnostic d)) ∧
      ∀ d, Assembly.assemble InstructionSet.sms32 (withUniformNewlines text) =
          .error (.diagnostic d) →
        (run lib args env ws).workspace = ws ∧ (run lib args env ws).stdout = "" ∧
        (run lib args env ws).stderr =
          logText ((Settings.fromEnv env).2 ++
            debugLines (effectiveSettings inv (Settings.fromEnv env).1).verbose
              (("Assembling " ++ showPath inv.input) ::
                (Assembly.attempt InstructionSet.sms32 (withUniformNewlines text)).1)) ++
          (if inv.jsonErrors then d.record
          else Text.escapeSurrogates
            (lib.echo (d.render (d.sourceLine (withUniformNewlines text))))) ++ "\n" := by
  rw [run_of_read env hread]
  have hread' : encoding.decode
      (((((⟨"", "", ws⟩ : Progress).warn (Settings.fromEnv env).2).workspace).read?
        inv.input).getD []) = .ok text := hdecode
  refine ⟨⟨fun hcode => ?_, fun hfailed => ?_⟩, fun d hd => ?_⟩
  · rcases hassemble : Assembly.assemble InstructionSet.sms32 (withUniformNewlines text) with
      f | a
    · rw [assembleFiles_of_failure hlookup hread' hassemble] at hcode
      obtain ⟨d, rfl⟩ := failureReport_code_eq_one.1 hcode
      exact ⟨d, rfl⟩
    · obtain ⟨lines, output, hwrite⟩ := assembleFiles_of_assembled hlookup hread' hassemble
      rw [hwrite] at hcode
      exact absurd hcode (writeAssembly_exitCode_ne_one _ _ _ _ _)
  · obtain ⟨d, hd⟩ := hfailed
    rw [assembleFiles_of_failure hlookup hread' hd]
    rfl
  · rw [assembleFiles_of_failure hlookup hread' hd]
    refine ⟨rfl, rfl, ?_⟩
    cases inv.jsonErrors
    · simp [Progress.fail, Progress.warn, failureReport, logText_append, String.append_assoc]
    · simp [Progress.fail, Progress.warn, failureReport, logText_append, String.append_assoc,
        Diagnostic.shown_record d hplain]

/-- A source whose first word names no instruction, with a comment that holds the control
sequence that clears a terminal. -/
def markedSource : String := "foo ; \x1b[2J cleared\nend\n"

/-- A workspace that holds `markedSource` as `a.asm`. -/
def markedWorkspace : Workspace := ⟨[("a.asm", .file (utf8Bytes markedSource))], none⟩

/-- The run that the arguments `a.asm` ask for. -/
def markedInvocation : Invocation := ⟨"a.asm", none, none, none, none, none, false, false⟩

/-- Where assembling `markedSource` stops: at its first word. -/
def markedDiagnostic : Diagnostic := .noInstruction "foo" ⟨0, 3, ⟨1, 0⟩, ⟨1, 3⟩⟩ false

theorem markedSource_fails :
    Assembly.assemble InstructionSet.sms32 (withUniformNewlines markedSource) =
      .error (.diagnostic markedDiagnostic) := by
  simp only [Assembly.assemble, Assembly.attempt, Statement.parse, Statement.takeAll_eq_bounded]
  cbv

theorem markedInvocation_lookup :
    Encoding.lookup
        (effectiveSettings markedInvocation (Settings.fromEnv fun _ => none).1).encoding =
      .ok .utf8 := by
  have hencoding :
      (effectiveSettings markedInvocation (Settings.fromEnv fun _ => none).1).encoding =
        "utf-8" := by
    cbv
  rw [hencoding]
  exact Encoding.lookup_default

theorem markedWorkspace_decode :
    Encoding.utf8.decode ((markedWorkspace.read? markedInvocation.input).getD []) =
      .ok markedSource := by
  unfold Workspace.read? showPath
  cbv

/-- Under a library that reads `a.asm` as the run `markedInvocation` and echoes as to a terminal,
assembling `a.asm` of `markedWorkspace` fails, so the run ends with status 1 and leaves the
workspace as it found it. -/
theorem markedSource_run_writes_nothing :
    (run ⟨fun _ _ => .ok (.run markedInvocation), id⟩ ["a.asm"] (fun _ => none)
        markedWorkspace).exitCode = 1 ∧
      (run ⟨fun _ _ => .ok (.run markedInvocation), id⟩ ["a.asm"] (fun _ => none)
        markedWorkspace).workspace = markedWorkspace := by
  have hrun := @failed_assembly_writes_nothing ⟨fun _ _ => .ok (.run markedInvocation), id⟩
    (fun _ _ => rfl) ["a.asm"] (fun _ => none) markedWorkspace markedInvocation rfl _
    markedInvocation_lookup _ markedWorkspace_decode
  exact ⟨hrun.1.2 ⟨_, markedSource_fails⟩, (hrun.2 _ markedSource_fails).1⟩

/-- A screen that the library shows at once, such as its help screen, ends the run with status 0
and writes nothing, whatever the input holds: `a.asm` of `markedWorkspace` fails to assemble, yet
a run that the library reads as a screen ends with 0. -/
theorem screen_request_skips_failing_input :
    Assembly.assemble InstructionSet.sms32 (withUniformNewlines markedSource) =
        .error (.diagnostic markedDiagnostic) ∧
      ∀ (echo : String → String) (text : String) (env : String → Option String),
        (respond echo (.ok (.screen text)) env markedWorkspace).exitCode = 0 ∧
          (respond echo (.ok (.screen text)) env markedWorkspace).workspace = markedWorkspace :=
  ⟨markedSource_fails, fun _ _ _ => ⟨rfl, rfl⟩⟩

end Cli

end ByteAsm
