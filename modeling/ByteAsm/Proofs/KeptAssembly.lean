import Mathlib
import ByteAsm.Session
import ByteAsm.InstructionSet.Sms32

/-!
# A session keeps its last assembly

A session answers calls one after another (`Session.perform`), and the assembly it keeps is
always the last one that a call brought (`Session.produced`). The run lemma follows by induction
on the calls from one equation for a single call (`Session.call_eq`).
-/

namespace ByteAsm

namespace Session

/-- The assembly that a call's answer brings: that of an assembly, or of a try whose outcome holds
one. -/
def produced : Except CallError Reply → Option Assembly
  | .ok (.assembled a) => some a
  | .ok (.outcome (.assembled a)) => some a
  | _ => none

theorem result_eq_ok_iff {s : Session} {a : Assembly} : s.result = .ok a ↔ s.last = some a := by
  unfold result
  split <;> simp_all

theorem result_eq_nothingAssembled_iff {s : Session} :
    s.result = .error .nothingAssembled ↔ s.last = none := by
  unfold result
  split <;> simp_all

theorem produced_fromResult (s : Session) {reply : Assembly → Except CallError Reply}
    (hreply : ∀ a, produced (reply a) = none) : produced (s.fromResult reply) = none := by
  unfold fromResult
  split
  · exact hreply _
  · rfl

theorem produced_fromFile (file : Except SessionError FileContents) :
    produced (fromFile file) = none := by
  unfold fromFile
  split <;> rfl

theorem assemble_eq (s : Session) (source : String) :
    (s.assemble source).1 = { s with last := (s.assemble source).2.toOption.or s.last } := by
  unfold Session.assemble
  cases Assembly.assemble s.set source <;> rfl

theorem call_eq (s : Session) (c : Call) :
    (s.call c).1 = { s with last := (produced (s.call c).2).or s.last } := by
  cases c with
  | assemble source =>
    have hkept := assemble_eq s source
    simp only [call]
    rcases hrun : s.assemble source with ⟨s', f | a⟩ <;> rw [hrun] at hkept <;> exact hkept
  | tryAssemble source =>
    have hkept := assemble_eq s source
    simp only [call, tryAssemble]
    rcases hrun : s.assemble source with ⟨s', f | a⟩ <;> rw [hrun] at hkept
    · cases f <;> exact hkept
    · exact hkept
  | result =>
    have hnone : produced (s.call .result).2 = none := produced_fromResult s fun _ => rfl
    rw [hnone, Option.none_or]
    rfl
  | symbols =>
    have hnone : produced (s.call .symbols).2 = none := produced_fromResult s fun _ => rfl
    rw [hnone, Option.none_or]
    rfl
  | listing =>
    have hnone : produced (s.call .listing).2 = none :=
      produced_fromResult s fun a => by split <;> rfl
    rw [hnone, Option.none_or]
    rfl
  | outputFile | binaryFile | hexFile | listingFile | labelFile =>
    simp only [call, produced_fromFile, Option.none_or]

theorem call_error {s s' : Session} {c : Call} {e : CallError} (h : s.call c = (s', .error e)) :
    s' = s := by
  have hkept := call_eq s c
  rw [h] at hkept
  exact hkept

theorem tryAssemble_failed {s s' : Session} {source : String} {o : Outcome}
    (h : s.call (.tryAssemble source) = (s', .ok (.outcome o))) (hfailed : o.ok = false) : s' = s := by
  have hkept := call_eq s (.tryAssemble source)
  rw [h] at hkept
  cases o with
  | assembled a => cases hfailed
  | failed d => exact hkept

/-- **A run of calls.** After the calls the session keeps its table and settings, and keeps the
last assembly that a call brought, or what it kept at the start if none did. -/
theorem perform_eq (s : Session) (calls : List Call) :
    (s.perform calls).1 =
      { s with last := (((s.perform calls).2.filterMap produced).getLast?).or s.last } := by
  induction calls generalizing s with
  | nil => rfl
  | cons c rest ih =>
    rcases hcall : s.call c with ⟨next, reply⟩
    have hnext : next = { s with last := (produced reply).or s.last } := by
      have hkept := call_eq s c
      rw [hcall] at hkept
      exact hkept
    have hrest := ih next
    simp only [perform, hcall]
    rw [hrest, hnext]
    cases hproduced : produced reply with
    | none => simp [hproduced]
    | some a => simp [hproduced, List.getLast?_cons]

/-- Trying an assembly is assembling with the diagnostic handed back: the session after both is
the same, an assembly is answered by both, a diagnostic is the outcome of the try exactly where
assembling raises it, and the try raises exactly the other failures. -/
theorem tryAssemble_as_assemble (s : Session) (source : String) :
    (s.call (.tryAssemble source)).1 = (s.call (.assemble source)).1 ∧
      (∀ a, (s.call (.tryAssemble source)).2 = .ok (.outcome (.assembled a)) ↔
        (s.call (.assemble source)).2 = .ok (.assembled a)) ∧
      (∀ d, (s.call (.tryAssemble source)).2 = .ok (.outcome (.failed d)) ↔
        (s.call (.assemble source)).2 = .error (.failure (.diagnostic d))) ∧
      (∀ e, (s.call (.tryAssemble source)).2 = .error e ↔
        (s.call (.assemble source)).2 = .error e ∧ ∀ d, e ≠ .failure (.diagnostic d)) := by
  simp only [call, tryAssemble]
  rcases s.assemble source with ⟨s', f | a⟩
  · cases f with
    | diagnostic d =>
      refine ⟨rfl, fun a => ?_, fun d' => ?_, fun e => ?_⟩
      · simp
      · simp
      · simp only [reduceCtorEq, false_iff, not_and, not_forall, not_not]
        intro he
        cases he
        exact ⟨d, rfl⟩
    | _ =>
      refine ⟨rfl, fun a => by simp, fun d => by simp, fun e => ?_⟩
      constructor
      · intro he
        cases he
        exact ⟨rfl, fun d hd => by cases hd⟩
      · exact fun h => h.1
  · refine ⟨rfl, fun a' => ?_, fun d => by simp, fun e => by simp⟩
    simp

end Session

/-- **A session keeps its last assembly.** For every table, settings and calls made on a new
session: the kept assembly, which the result, the labels, the listing and every file are made
from, is the one that the last assembling call brought, and the session says that nothing has
been assembled yet exactly when no call brought one. Every call that raises, and every try whose
outcome is not an assembly, leaves the session as it was; and a try answers as assembling does on
the same session, with the diagnostic as its outcome. -/
theorem session_keeps_last_assembly (set : InstructionSet) (settings : Settings)
    (calls : List Session.Call) :
    (∀ a, ((Session.start set settings).perform calls).1.result = .ok a ↔
        (((Session.start set settings).perform calls).2.filterMap Session.produced).getLast? =
          some a) ∧
      (((Session.start set settings).perform calls).1.result = .error .nothingAssembled ↔
        (((Session.start set settings).perform calls).2.filterMap Session.produced).getLast? =
          none) ∧
      SessionError.message .nothingAssembled = "nothing has been assembled yet" ∧
      (∀ (s s' : Session) c e, s.call c = (s', .error e) → s' = s) ∧
      (∀ (s s' : Session) source o, s.call (.tryAssemble source) = (s', .ok (.outcome o)) →
        o.ok = false → s' = s) ∧
      (∀ (s : Session) source,
        (s.call (.tryAssemble source)).1 = (s.call (.assemble source)).1 ∧
        (∀ a, (s.call (.tryAssemble source)).2 = .ok (.outcome (.assembled a)) ↔
          (s.call (.assemble source)).2 = .ok (.assembled a)) ∧
        (∀ d, (s.call (.tryAssemble source)).2 = .ok (.outcome (.failed d)) ↔
          (s.call (.assemble source)).2 = .error (.failure (.diagnostic d))) ∧
        (∀ e, (s.call (.tryAssemble source)).2 = .error e ↔
          (s.call (.assemble source)).2 = .error e ∧ ∀ d, e ≠ .failure (.diagnostic d))) := by
  have hlast : ((Session.start set settings).perform calls).1.last =
      (((Session.start set settings).perform calls).2.filterMap Session.produced).getLast? := by
    rw [Session.perform_eq]
    exact Option.or_none
  refine ⟨fun a => ?_, ?_, rfl, fun s s' c e h => Session.call_error h,
    fun s s' source o h hfailed => Session.tryAssemble_failed h hfailed,
    Session.tryAssemble_as_assemble⟩
  · rw [Session.result_eq_ok_iff, hlast]
  · rw [Session.result_eq_nothingAssembled_iff, hlast]

end ByteAsm
