import LicenseAudit.Proofs.Program.Fault

/-!
# States that a program passes through

Who looks at the disk while a program runs sees the states between its calls and, while a file is
being written, a file that holds a part of its content. What holds of all these states is proved
along the calls of the program, together with what holds at its end.

* `Program.failing` — a program on a disk that can fail any of its calls;
* `Program.shown` — what reading a file is answered on such a disk;
* `Program.Admits` — the disk does not deny that something stands at a path;
* `Program.Passes` — the states that a program passes through;
* `Program.Within` — an invariant of these states, and a condition at the end.

## Results

* `failing_of_only`, `failing_none` — a program none of whose calls fail is itself.
* `Within.sound` — the invariant holds of all states, and the condition at the end.
* `Within.bind` — programs one after the other.
* `within_write`, `within_quiet` — a single call that may fail.
-/

namespace LicenseAudit

/-- Whether the call writes a file, and can stop short. -/
def Call.writes : Call → Bool
  | .write _ _ => true
  | _ => false

/-- A call that is no write fails without a trace. -/
theorem Call.under_eq_pure (c : Call) (hQuiet : c.writes = false) {fault : Fault} {reply : c.Reply}
    (hReply : c.failure? fault.cause = some reply) : c.under (some fault) = pure reply := by
  rw [Call.under, hReply]
  rintro - - q content rfl -
  cases hQuiet

namespace Program

variable {α β : Type}

-- ---------------------------------------------------------------------------
-- Disks that fail calls
-- ---------------------------------------------------------------------------

/-- The program on a disk that fails some calls, each time they are made. -/
def failing (faults : Call → Option Fault) : Program α → Program α
  | .done a => .done a
  | .call c next => (c.under (faults c)).bind fun reply => (next reply).failing faults

theorem failing_bind (faults : Call → Option Fault) (p : Program α) (f : α → Program β) :
    (p >>= f).failing faults = p.failing faults >>= fun a => (f a).failing faults := by
  show (p.bind f).failing faults = (p.failing faults).bind _
  induction p with
  | done a => rfl
  | call c next ih =>
    rw [bind, failing, failing, bind_assoc]
    exact congrArg _ (funext ih)

theorem failing_ask (faults : Call → Option Fault) (c : Call) :
    (ask c).failing faults = c.under (faults c) := bind_done _

@[simp]
theorem failing_pure (faults : Call → Option Fault) (a : α) :
    (pure a : Program α).failing faults = pure a := rfl

theorem failing_map (faults : Call → Option Fault) (f : α → β) (p : Program α) :
    (f <$> p).failing faults = f <$> p.failing faults := by
  rw [map_eq_pure_bind, map_eq_pure_bind, failing_bind]
  rfl

/-- A program none of whose calls fail is itself. -/
theorem failing_of_only {faults : Call → Option Fault} {p : Program α}
    (h : p.Only fun c => faults c = none) : p.failing faults = p := by
  induction p with
  | done a => rfl
  | call c next ih =>
    rw [failing, h.1]
    exact congrArg (Program.call c) (funext fun reply => ih reply (h.2 reply))

/-- On a disk that never fails a program is itself. -/
theorem failing_none (p : Program α) : (p.failing fun _ => none) = p :=
  failing_of_only (only_of_forall (fun _ => rfl) p)

/-- The disk does not deny that something stands at the path. -/
def Admits (faults : Call → Option Fault) (p : Path) : Prop :=
  ∀ fault, faults (.status p) = some fault → fault.cause ≠ .noEntry

section Reading

variable {faults : Call → Option Fault} {fs : FileSystem} {p : Path}

/-- What reading a file is answered. -/
def shown (faults : Call → Option Fault) (fs : FileSystem) (p : Path) : Except IoError Bytes :=
  match faults (.read p) with
  | none => fs.read p
  | some fault => .error fault.cause

theorem run_failing_read : ((read p).failing faults).run fs = (shown faults fs p, fs) := by
  rw [read, failing_ask, shown]
  cases faults (.read p) with
  | none => rfl
  | some fault => cases fault <;> rfl

theorem read_of_shown {content : Bytes} (h : shown faults fs p = .ok content) :
    fs.read p = .ok content := by
  unfold shown at h
  split at h
  · exact h
  · cases h

/-- What reading a text is answered. -/
theorem run_failing_readText (p : Path) (faults : Call → Option Fault) (fs : FileSystem) :
    ((readText p).failing faults).run fs = ((shown faults fs p).bind fun bytes =>
      match Text.decode? bytes with
      | some text => .ok (String.ofList text)
      | none => .error .notText, fs) := by
  rw [readText, failing_bind, run_bind, run_failing_read]
  cases shown faults fs p with
  | error cause => rfl
  | ok bytes =>
    simp only [Except.bind]
    cases Text.decode? bytes <;> rfl

end Reading

-- ---------------------------------------------------------------------------
-- Passed states
-- ---------------------------------------------------------------------------

/-- The program passes through the second state from the first one on: before or after a call, or
while a file is being written. -/
inductive Passes : Program α → FileSystem → FileSystem → Prop where
  | now (p : Program α) (fs : FileSystem) : Passes p fs fs
  | writing (q : Path) (content : Bytes) (next : Except IoError Unit → Program α)
      (fs : FileSystem) (size : Nat) :
      Passes (.call (.write q content) next) fs ((write q (content.take size)).run fs).2
  | later {c : Call} {next : c.Reply → Program α} {fs s : FileSystem}
      (h : Passes (next (fs.perform c).1) (fs.perform c).2 s) : Passes (.call c next) fs s

/-- The invariant holds of every state that the program passes through, and the condition at its
end. -/
def Within (I : FileSystem → Prop) (Q : α → FileSystem → Prop) :
    Program α → FileSystem → Prop
  | .done a, fs => I fs ∧ Q a fs
  | .call c next, fs =>
    I fs ∧ (∀ q content, c = .write q content →
      ∀ size, I ((write q (content.take size)).run fs).2) ∧
    (next (fs.perform c).1).Within I Q (fs.perform c).2

variable {I : FileSystem → Prop} {Q : α → FileSystem → Prop} {fs : FileSystem}

theorem Within.sound {p : Program α} (h : p.Within I Q fs) :
    (∀ s, p.Passes fs s → I s) ∧ Q (p.run fs).1 (p.run fs).2 := by
  induction p generalizing fs with
  | done a =>
    refine ⟨fun s hPasses => ?_, h.2⟩
    cases hPasses
    exact h.1
  | call c next ih =>
    obtain ⟨hHere, hPart, hRest⟩ := h
    obtain ⟨hLater, hEnd⟩ := ih _ hRest
    refine ⟨fun s hPasses => ?_, hEnd⟩
    cases hPasses with
    | now => exact hHere
    | writing q content next fs size => exact hPart q content rfl size
    | later hPasses => exact hLater s hPasses

theorem Within.bind {Q : β → FileSystem → Prop} {p : Program α} {f : α → Program β}
    (h : p.Within I (fun a s => (f a).Within I Q s) fs) : (p >>= f).Within I Q fs := by
  show (p.bind f).Within I Q fs
  induction p generalizing fs with
  | done a => exact h.2
  | call c next ih => exact ⟨h.1, h.2.1, ih _ h.2.2⟩

theorem Within.mono {Q' : α → FileSystem → Prop} {p : Program α} (h : p.Within I Q fs)
    (hQ : ∀ a s, I s → Q a s → Q' a s) : p.Within I Q' fs := by
  induction p generalizing fs with
  | done a => exact ⟨h.1, hQ a fs h.1 h.2⟩
  | call c next ih => exact ⟨h.1, h.2.1, ih _ h.2.2⟩

-- ---------------------------------------------------------------------------
-- Single calls
-- ---------------------------------------------------------------------------

variable {faults : Call → Option Fault}

/-- A write that may fail passes through states in which a part of the content is written. It ends
in one of them, or where it started. -/
theorem within_write {q : Path} {content : Bytes} {Q : Except IoError Unit → FileSystem → Prop}
    (hHere : I fs) (hPart : ∀ size, I ((write q (content.take size)).run fs).2)
    (hDone : ∀ reply s, (write q content).run fs = (reply, s) → Q reply s)
    (hFails : ∀ cause, Q (.error cause) fs)
    (hTorn : ∀ cause size, Q (.error cause) ((write q (content.take size)).run fs).2) :
    ((write q content).failing faults).Within I Q fs := by
  rw [write, failing_ask]
  cases faults (.write q content) with
  | none =>
    refine ⟨hHere, fun q' content' hSame size => ?_, ?_, hDone _ _ rfl⟩
    · cases hSame
      exact hPart size
    · have hWhole := hPart content.length
      rwa [List.take_length] at hWhole
  | some fault =>
    cases fault with
    | refused cause => exact ⟨hHere, hFails cause⟩
    | torn cause size =>
      refine ⟨hHere, fun q' content' hSame size' => ?_, ?_⟩
      · cases hSame
        rw [List.take_take]
        exact hPart _
      · have hAfter : I (fs.perform (.write q (content.take size))).2 := hPart size
        have hEnd : ∀ cause, Q (.error cause) (fs.perform (.write q (content.take size))).2 :=
          fun cause => hTorn cause size
        generalize fs.perform (.write q (content.take size)) = after at hAfter hEnd ⊢
        obtain ⟨reply, fs'⟩ := after
        cases reply with
        | error refusal => exact ⟨hAfter, hEnd refusal⟩
        | ok done => exact ⟨hAfter, hEnd cause⟩

/-- A call that is no write is made or fails without a trace. -/
theorem within_quiet {c : Call} {Q : c.Reply → FileSystem → Prop} (hQuiet : c.writes = false)
    (hHere : I fs)
    (hDone : faults c = none → I (fs.perform c).2 ∧ Q (fs.perform c).1 (fs.perform c).2)
    (hFails : ∀ fault, faults c = some fault →
      ∃ reply, c.failure? fault.cause = some reply ∧ Q reply fs) :
    ((ask c).failing faults).Within I Q fs := by
  have hOther : ∀ q content, c ≠ .write q content := by
    rintro q content rfl
    cases hQuiet
  rw [failing_ask]
  cases hFault : faults c with
  | none => exact ⟨hHere, fun q content hSame => absurd hSame (hOther q content), hDone hFault⟩
  | some fault =>
    obtain ⟨reply, hReply, hEnd⟩ := hFails fault hFault
    rw [c.under_eq_pure hQuiet hReply]
    exact ⟨hHere, hEnd⟩

end Program

end LicenseAudit
