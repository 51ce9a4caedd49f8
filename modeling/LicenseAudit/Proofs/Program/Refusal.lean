import LicenseAudit.Proofs.Program.Passage

/-!
# Calls that are always refused

A file system value refuses a call only where something is missing, in the way or too long. A disk
can refuse further calls, and then does so each time they are made: a directory may not be opened
for lack of permission. What a program that only looks makes of such a disk follows from the
replies alone.

* `FileSystem.reply` — what a call is answered where some calls are refused;
* `Blind` — refusals without regard to what is written;
* `Candid` — refusals of a disk that says what is there;
* `ByPermission` — refusals for lack of permission;
* `Program.refusing` — a program some of whose calls are refused.

## Results

* `refusing_eq_failing`, `failing_eq_refusing` — to refuse a call is one way to fail it, and the
  only one for calls that do not write.
* `run_refusing` — a program that only looks ends with the answer to the replies.
* `run_refusing_bind` — what follows such a program starts from that answer.
-/

namespace LicenseAudit

/-- What a call is answered where some calls are refused. -/
def FileSystem.reply (fs : FileSystem) (refusals : Call → Option IoError) (c : Call) : c.Reply :=
  ((refusals c).bind c.failure?).getD (fs.perform c).1

/-- What is refused does not depend on what is written. -/
def Blind (refusals : Call → Option IoError) : Prop :=
  ∀ p content content', refusals (.write p content') = refusals (.write p content)

/-- The disk says what is there: a file that may be read may be looked at, and nothing that may not
be looked at is said to be missing. -/
structure Candid (refusals : Call → Option IoError) : Prop where
  seen    : ∀ p, refusals (.read p) = none → refusals (.linkStatus p) = none
  present : ∀ p, refusals (.status p) ≠ some .noEntry

/-- The disk refuses calls for lack of permission: it does not matter what is written, what may be
read may be looked at, and what may be written may be removed. -/
structure ByPermission (refusals : Call → Option IoError) : Prop where
  blind     : Blind refusals
  seen      : ∀ p, refusals (.read p) = none → refusals (.linkStatus p) = none
  removable : ∀ p content, refusals (.write p content) = none → refusals (.remove p) = none

namespace Program

variable {α β : Type}

/-- What the callers of failing calls are told. -/
def causes (faults : Call → Option Fault) (c : Call) : Option IoError := (faults c).map Fault.cause

/-- Who is refused calls is told of the refusals. -/
theorem causes_refused (refusals : Call → Option IoError) :
    causes (fun c => (refusals c).map .refused) = refusals := by
  funext c
  rw [causes]
  cases refusals c <;> rfl

theorem admits_of_candid {faults : Call → Option Fault} (h : Candid (causes faults)) (p : Path) :
    Admits faults p := by
  intro fault hFault hCause
  exact h.present p (by rw [causes, hFault, Option.map_some, hCause])

/-- The program some of whose calls are refused. -/
def refusing (refusals : Call → Option IoError) : Program α → Program α
  | .done a => .done a
  | .call c next =>
    match (refusals c).bind c.failure? with
    | some reply => (next reply).refusing refusals
    | none => .call c fun reply => (next reply).refusing refusals

/-- A program that only looks ends with the answer to the replies, and leaves the file system
alone. -/
theorem run_refusing {p : Program α} (hp : p.ReadOnly) (refusals : Call → Option IoError)
    (fs : FileSystem) :
    (p.refusing refusals).run fs = (p.answer (fs.reply refusals), fs) := by
  induction p with
  | done a => rfl
  | call c next ih =>
    rw [refusing, answer, FileSystem.reply]
    cases hRefused : (refusals c).bind c.failure? with
    | some reply => exact ih reply (hp.2 reply)
    | none =>
      show ((next (fs.perform c).1).refusing refusals).run (fs.perform c).2 = _
      rw [FileSystem.perform_snd_of_looks hp.1]
      exact ih _ (hp.2 _)

theorem refusing_ask_eq_ask {refusals : Call → Option IoError} {c : Call}
    (h : (refusals c).bind c.failure? = none) : (ask c).refusing refusals = ask c := by
  rw [ask, refusing, h]
  rfl

theorem refusing_ask_eq_pure {refusals : Call → Option IoError} {c : Call} {reply : c.Reply}
    (h : (refusals c).bind c.failure? = some reply) : (ask c).refusing refusals = pure reply := by
  rw [ask, refusing, h]
  rfl

theorem refusing_bind (refusals : Call → Option IoError) (p : Program α) (f : α → Program β) :
    (p >>= f).refusing refusals = p.refusing refusals >>= fun a => (f a).refusing refusals := by
  show (p.bind f).refusing refusals = (p.refusing refusals).bind _
  induction p with
  | done a => rfl
  | call c next ih =>
    rw [bind, refusing, refusing]
    cases (refusals c).bind c.failure? with
    | some reply => exact ih reply
    | none => exact congrArg (Program.call c) (funext ih)

@[simp]
theorem refusing_pure (refusals : Call → Option IoError) (a : α) :
    (pure a : Program α).refusing refusals = pure a := rfl

theorem refusing_map (refusals : Call → Option IoError) (f : α → β) (p : Program α) :
    (f <$> p).refusing refusals = f <$> p.refusing refusals := by
  rw [map_eq_pure_bind, map_eq_pure_bind, refusing_bind]
  rfl

theorem refusing_mapM (refusals : Call → Option IoError) (f : α → Program β) (items : List α) :
    (items.mapM f).refusing refusals = items.mapM fun a => (f a).refusing refusals := by
  induction items with
  | nil =>
    rw [List.mapM_nil, List.mapM_nil, refusing_pure]
  | cons a rest ih =>
    simp only [List.mapM_cons, refusing_bind, refusing_pure, ih]

/-- Refusals make a program make no calls of another kind. -/
theorem Only.refusing {kind : Call → Prop} {p : Program α} (hp : p.Only kind)
    (refusals : Call → Option IoError) : (p.refusing refusals).Only kind := by
  induction p with
  | done a => trivial
  | call c next ih =>
    rw [Program.refusing]
    cases (refusals c).bind c.failure? with
    | some reply => exact ih reply (hp.2 reply)
    | none => exact ⟨hp.1, fun reply => ih reply (hp.2 reply)⟩

/-- A program none of whose calls are refused is itself. -/
theorem refusing_of_only {refusals : Call → Option IoError} {p : Program α}
    (hp : p.Only fun c => refusals c = none) : p.refusing refusals = p := by
  induction p with
  | done a => rfl
  | call c next ih =>
    rw [refusing, hp.1]
    exact congrArg (Program.call c) (funext fun reply => ih reply (hp.2 reply))

/-- On a disk that refuses no call a program is itself. -/
theorem refusing_none (p : Program α) : (p.refusing fun _ => none) = p :=
  refusing_of_only (only_of_forall (fun _ => rfl) p)

/-- To refuse a call is one way to fail it. -/
theorem refusing_eq_failing (refusals : Call → Option IoError) (p : Program α) :
    p.refusing refusals = p.failing fun c => (refusals c).map .refused := by
  induction p with
  | done a => rfl
  | call c next ih =>
    rw [refusing, failing]
    cases refusals c with
    | none => exact congrArg (Program.call c) (funext ih)
    | some cause =>
      simp only [Option.bind_some, Option.map_some, Call.under, Fault.cause]
      cases c.failure? cause with
      | some reply => exact ih reply
      | none => exact congrArg (Program.call c) (funext ih)

/-- A call that does not write can only fail by being refused. -/
theorem failing_eq_refusing {p : Program α} (hp : p.Only fun c => c.writes = false)
    (faults : Call → Option Fault) : p.failing faults = p.refusing (causes faults) := by
  induction p with
  | done a => rfl
  | call c next ih =>
    have hNext : ∀ reply, (next reply).failing faults = (next reply).refusing (causes faults) :=
      fun reply => ih reply (hp.2 reply)
    rw [refusing, failing, causes]
    cases faults c with
    | none => exact congrArg (Program.call c) (funext hNext)
    | some fault =>
      have hUnder : c.under (some fault) = match c.failure? fault.cause with
          | some reply => pure reply
          | none => ask c := by
        cases fault with
        | refused cause => rfl
        | torn cause size =>
          cases c with
          | write q content => cases hp.1
          | _ => rfl
      simp only [Option.map_some, Option.bind_some, hUnder]
      cases c.failure? fault.cause with
      | some reply => exact hNext reply
      | none => exact congrArg (Program.call c) (funext hNext)

theorem failing_eq_refusing_of_readOnly {p : Program α} (hp : p.ReadOnly)
    (faults : Call → Option Fault) : p.failing faults = p.refusing (causes faults) :=
  failing_eq_refusing (hp.mono fun c hLooks => by cases c <;> first | rfl | cases hLooks) faults

theorem run_failing_snd_of_readOnly {p : Program α} (hp : p.ReadOnly)
    (faults : Call → Option Fault) (fs : FileSystem) : ((p.failing faults).run fs).2 = fs := by
  rw [failing_eq_refusing_of_readOnly hp, run_refusing hp]

/-- What follows a program that only looks starts from its answer. -/
theorem run_refusing_bind {p : Program α} (hp : p.ReadOnly) (refusals : Call → Option IoError)
    (f : α → Program β) (fs : FileSystem) :
    ((p >>= f).refusing refusals).run fs =
      ((f (p.answer (fs.reply refusals))).refusing refusals).run fs := by
  rw [refusing_bind, run_bind, run_refusing hp]

/-- To ask for the time cannot be refused, and time stands still. -/
theorem run_refusing_elapsed (refusals : Call → Option IoError) (fs : FileSystem) :
    (elapsed.refusing refusals).run fs = (0, fs) := by
  rw [elapsed, ask, refusing]
  cases refusals .elapsed <;> rfl

/-- A write is refused, or is made as it is. -/
theorem run_refusing_write (refusals : Call → Option IoError) (p : Path) (content : Bytes)
    (fs : FileSystem) :
    ((write p content).refusing refusals).run fs =
      match refusals (.write p content) with
      | some cause => (.error cause, fs)
      | none => fs.change (fs.write p content) := by
  rw [write, ask, refusing]
  cases refusals (.write p content) <;> rfl

end Program

namespace FileSystem

variable {fs : FileSystem} {refusals : Call → Option IoError} {p : Path}

/-- A call that is made is answered by the file system. -/
theorem reply_of_made {c : Call} (h : (refusals c).bind c.failure? = none) :
    fs.reply refusals c = (fs.perform c).1 := by
  rw [reply, h]
  rfl

/-- A call that is not refused is answered by the file system. -/
theorem reply_of_unrefused {c : Call} (h : refusals c = none) :
    fs.reply refusals c = (fs.perform c).1 :=
  reply_of_made (by rw [h]; rfl)

/-- A call that is not told of a failure was made. -/
theorem made_of_reply {c : Call} {answer : c.Reply} (h : fs.reply refusals c = answer)
    (hNoFailure : ∀ cause, c.failure? cause ≠ some answer) :
    (refusals c).bind c.failure? = none ∧ (fs.perform c).1 = answer := by
  rw [reply] at h
  cases hRefused : (refusals c).bind c.failure? with
  | none =>
    rw [hRefused] at h
    exact ⟨rfl, h⟩
  | some failed =>
    rw [hRefused] at h
    obtain rfl : failed = answer := h
    obtain ⟨cause, -, hFails⟩ := Option.bind_eq_some_iff.mp hRefused
    exact absurd hFails (hNoFailure cause)

/-- What a directory is told to hold stands in it. -/
theorem list_of_reply {entries : List (String × EntryKind)}
    (h : fs.reply refusals (.list p) = .ok entries) : fs.list p = .ok entries :=
  (made_of_reply h fun _ hFails => by cases hFails).2

theorem linkStatus_of_reply {s : Status}
    (h : fs.reply refusals (.linkStatus p) = .ok s) : fs.linkStatus p = .ok s :=
  (made_of_reply h fun _ hFails => by cases hFails).2

theorem status_of_reply {s : Status} (h : fs.reply refusals (.status p) = .ok s) :
    fs.status p = .ok s :=
  (made_of_reply h fun _ hFails => by cases hFails).2

theorem read_of_reply {content : Bytes} (h : fs.reply refusals (.read p) = .ok content) :
    fs.read p = .ok content :=
  (made_of_reply h fun _ hFails => by cases hFails).2

/-- A call that is not told of a failure, though it can fail, was not refused. -/
theorem unrefused_of_made {c : Call} {answer : c.Reply} (h : fs.reply refusals c = answer)
    (hFails : ∀ cause, ∃ failed, c.failure? cause = some failed ∧ failed ≠ answer) :
    refusals c = none := by
  cases hRefused : refusals c with
  | none => rfl
  | some cause =>
    obtain ⟨failed, hFailed, hOther⟩ := hFails cause
    rw [reply, hRefused, Option.bind_some, hFailed] at h
    exact absurd h hOther

/-- What could be read was not refused. -/
theorem unrefused_of_reply {content : Bytes} (h : fs.reply refusals (.read p) = .ok content) :
    refusals (.read p) = none :=
  unrefused_of_made h fun _ => ⟨_, rfl, nofun⟩

theorem unrefused_of_listed {entries : List (String × EntryKind)}
    (h : fs.reply refusals (.list p) = .ok entries) : refusals (.list p) = none :=
  unrefused_of_made h fun _ => ⟨_, rfl, nofun⟩

theorem unrefused_of_looked {s : Status} (h : fs.reply refusals (.linkStatus p) = .ok s) :
    refusals (.linkStatus p) = none :=
  unrefused_of_made h fun _ => ⟨_, rfl, nofun⟩

/-- What the file system itself refuses is refused. -/
theorem exists_reply_list_error {cause : IoError} (h : fs.list p = .error cause) :
    ∃ cause, fs.reply refusals (.list p) = .error cause := by
  rw [reply]
  cases refusals (.list p) with
  | none => exact ⟨cause, h⟩
  | some other => exact ⟨other, rfl⟩

end FileSystem

end LicenseAudit
