import LicenseAudit.Proofs.Program.Run

/-!
# Calls that fail

A file system value refuses a call for reasons of its own only: something is missing, or a name is
too long. A disk can fail any call. Here a program is put under a script that says which of its
calls fail, in the order in which it makes them, and how.

* `Fault` — how a call fails: nothing is done, or a write stops short;
* `Call.under` — a call that may fail;
* `Program.disturbed` — a program under a script.

## Results

* `Only.disturbed` — a fault makes a program make no calls of another kind.
-/

namespace LicenseAudit

/-- How a call fails: nothing is done, or, if the call writes, only so many bytes are written. -/
inductive Fault where
  | refused (cause : IoError)
  | torn (cause : IoError) (size : Nat)

/-- What the caller is told. -/
def Fault.cause : Fault → IoError
  | refused cause | torn cause _ => cause

/-- The reply to a call that has failed. To ask for the time cannot fail. -/
def Call.failure? : (c : Call) → IoError → Option c.Reply
  | .read _, cause => some (.error cause)
  | .status _, cause => some (.error cause)
  | .linkStatus _, cause => some (.error cause)
  | .list _, cause => some (.error cause)
  | .canonical _, cause => some (.error cause)
  | .write _ _, cause => some (.error cause)
  | .setMode _ _, cause => some (.error cause)
  | .rename _ _, cause => some (.error cause)
  | .remove _, cause => some (.error cause)
  | .elapsed, _ => none

/-- A call that fails as given, or is made as it is. -/
def Call.under : Option Fault → (c : Call) → Program c.Reply
  | none, c => Program.ask c
  | some (.torn cause size), .write p content => do
    match ← Program.write p (content.take size) with
    | .error refusal => return .error refusal
    | .ok () => return .error cause
  | some fault, c =>
    match c.failure? fault.cause with
    | some reply => return reply
    | none => Program.ask c

namespace Program

variable {α β : Type}

/-- The program under a script: each of its calls fails as the script says of it, and those behind
the end of the script are made as they are. -/
def disturbed : List (Option Fault) → Program α → Program α
  | _, .done a => .done a
  | script, .call c next =>
    (c.under script.head?.join).bind fun reply => (next reply).disturbed script.tail

variable {kind : Call → Prop}

theorem only_under {c : Call} (hKind : kind c)
    (hWrite : ∀ p content content', kind (.write p content) → kind (.write p content'))
    (fault? : Option Fault) : (c.under fault?).Only kind := by
  have hPlain : (ask c).Only kind := only_ask hKind
  have hFails : ∀ cause, (match c.failure? cause with
      | some reply => (pure reply : Program c.Reply)
      | none => ask c).Only kind := by
    intro cause
    cases c.failure? cause with
    | some reply => exact only_pure reply
    | none => exact hPlain
  cases fault? with
  | none => exact hPlain
  | some fault =>
    cases fault with
    | refused cause => exact hFails cause
    | torn cause size =>
      cases c with
      | write p content =>
        refine Only.bind (only_ask (hWrite p content _ hKind)) fun reply => ?_
        cases reply <;> exact only_pure _
      | _ => exact hFails cause

/-- A fault makes a program make no calls of another kind, if the kind does not depend on what is
written. -/
theorem Only.disturbed {p : Program α} (h : p.Only kind)
    (hWrite : ∀ q content content', kind (.write q content) → kind (.write q content'))
    (script : List (Option Fault)) : (p.disturbed script).Only kind := by
  induction p generalizing script with
  | done a => trivial
  | call c next ih =>
    exact (only_under h.1 hWrite _).bind fun reply => ih reply (h.2 reply) _

end Program

end LicenseAudit
