import LicenseAudit.FileSystem.Operations

/-!
# Programs over a file system

Everything that this library does with files is a `Program`: a tree that names one call, waits
for the reply and goes on. A program does nothing by itself. Run against a file system value it
becomes a function; the command line runs the same tree against the disk; and because the
calls are visible, programs of several workers can be interleaved call by call.

* `Call` — one call, with the type of its reply;
* `Program` — the tree, a lawful monad;
* `Program.run` — the meaning over a file system value (`run_pure`, `run_bind`, `run_ask`).
-/

namespace LicenseAudit

/-- One call to the operating system. -/
inductive Call where
  | read (p : Path)
  | status (p : Path)
  | linkStatus (p : Path)
  | list (p : Path)
  | canonical (p : Path)
  | write (p : Path) (content : Bytes)
  | setMode (p : Path) (mode : Nat)
  | rename (source target : Path)
  | remove (p : Path)
  /-- How many microseconds the run has taken. -/
  | elapsed
deriving DecidableEq

/-- What the reply to a call is. -/
abbrev Call.Reply : Call → Type
  | read _ => Except IoError Bytes
  | status _ => Except IoError Status
  | linkStatus _ => Except IoError Status
  | list _ => Except IoError (List (String × EntryKind))
  | canonical _ => Except IoError Path
  | write _ _ => Except IoError Unit
  | setMode _ _ => Except IoError Unit
  | rename _ _ => Except IoError Unit
  | remove _ => Except IoError Unit
  | elapsed => Nat

namespace FileSystem

/-- The reply to a change and the state after it: a refused change changes nothing. -/
def change (fs : FileSystem) : Except IoError FileSystem → Except IoError Unit × FileSystem
  | .ok after => (.ok (), after)
  | .error e => (.error e, fs)

/-- What a call answers and the state after it. Time stands still in a file system value. -/
def perform (fs : FileSystem) : (c : Call) → c.Reply × FileSystem
  | .read p => (fs.read p, fs)
  | .status p => (fs.status p, fs)
  | .linkStatus p => (fs.linkStatus p, fs)
  | .list p => (fs.list p, fs)
  | .canonical p => (fs.canonical p, fs)
  | .write p content => fs.change (fs.write p content)
  | .setMode p mode => fs.change (fs.setMode p mode)
  | .rename source target => fs.change (fs.rename source target)
  | .remove p => fs.change (fs.remove p)
  | .elapsed => (0, fs)

end FileSystem

/-- A program that ends with a value of the given type. -/
inductive Program (α : Type) where
  | done (a : α)
  | call (c : Call) (next : c.Reply → Program α)

namespace Program

variable {α β γ : Type}

/-- Runs the first program and goes on with its value. -/
def bind : Program α → (α → Program β) → Program β
  | done a, f => f a
  | call c next, f => call c fun reply => (next reply).bind f

instance : Monad Program where
  pure := done
  bind := bind

theorem bind_done (p : Program α) : p.bind done = p := by
  induction p with
  | done a => rfl
  | call c next ih => simp only [bind]; congr 1; funext reply; exact ih reply

theorem bind_assoc (p : Program α) (f : α → Program β) (g : β → Program γ) :
    (p.bind f).bind g = p.bind fun a => (f a).bind g := by
  induction p with
  | done a => rfl
  | call c next ih => simp only [bind]; congr 1; funext reply; exact ih reply

instance : LawfulMonad Program := LawfulMonad.mk' Program
  bind_done
  (fun _ _ => rfl)
  bind_assoc

/-- The program that makes one call. -/
def ask (c : Call) : Program c.Reply := call c done

/-- What a program answers and the file system after it. -/
def run : Program α → FileSystem → α × FileSystem
  | done a, fs => (a, fs)
  | call c next, fs => (next (fs.perform c).1).run (fs.perform c).2

@[simp]
theorem run_pure (a : α) (fs : FileSystem) : (pure a : Program α).run fs = (a, fs) := rfl

@[simp]
theorem run_ask (c : Call) (fs : FileSystem) : (ask c).run fs = fs.perform c := rfl

@[simp]
theorem run_bind (p : Program α) (f : α → Program β) (fs : FileSystem) :
    (p >>= f).run fs = (f (p.run fs).1).run (p.run fs).2 := by
  show (p.bind f).run fs = _
  induction p generalizing fs with
  | done a => rfl
  | call c next ih => exact ih _ _

/-! ## Single calls -/

/-- Reads a whole file. -/
def read (p : Path) : Program (Except IoError Bytes) := ask (.read p)

/-- The status of what stands at a path, links followed. -/
def status (p : Path) : Program (Except IoError Status) := ask (.status p)

/-- The status of what stands at a path, a link at the end not followed. -/
def linkStatus (p : Path) : Program (Except IoError Status) := ask (.linkStatus p)

/-- The entries of a directory. -/
def list (p : Path) : Program (Except IoError (List (String × EntryKind))) := ask (.list p)

/-- The absolute path without links of what stands at a path. -/
def canonical (p : Path) : Program (Except IoError Path) := ask (.canonical p)

/-- Writes a whole file in place. -/
def write (p : Path) (content : Bytes) : Program (Except IoError Unit) := ask (.write p content)

/-- Sets permission bits. -/
def setMode (p : Path) (mode : Nat) : Program (Except IoError Unit) := ask (.setMode p mode)

/-- Moves a file or a link. -/
def rename (source target : Path) : Program (Except IoError Unit) := ask (.rename source target)

/-- Removes a file or a link. -/
def remove (p : Path) : Program (Except IoError Unit) := ask (.remove p)

/-- How many microseconds the run has taken. -/
def elapsed : Program Nat := ask .elapsed

/-! ## Small programs -/

/-- Whether something stands at a path, links followed. -/
def pathExists (p : Path) : Program Bool := do
  return (← status p).isOk

/-- Whether a directory stands at a path, links followed. -/
def directoryExists (p : Path) : Program Bool := do
  match ← status p with
  | .ok s => return s.kind == .directory
  | .error _ => return false

/-- Reads a whole file as text. -/
def readText (p : Path) : Program (Except IoError String) := do
  match ← read p with
  | .error e => return .error e
  | .ok bytes =>
    match Text.decode? bytes with
    | some text => return .ok (String.ofList text)
    | none => return .error .notText

end Program

end LicenseAudit
