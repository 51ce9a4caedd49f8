import LicenseAudit.Program.Replace
import LicenseAudit.Proofs.Pool.Outcome
import LicenseAudit.Proofs.Pool.Failing
import LicenseAudit.Text.Numeral

/-!
# Why calls fail

A file system value fails a call for one of the reasons that have a text in common: the system gives
a number, or a path or a text cannot be what it should. Such a text ends in a word that tells the
reason, so that the reason can be read off whatever the text stands behind.

* `IoError.Standard` — a failure without a text of its own;
* `Call.Tells` — a reply that tells of no other failure;
* `Program.EndsTold` — a program all of whose values have a property, if it is told of no other
  failures.

## Results

* `eq_of_message_ends` — failures whose texts end alike are the same.
* `perform_tells` — a file system value fails for such reasons only.
* `EndsTold.run_refusing`, `exists_told` — what holds of the values of a program, and of the jobs of
  a pool, where only such failures occur.
-/

namespace LicenseAudit

-- ---------------------------------------------------------------------------
-- Texts
-- ---------------------------------------------------------------------------

namespace IoError

/-- The failure has no text of its own. -/
def Standard (e : IoError) : Prop := ∀ text, e ≠ .other text

@[simp]
theorem standard_system (code : Nat) : (system code).Standard := fun _ h => by cases h

@[simp]
theorem standard_zeroByte : zeroByte.Standard := fun _ h => by cases h

/-- The last word of the text of a failure. -/
def lastWord : IoError → List Char
  | system code => (toString code).toList ++ [')']
  | notText => "UTF-8".toList
  | zeroByte => "byte".toList
  | other _ => []

theorem not_blank_mem_lastWord (e : IoError) : ' ' ∉ e.lastWord := by
  cases e with
  | system code =>
    intro hMem
    rw [lastWord, List.mem_append] at hMem
    rcases hMem with hDigit | hLast
    · have hIsDigit : ' '.isDigit = true := by
        refine Nat.isDigit_of_mem_toDigits (b := 10) (n := code) (by omega) (by omega) ?_
        simpa using hDigit
      cases hIsDigit
    · exact absurd hLast (by decide)
  | notText => decide
  | zeroByte => decide
  | other text => exact List.not_mem_nil

variable {a b : IoError}

/-- The last word tells the failure. -/
theorem eq_of_lastWord_eq (ha : a.Standard) (hb : b.Standard) (h : a.lastWord = b.lastWord) :
    a = b := by
  -- the word for a number ends in a bracket, and the other words do not
  have hNumber : ∀ code : Nat, (system code).lastWord.getLast? = some ')' := fun code =>
    List.getLast?_concat
  cases a with
  | other text => exact absurd rfl (ha text)
  | system code =>
    cases b with
    | other text => exact absurd rfl (hb text)
    | system code' =>
      have hDigits : (toString code).toList = (toString code').toList :=
        List.append_cancel_right h
      have hValue := congrArg Text.decimalValue hDigits
      simp only [toString, Nat.toList_repr, Text.decimalValue_toDigits] at hValue
      exact congrArg system hValue
    | notText | zeroByte =>
      have hLast := hNumber code
      rw [h] at hLast
      exact absurd hLast (by decide)
  | notText =>
    cases b with
    | other text => exact absurd rfl (hb text)
    | system code =>
      have hLast := hNumber code
      rw [← h] at hLast
      exact absurd hLast (by decide)
    | notText => rfl
    | zeroByte => exact absurd h (by decide)
  | zeroByte =>
    cases b with
    | other text => exact absurd rfl (hb text)
    | system code =>
      have hLast := hNumber code
      rw [← h] at hLast
      exact absurd hLast (by decide)
    | notText => exact absurd h (by decide)
    | zeroByte => rfl

theorem exists_message_eq (ha : a.Standard) :
    ∃ front, a.message.toList = front ++ ' ' :: a.lastWord := by
  cases a with
  | system code =>
    refine ⟨(systemText code).toList ++ " (os error".toList, ?_⟩
    simp [message, lastWord, toString]
  | notText => exact ⟨"stream did not contain valid".toList, by decide⟩
  | zeroByte => exact ⟨"file name contained an unexpected NUL".toList, by decide⟩
  | other text => exact absurd rfl (ha text)

/-- What stands behind the last space of a text does not depend on what stands before. -/
theorem eq_of_append_blank {x y v w : List Char} (hv : ' ' ∉ v) (hw : ' ' ∉ w)
    (h : x ++ ' ' :: v = y ++ ' ' :: w) : v = w := by
  rcases List.append_eq_append_iff.mp h with ⟨more, -, hSplit⟩ | ⟨more, -, hSplit⟩ <;>
    cases more with
    | nil => simpa [eq_comm] using hSplit
    | cons c rest => simp_all

/-- Failures whose texts end alike are the same. -/
theorem eq_of_message_ends {x y : List Char} (ha : a.Standard) (hb : b.Standard)
    (h : x ++ a.message.toList = y ++ b.message.toList) : a = b := by
  obtain ⟨front, hFront⟩ := exists_message_eq ha
  obtain ⟨front', hFront'⟩ := exists_message_eq hb
  rw [hFront, hFront', ← List.append_assoc, ← List.append_assoc] at h
  exact eq_of_lastWord_eq ha hb
    (eq_of_append_blank a.not_blank_mem_lastWord b.not_blank_mem_lastWord h)

end IoError

-- ---------------------------------------------------------------------------
-- Replies
-- ---------------------------------------------------------------------------

/-- The reply does not tell of a failure with a text of its own. -/
def Call.Tells (c : Call) (reply : c.Reply) : Prop :=
  ∀ text, c.failure? (.other text) ≠ some reply

/-- Such a failure is not another one. -/
theorem tells_of_failure? {c : Call} {cause : IoError} {reply : c.Reply} (hCause : cause.Standard)
    (hFails : c.failure? cause = some reply) : c.Tells reply := by
  intro text hOther
  have hSame : c.failure? (.other text) = c.failure? cause := hOther.trans hFails.symm
  refine hCause text ?_
  cases c with
  | elapsed => cases hFails
  | _ => exact (Except.error.inj (Option.some.inj hSame)).symm

namespace FileSystem

/-- If the operation fails, then not with a text of its own. -/
def FailsStandard {α : Type} (r : Except IoError α) : Prop := ∀ text, r ≠ .error (.other text)

section
variable {α β : Type} {fs : FileSystem} {p : Path}

@[simp]
theorem failsStandard_ok (a : α) : FailsStandard (.ok a) := fun _ h => by cases h

@[simp]
theorem failsStandard_pure (a : α) : FailsStandard (pure a) := failsStandard_ok a

@[simp]
theorem failsStandard_error {e : IoError} :
    FailsStandard (.error e : Except IoError α) ↔ e.Standard := by
  simp [FailsStandard, IoError.Standard]

theorem FailsStandard.bind {r : Except IoError α} {f : α → Except IoError β}
    (hr : FailsStandard r) (hf : ∀ a, FailsStandard (f a)) : FailsStandard (r >>= f) := by
  cases r with
  | error e => exact fun text h => hr text (by cases h; rfl)
  | ok a => exact hf a

/-- A check in front of an operation. -/
theorem FailsStandard.guard {c : Prop} [Decidable c] {e : IoError} {f : β → Except IoError α}
    {r : Except IoError α} (he : e.Standard) (hr : FailsStandard r) :
    FailsStandard (if c then (Except.error e : Except IoError β) >>= f else r) := by
  split_ifs
  · exact failsStandard_error.mpr he
  · exact hr

theorem failsStandard_checkText (p : Path) : FailsStandard (checkText p) := by
  rw [checkText]
  split_ifs <;> simp [IoError.standard_zeroByte]

theorem failsStandard_walkSteps {followLast : Bool}
    {onLink : Location → Path → List String → Except IoError Location}
    (hLink : ∀ here target rest, FailsStandard (onLink here target rest)) (here : Location)
    (names : List String) : FailsStandard (fs.walkSteps followLast onLink here names) := by
  fun_induction walkSteps fs followLast onLink here names <;> simp_all

theorem failsStandard_walkWithin (fs : FileSystem) (followLast : Bool) (links : Nat)
    (here : Location) (names : List String) :
    FailsStandard (fs.walkWithin followLast links here names) := by
  induction links generalizing here names with
  | zero => exact failsStandard_walkSteps (fun _ _ _ => by simp) here names
  | succ links ih => exact failsStandard_walkSteps (fun _ _ _ => ih _ _) here names

theorem failsStandard_locate (fs : FileSystem) (followLast : Bool) (p : Path) :
    FailsStandard (fs.locate followLast p) :=
  (failsStandard_checkText p).bind fun _ => failsStandard_walkWithin fs _ _ _ _

theorem failsStandard_find (fs : FileSystem) (followLast : Bool) (p : Path) :
    FailsStandard (fs.find followLast p) := by
  refine (failsStandard_locate fs followLast p).bind fun l => ?_
  cases fs.lookup? l <;> simp

theorem failsStandard_locateParent (fs : FileSystem) (p : Path) :
    FailsStandard (fs.locateParent p) := by
  refine (failsStandard_checkText p).bind fun _ =>
    (failsStandard_walkWithin fs _ _ _ _).bind fun dir => .guard (by simp) ?_
  cases p.steps.getLast? <;> exact failsStandard_pure _

theorem failsStandard_canonical (fs : FileSystem) (p : Path) : FailsStandard (fs.canonical p) := by
  refine .guard (by simp) (.guard (by simp) ?_)
  exact (failsStandard_walkWithin fs _ _ _ _).bind fun l =>
    .guard (by simp) (failsStandard_pure _)

theorem failsStandard_write (fs : FileSystem) (p : Path) (content : Bytes) :
    FailsStandard (fs.write p content) := by
  refine .guard (by simp) ((failsStandard_locate fs true p).bind fun l => ?_)
  rcases fs.lookup? l with _ | entry
  · simp
  · cases entry <;> simp

theorem failsStandard_setMode (fs : FileSystem) (p : Path) (mode : Nat) :
    FailsStandard (fs.setMode p mode) := by
  refine (failsStandard_find fs true p).bind ?_
  rintro ⟨l, entry⟩
  cases entry <;> simp

theorem failsStandard_rename (fs : FileSystem) (source target : Path) :
    FailsStandard (fs.rename source target) := by
  refine (failsStandard_locateParent fs source).bind ?_
  rintro ⟨sourceDir, sourceName?⟩
  refine (failsStandard_locateParent fs target).bind ?_
  rintro ⟨targetDir, targetName?⟩
  rcases sourceName? with _ | sourceName
  · simp
  rcases targetName? with _ | targetName
  · simp
  refine .guard (by simp) ?_
  dsimp only
  rcases fs.lookup? (sourceName :: sourceDir) with _ | entry
  · simp
  · refine .guard (by simp) (.guard (by simp) (.guard (by simp) (.guard (by simp) ?_)))
    split_ifs <;> simp

theorem failsStandard_remove (fs : FileSystem) (p : Path) : FailsStandard (fs.remove p) := by
  refine (failsStandard_locateParent fs p).bind ?_
  rintro ⟨dir, _ | name⟩
  · simp
  · refine .guard (by simp) ?_
    rcases fs.lookup? (name :: dir) with _ | entry
    · simp
    · exact .guard (by simp) (.guard (by simp) (by simp))

theorem failsStandard_change {r : Except IoError FileSystem} (hr : FailsStandard r) :
    FailsStandard (fs.change r).1 := by
  cases r with
  | ok after => exact failsStandard_ok ()
  | error e => exact failsStandard_error.mpr (failsStandard_error.mp hr)

/-- **Why calls fail.** A file system value fails no call with a text of its own. -/
theorem perform_tells (fs : FileSystem) (c : Call) : c.Tells (fs.perform c).1 := by
  have hTells : ∀ {α : Type} {r : Except IoError α}, FailsStandard r →
      ∀ text, some (Except.error (.other text)) ≠ some r :=
    fun hr text h => hr text (Option.some.inj h).symm
  cases c with
  | elapsed => exact fun text h => by cases h
  | read p =>
    refine hTells ((failsStandard_find fs true p).bind ?_)
    rintro ⟨l, entry⟩
    cases entry <;> simp
  | status p => exact hTells ((failsStandard_find fs true p).bind fun found => by simp)
  | linkStatus p => exact hTells ((failsStandard_find fs false p).bind fun found => by simp)
  | list p =>
    refine hTells ((failsStandard_find fs true p).bind ?_)
    rintro ⟨l, entry⟩
    cases entry <;> simp
  | canonical p => exact hTells (failsStandard_canonical fs p)
  | write p content => exact hTells (failsStandard_change (failsStandard_write fs p content))
  | setMode p mode => exact hTells (failsStandard_change (failsStandard_setMode fs p mode))
  | rename source target =>
    exact hTells (failsStandard_change (failsStandard_rename fs source target))
  | remove p => exact hTells (failsStandard_change (failsStandard_remove fs p))

/-- Neither does a disk that refuses calls for such reasons. -/
theorem reply_tells {refusals : Call → Option IoError}
    (hRefusals : ∀ c cause, refusals c = some cause → cause.Standard) (fs : FileSystem) (c : Call) :
    c.Tells (fs.reply refusals c) := by
  rw [reply]
  cases hRefused : (refusals c).bind c.failure? with
  | none => exact perform_tells fs c
  | some reply =>
    obtain ⟨cause, hCause, hFails⟩ := Option.bind_eq_some_iff.mp hRefused
    exact tells_of_failure? (hRefusals c cause hCause) hFails

end
end FileSystem

-- ---------------------------------------------------------------------------
-- Programs
-- ---------------------------------------------------------------------------

namespace Program

open FileSystem

variable {α β : Type} {P : α → Prop}

/-- The program ends with a value that has the property, if it is told of no failure with a text of
its own. -/
def EndsTold (P : α → Prop) : Program α → Prop
  | .done a => P a
  | .call c next => ∀ reply, c.Tells reply → (next reply).EndsTold P

theorem EndsTold.bind {Q : β → Prop} {p : Program α} {f : α → Program β} (hp : p.EndsTold P)
    (hf : ∀ a, P a → (f a).EndsTold Q) : (p >>= f).EndsTold Q := by
  show (p.bind f).EndsTold Q
  induction p with
  | done a => exact hf a hp
  | call c next ih => exact fun reply hTells => ih reply (hp reply hTells)

/-- Refusals for such reasons tell a program of no other failures. -/
theorem EndsTold.refusing {p : Program α} (hp : p.EndsTold P) {refusals : Call → Option IoError}
    (hRefusals : ∀ c cause, refusals c = some cause → cause.Standard) :
    (p.refusing refusals).EndsTold P := by
  induction p with
  | done a => exact hp
  | call c next ih =>
    rw [Program.refusing]
    cases hRefused : (refusals c).bind c.failure? with
    | none => exact fun reply hTells => ih reply (hp reply hTells)
    | some reply =>
      obtain ⟨cause, hCause, hFails⟩ := Option.bind_eq_some_iff.mp hRefused
      exact ih reply (hp reply (tells_of_failure? (hRefusals c cause hCause) hFails))

theorem endsTold_read (p : Path) : (read p).EndsTold FailsStandard :=
  fun _ hTells text hFails => hTells text (congrArg some hFails.symm)

theorem endsTold_status (p : Path) : (status p).EndsTold FailsStandard :=
  fun _ hTells text hFails => hTells text (congrArg some hFails.symm)

theorem endsTold_write (p : Path) (content : Bytes) : (write p content).EndsTold FailsStandard :=
  fun _ hTells text hFails => hTells text (congrArg some hFails.symm)

theorem endsTold_setMode (p : Path) (mode : Nat) : (setMode p mode).EndsTold FailsStandard :=
  fun _ hTells text hFails => hTells text (congrArg some hFails.symm)

theorem endsTold_rename (source target : Path) : (rename source target).EndsTold FailsStandard :=
  fun _ hTells text hFails => hTells text (congrArg some hFails.symm)

theorem endsTold_remove (p : Path) : (remove p).EndsTold FailsStandard :=
  fun _ hTells text hFails => hTells text (congrArg some hFails.symm)

theorem endsTold_installTemporary (temporary p : Path) (mode? : Option Nat) (content : Bytes) :
    (installTemporary temporary p mode? content).EndsTold FailsStandard := by
  refine (endsTold_write temporary content).bind fun written hWritten => ?_
  rcases written with e | done
  · exact failsStandard_error.mpr (failsStandard_error.mp hWritten)
  rcases mode? with _ | mode
  · exact endsTold_rename temporary p
  refine (endsTold_setMode temporary mode).bind fun set hSet => ?_
  rcases set with e | done
  · exact failsStandard_error.mpr (failsStandard_error.mp hSet)
  · exact endsTold_rename temporary p

theorem endsTold_replaceVia (temporary p : Path) (mode? : Option Nat) (content : Bytes) :
    (replaceVia temporary p mode? content).EndsTold FailsStandard := by
  refine (endsTold_installTemporary temporary p mode? content).bind fun installed hInstalled => ?_
  rcases installed with e | done
  · exact (endsTold_remove temporary).bind fun _ _ => hInstalled
  · exact failsStandard_ok ()

/-- A replacement fails for the reason of one of its calls. -/
theorem endsTold_replace (tag : Nat) (p : Path) (content : Bytes) :
    (replace tag p content).EndsTold FailsStandard := by
  refine (endsTold_status p).bind fun found hFound => ?_
  rcases found with e | s
  · simp only
    split
    · exact endsTold_replaceVia _ p none content
    · exact failsStandard_error.mpr (failsStandard_error.mp hFound)
  · exact endsTold_replaceVia _ p (some s.mode) content

end Program

-- ---------------------------------------------------------------------------
-- Pools
-- ---------------------------------------------------------------------------

namespace Pool

variable {α β : Type}

/-- **The answers of a pool.** Along every schedule a pool answers for each item what its job can
end with, where calls are refused for such reasons only. -/
theorem exists_told {q : α → Program β} {Q : α → β → Prop} {refusals : Call → Option IoError}
    (hRefusals : ∀ c cause, refusals c = some cause → cause.Standard)
    (hJobs : ∀ a, (q a).EndsTold (Q a)) (schedule : List Event) (workers : Nat) (items : List α)
    (fs : FileSystem) :
    ∃ (found : List (α × β)) (fs' : FileSystem),
      ((run schedule workers items fun a => some <$> q a).refusing refusals).run fs =
        (.results (found.map Prod.snd), fs') ∧
      (found.map Prod.fst).Perm items ∧ ∀ e ∈ found, Q e.1 e.2 := by
  obtain ⟨other, hRun⟩ := exists_run_refusing (fun a => some <$> q a) refusals schedule workers
    items fs
  have hUpkeep : Upkeep
      (fun _ a (rest : Program (Option β)) => rest.EndsTold fun r => ∃ b, r = some b ∧ Q a b)
      fun _ _ => True :=
    ⟨fun _ => trivial, fun hRest => hRest _ (FileSystem.perform_tells _ _), fun _ _ hRest => hRest⟩
  have hSound : ∀ (_ : FileSystem) a,
      ¬ (Program.done none : Program (Option β)).EndsTold fun r => ∃ b, r = some b ∧ Q a b := by
    rintro _ a ⟨b, hNone, -⟩
    cases hNone
  have hStart : ∀ a ∈ items, ((some <$> q a).refusing refusals).EndsTold
      fun r => ∃ b, r = some b ∧ Q a b := by
    intro a _
    have hJob : (some <$> q a).EndsTold fun r => ∃ b, r = some b ∧ Q a b := by
      rw [map_eq_pure_bind]
      exact (hJobs a).bind fun b hb => show ∃ b', some b = some b' ∧ Q a b' from ⟨b, rfl, hb⟩
    exact hJob.refusing hRefusals
  obtain ⟨found, fs', hResults, hItems, hEnds, -⟩ :=
    run_returns (G := fun _ => True) hUpkeep hSound (fun _ => trivial)
      (fun a => (some <$> q a).refusing refusals) other workers
      (List.pairwise_of_forall fun _ _ => trivial) hStart trivial
  refine ⟨found, fs', hRun.trans hResults, hItems, fun e hMem => ?_⟩
  obtain ⟨b, hb, hQ⟩ := hEnds e hMem
  cases hb
  exact hQ

end Pool

end LicenseAudit
