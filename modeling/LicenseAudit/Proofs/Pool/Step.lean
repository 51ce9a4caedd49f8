import LicenseAudit.Pool.Basic
import LicenseAudit.Proofs.Program.Run
import Mathlib.Data.List.Count
import Mathlib.Logic.Relation

/-!
# Steps of a pool

The possible steps of a run, one rule for each kind of step, and what every state that a run
can reach looks like.

* `Step`, `Reachable` — the steps that `State.enabled` and `State.after` allow, and the states
  that some order of steps leads to, each beside the file system that the jobs work on;
* `Move` — the same steps as rules: the guard, the state before and the state after;
* `Shape` — the invariant that does not depend on the jobs.

## Results

* `Step.move`, `Move.step` — the rules say exactly what a step can do.
* `shape_of_reachable` — every reachable state has the shape.
-/

namespace LicenseAudit.Pool

variable {α β : Type} {job : α → Program (Option β)}

-- ---------------------------------------------------------------------------
-- Steps and reachable states
-- ---------------------------------------------------------------------------

/-- A state of a run beside the file system that its jobs work on. -/
abbrev Snapshot (α β : Type) := State α β × FileSystem

/-- One possible step, the calls of the jobs answered by the file system. -/
def Step (job : α → Program (Option β)) (x y : Snapshot α β) : Prop :=
  ∃ e : Event, x.1.enabled e = true ∧ (x.1.after job e).run x.2 = y

/-- Any number of steps. -/
abbrev Steps (job : α → Program (Option β)) : Snapshot α β → Snapshot α β → Prop :=
  Relation.ReflTransGen (Step job)

/-- The snapshots that some order of steps leads to. -/
def Reachable (job : α → Program (Option β)) (workers : Nat) (items : List α)
    (fs : FileSystem) (x : Snapshot α β) : Prop :=
  Steps job (initial workers items, fs) x

/-- The steps as rules, one for each kind of step. -/
inductive Move (job : α → Program (Option β)) : Snapshot α β → Snapshot α β → Prop where
  /-- The producer puts its next item into a queue that has room. -/
  | send {s : State α β} {fs : FileSystem} {a : α} {rest : List α}
      (hPending : s.pending = a :: rest) (hRoom : s.queue.length < s.capacity) :
      Move job (s, fs) ({ s with pending := rest, queue := s.queue ++ [a] }, fs)
  /-- The producer has handed over everything and closes the queue. -/
  | close {s : State α β} {fs : FileSystem}
      (hPending : s.pending = []) (hOpen : s.closed = false) :
      Move job (s, fs) ({ s with closed := true }, fs)
  /-- A waiting worker takes the lock, which nobody holds. -/
  | acquire {s : State α β} {fs : FileSystem} {i : Nat}
      (hWorker : s.workers[i]? = some .waiting) (hFree : s.locked = false) :
      Move job (s, fs) (s.setWorker i .holding, fs)
  /-- The holder of the lock takes the first item of the queue. -/
  | receive {s : State α β} {fs : FileSystem} {i : Nat} {a : α} {rest : List α}
      (hWorker : s.workers[i]? = some .holding) (hQueue : s.queue = a :: rest) :
      Move job (s, fs) ({ s.setWorker i (.busy a (job a)) with queue := rest }, fs)
  /-- A busy worker makes the next call of its job. -/
  | call {s : State α β} {fs : FileSystem} {i : Nat} {a : α} {c : Call}
      {next : c.Reply → Program (Option β)}
      (hWorker : s.workers[i]? = some (.busy a (.call c next))) :
      Move job (s, fs)
        (s.setWorker i (.busy a (next (fs.perform c).1)), (fs.perform c).2)
  /-- A job is over and its result is delivered. -/
  | deliver {s : State α β} {fs : FileSystem} {i : Nat} {a : α} {b : β}
      (hWorker : s.workers[i]? = some (.busy a (.done (some b)))) :
      Move job (s, fs) ({ s.setWorker i .waiting with results := s.results ++ [b] }, fs)
  /-- A job breaks down and takes its worker with it. -/
  | crash {s : State α β} {fs : FileSystem} {i : Nat} {a : α}
      (hWorker : s.workers[i]? = some (.busy a (.done none))) :
      Move job (s, fs) (s.setWorker i .crashed, fs)
  /-- The holder of the lock sees that nothing will come any more, and ends. -/
  | leave {s : State α β} {fs : FileSystem} {i : Nat}
      (hWorker : s.workers[i]? = some .holding)
      (hQueue : s.queue = []) (hClosed : s.closed = true) :
      Move job (s, fs) (s.setWorker i .finished, fs)

@[simp]
theorem enabled_send_iff {s : State α β} :
    s.enabled .send = true ↔ s.pending ≠ [] ∧ s.queue.length < s.capacity := by
  simp [State.enabled]

@[simp]
theorem enabled_close_iff {s : State α β} :
    s.enabled .close = true ↔ s.pending = [] ∧ s.closed = false := by
  simp [State.enabled]

@[simp]
theorem enabled_acquire_iff {s : State α β} {i : Nat} :
    s.enabled (.acquire i) = true ↔ s.workers[i]? = some .waiting ∧ s.locked = false := by
  rw [State.enabled]
  cases s.workers[i]? with
  | none => simp
  | some w => cases w <;> simp

@[simp]
theorem enabled_receive_iff {s : State α β} {i : Nat} :
    s.enabled (.receive i) = true ↔ s.workers[i]? = some .holding ∧ s.queue ≠ [] := by
  rw [State.enabled]
  cases s.workers[i]? with
  | none => simp
  | some w => cases w <;> simp

@[simp]
theorem enabled_work_iff {s : State α β} {i : Nat} :
    s.enabled (.work i) = true ↔ ∃ a rest, s.workers[i]? = some (.busy a rest) := by
  rw [State.enabled]
  cases s.workers[i]? with
  | none => simp
  | some w => cases w <;> simp

@[simp]
theorem enabled_leave_iff {s : State α β} {i : Nat} :
    s.enabled (.leave i) = true ↔
      s.workers[i]? = some .holding ∧ s.queue = [] ∧ s.closed = true := by
  rw [State.enabled]
  cases s.workers[i]? with
  | none => simp
  | some w => cases w <;> simp

/-- A possible step follows one of the rules. -/
theorem Step.move {x y : Snapshot α β} (h : Step job x y) : Move job x y := by
  obtain ⟨s, fs⟩ := x
  obtain ⟨e, hEnabled, rfl⟩ := h
  replace hEnabled : s.enabled e = true := hEnabled
  simp only [State.after, hEnabled, Bool.not_true, Bool.false_eq_true, if_false]
  cases e with
  | send =>
    obtain ⟨hPending, hRoom⟩ := enabled_send_iff.mp hEnabled
    obtain ⟨a, rest, hPending⟩ := List.exists_cons_of_ne_nil hPending
    simp only [hPending]
    exact .send hPending hRoom
  | close =>
    obtain ⟨hPending, hOpen⟩ := enabled_close_iff.mp hEnabled
    exact .close hPending hOpen
  | acquire i =>
    obtain ⟨hWorker, hFree⟩ := enabled_acquire_iff.mp hEnabled
    exact .acquire hWorker hFree
  | receive i =>
    obtain ⟨hWorker, hQueue⟩ := enabled_receive_iff.mp hEnabled
    obtain ⟨a, rest, hQueue⟩ := List.exists_cons_of_ne_nil hQueue
    simp only [hQueue]
    exact .receive hWorker hQueue
  | work i =>
    obtain ⟨a, rest, hWorker⟩ := enabled_work_iff.mp hEnabled
    simp only [hWorker]
    cases rest with
    | call c next => exact .call hWorker
    | done r =>
      cases r with
      | some b => exact .deliver hWorker
      | none => exact .crash hWorker
  | leave i =>
    obtain ⟨hWorker, hQueue, hClosed⟩ := enabled_leave_iff.mp hEnabled
    exact .leave hWorker hQueue hClosed

/-- Every rule is a possible step. -/
theorem Move.step {x y : Snapshot α β} (h : Move job x y) : Step job x y := by
  cases h with
  | @send s fs a rest hPending hRoom =>
    have hEnabled : s.enabled .send = true := by simp [hPending, hRoom]
    refine ⟨.send, hEnabled, ?_⟩
    simp [State.after, hEnabled, hPending]
  | @close s fs hPending hOpen =>
    have hEnabled : s.enabled .close = true := by simp [hPending, hOpen]
    refine ⟨.close, hEnabled, ?_⟩
    simp [State.after, hEnabled]
  | @acquire s fs i hWorker hFree =>
    have hEnabled : s.enabled (.acquire i) = true := by simp [hWorker, hFree]
    refine ⟨.acquire i, hEnabled, ?_⟩
    simp [State.after, hEnabled]
  | @receive s fs i a rest hWorker hQueue =>
    have hEnabled : s.enabled (.receive i) = true := by simp [hWorker, hQueue]
    refine ⟨.receive i, hEnabled, ?_⟩
    simp [State.after, hEnabled, hQueue]
  | @call s fs i a c next hWorker =>
    have hEnabled : s.enabled (.work i) = true := by simp [hWorker]
    refine ⟨.work i, hEnabled, ?_⟩
    simp [State.after, hEnabled, hWorker]
  | @deliver s fs i a b hWorker =>
    have hEnabled : s.enabled (.work i) = true := by simp [hWorker]
    refine ⟨.work i, hEnabled, ?_⟩
    simp [State.after, hEnabled, hWorker]
  | @crash s fs i a hWorker =>
    have hEnabled : s.enabled (.work i) = true := by simp [hWorker]
    refine ⟨.work i, hEnabled, ?_⟩
    simp [State.after, hEnabled, hWorker]
  | @leave s fs i hWorker hQueue hClosed =>
    have hEnabled : s.enabled (.leave i) = true := by simp [hWorker, hQueue, hClosed]
    refine ⟨.leave i, hEnabled, ?_⟩
    simp [State.after, hEnabled]

/-- Induction over the reachable snapshots: what holds at the start and is kept by every rule
holds wherever a run can get. -/
theorem Reachable.induct {workers : Nat} {items : List α} {fs : FileSystem}
    {P : Snapshot α β → Prop} (hStart : P (initial workers items, fs))
    (hMove : ∀ x y, Reachable job workers items fs x → P x → Move job x y → P y)
    {x : Snapshot α β} (h : Reachable job workers items fs x) : P x := by
  induction h with
  | refl => exact hStart
  | tail hBefore hStep ih => exact hMove _ _ hBefore ih hStep.move

-- ---------------------------------------------------------------------------
-- The shape of a reachable state
-- ---------------------------------------------------------------------------

@[simp]
theorem setWorker_workers (s : State α β) (i : Nat) (w : Worker α β) :
    (s.setWorker i w).workers = s.workers.set i w := rfl

@[simp]
theorem setWorker_pending (s : State α β) (i : Nat) (w : Worker α β) :
    (s.setWorker i w).pending = s.pending := rfl

/-- What does not depend on the jobs: the crew and the capacity never change, the queue is never
overfull, nothing is left to hand over once the queue is closed, and a worker ends in order only
when the closed queue has run dry. -/
structure Shape (workers : Nat) (s : State α β) : Prop where
  crew     : s.workers.length = max workers 1
  capacity : s.capacity = 2 * max workers 1
  room     : s.queue.length ≤ s.capacity
  closed   : s.closed = true → s.pending = []
  finished : Worker.finished ∈ s.workers → s.closed = true ∧ s.queue = []

theorem shape_initial (workers : Nat) (items : List α) :
    Shape workers (initial workers items : State α β) where
  crew := by simp [initial]
  capacity := rfl
  room := by simp [initial]
  closed := by simp [initial]
  finished := by simp [initial, List.mem_replicate]

/-- A worker that goes on, in whatever state, does not disturb the shape. -/
theorem Shape.setWorker {workers : Nat} {s : State α β} (h : Shape workers s) (i : Nat)
    {w : Worker α β} (hw : w ≠ .finished) : Shape workers (s.setWorker i w) where
  crew := by simpa using h.crew
  capacity := h.capacity
  room := h.room
  closed := h.closed
  finished := fun hMem => by
    rcases List.mem_or_eq_of_mem_set hMem with hOld | hNew
    · exact h.finished hOld
    · exact absurd hNew.symm hw

theorem Shape.move {workers : Nat} {x y : Snapshot α β} (h : Shape workers x.1)
    (hMove : Move job x y) : Shape workers y.1 := by
  cases hMove with
  | send hPending hRoom =>
    -- an open queue: a worker that had finished, or a close, would mean that nothing is pending
    refine ⟨h.crew, h.capacity, ?_, ?_, ?_⟩
    · simp only [List.length_append, List.length_singleton]
      omega
    · intro hClosed
      exact absurd ((h.closed hClosed).symm.trans hPending) (List.cons_ne_nil _ _).symm
    · intro hMem
      exact absurd ((h.closed (h.finished hMem).1).symm.trans hPending)
        (List.cons_ne_nil _ _).symm
  | close hPending hOpen =>
    exact ⟨h.crew, h.capacity, h.room, fun _ => hPending, fun hMem => ⟨rfl, (h.finished hMem).2⟩⟩
  | acquire hWorker hFree => exact h.setWorker _ (by simp)
  | @receive s fs i a rest hWorker hQueue =>
    have hSet := h.setWorker i (w := .busy a (job a)) (by simp)
    refine ⟨hSet.crew, hSet.capacity, ?_, hSet.closed, ?_⟩
    · have := h.room
      simp only [hQueue, List.length_cons] at this
      show rest.length ≤ s.capacity
      omega
    · intro hMem
      exact absurd ((hSet.finished hMem).2.symm.trans hQueue) (List.cons_ne_nil _ _).symm
  | call hWorker => exact h.setWorker _ (by simp)
  | @deliver s fs i a b hWorker =>
    have hSet := h.setWorker i (w := .waiting) (by simp)
    exact ⟨hSet.crew, hSet.capacity, hSet.room, hSet.closed, hSet.finished⟩
  | crash hWorker => exact h.setWorker _ (by simp)
  | leave hWorker hQueue hClosed =>
    exact ⟨by simpa using h.crew, h.capacity, h.room, h.closed, fun _ => ⟨hClosed, hQueue⟩⟩

theorem shape_of_reachable {workers : Nat} {items : List α} {fs : FileSystem}
    {x : Snapshot α β} (h : Reachable job workers items fs x) : Shape workers x.1 :=
  h.induct (P := fun x => Shape workers x.1) (shape_initial workers items)
    fun _ _ _ hShape hMove => hShape.move hMove

/-- There is a worker, and so there is something to wait for. -/
theorem Shape.exists_worker {workers : Nat} {s : State α β} (h : Shape workers s) :
    ∃ w, w ∈ s.workers := by
  have hCrew := h.crew
  exact List.exists_mem_of_length_pos (by omega)

/-- A worker that has ended although something is left to do has broken down: one that ends in
order has seen the queue closed and dry. -/
theorem Shape.isCrashed_of_isGone {workers : Nat} {s : State α β} (h : Shape workers s)
    (hLeft : s.queue ++ s.pending ≠ []) {w : Worker α β} (hMem : w ∈ s.workers)
    (hGone : w.isGone = true) : w.isCrashed = true := by
  cases w with
  | crashed => rfl
  | finished =>
    obtain ⟨hClosed, hQueue⟩ := h.finished hMem
    rw [hQueue, h.closed hClosed] at hLeft
    exact absurd rfl hLeft
  | waiting | holding | busy => cases hGone

/-- What a run answers, and when. -/
theorem returned?_eq_some_iff {s : State α β} {o : Outcome β} :
    s.returned? = some o ↔ s.closed = true ∧ (∀ w ∈ s.workers, w.isGone = true) ∧
      (if s.workers.any Worker.isCrashed then .panicked else .results s.results) = o := by
  rw [State.returned?, Option.ite_none_right_eq_some, Bool.and_eq_true, List.all_eq_true,
    Option.some.injEq, and_assoc]

end LicenseAudit.Pool
