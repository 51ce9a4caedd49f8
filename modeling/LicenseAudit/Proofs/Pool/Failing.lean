import LicenseAudit.Proofs.Pool.Step
import LicenseAudit.Proofs.Program.Refusal

/-!
# Pools on a disk that fails calls

A pool takes a step for each call of its jobs, also for one that fails. A call that is refused does
not get to the disk, so that the disk does not notice such a step; one that stops short is a shorter
call. So a pool comes to what a pool comes to whose jobs meet with the failures themselves, along a
schedule without the unnoticed steps.

* `Worker.exposed`, `State.exposed` — a state whose jobs meet with the failures.

## Results

* `State.exposed_after` — the disk does not notice a step, or it is a step of such a state.
* `exists_run_failing` — a pool on a disk that fails calls is a pool of jobs on such a disk.
-/

namespace LicenseAudit

/-- A call that may fail is answered at once, or is one call whose reply decides. -/
theorem Call.under_cases (c : Call) (fault? : Option Fault) :
    (∃ reply, c.under fault? = pure reply) ∨
      ∃ (d : Call) (f : d.Reply → c.Reply), c.under fault? = f <$> Program.ask d := by
  have hRefused : ∀ cause, (∃ reply, c.under (some (.refused cause)) = pure reply) ∨
      ∃ (d : Call) (f : d.Reply → c.Reply),
        c.under (some (.refused cause)) = f <$> Program.ask d := by
    intro cause
    simp only [under]
    cases c.failure? (Fault.refused cause).cause with
    | some reply => exact Or.inl ⟨reply, rfl⟩
    | none => exact Or.inr ⟨c, id, (id_map _).symm⟩
  cases fault? with
  | none => exact Or.inr ⟨c, id, (id_map _).symm⟩
  | some fault =>
    cases fault with
    | refused cause => exact hRefused cause
    | torn cause size =>
      cases c with
      | write p content =>
        refine Or.inr ⟨.write p (content.take size),
          fun reply => reply.bind fun _ => .error cause, ?_⟩
        rw [map_eq_pure_bind]
        refine bind_congr fun reply => ?_
        cases reply <;> rfl
      | _ => exact hRefused cause

namespace Pool

variable {α β : Type} (faults : Call → Option Fault) (job : α → Program (Option β))

/-- The worker whose job meets with the failures. -/
def Worker.exposed : Worker α β → Worker α β
  | .busy item rest => .busy item (rest.failing faults)
  | w => w

/-- The state whose jobs meet with the failures. -/
def State.exposed (s : State α β) : State α β :=
  { s with workers := s.workers.map (Worker.exposed faults) }

variable {faults}

@[simp]
theorem Worker.isGone_exposed (w : Worker α β) : (w.exposed faults).isGone = w.isGone := by
  cases w <;> rfl

@[simp]
theorem Worker.isHolding_exposed (w : Worker α β) :
    (w.exposed faults).isHolding = w.isHolding := by
  cases w <;> rfl

@[simp]
theorem Worker.isCrashed_exposed (w : Worker α β) :
    (w.exposed faults).isCrashed = w.isCrashed := by
  cases w <;> rfl

-- ---------------------------------------------------------------------------
-- Steps
-- ---------------------------------------------------------------------------

/-- The same steps are possible. -/
theorem State.enabled_exposed (s : State α β) (e : Event) :
    (s.exposed faults).enabled e = s.enabled e := by
  have hHolding : (Worker.isHolding ∘ Worker.exposed faults : Worker α β → Bool) =
      Worker.isHolding :=
    funext Worker.isHolding_exposed
  cases e with
  | send | close => rfl
  | acquire i | receive i | work i | leave i =>
    simp only [enabled, State.exposed, locked, List.getElem?_map, List.any_map, hHolding]
    cases s.workers[i]? with
    | none => rfl
    | some w => cases w <;> rfl

theorem State.exposed_setWorker (s : State α β) (i : Nat) (w : Worker α β) :
    (s.setWorker i w).exposed faults = (s.exposed faults).setWorker i (w.exposed faults) := by
  rw [setWorker, setWorker, State.exposed, State.exposed, List.map_set]

theorem State.setWorker_eq_self {s : State α β} {i : Nat} {w : Worker α β}
    (h : s.workers[i]? = some w) : s.setWorker i w = s := by
  obtain ⟨hBound, rfl⟩ := List.getElem?_eq_some_iff.mp h
  rw [setWorker, List.set_getElem_self]

/-- The worker takes a step of its job, unless the disk does not notice. -/
theorem State.exposed_after_work (s : State α β) {i : Nat} {a : α} {rest : Program (Option β)}
    (hWorker : s.workers[i]? = some (.busy a rest)) :
    (∃ s', (s.after job (.work i)).failing faults = pure s' ∧
        s'.exposed faults = s.exposed faults) ∨
      (s.exposed faults).after (fun a => (job a).failing faults) (.work i) =
        State.exposed faults <$> (s.after job (.work i)).failing faults := by
  have hEnabled : s.enabled (.work i) = true := enabled_work_iff.mpr ⟨a, rest, hWorker⟩
  have hWorker' : (s.exposed faults).workers[i]? = some (.busy a (rest.failing faults)) := by
    rw [State.exposed, List.getElem?_map, hWorker]
    rfl
  simp only [after, enabled_exposed, hEnabled, Bool.not_true, Bool.false_eq_true, if_false,
    hWorker]
  cases rest with
  | done r =>
    right
    rw [hWorker']
    cases r with
    | none => exact congrArg Program.done (exposed_setWorker s i .crashed).symm
    | some b =>
      exact congrArg (fun t : State α β => Program.done { t with results := s.results ++ [b] })
        (exposed_setWorker s i .waiting).symm
  | call c next =>
    have hRest : (Program.call c next).failing faults =
        c.under (faults c) >>= fun reply => (next reply).failing faults := rfl
    rw [hRest] at hWorker'
    simp only [Program.failing_bind, Program.failing_ask]
    obtain ⟨reply, hUnder⟩ | ⟨d, f, hUnder⟩ := c.under_cases (faults c)
    · -- the job goes on by itself
      left
      rw [hUnder, pure_bind] at hWorker' ⊢
      refine ⟨s.setWorker i (.busy a (next reply)), rfl, ?_⟩
      rw [exposed_setWorker]
      exact setWorker_eq_self hWorker'
    · right
      rw [hUnder, bind_map_left] at hWorker'
      have hCall : (Program.ask d >>= fun reply => (next (f reply)).failing faults) =
          .call d fun reply => (next (f reply)).failing faults := rfl
      rw [hWorker', hCall, hUnder, bind_map_left, map_bind]
      exact congrArg (Program.call d) <| funext fun reply =>
        congrArg Program.done (exposed_setWorker s i (.busy a (next (f reply)))).symm

/-- The disk does not notice a step, or it is a step of the state whose jobs meet with the
failures. -/
theorem State.exposed_after (s : State α β) (e : Event) :
    (∃ s', (s.after job e).failing faults = pure s' ∧ s'.exposed faults = s.exposed faults) ∨
      (s.exposed faults).after (fun a => (job a).failing faults) e =
        State.exposed faults <$> (s.after job e).failing faults := by
  by_cases hEnabled : s.enabled e = true
  · cases e with
    | work i =>
      obtain ⟨a, rest, hWorker⟩ := enabled_work_iff.mp hEnabled
      exact s.exposed_after_work job hWorker
    | close =>
      right
      simp only [after, enabled_exposed, hEnabled]
      rfl
    | acquire i =>
      right
      simp only [after, enabled_exposed, hEnabled]
      exact congrArg Program.done (exposed_setWorker s i .holding).symm
    | leave i =>
      right
      simp only [after, enabled_exposed, hEnabled]
      exact congrArg Program.done (exposed_setWorker s i .finished).symm
    | send =>
      right
      obtain ⟨a, rest, hPending⟩ := List.exists_cons_of_ne_nil (enabled_send_iff.mp hEnabled).1
      have hPending' : (s.exposed faults).pending = a :: rest := hPending
      simp only [after, enabled_exposed, hEnabled, hPending, hPending']
      rfl
    | receive i =>
      right
      obtain ⟨a, rest, hQueue⟩ := List.exists_cons_of_ne_nil (enabled_receive_iff.mp hEnabled).2
      have hQueue' : (s.exposed faults).queue = a :: rest := hQueue
      simp only [after, enabled_exposed, hEnabled, hQueue, hQueue']
      exact congrArg (fun t : State α β => Program.done { t with queue := rest })
        (exposed_setWorker s i (.busy a (job a))).symm
  · left
    refine ⟨s, ?_, rfl⟩
    simp [after, hEnabled]

-- ---------------------------------------------------------------------------
-- Runs
-- ---------------------------------------------------------------------------

/-- A pool on a disk that fails calls follows a schedule as the pool whose jobs meet with the
failures follows another one. -/
theorem exists_follow_failing (schedule : List Event) (s : State α β) (fs : FileSystem) :
    ∃ other, (follow (fun a => (job a).failing faults) other (s.exposed faults)).run fs =
      (State.exposed faults <$> (follow job schedule s).failing faults).run fs := by
  induction schedule generalizing s fs with
  | nil => exact ⟨[], rfl⟩
  | cons e rest ih =>
    rcases s.exposed_after job e with ⟨s', hAfter, hSame⟩ | hAfter
    · obtain ⟨other, hFollow⟩ := ih s' fs
      refine ⟨other, ?_⟩
      rw [← hSame, hFollow, follow, Program.failing_bind, hAfter, pure_bind]
    · obtain ⟨other, hFollow⟩ := ih (((s.after job e).failing faults).run fs).1
        (((s.after job e).failing faults).run fs).2
      refine ⟨e :: other, ?_⟩
      rw [follow, follow, Program.failing_bind, hAfter, bind_map_left, map_bind, Program.run_bind,
        Program.run_bind, hFollow]

theorem settle_exposed (ws : List (Worker α β)) :
    settle (ws.map (Worker.exposed faults)) =
      (fun settled => (settled.1, settled.2.map (Worker.exposed faults))) <$>
        (settle ws).failing faults := by
  induction ws with
  | nil => rfl
  | cons w rest ih =>
    cases w with
    | busy item p =>
      simp only [List.map_cons, Worker.exposed, settle, Program.failing_bind, map_bind]
      refine bind_congr fun r => ?_
      cases r <;>
      · simp only [ih, Program.failing_bind, bind_map_left, map_bind]
        rfl
    | waiting | holding | finished | crashed =>
      simp only [List.map_cons, Worker.exposed, settle, ih, Program.failing_bind, bind_map_left,
        map_bind]
      rfl

theorem serve_failing (capacity alive : Nat) (crashed : Bool) (results : List β)
    (items : List α) :
    (serve job capacity alive crashed results items).failing faults =
      serve (fun a => (job a).failing faults) capacity alive crashed results items := by
  induction items generalizing alive crashed results with
  | nil => cases alive <;> rfl
  | cons item rest ih =>
    cases alive with
    | zero => rfl
    | succ alive =>
      simp only [serve, Program.failing_bind]
      refine bind_congr fun r => ?_
      cases r <;> exact ih ..

theorem drain_failing (s : State α β) :
    (drain job s).failing faults =
      drain (fun a => (job a).failing faults) (s.exposed faults) := by
  have hWorkers : (s.exposed faults).workers = s.workers.map (Worker.exposed faults) := rfl
  simp only [drain, hWorkers, settle_exposed, Program.failing_bind, bind_map_left, List.countP_map,
    List.any_map, Function.comp_def, Worker.isGone_exposed, Worker.isCrashed_exposed]
  exact bind_congr fun settled => serve_failing job ..

/-- **A pool on a disk that fails calls is a pool of jobs on such a disk.** It comes to the same
along another schedule. -/
theorem exists_run_failing (faults : Call → Option Fault) (schedule : List Event)
    (workers : Nat) (items : List α) (fs : FileSystem) :
    ∃ other, ((run schedule workers items job).failing faults).run fs =
      (run other workers items fun a => (job a).failing faults).run fs := by
  have hStart : (initial workers items : State α β).exposed faults = initial workers items := by
    simp [State.exposed, initial, Worker.exposed]
  obtain ⟨other, hFollow⟩ := exists_follow_failing job schedule (initial workers items) fs
  rw [hStart] at hFollow
  refine ⟨other, ?_⟩
  rw [run, run, Program.failing_bind, Program.run_bind, Program.run_bind, hFollow, Program.run_map,
    drain_failing]

/-- So is a pool on a disk that refuses calls. -/
theorem exists_run_refusing (refusals : Call → Option IoError) (schedule : List Event)
    (workers : Nat) (items : List α) (fs : FileSystem) :
    ∃ other, ((run schedule workers items job).refusing refusals).run fs =
      (run other workers items fun a => (job a).refusing refusals).run fs := by
  simp only [Program.refusing_eq_failing]
  exact exists_run_failing job _ schedule workers items fs

end Pool

end LicenseAudit
