import LicenseAudit.Proofs.Pool.Progress

/-!
# Complete runs of a pool

`Pool.run` follows a schedule as far as it goes and then finishes without interleaving. Here it
is shown to be a run like any other: what it answers is the answer of a sequence of steps that
ends because the run is over or because it is stalled. Whatever holds in every reachable state
therefore holds of `Pool.run`.

* `State.EndsAs` — the state that a run ends in, by its outcome;
* `work_steps`, `settle_steps`, `serve_steps` — the steps that the three loops of `Pool.run`
  stand for: one job, the jobs that are underway, the items that are left.

## Results

* `run_reaches_end` — `Pool.run` answers what some complete sequence of steps answers.
-/

namespace LicenseAudit.Pool

variable {α β : Type} {job : α → Program (Option β)}

/-- The state that a run with the given outcome ends in. -/
def State.EndsAs (s : State α β) : Outcome β → Prop
  | .stalled => s.Stalled
  | o => s.returned? = some o

theorem Shape.steps {workers : Nat} {x y : Snapshot α β} (h : Shape workers x.1)
    (hSteps : Steps job x y) : Shape workers y.1 := by
  induction hSteps with
  | refl => exact h
  | tail _ hStep ih => exact ih.move hStep.move

theorem Move.steps {x y : Snapshot α β} (h : Move job x y) : Steps job x y :=
  Relation.ReflTransGen.single h.step

variable (job)

-- ---------------------------------------------------------------------------
-- Schedules
-- ---------------------------------------------------------------------------

/-- A schedule is a sequence of steps; an event that is not possible is passed over. -/
theorem follow_steps (schedule : List Event) (s : State α β) (fs : FileSystem) :
    Steps job (s, fs) ((follow job schedule s).run fs) := by
  induction schedule generalizing s fs with
  | nil => exact .refl
  | cons e rest ih =>
    rw [follow, Program.run_bind]
    refine .trans ?_ (ih _ _)
    by_cases hEnabled : s.enabled e = true
    · exact .single ⟨e, hEnabled, rfl⟩
    · have hStay : s.after job e = pure s := by simp [State.after, hEnabled]
      rw [hStay]
      exact .refl

-- ---------------------------------------------------------------------------
-- Jobs that are underway
-- ---------------------------------------------------------------------------

@[simp]
theorem setWorker_setWorker (s : State α β) (i : Nat) (v w : Worker α β) :
    (s.setWorker i v).setWorker i w = s.setWorker i w := by
  simp [State.setWorker]

/-- The worker after the end of its job: it goes on waiting, or it is lost. -/
def Worker.after : Option β → Worker α β
  | some _ => .waiting
  | none => .crashed

@[simp]
theorem job?_after (r : Option β) : (Worker.after r : Worker α β).job? = none := by
  cases r <;> rfl

@[simp]
theorem isGone_after (r : Option β) : (Worker.after r : Worker α β).isGone = r.isNone := by
  cases r <;> rfl

@[simp]
theorem isCrashed_after (r : Option β) :
    (Worker.after r : Worker α β).isCrashed = r.isNone := by
  cases r <;> rfl

/-- The state after the end of the job of one worker. -/
def State.ended (s : State α β) (i : Nat) (r : Option β) : State α β :=
  { s.setWorker i (.after r) with results := s.results ++ r.toList }

/-- A busy worker can bring its job to the end. -/
theorem work_steps {s : State α β} {i : Nat} {a : α} {p : Program (Option β)}
    (hWorker : s.workers[i]? = some (.busy a p)) (fs : FileSystem) :
    Steps job (s, fs) (s.ended i (p.run fs).1, (p.run fs).2) := by
  induction p generalizing s fs with
  | done r =>
    cases r with
    | some b => exact (Move.deliver hWorker).steps
    | none =>
      have hSame : s.ended i none = s.setWorker i .crashed := by
        rw [State.ended, Option.toList_none, List.append_nil]
        rfl
      show Steps job (s, fs) (s.ended i none, fs)
      rw [hSame]
      exact (Move.crash hWorker).steps
  | call c next ih =>
    have hNext : (s.setWorker i (.busy a (next (fs.perform c).1))).workers[i]? =
        some (.busy a (next (fs.perform c).1)) := by
      rw [setWorker_workers, List.getElem?_set_self]
      exact (List.getElem?_eq_some_iff.mp hWorker).1
    have hRest := ih (fs.perform c).1 hNext (fs.perform c).2
    refine (Move.call hWorker).steps.trans ?_
    show Steps job _ (s.ended i ((next (fs.perform c).1).run (fs.perform c).2).1, _)
    rw [State.ended, setWorker_setWorker] at hRest
    exact hRest

theorem settle_busy (a : α) (p : Program (Option β)) (rest : List (Worker α β))
    (fs : FileSystem) :
    (settle (.busy a p :: rest)).run fs =
      (((p.run fs).1.toList ++ ((settle rest).run (p.run fs).2).1.1,
        .after (p.run fs).1 :: ((settle rest).run (p.run fs).2).1.2),
        ((settle rest).run (p.run fs).2).2) := by
  rw [settle, Program.run_bind]
  cases (p.run fs).1 <;> simp [Worker.after]

theorem settle_idle {w : Worker α β} (hIdle : w.job? = none) (rest : List (Worker α β))
    (fs : FileSystem) :
    (settle (w :: rest)).run fs =
      ((((settle rest).run fs).1.1, w :: ((settle rest).run fs).1.2),
        ((settle rest).run fs).2) := by
  cases w with
  | busy a p => cases hIdle
  | waiting | holding | finished | crashed => simp [settle]

/-- Every busy worker can bring its job to the end, in the order of the workers. -/
theorem settle_steps {s : State α β} (before rest : List (Worker α β))
    (hWorkers : s.workers = before ++ rest) (fs : FileSystem) :
    Steps job (s, fs)
      ({ s with
          workers := before ++ ((settle rest).run fs).1.2
          results := s.results ++ ((settle rest).run fs).1.1 }, ((settle rest).run fs).2) ∧
    ∀ w ∈ ((settle rest).run fs).1.2, w.job? = none := by
  induction rest generalizing s before fs with
  | nil =>
    have hSame : { s with workers := before ++ [], results := s.results ++ [] } = s := by
      rw [← hWorkers, List.append_nil]
    simp only [settle, Program.run_pure]
    rw [hSame]
    exact ⟨.refl, by simp⟩
  | cons w more ih =>
    have hAt : s.workers[before.length]? = some w := by simp [hWorkers]
    -- once the first of them has no job, the others follow
    have hOthers : ∀ (t : State α β) (v : Worker α β) (fs' : FileSystem),
        t.workers = before ++ v :: more → v.job? = none →
        Steps job (t, fs')
          ({ t with
              workers := before ++ v :: ((settle more).run fs').1.2
              results := t.results ++ ((settle more).run fs').1.1 },
            ((settle more).run fs').2) ∧
        ∀ u ∈ v :: ((settle more).run fs').1.2, u.job? = none := by
      intro t v fs' hSplit hNone
      rw [← List.singleton_append, ← List.append_assoc] at hSplit
      obtain ⟨hSteps, hRest⟩ := ih _ hSplit fs'
      rw [List.append_assoc] at hSteps
      refine ⟨hSteps, fun u hu => ?_⟩
      rcases List.mem_cons.mp hu with rfl | hu
      · exact hNone
      · exact hRest u hu
    cases w with
    | busy a p =>
      have hWork := work_steps job hAt fs
      obtain ⟨hSteps, hRest⟩ := hOthers (s.ended before.length (p.run fs).1)
        (.after (p.run fs).1) (p.run fs).2 (by simp [State.ended, hWorkers]) (job?_after _)
      rw [settle_busy, ← List.append_assoc]
      exact ⟨hWork.trans hSteps, hRest⟩
    | waiting | holding | finished | crashed =>
      rw [settle_idle rfl]
      exact hOthers s _ fs hWorkers rfl

-- ---------------------------------------------------------------------------
-- Workers and the lock
-- ---------------------------------------------------------------------------

/-- How many workers have not ended. -/
def State.alive (s : State α β) : Nat := s.workers.countP fun w => !w.isGone

theorem alive_eq_zero_iff {s : State α β} :
    s.alive = 0 ↔ ∀ w ∈ s.workers, w.isGone = true := by
  simp [State.alive]

/-- Where no job is underway and some worker has not ended, one can hold the lock. -/
theorem exists_holder {s : State α β} (fs : FileSystem)
    (hIdle : ∀ w ∈ s.workers, w.job? = none) (hAlive : 0 < s.alive) :
    ∃ (i : Nat) (w : Worker α β), s.workers[i]? = some w ∧ w.isGone = false ∧
      w.isCrashed = false ∧ Steps job (s, fs) (s.setWorker i .holding, fs) := by
  by_cases hHolder : ∃ i : Nat, s.workers[i]? = some .holding
  · obtain ⟨i, hWorker⟩ := hHolder
    have hSame : s.setWorker i .holding = s := by
      obtain ⟨hLt, hAt⟩ := List.getElem?_eq_some_iff.mp hWorker
      have hSet : s.workers.set i .holding = s.workers := by
        rw [← hAt]
        exact List.set_getElem_self hLt
      rw [State.setWorker, hSet]
    refine ⟨i, .holding, hWorker, rfl, rfl, ?_⟩
    rw [hSame]
  · have hFree : s.locked = false := by
      rw [State.locked, List.any_eq_false]
      intro w hMem hHolding
      obtain ⟨i, hWorker⟩ := List.mem_iff_getElem?.mp hMem
      cases w <;> simp [Worker.isHolding] at hHolding
      exact hHolder ⟨i, hWorker⟩
    obtain ⟨w, hMem, hGone⟩ := List.countP_pos_iff.mp hAlive
    obtain ⟨i, hWorker⟩ := List.mem_iff_getElem?.mp hMem
    have hJob := hIdle w hMem
    cases w with
    | waiting => exact ⟨i, .waiting, hWorker, rfl, rfl, (Move.acquire hWorker hFree).steps⟩
    | holding => exact absurd ⟨i, hWorker⟩ hHolder
    | busy a p => cases hJob
    | finished | crashed => cases hGone

/-- Whether some worker has broken down, after one that had not is replaced. -/
theorem any_crashed_set {s : State α β} {i : Nat} {w : Worker α β}
    (hWorker : s.workers[i]? = some w) (hOld : w.isCrashed = false) (w' : Worker α β) :
    (s.workers.set i w').any Worker.isCrashed =
      (s.workers.any Worker.isCrashed || w'.isCrashed) := by
  have hCount := countP_set hWorker Worker.isCrashed w'
  rw [Bool.eq_iff_iff, Bool.or_eq_true, List.any_eq_true, List.any_eq_true,
    ← List.countP_pos_iff, ← List.countP_pos_iff]
  cases hNew : w'.isCrashed <;> simp_all

/-- A worker that has not ended is one fewer to wait for once it does. -/
theorem alive_setWorker {s : State α β} {i : Nat} {w : Worker α β}
    (hWorker : s.workers[i]? = some w) (hOld : w.isGone = false) (w' : Worker α β) :
    (s.setWorker i w').alive + 1 = s.alive + if w'.isGone then 0 else 1 := by
  have hCount := countP_set hWorker (fun w => !w.isGone) w'
  simp only [hOld, Bool.not_false, if_true] at hCount
  cases hNew : w'.isGone <;> simpa [State.alive, hNew] using hCount

theorem idle_setWorker {s : State α β} {i : Nat} {w : Worker α β}
    (hIdle : ∀ v ∈ s.workers, v.job? = none) (hNew : w.job? = none) :
    ∀ v ∈ (s.setWorker i w).workers, v.job? = none := by
  intro v hMem
  rcases List.mem_or_eq_of_mem_set hMem with hOld | rfl
  · exact hIdle v hOld
  · exact hNew

-- ---------------------------------------------------------------------------
-- Items that are left
-- ---------------------------------------------------------------------------

/-- The producer can hand over as many items as the queue has room for. -/
theorem send_steps {s : State α β} {sent rest : List α} (hPending : s.pending = sent ++ rest)
    (hRoom : s.queue.length + sent.length ≤ s.capacity) (fs : FileSystem) :
    Steps job (s, fs) ({ s with pending := rest, queue := s.queue ++ sent }, fs) := by
  induction sent generalizing s with
  | nil =>
    have hSame : { s with pending := rest, queue := s.queue ++ [] } = s := by
      rw [List.append_nil, ← List.nil_append rest, ← hPending]
    rw [hSame]
  | cons a more ih =>
    rw [List.length_cons] at hRoom
    have hFirst : Move job (s, fs)
        ({ s with pending := more ++ rest, queue := s.queue ++ [a] }, fs) :=
      .send hPending (by omega)
    refine hFirst.steps.trans ?_
    have hRest := ih (s := { s with pending := more ++ rest, queue := s.queue ++ [a] }) rfl (by
      simp only [List.length_append, List.length_singleton]
      omega)
    simpa using hRest

/-- Once the queue is closed and dry, every worker without a job can end in order. -/
theorem leave_steps {s : State α β} (hClosed : s.closed = true) (hQueue : s.queue = [])
    (hIdle : ∀ w ∈ s.workers, w.job? = none) (fs : FileSystem) :
    ∃ s', Steps job (s, fs) (s', fs) ∧ s'.closed = true ∧ s'.alive = 0 ∧
      s'.results = s.results ∧
      s'.workers.any Worker.isCrashed = s.workers.any Worker.isCrashed := by
  induction hCount : s.alive generalizing s with
  | zero => exact ⟨s, .refl, hClosed, hCount, rfl, rfl⟩
  | succ n ih =>
    obtain ⟨i, w, hWorker, hGone, hSound, hHold⟩ :=
      exists_holder job fs hIdle (by omega)
    have hHolder : (s.setWorker i .holding).workers[i]? = some .holding := by
      rw [setWorker_workers, List.getElem?_set_self]
      exact (List.getElem?_eq_some_iff.mp hWorker).1
    have hLeave : Move job (s.setWorker i .holding, fs) (s.setWorker i .finished, fs) := by
      have hMove : Move job (s.setWorker i .holding, fs)
          ((s.setWorker i .holding).setWorker i .finished, fs) := .leave hHolder hQueue hClosed
      rwa [setWorker_setWorker] at hMove
    have hAlive := alive_setWorker hWorker hGone .finished
    simp only [Worker.isGone, if_true] at hAlive
    obtain ⟨s', hSteps, hDone, hNone, hResults, hCrashed⟩ :=
      ih (s := s.setWorker i .finished) hClosed hQueue (idle_setWorker hIdle rfl) (by omega)
    refine ⟨s', hHold.trans (hLeave.steps.trans hSteps), hDone, hNone, hResults, ?_⟩
    rw [hCrashed, setWorker_workers, any_crashed_set hWorker hSound]
    simp [Worker.isCrashed]

/-- A state with nothing left to do comes to its end: the results, or the news that some worker
has broken down. -/
theorem close_steps {s : State α β} (hPending : s.pending = []) (hQueue : s.queue = [])
    (hIdle : ∀ w ∈ s.workers, w.job? = none) (fs : FileSystem) :
    ∃ s', Steps job (s, fs) (s', fs) ∧
      s'.EndsAs (if s.workers.any Worker.isCrashed then .panicked else .results s.results) := by
  obtain ⟨s', hSteps, hClosed, hNone, hResults, hCrashed⟩ :=
    leave_steps job (s := { s with closed := true }) rfl hQueue hIdle fs
  have hClose : Steps job (s, fs) ({ s with closed := true }, fs) := by
    cases hOpen : s.closed with
    | false => exact (Move.close hPending hOpen).steps
    | true =>
      have hSame : { s with closed := true } = s := by rw [← hOpen]
      rw [hSame]
  have hReturned : s'.returned? =
      some (if s.workers.any Worker.isCrashed then .panicked else .results s.results) := by
    refine returned?_eq_some_iff.mpr ⟨hClosed, alive_eq_zero_iff.mp hNone, ?_⟩
    rw [hCrashed, hResults]
  refine ⟨s', hClose.trans hSteps, ?_⟩
  by_cases hAny : s.workers.any Worker.isCrashed = true
  · rw [if_pos hAny] at hReturned ⊢
    exact hReturned
  · rw [if_neg hAny] at hReturned ⊢
    exact hReturned

/-- With no worker left the producer fills the queue. Either that is all, and the run is over,
or it waits for room that nobody will make. -/
theorem abandoned_steps {workers : Nat} {s : State α β} (hShape : Shape workers s)
    (hNone : s.alive = 0) (hLeft : s.queue ++ s.pending ≠ []) (fs : FileSystem) :
    ∃ s', Steps job (s, fs) (s', fs) ∧
      s'.EndsAs (if (s.queue ++ s.pending).length ≤ s.capacity then .panicked else .stalled) := by
  have hGone := alive_eq_zero_iff.mp hNone
  have hCrashed : ∀ w ∈ s.workers, w.isCrashed = true := fun w hMem =>
    hShape.isCrashed_of_isGone hLeft hMem (hGone w hMem)
  by_cases hFits : (s.queue ++ s.pending).length ≤ s.capacity
  · rw [if_pos hFits]
    rw [List.length_append] at hFits
    have hSend := send_steps job (List.append_nil s.pending).symm hFits fs
    have hSome : s.workers.any Worker.isCrashed = true := by
      obtain ⟨w, hMem⟩ := hShape.exists_worker
      exact List.any_eq_true.mpr ⟨w, hMem, hCrashed w hMem⟩
    cases hOpen : s.closed with
    | false =>
      have hClose : Move job ({ s with pending := [], queue := s.queue ++ s.pending }, fs)
          ({ s with pending := [], queue := s.queue ++ s.pending, closed := true }, fs) :=
        .close rfl hOpen
      exact ⟨_, hSend.trans hClose.steps,
        returned?_eq_some_iff.mpr ⟨rfl, hGone, if_pos hSome⟩⟩
    | true => exact ⟨_, hSend, returned?_eq_some_iff.mpr ⟨hOpen, hGone, if_pos hSome⟩⟩
  · rw [if_neg hFits]
    rw [List.length_append] at hFits
    have hRoom := hShape.room
    have hSend := send_steps job
      (List.take_append_drop (s.capacity - s.queue.length) s.pending).symm (by
        rw [List.length_take]
        omega) fs
    refine ⟨_, hSend, hCrashed, ?_, ?_⟩
    · simp only [List.length_append, List.length_take]
      omega
    · show s.pending.drop _ ≠ []
      rw [Ne, List.drop_eq_nil_iff]
      omega

/-- Where no job is underway and some worker is left, the next item can be taken in and its job
brought to the end. -/
theorem exists_served {workers : Nat} {s : State α β} {a : α} {rest : List α}
    (hShape : Shape workers s) (hIdle : ∀ w ∈ s.workers, w.job? = none)
    (hItems : s.queue ++ s.pending = a :: rest) (hAlive : 0 < s.alive) (fs : FileSystem) :
    ∃ s' : State α β, Steps job (s, fs) (s', ((job a).run fs).2) ∧
      s'.queue ++ s'.pending = rest ∧ s'.capacity = s.capacity ∧
      (∀ w ∈ s'.workers, w.job? = none) ∧
      s'.results = s.results ++ ((job a).run fs).1.toList ∧
      s'.alive + (if ((job a).run fs).1.isNone then 1 else 0) = s.alive ∧
      s'.workers.any Worker.isCrashed =
        (s.workers.any Worker.isCrashed || ((job a).run fs).1.isNone) := by
  -- first the item must be in the queue
  obtain ⟨queue, pending, hSend, hQueue⟩ : ∃ queue pending,
      Steps job (s, fs) ({ s with queue := a :: queue, pending := pending }, fs) ∧
        queue ++ pending = rest := by
    cases hQueue : s.queue with
    | cons b more =>
      rw [hQueue, List.cons_append, List.cons.injEq] at hItems
      obtain ⟨rfl, hItems⟩ := hItems
      refine ⟨more, s.pending, ?_, hItems⟩
      rw [← hQueue]
    | nil =>
      rw [hQueue, List.nil_append] at hItems
      have hCapacity := hShape.capacity
      have hSend : Move job (s, fs) ({ s with pending := rest, queue := s.queue ++ [a] }, fs) :=
        .send hItems (by rw [hQueue, List.length_nil]; omega)
      rw [hQueue] at hSend
      exact ⟨[], rest, hSend.steps, rfl⟩
  obtain ⟨i, w, hWorker, hGone, hSound, hHold⟩ :=
    exists_holder job (s := { s with queue := a :: queue, pending := pending }) fs hIdle hAlive
  have hLt := (List.getElem?_eq_some_iff.mp hWorker).1
  have hReceive : Move job
      ({ s with queue := a :: queue, pending := pending, workers := s.workers.set i .holding }, fs)
      ({ s with
          queue := queue, pending := pending,
          workers := (s.workers.set i .holding).set i (.busy a (job a)) }, fs) :=
    .receive (i := i) (by rw [List.getElem?_set_self hLt]) rfl
  rw [List.set_set] at hReceive
  have hWork := work_steps job
    (s := { s with
      queue := queue, pending := pending, workers := s.workers.set i (.busy a (job a)) })
    (i := i) (by rw [List.getElem?_set_self hLt]) fs
  refine ⟨_, hSend.trans (hHold.trans (hReceive.steps.trans hWork)), ?_⟩
  have hAliveSet := alive_setWorker hWorker hGone (.after ((job a).run fs).1)
  have hIdleSet := idle_setWorker (i := i) hIdle (job?_after ((job a).run fs).1)
  refine ⟨hQueue, rfl, ?_, rfl, ?_, ?_⟩
  · simpa [State.ended, State.setWorker] using hIdleSet
  · rw [isGone_after] at hAliveSet
    simp only [State.alive, State.ended, setWorker_workers, List.set_set] at hAliveSet ⊢
    split at hAliveSet
    case isTrue hLost =>
      rw [if_pos hLost]
      exact hAliveSet
    case isFalse hSaved =>
      rw [if_neg hSaved]
      exact Nat.add_right_cancel hAliveSet
  · have hCrashedSet := any_crashed_set hWorker hSound (.after ((job a).run fs).1)
    rw [isCrashed_after] at hCrashedSet
    simpa [State.ended, State.setWorker] using hCrashedSet

/-- The items that are left can be served one after the other, up to the end of the run. -/
theorem serve_steps {workers : Nat} {s : State α β} {items : List α} (hShape : Shape workers s)
    (hIdle : ∀ w ∈ s.workers, w.job? = none) (hItems : s.queue ++ s.pending = items)
    (fs : FileSystem) :
    ∃ s' fs', Steps job (s, fs) (s', fs') ∧
      ((serve job s.capacity s.alive (s.workers.any Worker.isCrashed) s.results items).run fs).2 =
        fs' ∧
      s'.EndsAs ((serve job s.capacity s.alive (s.workers.any Worker.isCrashed) s.results
        items).run fs).1 := by
  induction items generalizing s fs with
  | nil =>
    obtain ⟨hQueue, hPending⟩ := List.append_eq_nil_iff.mp hItems
    obtain ⟨s', hSteps, hEnd⟩ := close_steps job hPending hQueue hIdle fs
    exact ⟨s', fs, hSteps, by simp [serve], by simpa [serve] using hEnd⟩
  | cons a rest ih =>
    cases hAlive : s.alive with
    | zero =>
      obtain ⟨s', hSteps, hEnd⟩ :=
        abandoned_steps job hShape hAlive (by rw [hItems]; exact List.cons_ne_nil _ _) fs
      rw [hItems] at hEnd
      exact ⟨s', fs, hSteps, by simp [serve], by simpa [serve] using hEnd⟩
    | succ n =>
      obtain ⟨s₁, hSteps, hLeft, hCapacity, hIdle₁, hResults, hAlive₁, hCrashed⟩ :=
        exists_served job hShape hIdle hItems (by omega) fs
      obtain ⟨s', fs', hRest, hFiles, hEnd⟩ :=
        ih (hShape.steps hSteps) hIdle₁ hLeft ((job a).run fs).2
      refine ⟨s', fs', hSteps.trans hRest, ?_⟩
      rw [hCapacity, hResults, hCrashed] at hFiles hEnd
      simp only [serve, Program.run_bind]
      cases hOutcome : ((job a).run fs).1 with
      | some b =>
        simp only [hOutcome, Option.isNone_some, Bool.false_eq_true, if_false] at hAlive₁
        have hSame : s₁.alive = n + 1 := by omega
        rw [hOutcome, hSame] at hFiles hEnd
        exact ⟨by simpa using hFiles, by simpa using hEnd⟩
      | none =>
        simp only [hOutcome, Option.isNone_none, if_true] at hAlive₁
        have hFewer : s₁.alive = n := by omega
        rw [hOutcome, hFewer] at hFiles hEnd
        exact ⟨by simpa using hFiles, by simpa using hEnd⟩

-- ---------------------------------------------------------------------------
-- The whole run
-- ---------------------------------------------------------------------------

/-- **Complete runs.** What a pool answers, under any schedule, is what a complete sequence of
steps answers: one that ends because the run is over or because it is stalled. -/
theorem run_reaches_end (schedule : List Event) (workers : Nat) (items : List α)
    (fs : FileSystem) :
    ∃ s' fs', Reachable job workers items fs (s', fs') ∧
      ((run schedule workers items job).run fs).2 = fs' ∧
      s'.EndsAs ((run schedule workers items job).run fs).1 := by
  have hFollow := follow_steps job schedule (initial workers items) fs
  rw [run, Program.run_bind]
  generalize (follow job schedule (initial workers items)).run fs = x at hFollow ⊢
  obtain ⟨s, fs₁⟩ := x
  have hShape : Shape workers s := shape_of_reachable hFollow
  obtain ⟨hSettle, hIdle⟩ := settle_steps job [] s.workers rfl fs₁
  simp only [drain, Program.run_bind]
  generalize (settle s.workers).run fs₁ = y at hSettle hIdle ⊢
  obtain ⟨⟨found, crew⟩, fs₂⟩ := y
  obtain ⟨s', fs', hServe, hFiles, hEnd⟩ :=
    serve_steps job (hShape.steps hSettle) hIdle rfl fs₂
  exact ⟨s', fs', hFollow.trans (hSettle.trans hServe), hFiles, hEnd⟩

end LicenseAudit.Pool
