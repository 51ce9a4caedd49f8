import LicenseAudit.Proofs.Pool.Ledger

/-!
# When a pool gets stuck

A pool can wait for ever in one way only: every worker has broken down, the queue is full and
the producer still has an item to hand over. Nobody is left to make room, and the queue does
not refuse items, because it belongs to the run and not to the workers.

* `State.Stalled` — that state;
* `leftAfter` — the items behind the last one that a given number of break-downs uses up;
* `Intake` — the invariant that ties what has been taken out of the queue to the workers that
  are lost: whoever takes the last item that can be taken is the last worker.

## Results

* `enabled_or_returned_iff` — a reachable state is over or has a possible step exactly when it
  is not stalled.
* `lt_leftAfter_of_stalled`, `leftAfter_le_of_returned` — a stalled run leaves more items behind
  the break-downs than the queue can hold, a run that is over does not.
-/

namespace LicenseAudit.Pool

variable {α β : Type} {job : α → Program (Option β)}

-- ---------------------------------------------------------------------------
-- The one stuck state
-- ---------------------------------------------------------------------------

/-- Every worker has broken down, the queue is full, and the producer has another item. -/
structure State.Stalled (s : State α β) : Prop where
  crashed : ∀ w ∈ s.workers, w.isCrashed = true
  full    : s.queue.length = s.capacity
  pending : s.pending ≠ []

/-- A worker that has not ended has a possible step, or another one has, or the producer. -/
theorem exists_enabled_of_alive {workers : Nat} {s : State α β} (hShape : Shape workers s)
    {w : Worker α β} (hMem : w ∈ s.workers) (hAlive : w.isGone = false) :
    ∃ e : Event, s.enabled e = true := by
  obtain ⟨i, hWorker⟩ := List.mem_iff_getElem?.mp hMem
  -- a holder of the lock receives, or leaves, or the producer goes on
  have hHolding : ∀ j : Nat, s.workers[j]? = some .holding → ∃ e : Event, s.enabled e = true := by
    intro j hHolder
    cases hQueue : s.queue with
    | cons a rest => exact ⟨.receive j, enabled_receive_iff.mpr ⟨hHolder, by simp [hQueue]⟩⟩
    | nil =>
      cases hClosed : s.closed with
      | true => exact ⟨.leave j, enabled_leave_iff.mpr ⟨hHolder, hQueue, hClosed⟩⟩
      | false =>
        cases hPending : s.pending with
        | nil => exact ⟨.close, enabled_close_iff.mpr ⟨hPending, hClosed⟩⟩
        | cons a rest =>
          have hCapacity := hShape.capacity
          refine ⟨.send, enabled_send_iff.mpr ⟨by simp [hPending], ?_⟩⟩
          rw [hQueue, List.length_nil]
          omega
  cases w with
  | waiting =>
    by_cases hLocked : s.locked = true
    · obtain ⟨v, hHolder, hv⟩ := List.any_eq_true.mp hLocked
      obtain ⟨j, hHolder⟩ := List.mem_iff_getElem?.mp hHolder
      cases v <;> simp [Worker.isHolding] at hv
      exact hHolding j hHolder
    · exact ⟨.acquire i, enabled_acquire_iff.mpr ⟨hWorker, eq_false_of_ne_true hLocked⟩⟩
  | holding => exact hHolding i hWorker
  | busy a rest => exact ⟨.work i, enabled_work_iff.mpr ⟨a, rest, hWorker⟩⟩
  | finished => cases hAlive
  | crashed => cases hAlive

/-- Where all workers have ended, the run is over, or the producer can go on, or the run is
stalled. -/
theorem returned_or_enabled_or_stalled {workers : Nat} {s : State α β}
    (hShape : Shape workers s) (hGone : ∀ w ∈ s.workers, w.isGone = true) :
    s.returned?.isSome = true ∨ (∃ e : Event, s.enabled e = true) ∨ s.Stalled := by
  cases hPending : s.pending with
  | nil =>
    cases hClosed : s.closed with
    | true =>
      have hReturned := returned?_eq_some_iff.mpr ⟨hClosed, hGone, rfl⟩
      exact Or.inl (Option.isSome_iff_exists.mpr ⟨_, hReturned⟩)
    | false => exact Or.inr (Or.inl ⟨.close, enabled_close_iff.mpr ⟨hPending, hClosed⟩⟩)
  | cons a rest =>
    right
    by_cases hRoom : s.queue.length < s.capacity
    · exact Or.inl ⟨.send, enabled_send_iff.mpr ⟨by simp [hPending], hRoom⟩⟩
    · refine Or.inr ⟨?_, ?_, by simp [hPending]⟩
      · exact fun w hMem => hShape.isCrashed_of_isGone (by simp [hPending]) hMem (hGone w hMem)
      · have := hShape.room
        omega

/-- A stalled state is not over and has no possible step. -/
theorem State.Stalled.stuck {workers : Nat} {s : State α β} (h : s.Stalled)
    (hShape : Shape workers s) : s.returned? = none ∧ ∀ e : Event, s.enabled e = false := by
  have hOpen : s.closed = false := by
    cases hClosed : s.closed with
    | false => rfl
    | true => exact absurd (hShape.closed hClosed) h.pending
  have hNone : ∀ (i : Nat) (w : Worker α β), s.workers[i]? = some w → w = .crashed := by
    intro i w hWorker
    have hCrashed := h.crashed w (List.mem_of_getElem? hWorker)
    cases w <;> simp_all [Worker.isCrashed]
  refine ⟨by simp [State.returned?, hOpen], ?_⟩
  intro e
  refine Bool.eq_false_iff.mpr fun hEnabled => ?_
  cases e with
  | send =>
    have hRoom := (enabled_send_iff.mp hEnabled).2
    rw [h.full] at hRoom
    exact Nat.lt_irrefl _ hRoom
  | close => exact h.pending (enabled_close_iff.mp hEnabled).1
  | acquire i => cases hNone i _ (enabled_acquire_iff.mp hEnabled).1
  | receive i => cases hNone i _ (enabled_receive_iff.mp hEnabled).1
  | work i =>
    obtain ⟨a, rest, hWorker⟩ := enabled_work_iff.mp hEnabled
    cases hNone i _ hWorker
  | leave i => cases hNone i _ (enabled_leave_iff.mp hEnabled).1

/-- **The only way to get stuck.** A state that a run can reach is over or has a possible step
exactly when it is not stalled. -/
theorem enabled_or_returned_iff {workers : Nat} {s : State α β} (hShape : Shape workers s) :
    (s.returned?.isSome = true ∨ ∃ e : Event, s.enabled e = true) ↔ ¬ s.Stalled := by
  constructor
  · rintro (hReturned | ⟨e, hEnabled⟩) hStalled
    · simp [(hStalled.stuck hShape).1] at hReturned
    · simp [(hStalled.stuck hShape).2 e] at hEnabled
  · intro hMoving
    by_cases hGone : ∀ w ∈ s.workers, w.isGone = true
    · rcases returned_or_enabled_or_stalled hShape hGone with hReturned | hEnabled | hStalled
      · exact Or.inl hReturned
      · exact Or.inr hEnabled
      · exact absurd hStalled hMoving
    · push Not at hGone
      obtain ⟨w, hMem, hAlive⟩ := hGone
      exact Or.inr (exists_enabled_of_alive hShape hMem (by simpa using hAlive))

-- ---------------------------------------------------------------------------
-- What the break-downs leave over
-- ---------------------------------------------------------------------------

/-- The items behind the one that is the `n`-th to break down; none if fewer break down. -/
def leftAfter (crashes : α → Bool) : Nat → List α → List α
  | 0, items => items
  | _ + 1, [] => []
  | n + 1, a :: rest =>
    if crashes a then leftAfter crashes n rest else leftAfter crashes (n + 1) rest

/-- Nothing is left where there are not enough break-downs. -/
theorem leftAfter_eq_nil {crashes : α → Bool} {n : Nat} {items : List α}
    (h : items.countP crashes < n) : leftAfter crashes n items = [] := by
  induction items generalizing n with
  | nil =>
    cases n with
    | zero => cases h
    | succ n => rfl
  | cons a rest ih =>
    cases n with
    | zero => cases h
    | succ n =>
      rw [List.countP_cons] at h
      by_cases hCrash : crashes a = true
      · simp only [hCrash, if_true] at h
        simp only [leftAfter, hCrash, if_true]
        exact ih (by omega)
      · simp only [hCrash] at h
        simp only [leftAfter, hCrash]
        exact ih (by simpa using h)

/-- What stands behind items of which exactly the last is the `n`-th break-down is left. -/
theorem leftAfter_append {crashes : α → Bool} {n : Nat} {taken rest : List α}
    (hCount : taken.countP crashes = n)
    (hBelow : taken ≠ [] → taken.dropLast.countP crashes < n) :
    leftAfter crashes n (taken ++ rest) = rest := by
  induction taken generalizing n with
  | nil =>
    rw [List.countP_nil] at hCount
    subst hCount
    rw [List.nil_append, leftAfter]
  | cons a more ih =>
    obtain ⟨m, rfl⟩ : ∃ m, n = m + 1 := ⟨n - 1, by have := hBelow (by simp); omega⟩
    rw [List.countP_cons] at hCount
    cases more with
    | nil =>
      -- a single item, which must be the first and only break-down
      by_cases hCrash : crashes a = true
      · have hm : m = 0 := by simpa [hCrash] using hCount.symm
        subst hm
        simp [leftAfter, hCrash]
      · simp [hCrash] at hCount
    | cons b others =>
      have hDrop := hBelow (by simp)
      rw [List.dropLast_cons_cons, List.countP_cons] at hDrop
      by_cases hCrash : crashes a = true
      · simp only [hCrash, if_true] at hCount hDrop
        simp only [List.cons_append, leftAfter, hCrash, if_true]
        exact ih (by omega) fun _ => by omega
      · simp only [hCrash] at hCount hDrop
        rw [List.cons_append, leftAfter, if_neg hCrash]
        exact ih (by simpa using hCount) fun _ => by simpa using hDrop

-- ---------------------------------------------------------------------------
-- What the workers have taken in
-- ---------------------------------------------------------------------------

/-- Whether the worker has broken down or is going to. -/
def Worker.isDoomed (f : α → Option β) : Worker α β → Bool
  | crashed => true
  | busy a _ => (f a).isNone
  | _ => false

/-- What has been taken out of the queue, in order: one worker is doomed for each item that
breaks down, and until the last item was taken some worker was not. -/
structure Intake (f : α → Option β) (items : List α) (s : State α β) (taken : List α) :
    Prop where
  order  : items = taken ++ s.queue ++ s.pending
  doomed : taken.countP (fun a => (f a).isNone) = s.workers.countP (Worker.isDoomed f)
  below  : taken ≠ [] →
    taken.dropLast.countP (fun a => (f a).isNone) < s.workers.length

/-- A worker that goes on without taking an item in, and is neither more nor less doomed than
before, leaves the intake alone. -/
theorem Intake.setWorker {f : α → Option β} {items taken : List α} {s : State α β} {i : Nat}
    {w w' : Worker α β} (h : Intake f items s taken) (hWorker : s.workers[i]? = some w)
    (hDoom : w'.isDoomed f = w.isDoomed f) : Intake f items (s.setWorker i w') taken where
  order := h.order
  doomed := by
    have hCount := countP_set hWorker (Worker.isDoomed f) w'
    rw [hDoom] at hCount
    rw [h.doomed, setWorker_workers]
    omega
  below := fun hTaken => by simpa using h.below hTaken

theorem Intake.move {f : α → Option β} {items taken : List α} {x y : Snapshot α β}
    (hYields : ∀ e ∈ x.1.underway job, e.2.Yields (f e.1))
    (h : Intake f items x.1 taken) (hMove : Move job x y) :
    ∃ taken', Intake f items y.1 taken' := by
  -- the rest of a busy worker's job ends the way the item says
  have hBusy : ∀ {i : Nat} {a : α} {rest : Program (Option β)},
      x.1.workers[i]? = some (.busy a rest) → rest.Yields (f a) := by
    intro i a rest hWorker
    refine hYields (a, rest) (List.mem_append_left _ (List.mem_filterMap.mpr ?_))
    exact ⟨.busy a rest, List.mem_of_getElem? hWorker, rfl⟩
  cases hMove with
  | send hPending hRoom =>
    refine ⟨taken, ?_, h.doomed, h.below⟩
    have hOrder := h.order
    simp only [hPending] at hOrder
    simpa using hOrder
  | close hPending hOpen => exact ⟨taken, h.order, h.doomed, h.below⟩
  | acquire hWorker hFree => exact ⟨taken, h.setWorker hWorker rfl⟩
  | @receive s fs i a rest hWorker hQueue =>
    have hDoomed := countP_set hWorker (Worker.isDoomed f) (.busy a (job a))
    -- were the receiver lost as well, there would still be no more lost workers than workers
    have hOther := countP_set hWorker (Worker.isDoomed f) .crashed
    have hLe := List.countP_le_length (p := Worker.isDoomed f) (l := s.workers.set i .crashed)
    have hTaken := h.doomed
    simp only [Worker.isDoomed, Bool.false_eq_true, if_false, if_true, List.length_set]
      at hDoomed hOther hLe
    refine ⟨taken ++ [a], ?_, ?_, ?_⟩
    · have hOrder := h.order
      simp only [hQueue] at hOrder
      simpa using hOrder
    · rw [List.countP_append, List.countP_singleton, hTaken]
      exact hDoomed.symm
    · intro _
      rw [List.dropLast_concat, hTaken]
      show s.workers.countP (Worker.isDoomed f) < (s.workers.set i _).length
      rw [List.length_set]
      omega
  | call hWorker => exact ⟨taken, h.setWorker hWorker rfl⟩
  | @deliver s fs i a b hWorker =>
    have hEnd := hBusy hWorker
    have hInto : Intake f items (s.setWorker i .waiting) taken := h.setWorker hWorker (by
      rw [Worker.isDoomed, ← show some _ = f _ from hEnd]
      rfl)
    exact ⟨taken, hInto.order, hInto.doomed, hInto.below⟩
  | crash hWorker =>
    have hEnd := hBusy hWorker
    exact ⟨taken, h.setWorker hWorker (by
      rw [Worker.isDoomed, Worker.isDoomed, ← show none = f _ from hEnd]
      rfl)⟩
  | leave hWorker hQueue hClosed => exact ⟨taken, h.setWorker hWorker rfl⟩

theorem intake_of_reachable {workers : Nat} {items : List α} {fs : FileSystem}
    {x : Snapshot α β} {f : α → Option β} (hJob : ∀ a ∈ items, (job a).Yields (f a))
    (hReach : Reachable job workers items fs x) : ∃ taken, Intake f items x.1 taken := by
  refine hReach.induct (P := fun x => ∃ taken, Intake f items x.1 taken) ?_ ?_
  · refine ⟨[], rfl, ?_, fun h => absurd rfl h⟩
    simp [initial, List.countP_replicate, Worker.isDoomed]
  · intro x y hBefore hBeforeIntake hMove
    obtain ⟨taken, hIntake⟩ := hBeforeIntake
    obtain ⟨past, hLedger⟩ := yields_of_reachable hJob hBefore
    exact hIntake.move hLedger.underway hMove

-- ---------------------------------------------------------------------------
-- The two ways to end
-- ---------------------------------------------------------------------------

/-- Once every worker has broken down, exactly what is in the queue or with the producer is
left behind the last break-down. -/
theorem leftAfter_of_crashed {workers : Nat} {items taken : List α} {s : State α β}
    {f : α → Option β} (hShape : Shape workers s) (hIntake : Intake f items s taken)
    (hCrashed : ∀ w ∈ s.workers, w.isCrashed = true) :
    leftAfter (fun a => (f a).isNone) (max workers 1) items = s.queue ++ s.pending := by
  have hAll : s.workers.countP (Worker.isDoomed f) = s.workers.length := by
    rw [List.countP_eq_length]
    intro w hMem
    have hw := hCrashed w hMem
    cases w <;> simp_all [Worker.isCrashed, Worker.isDoomed]
  rw [hIntake.order, List.append_assoc]
  apply leftAfter_append
  · rw [hIntake.doomed, hAll, hShape.crew]
  · intro hTaken
    rw [← hShape.crew]
    exact hIntake.below hTaken

/-- A stalled state leaves more behind the break-downs than the queue can hold. -/
theorem lt_leftAfter_of_stalled {workers : Nat} {items taken : List α} {s : State α β}
    {f : α → Option β} (hShape : Shape workers s) (hIntake : Intake f items s taken)
    (hStalled : s.Stalled) :
    2 * max workers 1 < (leftAfter (fun a => (f a).isNone) (max workers 1) items).length := by
  rw [leftAfter_of_crashed hShape hIntake hStalled.crashed, List.length_append, hStalled.full,
    hShape.capacity]
  have := List.length_pos_iff.mpr hStalled.pending
  omega

/-- A run that is over has left no more behind the break-downs than the queue can hold. -/
theorem leftAfter_le_of_returned {workers : Nat} {items taken : List α} {s : State α β}
    {f : α → Option β} (hShape : Shape workers s) (hIntake : Intake f items s taken)
    (hReturned : s.returned?.isSome = true) :
    (leftAfter (fun a => (f a).isNone) (max workers 1) items).length ≤ 2 * max workers 1 := by
  have hOver : s.closed = true ∧ ∀ w ∈ s.workers, w.isGone = true := by
    unfold State.returned? at hReturned
    split at hReturned
    · rename_i hDone
      rw [Bool.and_eq_true] at hDone
      exact ⟨hDone.1, List.all_eq_true.mp hDone.2⟩
    · cases hReturned
  by_cases hFinished : Worker.finished ∈ s.workers
  · -- some worker never broke down, so all items were taken and too few break down
    have hQueue := (hShape.finished hFinished).2
    have hPending := hShape.closed hOver.1
    obtain ⟨i, hWorker⟩ := List.mem_iff_getElem?.mp hFinished
    have hOther := countP_set hWorker (Worker.isDoomed f) .crashed
    have hLe := List.countP_le_length (p := Worker.isDoomed f) (l := s.workers.set i .crashed)
    simp only [Worker.isDoomed, Bool.false_eq_true, if_false, if_true, List.length_set]
      at hOther hLe
    have hCrew := hShape.crew
    have hDoomed := hIntake.doomed
    rw [hIntake.order, hQueue, hPending, List.append_nil, List.append_nil,
      leftAfter_eq_nil (by omega)]
    exact Nat.zero_le _
  · have hCrashed : ∀ w ∈ s.workers, w.isCrashed = true := by
      intro w hMem
      have hGone := hOver.2 w hMem
      cases w with
      | crashed => rfl
      | finished => exact absurd hMem hFinished
      | waiting | holding | busy => cases hGone
    rw [leftAfter_of_crashed hShape hIntake hCrashed, hShape.closed hOver.1, List.append_nil,
      ← hShape.capacity]
    exact hShape.room

end LicenseAudit.Pool
