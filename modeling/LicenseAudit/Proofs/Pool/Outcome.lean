import LicenseAudit.Proofs.Pool.Completion

/-!
# What a pool answers

The guarantees of a pool towards its caller, under every order of steps.

* A pool that returns results returns one for each item, none twice and none made up; once a
  job has broken down it never returns results.
* A pool can get stuck, although the queue was meant to refuse items once every worker is gone.
  It does exactly when the items that the break-downs leave over do not fit into the queue.

## Results

* `results_account_for_items` — nothing is lost and nothing is doubled.
* `never_stuck_iff` — the pools that never get stuck.
* `returns_of_reachable`, `run_returns` — a pool whose jobs cannot break down returns a result for
  each item, and each job has kept what it keeps up.
* `run_looking` — a pool whose jobs only look answers what the jobs answer alone.
-/

namespace LicenseAudit.Pool

variable {α β : Type} {job : α → Program (Option β)}

-- ---------------------------------------------------------------------------
-- Nothing lost, nothing doubled
-- ---------------------------------------------------------------------------

/-- Whatever a job can still end with, it could end with from the start. -/
theorem upkeep_mayEnd (job : α → Program (Option β)) :
    Upkeep (fun _ a rest => ∀ r, rest.MayEnd r → (job a).MayEnd r) fun _ _ => True where
  symm := fun _ => trivial
  own := fun hCall r hEnd => hCall r ⟨_, hEnd⟩
  others := fun _ _ hRest => hRest

/-- The ledger of a run that has returned results holds a result for each item. -/
theorem Ledger.of_returned {Inv : FileSystem → α → Program (Option β) → Prop} {workers : Nat}
    {items : List α} {x : Snapshot α β} {past : List (α × Option β)}
    (h : Ledger Inv job items x past) (hShape : Shape workers x.1) {rs : List β}
    (hReturned : x.1.returned? = some (.results rs)) :
    ∃ found : List (α × β), (found.map Prod.fst).Perm items ∧ found.map Prod.snd = rs ∧
      ∀ e ∈ found, Inv x.2 e.1 (.done (some e.2)) := by
  obtain ⟨hUnderway, hLosses, hResults⟩ := underway_of_returned job hShape hReturned
  have hNone : ∀ e ∈ past, e.2.isSome = true := by
    have hCount := h.losses
    rw [hLosses, eq_comm, List.countP_eq_zero] at hCount
    intro e hMem
    exact Option.isSome_iff_ne_none.mpr (by simpa using hCount e hMem)
  -- so the ledger is a list of items with their results
  obtain ⟨found, rfl⟩ : ∃ found : List (α × β), past = found.map fun e => (e.1, some e.2) := by
    clear h
    induction past with
    | nil => exact ⟨[], rfl⟩
    | cons e rest ih =>
      obtain ⟨found, rfl⟩ := ih fun e hMem => hNone e (List.mem_cons_of_mem _ hMem)
      obtain ⟨a, r⟩ := e
      obtain ⟨b, rfl⟩ := Option.isSome_iff_exists.mp (hNone (a, r) (List.mem_cons_self ..))
      exact ⟨(a, b) :: found, rfl⟩
  refine ⟨found, ?_, ?_, ?_⟩
  · have hItems := h.items
    rw [hUnderway] at hItems
    simpa [Function.comp_def] using hItems
  · have hSome : (Prod.snd ∘ fun e : α × β => (e.1, some e.2)) = some ∘ Prod.snd := rfl
    rw [← hResults, h.results, List.filterMap_map, hSome, List.filterMap_eq_map]
  · intro e hMem
    exact h.past (e.1, some e.2) (List.mem_map_of_mem hMem)

/-- A worker that has broken down stays so. -/
theorem losses_le_of_steps {x y : Snapshot α β} (hSteps : Steps job x y) :
    x.1.losses ≤ y.1.losses := by
  induction hSteps with
  | refl => exact Nat.le_refl _
  | tail _ hStep ih =>
    refine Nat.le_trans ih ?_
    cases effect_of_move hStep.move with
    | quiet _ _ _ hLosses | call _ _ _ _ hLosses => exact Nat.le_of_eq hLosses.symm
    | ended _ _ _ hLosses => omega

/-- **Nothing is lost and nothing is doubled.** Under every order of steps, a run that returns
results returns one for each item, which the job of that item can end with; and once a worker
has broken down, no order of further steps leads to results. Where the job of each item has
one way to end, the results are those of the items, and an item that breaks down rules
results out. -/
theorem results_account_for_items {workers : Nat} {items : List α} {fs : FileSystem}
    {x : Snapshot α β} (hReach : Reachable job workers items fs x) :
    (∀ rs, x.1.returned? = some (.results rs) →
      ∃ found : List (α × β), (found.map Prod.fst).Perm items ∧ found.map Prod.snd = rs ∧
        ∀ e ∈ found, (job e.1).MayEnd (some e.2)) ∧
    (∀ w ∈ x.1.workers, w.isCrashed = true →
      ∀ y, Steps job x y → ∀ rs, y.1.returned? ≠ some (.results rs)) ∧
    ∀ f : α → Option β, (∀ a ∈ items, (job a).Yields (f a)) →
      (∀ rs, x.1.returned? = some (.results rs) →
        (∀ a ∈ items, f a ≠ none) ∧ (rs.map some).Perm (items.map f)) ∧
      ((∃ a ∈ items, f a = none) → ∀ rs, x.1.returned? ≠ some (.results rs)) := by
  have hShape : Shape workers x.1 := shape_of_reachable hReach
  have hFound : ∀ rs, x.1.returned? = some (.results rs) →
      ∃ found : List (α × β), (found.map Prod.fst).Perm items ∧ found.map Prod.snd = rs ∧
        ∀ e ∈ found, (job e.1).MayEnd (some e.2) := by
    intro rs hReturned
    obtain ⟨past, hLedger⟩ := ledger_of_reachable (upkeep_mayEnd job)
      (List.pairwise_of_forall fun _ _ => trivial) (fun _ _ _ hEnd => hEnd) hReach
    obtain ⟨found, hItems, hResults, hEnds⟩ := hLedger.of_returned hShape hReturned
    exact ⟨found, hItems, hResults, fun e hMem => hEnds e hMem _ rfl⟩
  have hDetermined : ∀ f : α → Option β, (∀ a ∈ items, (job a).Yields (f a)) →
      ∀ rs, x.1.returned? = some (.results rs) →
        (∀ a ∈ items, f a ≠ none) ∧ (rs.map some).Perm (items.map f) := by
    intro f hJob rs hReturned
    obtain ⟨found, hItems, rfl, hEnds⟩ := hFound rs hReturned
    have hValue : ∀ e ∈ found, f e.1 = some e.2 := by
      intro e hMem
      have hItem : e.1 ∈ items := hItems.mem_iff.mp (List.mem_map_of_mem hMem)
      exact (hJob e.1 hItem).eq_of_mayEnd (hEnds e hMem)
    refine ⟨?_, ?_⟩
    · intro a hItem
      obtain ⟨e, hMem, rfl⟩ := List.mem_map.mp (hItems.mem_iff.mpr hItem)
      rw [hValue e hMem]
      exact Option.some_ne_none _
    · have hSame : (found.map Prod.snd).map some = (found.map Prod.fst).map f := by
        rw [List.map_map, List.map_map]
        exact List.map_congr_left fun e hMem => (hValue e hMem).symm
      rw [hSame]
      exact hItems.map f
  refine ⟨hFound, ?_, fun f hJob => ⟨hDetermined f hJob, ?_⟩⟩
  · intro w hMem hCrashed y hSteps rs hReturned
    have hLosses := (underway_of_returned job (hShape.steps hSteps) hReturned).2.1
    have hMore := losses_le_of_steps hSteps
    have hSome : 0 < x.1.losses := List.countP_pos_iff.mpr ⟨w, hMem, hCrashed⟩
    omega
  · rintro ⟨a, hItem, hNone⟩ rs hReturned
    exact (hDetermined f hJob rs hReturned).1 a hItem hNone

/-- Two workers double two items, the second of which is done first. -/
theorem results_account_for_two_items :
    ∃ found : List (Nat × Nat), (found.map Prod.fst).Perm [1, 2] ∧
      found.map Prod.snd = [4, 2] ∧
      ∀ e ∈ found, (pure (some (2 * e.1)) : Program (Option Nat)).MayEnd (some e.2) :=
  (results_account_for_items
    (follow_steps (fun n : Nat => pure (some (2 * n)))
      [.send, .send, .close, .acquire 0, .receive 0, .acquire 1, .receive 1, .work 1, .work 0,
        .acquire 0, .leave 0, .acquire 1, .leave 1]
      (initial 2 [1, 2]) ⟨[], []⟩)).1 [4, 2] rfl

-- ---------------------------------------------------------------------------
-- Getting stuck
-- ---------------------------------------------------------------------------

/-- **The pools that never get stuck.** Whatever the order of steps, the run is over or some step
is possible, exactly when the items behind the break-down of the last worker fit into the
queue. -/
theorem never_stuck_iff {workers : Nat} {items : List α} {f : α → Option β} (fs : FileSystem)
    (hJob : ∀ a ∈ items, (job a).Yields (f a)) :
    (∀ x, Reachable job workers items fs x →
      x.1.returned?.isSome = true ∨ ∃ e : Event, x.1.enabled e = true) ↔
    (leftAfter (fun a => (f a).isNone) (max workers 1) items).length ≤ 2 * max workers 1 := by
  constructor
  · intro hMoving
    obtain ⟨s, fs', hReach, -, hEnd⟩ := run_reaches_end job [] workers items fs
    have hShape : Shape workers s := shape_of_reachable hReach
    obtain ⟨taken, hIntake⟩ := intake_of_reachable hJob hReach
    have hGoes : ¬ s.Stalled := (enabled_or_returned_iff hShape).mp (hMoving _ hReach)
    refine leftAfter_le_of_returned hShape hIntake ?_
    -- a complete run that is not stalled is over
    cases hOutcome : ((run [] workers items job).run fs).1 with
    | stalled =>
      rw [hOutcome] at hEnd
      exact absurd hEnd hGoes
    | results rs =>
      rw [hOutcome] at hEnd
      exact Option.isSome_iff_exists.mpr ⟨_, hEnd⟩
    | panicked =>
      rw [hOutcome] at hEnd
      exact Option.isSome_iff_exists.mpr ⟨_, hEnd⟩
  · intro hFits x hReach
    have hShape : Shape workers x.1 := shape_of_reachable hReach
    obtain ⟨taken, hIntake⟩ := intake_of_reachable hJob hReach
    refine (enabled_or_returned_iff hShape).mpr fun hStalled => ?_
    have := lt_leftAfter_of_stalled hShape hIntake hStalled
    omega

/-- The only worker breaks down on the first of three items; the other two fit into the queue. -/
theorem never_stuck_three_items :
    leftAfter (fun n : Nat => n == 0) 1 [0, 1, 2] = [1, 2] ∧
      ∀ x, Reachable (fun n : Nat => pure (if n = 0 then none else some n)) 1 [0, 1, 2]
          ⟨[], []⟩ x →
        x.1.returned?.isSome = true ∨ ∃ e : Event, x.1.enabled e = true :=
  ⟨by decide, (never_stuck_iff ⟨[], []⟩ fun n _ =>
    (Program.yields_pure (if n = 0 then none else some n) _).mpr rfl).mpr (by decide)⟩

/-- The only worker breaks down on the first of four items; the producer waits for ever to hand
over the last one. -/
theorem stuck_four_items :
    ∃ x, Reachable (fun n : Nat => pure (if n = 0 then none else some n)) 1 [0, 1, 2, 3]
        ⟨[], []⟩ x ∧
      x.1.returned? = none ∧ ∀ e : Event, x.1.enabled e = false := by
  have hReach := follow_steps (fun n : Nat => pure (if n = 0 then none else some n))
    [.send, .send, .acquire 0, .receive 0, .work 0, .send] (initial 1 [0, 1, 2, 3]) ⟨[], []⟩
  refine ⟨_, hReach, State.Stalled.stuck ⟨?_, rfl, ?_⟩ (shape_of_reachable hReach)⟩
  · intro w hMem
    rw [List.mem_singleton.mp hMem]
    rfl
  · exact List.cons_ne_nil 3 []

-- ---------------------------------------------------------------------------
-- Pools of jobs that cannot break down
-- ---------------------------------------------------------------------------

/-- Let every job keep a property up with its own calls, whatever the compatible jobs beside it do,
and let the property exclude a break-down. Then, whatever order the steps come in, the run is
never stuck; and once it is over it has returned one result for each item, and the property
holds of each job at its end. -/
theorem returns_of_reachable {Inv : FileSystem → α → Program (Option β) → Prop}
    {compatible : α → α → Prop} (hUpkeep : Upkeep Inv compatible)
    (hSound : ∀ fs a, ¬ Inv fs a (.done none)) {workers : Nat} {items : List α}
    {fs : FileSystem} (hItems : items.Pairwise compatible)
    (hStart : ∀ a ∈ items, Inv fs a (job a)) {x : Snapshot α β}
    (hReach : Reachable job workers items fs x) :
    (x.1.returned?.isSome = true ∨ ∃ e : Event, x.1.enabled e = true) ∧
    ∀ o, x.1.returned? = some o → ∃ found : List (α × β), o = .results (found.map Prod.snd) ∧
      (found.map Prod.fst).Perm items ∧ ∀ e ∈ found, Inv x.2 e.1 (.done (some e.2)) := by
  have hShape : Shape workers x.1 := shape_of_reachable hReach
  obtain ⟨past, hLedger⟩ := ledger_of_reachable hUpkeep hItems hStart hReach
  have hWhole : ∀ w ∈ x.1.workers, w.isCrashed = false := by
    have hLosses : x.1.losses = 0 := by
      rw [hLedger.losses, List.countP_eq_zero]
      rintro ⟨a, r⟩ hMem hNone
      rw [Option.isNone_iff_eq_none] at hNone
      exact hSound x.2 a (hNone ▸ hLedger.past _ hMem)
    intro w hMem
    simpa using List.countP_eq_zero.mp hLosses w hMem
  constructor
  · refine (enabled_or_returned_iff hShape).mpr fun hStalled => ?_
    obtain ⟨w, hMem⟩ := hShape.exists_worker
    exact absurd (hStalled.crashed w hMem) (by simp [hWhole w hMem])
  · intro o hReturned
    have hAny : x.1.workers.any Worker.isCrashed = false := by
      rw [List.any_eq_false]
      intro w hMem
      simp [hWhole w hMem]
    have hOutcome := (returned?_eq_some_iff.mp hReturned).2.2
    rw [hAny] at hOutcome
    obtain rfl : Outcome.results x.1.results = o := hOutcome
    obtain ⟨found, hFound, hResults, hEnds⟩ := hLedger.of_returned hShape hReturned
    exact ⟨found, congrArg Outcome.results hResults.symm, hFound, hEnds⟩

/-- **Complete results.** Let every job keep a property up with its own calls, whatever the
compatible jobs beside it do, and let the property exclude a break-down. Then the pool
returns, under any schedule, one result for each item; the property holds of each job at its
end, and what it says of the files holds of them. -/
theorem run_returns {Inv : FileSystem → α → Program (Option β) → Prop}
    {compatible : α → α → Prop} {G : FileSystem → Prop} (hUpkeep : Upkeep Inv compatible)
    (hSound : ∀ fs a, ¬ Inv fs a (.done none))
    (hImplies : ∀ {fs : FileSystem} {a : α} {rest : Program (Option β)}, Inv fs a rest → G fs)
    (job : α → Program (Option β)) (schedule : List Event) (workers : Nat) {items : List α}
    {fs : FileSystem} (hItems : items.Pairwise compatible)
    (hStart : ∀ a ∈ items, Inv fs a (job a)) (hBegin : G fs) :
    ∃ (found : List (α × β)) (fs' : FileSystem),
      (run schedule workers items job).run fs = (.results (found.map Prod.snd), fs') ∧
      (found.map Prod.fst).Perm items ∧ (∀ e ∈ found, Inv fs' e.1 (.done (some e.2))) ∧
      G fs' := by
  obtain ⟨s, fs', hReach, hFiles, hEnd⟩ := run_reaches_end job schedule workers items fs
  obtain ⟨hMoving, hReturns⟩ := returns_of_reachable hUpkeep hSound hItems hStart hReach
  cases hOutcome : ((run schedule workers items job).run fs).1 with
  | stalled =>
    rw [hOutcome] at hEnd
    have hShape : Shape workers s := shape_of_reachable hReach
    exact absurd hEnd ((enabled_or_returned_iff hShape).mp hMoving)
  | panicked =>
    rw [hOutcome] at hEnd
    obtain ⟨found, hResults, -⟩ := hReturns _ hEnd
    cases hResults
  | results rs =>
    rw [hOutcome] at hEnd
    obtain ⟨found, hResults, hFound, hEnds⟩ := hReturns _ hEnd
    obtain rfl : rs = found.map Prod.snd := Outcome.results.inj hResults
    exact ⟨found, fs', Prod.ext hOutcome hFiles, hFound, hEnds,
      holds_of_reachable hUpkeep hItems hStart hImplies hBegin hReach⟩

/-- **Looking around.** A pool whose jobs only look, and cannot break down, answers for each item
what its job answers alone, in some order, and leaves the files as they are. -/
theorem run_looking (schedule : List Event) (workers : Nat) (items : List α) {q : α → Program β}
    (hLooks : ∀ a, (q a).ReadOnly) (fs : FileSystem) :
    ∃ found : List α, found.Perm items ∧
      (run schedule workers items fun a => some <$> q a).run fs =
        (.results (found.map fun a => ((q a).run fs).1), fs) := by
  -- what is left of a job only looks, and still leads to the answer of the whole job
  have hUpkeep : Upkeep
      (fun fs' a (rest : Program (Option β)) =>
        fs' = fs ∧ rest.ReadOnly ∧ (rest.run fs).1 = some ((q a).run fs).1)
      fun _ _ => True := by
    refine ⟨fun _ => trivial, ?_, ?_⟩
    · rintro fs' a c next ⟨rfl, hOnly, hAnswer⟩
      have hStay : (fs'.perform c).2 = fs' := FileSystem.perform_snd_of_looks hOnly.1 fs'
      refine ⟨hStay, hOnly.2 _, ?_⟩
      rw [← hAnswer]
      show _ = ((next (fs'.perform c).1).run (fs'.perform c).2).1
      rw [hStay]
    · rintro fs' a b c next rest - ⟨rfl, hOnly, -⟩ ⟨-, hRest⟩
      exact ⟨FileSystem.perform_snd_of_looks hOnly.1 fs', hRest⟩
  obtain ⟨found, fs', hRun, hFound, hEnds, rfl⟩ :=
    run_returns (G := fun fs' => fs' = fs) hUpkeep
      (fun fs' a hNone => by simpa [Program.run] using hNone.2.2) (fun hInv => hInv.1)
      (fun a => some <$> q a) schedule workers
      (List.pairwise_of_forall (l := items) fun _ _ => trivial)
      (fun a _ => ⟨rfl, (hLooks a).map some, by rw [Program.run_map]⟩) rfl
  refine ⟨found.map Prod.fst, hFound, ?_⟩
  rw [hRun, List.map_map]
  congr 2
  refine List.map_congr_left fun e hMem => ?_
  exact Option.some_inj.mp (hEnds e hMem).2.2

end LicenseAudit.Pool
