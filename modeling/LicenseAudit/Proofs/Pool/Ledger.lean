import LicenseAudit.Proofs.Pool.Step

/-!
# The ledger of a pool

Where every item of a run is at every moment: with the producer, in the queue, with a busy
worker, or over. The jobs that are over are kept in a list of their own, the **ledger**, because
a broken down job leaves no result behind.

* `State.underway` — the jobs that are not over, each with the part that is still to do;
* `Effect` — what a step does to them: nothing, one call of one job, or the end of one job;
* `Upkeep` — a property of the jobs that survives the calls of the job itself and those of
  the jobs beside it;
* `Ledger` — the accounts of a state: the jobs underway and those that are over make up the
  items, and each of them has the property.

## Results

* `effect_of_move` — every rule has one of the three effects.
* `ledger_of_reachable` — the accounts balance in every reachable state, under every order
  of steps.
* `holds_of_reachable` — what the property says of the files holds in every reachable state.
* `underway_of_returned` — once results are returned, nothing is underway and no worker is
  lost.
-/

namespace LicenseAudit.Pool

variable {α β : Type} {job : α → Program (Option β)}

-- ---------------------------------------------------------------------------
-- Jobs underway
-- ---------------------------------------------------------------------------

/-- The item of a busy worker with the part of its job that is still to do. -/
def Worker.job? : Worker α β → Option (α × Program (Option β))
  | busy a rest => some (a, rest)
  | _ => none

/-- The jobs that are not over, with the part that is still to do: those of the busy workers,
and those of the items that no worker has taken yet. -/
def State.underway (job : α → Program (Option β)) (s : State α β) :
    List (α × Program (Option β)) :=
  s.workers.filterMap Worker.job? ++ (s.queue ++ s.pending).map fun a => (a, job a)

/-- How many workers have broken down. -/
def State.losses (s : State α β) : Nat := s.workers.countP Worker.isCrashed

/-- What a step does to the jobs. -/
inductive Effect (job : α → Program (Option β)) : Snapshot α β → Snapshot α β → Prop where
  /-- No job goes on. -/
  | quiet {x y : Snapshot α β} (hFiles : y.2 = x.2)
      (hUnderway : (y.1.underway job).Perm (x.1.underway job))
      (hResults : y.1.results = x.1.results) (hLosses : y.1.losses = x.1.losses) :
      Effect job x y
  /-- One job makes one call. -/
  | call {x y : Snapshot α β} {a : α} {c : Call} {next : c.Reply → Program (Option β)}
      {others : List (α × Program (Option β))}
      (hFiles : y.2 = (x.2.perform c).2)
      (hBefore : (x.1.underway job).Perm ((a, .call c next) :: others))
      (hAfter : (y.1.underway job).Perm ((a, next (x.2.perform c).1) :: others))
      (hResults : y.1.results = x.1.results) (hLosses : y.1.losses = x.1.losses) :
      Effect job x y
  /-- One job is over, with a result or without. -/
  | ended {x y : Snapshot α β} {a : α} {r : Option β} (hFiles : y.2 = x.2)
      (hUnderway : (x.1.underway job).Perm ((a, .done r) :: y.1.underway job))
      (hResults : y.1.results = x.1.results ++ r.toList)
      (hLosses : y.1.losses = x.1.losses + if r.isNone then 1 else 0) :
      Effect job x y

/-- Only the job of a worker that is replaced can change among the jobs of the workers. -/
theorem exists_jobs_set {ws : List (Worker α β)} {i : Nat} {w : Worker α β}
    (hWorker : ws[i]? = some w) :
    ∃ others, (ws.filterMap Worker.job?).Perm (w.job?.toList ++ others) ∧
      ∀ w', ((ws.set i w').filterMap Worker.job?).Perm (w'.job?.toList ++ others) := by
  obtain ⟨hLt, rfl⟩ := List.getElem?_eq_some_iff.mp hWorker
  obtain ⟨others, hMiddle⟩ : ∃ others, ∀ w' : Worker α β,
      ((ws.take i ++ w' :: ws.drop (i + 1)).filterMap Worker.job?).Perm
        (w'.job?.toList ++ others) := by
    refine ⟨(ws.take i).filterMap Worker.job? ++ (ws.drop (i + 1)).filterMap Worker.job?, ?_⟩
    intro w'
    cases hJob : w'.job? with
    | none => simp [hJob]
    | some entry => simp [hJob, List.perm_middle]
  refine ⟨others, ?_, fun w' => ?_⟩
  · have hSplit : ws = ws.take i ++ ws[i] :: ws.drop (i + 1) := by
      rw [← List.drop_eq_getElem_cons hLt, List.take_append_drop]
    conv_lhs => rw [hSplit]
    exact hMiddle _
  · rw [List.set_eq_take_append_cons_drop, if_pos hLt]
    exact hMiddle w'

/-- Replacing one worker changes a count of workers by that worker alone. -/
theorem countP_set {ws : List (Worker α β)} {i : Nat} {w : Worker α β}
    (hWorker : ws[i]? = some w) (p : Worker α β → Bool) (w' : Worker α β) :
    (ws.set i w').countP p + (if p w then 1 else 0) =
      ws.countP p + if p w' then 1 else 0 := by
  obtain ⟨hLt, rfl⟩ := List.getElem?_eq_some_iff.mp hWorker
  rw [List.countP_set hLt]
  by_cases hOld : p ws[i] = true
  · have : 0 < ws.countP p := List.countP_pos_iff.mpr ⟨_, List.getElem_mem hLt, hOld⟩
    simp only [hOld, if_true]
    omega
  · simp [hOld]

/-- A worker that has not broken down counts as lost from the moment it does. -/
theorem losses_set {s : State α β} {i : Nat} {w : Worker α β}
    (hWorker : s.workers[i]? = some w) (hOld : w.isCrashed = false) (w' : Worker α β) :
    (s.setWorker i w').losses = s.losses + if w'.isCrashed then 1 else 0 := by
  have hCount := countP_set hWorker Worker.isCrashed w'
  rw [hOld] at hCount
  simpa [State.losses] using hCount

/-- A worker without a job that stays without one and does not break down changes nothing that
the ledger records. -/
theorem Effect.idle {s : State α β} {fs : FileSystem} {i : Nat} {w w' : Worker α β}
    (hWorker : s.workers[i]? = some w) (hOld : w.job? = none ∧ w.isCrashed = false)
    (hNew : w'.job? = none ∧ w'.isCrashed = false) :
    Effect job (s, fs) (s.setWorker i w', fs) := by
  obtain ⟨others, hBefore, hSet⟩ := exists_jobs_set hWorker
  have hAfter := hSet w'
  rw [hOld.1] at hBefore
  rw [hNew.1] at hAfter
  refine .quiet rfl ((hAfter.trans hBefore.symm).append_right _) rfl ?_
  simp [losses_set hWorker hOld.2, hNew.2]

/-- A busy worker whose job ends has it crossed off. -/
theorem Effect.ending {s : State α β} {fs : FileSystem} {i : Nat} {a : α} {r : Option β}
    {w' : Worker α β} (hWorker : s.workers[i]? = some (.busy a (.done r)))
    (hNew : w'.job? = none ∧ w'.isCrashed = r.isNone) :
    Effect job (s, fs) ({ s.setWorker i w' with results := s.results ++ r.toList }, fs) := by
  obtain ⟨others, hBefore, hSet⟩ := exists_jobs_set hWorker
  have hAfter := hSet w'
  rw [hNew.1] at hAfter
  refine .ended rfl ((hBefore.trans (hAfter.symm.cons _)).append_right _) rfl ?_
  exact (losses_set hWorker rfl w').trans (by rw [hNew.2])

/-- Every rule has one of the three effects. -/
theorem effect_of_move {x y : Snapshot α β} (hMove : Move job x y) : Effect job x y := by
  cases hMove with
  | send hPending hRoom =>
    refine .quiet rfl (List.Perm.of_eq ?_) rfl rfl
    simp [State.underway, hPending]
  | close hPending hOpen => exact .quiet rfl (List.Perm.refl _) rfl rfl
  | acquire hWorker hFree => exact .idle hWorker ⟨rfl, rfl⟩ ⟨rfl, rfl⟩
  | @receive s fs i a rest hWorker hQueue =>
    obtain ⟨others, hBefore, hSet⟩ := exists_jobs_set hWorker
    refine .quiet rfl ?_ rfl (losses_set hWorker rfl (.busy a (job a)))
    -- the job of `a` moves from the queue to the worker
    simp only [State.underway, setWorker_workers, setWorker_pending, hQueue, List.cons_append,
      List.map_cons]
    refine ((hSet (.busy a (job a))).append_right _).trans ?_
    exact (List.perm_middle.trans ((hBefore.append_right _).cons _)).symm
  | @call s fs i a c next hWorker =>
    obtain ⟨others, hBefore, hSet⟩ := exists_jobs_set hWorker
    exact .call rfl (hBefore.append_right _) ((hSet _).append_right _) rfl
      (losses_set hWorker rfl _)
  | deliver hWorker => exact .ending hWorker ⟨rfl, rfl⟩
  | @crash s fs i a hWorker =>
    have hEffect : Effect job (s, fs)
        ({ s.setWorker i .crashed with results := s.results ++ [] }, fs) :=
      .ending hWorker ⟨rfl, rfl⟩
    rw [List.append_nil] at hEffect
    exact hEffect
  | leave hWorker hQueue hClosed => exact .idle hWorker ⟨rfl, rfl⟩ ⟨rfl, rfl⟩

-- ---------------------------------------------------------------------------
-- The accounts of a state
-- ---------------------------------------------------------------------------

/-- A property of an item and the part of its job that is still to do, in view of the files. The
job keeps it up with its own calls, and so do the calls of the job of any compatible item. -/
structure Upkeep (Inv : FileSystem → α → Program (Option β) → Prop)
    (compatible : α → α → Prop) : Prop where
  symm : ∀ {a b : α}, compatible a b → compatible b a
  own : ∀ {fs : FileSystem} {a : α} {c : Call} {next : c.Reply → Program (Option β)},
    Inv fs a (.call c next) → Inv (fs.perform c).2 a (next (fs.perform c).1)
  others : ∀ {fs : FileSystem} {a b : α} {c : Call} {next : c.Reply → Program (Option β)}
    {rest : Program (Option β)}, compatible a b → Inv fs a (.call c next) → Inv fs b rest →
    Inv (fs.perform c).2 b rest

/-- The accounts of a state. The jobs underway and those in the ledger make up the items; the
results are those of the ledger, in its order; a worker is lost for each job in the ledger that
gave none; and every job has the property. -/
structure Ledger (Inv : FileSystem → α → Program (Option β) → Prop)
    (job : α → Program (Option β)) (items : List α) (x : Snapshot α β)
    (past : List (α × Option β)) : Prop where
  items    : ((x.1.underway job).map Prod.fst ++ past.map Prod.fst).Perm items
  results  : x.1.results = past.filterMap Prod.snd
  losses   : x.1.losses = past.countP fun e => e.2.isNone
  underway : ∀ e ∈ x.1.underway job, Inv x.2 e.1 e.2
  past     : ∀ e ∈ past, Inv x.2 e.1 (.done e.2)

variable {Inv : FileSystem → α → Program (Option β) → Prop} {compatible : α → α → Prop}

theorem ledger_initial (workers : Nat) {items : List α} {fs : FileSystem}
    (hStart : ∀ a ∈ items, Inv fs a (job a)) :
    Ledger Inv job items (initial workers items, fs) [] where
  items := by
    simp [State.underway, initial, List.filterMap_replicate, Worker.job?, Function.comp_def]
  results := rfl
  losses := by simp [State.losses, initial, List.countP_replicate, Worker.isCrashed]
  underway := by
    intro e hMem
    obtain ⟨a, hItem, rfl⟩ : ∃ a ∈ items, (a, job a) = e := by
      simpa [State.underway, initial, List.filterMap_replicate, Worker.job?] using hMem
    exact hStart a hItem
  past := by simp

/-- One step keeps the accounts: only the job that makes a call or ends is entered anew. -/
theorem Ledger.move {items : List α} {x y : Snapshot α β} {past : List (α × Option β)}
    (hUpkeep : Upkeep Inv compatible)
    (hItems : items.Pairwise compatible) (h : Ledger Inv job items x past)
    (hMove : Move job x y) : ∃ past', Ledger Inv job items y past' := by
  cases effect_of_move hMove with
  | quiet hFiles hUnderway hResults hLosses =>
    refine ⟨past, ?_, hResults.trans h.results, hLosses.trans h.losses, ?_, ?_⟩
    · exact ((hUnderway.map _).append_right _).trans h.items
    · intro e hMem
      rw [hFiles]
      exact h.underway e (hUnderway.mem_iff.mp hMem)
    · intro e hMem
      rw [hFiles]
      exact h.past e hMem
  | @call a c next others hFiles hBefore hAfter hResults hLosses =>
    have hCall : Inv x.2 a (.call c next) :=
      h.underway _ (hBefore.mem_iff.mpr (List.mem_cons_self ..))
    -- the item of every other job is compatible with the one that makes the call
    have hPairwise : (a :: (others.map Prod.fst ++ past.map Prod.fst)).Pairwise compatible :=
      (((hBefore.map Prod.fst).append_right (past.map Prod.fst)).symm.trans
        h.items).symm.pairwise hItems hUpkeep.symm
    have hCompatible := (List.pairwise_cons.mp hPairwise).1
    refine ⟨past, ?_, hResults.trans h.results, hLosses.trans h.losses, ?_, ?_⟩
    · exact ((hAfter.map Prod.fst).append_right _).trans
        (((hBefore.map Prod.fst).append_right _).symm.trans h.items)
    · intro e hMem
      rw [hFiles]
      rcases List.mem_cons.mp (hAfter.mem_iff.mp hMem) with rfl | hOther
      · exact hUpkeep.own hCall
      · refine hUpkeep.others (hCompatible e.1 ?_) hCall
          (h.underway e (hBefore.mem_iff.mpr (List.mem_cons_of_mem _ hOther)))
        exact List.mem_append_left _ (List.mem_map_of_mem hOther)
    · intro e hMem
      rw [hFiles]
      refine hUpkeep.others (hCompatible e.1 ?_) hCall (h.past e hMem)
      exact List.mem_append_right _ (List.mem_map_of_mem hMem)
  | @ended a r hFiles hUnderway hResults hLosses =>
    refine ⟨past ++ [(a, r)], ?_, ?_, ?_, ?_, ?_⟩
    · refine List.Perm.trans ?_ (((hUnderway.map Prod.fst).append_right _).symm.trans h.items)
      simp only [List.map_append, List.map_cons, List.map_nil, List.cons_append]
      rw [← List.append_assoc]
      exact List.perm_append_singleton a _
    · rw [hResults, h.results]
      cases r <;> simp
    · rw [hLosses, h.losses]
      cases r <;> simp
    · intro e hMem
      rw [hFiles]
      exact h.underway e (hUnderway.mem_iff.mpr (List.mem_cons_of_mem _ hMem))
    · intro e hMem
      rw [hFiles]
      rcases List.mem_append.mp hMem with hOld | hNew
      · exact h.past e hOld
      · rw [List.mem_singleton.mp hNew]
        exact h.underway _ (hUnderway.mem_iff.mpr (List.mem_cons_self ..))

/-- **The accounts balance.** Whatever order the steps come in, every item of a reachable
state is with a job underway or in the ledger, exactly once, and every job has the property. -/
theorem ledger_of_reachable {workers : Nat} {items : List α} {fs : FileSystem}
    {x : Snapshot α β} (hUpkeep : Upkeep Inv compatible)
    (hItems : items.Pairwise compatible) (hStart : ∀ a ∈ items, Inv fs a (job a))
    (hReach : Reachable job workers items fs x) :
    ∃ past, Ledger Inv job items x past :=
  hReach.induct (P := fun x => ∃ past, Ledger Inv job items x past)
    ⟨[], ledger_initial workers hStart⟩
    fun _ _ _ ⟨_, h⟩ hMove => h.move hUpkeep hItems hMove

/-- What the property of each job says of the files stays true, whatever order the steps come
in. -/
theorem holds_of_reachable {workers : Nat} {items : List α} {fs : FileSystem}
    {x : Snapshot α β} {G : FileSystem → Prop} (hUpkeep : Upkeep Inv compatible)
    (hItems : items.Pairwise compatible) (hStart : ∀ a ∈ items, Inv fs a (job a))
    (hImplies : ∀ {fs : FileSystem} {a : α} {rest : Program (Option β)}, Inv fs a rest → G fs)
    (hBegin : G fs) (hReach : Reachable job workers items fs x) : G x.2 := by
  refine hReach.induct (P := fun x => G x.2) hBegin fun y z hBefore hHolds hMove => ?_
  cases effect_of_move hMove with
  | quiet hFiles _ _ _ | ended hFiles _ _ _ =>
    rw [hFiles]
    exact hHolds
  | call hFiles hUnderway _ _ _ =>
    obtain ⟨past, hLedger⟩ := ledger_of_reachable hUpkeep hItems hStart hBefore
    rw [hFiles]
    exact hImplies (hUpkeep.own
      (hLedger.underway _ (hUnderway.mem_iff.mpr (List.mem_cons_self ..))))

/-- That a job ends the way its item says does not depend on any call. -/
theorem upkeep_yields (f : α → Option β) :
    Upkeep (fun _ a rest => rest.Yields (f a)) fun _ _ => True where
  symm := fun _ => trivial
  own := fun hCall => hCall _
  others := fun _ _ hRest => hRest

/-- The accounts of jobs whose end does not depend on the replies to their calls: every job in
the ledger ended the way it had to. -/
theorem yields_of_reachable {workers : Nat} {items : List α} {fs : FileSystem}
    {x : Snapshot α β} {f : α → Option β} (hJob : ∀ a ∈ items, (job a).Yields (f a))
    (hReach : Reachable job workers items fs x) :
    ∃ past, Ledger (fun _ a rest => rest.Yields (f a)) job items x past :=
  ledger_of_reachable (upkeep_yields f) (List.pairwise_of_forall fun _ _ => trivial) hJob hReach

/-- Once a run has returned results, nothing is underway and no worker is lost. -/
theorem underway_of_returned (job : α → Program (Option β)) {workers : Nat} {s : State α β}
    {rs : List β} (hShape : Shape workers s) (hReturned : s.returned? = some (.results rs)) :
    s.underway job = [] ∧ s.losses = 0 ∧ s.results = rs := by
  obtain ⟨hClosed, hGone, hOutcome⟩ := returned?_eq_some_iff.mp hReturned
  obtain ⟨hWhole, hResults⟩ : s.workers.any Worker.isCrashed = false ∧ s.results = rs := by
    split at hOutcome
    case isTrue => cases hOutcome
    case isFalse hNone => exact ⟨eq_false_of_ne_true hNone, Outcome.results.inj hOutcome⟩
  have hFinished : ∀ w ∈ s.workers, w = .finished := by
    intro w hMem
    have hEnded := hGone w hMem
    have hSound := List.any_eq_false.mp hWhole w hMem
    cases w with
    | finished => rfl
    | crashed => exact absurd rfl hSound
    | waiting | holding | busy => cases hEnded
  have hSome : Worker.finished ∈ s.workers := by
    obtain ⟨w, hMem⟩ := hShape.exists_worker
    exact hFinished w hMem ▸ hMem
  have hJobs : s.workers.filterMap Worker.job? = [] := by
    rw [List.filterMap_eq_nil_iff]
    intro w hMem
    rw [hFinished w hMem]
    rfl
  refine ⟨?_, ?_, hResults⟩
  · rw [State.underway, hJobs, (hShape.finished hSome).2, hShape.closed hClosed]
    rfl
  · rw [State.losses, List.countP_eq_zero]
    intro w hMem
    rw [hFinished w hMem]
    exact Bool.false_ne_true

end LicenseAudit.Pool
