import LicenseAudit.Proofs.Pool.Step
import LicenseAudit.Proofs.Program.Refusal

/-!
# Pools whose jobs cannot break down

A pool fails where a job breaks down, or where it gets stuck behind jobs that have. If no job can
break down, whatever its calls are answered, the pool returns results, along every schedule. Without
interleaving it does nothing but run the jobs one after the other, so that the number of workers
does not matter.

* `Program.Ends` — a program all of whose values have a property;
* `Program.Sound` — a job that cannot break down;
* `Pool.State.Unbroken` — nobody has broken down, and whoever has ended has left nothing to do.

## Results

* `returns_results` — along every schedule a pool of such jobs returns results.
* `run_nil` — without interleaving it runs the jobs one after the other.
-/

namespace LicenseAudit

namespace Program

variable {α β : Type} {P : α → Prop}

/-- The program ends with a value that has the property, whatever its calls are answered. -/
def Ends (P : α → Prop) : Program α → Prop
  | .done a => P a
  | .call _ next => ∀ reply, (next reply).Ends P

theorem Ends.bind {Q : β → Prop} {p : Program α} {f : α → Program β} (hp : p.Ends P)
    (hf : ∀ a, P a → (f a).Ends Q) : (p >>= f).Ends Q := by
  show (p.bind f).Ends Q
  induction p with
  | done a => exact hf a hp
  | call c next ih => exact fun reply => ih reply (hp reply)

/-- What a program ends with has the property, also where calls are refused. -/
theorem Ends.run_refusing {p : Program α} (hp : p.Ends P) (refusals : Call → Option IoError)
    (fs : FileSystem) : P ((p.refusing refusals).run fs).1 := by
  induction p generalizing fs with
  | done a => exact hp
  | call c next ih =>
    rw [refusing]
    cases (refusals c).bind c.failure? with
    | some reply => exact ih reply (hp reply) fs
    | none => exact ih _ (hp _) _

theorem ends_any (p : Program α) : p.Ends fun _ => True := by
  induction p with
  | done a => trivial
  | call c next ih => exact ih

/-- A program that returns what it makes of the value of another one ends with such values. -/
theorem ends_return {Q : β → Prop} {f : α → β} (h : ∀ a, Q (f a)) (p : Program α) :
    (p >>= fun a => pure (f a)).Ends Q :=
  p.ends_any.bind fun a _ => h a

/-- The job does not break down. -/
abbrev Sound (job : Program (Option β)) : Prop := job.Ends (· ≠ none)

theorem sound_some (p : Program β) : (some <$> p).Sound := by
  rw [map_eq_pure_bind]
  exact p.ends_any.bind fun b _ => Option.some_ne_none b

end Program

namespace Pool

variable {α β : Type} {job : α → Program (Option β)}

-- ---------------------------------------------------------------------------
-- Steps
-- ---------------------------------------------------------------------------

/-- A worker has not broken down and will not, and if it has ended there is nothing left to do. -/
structure Worker.Unbroken (nothingLeft : Prop) (w : Worker α β) : Prop where
  sound : ∀ item rest, w = .busy item rest → rest.Sound
  whole : w.isCrashed = false
  ended : w.isGone = true → nothingLeft

/-- No worker has broken down or will, and those that have ended have left nothing to do. There are
workers, and a closed queue gets no more items. -/
structure State.Unbroken (s : State α β) : Prop where
  crew   : ∀ w ∈ s.workers, w.Unbroken (s.queue = [] ∧ s.pending = [])
  manned : s.workers ≠ []
  closed : s.closed = true → s.pending = []

theorem Worker.unbroken_of_idle {nothingLeft : Prop} {w : Worker α β}
    (hw : w = .waiting ∨ w = .holding) : w.Unbroken nothingLeft := by
  rcases hw with rfl | rfl <;>
    exact ⟨fun _ _ hBusy => (by cases hBusy), rfl, fun hGone => (by cases hGone)⟩

theorem Worker.unbroken_of_busy {nothingLeft : Prop} (item : α) {rest : Program (Option β)}
    (hSound : rest.Sound) : (Worker.busy item rest).Unbroken nothingLeft := by
  refine ⟨fun item' rest' hBusy => ?_, rfl, fun hGone => ?_⟩
  · cases hBusy
    exact hSound
  · cases hGone

/-- A worker may go on in any unbroken way. -/
theorem State.Unbroken.setWorker {s : State α β} (h : s.Unbroken) (i : Nat) {w : Worker α β}
    (hw : w.Unbroken (s.queue = [] ∧ s.pending = [])) : (s.setWorker i w).Unbroken := by
  refine ⟨fun w' hMem => ?_, ?_, h.closed⟩
  · rcases List.mem_or_eq_of_mem_set hMem with hOld | rfl
    · exact h.crew w' hOld
    · exact hw
  · intro hNobody
    exact h.manned (by simpa [State.setWorker] using hNobody)

theorem State.Unbroken.after (hJob : ∀ a, (job a).Sound) {s : State α β} (h : s.Unbroken)
    (e : Event) : (s.after job e).Ends State.Unbroken := by
  simp only [State.after]
  by_cases hEnabled : s.enabled e = true
  · simp only [hEnabled, Bool.not_true, Bool.false_eq_true, if_false]
    cases e with
    | close => exact ⟨h.crew, h.manned, fun _ => (enabled_close_iff.mp hEnabled).1⟩
    | acquire i => exact h.setWorker i (Worker.unbroken_of_idle (.inr rfl))
    | leave i =>
      obtain ⟨-, hQueue, hClosed⟩ := enabled_leave_iff.mp hEnabled
      exact h.setWorker i ⟨fun _ _ hBusy => (by cases hBusy), rfl,
        fun _ => ⟨hQueue, h.closed hClosed⟩⟩
    | send =>
      obtain ⟨a, rest, hPending⟩ := List.exists_cons_of_ne_nil (enabled_send_iff.mp hEnabled).1
      simp only [hPending]
      -- there is something left to do, so that no worker has ended
      refine ⟨fun w hMem => ?_, h.manned, fun hClosed => ?_⟩
      · obtain ⟨hSound, hWhole, hEnded⟩ := h.crew w hMem
        refine ⟨hSound, hWhole, fun hGone => ?_⟩
        have hNone : s.pending = [] := (hEnded hGone).2
        rw [hPending] at hNone
        cases hNone
      · have hNone := h.closed hClosed
        rw [hPending] at hNone
        cases hNone
    | receive i =>
      obtain ⟨a, rest, hQueue⟩ := List.exists_cons_of_ne_nil (enabled_receive_iff.mp hEnabled).2
      simp only [hQueue]
      have hNext := h.setWorker i (Worker.unbroken_of_busy a (hJob a))
      refine ⟨fun w hMem => ?_, hNext.manned, hNext.closed⟩
      obtain ⟨hSound, hWhole, hEnded⟩ := hNext.crew w hMem
      refine ⟨hSound, hWhole, fun hGone => ?_⟩
      have hEmpty : s.queue = [] := (hEnded hGone).1
      rw [hQueue] at hEmpty
      cases hEmpty
    | work i =>
      obtain ⟨a, rest, hWorker⟩ := enabled_work_iff.mp hEnabled
      have hSound : rest.Sound := (h.crew _ (List.mem_of_getElem? hWorker)).sound a rest rfl
      simp only [hWorker]
      cases rest with
      | call c next =>
        exact fun reply => h.setWorker i (Worker.unbroken_of_busy _ (hSound reply))
      | done r =>
        cases r with
        | none => exact absurd rfl hSound
        | some b =>
          have hNext := h.setWorker i (Worker.unbroken_of_idle (.inl rfl))
          exact ⟨hNext.crew, hNext.manned, hNext.closed⟩
  · simp only [hEnabled]
    exact h

theorem State.Unbroken.follow (hJob : ∀ a, (job a).Sound) {s : State α β} (h : s.Unbroken)
    (schedule : List Event) : (follow job schedule s).Ends State.Unbroken := by
  induction schedule generalizing s with
  | nil => exact h
  | cons e rest ih => exact (h.after hJob e).bind fun next hNext => ih hNext

-- ---------------------------------------------------------------------------
-- Runs
-- ---------------------------------------------------------------------------

/-- Workers that finish their jobs stay unbroken, and nobody ends. -/
theorem settle_unbroken {nothingLeft : Prop} {ws : List (Worker α β)}
    (h : ∀ w ∈ ws, w.Unbroken nothingLeft) :
    (settle ws).Ends fun settled => settled.2.length = ws.length ∧
      ∀ w ∈ settled.2, w.Unbroken nothingLeft := by
  induction ws with
  | nil => exact ⟨rfl, h⟩
  | cons w rest ih =>
    rw [List.forall_mem_cons] at h
    have hRest := ih h.2
    have hJoin : ∀ {w' : Worker α β} {workers : List (Worker α β)},
        (workers.length = rest.length ∧ ∀ w ∈ workers, w.Unbroken nothingLeft) →
        w'.Unbroken nothingLeft → (w' :: workers).length = (w :: rest).length ∧
          ∀ v ∈ w' :: workers, v.Unbroken nothingLeft := by
      intro w' workers hSettled hw'
      exact ⟨congrArg (· + 1) hSettled.1, List.forall_mem_cons.mpr ⟨hw', hSettled.2⟩⟩
    cases w with
    | busy item p =>
      refine (h.1.sound item p rfl).bind fun r hr => ?_
      cases r with
      | none => exact absurd rfl hr
      | some b =>
        have hIdle : (Worker.waiting : Worker α β).Unbroken nothingLeft :=
          Worker.unbroken_of_idle (.inl rfl)
        exact hRest.bind fun settled hSettled => hJoin hSettled hIdle
    | waiting | holding | finished | crashed =>
      exact hRest.bind fun settled hSettled => hJoin hSettled h.1

/-- While a worker is left, or nothing to do, sound jobs are served to the end. -/
theorem serve_sound (hJob : ∀ a, (job a).Sound) (capacity : Nat) {alive : Nat} {items : List α}
    (hAble : 0 < alive ∨ items = []) (results : List β) :
    (serve job capacity alive false results items).Ends fun o => ∃ rs, o = .results rs := by
  induction items generalizing results with
  | nil => cases alive <;> exact ⟨_, rfl⟩
  | cons item rest ih =>
    obtain ⟨alive, rfl⟩ : ∃ n, alive = n + 1 := by
      rcases hAble with hAlive | hNone
      · exact ⟨alive - 1, by omega⟩
      · cases hNone
    refine (hJob item).bind fun r hr => ?_
    cases r with
    | none => exact absurd rfl hr
    | some b => exact ih (.inl (Nat.succ_pos alive)) _

/-- **Sound jobs.** A pool whose jobs cannot break down returns results along every schedule,
whatever the calls of its jobs are answered. -/
theorem returns_results (hJob : ∀ a, (job a).Sound) (schedule : List Event) (workers : Nat)
    (items : List α) : (run schedule workers items job).Ends fun o => ∃ rs, o = .results rs := by
  have hStart : (initial workers items : State α β).Unbroken := by
    refine ⟨fun w hMem => ?_, ?_, fun hClosed => ?_⟩
    · exact Worker.unbroken_of_idle (.inl (List.eq_of_mem_replicate hMem))
    · simp [initial]
    · cases hClosed
  refine (hStart.follow hJob schedule).bind fun s hs => ?_
  refine (settle_unbroken hs.crew).bind fun settled hSettled => ?_
  obtain ⟨hLength, hCrew⟩ := hSettled
  have hWhole : settled.2.any Worker.isCrashed = false :=
    List.any_eq_false.mpr fun w hMem => by simp [(hCrew w hMem).whole]
  simp only [hWhole]
  refine serve_sound hJob _ ?_ _
  by_cases hGone : ∀ w ∈ settled.2, w.isGone = true
  · -- everybody has ended, so that nothing is left
    obtain ⟨w, hMem⟩ := List.exists_mem_of_ne_nil settled.2 fun hNobody => hs.manned
      (List.eq_nil_of_length_eq_zero (by rw [← hLength, hNobody]; rfl))
    obtain ⟨hQueue, hPending⟩ := (hCrew w hMem).ended (hGone w hMem)
    exact .inr (by rw [hQueue, hPending]; rfl)
  · left
    rw [List.countP_pos_iff]
    simpa using hGone

/-- Served without interleaving, jobs that cannot break down run one after the other. -/
theorem serve_some (q : α → Program β) (capacity alive : Nat) (results : List β)
    (items : List α) :
    serve (fun a => some <$> q a) capacity (alive + 1) false results items =
      (fun rs => .results (results ++ rs)) <$> items.mapM q := by
  induction items generalizing results with
  | nil => simp [serve]
  | cons item rest ih =>
    simp only [serve, List.mapM_cons, map_eq_pure_bind, bind_assoc, pure_bind]
    congr 1
    funext b
    simp [ih]

/-- Without interleaving a pool runs jobs that cannot break down one after the other, however many
workers it has. -/
theorem run_nil (q : α → Program β) (workers : Nat) (items : List α) :
    run [] workers items (fun a => some <$> q a) = .results <$> items.mapM q := by
  have hSettle : ∀ n, settle (List.replicate n (.waiting : Worker α β)) =
      pure ([], List.replicate n .waiting) := by
    intro n
    induction n with
    | zero => rfl
    | succ n ih => simp [List.replicate_succ, settle, ih]
  obtain ⟨n, hCrew⟩ : ∃ n, max workers 1 = n + 1 := ⟨max workers 1 - 1, by omega⟩
  have hCount : (List.replicate (n + 1) (.waiting : Worker α β)).countP (fun w => !w.isGone) =
      n + 1 := by
    simp [List.countP_replicate, Worker.isGone]
  have hWhole : (List.replicate (n + 1) (.waiting : Worker α β)).any Worker.isCrashed = false := by
    simp [List.any_replicate, Worker.isCrashed]
  simp only [run, follow, pure_bind, drain, initial, hCrew, hSettle, hCount, hWhole,
    List.nil_append, serve_some]

end Pool

end LicenseAudit
