import LicenseAudit.Program.Basic

/-!
# Worker pools

A pool runs one job on every item of a list with a fixed number of workers. A producer hands
the items over through a bounded queue; whoever holds the lock of the queue takes the next
item; a worker whose job breaks down is gone. The result is the list of what the jobs gave, in
the order in which they were completed.

* `Pool.State`, `Pool.Event` — the states of a run and the steps between them. The steps of a
  job are its calls, so jobs interleave call by call;
* `Pool.State.enabled`, `Pool.State.after` — which steps are possible and what they do;
* `Pool.State.returned?` — what the run answers once it is over;
* `Pool.run` — a run that follows a given schedule as far as it goes and then lets the
  workers finish one after the other.

The queue belongs to the run and not to the workers: it takes items as long as there is room,
also when no worker is left.
-/

namespace LicenseAudit.Pool

variable {α β : Type}

/-! ## States and steps -/

/-- What one worker is doing. A job that gives nothing has broken down. -/
inductive Worker (α β : Type) where
  /-- Waits for the lock of the queue. -/
  | waiting
  /-- Holds the lock and waits for an item. -/
  | holding
  /-- Runs the rest of the job on an item. -/
  | busy (item : α) (rest : Program (Option β))
  /-- Has ended because there is nothing left to do. -/
  | finished
  /-- Has ended because its job broke down. -/
  | crashed

namespace Worker

/-- Whether the worker has ended. -/
def isGone : Worker α β → Bool
  | finished | crashed => true
  | _ => false

/-- Whether the worker holds the lock of the queue. -/
def isHolding : Worker α β → Bool
  | holding => true
  | _ => false

/-- Whether the worker has broken down. -/
def isCrashed : Worker α β → Bool
  | crashed => true
  | _ => false

end Worker

/-- A state of a run: the items that the producer still has, those in the queue, whether the
producer is done, the workers, and the results so far. -/
structure State (α β : Type) where
  capacity : Nat
  pending : List α
  queue : List α
  closed : Bool
  workers : List (Worker α β)
  results : List β

/-- One step of a run. Workers are given by their number. -/
inductive Event where
  /-- The producer puts its next item into the queue. -/
  | send
  /-- The producer closes the queue. -/
  | close
  /-- A worker takes the lock. -/
  | acquire (worker : Nat)
  /-- A worker takes an item and gives the lock back. -/
  | receive (worker : Nat)
  /-- A worker makes the next call of its job, or delivers the result, or breaks down. -/
  | work (worker : Nat)
  /-- A worker ends. -/
  | leave (worker : Nat)
deriving DecidableEq

/-- The outcome of a run. -/
inductive Outcome (β : Type) where
  | results (rs : List β)
  /-- Some job broke down. -/
  | panicked
  /-- The run waits for ever. -/
  | stalled
deriving DecidableEq

namespace State

/-- Whether a worker holds the lock. -/
def locked (s : State α β) : Bool := s.workers.any Worker.isHolding

/-- Whether a step is possible. -/
def enabled (s : State α β) : Event → Bool
  | .send => !s.pending.isEmpty && s.queue.length < s.capacity
  | .close => s.pending.isEmpty && !s.closed
  | .acquire i =>
    match s.workers[i]? with
    | some .waiting => !s.locked
    | _ => false
  | .receive i =>
    match s.workers[i]? with
    | some .holding => !s.queue.isEmpty
    | _ => false
  | .work i =>
    match s.workers[i]? with
    | some (.busy _ _) => true
    | _ => false
  | .leave i =>
    match s.workers[i]? with
    | some .holding => s.queue.isEmpty && s.closed
    | _ => false

/-- Puts a worker into another state. -/
def setWorker (s : State α β) (i : Nat) (w : Worker α β) : State α β :=
  { s with workers := s.workers.set i w }

/-- What a possible step does; a step that is not possible does nothing. -/
def after (job : α → Program (Option β)) (s : State α β) (e : Event) : Program (State α β) :=
  if !s.enabled e then return s
  else match e with
  | .send =>
    match s.pending with
    | item :: rest => return { s with pending := rest, queue := s.queue ++ [item] }
    | [] => return s
  | .close => return { s with closed := true }
  | .acquire i => return s.setWorker i .holding
  | .receive i =>
    match s.queue with
    | item :: rest => return { s.setWorker i (.busy item (job item)) with queue := rest }
    | [] => return s
  | .work i =>
    match s.workers[i]? with
    | some (.busy item (.call c next)) => do
      let reply ← Program.ask c
      return s.setWorker i (.busy item (next reply))
    | some (.busy _ (.done (some b))) =>
      return { s.setWorker i .waiting with results := s.results ++ [b] }
    | some (.busy _ (.done none)) => return s.setWorker i .crashed
    | _ => return s
  | .leave i => return s.setWorker i .finished

/-- What the run answers once the queue is closed and all workers have ended. -/
def returned? (s : State α β) : Option (Outcome β) :=
  if s.closed && s.workers.all Worker.isGone then
    some (if s.workers.any Worker.isCrashed then .panicked else .results s.results)
  else none

end State

/-! ## Runs -/

/-- The start of a run. The queue has room for two items for each worker, and there is at
least one worker. -/
def initial (workers : Nat) (items : List α) : State α β :=
  { capacity := 2 * max workers 1
    pending := items
    queue := []
    closed := false
    workers := List.replicate (max workers 1) .waiting
    results := [] }

/-- Takes the steps of a schedule one after the other. -/
def follow (job : α → Program (Option β)) : List Event → State α β → Program (State α β)
  | [], s => return s
  | e :: rest, s => do follow job rest (← s.after job e)

/-- Lets every busy worker finish its job, in the order of the workers. -/
def settle : List (Worker α β) → Program (List β × List (Worker α β))
  | [] => return ([], [])
  | .busy _ p :: rest => do
    match ← p with
    | some b =>
      let (found, workers) ← settle rest
      return (b :: found, .waiting :: workers)
    | none =>
      let (found, workers) ← settle rest
      return (found, .crashed :: workers)
  | w :: rest => do
    let (found, workers) ← settle rest
    return (found, w :: workers)

/-- Serves items one after the other while workers are left. When none is left, the run is over
if the queue can take what remains, and otherwise the producer waits for ever. -/
def serve (job : α → Program (Option β)) (capacity : Nat) :
    (alive : Nat) → (crashed : Bool) → List β → List α → Program (Outcome β)
  | _, crashed, results, [] => return if crashed then .panicked else .results results
  | 0, _, _, items@(_ :: _) => return if items.length ≤ capacity then .panicked else .stalled
  | alive + 1, crashed, results, item :: rest => do
    match ← job item with
    | some b => serve job capacity (alive + 1) crashed (results ++ [b]) rest
    | none => serve job capacity alive true results rest

/-- Finishes a run without interleaving. -/
def drain (job : α → Program (Option β)) (s : State α β) : Program (Outcome β) := do
  let (found, workers) ← settle s.workers
  serve job s.capacity (workers.countP fun w => !w.isGone) (workers.any Worker.isCrashed)
    (s.results ++ found) (s.queue ++ s.pending)

/-- Runs a job on every item: along the schedule as far as it goes, then without
interleaving. -/
def run (schedule : List Event) (workers : Nat) (items : List α)
    (job : α → Program (Option β)) : Program (Outcome β) := do
  drain job (← follow job schedule (initial workers items))

end LicenseAudit.Pool
