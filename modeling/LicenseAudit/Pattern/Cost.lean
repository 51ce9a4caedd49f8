import LicenseAudit.Pattern.Basic

/-!
# The cost of a pattern

A pattern stands for an automaton over the bytes of UTF-8, with every repetition written out.
Patterns whose automaton would be too large are refused.

* `CharSet.ranges` — a set as ranges of code points, in order and apart from each other;
* `CharSet.cost`, `Pattern.cost` — the size of the automaton in bytes;
* `Pattern.costLimit` — the greatest size that is accepted.

The automaton of a set has one path for each block of code points whose UTF-8 forms differ in
every position by a range of bytes. Paths share the states of their common beginnings.
-/

namespace LicenseAudit

namespace CharSet

/-! ## Ranges -/

/-- Inclusive ranges of code points. -/
abbrev Ranges := List (Nat × Nat)

/-- Joins ranges that overlap or touch, in a list that is ordered by their beginnings. -/
def joinOrdered : Ranges → Ranges
  | [] => []
  | (lo, hi) :: rest =>
    match joinOrdered rest with
    | [] => [(lo, hi)]
    | (lo', hi') :: more =>
      if lo' ≤ hi + 1 then (lo, max hi hi') :: more else (lo, hi) :: (lo', hi') :: more

/-- Ranges in order and apart from each other. -/
def normalized (rs : Ranges) : Ranges :=
  joinOrdered (rs.mergeSort fun a b => a.1 ≤ b.1)

/-- The greatest code point. -/
def lastCode : Nat := 0x10FFFF

/-- The ranges between ordered ranges, from a code point on. -/
def gapsFrom (start : Nat) : Ranges → Ranges
  | [] => if start ≤ lastCode then [(start, lastCode)] else []
  | (lo, hi) :: rest =>
    if start < lo then (start, lo - 1) :: gapsFrom (hi + 1) rest else gapsFrom (hi + 1) rest

/-- The code points outside ordered ranges. -/
def complement (rs : Ranges) : Ranges := gapsFrom 0 rs

/-- The code points in both of two lists of ordered ranges. -/
def common (a b : Ranges) : Ranges :=
  complement (normalized (complement a ++ complement b))

/-- The ranges of a run. -/
def runRanges (r : Text.CodeRun) : Ranges :=
  if r.step = 1 then [(r.first, r.last)]
  else (List.range ((r.last - r.first) / r.step + 1)).map fun k =>
    (r.first + k * r.step, r.first + k * r.step)

/-- The part of a run that lies in a range, moved so that the run begins at `target`. -/
def movedPart (r : Text.CodeRun) (target : Nat) (range : Nat × Nat) : Ranges :=
  let skipped := (max range.1 r.first - r.first + (r.step - 1)) / r.step
  let first := r.first + skipped * r.step
  let last := min range.2 r.last
  if last < first then []
  else runRanges ⟨target + (first - r.first), target + (last - r.first), r.step⟩

/-- The code points that a mapping of case sends into or out of a range. -/
def caseNeighbours (runs : List Text.CaseRun) (range : Nat × Nat) : Ranges :=
  runs.flatMap fun r =>
    movedPart ⟨r.first, r.last, r.step⟩ r.target range ++
      movedPart ⟨r.target, r.target + (r.last - r.first), r.step⟩ r.first range

/-- Ranges with all that they lead to in one step of a mapping of case. -/
def withNeighbours (runs : List Text.CaseRun) (rs : Ranges) : Ranges :=
  normalized (rs ++ rs.flatMap (caseNeighbours runs))

/-- The mapping of case inside ASCII. -/
def asciiRuns : List Text.CaseRun := [⟨0x41, 0x5A, 1, 0x61⟩]

/-- A set as ranges of code points, in order and apart from each other. Two steps of the mapping
of case reach all characters that differ by case only. -/
def ranges : CharSet → Ranges
  | codes s => normalized (s.flatMap runRanges)
  | union a b => normalized (a.ranges ++ b.ranges)
  | inter a b => common a.ranges b.ranges
  | diff a b => common a.ranges (complement b.ranges)
  | negate a => complement a.ranges
  | caseless a => withNeighbours Text.foldRuns (withNeighbours Text.foldRuns a.ranges)
  | asciiCaseless a => withNeighbours asciiRuns a.ranges

/-! ## Paths -/

/-- The blocks of code points whose UTF-8 forms have one length, which comes first. Surrogates
have none. -/
def encodedBlocks : List (Nat × Nat × Nat) :=
  [(1, 0, 0x7F), (2, 0x80, 0x7FF), (3, 0x800, 0xD7FF), (3, 0xE000, 0xFFFF),
    (4, 0x10000, 0x10FFFF)]

/-- Cuts a range so that in every part either all code points agree in what stands before the
last `position` bytes, or those last bytes take all their values. -/
def cutAt (position : Nat) (range : Nat × Nat) : Ranges :=
  let size := Nat.pow 64 position
  let (lo, hi) := range
  if lo / size = hi / size then [range]
  else
    let head := if lo % size = 0 then [] else [(lo, (lo / size + 1) * size - 1)]
    let tail := if hi % size = size - 1 then [] else [(hi / size * size, hi)]
    let first := if lo % size = 0 then lo else (lo / size + 1) * size
    let last := if hi % size = size - 1 then hi else hi / size * size - 1
    head ++ (if first ≤ last then [(first, last)] else []) ++ tail

/-- The paths for a range: the length of each and the code points at its ends. -/
def paths (range : Nat × Nat) : List (Nat × Nat × Nat) :=
  encodedBlocks.flatMap fun (length, lo, hi) =>
    let part := (max lo range.1, min hi range.2)
    if part.2 < part.1 then []
    else (((List.range length).drop 1).foldl (fun parts position => parts.flatMap (cutAt position))
      [part]).map fun (lo, hi) => (length, lo, hi)

/-- How many states a path does not share with the path before it. -/
def newStates (previous? : Option (Nat × Nat × Nat)) (path : Nat × Nat × Nat) : Nat :=
  let (length, lo, hi) := path
  (List.range length).countP fun position =>
    match previous? with
    | Option.none => true
    | some (length', lo', hi') =>
      length' ≠ length || lo' / Nat.pow 64 position ≠ lo / Nat.pow 64 position ||
        hi' / Nat.pow 64 position ≠ hi / Nat.pow 64 position

/-- How many states the paths of a list have, after a path. -/
def stateCount (previous? : Option (Nat × Nat × Nat)) : List (Nat × Nat × Nat) → Nat
  | [] => 0
  | path :: rest => newStates previous? path + stateCount (some path) rest

/-! ## Cost -/

/-- The size of one state. -/
def stateSize : Nat := 32

/-- The size of a set that has more than one character: a state with a list of byte ranges in
ASCII, else a branch to every path. -/
def rangesCost (rs : Ranges) : Nat :=
  if rs.all fun r => r.2 < 0x80 then 2 * stateSize + 8 * rs.length
  else
    let all := rs.flatMap paths
    2 * stateSize + 4 * all.length + stateSize * stateCount Option.none all

/-- The size of a set. A single character is one path without a branch. -/
def cost (s : CharSet) : Nat :=
  match s.ranges with
  | [] => stateSize
  | [(lo, hi)] =>
    if lo = hi then stateSize * stateCount Option.none (paths (lo, hi)) else rangesCost [(lo, hi)]
  | rs => rangesCost rs

end CharSet

namespace Pattern

/-- The size of the automaton of the pattern. -/
def cost : Pattern → Nat
  | empty => 0
  | one s => s.cost
  | place _ => CharSet.stateSize
  | seq p q => p.cost + q.cost
  | either p q => p.cost + q.cost + 2 * CharSet.stateSize + 4
  | repeated p low high? =>
    match high? with
    | none => max low 1 * p.cost + CharSet.stateSize + 4
    | some high =>
      if high = low then low * p.cost
      else low * p.cost + CharSet.stateSize + (high - low) * (p.cost + CharSet.stateSize + 8)

/-- A pattern of greater size is refused. -/
def costLimit : Nat := 10 * 1024 * 1024

end Pattern

end LicenseAudit
