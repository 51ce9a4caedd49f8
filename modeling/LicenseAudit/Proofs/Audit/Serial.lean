import LicenseAudit.Proofs.Audit.Classes
import LicenseAudit.Proofs.Pool.Serial

/-!
# Repairs in any order

The repairs of different files share nothing on the disk: each works at the file and at its
temporary file, and temporary files of different files have different names. Their steps can
therefore be taken in any order, also where some of them fail.

## Results

* `only_repair` — the repair of a file keeps to its site.
* `repairs_serializable` — under every order of steps, the repairs of different files end as one
  after the other.
-/

namespace LicenseAudit.Engine

variable {fs : FileSystem} {files : List Path}

/-- The repair of a file keeps to its site. -/
theorem only_repair (e : Engine) (s : Site e.tag) : (e.repair s.path).Only s.Reaches := by
  refine Program.Only.bind ?_ fun outcome => Program.only_pure _
  unfold fixFile
  cases e.headers.supports s.path with
  | false => exact Program.only_pure _
  | true =>
    cases e.headers.headerFor? s.path with
    | none => exact Program.only_pure _
    | some header =>
      refine Program.Only.bind (Program.only_ask .read) fun found => ?_
      cases found with
      | error cause => exact Program.only_pure _
      | ok content =>
        cases hMarker : carries content e.marker with
        | true =>
          simp only [hMarker, if_true]
          exact Program.only_pure _
        | false =>
          simp only [hMarker, Bool.false_eq_true, if_false]
          refine (Site.only_replace _).bind fun replaced => ?_
          cases replaced <;> exact Program.only_pure _

/-- A regular file is at a site. -/
theorem exists_site (hTree : fs.WellFormed) (e : Engine) {p : Path}
    (hFile : ∃ mode, fs.linkStatus p = .ok ⟨.file, mode⟩)
    (hVacant : ∀ s, fs.linkStatus (p.temporarySibling e.tag) ≠ .ok s) :
    ∃ (dir : Location) (n : String) (before : Cells),
      (⟨p, dir, n⟩ : Site e.tag).Shows fs before ∧ before.spare = none ∧
      fs.locate false p = .ok (n :: dir) := by
  obtain ⟨mode, hStatus⟩ := hFile
  obtain ⟨⟨l, entry⟩, hFind, hKind⟩ := bind_eq_ok_iff.mp hStatus
  cases entry with
  | directory _ => cases hKind
  | link _ => cases hKind
  | file content mode' =>
    obtain ⟨dir, n, hSeat, hFits, rfl⟩ := FileSystem.seat_of_find hTree hFind
    obtain ⟨hLocate, hEntry⟩ := FileSystem.find_eq_ok_iff.mp hFind
    exact ⟨dir, n, ⟨content, mode', none⟩, Site.shows_of_vacant hSeat hFits hEntry hVacant, rfl,
      hLocate⟩

/-- **Repairs are serializable.** Take regular files at different places, with nothing under the
names of their temporary files, so that none of them is the temporary file of another; let any of
the calls fail that their repairs make. Then, with any number of workers, no order of the calls gets
stuck; and once the pool is over, every file has the outcome, and the same entries are left, as when
the repairs are run one after the other, in whatever order. -/
theorem repairs_serializable (hTree : fs.WellFormed) (e : Engine)
    (hFiles : ∀ p ∈ files, ∃ mode, fs.linkStatus p = .ok ⟨.file, mode⟩)
    (hDistinct : files.Pairwise fun p q => fs.locate false p ≠ fs.locate false q)
    (hVacant : ∀ p ∈ files, ∀ s, fs.linkStatus (p.temporarySibling e.tag) ≠ .ok s)
    (scripts : Path → List (Option Fault)) {workers : Nat}
    {x : Pool.Snapshot Path (Path × Except FileError FixOutcome)}
    (hReach : Pool.Reachable (fun p => some <$> (e.repair p).disturbed (scripts p)) workers files
      fs x) :
    (x.1.returned?.isSome = true ∨ ∃ event : Pool.Event, x.1.enabled event = true) ∧
    ∀ o, x.1.returned? = some o → ∃ outcomes, o = .results outcomes ∧
      ∀ order : List Path, order.Perm files →
        outcomes.Perm
          ((order.mapM fun p => (e.repair p).disturbed (scripts p)).run fs).1 ∧
        x.2.Same ((order.mapM fun p => (e.repair p).disturbed (scripts p)).run fs).2 := by
  have hSites : ∀ p ∈ files, ∃ (dir : Location) (n : String) (before : Cells),
      (⟨p, dir, n⟩ : Site e.tag).Shows fs before ∧ before.spare = none ∧
      fs.locate false p = .ok (n :: dir) :=
    fun p hMem => exists_site hTree e (hFiles p hMem) (hVacant p hMem)
  have hCells : Nonempty Cells := ⟨⟨[], 0, none⟩⟩
  choose! dir name before hShows hSpare hLocate using hSites
  let site : Path → Site e.tag := fun p => ⟨p, dir p, name p⟩
  have hApart : files.Pairwise fun p q => ∀ l, (site p).Owns l → ¬ (site q).Owns l := by
    refine hDistinct.imp_of_mem ?_
    intro p q hp hq hpq
    refine (hShows p hp).disjoint (hShows q hq) ?_ (hSpare p hp) (hSpare q hq)
    intro hSame
    have hPlace : name p :: dir p = name q :: dir q := hSame
    exact hpq (by rw [hLocate p hp, hLocate q hq, hPlace])
  have hLocal : ∀ p, ((e.repair p).disturbed (scripts p)).Only (site p).Reaches := by
    intro p
    exact (only_repair e (site p)).disturbed (fun q content content' hWrite =>
      hWrite.write_any content') (scripts p)
  exact Pool.serial_of_reachable hApart hShows hLocal hReach

/-- The temporary file of the first file cannot be moved into place. -/
def stuckRename : Path → List (Option Fault) := fun p =>
  if p = ⟨"./a.rs"⟩ then [none, none, none, none, some (.refused .busy)] else []

/-- Two workers take an item each and make their calls in turn; the second one ends first. -/
def takingTurns : List Pool.Event :=
  [.send, .send, .close, .acquire 0, .receive 0, .acquire 1, .receive 1,
    .work 0, .work 1, .work 0, .work 1, .work 0, .work 1, .work 0, .work 1, .work 1, .work 1,
    .work 0, .work 0, .acquire 0, .leave 0, .acquire 1, .leave 1]

/-- Two workers repair two files call by call in turn. The repair of the first file fails at its
last but one call, removes the temporary file and is over after that of the second file. -/
theorem repairs_serializable_two_files :
    ∃ x outcomes, Pool.Reachable
        (fun p => some <$> (letterEngine.repair p).disturbed (stuckRename p)) 2
        [⟨"./a.rs"⟩, ⟨"./b.rs"⟩] (twoFiles [0x41] [0x42]) x ∧
      x.1.returned? = some (.results outcomes) ∧
      outcomes = [(⟨"./b.rs"⟩, .ok .added), (⟨"./a.rs"⟩, .error (.write ⟨"./a.rs"⟩ .busy))] ∧
      ∀ order : List Path, order.Perm [⟨"./a.rs"⟩, ⟨"./b.rs"⟩] →
        outcomes.Perm ((order.mapM fun p =>
          (letterEngine.repair p).disturbed (stuckRename p)).run (twoFiles [0x41] [0x42])).1 ∧
        x.2.Same ((order.mapM fun p =>
          (letterEngine.repair p).disturbed (stuckRename p)).run (twoFiles [0x41] [0x42])).2 := by
  have hReach := Pool.follow_steps
    (fun p => some <$> (letterEngine.repair p).disturbed (stuckRename p))
    takingTurns (Pool.initial 2 [⟨"./a.rs"⟩, ⟨"./b.rs"⟩]) (twoFiles [0x41] [0x42])
  have hFiles : ∀ p ∈ [(⟨"./a.rs"⟩ : Path), ⟨"./b.rs"⟩],
      ∃ mode, (twoFiles [0x41] [0x42]).linkStatus p = .ok ⟨.file, mode⟩ := by
    intro p hMem
    simp only [List.mem_cons, List.not_mem_nil, or_false] at hMem
    rcases hMem with rfl | rfl <;> exact ⟨0o644, rfl⟩
  have hDistinct : [(⟨"./a.rs"⟩ : Path), ⟨"./b.rs"⟩].Pairwise fun p q =>
      (twoFiles [0x41] [0x42]).locate false p ≠ (twoFiles [0x41] [0x42]).locate false q := by
    have hFirst : (twoFiles [0x41] [0x42]).locate false ⟨"./a.rs"⟩ = .ok ["a.rs"] := rfl
    have hSecond : (twoFiles [0x41] [0x42]).locate false ⟨"./b.rs"⟩ = .ok ["b.rs"] := rfl
    simp [hFirst, hSecond]
  have hVacant : ∀ p ∈ [(⟨"./a.rs"⟩ : Path), ⟨"./b.rs"⟩], ∀ s,
      (twoFiles [0x41] [0x42]).linkStatus (p.temporarySibling letterEngine.tag) ≠ .ok s := by
    intro p hMem s hStatus
    simp only [List.mem_cons, List.not_mem_nil, or_false] at hMem
    rcases hMem with rfl | rfl <;> cases hStatus
  have hSerial := repairs_serializable (wellFormed_twoFiles [0x41] [0x42]) letterEngine hFiles
    hDistinct hVacant stuckRename hReach
  generalize hEnd : (Pool.follow (fun p => some <$> (letterEngine.repair p).disturbed
      (stuckRename p)) takingTurns (Pool.initial 2 [⟨"./a.rs"⟩, ⟨"./b.rs"⟩])).run
      (twoFiles [0x41] [0x42]) = x at hReach hSerial
  have hState : x.1.closed = true ∧ x.1.workers.all Pool.Worker.isGone = true ∧
      x.1.workers.any Pool.Worker.isCrashed = false ∧ x.1.results =
        [(⟨"./b.rs"⟩, .ok .added), (⟨"./a.rs"⟩, .error (.write ⟨"./a.rs"⟩ .busy))] := by
    rw [← hEnd]
    decide +kernel
  obtain ⟨hClosed, hGone, hSound, hResults⟩ := hState
  have hReturned : x.1.returned? = some (.results x.1.results) := by
    simp [Pool.State.returned?, hClosed, hGone, hSound]
  obtain ⟨outcomes, hOutcomes, hOrders⟩ := hSerial.2 _ hReturned
  obtain rfl := Pool.Outcome.results.inj hOutcomes
  exact ⟨x, _, hReach, hReturned, hResults, hOrders⟩

end LicenseAudit.Engine
