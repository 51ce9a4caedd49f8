import LicenseAudit.Proofs.Pool.Replacing
import LicenseAudit.Proofs.Program.Footprint

/-!
# Pools that could as well work one by one

Where every job of a pool keeps to a site of its own, the order of the steps does not matter: the
jobs answer what they answer one after the other, and leave what they leave one after the other, in
whatever order they are taken.

## Results

* `mapM_settles` — one after the other, every job ends as its cells settle it.
* `serial_of_reachable` — under every order of steps the jobs end as one after the other.
* `run_serial` — and so they do in a run along any schedule.
-/

namespace LicenseAudit

namespace Pool

variable {α β : Type} {tag : Nat} {site : α → Site tag} {job : α → Program β}
  {before after : α → Cells} {answer : α → β} {items : List α} {fs fs' fs'' : FileSystem}

/-- One after the other, every job ends as its cells settle it, and nothing changes outside the
sites. -/
theorem mapM_settles
    (hApart : items.Pairwise fun a b => ∀ l, (site a).Owns l → ¬ (site b).Owns l)
    (hShows : ∀ a ∈ items, (site a).Shows fs (before a))
    (hSettles : ∀ a, (site a).Settles (job a) (before a) (answer a) (after a)) :
    ((items.mapM job).run fs).1 = items.map answer ∧
      (∀ a ∈ items, (site a).Shows ((items.mapM job).run fs).2 (after a)) ∧
      FileSystem.Alters (fun l => ∃ a ∈ items, (site a).Owns l) fs
        ((items.mapM job).run fs).2 := by
  induction items generalizing fs with
  | nil =>
    rw [List.mapM_nil]
    exact ⟨rfl, fun a hMem => absurd hMem List.not_mem_nil, .refl _ _⟩
  | cons a rest ih =>
    obtain ⟨hFirst, hRest⟩ := List.pairwise_cons.mp hApart
    obtain ⟨hAnswer, hAfter, hStep⟩ :=
      (hSettles a).run (hShows a (List.mem_cons_self ..))
    -- the first job does not show at the sites of the others, nor theirs at its site
    have hShows' : ∀ b ∈ rest, (site b).Shows ((job a).run fs).2 (before b) := by
      intro b hMem
      exact (hShows b (List.mem_cons_of_mem _ hMem)).frame hStep
        fun l hb ha => hFirst b hMem l ha hb
    obtain ⟨hAnswers, hAfters, hAlters⟩ := ih hRest hShows'
    rw [List.mapM_cons, Program.run_bind, Program.run_bind, hAnswer, hAnswers]
    refine ⟨rfl, fun b hMem => ?_, ?_⟩
    · rcases List.mem_cons.mp hMem with rfl | hLater
      · refine hAfter.frame hAlters ?_
        rintro l hOwns ⟨c, hOther, hOwns'⟩
        exact hFirst c hOther l hOwns hOwns'
      · exact hAfters b hLater
    · refine (hStep.mono fun l hOwns => ⟨a, List.mem_cons_self .., hOwns⟩).trans
        (hAlters.mono ?_)
      rintro l ⟨b, hMem, hOwns⟩
      exact ⟨b, List.mem_cons_of_mem _ hMem, hOwns⟩

/-- Two outcomes with the same cells at each site, and no changes elsewhere, are the same. -/
theorem same_of_shows
    (hShows : ∀ a ∈ items, (site a).Shows fs' (after a) ∧ (site a).Shows fs'' (after a))
    (h : FileSystem.Alters (fun l => ∃ a ∈ items, (site a).Owns l) fs fs')
    (h' : FileSystem.Alters (fun l => ∃ a ∈ items, (site a).Owns l) fs fs'') :
    fs'.Same fs'' where
  start := h'.keeps.start.trans h.keeps.start.symm
  entries := by
    intro l
    by_cases hOwned : ∃ a ∈ items, (site a).Owns l
    · obtain ⟨a, hMem, hOwns⟩ := hOwned
      exact (hShows a hMem).1.lookup?_eq (hShows a hMem).2 hOwns
    · rw [h'.outside l hOwned, h.outside l hOwned]

/-- **The order of steps does not matter.** Let every job keep to its site, and let no two sites
share a place. Then, with any number of workers, no order of steps gets stuck; and once the run is
over, each item has the answer that its job gives when the jobs are run one after the other, in
whatever order, and the same entries are left. -/
theorem serial_of_reachable
    (hApart : items.Pairwise fun a b => ∀ l, (site a).Owns l → ¬ (site b).Owns l)
    (hShows : ∀ a ∈ items, (site a).Shows fs (before a))
    (hLocal : ∀ a, (job a).Only (site a).Reaches) {workers : Nat} {x : Snapshot α β}
    (hReach : Reachable (fun a => some <$> job a) workers items fs x) :
    (x.1.returned?.isSome = true ∨ ∃ e : Event, x.1.enabled e = true) ∧
    ∀ o, x.1.returned? = some o → ∃ rs, o = .results rs ∧
      ∀ order : List α, order.Perm items →
        rs.Perm ((order.mapM job).run fs).1 ∧ x.2.Same ((order.mapM job).run fs).2 := by
  choose answer after hSettles using fun a => Site.exists_settles (hLocal a) (before a)
  have hUpkeep := upkeep_meets site (fun a b left => b = answer a ∧ left = after a) items fs
  have hStart := replacing_of_meets hShows fun a _ => hSettles a
  obtain ⟨hMoving, hReturns⟩ :=
    returns_of_reachable hUpkeep not_replacing_none hApart hStart hReach
  have hAlters : FileSystem.Alters (fun l => ∃ a ∈ items, (site a).Owns l) fs x.2 :=
    holds_of_reachable hUpkeep hApart hStart (fun hInv => hInv.alters) (.refl _ _) hReach
  refine ⟨hMoving, fun o hReturned => ?_⟩
  obtain ⟨found, rfl, hFound, hEnds⟩ := hReturns o hReturned
  have hEnd : ∀ e ∈ found, e.2 = answer e.1 ∧ (site e.1).Shows x.2 (after e.1) := by
    intro e hMem
    obtain ⟨-, -, cells, hCells, b, hSame, rfl, rfl⟩ := hEnds e hMem
    exact ⟨Option.some_inj.mp hSame, hCells⟩
  refine ⟨found.map Prod.snd, rfl, fun order hOrder => ?_⟩
  have hApart' : order.Pairwise fun a b => ∀ l, (site a).Owns l → ¬ (site b).Owns l :=
    hOrder.symm.pairwise hApart fun h l hb ha => h l ha hb
  obtain ⟨hAnswers, hAfters, hAlters'⟩ :=
    mapM_settles hApart' (fun a hMem => hShows a (hOrder.mem_iff.mp hMem)) hSettles
  have hBoth : ∀ a ∈ items, (site a).Shows x.2 (after a) ∧
      (site a).Shows ((order.mapM job).run fs).2 (after a) := by
    intro a hMem
    obtain ⟨e, hMem', rfl⟩ := List.mem_map.mp (hFound.mem_iff.mpr hMem)
    exact ⟨(hEnd e hMem').2, hAfters e.1 (hOrder.mem_iff.mpr hMem)⟩
  refine ⟨?_, same_of_shows hBoth hAlters (hAlters'.mono ?_)⟩
  · have hResults : found.map Prod.snd = (found.map Prod.fst).map answer := by
      rw [List.map_map]
      exact List.map_congr_left fun e hMem => (hEnd e hMem).1
    rw [hResults, hAnswers]
    exact (hFound.trans hOrder.symm).map answer
  · rintro l ⟨a, hMem, hOwns⟩
    exact ⟨a, hOrder.mem_iff.mp hMem, hOwns⟩

/-- A run along any schedule ends as the jobs do one after the other. -/
theorem run_serial (schedule : List Event) (workers : Nat)
    (hApart : items.Pairwise fun a b => ∀ l, (site a).Owns l → ¬ (site b).Owns l)
    (hShows : ∀ a ∈ items, (site a).Shows fs (before a))
    (hLocal : ∀ a, (job a).Only (site a).Reaches) :
    ∃ rs fs', (run schedule workers items fun a => some <$> job a).run fs = (.results rs, fs') ∧
      rs.Perm ((items.mapM job).run fs).1 ∧ fs'.Same ((items.mapM job).run fs).2 := by
  obtain ⟨s, fs', hReach, hFiles, hEnd⟩ :=
    run_reaches_end (fun a => some <$> job a) schedule workers items fs
  obtain ⟨hMoving, hReturns⟩ := serial_of_reachable hApart hShows hLocal hReach
  have hEnded : ∀ o, s.returned? = some o → ∃ rs, o = .results rs ∧
      rs.Perm ((items.mapM job).run fs).1 ∧ fs'.Same ((items.mapM job).run fs).2 := by
    intro o hReturned
    obtain ⟨rs, hResults, hOrders⟩ := hReturns o hReturned
    exact ⟨rs, hResults, hOrders items (List.Perm.refl items)⟩
  cases hOutcome : ((run schedule workers items fun a => some <$> job a).run fs).1 with
  | stalled =>
    rw [hOutcome] at hEnd
    have hShape : Shape workers s := shape_of_reachable hReach
    exact absurd hEnd ((enabled_or_returned_iff hShape).mp hMoving)
  | panicked =>
    rw [hOutcome] at hEnd
    obtain ⟨rs, hResults, -⟩ := hEnded _ hEnd
    cases hResults
  | results rs =>
    rw [hOutcome] at hEnd
    obtain ⟨rs', hResults, hSerial⟩ := hEnded _ hEnd
    obtain rfl := Outcome.results.inj hResults
    exact ⟨rs, fs', Prod.ext hOutcome hFiles, hSerial⟩

end Pool

end LicenseAudit
