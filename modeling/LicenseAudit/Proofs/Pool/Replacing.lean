import LicenseAudit.Proofs.Pool.Outcome
import LicenseAudit.Proofs.Program.Replace

/-!
# Pools that replace files

Jobs that replace different files do not get in each other's way: the calls of one job never show
in the cells of another. Every job of such a pool ends as it would alone, under every order of
steps.

## Results

* `upkeep_meets` — what a job is to meet survives the calls of the jobs at other sites.
* `run_replacing` — every job ends as required, and nothing changes outside the sites.
-/

namespace LicenseAudit.Pool

variable {α β : Type} {tag : Nat} {site : α → Site tag}

/-- Where a job stands: its site shows cells from which the rest of the job meets its requirement,
and so far nothing has changed outside the sites. -/
structure Replacing (site : α → Site tag) (Q : α → β → Cells → Prop) (items : List α)
    (start fs : FileSystem) (a : α) (rest : Program (Option β)) : Prop where
  item   : a ∈ items
  alters : FileSystem.Alters (fun l => ∃ b ∈ items, (site b).Owns l) start fs
  cells  : ∃ cells, (site a).Shows fs cells ∧
    (site a).Meets (fun r cells' => ∃ b, r = some b ∧ Q a b cells') rest cells

/-- What a job is to meet survives its own calls and those of the jobs at other sites. -/
theorem upkeep_meets (site : α → Site tag) (Q : α → β → Cells → Prop) (items : List α)
    (start : FileSystem) :
    Upkeep (Replacing site Q items start)
      fun a b => ∀ l, (site a).Owns l → ¬ (site b).Owns l where
  symm := fun hApart l hb ha => hApart l ha hb
  own := by
    rintro fs a c next ⟨hItem, hAlters, cells, hShows, reply, cells', hAnswers, hRest⟩
    obtain ⟨rfl, hShows', hStep⟩ := hAnswers.perform hShows
    exact ⟨hItem, hAlters.trans (hStep.mono fun l hOwns => ⟨a, hItem, hOwns⟩),
      cells', hShows', hRest⟩
  others := by
    rintro fs a b c next rest hApart ⟨hItem, hAlters, cells, hShows, reply, cells', hAnswers, -⟩
      ⟨hItem', -, cells₂, hShows₂, hRest⟩
    obtain ⟨-, -, hStep⟩ := hAnswers.perform hShows
    exact ⟨hItem', hAlters.trans (hStep.mono fun l hOwns => ⟨a, hItem, hOwns⟩), cells₂,
      hShows₂.frame hStep fun l hb ha => hApart l ha hb, hRest⟩

variable {Q : α → β → Cells → Prop} {before : α → Cells} {job : α → Program β} {items : List α}
  {fs : FileSystem}

/-- Where every job stands at the start. -/
theorem replacing_of_meets (hShows : ∀ a ∈ items, (site a).Shows fs (before a))
    (hMeets : ∀ a ∈ items, (site a).Meets (Q a) (job a) (before a)) :
    ∀ a ∈ items, Replacing site Q items fs fs a (some <$> job a) := by
  intro a hItem
  refine ⟨hItem, .refl _ _, before a, hShows a hItem, ?_⟩
  rw [map_eq_pure_bind]
  exact ((hMeets a hItem).mono fun b cells hQ => ⟨b, rfl, hQ⟩).bind

/-- A job that is to meet something does not break down. -/
theorem not_replacing_none {start : FileSystem} (fs : FileSystem) (a : α) :
    ¬ Replacing site Q items start fs a (.done none) := by
  rintro ⟨-, -, cells, -, b, hNone, -⟩
  cases hNone

/-- **Replacements do not interfere.** Let every job meet its requirement from the cells of its own
site, and let no two sites share a place. Then under every schedule the pool returns a result
for each item, every job has ended as required, and nothing has changed outside the sites. -/
theorem run_replacing (schedule : List Event) (workers : Nat)
    (hApart : items.Pairwise fun a b => ∀ l, (site a).Owns l → ¬ (site b).Owns l)
    (hShows : ∀ a ∈ items, (site a).Shows fs (before a))
    (hMeets : ∀ a ∈ items, (site a).Meets (Q a) (job a) (before a)) :
    ∃ (found : List (α × β)) (fs' : FileSystem),
      (run schedule workers items fun a => some <$> job a).run fs =
        (.results (found.map Prod.snd), fs') ∧
      (found.map Prod.fst).Perm items ∧
      (∀ e ∈ found, ∃ cells, (site e.1).Shows fs' cells ∧ Q e.1 e.2 cells) ∧
      FileSystem.Alters (fun l => ∃ a ∈ items, (site a).Owns l) fs fs' := by
  obtain ⟨found, fs', hRun, hFound, hEnds, hAlters⟩ :=
    run_returns (upkeep_meets site Q items fs) not_replacing_none (fun hInv => hInv.alters) _
      schedule workers hApart (replacing_of_meets hShows hMeets) (.refl _ _)
  refine ⟨found, fs', hRun, hFound, ?_, hAlters⟩
  intro e hMem
  obtain ⟨-, -, cells, hCells, b, hSame, hQ⟩ := hEnds e hMem
  exact ⟨cells, hCells, Option.some_inj.mp hSame ▸ hQ⟩

end LicenseAudit.Pool
