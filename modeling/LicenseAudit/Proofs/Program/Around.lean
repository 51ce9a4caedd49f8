import LicenseAudit.Proofs.Program.Beside

/-!
# Links that lead to one place

Where a link leads does not depend on the link itself: who comes back to it on the way has gone
round in a circle, and goes on with the same steps and fewer links to follow. So two links with one
target lead to one place, and each leads there without the other.

* `FileSystem.linkAt?` — the target of the link at a path.

## Results

* `walkWithin_around` — the way to the target of a link does not pass the link.
* `Seat.exists_way` — a path to a link leads where the target of the link leads.
* `Seat.locate_around` — a path to a link leads there without another link with the same target.
-/

namespace LicenseAudit

/-- The target of a link. -/
def Entry.target? : Entry → Option Path
  | .link target => some target
  | .file _ _ | .directory _ => none

namespace FileSystem

variable {fs fs' : FileSystem} {p target : Path} {dir here l : Location} {n m : String}
  {links : Nat} {steps : List String}

/-- The target of the link that stands at a path, if one does. -/
def linkAt? (fs : FileSystem) (p : Path) : Option Path :=
  (fs.find false p).toOption.bind fun found => found.2.target?

theorem Seat.linkAt?_eq (h : fs.Seat p dir n) (hFits : p.refusal? n = none) :
    fs.linkAt? p = (fs.lookup? (n :: dir)).bind Entry.target? := by
  rw [linkAt?, FileSystem.find, h.locate_own hFits]
  simp only [bind, Except.bind]
  cases fs.lookup? (n :: dir) <;> rfl

-- ---------------------------------------------------------------------------
-- The way to a target
-- ---------------------------------------------------------------------------

/-- A way on which fewer links are followed than on any way to the target of a link does not pass
the link. -/
theorem walkWithin_of_never {bound : Nat} (hLink : fs.lookup? (m :: dir) = some (.link target))
    (hElsewhere : ∀ k, k ≠ m :: dir → fs'.lookup? k = fs.lookup? k)
    (hNever : ∀ k < bound, ∀ d,
      fs.walkWithin true k (if target.isAbsolute then [] else dir) target.fullSteps ≠ .ok d)
    (hLinks : links ≤ bound) (hOther : l ≠ m :: dir)
    (h : fs.walkWithin true links here steps = .ok l) :
    fs'.walkWithin true links here steps = .ok l := by
  induction links using Nat.strongRecOn generalizing here steps with
  | ind links ihLinks =>
    induction steps generalizing here with
    | nil => rwa [walkWithin_nil] at h ⊢
    | cons name rest ih =>
      obtain ⟨hDir, hStep⟩ := firstStep_of_ok h
      have hSame : ∀ {k : Location}, (∀ target, fs.lookup? k ≠ some (.link target)) →
          fs'.lookup? k = fs.lookup? k := by
        intro k hPlain
        refine hElsewhere k ?_
        rintro rfl
        exact hPlain target hLink
      have hDir' : fs'.isDirectory here = true := by
        obtain ⟨mode, hEntry⟩ := exists_directory hDir
        rw [FileSystem.isDirectory, hSame fun _ hHere => by cases hEntry.symm.trans hHere]
        exact hDir
      cases hStep with
      | stay hRest =>
        rw [walkWithin_cons, hDir']
        exact ih hRest
      | up hRest =>
        rw [walkWithin_cons, hDir']
        exact ih hRest
      | vacant hName hVacant hPlace =>
        rw [walkWithin_named hDir' hName, hElsewhere _ (hPlace ▸ hOther), hVacant, hPlace]
        rfl
      | linked hName hKeep => cases hKeep
      | @enter _ _ _ e hName hEntry hPlain hRest =>
        have hHere : fs'.lookup? (name :: here) = some e := by
          refine (hSame fun _ hLinked => ?_).trans hEntry
          obtain rfl := Option.some.inj (hEntry.symm.trans hLinked)
          cases hPlain
        rw [walkWithin_named hDir' hName, hHere]
        cases e with
        | file content mode => exact ih hRest
        | directory mode => exact ih hRest
        | link target => cases hPlain
      | @follow links _ _ target' hName hEntry hFollow hRest =>
        have hPlace : name :: here ≠ m :: dir := by
          intro hPlace
          obtain ⟨rfl, rfl⟩ := List.cons.inj hPlace
          obtain rfl := Entry.link.inj (Option.some.inj (hEntry.symm.trans hLink))
          -- the way goes on to the target, with one link less
          cases rest with
          | nil => exact hNever links hLinks l (by rwa [List.append_nil] at hRest)
          | cons next more =>
            obtain ⟨k, d, hLeads, -⟩ := exists_leads (Or.inl (List.cons_ne_nil _ _)) hRest
            exact hNever links hLinks d hLeads.walkWithin_eq
        rw [walkWithin_named hDir' hName, hElsewhere _ hPlace, hEntry]
        simp only [Bool.not_true, Bool.and_false, Bool.false_eq_true, if_false]
        exact ihLinks links (Nat.lt_succ_self links) (Nat.le_of_succ_le hLinks) hRest

/-- **The way to the target of a link does not pass the link**, so that it is there without it. -/
theorem walkWithin_around (hLink : fs.lookup? (m :: dir) = some (.link target))
    (hElsewhere : ∀ k, k ≠ m :: dir → fs'.lookup? k = fs.lookup? k) (hOther : l ≠ m :: dir)
    (h : fs.walkWithin true links (if target.isAbsolute then [] else dir) target.fullSteps =
      .ok l) :
    fs'.walkWithin true links (if target.isAbsolute then [] else dir) target.fullSteps = .ok l := by
  induction links using Nat.strongRecOn with
  | ind links ih =>
    by_cases hEarlier : ∃ k < links, ∃ d,
        fs.walkWithin true k (if target.isAbsolute then [] else dir) target.fullSteps = .ok d
    · obtain ⟨k, hFewer, d, hWalk⟩ := hEarlier
      obtain rfl := walkWithin_unique hWalk h
      have hMore := walkWithin_more (links - k) (ih k hFewer hWalk)
      rwa [Nat.add_sub_cancel' (Nat.le_of_lt hFewer)] at hMore
    · refine walkWithin_of_never hLink hElsewhere (fun k hFewer d hWalk => ?_) (Nat.le_refl links)
        hOther h
      exact hEarlier ⟨k, hFewer, d, hWalk⟩

-- ---------------------------------------------------------------------------
-- Paths to links
-- ---------------------------------------------------------------------------

/-- A path to a link leads where the target of the link leads, and as long as directories, links to
them and this link are kept it does so elsewhere, too. -/
theorem Seat.exists_way (h : fs.Seat p dir n)
    (hLink : fs.lookup? (n :: dir) = some (.link target)) (hLocate : fs.locate true p = .ok l) :
    ∃ links, fs.walkWithin true links (if target.isAbsolute then [] else dir) target.fullSteps =
        .ok l ∧
      ∀ fs', KeepsWays fs fs' → fs'.lookup? (n :: dir) = some (.link target) →
        fs'.walkWithin true links (if target.isAbsolute then [] else dir) target.fullSteps =
          .ok l → fs'.locate true p = .ok l := by
  obtain ⟨front, k, hSteps, hLeads⟩ := h.way
  have hFull : p.fullSteps = front ++ [n] := by
    rw [Path.fullSteps, hSteps, h.ended]
    exact List.append_nil _
  have hLast : [n] ≠ [] := List.cons_ne_nil n []
  obtain ⟨hText, hWalk⟩ := locate_eq_ok_iff.mp hLocate
  rw [hFull, walkWithin_append true hLeads (Or.inl hLast)] at hWalk
  have hProper := h.proper
  obtain ⟨hDir, hStep⟩ := firstStep_of_ok hWalk
  cases hStep with
  | stay => exact absurd rfl hProper.notHere
  | up => exact absurd rfl hProper.notUp
  | vacant _ hVacant => cases hVacant.symm.trans hLink
  | linked _ hKeep => cases hKeep
  | enter _ hEntry hPlain =>
    obtain rfl := Option.some.inj (hEntry.symm.trans hLink)
    cases hPlain
  | @follow links _ _ target' hName hEntry _ hRest =>
    obtain rfl := Entry.link.inj (Option.some.inj (hEntry.symm.trans hLink))
    rw [List.append_nil] at hRest
    refine ⟨links, hRest, fun fs' hKeeps hLink' hWalk' => ?_⟩
    have hStart : fs'.start p = fs.start p := by rw [start, start, hKeeps.start]
    refine locate_eq_ok_iff.mpr ⟨hText, ?_⟩
    rw [hStart, hFull, walkWithin_append true (hLeads.keeps hKeeps hDir) (Or.inl hLast),
      walkWithin_named (hKeeps.isDirectory hDir) hName, hLink']
    show fs'.walkWithin true links _ (target'.fullSteps ++ []) = .ok l
    rwa [List.append_nil]

/-- **A path to a link leads to its file without another link with the same target.** -/
theorem Seat.locate_around {content : Bytes} {mode : Nat} (h : fs.Seat p dir n)
    (hLink : fs.lookup? (n :: dir) = some (.link target))
    (hLink' : fs.lookup? (m :: dir) = some (.link target)) (hOther : n ≠ m)
    (hStart : fs'.workingDirectory = fs.workingDirectory)
    (hElsewhere : ∀ k, k ≠ m :: dir → fs'.lookup? k = fs.lookup? k)
    (hLocate : fs.locate true p = .ok l) (hFile : fs.lookup? l = some (.file content mode)) :
    fs'.locate true p = .ok l := by
  have hPlace : l ≠ m :: dir := by
    rintro rfl
    cases hFile.symm.trans hLink'
  obtain ⟨links, hWalk, hThere⟩ := h.exists_way hLink hLocate
  have hLeads : fs.LeadsToFile dir m content :=
    Or.inr ⟨target, l, links, mode, hLink', hWalk, hFile⟩
  refine hThere fs' (keepsWays_of_elsewhere hLeads hStart hElsewhere) ?_ ?_
  · rw [hElsewhere _ fun hSame => hOther (List.cons.inj hSame).1, hLink]
  · exact walkWithin_around hLink' hElsewhere hPlace hWalk

end FileSystem

end LicenseAudit
