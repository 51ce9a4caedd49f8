import LicenseAudit.FileSystem.Resolve

/-!
# The way to a directory

Resolving a path step by step, as a relation. The relation speaks of the steps before the last
one: all of them must exist, and links among them are followed.

* `FirstStep` — what the first step does where a path is resolved;
* `Leads` — the steps lead from one place to another and use up some of the links that may be
  followed;
* `FileSystem.Keeps` — a file system in which the directories and links of another one stand;
* `FileSystem.KeepsWays` — the same, but for links that lead to no directory.

## Results

* `firstStep_of_ok` — resolving a path takes one of the first steps.
* `walkWithin_append` — behind steps that lead to a place, resolving goes on from that place.
* `exists_leads` — what is resolved has a way that leads to the directory of its last step.
* `Leads.split` — a way can be cut anywhere.
* `Leads.keeps` — the way to a directory depends on directories and on links to directories only.
* `walkWithin_more` — where more links may be followed, paths are resolved alike.
-/

namespace LicenseAudit

/-- Whether the entry is a link. -/
def Entry.isLink : Entry → Bool
  | link _ => true
  | _ => false

namespace FileSystem

-- ---------------------------------------------------------------------------
-- One step
-- ---------------------------------------------------------------------------

theorem walkWithin_nil (fs : FileSystem) (followLast : Bool) (k : Nat) (here : Location) :
    fs.walkWithin followLast k here [] = .ok here := by
  cases k <;> rfl

/-- The first step of resolving a path. -/
theorem walkWithin_cons (fs : FileSystem) (followLast : Bool) (k : Nat) (here : Location)
    (name : String) (rest : List String) :
    fs.walkWithin followLast k here (name :: rest) =
      if !fs.isDirectory here then .error .notDirectory
      else if name = "." then fs.walkWithin followLast k here rest
      else if name = ".." then fs.walkWithin followLast k here.tail rest
      else if nameLimit < name.utf8ByteSize then .error .nameTooLong
      else match fs.lookup? (name :: here) with
        | none => if rest.isEmpty then .ok (name :: here) else .error .noEntry
        | some (.link target) =>
          if rest.isEmpty && !followLast then .ok (name :: here)
          else match k with
            | 0 => .error .linkLoop
            | links + 1 =>
              fs.walkWithin followLast links (if target.isAbsolute then [] else here)
                (target.fullSteps ++ rest)
        | some _ => fs.walkWithin followLast k (name :: here) rest := by
  cases k <;> rfl

/-- The step is a name that can stand in a directory. -/
structure Nameable (name : String) : Prop where
  notHere : name ≠ "."
  notUp   : name ≠ ".."
  short   : name.utf8ByteSize ≤ nameLimit

/-- A step by name goes on from what stands under the name. -/
theorem walkWithin_named {fs : FileSystem} {here : Location} {name : String}
    (hDir : fs.isDirectory here = true) (hName : Nameable name) (followLast : Bool) (k : Nat)
    (rest : List String) :
    fs.walkWithin followLast k here (name :: rest) =
      match fs.lookup? (name :: here) with
      | none => if rest.isEmpty then .ok (name :: here) else .error .noEntry
      | some (.link target) =>
        if rest.isEmpty && !followLast then .ok (name :: here)
        else match k with
          | 0 => .error .linkLoop
          | links + 1 =>
            fs.walkWithin followLast links (if target.isAbsolute then [] else here)
              (target.fullSteps ++ rest)
      | some _ => fs.walkWithin followLast k (name :: here) rest := by
  rw [walkWithin_cons, hDir]
  simp only [Bool.not_true, Bool.false_eq_true, if_false, if_neg hName.notHere,
    if_neg hName.notUp, if_neg (Nat.not_lt.mpr hName.short)]

/-- What the first step does where a path is resolved to a place. -/
inductive FirstStep (fs : FileSystem) (followLast : Bool) (here l : Location) :
    Nat → String → List String → Prop where
  | stay {k : Nat} {rest : List String} (hRest : fs.walkWithin followLast k here rest = .ok l) :
      FirstStep fs followLast here l k "." rest
  | up {k : Nat} {rest : List String}
      (hRest : fs.walkWithin followLast k here.tail rest = .ok l) :
      FirstStep fs followLast here l k ".." rest
  | vacant {k : Nat} {name : String} (hName : Nameable name)
      (hVacant : fs.lookup? (name :: here) = none) (hPlace : l = name :: here) :
      FirstStep fs followLast here l k name []
  | linked {k : Nat} {name : String} (hName : Nameable name) (hKeep : followLast = false)
      (hPlace : l = name :: here) : FirstStep fs followLast here l k name []
  | enter {k : Nat} {name : String} {rest : List String} {e : Entry} (hName : Nameable name)
      (hEntry : fs.lookup? (name :: here) = some e) (hPlain : e.isLink = false)
      (hRest : fs.walkWithin followLast k (name :: here) rest = .ok l) :
      FirstStep fs followLast here l k name rest
  | follow {links : Nat} {name : String} {rest : List String} {target : Path}
      (hName : Nameable name) (hEntry : fs.lookup? (name :: here) = some (.link target))
      (hFollow : rest = [] → followLast = true)
      (hRest : fs.walkWithin followLast links (if target.isAbsolute then [] else here)
        (target.fullSteps ++ rest) = .ok l) :
      FirstStep fs followLast here l (links + 1) name rest

/-- Resolving a path to a place starts in a directory, with one of these steps. -/
theorem firstStep_of_ok {fs : FileSystem} {followLast : Bool} {k : Nat} {here l : Location}
    {name : String} {rest : List String}
    (h : fs.walkWithin followLast k here (name :: rest) = .ok l) :
    fs.isDirectory here = true ∧ FirstStep fs followLast here l k name rest := by
  rw [walkWithin_cons] at h
  by_cases hClosed : fs.isDirectory here = false
  · rw [if_pos (by simp [hClosed])] at h
    cases h
  rw [if_neg (by simpa using hClosed)] at h
  refine ⟨eq_true_of_ne_false hClosed, ?_⟩
  by_cases hHere : name = "."
  · rw [if_pos hHere] at h
    exact hHere ▸ .stay h
  rw [if_neg hHere] at h
  by_cases hUp : name = ".."
  · rw [if_pos hUp] at h
    exact hUp ▸ .up h
  rw [if_neg hUp] at h
  by_cases hLong : nameLimit < name.utf8ByteSize
  · rw [if_pos hLong] at h
    cases h
  rw [if_neg hLong] at h
  have hName : Nameable name := ⟨hHere, hUp, Nat.not_lt.mp hLong⟩
  cases hEntry : fs.lookup? (name :: here) with
  | none =>
    rw [hEntry] at h
    cases rest with
    | nil => exact .vacant hName hEntry (Except.ok.inj h).symm
    | cons next more => cases h
  | some e =>
    rw [hEntry] at h
    cases e with
    | file content mode => exact .enter hName hEntry rfl h
    | directory mode => exact .enter hName hEntry rfl h
    | link target =>
      by_cases hLast : (rest.isEmpty && !followLast) = true
      · simp only [hLast, if_true] at h
        rw [Bool.and_eq_true, List.isEmpty_iff, Bool.not_eq_true'] at hLast
        obtain ⟨rfl, hKeep⟩ := hLast
        exact .linked hName hKeep (Except.ok.inj h).symm
      · simp only [if_neg hLast] at h
        cases k with
        | zero => cases h
        | succ links =>
          refine .follow hName hEntry (fun hNil => ?_) h
          simpa [hNil] using hLast

/-- The steps lead from the first place to the second. The numbers count the links that may still
be followed before and after. -/
inductive Leads (fs : FileSystem) : Nat → Location → List String → Nat → Location → Prop where
  | refl {k : Nat} {here : Location} : Leads fs k here [] k here
  | stay {k k' : Nat} {here d : Location} {rest : List String}
      (hDir : fs.isDirectory here = true) (hRest : Leads fs k here rest k' d) :
      Leads fs k here ("." :: rest) k' d
  | up {k k' : Nat} {here d : Location} {rest : List String}
      (hDir : fs.isDirectory here = true) (hRest : Leads fs k here.tail rest k' d) :
      Leads fs k here (".." :: rest) k' d
  | enter {k k' : Nat} {here d : Location} {name : String} {rest : List String} {e : Entry}
      (hDir : fs.isDirectory here = true) (hName : Nameable name)
      (hEntry : fs.lookup? (name :: here) = some e)
      (hPlain : e.isLink = false) (hRest : Leads fs k (name :: here) rest k' d) :
      Leads fs k here (name :: rest) k' d
  | link {k k' : Nat} {here d : Location} {name : String} {rest : List String} {target : Path}
      (hDir : fs.isDirectory here = true) (hName : Nameable name)
      (hEntry : fs.lookup? (name :: here) = some (.link target))
      (hRest : Leads fs k (if target.isAbsolute then [] else here) (target.fullSteps ++ rest)
        k' d) :
      Leads fs (k + 1) here (name :: rest) k' d

variable {fs : FileSystem} {k k' : Nat} {here d : Location}

/-- Behind steps that lead to a place, resolving goes on from that place. -/
theorem walkWithin_append {front tail : List String} (followLast : Bool)
    (h : Leads fs k here front k' d) (hTail : tail ≠ [] ∨ followLast = true) :
    fs.walkWithin followLast k here (front ++ tail) = fs.walkWithin followLast k' d tail := by
  induction h with
  | refl => rfl
  | stay hDir hRest ih =>
    rw [List.cons_append, walkWithin_cons, ih]
    simp [hDir]
  | up hDir hRest ih =>
    rw [List.cons_append, walkWithin_cons, ih]
    simp [hDir]
  | @enter k k' here d name rest e hDir hName hEntry hPlain hRest ih =>
    rw [List.cons_append, walkWithin_named hDir hName, ih, hEntry]
    cases e with
    | link target => cases hPlain
    | file | directory => rfl
  | @link k k' here d name rest target hDir hName hEntry hRest ih =>
    rw [List.append_assoc] at ih
    rw [List.cons_append, walkWithin_named hDir hName, hEntry]
    have hFollow : ((rest ++ tail).isEmpty && !followLast) = false := by
      rcases hTail with hTail | hFollow
      · simp [hTail]
      · simp [hFollow]
    simp [hFollow, ih]

/-- Resolving the steps of a way leads to its end. -/
theorem Leads.walkWithin_eq {steps : List String} (h : Leads fs k here steps k' d) :
    fs.walkWithin true k here steps = .ok d := by
  have hAppend : fs.walkWithin true k here (steps ++ []) = fs.walkWithin true k' d [] :=
    walkWithin_append true h (Or.inr rfl)
  rwa [List.append_nil, walkWithin_nil] at hAppend

/-- What is resolved has a way that leads to the place before its last steps. Where no steps are
last, it must be a directory. -/
theorem exists_leads {front tail : List String} {followLast : Bool} {l : Location}
    (hTail : tail ≠ [] ∨ followLast = true ∧ fs.isDirectory l = true)
    (h : fs.walkWithin followLast k here (front ++ tail) = .ok l) :
    ∃ k' d, Leads fs k here front k' d ∧ fs.walkWithin followLast k' d tail = .ok l := by
  induction k using Nat.strongRecOn generalizing here front with
  | ind k ihLinks =>
    induction front generalizing here with
    | nil => exact ⟨k, here, .refl, h⟩
    | cons name rest ih =>
      rw [List.cons_append] at h
      generalize hSteps : rest ++ tail = steps at h
      obtain ⟨hDir, hStep⟩ := firstStep_of_ok h
      cases hStep with
      | stay hRest =>
        obtain ⟨k', d, hLeads, hLast⟩ := ih (hSteps ▸ hRest)
        exact ⟨k', d, .stay hDir hLeads, hLast⟩
      | up hRest =>
        obtain ⟨k', d, hLeads, hLast⟩ := ih (hSteps ▸ hRest)
        exact ⟨k', d, .up hDir hLeads, hLast⟩
      | vacant hName hVacant hPlace =>
        -- nothing stands at the last place, so it is no directory
        rcases hTail with hTail | ⟨-, hLast⟩
        · exact absurd (List.append_eq_nil_iff.mp hSteps).2 hTail
        · rw [hPlace, FileSystem.isDirectory, hVacant] at hLast
          cases hLast
      | linked hName hKeep hPlace =>
        rcases hTail with hTail | ⟨hFollow, -⟩
        · exact absurd (List.append_eq_nil_iff.mp hSteps).2 hTail
        · rw [hKeep] at hFollow
          cases hFollow
      | enter hName hEntry hPlain hRest =>
        obtain ⟨k', d, hLeads, hLast⟩ := ih (hSteps ▸ hRest)
        exact ⟨k', d, .enter hDir hName hEntry hPlain hLeads, hLast⟩
      | @follow links _ _ target hName hEntry hFollow hRest =>
        rw [← hSteps, ← List.append_assoc] at hRest
        obtain ⟨k', d, hLeads, hLast⟩ := ihLinks links (Nat.lt_succ_self links) hRest
        exact ⟨k', d, .link hDir hName hEntry hLeads, hLast⟩

/-- Where a last step leads: to the directory itself or the one above it, or to the place of its
name, unless a link stands there that is followed. -/
theorem walkWithin_singleton {name : String} {followLast : Bool} {l : Location}
    (h : fs.walkWithin followLast k here [name] = .ok l) :
    fs.isDirectory here = true ∧
      (name = "." ∧ l = here ∨ name = ".." ∧ l = here.tail ∨
        (Nameable name ∧ (l = name :: here ∨
          followLast = true ∧ ∃ target, fs.lookup? (name :: here) = some (.link target)))) := by
  obtain ⟨hDir, hStep⟩ := firstStep_of_ok h
  refine ⟨hDir, ?_⟩
  cases hStep with
  | stay hRest =>
    rw [walkWithin_nil] at hRest
    exact Or.inl ⟨rfl, (Except.ok.inj hRest).symm⟩
  | up hRest =>
    rw [walkWithin_nil] at hRest
    exact Or.inr (Or.inl ⟨rfl, (Except.ok.inj hRest).symm⟩)
  | vacant hName _ hPlace | linked hName _ hPlace =>
    exact Or.inr (Or.inr ⟨hName, Or.inl hPlace⟩)
  | enter hName _ _ hRest =>
    rw [walkWithin_nil] at hRest
    exact Or.inr (Or.inr ⟨hName, Or.inl (Except.ok.inj hRest).symm⟩)
  | follow hName hEntry hFollow hRest =>
    exact Or.inr (Or.inr ⟨hName, Or.inr ⟨hFollow rfl, _, hEntry⟩⟩)

/-- Where no link stands at the end, following links at the end leads to the same place. -/
theorem walkWithin_true_of_false {steps : List String} {l : Location}
    (h : fs.walkWithin false k here steps = .ok l)
    (hPlain : ∀ target, fs.lookup? l ≠ some (.link target)) :
    fs.walkWithin true k here steps = .ok l := by
  induction k using Nat.strongRecOn generalizing here steps with
  | ind k ihLinks =>
    induction steps generalizing here with
    | nil => rwa [walkWithin_nil] at h ⊢
    | cons name rest ih =>
      obtain ⟨hDir, hStep⟩ := firstStep_of_ok h
      cases hStep with
      | stay hRest =>
        rw [walkWithin_cons, hDir]
        exact ih hRest
      | up hRest =>
        rw [walkWithin_cons, hDir]
        exact ih hRest
      | vacant hName hVacant hPlace =>
        rw [walkWithin_named hDir hName, hVacant, hPlace]
        rfl
      | linked hName hKeep hPlace =>
        rw [walkWithin_named hDir hName]
        rw [hPlace] at hPlain ⊢
        cases hEntry : fs.lookup? (name :: here) with
        | none => rfl
        | some e =>
          cases e with
          | link target => exact absurd hEntry (hPlain target)
          | file | directory => exact walkWithin_nil ..
      | enter hName hEntry hKind hRest =>
        rw [walkWithin_named hDir hName, hEntry]
        rename_i e
        cases e with
        | link target => cases hKind
        | file | directory => exact ih hRest
      | @follow links _ _ target hName hEntry hFollow hRest =>
        rw [walkWithin_named hDir hName, hEntry]
        simp only [Bool.not_true, Bool.and_false, Bool.false_eq_true, if_false]
        exact ihLinks links (Nat.lt_succ_self links) hRest

-- ---------------------------------------------------------------------------
-- Ways
-- ---------------------------------------------------------------------------

/-- A way can be cut anywhere. -/
theorem Leads.split {a b : List String} (h : Leads fs k here (a ++ b) k' d) :
    ∃ k₁ e, Leads fs k here a k₁ e ∧ Leads fs k₁ e b k' d := by
  generalize hSteps : a ++ b = steps at h
  induction h generalizing a with
  | @refl k here =>
    obtain ⟨rfl, rfl⟩ := List.append_eq_nil_iff.mp hSteps
    exact ⟨k, here, .refl, .refl⟩
  | @stay k k' here d rest hDir hRest ih =>
    cases a with
    | nil =>
      obtain rfl : b = "." :: rest := hSteps
      exact ⟨k, here, .refl, .stay hDir hRest⟩
    | cons name more =>
      obtain ⟨rfl, hMore⟩ := List.cons.inj hSteps
      obtain ⟨k₁, e, hFirst, hSecond⟩ := ih hMore
      exact ⟨k₁, e, .stay hDir hFirst, hSecond⟩
  | @up k k' here d rest hDir hRest ih =>
    cases a with
    | nil =>
      obtain rfl : b = ".." :: rest := hSteps
      exact ⟨k, here, .refl, .up hDir hRest⟩
    | cons name more =>
      obtain ⟨rfl, hMore⟩ := List.cons.inj hSteps
      obtain ⟨k₁, e, hFirst, hSecond⟩ := ih hMore
      exact ⟨k₁, e, .up hDir hFirst, hSecond⟩
  | @enter k k' here d name rest e hDir hName hEntry hPlain hRest ih =>
    cases a with
    | nil =>
      obtain rfl : b = name :: rest := hSteps
      exact ⟨k, here, .refl, .enter hDir hName hEntry hPlain hRest⟩
    | cons first more =>
      obtain ⟨rfl, hMore⟩ := List.cons.inj hSteps
      obtain ⟨k₁, e, hFirst, hSecond⟩ := ih hMore
      exact ⟨k₁, e, .enter hDir hName hEntry hPlain hFirst, hSecond⟩
  | @link k k' here d name rest target hDir hName hEntry hRest ih =>
    cases a with
    | nil =>
      obtain rfl : b = name :: rest := hSteps
      exact ⟨k + 1, here, .refl, .link hDir hName hEntry hRest⟩
    | cons first more =>
      obtain ⟨rfl, rfl⟩ := List.cons.inj hSteps
      obtain ⟨k₁, e, hFirst, hSecond⟩ := ih (a := target.fullSteps ++ more)
        (List.append_assoc ..)
      exact ⟨k₁, e, .link hDir hName hEntry hFirst, hSecond⟩

theorem Leads.of_here {rest : List String} (h : Leads fs k here ("." :: rest) k' d) :
    Leads fs k here rest k' d := by
  generalize hSteps : "." :: rest = steps at h
  cases h with
  | refl => cases hSteps
  | stay hDir hRest =>
    obtain ⟨-, rfl⟩ := List.cons.inj hSteps
    exact hRest
  | up hDir hRest => exact absurd (List.cons.inj hSteps).1 (by decide)
  | enter hDir hName | link hDir hName => exact absurd (List.cons.inj hSteps).1.symm hName.notHere

/-- Steps to the directory itself lead nowhere else. -/
theorem Leads.of_dots {n : Nat} (h : Leads fs k here (List.replicate n ".") k' d) :
    k' = k ∧ d = here := by
  induction n with
  | zero =>
    cases h
    exact ⟨rfl, rfl⟩
  | succ n ih =>
    rw [List.replicate_succ] at h
    exact ih h.of_here

-- ---------------------------------------------------------------------------
-- What a way depends on
-- ---------------------------------------------------------------------------

/-- The directories and links of one file system stand in another one. -/
structure Keeps (fs fs' : FileSystem) : Prop where
  start   : fs'.workingDirectory = fs.workingDirectory
  entries : ∀ {l : Location} {e : Entry}, fs.lookup? l = some e →
    (∀ content mode, e ≠ .file content mode) → fs'.lookup? l = some e

theorem isDirectory_of_lookup? {fs : FileSystem} {l : Location} {mode : Nat}
    (h : fs.lookup? l = some (.directory mode)) : fs.isDirectory l = true := by
  rw [isDirectory, h]
  rfl

theorem exists_directory {fs : FileSystem} {l : Location} (h : fs.isDirectory l = true) :
    ∃ mode, fs.lookup? l = some (.directory mode) := by
  unfold isDirectory at h
  cases hEntry : fs.lookup? l with
  | none => simp [hEntry] at h
  | some e =>
    rw [hEntry] at h
    cases e with
    | directory mode => exact ⟨mode, rfl⟩
    | file | link => cases h

/-- A way to a directory leads through directories. -/
theorem Leads.isDirectory {steps : List String} (h : Leads fs k here steps k' d)
    (hDir : fs.isDirectory d = true) : fs.isDirectory here = true := by
  cases h with
  | refl => exact hDir
  | stay hHere | up hHere | enter hHere | link hHere => exact hHere

/-- The directories of one file system stand in another one, and so do its links to directories. -/
structure KeepsWays (fs fs' : FileSystem) : Prop where
  start       : fs'.workingDirectory = fs.workingDirectory
  directories : ∀ {l : Location} {mode : Nat}, fs.lookup? l = some (.directory mode) →
    fs'.lookup? l = some (.directory mode)
  links       : ∀ {name : String} {here d : Location} {target : Path} {k k' : Nat},
    fs.lookup? (name :: here) = some (.link target) →
    Leads fs k (if target.isAbsolute then [] else here) target.fullSteps k' d →
    fs.isDirectory d = true → fs'.lookup? (name :: here) = some (.link target)

theorem Keeps.ways {fs fs' : FileSystem} (h : Keeps fs fs') : KeepsWays fs fs' where
  start := h.start
  directories := fun hEntry => h.entries hEntry fun _ _ hFile => by cases hFile
  links := fun hEntry _ _ => h.entries hEntry fun _ _ hFile => by cases hFile

theorem KeepsWays.isDirectory {fs fs' : FileSystem} (h : KeepsWays fs fs') {l : Location}
    (hDir : fs.isDirectory l = true) : fs'.isDirectory l = true := by
  obtain ⟨mode, hEntry⟩ := exists_directory hDir
  exact isDirectory_of_lookup? (h.directories hEntry)

/-- The way to a directory depends on directories and on links to directories only. -/
theorem Leads.keeps {fs' : FileSystem} (hKeeps : KeepsWays fs fs') {steps : List String}
    (h : Leads fs k here steps k' d) (hDir : fs.isDirectory d = true) :
    Leads fs' k here steps k' d := by
  induction h with
  | refl => exact .refl
  | stay hHere hRest ih => exact .stay (hKeeps.isDirectory hHere) (ih hDir)
  | up hHere hRest ih => exact .up (hKeeps.isDirectory hHere) (ih hDir)
  | @enter k k' here d name rest e hIn hName hEntry hPlain hRest ih =>
    -- a file would not let the way go on
    obtain ⟨mode, hHere⟩ := exists_directory (hRest.isDirectory hDir)
    exact .enter (hKeeps.isDirectory hIn) hName (hKeeps.directories hHere) rfl (ih hDir)
  | link hIn hName hEntry hRest ih =>
    obtain ⟨k₁, e, hFirst, hSecond⟩ := hRest.split
    have hLink := hKeeps.links hEntry hFirst (hSecond.isDirectory hDir)
    exact .link (hKeeps.isDirectory hIn) hName hLink (ih hDir)

-- ---------------------------------------------------------------------------
-- More links to follow
-- ---------------------------------------------------------------------------

/-- What is resolved is resolved alike where more links may be followed. -/
theorem walkWithin_more {steps : List String} {followLast : Bool} {l : Location} (more : Nat)
    (h : fs.walkWithin followLast k here steps = .ok l) :
    fs.walkWithin followLast (k + more) here steps = .ok l := by
  induction k using Nat.strongRecOn generalizing here steps with
  | ind k ihLinks =>
    induction steps generalizing here with
    | nil => rwa [walkWithin_nil] at h ⊢
    | cons name rest ih =>
      obtain ⟨hDir, hStep⟩ := firstStep_of_ok h
      cases hStep with
      | stay hRest =>
        rw [walkWithin_cons, hDir]
        exact ih hRest
      | up hRest =>
        rw [walkWithin_cons, hDir]
        exact ih hRest
      | vacant hName hVacant hPlace =>
        rw [walkWithin_named hDir hName, hVacant, hPlace]
        rfl
      | linked hName hKeep hPlace =>
        rw [walkWithin_named hDir hName]
        rw [hPlace, hKeep]
        cases hEntry : fs.lookup? (name :: here) with
        | none => rfl
        | some e =>
          cases e with
          | link target => rfl
          | file | directory => exact walkWithin_nil ..
      | enter hName hEntry hKind hRest =>
        rw [walkWithin_named hDir hName, hEntry]
        rename_i e
        cases e with
        | link target => cases hKind
        | file | directory => exact ih hRest
      | @follow links _ _ target hName hEntry hFollow hRest =>
        have hLater : (rest.isEmpty && !followLast) = false := by
          cases rest with
          | nil => simp [hFollow rfl]
          | cons next others => rfl
        rw [walkWithin_named hDir hName, hEntry, Nat.add_right_comm]
        simp only [hLater, Bool.false_eq_true, if_false]
        exact ihLinks links (Nat.lt_succ_self links) hRest

/-- Ways from one place over the same steps lead to the same place. -/
theorem Leads.eq_of_walkWithin {steps : List String} {l : Location} {k₂ : Nat}
    (h : Leads fs k here steps k' d) (hWalk : fs.walkWithin true k₂ here steps = .ok l) :
    l = d := by
  have hMore := walkWithin_more k hWalk
  rw [Nat.add_comm] at hMore
  exact Except.ok.inj (hMore.symm.trans (walkWithin_more k₂ h.walkWithin_eq))

end FileSystem

end LicenseAudit
