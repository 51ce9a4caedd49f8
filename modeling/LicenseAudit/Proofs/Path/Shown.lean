import LicenseAudit.Proofs.Path.Along

/-!
# What a shown path stands for

In output a path is shown as it is seen from the root. Read behind the root again, what is shown
should lead where the path leads, as far as that can be told without looking at the disk. Below the
root it is the rest of the path, whatever the spelling of the root. Beside the root it is the path
as it was written, but for roots that begin with `.` and go on: there the steps back out of the
root are written behind the first name of the path, and take back that name.

* `Component.followAll` — where components lead, by `.` and `..` alone;
* `Component.Reduced` — steps come down to steps back and then names;
* `Path.Denotes` — a text that stands for a path in output about a root;
* `Path.Astray` — the paths and roots for which the shown text leads elsewhere.

## Results

* `exists_reduced` — steps come down to steps back, followed by names.
* `shownFrom_names` — below the root the names behind it are shown.
* `shownFrom_across` — what is shown across a root that begins with `.`.
* `shownFrom_denotes_iff` — when the shown text stands for the path.
-/

namespace LicenseAudit

-- ---------------------------------------------------------------------------
-- Where a path leads
-- ---------------------------------------------------------------------------

namespace Component

/-- Goes one component on from where some others lead, the last of which comes first: `.` is no
step, and `..` takes back a name. -/
def follow (way : List Component) : Component → List Component
  | here => way
  | up =>
    match way with
    | name _ :: before => before
    | _ => up :: way
  | c => c :: way

/-- Goes along some components. -/
def followAll (way cs : List Component) : List Component := cs.foldl follow way

variable {way cs : List Component} {names : List String} {k : Nat}

@[simp]
theorem followAll_cons (way : List Component) (c : Component) (cs : List Component) :
    followAll way (c :: cs) = followAll (follow way c) cs := rfl

@[simp]
theorem followAll_append (way cs ds : List Component) :
    followAll way (cs ++ ds) = followAll (followAll way cs) ds := List.foldl_append

theorem followAll_ups_append (j k : Nat) :
    followAll (followAll way (List.replicate j up)) (List.replicate k up) =
      followAll way (List.replicate (j + k) up) := by
  rw [← followAll_append, List.replicate_append_replicate]

/-- Steps back take back the names that were gone. -/
theorem followAll_ups_names (names : List String) (way : List Component) (k : Nat) :
    followAll (names.map name ++ way) (List.replicate (names.length + k) up) =
      followAll way (List.replicate k up) := by
  induction names with
  | nil => simp
  | cons n rest ih =>
    rw [List.length_cons, Nat.add_right_comm, List.replicate_succ, followAll_cons]
    exact ih

/-- Steps back behind steps back are further ones. -/
theorem followAll_ups_ups (j k : Nat) :
    followAll (List.replicate j up) (List.replicate k up) = List.replicate (j + k) up := by
  induction k generalizing j with
  | zero => rfl
  | succ k ih =>
    have hNext : follow (List.replicate j up) up = List.replicate (j + 1) up := by
      cases j <;> rfl
    rw [List.replicate_succ, followAll_cons, hNext, ih]
    congr 1
    omega

theorem followAll_ups (k : Nat) : followAll [] (List.replicate k up) = List.replicate k up := by
  simpa using followAll_ups_ups 0 k

/-- Steps back from a name take it back, and then lead on. -/
theorem followAll_ups_name (n : String) (k : Nat) :
    followAll [name n] (List.replicate k up) =
      if k = 0 then [name n] else List.replicate (k - 1) up := by
  cases k with
  | zero => rfl
  | succ k =>
    rw [List.replicate_succ, followAll_cons, if_neg (Nat.succ_ne_zero k)]
    exact followAll_ups k

/-- Steps come down to so many steps back and then some names, after so many names have been taken
back on the way. -/
structure Reduced (cs : List Component) (names : List String) (back taken : Nat) : Prop where
  length : cs.length = names.length + back + 2 * taken
  turns  : up ∈ cs ↔ 0 < back + taken
  leads  : ∀ way, followAll way cs =
    names.map name ++ followAll way (List.replicate back up)

/-- **Steps come down to steps back, followed by names.** -/
theorem exists_reduced (hSteps : ∀ c ∈ cs, c.Step) :
    ∃ names back taken, Reduced cs names back taken := by
  induction cs using List.reverseRecOn with
  | nil => exact ⟨[], 0, 0, rfl, by simp, fun way => rfl⟩
  | append_singleton cs c ih =>
    obtain ⟨names, back, taken, hLength, hTurns, hLeads⟩ :=
      ih fun d hMem => hSteps d (List.mem_append_left _ hMem)
    have hLast : c.Step := hSteps c (by simp)
    cases hLast with
    | @name n hProper =>
      refine ⟨n :: names, back, taken, ?_, ?_, fun way => ?_⟩
      · simp only [List.length_append, List.length_cons, List.length_nil, hLength]
        omega
      · simpa using hTurns
      · rw [followAll_append, hLeads]
        rfl
    | up =>
      cases names with
      | nil =>
        -- there is no name to take back
        refine ⟨[], back + 1, taken, ?_, by simp, fun way => ?_⟩
        · simp only [List.length_append, List.length_cons, List.length_nil] at hLength ⊢
          omega
        · rw [followAll_append, hLeads, List.map_nil, List.nil_append, List.nil_append]
          exact followAll_ups_append back 1
      | cons n rest =>
        refine ⟨rest, back, taken + 1, ?_, by simp, fun way => ?_⟩
        · simp only [List.length_append, List.length_cons, List.length_nil] at hLength ⊢
          omega
        · rw [followAll_append, hLeads]
          rfl

/-- As many steps back as there were components lead to the start only if there was no step back
among them: each of those is missing, and so is one for each name that was taken back. -/
theorem Reduced.followAll_back {taken : Nat} (h : Reduced cs names k taken)
    (way : List Component) :
    followAll (followAll way cs) (List.replicate cs.length up) =
      followAll way (List.replicate (2 * (k + taken)) up) := by
  rw [h.leads, h.length, Nat.add_assoc, followAll_ups_names, followAll_ups_append]
  congr 2
  omega

/-- A name is taken back by the first step back behind it. -/
theorem followAll_name_ups (way : List Component) (n : String) (k : Nat) (cs : List Component) :
    followAll way (name n :: (List.replicate (k + 1) up ++ cs)) =
      followAll (followAll way (List.replicate k up)) cs := by
  rw [followAll_cons, followAll_append, List.replicate_succ, followAll_cons]
  rfl

/-- The components lead above the directory where they start. -/
def Climbs (cs : List Component) : Prop := (followAll [] cs).getLast? = some up

instance (cs : List Component) : Decidable (Climbs cs) :=
  inferInstanceAs (Decidable (_ = _))

/-- Steps climb exactly if they come down to steps back that no name takes up. -/
theorem Reduced.climbs_iff {taken : Nat} (h : Reduced cs names k taken) :
    Climbs cs ↔ 0 < k := by
  rw [Climbs, h.leads, followAll_ups]
  cases k with
  | zero => simp [List.getLast?_map]
  | succ k => simp [List.replicate_succ', ← List.append_assoc]

/-- From two different names, steps lead to one place exactly if they climb. -/
theorem Reduced.followAll_name_eq_iff {taken : Nat} (h : Reduced cs names k taken) (m n : String) :
    followAll [name m] cs = followAll [name n] cs ↔ m = n ∨ 0 < k := by
  rw [h.leads, h.leads, List.append_cancel_left_eq, followAll_ups_name, followAll_ups_name]
  split_ifs with hZero
  · simp [hZero]
  · simp [Nat.pos_of_ne_zero hZero]

/-- Above the directory of a name, steps lead elsewhere than from the name. -/
theorem Reduced.followAll_ups_ne {taken j : Nat} (h : Reduced cs names k taken) (hUp : 0 < j)
    (n : String) : followAll (List.replicate j up) cs ≠ followAll [name n] cs := by
  rw [h.leads, h.leads, Ne, List.append_cancel_left_eq, followAll_ups_name, followAll_ups_ups]
  split_ifs with hZero
  · obtain ⟨i, rfl⟩ := Nat.exists_eq_succ_of_ne_zero hUp.ne'
    simp [hZero, List.replicate_succ]
  · rw [List.replicate_inj]
    omega

end Component

namespace Path

open Component

variable {root p : Path} {a b c : Component} {as bs cs : List Component}

-- ---------------------------------------------------------------------------
-- The way from the root
-- ---------------------------------------------------------------------------

@[simp]
theorem stepsFrom_nil (fresh : Bool) (as : List Component) : stepsFrom fresh as [] = some as := by
  cases as <;> simp [stepsFrom]

/-- Where the path ends, the rest of the root is gone back. -/
@[simp]
theorem stepsFrom_spent (fresh : Bool) (bs : List Component) :
    stepsFrom fresh [] bs = some (List.replicate bs.length .up) := by
  induction bs generalizing fresh with
  | nil => rfl
  | cons b rest ih =>
    rw [stepsFrom, ih]
    rfl

theorem stepsFrom_same (a : Component) (as bs : List Component) :
    stepsFrom true (a :: as) (a :: bs) = stepsFrom true as bs := by
  simp [stepsFrom]

/-- Where path and root part, the rest of the root is gone back and the rest of the path follows;
from `..` there is no way back. -/
theorem stepsFrom_apart {fresh : Bool} (hStep : b.Step) (hApart : fresh = false ∨ a ≠ b) :
    stepsFrom fresh (a :: as) (b :: bs) =
      if b = .up then none else some (List.replicate (bs.length + 1) .up ++ a :: as) := by
  have hFresh : ¬(fresh && a == b) = true := by
    rcases hApart with rfl | hNe <;> simp [*]
  rw [stepsFrom, if_neg hFresh, if_neg hStep.ne_here]
  simp [List.replicate_succ]

theorem stepsFrom_append (bs cs : List Component) : stepsFrom true (bs ++ cs) bs = some cs := by
  induction bs with
  | nil => exact stepsFrom_nil true cs
  | cons b rest ih => rw [List.cons_append, stepsFrom_same, ih]

theorem stepsFrom_append_append (before as bs : List Component) :
    stepsFrom true (before ++ as) (before ++ bs) = stepsFrom true as bs := by
  induction before with
  | nil => rfl
  | cons b rest ih => rw [List.cons_append, List.cons_append, stepsFrom_same, ih]

/-- The way is made of components of the path and steps back. -/
theorem mem_of_stepsFrom {fresh : Bool} (hWay : stepsFrom fresh as bs = some cs) :
    ∀ c ∈ cs, c ∈ as ∨ c = .up := by
  fun_induction stepsFrom fresh as bs generalizing cs with
  | case1 => simp_all
  | case2 => simp_all
  | case3 fresh b bs ih =>
    obtain ⟨way, hRest, rfl⟩ := Option.map_eq_some_iff.mp hWay
    simpa using ih hRest
  | case4 fresh a as b bs hSame ih =>
    exact fun c hMem => (ih hWay c hMem).imp_left (List.mem_cons_of_mem a)
  | case5 fresh a as bs hOther ih =>
    obtain ⟨way, hRest, rfl⟩ := Option.map_eq_some_iff.mp hWay
    rw [List.forall_mem_cons]
    exact ⟨Or.inl (List.mem_cons_self ..),
      fun c hMem => (ih hRest c hMem).imp_left (List.mem_cons_of_mem a)⟩
  | case6 => cases hWay
  | case7 fresh a as b bs hOther hHere hUp =>
    rw [← Option.some.inj hWay]
    intro c hMem
    rw [List.cons_append, List.map_const', List.mem_cons, List.mem_append] at hMem
    rcases hMem with hUp | hUps | hRest
    · exact Or.inr hUp
    · exact Or.inr (List.eq_of_mem_replicate hUps)
    · exact Or.inl hRest

/-- From a root of steps there is no way, or it leaves the root, or the path is the root and what
follows. -/
theorem stepsFrom_cases (hSteps : ∀ b ∈ bs, b.Step) (as : List Component) :
    stepsFrom true as bs = none ∨ (∃ cs, stepsFrom true as bs = some (.up :: cs)) ∨
      ∃ cs, as = bs ++ cs := by
  induction bs generalizing as with
  | nil => exact Or.inr (Or.inr ⟨as, rfl⟩)
  | cons b bs ih =>
    rw [List.forall_mem_cons] at hSteps
    cases as with
    | nil => exact Or.inr (Or.inl ⟨List.replicate bs.length .up, by simp [List.replicate_succ]⟩)
    | cons a as =>
      by_cases hSame : a = b
      · subst hSame
        rw [stepsFrom_same]
        refine (ih hSteps.2 as).imp_right (Or.imp_right ?_)
        rintro ⟨cs, rfl⟩
        exact ⟨cs, rfl⟩
      · rw [stepsFrom_apart hSteps.1 (Or.inr hSame)]
        split
        · exact Or.inl rfl
        · exact Or.inr (Or.inl ⟨_, rfl⟩)

-- ---------------------------------------------------------------------------
-- What is shown
-- ---------------------------------------------------------------------------

/-- Below the root both start at the same place. -/
theorem isAbsolute_of_below (hBelow : p.components = root.components ++ cs)
    (hSteps : ∀ c ∈ cs, c.Step) : p.isAbsolute = root.isAbsolute := by
  rw [Bool.eq_iff_iff, ← head?_components_eq_root_iff, ← head?_components_eq_root_iff, hBelow]
  cases hRoot : root.components with
  | cons c rest => simp
  | nil =>
    refine iff_of_false (fun hHead => ?_) (by simp)
    exact (hSteps _ (List.mem_of_head? hHead)).ne_root rfl

/-- With a way from the root, it is what is shown, unless it is empty or leaves the root. -/
theorem shownFrom_of_way (hAlike : p.isAbsolute = root.isAbsolute)
    (hWay : stepsFrom true p.components root.components = some cs) :
    p.shownFrom root =
      if (ofComponents cs).text.isEmpty || (ofComponents cs).components.head? == some .up then p.text
      else (ofComponents cs).text := by
  rw [shownFrom, relativeTo?, hAlike, hWay]
  simp

/-- Without a way from the root, the path is shown as it is written. -/
theorem shownFrom_of_none (hAlike : p.isAbsolute = root.isAbsolute)
    (hWay : stepsFrom true p.components root.components = none) : p.shownFrom root = p.text := by
  rw [shownFrom, relativeTo?, hAlike, hWay]
  simp

/-- A path that starts elsewhere than the root is shown as it is written. -/
theorem shownFrom_of_unlike (hUnlike : p.isAbsolute ≠ root.isAbsolute) :
    p.shownFrom root = p.text := by
  have hBeq : (p.isAbsolute == root.isAbsolute) = false := beq_eq_false_iff_ne.mpr hUnlike
  rw [shownFrom, relativeTo?, hBeq, if_neg Bool.false_ne_true]
  by_cases hAbsolute : p.isAbsolute = true
  · rw [if_pos hAbsolute]
    exact ite_self _
  · rw [if_neg hAbsolute]

theorem head?_components_ofComponents (hFree : ∀ c ∈ cs, '/' ∉ c.text.toList) :
    (ofComponents (.up :: cs)).components.head? = some .up := by
  induction cs using List.reverseRecOn with
  | nil => rfl
  | append_singleton cs c ih =>
    rw [List.forall_mem_append] at hFree
    have hBefore := ih hFree.1
    have hLast : ofComponents (.up :: (cs ++ [c])) = (ofComponents (.up :: cs)).join ⟨c.text⟩ := by
      simp [ofComponents]
    rw [hLast, head?_components_join _ (hFree.2 c (by simp)), hBefore]
    intro hNil
    simp [hNil] at hBefore

/-- Where the way leaves the root, the path is shown as it is written. -/
theorem shownFrom_of_up (hAlike : p.isAbsolute = root.isAbsolute)
    (hWay : stepsFrom true p.components root.components = some (.up :: cs))
    (hFree : ∀ c ∈ cs, '/' ∉ c.text.toList) : p.shownFrom root = p.text := by
  rw [shownFrom_of_way hAlike hWay, head?_components_ofComponents hFree]
  simp

/-- A way that stays below the root is shown. -/
theorem shownFrom_of_below (hAlike : p.isAbsolute = root.isAbsolute)
    (hWay : stepsFrom true p.components root.components = some (c :: cs))
    (hRead : (ofComponents (c :: cs)).components = c :: cs) (hDown : c ≠ .up) :
    p.shownFrom root = (ofComponents (c :: cs)).text := by
  have hText : (ofComponents (c :: cs)).text.isEmpty = false := by
    rw [isEmpty_text_eq_false_iff]
    intro hNil
    rw [components, spans, Path.pieces, if_pos (isEmpty_text_iff.mpr hNil)] at hRead
    cases hRead
  rw [shownFrom_of_way hAlike hWay, hText, hRead]
  simp [hDown]

/-- **Below the root the way is shown,** written with separators, whatever the spelling of the
root. -/
theorem shownFrom_names {names : List String} (hSome : names ≠ [])
    (hProper : ∀ n ∈ names, ProperName n)
    (hBelow : p.components = root.components ++ names.map .name) :
    p.shownFrom root = "/".intercalate names := by
  have hSteps : ∀ c ∈ names.map Component.name, c.Step := by
    rw [List.forall_mem_map]
    exact fun n hMem => .name (hProper n hMem)
  obtain ⟨n, rest, hNames⟩ := List.exists_cons_of_ne_nil hSome
  have hWay : stepsFrom true p.components root.components =
      some (.name n :: rest.map .name) := by
    rw [hBelow, stepsFrom_append, hNames]
    rfl
  have hRead : (ofComponents (.name n :: rest.map .name)).components =
      .name n :: rest.map .name := by
    rw [hNames, List.map_cons, List.forall_mem_cons] at hSteps
    exact components_ofComponents (Or.inr (Or.inr hSteps.1)) hSteps.2
  have hTexts : (names.map Component.name).map Component.text = names := by
    simp [Function.comp_def, Component.text]
  rw [shownFrom_of_below (isAbsolute_of_below hBelow hSteps) hWay hRead (by simp),
    ← List.map_cons, ← hNames, text_ofComponents hSteps, hTexts]

-- ---------------------------------------------------------------------------
-- What the shown text stands for
-- ---------------------------------------------------------------------------

/-- Where the path leads by its components alone, the last of which comes first. -/
def resolved (p : Path) : List Component := followAll [] p.components

/-- A text stands for a path in output about a root: it is the path as it was written, or leads
where the path leads if it is read behind the root. -/
def Denotes (root p : Path) (text : String) : Prop :=
  text = p.text ∨ (root.join ⟨text⟩).resolved = p.resolved

instance (root p : Path) (text : String) : Decidable (Denotes root p text) :=
  inferInstanceAs (Decidable (_ ∨ _))

/-- The paths that are shown by a text that leads elsewhere. The root begins with `.` and goes on,
and the path begins with a name. What is shown begins with this name, and the steps back that
should lead out of the root take back the name first: one of them is missing in the end. -/
inductive Astray (root p : Path) : Prop where
  /-- The root goes up at once, and the path is only a name. -/
  | up {n : String} {bs : List Component} (hRoot : root.components = .here :: .up :: bs)
      (hPath : p.components = [.name n])
  /-- The root goes up later. -/
  | turn {m n : String} {bs as : List Component} (hRoot : root.components = .here :: .name m :: bs)
      (hPath : p.components = .name n :: as) (hTurn : .up ∈ bs)
  /-- The path begins with another name than the root, and stays below this name. -/
  | beside {m n : String} {bs as : List Component}
      (hRoot : root.components = .here :: .name m :: bs) (hPath : p.components = .name n :: as)
      (hOther : m ≠ n) (hStays : ¬Climbs as)

/-- The components behind the first one are steps. -/
theorem components_shape (hComponents : p.components = c :: cs) :
    (c = .root ∨ c = .here ∨ c.Step) ∧ ∀ d ∈ cs, d.Step := by
  rcases components_cases p with ⟨-, hNil⟩ | ⟨d, rest, hCons, hSteps, hFirst⟩
  · rw [hNil] at hComponents
    cases hComponents
  · rw [hCons] at hComponents
    obtain ⟨rfl, rfl⟩ := List.cons.inj hComponents
    exact ⟨hFirst.imp And.left And.left, hSteps⟩

theorem isAbsolute_of_first (hComponents : p.components = c :: cs) (hFirst : c ≠ .root) :
    p.isAbsolute = false := by
  rw [Bool.eq_false_iff, Ne, ← head?_components_eq_root_iff, hComponents, List.head?_cons]
  simpa using hFirst

/-- The components of a path that starts nowhere in particular hold no separators. -/
theorem free_of_relative (hRelative : p.isAbsolute = false) :
    ∀ c ∈ p.components, '/' ∉ c.text.toList := by
  rcases components_cases p with ⟨-, hNil⟩ | ⟨c, rest, hCons, hSteps, ⟨-, hAbsolute⟩ | ⟨hFirst, -⟩⟩
  · simp [hNil]
  · simp [hAbsolute] at hRelative
  · rw [hCons, List.forall_mem_cons]
    refine ⟨?_, fun d hMem => (hSteps d hMem).read.1⟩
    rcases hFirst with rfl | hStep
    · decide
    · exact hStep.read.1

/-- From a root that begins with `.`, the first component of the path comes first, and the steps
back out of the rest of the root behind it. -/
theorem stepsFrom_here (hOther : a ≠ .here) (as bs : List Component) :
    stepsFrom true (a :: as) (.here :: bs) = (stepsFrom false as bs).map (a :: ·) := by
  rw [stepsFrom, if_neg (by simpa using hOther), if_pos rfl]

theorem steps_across {n : String} (hPath : p.components = .name n :: as) (k : Nat) :
    ∀ c ∈ Component.name n :: (List.replicate k .up ++ as), c.Step := by
  have hFirst := (components_shape hPath).1
  rw [List.forall_mem_cons, List.forall_mem_append]
  refine ⟨by simpa using hFirst, fun d hMem => ?_, (components_shape hPath).2⟩
  rw [List.eq_of_mem_replicate hMem]
  exact .up

/-- What is shown of a path across a root that begins with `.` and goes on. -/
theorem shownFrom_across {n : String} (hRoot : root.components = .here :: b :: bs)
    (hPath : p.components = .name n :: as) (hWay : b = .up → as = []) :
    p.shownFrom root =
      (ofComponents (.name n :: (List.replicate (bs.length + 1) .up ++ as))).text := by
  have hStep : b.Step := (components_shape hRoot).2 b (by simp)
  have hAlike : p.isAbsolute = root.isAbsolute := by
    rw [isAbsolute_of_first hRoot (by simp), isAbsolute_of_first hPath (by simp)]
  have hSeen : stepsFrom true p.components root.components =
      some (.name n :: (List.replicate (bs.length + 1) .up ++ as)) := by
    rw [hPath, hRoot, stepsFrom_here (by simp)]
    cases as with
    | nil => simp
    | cons a as =>
      have hDown : b ≠ .up := fun hUp => absurd (hWay hUp) (by simp)
      rw [stepsFrom_apart hStep (Or.inl rfl), if_neg hDown]
      rfl
  obtain ⟨hFirst, hRest⟩ := List.forall_mem_cons.mp (steps_across hPath (bs.length + 1))
  exact shownFrom_of_below hAlike hSeen
    (components_ofComponents (Or.inr (Or.inr hFirst)) hRest) (by simp)

/-- Where the text leads that is shown across a root. -/
theorem resolved_across {n : String} (hRoot : root.components = .here :: b :: bs)
    (hPath : p.components = .name n :: as) :
    (root.join (ofComponents (.name n :: (List.replicate (bs.length + 1) .up ++ as)))).resolved =
      followAll (followAll (followAll (follow [] b) bs) (List.replicate bs.length .up)) as := by
  have hSteps := steps_across hPath (bs.length + 1)
  rw [resolved, join_ofComponents root hSteps (by simp), components_along hSteps, hRoot,
    followAll_append, followAll_name_ups]
  rfl

/-- When a path goes astray, by its components and those of the root. -/
theorem astray_iff {n : String} (hRoot : root.components = .here :: b :: bs)
    (hPath : p.components = .name n :: as) :
    Astray root p ↔ b = .up ∧ as = [] ∨ ∃ m, b = .name m ∧ (.up ∈ bs ∨ m ≠ n ∧ ¬Climbs as) := by
  constructor
  · rintro (⟨hRoot', hPath'⟩ | ⟨hRoot', hPath', hTurn⟩ | ⟨hRoot', hPath', hOther, hStays⟩)
    all_goals
      rw [hRoot] at hRoot'
      rw [hPath] at hPath'
      obtain ⟨rfl, rfl⟩ := List.cons.inj (List.cons.inj hRoot').2
      obtain ⟨hName, rfl⟩ := List.cons.inj hPath'
    · exact Or.inl ⟨rfl, rfl⟩
    · exact Or.inr ⟨_, rfl, Or.inl hTurn⟩
    · cases hName
      exact Or.inr ⟨_, rfl, Or.inr ⟨hOther, hStays⟩⟩
  · rintro (⟨rfl, rfl⟩ | ⟨m, rfl, hTurn | ⟨hOther, hStays⟩⟩)
    · exact .up hRoot hPath
    · exact .turn hRoot hPath hTurn
    · exact .beside hRoot hPath hOther hStays

/-- **When the text across a root leads to the path.** -/
theorem resolved_across_iff {n : String} (hRoot : root.components = .here :: b :: bs)
    (hPath : p.components = .name n :: as) (hWay : b = .up → as = []) :
    (root.join (ofComponents (.name n :: (List.replicate (bs.length + 1) .up ++ as)))).resolved =
      p.resolved ↔ ¬Astray root p := by
  obtain ⟨hStep, hSteps⟩ := List.forall_mem_cons.mp (components_shape hRoot).2
  obtain ⟨names, back, taken, hRoot'⟩ := exists_reduced hSteps
  obtain ⟨names', back', taken', hPath'⟩ := exists_reduced (components_shape hPath).2
  have hOwn : p.resolved = followAll [.name n] as := by
    rw [resolved, hPath]
    rfl
  rw [resolved_across hRoot hPath, hRoot'.followAll_back, hOwn, astray_iff hRoot hPath]
  cases hStep with
  | up =>
    have hLead : followAll (follow [] .up) (List.replicate (2 * (back + taken)) .up) =
        List.replicate (1 + 2 * (back + taken)) .up := followAll_ups_ups 1 _
    rw [hLead]
    refine iff_of_false (hPath'.followAll_ups_ne (by omega) n) ?_
    simp [hWay rfl]
  | @name m hProper =>
    have hLead : follow [] (.name m) = [.name m] := rfl
    rw [hLead, followAll_ups_name]
    by_cases hTurn : .up ∈ bs
    · have hBack := hRoot'.turns.mp hTurn
      rw [if_neg (by omega)]
      refine iff_of_false (hPath'.followAll_ups_ne (by omega) n) ?_
      simp [hTurn]
    · have hBack : back + taken = 0 := Nat.eq_zero_of_not_pos fun h => hTurn (hRoot'.turns.mpr h)
      rw [hBack, Nat.mul_zero, if_pos rfl, hPath'.followAll_name_eq_iff, hPath'.climbs_iff]
      simp only [reduceCtorEq, false_and, false_or, name.injEq, exists_eq_left', hTurn]
      tauto

/-- A path with a way from the root, which leads to the path. -/
theorem denotes_of_way (hAlike : p.isAbsolute = root.isAbsolute)
    (hWay : stepsFrom true p.components root.components = some cs)
    (hJoin : cs ≠ [] → (root.join (ofComponents cs)).resolved = p.resolved) :
    Denotes root p (p.shownFrom root) := by
  rw [shownFrom_of_way hAlike hWay]
  split
  · exact Or.inl rfl
  · rename_i hShown
    refine Or.inr (hJoin ?_)
    rintro rfl
    exact hShown rfl

/-- What is shown of a path below the root stands for it. -/
theorem denotes_of_below (hBelow : p.components = root.components ++ cs)
    (hSteps : ∀ c ∈ cs, c.Step) : Denotes root p (p.shownFrom root) := by
  refine denotes_of_way (isAbsolute_of_below hBelow hSteps) (by rw [hBelow, stepsFrom_append]) ?_
  intro hSome
  rw [resolved, resolved, join_ofComponents root hSteps hSome, components_along hSteps, hBelow]

/-- When the shown text stands for the path, if only steps follow a common beginning. -/
theorem denotes_of_steps (before : List Component) (hAlike : p.isAbsolute = root.isAbsolute)
    (hRoot : root.components = before ++ bs) (hPath : p.components = before ++ as)
    (hSteps : ∀ b ∈ bs, b.Step) (hFree : ∀ a ∈ as, '/' ∉ a.text.toList)
    (hSome : root.components ≠ []) : Denotes root p (p.shownFrom root) := by
  have hStrip : stepsFrom true p.components root.components = stepsFrom true as bs := by
    rw [hPath, hRoot, stepsFrom_append_append]
  rcases stepsFrom_cases hSteps as with hNone | ⟨cs, hUp⟩ | ⟨cs, hBelow⟩
  · exact Or.inl (shownFrom_of_none hAlike (hStrip.trans hNone))
  · refine Or.inl (shownFrom_of_up hAlike (hStrip.trans hUp) fun c hMem => ?_)
    rcases mem_of_stepsFrom hUp c (List.mem_cons_of_mem _ hMem) with hIn | rfl
    · exact hFree c hIn
    · decide
  · have hWhole : p.components = root.components ++ cs := by
      rw [hPath, hRoot, hBelow, List.append_assoc]
    refine denotes_of_below hWhole fun c hMem => ?_
    obtain ⟨d, rest, hCons⟩ := List.exists_cons_of_ne_nil hSome
    rw [hCons] at hWhole
    exact (components_shape hWhole).2 c (List.mem_append_right _ hMem)

/-- The text across a root is not the path as it was written. -/
theorem text_across_ne {n : String} (hPath : p.components = .name n :: as) (k : Nat) :
    (ofComponents (.name n :: (List.replicate (k + 1) .up ++ as))).text ≠ p.text := by
  intro hText
  have hSame : ofComponents (.name n :: (List.replicate (k + 1) .up ++ as)) = p :=
    congrArg Path.mk hText
  obtain ⟨hFirst, hSteps⟩ := List.forall_mem_cons.mp (steps_across hPath (k + 1))
  have hRead := components_ofComponents (Or.inr (Or.inr hFirst)) hSteps
  rw [hSame, hPath] at hRead
  have hLength := congrArg List.length hRead
  simp at hLength

/-- When a path is shown across a root. -/
def Across (root p : Path) : Prop :=
  ∃ b bs n as, root.components = .here :: b :: bs ∧ p.components = .name n :: as ∧
    (b = .up → as = [])

theorem Astray.across (h : Astray root p) : Across root p := by
  cases h with
  | up hRoot hPath => exact ⟨_, _, _, _, hRoot, hPath, fun _ => rfl⟩
  | turn hRoot hPath => exact ⟨_, _, _, _, hRoot, hPath, by simp⟩
  | beside hRoot hPath => exact ⟨_, _, _, _, hRoot, hPath, by simp⟩

/-- What is shown behind a root that begins with `.` stands for the path, if nothing is shown
across it. -/
theorem denotes_of_here (hRoot : root.components = .here :: bs) (hAlike : p.isAbsolute = false)
    (hNot : ¬Across root p) : Denotes root p (p.shownFrom root) := by
  have hSteps := (components_shape hRoot).2
  have hBoth : p.isAbsolute = root.isAbsolute := by
    rw [hAlike, isAbsolute_of_first hRoot (by simp)]
  cases hPath : p.components with
  | nil =>
    have hWay : stepsFrom true p.components root.components =
        some (.up :: List.replicate bs.length .up) := by
      rw [hPath, hRoot, stepsFrom_spent]
      rfl
    refine Or.inl (shownFrom_of_up hBoth hWay fun c hMem => ?_)
    rw [List.eq_of_mem_replicate hMem]
    decide
  | cons a as =>
    obtain ⟨hFirst, hRest⟩ := components_shape hPath
    have hFree : ∀ c ∈ as, '/' ∉ c.text.toList := fun c hMem => (hRest c hMem).read.1
    cases a with
    | root =>
      rw [← Bool.not_eq_true, ← head?_components_eq_root_iff, hPath] at hAlike
      exact absurd rfl hAlike
    | here =>
      exact denotes_of_steps [.here] hBoth hRoot hPath hSteps hFree (by simp [hRoot])
    | up =>
      have hWay : stepsFrom true p.components root.components =
          (stepsFrom false as bs).map (.up :: ·) := by
        rw [hPath, hRoot, stepsFrom_here (by simp)]
      cases hNext : stepsFrom false as bs with
      | none =>
        rw [hNext] at hWay
        exact Or.inl (shownFrom_of_none hBoth hWay)
      | some cs =>
        rw [hNext] at hWay
        refine Or.inl (shownFrom_of_up hBoth hWay fun c hMem => ?_)
        rcases mem_of_stepsFrom hNext c hMem with hIn | rfl
        · exact hFree c hIn
        · decide
    | name n =>
      cases bs with
      | nil =>
        -- the whole path follows behind the root
        have hName : ∀ c ∈ Component.name n :: as, c.Step := steps_across hPath 0
        have hWay : stepsFrom true p.components root.components = some (.name n :: as) := by
          rw [hPath, hRoot, stepsFrom_here (by simp), stepsFrom_nil]
          rfl
        refine denotes_of_way hBoth hWay fun hSome => ?_
        rw [resolved, resolved, join_ofComponents root hName hSome, components_along hName, hRoot,
          hPath]
        rfl
      | cons b bs =>
        have hUp : b = .up ∧ as ≠ [] := by
          by_contra hOther
          exact hNot ⟨b, bs, n, as, hRoot, hPath, by tauto⟩
        obtain ⟨d, rest, rfl⟩ := List.exists_cons_of_ne_nil hUp.2
        refine Or.inl (shownFrom_of_none hBoth ?_)
        rw [hPath, hRoot, stepsFrom_here (by simp), stepsFrom_apart (hSteps b (by simp)) (Or.inl rfl),
          if_pos hUp.1]
        rfl

/-- **When the shown text stands for the path:** always, but for the paths that go astray. -/
theorem shownFrom_denotes_iff (root p : Path) :
    Denotes root p (p.shownFrom root) ↔ ¬Astray root p := by
  by_cases hAcross : Across root p
  · obtain ⟨b, bs, n, as, hRoot, hPath, hWay⟩ := hAcross
    rw [shownFrom_across hRoot hPath hWay, Denotes, or_iff_right (text_across_ne hPath bs.length)]
    exact resolved_across_iff hRoot hPath hWay
  refine iff_of_true ?_ fun hAstray => hAcross hAstray.across
  by_cases hAlike : p.isAbsolute = root.isAbsolute
  swap
  · exact Or.inl (shownFrom_of_unlike hAlike)
  rcases components_cases root with ⟨hText, hNil⟩ | ⟨c, bs, hRoot, hSteps, hFirst⟩
  · -- behind the empty root the path is read as it is
    refine denotes_of_way hAlike (by rw [hNil, stepsFrom_nil]) fun hSome => ?_
    obtain ⟨a, as, hPath⟩ := List.exists_cons_of_ne_nil hSome
    have hJoin : root.join (ofComponents p.components) = ofComponents p.components := by
      rw [join, if_pos (by simp [isEmpty_text_iff.mpr hText])]
    obtain ⟨hFirst, hSteps⟩ := components_shape hPath
    rw [hJoin, resolved, resolved, hPath, components_ofComponents hFirst hSteps]
  have hSome : root.components ≠ [] := by simp [hRoot]
  rcases hFirst with ⟨rfl, hAbsolute⟩ | ⟨rfl | hStep, hRelative⟩
  · obtain ⟨as, hPath⟩ : ∃ as, p.components = .root :: as := by
      rw [hAbsolute, ← head?_components_eq_root_iff] at hAlike
      obtain ⟨as, hPath⟩ := List.head?_eq_some_iff.mp hAlike
      exact ⟨as, hPath⟩
    exact denotes_of_steps [.root] hAlike hRoot hPath hSteps
      (fun a hMem => ((components_shape hPath).2 a hMem).read.1) hSome
  · exact denotes_of_here hRoot (hAlike.trans hRelative) hAcross
  · refine denotes_of_steps [] hAlike hRoot rfl
      (List.forall_mem_cons.mpr ⟨hStep, hSteps⟩) (fun a hMem => ?_) hSome
    exact free_of_relative (hAlike.trans hRelative) a hMem

/-- A file beside the root of which only the directory above is shown: behind the root `./x/y`, the
text `a/../..` leads to `x`. -/
theorem shownFrom_astray :
    (Path.mk "a").shownFrom ⟨"./x/y"⟩ = "a/../.." ∧
      ¬Denotes ⟨"./x/y"⟩ ⟨"a"⟩ ((Path.mk "a").shownFrom ⟨"./x/y"⟩) := by
  decide

end Path

end LicenseAudit
