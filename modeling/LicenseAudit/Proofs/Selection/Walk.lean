import LicenseAudit.Proofs.FileSystem.Alike
import LicenseAudit.Proofs.FileSystem.Seat
import LicenseAudit.Proofs.Path.Order
import LicenseAudit.Proofs.Program.Run
import LicenseAudit.Selection.Walk

/-!
# What a walk finds

A walk finds every file under one path only, and each path leads to a file of its own. It does
not look into files, so that it finds the same paths whatever the files hold.

* `Call.surveys` — the calls that are answered without looking into files;
* `Under` — a path below a directory;
* `Apart` — two paths that are different and lead to different places.

## Results

* `walk_found` — the found paths are apart from each other and accepted by the selection.
* `FileSystem.Alike.perform` — file systems that differ in file contents only are told apart by no
  call of a walk.
-/

namespace LicenseAudit

/-- Whether a call is answered without looking into files. -/
def Call.surveys : Call → Bool
  | .status _ | .linkStatus _ | .list _ => true
  | _ => false

theorem Call.looks_of_surveys {c : Call} (h : c.surveys = true) : c.looks = true := by
  cases c <;> first | rfl | cases h

/-- A program that never looks into files. -/
abbrev Program.Surveys {α : Type} (p : Program α) : Prop := p.Only fun c => c.surveys = true

theorem Program.Surveys.readOnly {α : Type} {p : Program α} (h : p.Surveys) : p.ReadOnly :=
  h.mono fun _ => Call.looks_of_surveys

namespace Program

theorem surveys_status (p : Path) : (status p).Surveys := only_ask rfl

theorem surveys_linkStatus (p : Path) : (linkStatus p).Surveys := only_ask rfl

theorem surveys_list (p : Path) : (list p).Surveys := only_ask rfl

end Program

-- ---------------------------------------------------------------------------
-- Filters
-- ---------------------------------------------------------------------------

theorem Rule.surveys (rule : Rule) (p : Path) : (rule.check p).Surveys := by
  cases rule with
  | unnamed | only => exact Program.only_pure _
  | noLink =>
    refine (Program.surveys_linkStatus p).bind fun reply => ?_
    cases reply <;> exact Program.only_pure _

section

variable {p : Path} {reply : (c : Call) → c.Reply}

theorem Rule.answer_unnamed_iff {ps : NamePatterns} :
    ((unnamed ps).check p).answer reply = .accepted ↔ ps.matchesPath p = false := by
  rw [check, Program.answer_pure]
  cases ps.matchesPath p <;> simp

theorem Rule.answer_noLink_iff : (noLink.check p).answer reply = .accepted ↔
    ∀ s, reply (.linkStatus p) = .ok s → s.kind ≠ .link := by
  rw [check, Program.answer_bind, Program.answer_linkStatus]
  cases reply (.linkStatus p) with
  | error cause => simp
  | ok s => by_cases hKind : s.kind = .link <;> simp [hKind]

theorem Rule.answer_only_iff {holds : Path → Bool} :
    ((only holds).check p).answer reply = .accepted ↔ holds p = true := by
  rw [check, Program.answer_pure]
  cases holds p <;> simp

end

namespace Filter

theorem check_surveys (f : Filter) (p : Path) : (check f p).Surveys := by
  induction f with
  | nil => exact Program.only_pure _
  | cons rule rest ih =>
    refine (rule.surveys p).bind fun verdict => ?_
    cases verdict with
    | accepted => exact ih
    | rejected reason => exact Program.only_pure _

theorem accepts_surveys (f : Filter) (p : Path) : (accepts f p).Surveys :=
  (check_surveys f p).bind fun _ => Program.only_pure _

/-- A filter accepts what each of its rules accepts. -/
theorem answer_accepts_iff {f : Filter} {p : Path} {reply : (c : Call) → c.Reply} :
    (accepts f p).answer reply = true ↔ ∀ rule ∈ f, (rule.check p).answer reply = .accepted := by
  induction f with
  | nil => exact iff_of_true rfl fun rule hMem => absurd hMem List.not_mem_nil
  | cons first rest ih =>
    rw [List.forall_mem_cons, ← ih, accepts, accepts, check]
    simp only [Program.answer_bind, Program.answer_pure]
    cases (first.check p).answer reply with
    | accepted => exact (and_iff_right rfl).symm
    | rejected reason => simp [Verdict.isAccepted]

end Filter

-- ---------------------------------------------------------------------------
-- Walks do not look into files
-- ---------------------------------------------------------------------------

namespace Walk

variable {selection : Selection}

theorem descends_surveys (selection : Selection) (p : Path) : (selection.descends p).Surveys :=
  Filter.accepts_surveys _ p

theorem includes_surveys (selection : Selection) (p : Path) : (selection.includes p).Surveys :=
  Filter.accepts_surveys _ p

theorem report_surveys (selection : Selection) (p : Path) : (report selection p).Surveys :=
  (Filter.accepts_surveys _ p).bind fun _ => Program.only_pure _

theorem visitAll_surveys {α : Type} {visit : α → Program Answer}
    (hVisit : ∀ entry, (visit entry).Surveys) (entries : List α) :
    (visitAll visit entries).Surveys := by
  induction entries with
  | nil => exact Program.only_pure _
  | cons entry rest ih =>
    refine (hVisit entry).bind fun answer => ?_
    cases answer with
    | error e => exact Program.only_pure _
    | ok found =>
      refine ih.bind fun answer => ?_
      cases answer <;> exact Program.only_pure _

/-- The visit of one entry of a directory: a directory is entered, anything else reported. -/
theorem entry_surveys {depth : Nat} (hInside : ∀ dir, (inside selection depth dir).Surveys)
    (p : Path) (kind : EntryKind) :
    (if kind = .directory then do
        if ← selection.descends p then inside selection depth p else return .ok []
      else return .ok (← report selection p) : Program Answer).Surveys := by
  split_ifs with hKind
  · refine (descends_surveys selection p).bind fun enters => ?_
    split_ifs
    · exact hInside p
    · exact Program.only_pure _
  · exact (report_surveys selection p).bind fun _ => Program.only_pure _

theorem inside_surveys (selection : Selection) (depth : Nat) (dir : Path) :
    (inside selection depth dir).Surveys := by
  induction depth generalizing dir with
  | zero => exact Program.only_pure _
  | succ depth ih =>
    refine (Program.surveys_list dir).bind fun reply => ?_
    cases reply with
    | error e => exact Program.only_pure _
    | ok entries => exact visitAll_surveys (fun entry => entry_surveys ih _ entry.2) entries

theorem fromRoot_surveys (root : Path) (selection : Selection) :
    (fromRoot root selection).Surveys := by
  refine (Program.surveys_linkStatus root).bind fun reply => ?_
  cases reply with
  | error e => exact Program.only_pure _
  | ok s =>
    cases hKind : s.kind with
    | directory =>
      simp only [hKind]
      refine (descends_surveys selection root).bind fun enters => ?_
      split_ifs
      · exact inside_surveys selection _ root
      · exact Program.only_pure _
    | file =>
      simp only [hKind]
      exact (report_surveys selection root).bind fun _ => Program.only_pure _
    | link =>
      simp only [hKind]
      refine (Program.surveys_status root).bind fun reply => ?_
      cases reply with
      | error e => exact Program.only_pure _
      | ok target =>
        refine (report_surveys selection root).bind fun self => ?_
        split_ifs
        · refine (inside_surveys selection _ root).bind fun answer => ?_
          cases answer <;> exact Program.only_pure _
        · exact Program.only_pure _

end Walk

theorem walk_surveys (root : Path) (selection : Selection) : (walk root selection).Surveys := by
  refine (Walk.fromRoot_surveys root selection).bind fun answer => ?_
  cases answer <;> exact Program.only_pure _

/-- File systems that differ in file contents only answer such calls alike. -/
theorem FileSystem.Alike.perform {fs fs' : FileSystem} (h : fs.Alike fs') (hTree : fs.WellFormed)
    (hTree' : fs'.WellFormed) {c : Call} (hSurveys : c.surveys = true) :
    (fs'.perform c).1 = (fs.perform c).1 := by
  cases c with
  | status p => exact h.status p
  | linkStatus p => exact h.linkStatus p
  | list p => exact h.list hTree hTree' p
  | read | canonical | write | setMode | rename | remove | elapsed => cases hSurveys

-- ---------------------------------------------------------------------------
-- Paths below a directory
-- ---------------------------------------------------------------------------

namespace FileSystem

/-- The path leads to a place at or below the given one, and its components begin with the given
ones. -/
structure Under (fs : FileSystem) (cs : List Component) (l : Location) (p : Path) : Prop where
  seat       : ∃ dir n, fs.Seat p dir n ∧ l <:+ n :: dir
  components : cs <+: p.components

/-- The paths are different and lead to different places. -/
structure Apart (fs : FileSystem) (p q : Path) : Prop where
  spelled : p.key ≠ q.key
  placed  : ∀ dir n, fs.Seat p dir n → ¬ fs.Seat q dir n

variable {fs : FileSystem}

/-- Below two entries of one directory nothing is the same. -/
theorem apart_of_under {cs : List Component} {l : Location} {m n : String} {p q : Path}
    (hp : fs.Under (cs ++ [.name m]) (m :: l) p) (hq : fs.Under (cs ++ [.name n]) (n :: l) q)
    (hOther : m ≠ n) : fs.Apart p q where
  spelled := by
    intro hKey
    have hq' := hq.components
    rw [← Path.key_eq_iff.mp hKey] at hq'
    have hSame := List.prefix_of_prefix_length_le hp.components hq' (by simp)
    have hEq := hSame.eq_of_length (by simp)
    simp [hOther] at hEq
  placed := by
    intro dir name hSeat hSeat'
    obtain ⟨d, a, hThere, hBelow⟩ := hp.seat
    obtain ⟨d', b, hThere', hBelow'⟩ := hq.seat
    obtain ⟨rfl, rfl⟩ := hSeat.unique hThere
    obtain ⟨rfl, rfl⟩ := hSeat'.unique hThere'
    have hSame := List.suffix_of_suffix_length_le hBelow hBelow' (by simp)
    have hEq := hSame.eq_of_length (by simp)
    exact hOther (List.cons.inj hEq).1

/-- What is below an entry is below its directory. -/
theorem Under.parent {cs : List Component} {l : Location} {n : String} {p : Path}
    (h : fs.Under (cs ++ [.name n]) (n :: l) p) : fs.Under cs l p where
  seat := by
    obtain ⟨dir, name, hSeat, hBelow⟩ := h.seat
    exact ⟨dir, name, hSeat, (List.suffix_cons n l).trans hBelow⟩
  components := (List.prefix_append _ _).trans h.components

end FileSystem

-- ---------------------------------------------------------------------------
-- Found paths
-- ---------------------------------------------------------------------------

namespace Walk

variable {selection : Selection} {fs : FileSystem}

/-- A visit of all entries that ends well finds what the visits of the entries find. -/
theorem exists_parts {α : Type} {visit : α → Program Answer} {reply : (c : Call) → c.Reply}
    {entries : List α} {found : List Path}
    (h : (visitAll visit entries).answer reply = .ok found) :
    ∃ part : α → List Path, (∀ entry ∈ entries, (visit entry).answer reply = .ok (part entry)) ∧
      found = entries.flatMap part := by
  refine ⟨fun entry => ((visit entry).answer reply).toOption.getD [], ?_⟩
  induction entries generalizing found with
  | nil =>
    cases h
    exact ⟨fun entry hMem => absurd hMem List.not_mem_nil, rfl⟩
  | cons entry rest ih =>
    rw [visitAll, Program.answer_bind] at h
    cases hFirst : (visit entry).answer reply with
    | error e =>
      rw [hFirst] at h
      cases h
    | ok part =>
      simp only [hFirst, Program.answer_bind] at h
      cases hRest : (visitAll visit rest).answer reply with
      | error e =>
        rw [hRest] at h
        cases h
      | ok more =>
        rw [hRest] at h
        cases h
        obtain ⟨hParts, rfl⟩ := ih hRest
        refine ⟨?_, ?_⟩
        · intro e hMem
          rcases List.mem_cons.mp hMem with rfl | hLater
          · simp [hFirst, Except.toOption]
          · exact hParts e hLater
        · rw [List.flatMap_cons, hFirst]
          rfl

theorem report_run (selection : Selection) (p : Path) (fs : FileSystem) :
    ((report selection p).run fs).1 =
      if ((selection.includes p).run fs).1 then [p] else [] := by
  rw [report, Program.run_bind]
  rfl

theorem answer_report (reply : (c : Call) → c.Reply) (p : Path) :
    (report selection p).answer reply =
      if (selection.includes p).answer reply then [p] else [] := by
  rw [report, Program.answer_bind]
  rfl

/-- The visit of one entry: a directory is entered if it may be, anything else is reported. -/
theorem answer_entry (reply : (c : Call) → c.Reply) (depth : Nat) (p : Path) (kind : EntryKind) :
    (if kind = .directory then do
        if ← selection.descends p then inside selection depth p else return .ok []
      else return .ok (← report selection p) : Program Answer).answer reply =
    if kind = .directory then
      if (selection.descends p).answer reply then (inside selection depth p).answer reply
      else .ok []
    else .ok (if (selection.includes p).answer reply then [p] else []) := by
  by_cases hKind : kind = .directory
  · rw [if_pos hKind, if_pos hKind, Program.answer_bind]
    split_ifs <;> rfl
  · rw [if_neg hKind, if_neg hKind, Program.answer_bind, answer_report]
    rfl

/-- Nothing is found where nothing is reported. -/
theorem nothing_found {P : Path → Prop} :
    (∀ p ∈ ([] : List Path), P p) ∧ ([] : List Path).Pairwise fs.Apart :=
  ⟨fun _ hMem => absurd hMem List.not_mem_nil, List.Pairwise.nil⟩

variable {reply : (c : Call) → c.Reply}

/-- A report finds one path, if that path is accepted. -/
theorem report_found {P : Path → Prop} {p : Path}
    (hAccepted : (selection.includes p).answer reply = true → P p) :
    (∀ q ∈ (if (selection.includes p).answer reply then [p] else []), P q) ∧
      (if (selection.includes p).answer reply then [p] else []).Pairwise fs.Apart := by
  split_ifs with hIncludes
  · refine ⟨fun q hMem => ?_, List.pairwise_singleton _ _⟩
    rw [List.mem_singleton.mp hMem]
    exact hAccepted hIncludes
  · exact nothing_found

/-- What a walk inside a directory finds, if it ends well and is told of entries only that are
there: paths below the directory that are accepted and apart from each other. -/
theorem inside_found (hTree : fs.WellFormed)
    (hLists : ∀ dir entries, reply (.list dir) = .ok entries → fs.list dir = .ok entries)
    {depth : Nat} {dir : Path} {found : List Path}
    (h : (inside selection depth dir).answer reply = .ok found) :
    ∃ l, fs.locate true dir = .ok l ∧
      (∀ p ∈ found, fs.Under dir.components l p ∧ (selection.includes p).answer reply = true) ∧
      found.Pairwise fs.Apart := by
  induction depth generalizing dir found with
  | zero => cases h
  | succ depth ih =>
    rw [inside, Program.answer_bind, Program.answer_list] at h
    cases hList : reply (.list dir) with
    | error e =>
      rw [hList] at h
      cases h
    | ok entries =>
      rw [hList] at h
      obtain ⟨l, hOpens, hLocate, rfl⟩ := FileSystem.opens_of_list (hLists dir entries hList)
      obtain ⟨part, hParts, rfl⟩ := exists_parts h
      -- what is found at one entry is the entry itself or below it
      have hPart : ∀ entry ∈ (fs.children l).map fun c => (c.1, c.2.status.kind),
          (∀ p ∈ part entry, fs.Under (dir.components ++ [.name entry.1]) (entry.1 :: l) p ∧
            (selection.includes p).answer reply = true) ∧
          (part entry).Pairwise fs.Apart := by
        intro entry hMem
        have hVisit := (answer_entry reply depth _ _).symm.trans (hParts entry hMem)
        obtain ⟨⟨n, e⟩, hChild, rfl⟩ := List.mem_map.mp hMem
        have hEntry : (n :: l, e) ∈ fs.entries := FileSystem.mem_children.mp hChild
        have hProper : ProperName n := hTree.names hEntry
        have hSeat := hOpens.seat hProper
        have hComponents := Path.components_join dir hProper
        generalize part (n, e.status.kind) = here at hVisit ⊢
        by_cases hKind : e.status.kind = .directory
        · simp only [hKind, if_true] at hVisit
          split_ifs at hVisit with hEnters
          · obtain ⟨l', hLocate', hFound, hApart⟩ := ih hVisit
            have hPlain : e.isLink = false := by
              cases e with
              | link target => cases hKind
              | file | directory => rfl
            obtain rfl := hSeat.eq_of_locate
              ((hTree.lookup?_eq_some_iff (List.cons_ne_nil n l)).mpr hEntry) hPlain hLocate'
            rw [hComponents] at hFound
            exact ⟨hFound, hApart⟩
          · cases hVisit
            exact nothing_found
        · rw [if_neg hKind] at hVisit
          obtain rfl := Except.ok.inj hVisit
          refine report_found fun hAccepted => ⟨⟨?_, ?_⟩, hAccepted⟩
          · exact ⟨l, n, hSeat, List.suffix_refl _⟩
          · exact hComponents ▸ List.prefix_refl _
      refine ⟨l, hLocate, ?_, ?_⟩
      · intro p hMem
        obtain ⟨entry, hEntry, hFound⟩ := List.mem_flatMap.mp hMem
        obtain ⟨hUnder, hAccepted⟩ := (hPart entry hEntry).1 p hFound
        exact ⟨hUnder.parent, hAccepted⟩
      · refine List.pairwise_flatMap.mpr ⟨fun entry hEntry => (hPart entry hEntry).2, ?_⟩
        rw [List.pairwise_map]
        refine (FileSystem.increasing_children hTree l).imp_of_mem ?_
        intro c c' hChild hChild' hBefore p hp q hq
        exact FileSystem.apart_of_under ((hPart _ (List.mem_map_of_mem hChild)).1 p hp).1
          ((hPart _ (List.mem_map_of_mem hChild')).1 q hq).1 (ne_of_lt hBefore)

/-- What a walk finds, if it ends well and no link is accepted. -/
theorem fromRoot_found (hTree : fs.WellFormed)
    (hLists : ∀ dir entries, reply (.list dir) = .ok entries → fs.list dir = .ok entries)
    {root : Path} {found : List Path}
    (hPlain : ∀ p, (selection.includes p).answer reply = true →
      ∀ s, reply (.linkStatus p) = .ok s → s.kind ≠ .link)
    (h : (fromRoot root selection).answer reply = .ok found) :
    (∀ p ∈ found, (selection.includes p).answer reply = true) ∧ found.Pairwise fs.Apart := by
  have hInside : ∀ {found}, (inside selection pathLimit root).answer reply = .ok found →
      (∀ p ∈ found, (selection.includes p).answer reply = true) ∧ found.Pairwise fs.Apart := by
    intro found hFound
    obtain ⟨l, -, hUnder, hApart⟩ := inside_found hTree hLists hFound
    exact ⟨fun p hMem => (hUnder p hMem).2, hApart⟩
  rw [fromRoot, Program.answer_bind, Program.answer_linkStatus] at h
  cases hStatus : reply (.linkStatus root) with
  | error e =>
    rw [hStatus] at h
    cases h
  | ok s =>
    simp only [hStatus] at h
    cases hKind : s.kind with
    | directory =>
      simp only [hKind, Program.answer_bind] at h
      split_ifs at h with hEnters
      · exact hInside h
      · cases h
        exact nothing_found
    | file =>
      simp only [hKind, Program.answer_bind, Program.answer_pure, answer_report] at h
      obtain rfl := Except.ok.inj h
      exact report_found id
    | link =>
      -- the root itself is not accepted
      have hSelf : (report selection root).answer reply = [] := by
        rw [answer_report, if_neg fun hAccepted => hPlain root hAccepted s hStatus hKind]
      simp only [hKind, Program.answer_bind, Program.answer_status] at h
      cases hTarget : reply (.status root) with
      | error e =>
        rw [hTarget] at h
        cases h
      | ok target =>
        simp only [hTarget, Program.answer_bind, hSelf] at h
        split_ifs at h
        · rw [Program.answer_bind] at h
          cases hAnswer : (inside selection pathLimit root).answer reply with
          | error e =>
            rw [hAnswer] at h
            cases h
          | ok below =>
            rw [hAnswer] at h
            cases h
            exact hInside hAnswer
        · cases h
          exact nothing_found

end Walk

/-- **Found paths.** A walk that ends well, is told of entries only that are there, and accepts no
link, finds paths that are accepted and apart from each other. -/
theorem walk_found {selection : Selection} {fs : FileSystem} (hTree : fs.WellFormed)
    {reply : (c : Call) → c.Reply}
    (hLists : ∀ dir entries, reply (.list dir) = .ok entries → fs.list dir = .ok entries)
    {root : Path} {found : List Path}
    (hPlain : ∀ p, (selection.includes p).answer reply = true →
      ∀ s, reply (.linkStatus p) = .ok s → s.kind ≠ .link)
    (h : (walk root selection).answer reply = .ok found) :
    (∀ p ∈ found, (selection.includes p).answer reply = true) ∧ found.Pairwise fs.Apart := by
  rw [walk, Program.answer_bind] at h
  cases hAnswer : (Walk.fromRoot root selection).answer reply with
  | error e =>
    rw [hAnswer] at h
    cases h
  | ok paths =>
    rw [hAnswer] at h
    cases h
    exact Walk.fromRoot_found hTree hLists hPlain hAnswer

end LicenseAudit
