import LicenseAudit.Proofs.FileSystem.Grown
import LicenseAudit.Proofs.Program.Refusal
import LicenseAudit.Proofs.Selection.Walk

/-!
# Walks of a grown tree

A walk of a tree to which files have been added finds what a walk before found, and besides that
new files only. The disk may refuse some calls, if it does so before and after.

* `Grows` — what is answered about a tree and about the grown tree.

## Results

* `walk_grows` — a walk that ends well before the growth ends well after it, and finds the same
  paths and those of new files.
-/

namespace LicenseAudit

open FileSystem

/-- The second replies are about a tree in which new files stand: nothing is missing, directories
have the entries that they had and new files, and no link has come. -/
structure Grows (extra : Path → Prop) (reply reply' : (c : Call) → c.Reply) : Prop where
  linkStatus : ∀ p s, reply (.linkStatus p) = .ok s → reply' (.linkStatus p) = .ok s
  links      : ∀ p s, reply' (.linkStatus p) = .ok s → s.kind = .link →
    reply (.linkStatus p) = .ok s
  status     : ∀ p s, reply (.status p) = .ok s → reply' (.status p) = .ok s
  list       : ∀ dir entries, reply (.list dir) = .ok entries →
    ∃ entries', reply' (.list dir) = .ok entries' ∧ entries ⊆ entries' ∧
      ∀ entry ∈ entries', entry ∈ entries ∨ entry.2 = .file ∧ extra (dir.join ⟨entry.1⟩)

/-- What is found is found still, and besides it extra paths only. -/
def Wider (extra : Path → Prop) (found found' : List Path) : Prop :=
  found ⊆ found' ∧ ∀ p ∈ found', p ∈ found ∨ extra p

theorem Wider.refl (extra : Path → Prop) (found : List Path) : Wider extra found found :=
  ⟨List.Subset.refl _, fun _ hMem => Or.inl hMem⟩

theorem Wider.append_left {extra : Path → Prop} {found found' : List Path}
    (h : Wider extra found found') (self : List Path) :
    Wider extra (self ++ found) (self ++ found') := by
  refine ⟨List.append_subset.mpr ⟨List.subset_append_left _ _, ?_⟩, fun p hMem => ?_⟩
  · exact List.Subset.trans h.1 (List.subset_append_right _ _)
  · rcases List.mem_append.mp hMem with hSelf | hFound
    · exact Or.inl (List.mem_append_left _ hSelf)
    · exact (h.2 p hFound).imp_left (List.mem_append_right _)

variable {extra : Path → Prop} {reply reply' : (c : Call) → c.Reply} {selection : Selection}

/-- New files do not change what a filter thinks of a path. -/
theorem Grows.answer_accepts (h : Grows extra reply reply') (f : Filter) (p : Path) :
    (f.accepts p).answer reply' = (f.accepts p).answer reply := by
  rw [Bool.eq_iff_iff, Filter.answer_accepts_iff, Filter.answer_accepts_iff]
  refine forall₂_congr fun rule _ => ?_
  cases rule with
  | unnamed | only => rfl
  | noLink =>
    rw [Rule.answer_noLink_iff, Rule.answer_noLink_iff]
    constructor
    · exact fun hPlain s hStatus => hPlain s (h.linkStatus p s hStatus)
    · exact fun hPlain s hStatus hLink => hPlain s (h.links p s hStatus hLink) hLink

namespace Walk

/-- A visit of all entries ends well if the visits of the entries do. -/
theorem answer_visitAll {α : Type} {visit : α → Program Answer} {part : α → List Path}
    {entries : List α} (hParts : ∀ entry ∈ entries, (visit entry).answer reply = .ok (part entry)) :
    (visitAll visit entries).answer reply = .ok (entries.flatMap part) := by
  induction entries with
  | nil => rfl
  | cons entry rest ih =>
    obtain ⟨hFirst, hRest⟩ := List.forall_mem_cons.mp hParts
    rw [visitAll, Program.answer_bind, hFirst]
    simp only [Program.answer_bind, ih hRest]
    rfl

/-- A visit of more entries finds as much as before, if each visit does and the new entries are
extra. -/
theorem visitAll_grows {α : Type} {visit : α → Program Answer} {entries entries' : List α}
    (hKept : entries ⊆ entries')
    (hOld : ∀ {entry part}, (visit entry).answer reply = .ok part →
      ∃ part', (visit entry).answer reply' = .ok part' ∧ Wider extra part part')
    (hNew : ∀ entry ∈ entries', entry ∉ entries →
      ∃ part', (visit entry).answer reply' = .ok part' ∧ ∀ p ∈ part', extra p)
    {found : List Path} (hFound : (visitAll visit entries).answer reply = .ok found) :
    ∃ found', (visitAll visit entries').answer reply' = .ok found' ∧ Wider extra found found' := by
  obtain ⟨part, hParts, rfl⟩ := exists_parts hFound
  have hVisits : ∀ entry ∈ entries', ∃ part', (visit entry).answer reply' = .ok part' ∧
      (entry ∈ entries → Wider extra (part entry) part') ∧
      (entry ∉ entries → ∀ p ∈ part', extra p) := by
    intro entry hMem
    by_cases hIn : entry ∈ entries
    · obtain ⟨part', hAnswer, hWider⟩ := hOld (hParts entry hIn)
      exact ⟨part', hAnswer, fun _ => hWider, fun hOther => absurd hIn hOther⟩
    · obtain ⟨part', hAnswer, hExtra⟩ := hNew entry hMem hIn
      exact ⟨part', hAnswer, fun hOther => absurd hOther hIn, fun _ => hExtra⟩
  choose! part' hParts' hOldParts hNewParts using hVisits
  refine ⟨_, answer_visitAll hParts', fun p hMem => ?_, fun p hMem => ?_⟩
  · obtain ⟨entry, hEntry, hIn⟩ := List.mem_flatMap.mp hMem
    have hEntry' := hKept hEntry
    exact List.mem_flatMap.mpr ⟨entry, hEntry', (hOldParts entry hEntry' hEntry).1 hIn⟩
  · obtain ⟨entry, hEntry', hIn⟩ := List.mem_flatMap.mp hMem
    by_cases hEntry : entry ∈ entries
    · refine ((hOldParts entry hEntry' hEntry).2 p hIn).imp_left fun hPart => ?_
      exact List.mem_flatMap.mpr ⟨entry, hEntry, hPart⟩
    · exact Or.inr (hNewParts entry hEntry' hEntry p hIn)

/-- The visit of one entry finds as much as before, if the walk inside directories does. -/
theorem entry_grows (h : Grows extra reply reply') {depth : Nat}
    (hInside : ∀ {dir found}, (inside selection depth dir).answer reply = .ok found →
      ∃ found', (inside selection depth dir).answer reply' = .ok found' ∧ Wider extra found found')
    {p : Path} {kind : EntryKind} {part : List Path}
    (hPart : (if kind = .directory then do
        if ← selection.descends p then inside selection depth p else return .ok []
      else return .ok (← report selection p) : Program Answer).answer reply = .ok part) :
    ∃ part', (if kind = .directory then do
        if ← selection.descends p then inside selection depth p else return .ok []
      else return .ok (← report selection p) : Program Answer).answer reply' = .ok part' ∧
      Wider extra part part' := by
  rw [answer_entry] at hPart ⊢
  rw [Selection.descends, Selection.includes, h.answer_accepts, h.answer_accepts]
  rw [Selection.descends, Selection.includes] at hPart
  split_ifs at hPart ⊢
  · exact hInside hPart
  all_goals exact ⟨part, hPart, .refl extra part⟩

theorem inside_grows (h : Grows extra reply reply') {depth : Nat} {dir : Path} {found : List Path}
    (hFound : (inside selection depth dir).answer reply = .ok found) :
    ∃ found', (inside selection depth dir).answer reply' = .ok found' ∧
      Wider extra found found' := by
  induction depth generalizing dir found with
  | zero => cases hFound
  | succ depth ih =>
    rw [inside, Program.answer_bind, Program.answer_list] at hFound ⊢
    cases hList : reply (.list dir) with
    | error cause =>
      rw [hList] at hFound
      cases hFound
    | ok entries =>
      rw [hList] at hFound
      obtain ⟨entries', hList', hKept, hNew⟩ := h.list dir entries hList
      rw [hList']
      refine visitAll_grows hKept (entry_grows h ih) (fun entry hMem hOther => ?_) hFound
      obtain ⟨hFile, hExtra⟩ := (hNew entry hMem).resolve_left hOther
      have hPlain : entry.2 ≠ .directory := by
        rw [hFile]
        decide
      refine ⟨_, (answer_entry reply' depth _ _).trans (if_neg hPlain), fun p hReported => ?_⟩
      split_ifs at hReported
      · exact List.mem_singleton.mp hReported ▸ hExtra
      · cases hReported

theorem fromRoot_grows (h : Grows extra reply reply') {root : Path} {found : List Path}
    (hFound : (fromRoot root selection).answer reply = .ok found) :
    ∃ found', (fromRoot root selection).answer reply' = .ok found' ∧ Wider extra found found' := by
  have hReport : (report selection root).answer reply' = (report selection root).answer reply := by
    rw [answer_report, answer_report, Selection.includes, h.answer_accepts]
  rw [fromRoot, Program.answer_bind, Program.answer_linkStatus] at hFound ⊢
  cases hStatus : reply (.linkStatus root) with
  | error cause =>
    rw [hStatus] at hFound
    cases hFound
  | ok s =>
    rw [h.linkStatus root s hStatus]
    simp only [hStatus] at hFound
    cases hKind : s.kind with
    | directory =>
      simp only [hKind, Program.answer_bind] at hFound ⊢
      rw [Selection.descends, h.answer_accepts]
      rw [Selection.descends] at hFound
      split_ifs at hFound ⊢
      · exact inside_grows h hFound
      · exact ⟨found, hFound, .refl extra found⟩
    | file =>
      simp only [hKind, Program.answer_bind, hReport] at hFound ⊢
      exact ⟨found, hFound, .refl extra found⟩
    | link =>
      simp only [hKind, Program.answer_bind, Program.answer_status] at hFound ⊢
      cases hTarget : reply (.status root) with
      | error cause =>
        rw [hTarget] at hFound
        cases hFound
      | ok target =>
        rw [h.status root target hTarget]
        simp only [hTarget, Program.answer_bind, hReport] at hFound ⊢
        split_ifs at hFound ⊢
        · rw [Program.answer_bind] at hFound ⊢
          cases hInside : (inside selection pathLimit root).answer reply with
          | error failure =>
            rw [hInside] at hFound
            cases hFound
          | ok below =>
            rw [hInside] at hFound
            obtain ⟨below', hInside', hWider⟩ := inside_grows h hInside
            obtain rfl := Except.ok.inj hFound
            rw [hInside']
            exact ⟨_, rfl, hWider.append_left _⟩
        · exact ⟨found, hFound, .refl extra found⟩

end Walk

/-- **Walks of a grown tree.** A walk that ends well before the growth ends well after it. It finds
the same paths, and besides them new files only. -/
theorem walk_grows (h : Grows extra reply reply') {root : Path} {found : List Path}
    (hFound : (walk root selection).answer reply = .ok found) :
    ∃ found', (walk root selection).answer reply' = .ok found' ∧ Wider extra found found' := by
  rw [walk, Program.answer_bind] at hFound ⊢
  cases hAnswer : (Walk.fromRoot root selection).answer reply with
  | error failure =>
    rw [hAnswer] at hFound
    cases hFound
  | ok paths =>
    rw [hAnswer] at hFound
    obtain rfl := Except.ok.inj hFound
    obtain ⟨found', hAnswer', hWider⟩ := Walk.fromRoot_grows h hAnswer
    rw [hAnswer']
    exact ⟨found', rfl, hWider⟩

-- ---------------------------------------------------------------------------
-- Grown trees
-- ---------------------------------------------------------------------------

/-- The path is that of a new file. -/
def FileSystem.Fresh (new : Location → Prop) (fs' : FileSystem) (p : Path) : Prop :=
  ∃ dir n, fs'.Seat p dir n ∧ new (n :: dir)

/-- A disk that refuses the same calls before and after tells of a grown tree. -/
theorem FileSystem.Grown.grows {fs fs' : FileSystem} {new : Location → Prop} (h : Grown new fs fs')
    (hTree : fs.WellFormed) (hTree' : fs'.WellFormed) (refusals : Call → Option IoError) :
    Grows (fs'.Fresh new) (fs.reply refusals) (fs'.reply refusals) where
  linkStatus := by
    intro p s hStatus
    obtain ⟨hMade, hHere⟩ := made_of_reply hStatus fun _ hFails => by cases hFails
    exact (reply_of_made hMade).trans (h.linkStatus hHere)
  links := by
    intro p s hStatus hLink
    obtain ⟨hMade, hThere⟩ := made_of_reply hStatus fun _ hFails => by cases hFails
    exact (reply_of_made hMade).trans (h.linkStatus_back hThere hLink)
  status := by
    intro p s hStatus
    obtain ⟨hMade, hHere⟩ := made_of_reply hStatus fun _ hFails => by cases hFails
    exact (reply_of_made hMade).trans (h.status hHere)
  list := by
    intro dir entries hList
    obtain ⟨hMade, hHere⟩ := made_of_reply hList fun _ hFails => by cases hFails
    obtain ⟨entries', hThere, hKept, hNew⟩ := h.list hTree hTree' hHere
    refine ⟨entries', (reply_of_made hMade).trans hThere, hKept, fun entry hMem => ?_⟩
    refine (hNew entry hMem).imp_right ?_
    rintro ⟨hFile, l, hSeat, hPlace⟩
    exact ⟨hFile, l, entry.1, hSeat, hPlace⟩

end LicenseAudit
