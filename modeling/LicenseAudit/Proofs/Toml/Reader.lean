import LicenseAudit.Toml.Reader

/-!
# What readers take

A reader takes what it understands from the front of a text and leaves the rest. No reader puts
anything back, and a statement takes at least one character, so that the bounds on the loops are
never reached.

* `Reader.Takes` — a reader that takes at least so many characters.

## Results

* `takes_statement` — a statement takes a character.
* `skipLines_eq`, `statements_eq` — with more steps than characters the number of steps does not
  matter.
-/

namespace LicenseAudit.Toml.Reader

variable {α β : Type} {j k : Nat}

-- ---------------------------------------------------------------------------
-- Taking characters
-- ---------------------------------------------------------------------------

/-- From the given text the reader takes at least so many characters, if it does not fail. -/
def TakesFrom (k : Nat) (r : Reader α) (cs : List Char) : Prop :=
  ∀ a rest, r.run cs = .ok (a, rest) → rest.length + k ≤ cs.length

/-- The reader takes at least so many characters, if it does not fail. -/
def Takes (k : Nat) (r : Reader α) : Prop := ∀ cs, TakesFrom k r cs

theorem TakesFrom.mono {r : Reader α} {cs : List Char} (h : TakesFrom k r cs) (hLess : j ≤ k) :
    TakesFrom j r cs := by
  intro a rest hRun
  have hTaken := h a rest hRun
  omega

theorem Takes.mono {r : Reader α} (h : Takes k r) (hLess : j ≤ k) : Takes j r :=
  fun cs => (h cs).mono hLess

theorem takes_pure (a : α) : Takes 0 (pure a : Reader α) := by
  intro cs b rest hRun
  cases hRun
  exact Nat.le_refl _

theorem takes_throw (e : TomlError) : Takes k (throw e : Reader α) := by
  intro cs a rest hRun
  cases hRun

/-- What only checks takes nothing. -/
theorem takes_lift (x : Except TomlError α) : Takes 0 (liftM x : Reader α) := by
  intro cs a rest hRun
  cases x with
  | error e => cases hRun
  | ok b =>
    cases hRun
    exact Nat.le_refl _

theorem run_bind_eq_ok {r : Reader α} {f : α → Reader β} {cs rest : List Char} {b : β}
    (h : (r >>= f).run cs = .ok (b, rest)) :
    ∃ a mid, r.run cs = .ok (a, mid) ∧ (f a).run mid = .ok (b, rest) := by
  rw [StateT.run_bind] at h
  cases hRun : r.run cs with
  | error e =>
    rw [hRun] at h
    cases h
  | ok x =>
    rw [hRun] at h
    exact ⟨x.1, x.2, rfl, h⟩

/-- A reader behind one that has ended goes on from there. -/
theorem run_bind_of_ok {r : Reader α} {cs mid : List Char} {a : α} (f : α → Reader β)
    (h : r.run cs = .ok (a, mid)) : (r >>= f).run cs = (f a).run mid := by
  rw [StateT.run_bind, h]
  rfl

theorem run_bind_of_error {r : Reader α} {cs : List Char} {e : TomlError} (f : α → Reader β)
    (h : r.run cs = .error e) : (r >>= f).run cs = .error e := by
  rw [StateT.run_bind, h]
  rfl

theorem run_get_bind (f : List Char → Reader α) (cs : List Char) :
    (get >>= f).run cs = (f cs).run cs := rfl

/-- What comes behind another reader takes as much as it does. -/
theorem Takes.bind {r : Reader α} {f : α → Reader β} (hFirst : Takes 0 r)
    (hSecond : ∀ a, Takes k (f a)) : Takes k (r >>= f) := by
  intro cs b rest hRun
  obtain ⟨a, mid, hRun₁, hRun₂⟩ := run_bind_eq_ok hRun
  have hTaken₁ := hFirst cs a mid hRun₁
  have hTaken₂ := hSecond a mid b rest hRun₂
  omega

/-- What comes before another reader takes as much as it does. -/
theorem Takes.bind_left {r : Reader α} {f : α → Reader β} (hFirst : Takes k r)
    (hSecond : ∀ a, Takes 0 (f a)) : Takes k (r >>= f) := by
  intro cs b rest hRun
  obtain ⟨a, mid, hRun₁, hRun₂⟩ := run_bind_eq_ok hRun
  have hTaken₁ := hFirst cs a mid hRun₁
  have hTaken₂ := hSecond a mid b rest hRun₂
  omega

theorem takes_foldlM {f : β → α → Reader β} (h : ∀ b a, Takes 0 (f b a)) (b : β) (l : List α) :
    Takes 0 (l.foldlM f b) := by
  induction l generalizing b with
  | nil => exact takes_pure b
  | cons a l ih =>
    rw [List.foldlM_cons]
    exact (h b a).bind ih

/-- Looking at the text takes nothing. -/
theorem takes_get_bind {f : List Char → Reader α} (h : ∀ cs, TakesFrom k (f cs) cs) :
    Takes k (get >>= f) := by
  intro cs a rest hRun
  exact h cs a rest hRun

/-- Going on from a shorter text. -/
theorem takesFrom_set {cs mid : List Char} {f : Unit → Reader α}
    (hShorter : mid.length + k ≤ cs.length) (h : Takes 0 (f ())) :
    TakesFrom k (set mid >>= f) cs := by
  intro a rest hRun
  have hTaken := h mid a rest hRun
  omega

theorem run_accept_cons (c d : Char) (cs : List Char) :
    (accept c).run (d :: cs) = .ok (if c = d then (true, cs) else (false, d :: cs)) := by
  by_cases hSame : c = d
  · rw [if_pos hSame]
    show (if c = d then _ else _ : Reader Bool) _ = _
    rw [if_pos hSame]
    rfl
  · rw [if_neg hSame]
    show (if c = d then _ else _ : Reader Bool) _ = _
    rw [if_neg hSame]
    rfl

theorem run_accept_of_ne {c d : Char} (hOther : c ≠ d) (cs : List Char) :
    (accept c).run (d :: cs) = .ok (false, d :: cs) := by
  rw [run_accept_cons, if_neg hOther]

/-- What accepting a character leaves: a shorter text, or the text as it was. -/
theorem accept_cases {c : Char} {cs rest : List Char} {found : Bool}
    (h : (accept c).run cs = .ok (found, rest)) :
    found = true ∧ rest.length + 1 = cs.length ∨ found = false ∧ rest = cs := by
  cases cs with
  | nil =>
    cases h
    exact Or.inr ⟨rfl, rfl⟩
  | cons d cs =>
    rw [run_accept_cons] at h
    split at h
    · cases h
      exact Or.inl ⟨rfl, rfl⟩
    · cases h
      exact Or.inr ⟨rfl, rfl⟩

/-- A character that is accepted is taken. -/
theorem takes_accept_bind {c : Char} {f : Bool → Reader α} (hTrue : Takes k (f true))
    (hFalse : Takes (k + 1) (f false)) : Takes (k + 1) (accept c >>= f) := by
  intro cs b rest hRun
  obtain ⟨found, mid, hRun₁, hRun₂⟩ := run_bind_eq_ok hRun
  rcases accept_cases hRun₁ with ⟨rfl, hShorter⟩ | ⟨rfl, rfl⟩
  · have hTaken := hTrue mid b rest hRun₂
    omega
  · exact hFalse mid b rest hRun₂

theorem takes_accept (c : Char) : Takes 0 (accept c) := by
  intro cs found rest hRun
  rcases accept_cases hRun with ⟨-, hShorter⟩ | ⟨-, rfl⟩
  · omega
  · exact Nat.le_refl _

-- ---------------------------------------------------------------------------
-- Blanks, comments and line breaks
-- ---------------------------------------------------------------------------

theorem takes_skipSpaces : Takes 0 skipSpaces := by
  intro cs a rest hRun
  cases hRun
  exact (List.dropWhile_sublist _).length_le

theorem length_behindComment {cs rest : List Char} (h : behindComment cs = .ok rest) :
    rest.length ≤ cs.length := by
  induction cs using behindComment.induct with
  | case1 | case2 | case3 =>
    cases h
    exact Nat.le_refl _
  | case4 c cs hFeed hReturn hControl =>
    rw [behindComment, if_pos hControl] at h
    · cases h
    · exact hFeed
    · exact hReturn
  | case5 c cs hFeed hReturn hControl ih =>
    rw [behindComment, if_neg hControl] at h
    · exact Nat.le_succ_of_le (ih h)
    · exact hFeed
    · exact hReturn

/-- The text behind the comment at its front, if there is one. -/
def behindMark : List Char → Except TomlError (List Char)
  | '#' :: rest => behindComment rest
  | rest => .ok rest

theorem behindMark_of_ne {cs : List Char} (h : ∀ rest, cs = '#' :: rest → False) :
    behindMark cs = .ok cs := by
  unfold behindMark
  split
  · exact (h _ rfl).elim
  · rfl

theorem length_behindMark {cs rest : List Char} (h : behindMark cs = .ok rest) :
    rest.length ≤ cs.length := by
  unfold behindMark at h
  split at h
  · exact Nat.le_succ_of_le (length_behindComment h)
  · cases h
    exact Nat.le_refl _

theorem run_skipComment (cs : List Char) :
    skipComment.run cs = (behindMark cs).map fun rest => ((), rest) := by
  unfold skipComment
  rw [run_get_bind]
  split
  · rename_i rest
    show _ = (behindComment rest).map fun rest => ((), rest)
    rw [StateT.run_bind]
    cases behindComment rest <;> rfl
  · rename_i hOther
    rw [behindMark_of_ne hOther]
    rfl

theorem takes_skipComment : Takes 0 skipComment := by
  intro cs a rest hRun
  rw [run_skipComment] at hRun
  cases hMark : behindMark cs with
  | error e =>
    rw [hMark] at hRun
    cases hRun
  | ok behind =>
    rw [hMark] at hRun
    cases hRun
    exact length_behindMark hMark

theorem length_behindBreak? {cs rest : List Char} (h : behindBreak? cs = some rest) :
    rest.length + 1 ≤ cs.length := by
  unfold behindBreak? at h
  split at h
  · cases h
    simp
  · cases h
    simp
  · cases h

/-- A line break is taken if one comes next. -/
theorem run_acceptBreak (cs : List Char) :
    acceptBreak.run cs = .ok (match behindBreak? cs with
      | some rest => (true, rest)
      | none => (false, cs)) := by
  unfold acceptBreak
  rw [run_get_bind]
  cases behindBreak? cs <;> rfl

theorem takes_acceptBreak : Takes 0 acceptBreak := by
  intro cs found rest hRun
  rw [run_acceptBreak] at hRun
  cases hBreak : behindBreak? cs with
  | none =>
    rw [hBreak] at hRun
    cases hRun
    exact Nat.le_refl _
  | some behind =>
    rw [hBreak] at hRun
    cases hRun
    have hShorter := length_behindBreak? hBreak
    omega

theorem takes_skipLines (n : Nat) : Takes 0 (skipLines n) := by
  induction n with
  | zero => exact takes_pure ()
  | succ n ih =>
    refine takes_skipSpaces.bind fun _ => takes_skipComment.bind fun _ => ?_
    refine takes_acceptBreak.bind fun found => ?_
    cases found with
    | true => exact ih
    | false => exact takes_pure ()

theorem takes_skipAllLines : Takes 0 skipAllLines :=
  takes_get_bind fun cs => takes_skipLines _ cs

theorem takes_endLine : Takes 0 endLine := by
  refine takes_skipSpaces.bind fun _ => takes_skipComment.bind fun _ => takes_get_bind fun cs => ?_
  split
  · refine takes_acceptBreak.bind (fun found => ?_) cs
    cases found with
    | true => exact takes_pure ()
    | false => exact takes_throw _
  · exact takes_pure () cs

-- ---------------------------------------------------------------------------
-- Quoted text
-- ---------------------------------------------------------------------------

theorem length_closing? {q : Quoting} {cs kept rest : List Char}
    (h : q.closing? cs = some (kept, rest)) : rest.length ≤ cs.length := by
  unfold Quoting.closing? at h
  simp only at h
  split at h
  · split at h
    · cases h
    · cases h
      rw [List.length_drop]
      omega
  · split at h
    · cases h
    · cases h
      rw [List.length_drop]
      omega

theorem length_readFrom {q : Quoting} {pending : Pending} {cs text rest : List Char}
    (h : q.readFrom pending cs = .ok (text, rest)) : rest.length ≤ cs.length := by
  induction cs generalizing pending text with
  | nil => cases h
  | cons c cs ih =>
    rw [Quoting.readFrom] at h
    split at h
    · rename_i closed hClosed
      obtain ⟨-, hClosing⟩ := Option.ite_none_right_eq_some.mp hClosed
      cases h
      exact length_closing? hClosing
    · cases hStep : q.step c cs.head? pending with
      | error e =>
        rw [hStep] at h
        cases h
      | ok next =>
        rw [hStep] at h
        cases hMore : q.readFrom next.2 cs with
        | error e =>
          simp only [bind, Except.bind, hMore] at h
          cases h
        | ok found =>
          simp only [bind, Except.bind, hMore] at h
          cases h
          exact Nat.le_succ_of_le (ih hMore)

theorem takes_quoting (q : Quoting) : Takes 0 q.reader := by
  refine takes_get_bind fun cs => ?_
  intro a rest hRun
  obtain ⟨found, mid, hText, hSet⟩ := run_bind_eq_ok hRun
  cases hRead : q.readFrom .nothing cs with
  | error e =>
    rw [hRead] at hText
    cases hText
  | ok result =>
    rw [hRead] at hText
    cases hText
    cases hSet
    exact length_readFrom hRead

theorem takes_linesReader (q : Quoting) : Takes 0 q.linesReader :=
  takes_acceptBreak.bind fun _ => takes_quoting _

theorem takes_quotedValue (q : Quoting) : Takes 0 (quotedValue q) := by
  refine takes_get_bind fun cs => ?_
  split
  · rename_i a b rest
    split
    · refine takesFrom_set ?_ (takes_linesReader q)
      simp only [List.length_cons]
      omega
    · exact takes_quoting q _
  · exact takes_quoting q _

-- ---------------------------------------------------------------------------
-- Keys
-- ---------------------------------------------------------------------------

theorem takes_keyPart : Takes 1 keyPart := by
  refine takes_accept_bind (takes_quoting _) ?_
  refine takes_accept_bind (takes_quoting _) ?_
  refine takes_get_bind fun cs => ?_
  have hCut := congrArg List.length
    (List.takeWhile_append_dropWhile (p := isKeyChar) (l := cs))
  rw [List.length_append] at hCut
  cases hKey : cs.takeWhile isKeyChar with
  | nil =>
    intro a rest hRun
    simp only at hRun
    cases hRun
  | cons c key =>
    rw [hKey, List.length_cons] at hCut
    exact takesFrom_set (by omega) (takes_pure _)

theorem takes_keyParts (n : Nat) : Takes 1 (keyParts n) := by
  induction n with
  | zero => exact takes_throw _
  | succ n ih =>
    refine takes_skipSpaces.bind fun _ => takes_keyPart.bind_left fun _ => ?_
    refine takes_skipSpaces.bind fun _ => (takes_accept '.').bind fun found => ?_
    cases found with
    | true => exact (ih.mono (Nat.zero_le _)).bind fun _ => takes_pure _
    | false => exact takes_pure _

theorem takes_key : Takes 1 key :=
  takes_get_bind fun cs => takes_keyParts _ cs

-- ---------------------------------------------------------------------------
-- Values
-- ---------------------------------------------------------------------------

theorem takes_separated {close : Char} {unclosed : TomlError} {element : Reader α}
    (h : Takes 0 element) (n : Nat) : Takes 0 (separated close unclosed element n) := by
  induction n with
  | zero => exact takes_throw _
  | succ n ih =>
    refine takes_skipAllLines.bind fun _ => (takes_accept close).bind fun closed => ?_
    cases closed with
    | true => exact takes_pure _
    | false =>
      refine h.bind fun _ => takes_skipAllLines.bind fun _ => (takes_accept ',').bind fun more => ?_
      cases more with
      | true => exact ih.bind fun _ => takes_pure _
      | false =>
        refine (takes_accept close).bind fun closed => ?_
        cases closed with
        | true => exact takes_pure _
        | false => exact takes_throw _

theorem length_cut (cs : List Char) : (Scalar.cut cs).2.length ≤ cs.length := by
  have hDrop := (List.dropWhile_sublist (l := cs) Scalar.isPart).length_le
  unfold Scalar.cut
  simp only
  split
  · rename_i d rest hRest
    have hMore := (List.dropWhile_sublist (l := d :: rest) Scalar.isPart).length_le
    rw [hRest] at hDrop
    simp only [List.length_cons] at hDrop hMore
    split
    · simp only
      omega
    · simpa using hDrop
  · exact hDrop

theorem takes_scalar : Takes 0 scalar := by
  refine takes_get_bind fun cs => ?_
  have hCut := length_cut cs
  cases hScalar : Scalar.cut cs with
  | mk text rest =>
    rw [hScalar] at hCut
    simp only
    split
    · exact takes_throw _ _
    · refine takesFrom_set hCut ?_
      split
      · exact takes_pure _
      · exact takes_throw _

theorem takes_keyValue {value : Reader Value} (h : Takes 0 value) : Takes 1 (keyValue value) := by
  refine takes_key.bind_left fun _ => (takes_accept '=').bind fun found => ?_
  cases found with
  | false => exact takes_throw _
  | true => exact takes_skipSpaces.bind fun _ => h.bind fun _ => takes_pure _

theorem takes_inlineTable {value : Reader Value} (h : Takes 0 value) :
    Takes 0 (inlineTable value) := by
  refine takes_get_bind fun cs => ?_
  refine ((takes_separated ((takes_keyValue h).mono (Nat.zero_le _)) _).bind fun pairs => ?_) cs
  exact (takes_foldlM (fun d pair => takes_lift _) _ _).bind fun d => takes_pure _

theorem takes_valueOf {nested? : Option (Reader Value)} (h : ∀ r ∈ nested?, Takes 0 r) :
    Takes 0 (valueOf nested?) := by
  refine (takes_accept _).bind fun found => ?_
  cases found with
  | true => exact (takes_quotedValue _).bind fun _ => takes_pure _
  | false =>
    refine (takes_accept _).bind fun found => ?_
    cases found with
    | true => exact (takes_quotedValue _).bind fun _ => takes_pure _
    | false =>
      refine (takes_accept _).bind fun found => ?_
      cases found with
      | true =>
        cases nested? with
        | none => exact takes_throw _
        | some nested =>
          refine takes_get_bind fun cs => ?_
          exact ((takes_separated (h nested rfl) _).bind fun _ => takes_pure _) cs
      | false =>
        refine (takes_accept _).bind fun found => ?_
        cases found with
        | true =>
          cases nested? with
          | none => exact takes_throw _
          | some nested => exact takes_inlineTable (h nested rfl)
        | false => exact takes_scalar

theorem takes_value (depth : Nat) : Takes 0 (value depth) := by
  induction depth with
  | zero =>
    refine takes_valueOf fun r hMem => ?_
    cases hMem
  | succ depth ih =>
    refine takes_valueOf fun r hMem => ?_
    obtain rfl : value depth = r := Option.some.inj hMem
    exact ih

-- ---------------------------------------------------------------------------
-- Statements
-- ---------------------------------------------------------------------------

theorem takes_header (d : Document) : Takes 0 (header d) := by
  refine (takes_accept _).bind fun element => (takes_key.mono (Nat.zero_le _)).bind fun path => ?_
  refine (takes_accept _).bind fun closed => ?_
  cases closed with
  | false => exact takes_throw _
  | true =>
    cases element with
    | false => exact takes_lift _
    | true =>
      refine (takes_accept _).bind fun closed => ?_
      cases closed with
      | false => exact takes_throw _
      | true => exact takes_lift _

/-- A statement takes a character. -/
theorem takes_statement (d : Document) : Takes 1 (statement d) := by
  refine takes_accept_bind (takes_header d) ?_
  exact (takes_keyValue (takes_value _)).bind_left fun _ => takes_lift _


-- ---------------------------------------------------------------------------
-- Bounds on the loops
-- ---------------------------------------------------------------------------

/-- The text behind the blanks and the comment at its front. -/
def behindBlanks (cs : List Char) : Except TomlError (List Char) :=
  behindMark (cs.dropWhile isSpace)

theorem length_behindBlanks {cs rest : List Char} (h : behindBlanks cs = .ok rest) :
    rest.length ≤ cs.length :=
  Nat.le_trans (length_behindMark h) (List.dropWhile_sublist isSpace).length_le

/-- One line that is passed over. -/
theorem run_skipLines_succ (n : Nat) (cs : List Char) :
    (skipLines (n + 1)).run cs = (behindBlanks cs).bind fun rest =>
      match behindBreak? rest with
      | some next => (skipLines n).run next
      | none => .ok ((), rest) := by
  have hSpaces : skipSpaces.run cs = .ok ((), cs.dropWhile isSpace) := rfl
  have hComment := run_skipComment (cs.dropWhile isSpace)
  rw [skipLines, run_bind_of_ok _ hSpaces, behindBlanks]
  cases hMark : behindMark (cs.dropWhile isSpace) with
  | error e =>
    rw [hMark] at hComment
    rw [run_bind_of_error _ hComment]
    rfl
  | ok rest =>
    rw [hMark] at hComment
    rw [run_bind_of_ok _ hComment, run_bind_of_ok _ (run_acceptBreak rest)]
    simp only [Except.bind]
    cases behindBreak? rest <;> rfl

/-- With more steps than characters the number of steps does not matter. -/
theorem skipLines_eq {m n : Nat} {cs : List Char} (hm : cs.length < m) (hn : cs.length < n) :
    (skipLines m).run cs = (skipLines n).run cs := by
  induction m generalizing n cs with
  | zero => omega
  | succ m ih =>
    cases n with
    | zero => omega
    | succ n =>
      rw [run_skipLines_succ, run_skipLines_succ]
      cases hBlanks : behindBlanks cs with
      | error e => rfl
      | ok rest =>
        have hRest := length_behindBlanks hBlanks
        simp only [Except.bind]
        cases hBreak : behindBreak? rest with
        | none => rfl
        | some next =>
          have hNext := length_behindBreak? hBreak
          exact ih (by omega) (by omega)

/-- With more steps than characters the number of steps does not matter. -/
theorem statements_eq {m n : Nat} {cs : List Char} (d : Document) (hm : cs.length < m)
    (hn : cs.length < n) : (statements d m).run cs = (statements d n).run cs := by
  induction m generalizing d n cs with
  | zero => omega
  | succ m ih =>
    cases n with
    | zero => omega
    | succ n =>
      rw [statements, statements]
      cases hLines : skipAllLines.run cs with
      | error e => rw [run_bind_of_error _ hLines, run_bind_of_error _ hLines]
      | ok passed =>
        obtain ⟨done, mid⟩ := passed
        have hMid := takes_skipAllLines cs _ mid hLines
        rw [run_bind_of_ok _ hLines, run_bind_of_ok _ hLines, run_get_bind, run_get_bind]
        split
        · rfl
        · cases hStatement : (statement d).run mid with
          | error e => rw [run_bind_of_error _ hStatement, run_bind_of_error _ hStatement]
          | ok read =>
            obtain ⟨d', behind⟩ := read
            have hBehind := takes_statement d mid d' behind hStatement
            rw [run_bind_of_ok _ hStatement, run_bind_of_ok _ hStatement]
            cases hEnd : endLine.run behind with
            | error e => rw [run_bind_of_error _ hEnd, run_bind_of_error _ hEnd]
            | ok ended =>
              obtain ⟨done', rest⟩ := ended
              have hRest := takes_endLine behind _ rest hEnd
              rw [run_bind_of_ok _ hEnd, run_bind_of_ok _ hEnd]
              exact ih d' (by omega) (by omega)

end LicenseAudit.Toml.Reader
