import LicenseAudit.Proofs.Header.Text
import LicenseAudit.Proofs.Path.Parts
import LicenseAudit.Proofs.Toml.Reader

/-!
# Comments before a document

Comments at the front of a document do not count. A document in a file of its own can therefore
receive a header, if the header is a comment of the document's language and no byte order mark comes
to stand behind it.

* `Toml.isComment` — the texts whose lines are blank or comments;
* `Toml.OpensMarkup` — the texts that begin with markup.

## Results

* `skipAllLines_comment` — comments at the front are passed over.
* `read_comment` — a document reads the same behind comments.
* `OpensMarkup.read` — no document begins with markup.
* `split?_eq_none_of_read` — in particular it begins with no declaration.
-/

namespace LicenseAudit.Toml

open Text

-- ---------------------------------------------------------------------------
-- Lines of a comment
-- ---------------------------------------------------------------------------

/-- Whether a line is blank or holds a comment only. -/
def isCommentLine (line : List Char) : Bool :=
  match line.dropWhile isSpace with
  | [] => true
  | c :: body => c = '#' && body.all fun d => !isControl d

/-- Whether every line of the text is blank or holds a comment only. -/
def isComment (cs : List Char) : Bool := (pieces '\n' cs).all isCommentLine

namespace Reader

theorem behindComment_line {body : List Char} (hBody : ∀ c ∈ body, isControl c = false)
    (rest : List Char) : behindComment (body ++ '\n' :: rest) = .ok ('\n' :: rest) := by
  induction body with
  | nil => rfl
  | cons c body ih =>
    have hHere : isControl c = false := hBody c (List.mem_cons_self ..)
    have hFeed : c ≠ '\n' := by
      rintro rfl
      cases hHere
    have hReturn : c ≠ '\r' := by
      rintro rfl
      cases hHere
    have hRest := ih fun d hMem => hBody d (List.mem_cons_of_mem _ hMem)
    rw [List.cons_append, behindComment, hHere]
    · exact hRest
    · exact hFeed
    · exact fun _ hSame _ => hReturn hSame

/-- A line of a comment is passed over. -/
theorem behindBlanks_line {line : List Char} (hLine : isCommentLine line = true)
    (rest : List Char) : behindBlanks (line ++ '\n' :: rest) = .ok ('\n' :: rest) := by
  have hDrop : (line ++ '\n' :: rest).dropWhile isSpace =
      line.dropWhile isSpace ++ '\n' :: rest := by
    rw [List.dropWhile_append]
    split
    · rename_i hNil
      rw [List.isEmpty_iff.mp hNil]
      rfl
    · rfl
  rw [behindBlanks, hDrop]
  unfold isCommentLine at hLine
  split at hLine
  · rename_i hNil
    rw [hNil]
    rfl
  · rename_i c body hMark
    rw [Bool.and_eq_true, decide_eq_true_iff, List.all_eq_true] at hLine
    rw [hMark, hLine.1]
    refine behindComment_line (fun d hMem => ?_) rest
    simpa using hLine.2 d hMem

theorem run_skipLines_line {line : List Char} (hLine : isCommentLine line = true) (n : Nat)
    (rest : List Char) :
    (skipLines (n + 1)).run (line ++ '\n' :: rest) = (skipLines n).run rest := by
  rw [run_skipLines_succ, behindBlanks_line hLine]
  rfl

/-- Lines of a comment are passed over. -/
theorem run_skipLines_lines {lines : List (List Char)} (hSome : lines ≠ [])
    (hLines : ∀ line ∈ lines, isCommentLine line = true) (n : Nat) (rest : List Char) :
    (skipLines (n + lines.length)).run (List.intercalate ['\n'] lines ++ '\n' :: rest) =
      (skipLines n).run rest := by
  induction lines with
  | nil => exact absurd rfl hSome
  | cons line more ih =>
    have hLine := hLines line (List.mem_cons_self ..)
    cases more with
    | nil =>
      rw [List.intercalate_singleton]
      exact run_skipLines_line hLine n rest
    | cons next others =>
      have hRest := ih (List.cons_ne_nil _ _) fun l hMem => hLines l (List.mem_cons_of_mem _ hMem)
      rw [List.intercalate_cons_cons, List.append_assoc, List.append_assoc, List.length_cons,
        ← Nat.add_assoc]
      exact (run_skipLines_line hLine _ _).trans hRest

/-- Comments at the front are passed over. -/
theorem skipAllLines_comment {comment : List Char} (hComment : isComment comment = true)
    (text : List Char) :
    skipAllLines.run (comment ++ '\n' :: '\n' :: text) = skipAllLines.run text := by
  have hLines : ∀ line ∈ pieces '\n' comment, isCommentLine line = true := by
    rwa [isComment, List.all_eq_true] at hComment
  obtain ⟨size, hSize⟩ : ∃ size, (comment ++ '\n' :: '\n' :: text).length = size := ⟨_, rfl⟩
  have hText : text.length < size := by
    rw [← hSize]
    simp only [List.length_append, List.length_cons]
    omega
  have hPassed := run_skipLines_lines (pieces_ne_nil '\n' comment) hLines (size + 1 + 1)
    ('\n' :: text)
  rw [intercalate_pieces] at hPassed
  have hBlank : isCommentLine [] = true := rfl
  calc (skipLines ((comment ++ '\n' :: '\n' :: text).length + 1)).run
        (comment ++ '\n' :: '\n' :: text)
      = (skipLines (size + 1 + 1 + (pieces '\n' comment).length)).run
          (comment ++ '\n' :: '\n' :: text) := skipLines_eq (by omega) (by omega)
    _ = (skipLines (size + 1 + 1)).run ('\n' :: text) := hPassed
    _ = (skipLines (size + 1)).run text := run_skipLines_line hBlank (size + 1) text
    _ = (skipLines (text.length + 1)).run text := skipLines_eq (by omega) (by omega)

end Reader

-- ---------------------------------------------------------------------------
-- Documents behind a comment
-- ---------------------------------------------------------------------------

theorem dropMark_eq {cs : List Char} (h : cs.head? ≠ some '\uFEFF') : dropMark cs = cs := by
  unfold dropMark
  split
  · exact absurd rfl h
  · rfl

/-- No comment begins with a byte order mark. -/
theorem head?_comment {comment : List Char} (hComment : isComment comment = true)
    (text : List Char) : (comment ++ '\n' :: '\n' :: text).head? ≠ some '\uFEFF' := by
  cases comment with
  | nil => exact fun h => absurd (Option.some.inj h) (by decide)
  | cons c rest =>
    intro h
    obtain rfl : c = '\uFEFF' := Option.some.inj h
    have hFirst : ∃ line, ('\uFEFF' :: line) ∈ pieces '\n' ('\uFEFF' :: rest) := by
      rw [pieces, if_neg (by decide)]
      cases pieces '\n' rest with
      | nil => exact ⟨[], List.mem_cons_self ..⟩
      | cons line more => exact ⟨line, List.mem_cons_self ..⟩
    obtain ⟨line, hMem⟩ := hFirst
    have hLine := List.all_eq_true.mp hComment _ hMem
    rw [isCommentLine, List.dropWhile_cons_of_neg (by decide)] at hLine
    simp at hLine

/-- A document reads the same behind comments. -/
theorem read_comment {comment text : List Char} (hComment : isComment comment = true)
    (hMark : text.head? ≠ some '\uFEFF') :
    read (String.ofList (comment ++ '\n' :: '\n' :: text)) = read (String.ofList text) := by
  obtain ⟨size, hSize⟩ : ∃ size, (comment ++ '\n' :: '\n' :: text).length = size := ⟨_, rfl⟩
  have hLonger : text.length < size := by
    rw [← hSize]
    simp only [List.length_append, List.length_cons]
    omega
  have hStatements : (Reader.statements .empty (size + 1)).run (comment ++ '\n' :: '\n' :: text) =
      (Reader.statements .empty (text.length + 1)).run text := by
    calc (Reader.statements .empty (size + 1)).run (comment ++ '\n' :: '\n' :: text)
        = (Reader.statements .empty (size + 1)).run text := by
          rw [Reader.statements, StateT.run_bind, StateT.run_bind,
            Reader.skipAllLines_comment hComment]
      _ = (Reader.statements .empty (text.length + 1)).run text :=
          Reader.statements_eq .empty (by omega) (by omega)
  rw [read, read, String.toList_ofList, String.toList_ofList, dropMark_eq hMark,
    dropMark_eq (head?_comment hComment text), hSize, hStatements]

-- ---------------------------------------------------------------------------
-- Documents and declarations
-- ---------------------------------------------------------------------------

/-- The text is white space and then the character that opens markup. -/
def OpensMarkup (cs : List Char) : Prop :=
  ∃ blanks rest, (∀ c ∈ blanks, isBlank c = true) ∧ cs = blanks ++ '<' :: rest

/-- White space stands in no key. -/
theorem isKeyChar_of_isBlank {c : Char} (h : isBlank c = true) : Reader.isKeyChar c = false := by
  by_contra hKey
  have hRange : (0x30 ≤ c.toNat ∧ c.toNat ≤ 0x39) ∨ (0x41 ≤ c.toNat ∧ c.toNat ≤ 0x5A) ∨
      (0x61 ≤ c.toNat ∧ c.toNat ≤ 0x7A) ∨ c.toNat = 0x5F ∨ c.toNat = 0x2D := by
    rw [Bool.not_eq_false, Reader.isKeyChar, Char.isAlphanum] at hKey
    delta Char.isAlpha Char.isUpper Char.isLower Char.isDigit at hKey
    simp only [Bool.or_eq_true, Bool.and_eq_true, decide_eq_true_eq, ge_iff_le,
      UInt32.le_iff_toNat_le] at hKey
    rcases hKey with (((hUpper | hLower) | hDigit) | rfl) | rfl
    · exact Or.inr (Or.inl hUpper)
    · exact Or.inr (Or.inr (Or.inl hLower))
    · exact Or.inl hDigit
    · simp
    · simp
  simp only [isBlank, blankRanges, List.any_cons, List.any_nil, Bool.or_eq_true, Bool.and_eq_true,
    decide_eq_true_eq, Bool.false_eq_true, or_false] at h
  omega

theorem OpensMarkup.exists_head {cs : List Char} (h : OpensMarkup cs) :
    ∃ c rest, cs = c :: rest ∧ (c = '<' ∨ isBlank c = true) := by
  obtain ⟨blanks, rest, hBlanks, rfl⟩ := h
  cases blanks with
  | nil => exact ⟨'<', rest, rfl, Or.inl rfl⟩
  | cons c blanks => exact ⟨c, _, rfl, Or.inr (hBlanks c (List.mem_cons_self ..))⟩

/-- A character that neither is white space nor opens markup does not stand at the front. -/
theorem ne_of_head {c d : Char} (hHead : c = '<' ∨ isBlank c = true)
    (hOther : ¬ (d = '<' ∨ isBlank d = true)) : d ≠ c := by
  rintro rfl
  exact hOther hHead

theorem OpensMarkup.tail {c : Char} {cs : List Char} (h : OpensMarkup (c :: cs))
    (hOther : c ≠ '<') : OpensMarkup cs := by
  obtain ⟨blanks, rest, hBlanks, hText⟩ := h
  cases blanks with
  | nil => exact absurd (List.cons.inj hText).1 hOther
  | cons d blanks =>
    exact ⟨blanks, rest, fun e hMem => hBlanks e (List.mem_cons_of_mem _ hMem),
      (List.cons.inj hText).2⟩

theorem OpensMarkup.dropWhile {cs : List Char} (h : OpensMarkup cs) :
    OpensMarkup (cs.dropWhile isSpace) := by
  induction cs with
  | nil => exact h
  | cons c cs ih =>
    rw [List.dropWhile_cons]
    split
    · rename_i hSpace
      refine ih (h.tail ?_)
      rintro rfl
      cases hSpace
    · exact h

/-- Passing over lines leaves markup where it is. -/
theorem OpensMarkup.skipLines {cs rest : List Char} (h : OpensMarkup cs) {n : Nat} {done : Unit}
    (hRun : (Reader.skipLines n).run cs = .ok (done, rest)) : OpensMarkup rest := by
  induction n generalizing cs with
  | zero =>
    cases hRun
    exact h
  | succ n ih =>
    rw [Reader.run_skipLines_succ, Reader.behindBlanks] at hRun
    have hDropped := h.dropWhile
    generalize cs.dropWhile isSpace = dropped at hRun hDropped
    obtain ⟨c, more, rfl, hHead⟩ := hDropped.exists_head
    have hNoMark : '#' ≠ c := ne_of_head hHead (by decide)
    rw [Reader.behindMark_of_ne fun rest hSame => hNoMark (List.cons.inj hSame).1.symm] at hRun
    simp only [Except.bind] at hRun
    cases hBreak : behindBreak? (c :: more) with
    | none =>
      rw [hBreak] at hRun
      cases hRun
      exact hDropped
    | some next =>
      rw [hBreak] at hRun
      refine ih ?_ hRun
      unfold behindBreak? at hBreak
      split at hBreak
      · rename_i hFeed
        cases hBreak
        rw [hFeed] at hDropped
        exact hDropped.tail (by decide)
      · rename_i hReturn
        cases hBreak
        rw [hReturn] at hDropped
        exact (hDropped.tail (by decide)).tail (by decide)
      · cases hBreak

/-- No key begins so. -/
theorem OpensMarkup.keyPart {cs rest : List Char} {key : String} (h : OpensMarkup cs) :
    Reader.keyPart.run cs ≠ .ok (key, rest) := by
  obtain ⟨c, more, rfl, hHead⟩ := h.exists_head
  have hBasic : '"' ≠ c := ne_of_head hHead (by decide)
  have hLiteral : '\'' ≠ c := ne_of_head hHead (by decide)
  have hOther : Reader.isKeyChar c = false := by
    rcases hHead with rfl | hBlank
    · decide
    · exact isKeyChar_of_isBlank hBlank
  rw [Reader.keyPart, Reader.run_bind_of_ok _ (Reader.run_accept_of_ne hBasic more)]
  simp only [Bool.false_eq_true, if_false]
  rw [Reader.run_bind_of_ok _ (Reader.run_accept_of_ne hLiteral more)]
  simp only [Bool.false_eq_true, if_false]
  rw [Reader.run_get_bind, List.takeWhile_cons_of_neg (by simp [hOther])]
  intro hRun
  cases hRun

/-- No statement begins so. -/
theorem OpensMarkup.statement {cs rest : List Char} {d d' : Document} (h : OpensMarkup cs) :
    (Reader.statement d).run cs ≠ .ok (d', rest) := by
  intro hRun
  obtain ⟨c, more, rfl, hHead⟩ := h.exists_head
  have hBracket : '[' ≠ c := ne_of_head hHead (by decide)
  rw [Reader.statement, Reader.run_bind_of_ok _ (Reader.run_accept_of_ne hBracket more)] at hRun
  obtain ⟨pair, mid, hPair, -⟩ := Reader.run_bind_eq_ok hRun
  obtain ⟨path, mid', hKey, -⟩ := Reader.run_bind_eq_ok hPair
  have hSpaces : Reader.skipSpaces.run (c :: more) = .ok ((), (c :: more).dropWhile isSpace) := rfl
  rw [Reader.key, Reader.run_get_bind, Reader.keyParts, Reader.run_bind_of_ok _ hSpaces] at hKey
  obtain ⟨first, mid'', hFirst, -⟩ := Reader.run_bind_eq_ok hKey
  exact h.dropWhile.keyPart hFirst

/-- No document begins so. -/
theorem OpensMarkup.read {cs : List Char} {entries : List (String × Value)} (h : OpensMarkup cs) :
    read (String.ofList cs) ≠ .ok entries := by
  intro hRead
  have hHead : cs.head? ≠ some '\uFEFF' := by
    intro hSome
    obtain ⟨c, rest, rfl, hHead⟩ := h.exists_head
    exact ne_of_head hHead (by decide) (Option.some.inj hSome).symm
  rw [Toml.read, String.toList_ofList, dropMark_eq hHead] at hRead
  cases hStatements : (Reader.statements .empty (cs.length + 1)).run cs with
  | error e =>
    rw [hStatements] at hRead
    cases hRead
  | ok found =>
    obtain ⟨done, mid, hLines, hMore⟩ := Reader.run_bind_eq_ok hStatements
    have hMid : OpensMarkup mid := h.skipLines hLines
    rw [Reader.run_get_bind] at hMore
    obtain ⟨c, behind, rfl, -⟩ := hMid.exists_head
    obtain ⟨d, behind', hStatement, -⟩ := Reader.run_bind_eq_ok hMore
    exact hMid.statement hStatement

/-- A declaration without a byte order mark before it opens markup. -/
theorem opensMarkup_of_rest? {cs : List Char} {after : Bytes}
    (hMark : ¬ Declaration.byteOrderMark <+: encode cs)
    (hRest : Declaration.rest? (encode cs) = some after) : OpensMarkup cs := by
  have hNoMark : Declaration.dropMark (encode cs) = encode cs := by
    rw [Declaration.dropMark, if_neg]
    rwa [List.isPrefixOf_iff_prefix]
  unfold Declaration.rest? at hRest
  simp only [hNoMark] at hRest
  obtain ⟨hOpening, -⟩ := Option.ite_none_right_eq_some.mp hRest
  obtain ⟨body, hBody⟩ := List.isPrefixOf_iff_prefix.mp hOpening
  obtain ⟨blanks, hBlanks, hBytes⟩ := Declaration.exists_blank (encode cs)
  obtain ⟨more, hMore⟩ : ∃ more, Declaration.opening = 0x3C :: more := ⟨_, rfl⟩
  rw [← hBody, hMore, List.cons_append] at hBytes
  obtain ⟨a, z, rfl, hFront, -⟩ := exists_cut (c := '<') ⟨by decide, by decide⟩ hBytes
  obtain rfl : blanks = a := encode_injective hFront
  exact ⟨blanks, z, hBlanks, rfl⟩

/-- No document begins with a declaration of markup. -/
theorem split?_eq_none_of_read {cs : List Char} {entries : List (String × Value)}
    (hRead : read (String.ofList cs) = .ok entries)
    (hMark : ¬ Declaration.byteOrderMark <+: encode cs) :
    Declaration.split? (encode cs) = none := by
  rw [Declaration.split?, Option.map_eq_none_iff, Option.eq_none_iff_forall_ne_some]
  intro after hRest
  exact (opensMarkup_of_rest? hMark hRest).read hRead

end LicenseAudit.Toml
