import LicenseAudit.Pattern.Reader
import LicenseAudit.Proofs.Pattern.Matching
import LicenseAudit.Proofs.Success

/-!
# Reading what was escaped

A text becomes a pattern that matches the text itself when a backslash is put before each of its
characters that would mean something else. The reader takes such a text character by character,
without any group, class, choice or repetition, and gives back the literal.

* `Pattern.escaped` — the text with its backslashes;
* `Pattern.Reads` — characters that the reader takes for the given patterns in a row;
* `Pattern.totalCost` — the size of patterns together.

## Results

* `Pattern.reads_escapedChar` — one character, with its backslash if it needs one, is read as
  itself.
* `Pattern.parse_escaped` — an escaped text is read as the literal, or refused for its size.
* `Pattern.parse_anchored` — so it is between the anchors.
* `Pattern.cost_literal_le` — the size of a literal grows with its length, at most by the states
  of four bytes for a character.
-/

namespace LicenseAudit

namespace Pattern

open Reader

/-- A character, behind a backslash if it means something else bare. -/
def escapedChar (c : Char) : List Char := if c ∈ metaChars then ['\\', c] else [c]

/-- The text that is read as the literal. -/
def escaped (text : String) : String := String.ofList (text.toList.flatMap escapedChar)

/-- The pattern of a character that stands for itself. -/
def character (c : Char) : Pattern := one (.single c)

theorem sequence_character (l : List Char) : sequence (l.map character) = literal l := by
  induction l with
  | nil => rfl
  | cons c rest ih => exact congrArg (seq (character c)) ih

-- ---------------------------------------------------------------------------
-- One character
-- ---------------------------------------------------------------------------

theorem metaChars_eq : metaChars = ['\\', '.', '+', '*', '?', '(', ')', '|', '[', ']', '\x7b',
    '\x7d', '^', '$', '#', '&', '-', '~'] := by
  decide

/-- Behind a backslash a character that means something else bare stands for itself. -/
theorem run_escape {c : Char} (special : c ∈ metaChars) (rest : List Char) (flags : Flags)
    (names : List (List Char)) :
    escape.run ⟨'\\' :: c :: rest, flags, names⟩ = .ok (.char c false, ⟨rest, flags, names⟩) := by
  simp only [metaChars_eq, List.mem_cons, List.not_mem_nil, or_false] at special
  rcases special with rfl | rfl | rfl | rfl | rfl | rfl | rfl | rfl | rfl | rfl | rfl | rfl | rfl |
    rfl | rfl | rfl | rfl | rfl <;> rfl

variable {fuel : Nat} {branches : List Nested} {items : List Item} {rest : List Char}
  {names : List (List Char)}

theorem run_readItems_special {c : Char} (special : c ∈ metaChars) :
    (readItems (fuel + 1) branches items).run ⟨'\\' :: c :: rest, {}, names⟩ =
      (readItems fuel branches (.flat (character c) :: items)).run ⟨rest, {}, names⟩ := by
  simp [readItems, skipSpace, peek, run_escape special, atomPattern, literalPattern,
    foldAndNegate, ok_bind, character]

theorem run_readItems_plain {c : Char} (plain : c ∉ metaChars) :
    (readItems (fuel + 1) branches items).run ⟨c :: rest, {}, names⟩ =
      (readItems fuel branches (.flat (character c) :: items)).run ⟨rest, {}, names⟩ := by
  simp only [metaChars_eq, List.mem_cons, not_or] at plain
  simp [readItems, skipSpace, peek, skip, literalPattern, foldAndNegate, plain, ok_bind, character]

theorem run_readItems_start :
    (readItems (fuel + 1) branches items).run ⟨'^' :: rest, {}, names⟩ =
      (readItems fuel branches (.flat (.place .textStart) :: items)).run ⟨rest, {}, names⟩ := rfl

theorem run_readItems_end :
    (readItems (fuel + 1) branches items).run ⟨'$' :: rest, {}, names⟩ =
      (readItems fuel branches (.flat (.place .textEnd) :: items)).run ⟨rest, {}, names⟩ := rfl

theorem run_readItems_nil :
    (readItems (fuel + 1) [] items).run ⟨[], {}, names⟩ =
      .ok (sequenceOf items, ⟨[], {}, names⟩) := rfl

-- ---------------------------------------------------------------------------
-- Characters in a row
-- ---------------------------------------------------------------------------

/-- Behind whatever was read, the characters are read as these patterns, each in one call of the
reader. -/
structure Reads (cs : List Char) (ps : List Pattern) : Prop where
  short : ps.length ≤ cs.length
  run : ∀ fuel items rest,
    (readItems (ps.length + fuel) [] items).run ⟨cs ++ rest, {}, []⟩ =
      (readItems fuel [] ((ps.map .flat).reverse ++ items)).run ⟨rest, {}, []⟩

theorem Reads.nil : Reads [] [] where
  short := Nat.le_refl _
  run fuel items rest := by rw [List.length_nil, Nat.zero_add]; rfl

theorem Reads.append {cs cs' : List Char} {ps ps' : List Pattern} (first : Reads cs ps)
    (second : Reads cs' ps') : Reads (cs ++ cs') (ps ++ ps') where
  short := by
    have h := first.short
    have h' := second.short
    simp only [List.length_append]
    omega
  run fuel items rest := by
    rw [List.length_append, Nat.add_assoc, List.append_assoc, first.run, second.run,
      List.map_append, List.reverse_append, List.append_assoc]

theorem reads_start : Reads ['^'] [place .textStart] where
  short := Nat.le_refl _
  run fuel items rest := by
    rw [List.length_singleton, Nat.add_comm]
    exact run_readItems_start

theorem reads_end : Reads ['$'] [place .textEnd] where
  short := Nat.le_refl _
  run fuel items rest := by
    rw [List.length_singleton, Nat.add_comm]
    exact run_readItems_end

theorem reads_escapedChar (c : Char) : Reads (escapedChar c) [character c] := by
  unfold escapedChar
  split
  · next special =>
    refine ⟨Nat.le_succ _, fun fuel items rest => ?_⟩
    rw [List.length_singleton, Nat.add_comm]
    exact run_readItems_special special
  · next plain =>
    refine ⟨Nat.le_refl _, fun fuel items rest => ?_⟩
    rw [List.length_singleton, Nat.add_comm]
    exact run_readItems_plain plain

theorem reads_escaped (l : List Char) : Reads (l.flatMap escapedChar) (l.map character) := by
  induction l with
  | nil => exact .nil
  | cons c rest ih => exact (reads_escapedChar c).append ih

/-- A whole is nested at most once more than its parts. -/
theorem nesting_le {depths : List Nat} {d : Nat} (bound : ∀ depth ∈ depths, depth ≤ d) :
    nesting depths ≤ 1 + d := by
  have most : ∀ first ≤ d, depths.foldl max first ≤ d := by
    induction depths with
    | nil => exact fun first below => below
    | cons depth more ih =>
      intro first below
      refine ih (fun e later => bound e (List.mem_cons_of_mem _ later)) _ ?_
      exact Nat.max_le.2 ⟨below, bound depth List.mem_cons_self⟩
  match depths with
  | [] => exact Nat.zero_le _
  | [depth] => exact Nat.le_trans (bound depth List.mem_cons_self) (Nat.le_add_left d 1)
  | _ :: _ :: _ => exact Nat.add_le_add_left (most 0 (Nat.zero_le d)) 1

/-- Patterns in a row are nested once, if there are several. -/
theorem depth_sequenceOf_flat (ps : List Pattern) :
    (sequenceOf (ps.map .flat).reverse).depth ≤ 1 := by
  refine nesting_le (d := 0) fun depth member => ?_
  obtain ⟨item, flat, rfl⟩ := List.mem_map.1 member
  obtain ⟨p, -, rfl⟩ := List.mem_map.1 (List.mem_reverse.1 flat)
  exact Nat.le_refl 0

/-- What is read without nesting is a pattern unless it is too large. -/
theorem Reads.parse {text : String} {ps : List Pattern} (reads : Reads text.toList ps) :
    Pattern.parse text =
      if costLimit < (sequence ps).cost then .error .tooLarge else .ok (sequence ps) := by
  -- One call for each pattern and one for the end are fewer than two for each character.
  obtain ⟨extra, enough⟩ : ∃ extra, 2 * text.length + 2 = ps.length + (extra + 1) := by
    have short := reads.short
    rw [String.length_toList] at short
    exact ⟨2 * text.length + 1 - ps.length, by omega⟩
  have run := reads.run (extra + 1) [] []
  rw [List.append_nil, List.append_nil, run_readItems_nil] at run
  have whole : (sequenceOf (ps.map .flat).reverse).pattern = sequence ps := by
    simp [sequenceOf, List.map_reverse, Item.flat, Item.toPattern, Function.comp_def]
  have shallow : ¬ nestingLimit < (sequenceOf (ps.map .flat).reverse).depth :=
    Nat.not_lt.2 (Nat.le_trans (depth_sequenceOf_flat ps) (by decide))
  have all : (readAll (2 * text.length + 2)).run ⟨text.toList, {}, []⟩ =
      .ok (sequenceOf (ps.map .flat).reverse, ⟨[], {}, []⟩) := by
    rw [readAll, StateT.run_bind, enough, run]
    rfl
  simp only [Pattern.parse, all, ok_bind, if_neg shallow, whole]
  rfl

theorem parse_escaped (text : String) :
    parse (escaped text) =
      if costLimit < (literal text.toList).cost then .error .tooLarge
      else .ok (literal text.toList) := by
  have reads : Reads (escaped text).toList (text.toList.map character) := by
    rw [escaped, String.toList_ofList]
    exact reads_escaped _
  rw [reads.parse, sequence_character]

/-- A literal between the anchors is read piece by piece. -/
theorem parse_anchored {text : String} {l : List Char}
    (spelled : text.toList = '^' :: (l.flatMap escapedChar ++ ['$'])) :
    parse text =
      let p := sequence (place .textStart :: (l.map character ++ [place .textEnd]))
      if costLimit < p.cost then .error .tooLarge else .ok p := by
  have reads : Reads text.toList ([place .textStart] ++ (l.map character ++ [place .textEnd])) := by
    rw [spelled]
    exact reads_start.append ((reads_escaped l).append reads_end)
  exact reads.parse

end Pattern

-- ---------------------------------------------------------------------------
-- Size
-- ---------------------------------------------------------------------------

namespace CharSet

theorem ranges_single (c : Char) : (single c).ranges = [(c.toNat, c.toNat)] := by
  simp [single, range, ranges, runRanges, normalized, joinOrdered]

/-- One code point is never cut. -/
theorem foldl_cutAt_point (n : Nat) (positions : List Nat) :
    positions.foldl (fun parts position => parts.flatMap (cutAt position)) [(n, n)] = [(n, n)] := by
  induction positions with
  | nil => rfl
  | cons position more ih => simpa [cutAt] using ih

/-- One code point has one path in the block that it belongs to. -/
theorem paths_point (n : Nat) :
    paths (n, n) = encodedBlocks.flatMap fun block =>
      if block.2.1 ≤ n ∧ n ≤ block.2.2 then [(block.1, n, n)] else [] := by
  refine congrArg (List.flatMap · encodedBlocks) (funext fun ⟨length, lo, hi⟩ => ?_)
  by_cases inside : lo ≤ n ∧ n ≤ hi
  · have low : max lo n = n := Nat.max_eq_right inside.1
    have high : min hi n = n := Nat.min_eq_right inside.2
    simp only [low, high, inside, and_self, if_true, Nat.lt_irrefl, if_false, foldl_cutAt_point,
      List.map_cons, List.map_nil]
  · have apart : min hi n < max lo n := by omega
    simp only [apart, inside, if_true, if_false]

theorem newStates_le (previous? : Option (Nat × Nat × Nat)) (path : Nat × Nat × Nat) :
    newStates previous? path ≤ path.1 := by
  simpa [newStates] using List.countP_le_length (l := List.range path.1)

/-- A character takes at most four bytes. -/
theorem cost_single_le (c : Char) : (single c).cost ≤ 4 * stateSize := by
  have bytes : stateCount Option.none (paths (c.toNat, c.toNat)) ≤ 4 := by
    rw [paths_point]
    generalize c.toNat = n
    have alone : ∀ length, stateCount Option.none [(length, n, n)] ≤ length := fun length =>
      newStates_le Option.none (length, n, n)
    -- No code point belongs to two blocks, so that one path is left at most.
    simp only [encodedBlocks, List.flatMap_cons, List.flatMap_nil]
    split_ifs <;> first
      | omega
      | exact Nat.le_trans (alone _) (by decide)
      | exact Nat.zero_le _
  simp only [cost, ranges_single, if_true]
  rw [Nat.mul_comm]
  exact Nat.mul_le_mul_right _ bytes

end CharSet

namespace Pattern

/-- The size of patterns together. -/
def totalCost : List Pattern → Nat
  | [] => 0
  | p :: ps => p.cost + totalCost ps

theorem totalCost_append (ps qs : List Pattern) :
    totalCost (ps ++ qs) = totalCost ps + totalCost qs := by
  induction ps with
  | nil => exact (Nat.zero_add _).symm
  | cons p ps ih => rw [List.cons_append, totalCost, totalCost, ih, Nat.add_assoc]

theorem cost_le_totalCost {ps : List Pattern} {p : Pattern} (h : p ∈ ps) :
    p.cost ≤ totalCost ps := by
  induction h with
  | head => exact Nat.le_add_right _ _
  | tail _ _ ih => exact Nat.le_trans ih (Nat.le_add_left _ _)

/-- Patterns in a row are as large as they are together. -/
theorem cost_sequence (ps : List Pattern) : (sequence ps).cost = totalCost ps := by
  induction ps with
  | nil => rfl
  | cons p ps ih => exact congrArg (p.cost + ·) ih

theorem cost_literal_le (l : List Char) :
    (literal l).cost ≤ l.length * (4 * CharSet.stateSize) := by
  induction l with
  | nil => exact Nat.zero_le _
  | cons c rest ih =>
    have first : (one (.single c)).cost ≤ 4 * CharSet.stateSize := CharSet.cost_single_le c
    simp only [literal, cost, List.length_cons, Nat.add_mul, Nat.one_mul] at first ⊢
    omega

end Pattern

end LicenseAudit
