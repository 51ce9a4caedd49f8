import LicenseAudit.Header.Registry
import LicenseAudit.Proofs.Text.Lowercase
import Mathlib.Data.List.Basic
import Mathlib.Data.List.Induction

/-!
# Registries with overrides

A registry starts as the built-in one and is adjusted step by step. Whatever the order of the
steps and however often a key comes back, what a file gets depends on one step of each kind at
most: on the last one that speaks of the name of the file, of its extension, or of the license
text.

* `Adjustment` — one step, and `Registry.adjusted` — the registry after a history of steps;
* `LastSets`, `NeverSets` — the last step of a history that sets a thing, and none that does;
  `lastSet?` searches the history backwards for it;
* `Chooses` — the style that a history gives a file, exclusions apart;
* `Wording` — the license text after a history;
* `Excluded` — the files that never take a header;
* `Adjustment.Independent` — two steps that do not set the same thing.

## Results

* `get_adjusted` — what a history leaves is set by the last step that sets it at all.
* `chooses_iff`, `wording_iff` — the style and the license text of the registry are those of the
  history.
* `adjusted_resolves` — which files a registry supports, and what their headers are; and
  independent steps commute.
-/

namespace LicenseAudit

open Text

-- ---------------------------------------------------------------------------
-- Histories
-- ---------------------------------------------------------------------------

/-- One step in the making of a registry. -/
inductive Adjustment where
  | licenseText (text : String)
  | extensionStyle (extension : String) (style : CommentStyle)
  | fileNameStyle (name : String) (style : CommentStyle)
deriving DecidableEq

namespace Adjustment

/-- The license text that a step sets. -/
def text? : Adjustment → Option String
  | licenseText text => some text
  | _ => none

/-- The style that a step sets for an extension in lower case. -/
def extension? (key : String) : Adjustment → Option CommentStyle
  | extensionStyle extension style =>
    if lowercaseString extension = key then some style else none
  | _ => none

/-- The style that a step sets for a file name in lower case. -/
def fileName? (key : String) : Adjustment → Option CommentStyle
  | fileNameStyle name style => if lowercaseString name = key then some style else none
  | _ => none

/-- Two steps of different kinds, or with keys that differ in lower case. -/
def Independent : Adjustment → Adjustment → Prop
  | licenseText _, licenseText _ => False
  | extensionStyle extension _, extensionStyle extension' _ =>
    lowercaseString extension ≠ lowercaseString extension'
  | fileNameStyle name _, fileNameStyle name' _ => lowercaseString name ≠ lowercaseString name'
  | _, _ => True

end Adjustment

namespace Registry

/-- The registry after one more step. -/
def adjust (r : Registry) : Adjustment → Registry
  | .licenseText text => r.withLicenseText text
  | .extensionStyle extension style => r.withExtensionStyle extension style
  | .fileNameStyle name style => r.withFileNameStyle name style

/-- The registry that a history makes of the built-in one. -/
def adjusted (history : List Adjustment) : Registry :=
  history.foldl adjust builtin

end Registry

section Last

variable {β : Type} {sets : Adjustment → Option β} {history : List Adjustment} {b : β}

/-- The last step of a history that sets a thing sets it to `b`. -/
def LastSets (history : List Adjustment) (sets : Adjustment → Option β) (b : β) : Prop :=
  ∃ before a after, history = before ++ a :: after ∧ sets a = some b ∧
    ∀ later ∈ after, sets later = none

/-- No step of a history sets a thing. -/
def NeverSets (history : List Adjustment) (sets : Adjustment → Option β) : Prop :=
  ∀ a ∈ history, sets a = none

/-- What the last step of a history that sets a thing sets it to. -/
def lastSet? (history : List Adjustment) (sets : Adjustment → Option β) : Option β :=
  history.reverse.findSome? sets

theorem lastSet?_append (first second : List Adjustment) (sets : Adjustment → Option β) :
    lastSet? (first ++ second) sets = (lastSet? second sets).or (lastSet? first sets) := by
  unfold lastSet?
  rw [List.reverse_append, List.findSome?_append]

theorem lastSet?_singleton (a : Adjustment) (sets : Adjustment → Option β) :
    lastSet? [a] sets = sets a := by
  unfold lastSet?
  rw [List.reverse_singleton, List.findSome?_singleton]

theorem lastSets_iff : LastSets history sets b ↔ lastSet? history sets = some b := by
  unfold lastSet?
  rw [List.findSome?_eq_some_iff]
  constructor
  · rintro ⟨before, a, after, rfl, hHere, hLater⟩
    refine ⟨after.reverse, a, before.reverse, by simp, hHere, ?_⟩
    intro later hMem
    exact hLater later (List.mem_reverse.mp hMem)
  · rintro ⟨after, a, before, hSplit, hHere, hLater⟩
    refine ⟨before.reverse, a, after.reverse, ?_, hHere, ?_⟩
    · rw [← List.reverse_reverse history, hSplit]
      simp
    · intro later hMem
      exact hLater later (List.mem_reverse.mp hMem)

theorem neverSets_iff : NeverSets history sets ↔ lastSet? history sets = none := by
  unfold lastSet?
  rw [List.findSome?_eq_none_iff]
  exact forall_congr' fun a => by rw [List.mem_reverse]

/-- Of two neighbours one of which does not set the thing, it does not matter which is first. -/
theorem lastSet?_swap {a b : Adjustment} (h : sets a = none ∨ sets b = none)
    (before after : List Adjustment) :
    lastSet? (before ++ a :: b :: after) sets = lastSet? (before ++ b :: a :: after) sets := by
  have hSplit : ∀ x y : Adjustment, lastSet? (before ++ x :: y :: after) sets =
      (lastSet? after sets).or (((sets y).or (sets x)).or (lastSet? before sets)) := by
    intro x y
    have hParts : before ++ x :: y :: after = before ++ ([x] ++ ([y] ++ after)) := rfl
    simp only [hParts, lastSet?_append, lastSet?_singleton, Option.or_assoc]
  have hPair : (sets b).or (sets a) = (sets a).or (sets b) := by
    rcases h with hFirst | hSecond
    · rw [hFirst, Option.or_none, Option.none_or]
    · rw [hSecond, Option.or_none, Option.none_or]
  rw [hSplit, hSplit, hPair]

end Last

-- ---------------------------------------------------------------------------
-- What a history leaves
-- ---------------------------------------------------------------------------

namespace Registry

variable {history : List Adjustment} {p : Path}

theorem adjusted_concat (history : List Adjustment) (a : Adjustment) :
    adjusted (history ++ [a]) = (adjusted history).adjust a := by
  unfold adjusted
  rw [List.foldl_concat]

/-- What every step sets or leaves alone is, after a history, as the last step set it. -/
theorem get_adjusted {β : Type} {sets : Adjustment → Option β} {f : Registry → Option β}
    (hStep : ∀ r a, f (r.adjust a) = (sets a).or (f r)) (history : List Adjustment) :
    f (adjusted history) = (lastSet? history sets).or (f builtin) := by
  induction history using List.reverseRecOn with
  | nil => rfl
  | append_singleton front a ih =>
    rw [adjusted_concat, hStep, ih, lastSet?_append, lastSet?_singleton, Option.or_assoc]

/-- The entry in front of a list of styles counts first. -/
theorem lookup_front (key key' : String) (style : CommentStyle)
    (styles : List (String × CommentStyle)) :
    ((key', style) :: styles).lookup key =
      (if key' = key then some style else none).or (styles.lookup key) := by
  by_cases hKey : key' = key
  · rw [List.lookup_cons, hKey, beq_self_eq_true, if_pos rfl, Option.some_or]
  · rw [List.lookup_cons, beq_false_of_ne (Ne.symm hKey), if_neg hKey, Option.none_or]

theorem fileName_adjust (key : String) (r : Registry) (a : Adjustment) :
    (r.adjust a).fileNameStyles.lookup key =
      (a.fileName? key).or (r.fileNameStyles.lookup key) := by
  cases a with
  | licenseText text => rfl
  | extensionStyle extension style => rfl
  | fileNameStyle name style => exact lookup_front _ _ _ _

theorem extension_adjust (key : String) (r : Registry) (a : Adjustment) :
    (r.adjust a).extensionStyles.lookup key =
      (a.extension? key).or (r.extensionStyles.lookup key) := by
  cases a with
  | licenseText text => rfl
  | fileNameStyle name style => rfl
  | extensionStyle extension style => exact lookup_front _ _ _ _

theorem text_adjust (r : Registry) (a : Adjustment) :
    some (r.adjust a).licenseText = a.text?.or (some r.licenseText) := by
  cases a <;> rfl

theorem fileName_adjusted (history : List Adjustment) (key : String) :
    (adjusted history).fileNameStyles.lookup key =
      lastSet? history (Adjustment.fileName? key) := by
  have hGet := get_adjusted (f := fun r => r.fileNameStyles.lookup key) (fileName_adjust key)
  exact (hGet history).trans Option.or_none

theorem extension_adjusted (history : List Adjustment) (key : String) :
    (adjusted history).extensionStyles.lookup key =
      lastSet? history (Adjustment.extension? key) := by
  have hGet := get_adjusted (f := fun r => r.extensionStyles.lookup key) (extension_adjust key)
  exact (hGet history).trans Option.or_none

theorem text_adjusted (history : List Adjustment) :
    some (adjusted history).licenseText =
      (lastSet? history Adjustment.text?).or (some defaultLicenseText) :=
  get_adjusted (f := fun r => some r.licenseText) text_adjust history

-- ---------------------------------------------------------------------------
-- The style of a file
-- ---------------------------------------------------------------------------

/-- The style that a history gives a file, exclusions apart: a step for its name comes first, then
one for its extension, and then the built-in style. -/
inductive Chooses (history : List Adjustment) (p : Path) : Option CommentStyle → Prop where
  | fileName {style : CommentStyle}
      (hSet : LastSets history (Adjustment.fileName? p.lowerName) style) :
      Chooses history p (some style)
  | extension {e : String} {style : CommentStyle}
      (hFree : NeverSets history (Adjustment.fileName? p.lowerName))
      (hExtension : p.extension? = some e) (hFilled : e ≠ "")
      (hSet : LastSets history (Adjustment.extension? (lowercaseString e)) style) :
      Chooses history p (some style)
  | builtin
      (hFree : NeverSets history (Adjustment.fileName? p.lowerName))
      (hOther : ∀ e, p.extension? = some e → e ≠ "" →
        NeverSets history (Adjustment.extension? (lowercaseString e))) :
      Chooses history p (builtinStyle? p)

/-- The license text after a history. -/
inductive Wording (history : List Adjustment) : String → Prop where
  | last {text : String} (hSet : LastSets history Adjustment.text? text) : Wording history text
  | builtin (hFree : NeverSets history Adjustment.text?) : Wording history defaultLicenseText

variable {r : Registry} {e : String} {s : Option CommentStyle} {text : String}

theorem style?_of_named {style : CommentStyle}
    (hName : r.fileNameStyles.lookup p.lowerName = some style) : r.style? p = some style := by
  unfold style?
  rw [hName]

theorem style?_of_extension (hName : r.fileNameStyles.lookup p.lowerName = none)
    (hExtension : p.extension? = some e) (hFilled : e ≠ "") :
    r.style? p = (r.extensionStyles.lookup (lowercaseString e)).or (builtinStyle? p) := by
  have hLower : p.lowerExtension = lowercaseString e := by
    rw [Path.lowerExtension, hExtension, Option.getD_some]
  have hSome : ¬ (lowercaseString e).isEmpty = true := by
    rw [String.isEmpty_iff]
    exact lowercaseString_ne_empty hFilled
  unfold style?
  rw [hName, hLower]
  exact if_neg hSome

/-- An empty extension does not count. -/
theorem style?_of_bare (hName : r.fileNameStyles.lookup p.lowerName = none)
    (hBare : ∀ e, p.extension? = some e → e = "") : r.style? p = builtinStyle? p := by
  have hLower : p.lowerExtension = "" := by
    unfold Path.lowerExtension
    cases hExtension : p.extension? with
    | none => rfl
    | some e => rw [hBare e hExtension, Option.getD_some]; rfl
  unfold style?
  rw [hName, hLower]
  exact if_pos rfl

/-- A file has an extension that counts, or none that does. -/
theorem extension_or_bare (p : Path) :
    (∃ e, p.extension? = some e ∧ e ≠ "") ∨ ∀ e, p.extension? = some e → e = "" := by
  by_cases hSome : ∃ e, p.extension? = some e ∧ e ≠ ""
  · exact Or.inl hSome
  · refine Or.inr fun e hExtension => ?_
    by_contra hFilled
    exact hSome ⟨e, hExtension, hFilled⟩

/-- The registry gives every file the style that its history chooses, and no other one. -/
theorem chooses_iff : Chooses history p s ↔ s = (adjusted history).style? p := by
  constructor
  · intro hChooses
    cases hChooses with
    | fileName hSet =>
      rw [lastSets_iff, ← fileName_adjusted] at hSet
      exact (style?_of_named hSet).symm
    | extension hFree hExtension hFilled hSet =>
      rw [neverSets_iff, ← fileName_adjusted] at hFree
      rw [lastSets_iff, ← extension_adjusted] at hSet
      rw [style?_of_extension hFree hExtension hFilled, hSet, Option.some_or]
    | builtin hFree hOther =>
      rw [neverSets_iff, ← fileName_adjusted] at hFree
      obtain ⟨e, hExtension, hFilled⟩ | hBare := extension_or_bare p
      · have hNone := hOther e hExtension hFilled
        rw [neverSets_iff, ← extension_adjusted] at hNone
        rw [style?_of_extension hFree hExtension hFilled, hNone, Option.none_or]
      · rw [style?_of_bare hFree hBare]
  · rintro rfl
    cases hName : (adjusted history).fileNameStyles.lookup p.lowerName with
    | some style =>
      rw [style?_of_named hName]
      exact .fileName (lastSets_iff.mpr (by rw [← fileName_adjusted, hName]))
    | none =>
      have hFree := neverSets_iff.mpr ((fileName_adjusted history _).symm.trans hName)
      obtain ⟨e, hExtension, hFilled⟩ | hBare := extension_or_bare p
      · rw [style?_of_extension hName hExtension hFilled, extension_adjusted]
        cases hSet : lastSet? history (Adjustment.extension? (lowercaseString e)) with
        | some style =>
          rw [Option.some_or]
          exact .extension hFree hExtension hFilled (lastSets_iff.mpr hSet)
        | none =>
          rw [Option.none_or]
          refine .builtin hFree fun e' hExtension' _ => ?_
          obtain rfl : e = e' := Option.some.inj (hExtension.symm.trans hExtension')
          exact neverSets_iff.mpr hSet
      · rw [style?_of_bare hName hBare]
        exact .builtin hFree fun e hExtension hFilled => absurd (hBare e hExtension) hFilled

/-- The license text of the registry is that of its history, and no other one. -/
theorem wording_iff : Wording history text ↔ text = (adjusted history).licenseText := by
  have hText := text_adjusted history
  constructor
  · intro hWording
    cases hWording with
    | last hSet =>
      rw [lastSets_iff.mp hSet, Option.some_or] at hText
      exact (Option.some.inj hText).symm
    | builtin hFree =>
      rw [neverSets_iff.mp hFree, Option.none_or] at hText
      exact (Option.some.inj hText).symm
  · rintro rfl
    cases hSet : lastSet? history Adjustment.text? with
    | some text =>
      rw [hSet, Option.some_or] at hText
      rw [Option.some.inj hText]
      exact .last (lastSets_iff.mpr hSet)
    | none =>
      rw [hSet, Option.none_or] at hText
      rw [Option.some.inj hText]
      exact .builtin (neverSets_iff.mpr hSet)

-- ---------------------------------------------------------------------------
-- Files that never take a header
-- ---------------------------------------------------------------------------

/-- The name of the file is one of those, or ends like one of those, that never take a header. -/
def Excluded (p : Path) : Prop :=
  p.lowerName ∈ excludedNames ∨
    ∃ suffix ∈ excludedSuffixes, suffix.toList <:+ p.lowerName.toList

theorem isExcluded_iff : isExcluded p = true ↔ Excluded p := by
  unfold isExcluded isExcludedName Excluded
  rw [Bool.or_eq_true, decide_eq_true_eq, List.any_eq_true]
  simp only [List.isSuffixOf_iff_suffix]

/-- Where a header is rendered, the file is supported, and the other way round. -/
theorem isSome_headerFor? (r : Registry) (p : Path) : (r.headerFor? p).isSome = r.supports p := by
  unfold headerFor? supports
  split <;> simp [*]

-- ---------------------------------------------------------------------------
-- Independent steps
-- ---------------------------------------------------------------------------

/-- Registries that find the same overrides and have the same license text answer alike. -/
theorem source_congr {r r' : Registry}
    (hNames : ∀ key, r.fileNameStyles.lookup key = r'.fileNameStyles.lookup key)
    (hExtensions : ∀ key, r.extensionStyles.lookup key = r'.extensionStyles.lookup key)
    (hText : r.licenseText = r'.licenseText) : r.source = r'.source := by
  have hStyle : r.style? = r'.style? := by
    funext p
    unfold style?
    rw [hNames, hExtensions]
  have hSupports : r.supports = r'.supports := by
    funext p
    rw [supports, supports, hStyle]
  have hHeader : r.headerFor? = r'.headerFor? := by
    funext p
    rw [headerFor?, headerFor?, hStyle, hText]
  rw [source, source, hSupports, hHeader]

end Registry

namespace Adjustment

variable {a b : Adjustment}

/-- A key is not two different ones. -/
theorem none_or_none {k k' : String} (hKeys : k ≠ k') (key : String) (style style' : CommentStyle) :
    (if k = key then some style else none) = none ∨
      (if k' = key then some style' else none) = none := by
  by_cases hKey : k = key
  · exact Or.inr (if_neg fun hKey' => hKeys (hKey.trans hKey'.symm))
  · exact Or.inl (if_neg hKey)

/-- Independent steps do not both set the license text. -/
theorem Independent.text? (h : a.Independent b) : a.text? = none ∨ b.text? = none := by
  cases a <;> cases b <;> first | exact h.elim | exact Or.inl rfl | exact Or.inr rfl

/-- Independent steps do not both set the style of an extension. -/
theorem Independent.extension? (h : a.Independent b) (key : String) :
    a.extension? key = none ∨ b.extension? key = none := by
  cases a <;> cases b <;>
    first | exact Or.inl rfl | exact Or.inr rfl | exact none_or_none h key _ _

/-- Independent steps do not both set the style of a file name. -/
theorem Independent.fileName? (h : a.Independent b) (key : String) :
    a.fileName? key = none ∨ b.fileName? key = none := by
  cases a <;> cases b <;>
    first | exact Or.inl rfl | exact Or.inr rfl | exact none_or_none h key _ _

end Adjustment

namespace Registry

/-- Independent steps commute, wherever they stand in a history. -/
theorem adjusted_swap {a b : Adjustment} (h : a.Independent b) (before after : List Adjustment) :
    (adjusted (before ++ a :: b :: after)).source =
        (adjusted (before ++ b :: a :: after)).source ∧
      (adjusted (before ++ a :: b :: after)).licenseText =
        (adjusted (before ++ b :: a :: after)).licenseText := by
  have hText : (adjusted (before ++ a :: b :: after)).licenseText =
      (adjusted (before ++ b :: a :: after)).licenseText := by
    rw [← Option.some.injEq, text_adjusted, text_adjusted, lastSet?_swap h.text?]
  refine ⟨source_congr (fun key => ?_) (fun key => ?_) hText, hText⟩
  · rw [fileName_adjusted, fileName_adjusted, lastSet?_swap (h.fileName? key)]
  · rw [extension_adjusted, extension_adjusted, lastSet?_swap (h.extension? key)]

-- ---------------------------------------------------------------------------
-- What a file gets
-- ---------------------------------------------------------------------------

/-- What a registry with a history does for a file. -/
structure Resolved (history : List Adjustment) (p : Path) : Prop where
  excluded : Excluded p →
    (adjusted history).supports p = false ∧ (adjusted history).headerFor? p = none
  chosen   : ¬ Excluded p → ∃ style? text,
    (∀ s, Chooses history p s ↔ s = style?) ∧ (∀ t, Wording history t ↔ t = text) ∧
      (adjusted history).supports p = style?.isSome ∧
      (adjusted history).headerFor? p = style?.map fun style => style.render text
  known    : ((adjusted history).headerFor? p).isSome = (adjusted history).supports p

theorem resolved (history : List Adjustment) (p : Path) : Resolved history p where
  excluded := by
    intro hExcluded
    have hTest := isExcluded_iff.mpr hExcluded
    unfold supports headerFor?
    rw [hTest]
    exact ⟨rfl, rfl⟩
  chosen := by
    intro hTaken
    have hTest : ¬ isExcluded p = true := mt isExcluded_iff.mp hTaken
    refine ⟨(adjusted history).style? p, (adjusted history).licenseText, fun s => chooses_iff,
      fun t => wording_iff, ?_, if_neg hTest⟩
    unfold supports
    rw [Bool.eq_false_iff.mpr hTest, Bool.not_false, Bool.true_and]
  known := isSome_headerFor? _ p

/-- Whatever the history of a registry, a file gets what the last step of each kind that speaks of
it says, and nothing if it is excluded. So steps that do not set the same thing commute: the
registry answers alike and has the same license text. -/
theorem adjusted_resolves (history : List Adjustment) :
    (∀ p, Resolved history p) ∧
      ∀ before a b after, history = before ++ a :: b :: after → a.Independent b →
        (adjusted history).source = (adjusted (before ++ b :: a :: after)).source ∧
          (adjusted history).licenseText =
            (adjusted (before ++ b :: a :: after)).licenseText := by
  refine ⟨resolved history, ?_⟩
  rintro before a b after rfl hIndependent
  exact adjusted_swap hIndependent before after

/-- A style for a file name and one for its extension commute. -/
theorem adjusted_resolves_two_styles :
    (Adjustment.fileNameStyle "Notes.TXT" .hash).Independent (.extensionStyle "txt" .markup) ∧
      (adjusted [.fileNameStyle "Notes.TXT" .hash, .extensionStyle "txt" .markup]).source =
        (adjusted [.extensionStyle "txt" .markup, .fileNameStyle "Notes.TXT" .hash]).source := by
  have hIndependent :
      (Adjustment.fileNameStyle "Notes.TXT" .hash).Independent (.extensionStyle "txt" .markup) :=
    trivial
  exact ⟨hIndependent, ((adjusted_resolves _).2 [] _ _ [] rfl hIndependent).1⟩

end Registry

end LicenseAudit
