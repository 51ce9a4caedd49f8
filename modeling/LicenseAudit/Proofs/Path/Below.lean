import LicenseAudit.FileSystem.Basic
import LicenseAudit.Proofs.Path.Order
import LicenseAudit.Proofs.Path.Parts
import Mathlib.Data.String.Basic

/-!
# Paths below a root

What lies below a directory is named by the names that lead to it, the outermost first. The same
names give a path, written behind that of the directory, and a place, reached from that of the
directory.

* `Path.below` — the path under some names;
* `Location.below` — the place under some names.

## Results

* `components_below` — the names are added to the components.
* `key_below_lt_iff` — below one root paths are in the order of their names.
* `size_join` — a path grows with each name.
-/

namespace LicenseAudit

/-- The path of what lies below a directory under the given names, the outermost first. -/
def Path.below (root : Path) (names : List String) : Path :=
  names.foldl (fun p n => p.join ⟨n⟩) root

/-- The place of what lies below a place under the given names, the outermost first. -/
def Location.below (l : Location) (names : List String) : Location :=
  names.reverse ++ l

namespace Location

@[simp]
theorem below_nil (l : Location) : l.below [] = l := rfl

@[simp]
theorem below_cons (l : Location) (n : String) (names : List String) :
    l.below (n :: names) = Location.below (n :: l) names := by
  simp [below]

theorem below_concat (l : Location) (names : List String) (n : String) :
    l.below (names ++ [n]) = n :: l.below names := by
  simp [below]

end Location

namespace Path

@[simp]
theorem below_nil (root : Path) : root.below [] = root := rfl

@[simp]
theorem below_cons (root : Path) (n : String) (names : List String) :
    root.below (n :: names) = (root.join ⟨n⟩).below names := rfl

theorem below_concat (root : Path) (names : List String) (n : String) :
    root.below (names ++ [n]) = (root.below names).join ⟨n⟩ := by
  simp [below, List.foldl_append]

variable {root : Path} {names : List String}

/-- What lies below a directory adds its names to the components. -/
theorem components_below (hProper : ∀ n ∈ names, ProperName n) :
    (root.below names).components = root.components ++ names.map .name := by
  induction names generalizing root with
  | nil => simp
  | cons n rest ih =>
    have hFirst := components_join root (hProper n (List.mem_cons_self ..))
    rw [below_cons, ih fun m hMem => hProper m (List.mem_cons_of_mem _ hMem), hFirst]
    simp

/-- Below one root different names give different paths. -/
theorem below_inj {names' : List String} (hProper : ∀ n ∈ names, ProperName n)
    (hProper' : ∀ n ∈ names', ProperName n) (h : root.below names = root.below names') :
    names = names' := by
  have hSame := congrArg components h
  rw [components_below hProper, components_below hProper'] at hSame
  have hInjective : Function.Injective Component.name := fun _ _ hName => Component.name.inj hName
  exact List.map_injective_iff.mpr hInjective (List.append_cancel_left hSame)

-- ---------------------------------------------------------------------------
-- The order below one root
-- ---------------------------------------------------------------------------

/-- The part of a name in the order of paths. -/
def nameKey (n : String) : List Nat := (Component.name n).key

/-- Names are in the order of their code points. -/
theorem nameKey_lt {m n : String} (h : m < n) : nameKey m < nameKey n := by
  show 3 :: m.toList.map Char.toNat < 3 :: n.toList.map Char.toNat
  rw [List.cons_lt_cons_iff]
  exact Or.inr ⟨rfl, List.map_lt (fun _ _ hChars => hChars) (String.lt_iff_toList_lt.mp h)⟩

theorem key_below (hProper : ∀ n ∈ names, ProperName n) :
    (root.below names).key = root.key ++ names.map nameKey := by
  rw [key, components_below hProper, List.map_append, List.map_map]
  rfl

theorem append_lt_append_left_iff {α : Type} [LinearOrder α] {front a b : List α} :
    front ++ a < front ++ b ↔ a < b := by
  induction front with
  | nil => rfl
  | cons x rest ih => simp [ih]

/-- Below one root paths are in the order of their names. -/
theorem key_below_lt_iff {names' : List String} (hProper : ∀ n ∈ names, ProperName n)
    (hProper' : ∀ n ∈ names', ProperName n) :
    (root.below names).key < (root.below names').key ↔
      names.map nameKey < names'.map nameKey := by
  rw [key_below hProper, key_below hProper', append_lt_append_left_iff]

/-- A path comes before everything below it. -/
theorem key_lt_below {n : String} (hProper : ∀ m ∈ n :: names, ProperName m) :
    root.key < (root.below (n :: names)).key := by
  rw [key_below hProper]
  refine lt_of_eq_of_lt (List.append_nil root.key).symm (append_lt_append_left_iff.mpr ?_)
  exact List.nil_lt_cons ..

-- ---------------------------------------------------------------------------
-- Size
-- ---------------------------------------------------------------------------

/-- A path grows with each name. -/
theorem size_join (dir : Path) {n : String} (hProper : ProperName n) :
    dir.text.utf8ByteSize < (dir.join ⟨n⟩).text.utf8ByteSize := by
  have hName : 0 < n.utf8ByteSize := by
    rw [Nat.pos_iff_ne_zero, Ne, String.utf8ByteSize_eq_zero_iff, ← String.toList_eq_nil_iff]
    exact hProper.notEmpty
  have hRelative := isAbsolute_of_proper hProper
  rw [join]
  split_ifs with hWhole hSlash
  · -- the directory is the empty path
    have hEmpty : dir.text = "" := by
      simpa [hRelative, String.isEmpty_iff] using hWhole
    rw [hEmpty]
    exact hName
  · show _ < (dir.text ++ n).utf8ByteSize
    rw [String.utf8ByteSize_append]
    omega
  · show _ < (dir.text ++ "/" ++ n).utf8ByteSize
    rw [String.utf8ByteSize_append, String.utf8ByteSize_append]
    omega

end Path

end LicenseAudit
