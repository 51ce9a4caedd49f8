import LicenseAudit.Path.Basic

/-!
# Paths relative to a root

Findings are shown relative to the root of the tree that is examined.

* `Path.relativeTo?` — the steps that lead from a base directory to a path, read off the two
  component lists;
* `Path.shownFrom` — the text shown for a path: its relative form if it lies below the root,
  else the path as it was written.
-/

namespace LicenseAudit.Path

/-- The steps from a base directory to a path, component by component. `fresh` says that all
components so far were equal; only then are equal components skipped. A base component `.`
is taken for no step, and from a `..` in the base there is no way back. -/
def stepsFrom (fresh : Bool) : List Component → List Component → Option (List Component)
  | [], [] => some []
  | a :: as, [] => some (a :: as)
  | [], _ :: bs => (stepsFrom false [] bs).map (.up :: ·)
  | a :: as, b :: bs =>
    if fresh && a == b then stepsFrom true as bs
    else if b = .here then (stepsFrom false as bs).map (a :: ·)
    else if b = .up then none
    else some (.up :: bs.map (fun _ => .up) ++ a :: as)

/-- The path as seen from a base directory, if there is a way. -/
def relativeTo? (p base : Path) : Option Path :=
  if p.isAbsolute == base.isAbsolute then
    (stepsFrom true p.components base.components).map ofComponents
  else if p.isAbsolute then some p
  else none

/-- The text that stands for a path in output about the tree at `root`: the relative form when
there is one that is not empty and does not leave the root, else the path itself. -/
def shownFrom (p root : Path) : String :=
  match p.relativeTo? root with
  | some relative =>
    if relative.text.isEmpty || relative.components.head? == some .up then p.text
    else relative.text
  | none => p.text

end LicenseAudit.Path
