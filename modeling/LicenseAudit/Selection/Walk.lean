import LicenseAudit.Selection.Filter

/-!
# Walking a tree

A walk visits a tree depth first, the entries of each directory in the order of their names,
and lists what the selection accepts. It never follows symbolic links below its root; a root
that is itself a link to a directory is entered, and the link is still an entry like any other.

* `walk` — the list of the accepted paths, or the first failure;
* `WalkError` — where the walk failed.
-/

namespace LicenseAudit

/-- A failure of a walk: from where it started and where it failed. -/
structure WalkError where
  root : Path
  path : Path
  cause : IoError
deriving DecidableEq

namespace WalkError

/-- What failed, without the root. -/
def detail (e : WalkError) : String :=
  "IO error for operation on " ++ e.path.text ++ ": " ++ e.cause.message

/-- The text shown for a failed walk. -/
def message (e : WalkError) : String :=
  "Failed to walk " ++ e.root.text ++ ": " ++ e.detail

end WalkError

namespace Walk

/-- The answer of a part of a walk: the accepted paths, or the path that failed. -/
abbrev Answer := Except (Path × IoError) (List Path)

/-- A path as the only answer, if the file filter accepts it. -/
def report (selection : Selection) (p : Path) : Program (List Path) := do
  return if ← selection.includes p then [p] else []

/-- Visits entries in order and joins the answers; the first failure ends the visit. -/
def visitAll {α : Type} (visit : α → Program Answer) : List α → Program Answer
  | [] => return .ok []
  | entry :: rest => do
    match ← visit entry with
    | .error e => return .error e
    | .ok found =>
      match ← visitAll visit rest with
      | .error e => return .error e
      | .ok more => return .ok (found ++ more)

/-- Lists the accepted paths inside a directory. The first argument bounds the depth; a path
grows by two bytes or more at each level, and none may reach the path limit. -/
def inside (selection : Selection) : Nat → Path → Program Answer
  | 0, dir => return .error (dir, .nameTooLong)
  | depth + 1, dir => do
    match ← Program.list dir with
    | .error e => return .error (dir, e)
    | .ok entries =>
      visitAll (fun (name, kind) => do
          let p := dir.join ⟨name⟩
          if kind = .directory then
            if ← selection.descends p then inside selection depth p else return .ok []
          else return .ok (← report selection p))
        entries

/-- Lists the accepted paths at and below the root. -/
def fromRoot (root : Path) (selection : Selection) : Program Answer := do
  match ← Program.linkStatus root with
  | .error e => return .error (root, e)
  | .ok s =>
    match s.kind with
    | .directory =>
      if ← selection.descends root then inside selection pathLimit root else return .ok []
    | .file => return .ok (← report selection root)
    | .link =>
      match ← Program.status root with
      | .error e => return .error (root, e)
      | .ok target =>
        let self ← report selection root
        if target.kind = .directory then
          match ← inside selection pathLimit root with
          | .error e => return .error e
          | .ok found => return .ok (self ++ found)
        else return .ok self

end Walk

/-- Lists the accepted paths at and below a root, in the order of the walk. -/
def walk (root : Path) (selection : Selection) : Program (Except WalkError (List Path)) := do
  match ← Walk.fromRoot root selection with
  | .ok found => return .ok found
  | .error (path, cause) => return .error ⟨root, path, cause⟩

end LicenseAudit
