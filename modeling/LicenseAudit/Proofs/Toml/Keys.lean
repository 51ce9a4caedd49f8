import LicenseAudit.Proofs.Success
import LicenseAudit.Proofs.Toml.Reader
import Mathlib.Data.List.Nodup

/-!
# No key twice

A document that names a key of a table twice is refused, so that each of its tables is a map.

* `Value.Keyed`, `Node.Keyed`, `Entries.Keyed` — no table within has a key twice;
* `Reader.Yields` — what a reader makes has a property, if it does not fail.

## Results

* `Entries.keyed_within` — a change that keeps the keys of one table apart keeps those of all.
* `keyed_of_read` — no table of a document has a key twice.
-/

namespace LicenseAudit.Toml

-- ---------------------------------------------------------------------------
-- Values and nodes
-- ---------------------------------------------------------------------------

/-- Whether the value has no parts. -/
def Value.isScalar : Value → Bool
  | .array _ | .table _ => false
  | _ => true

/-- No table within the value has a key twice. -/
inductive Value.Keyed : Value → Prop
  | scalar {v : Value} (h : v.isScalar = true) : v.Keyed
  | array {items : List Value} (hItems : ∀ v ∈ items, v.Keyed) : (array items).Keyed
  | table {entries : List (String × Value)} (hKeys : (entries.map Prod.fst).Nodup)
      (hValues : ∀ e ∈ entries, e.2.Keyed) : (table entries).Keyed

/-- No table within the node has a key twice. -/
inductive Node.Keyed : Node → Prop
  | value {v : Value} (h : v.Keyed) : (value v).Keyed
  | table {origin : Origin} {entries : List (String × Node)}
      (hKeys : (entries.map Prod.fst).Nodup) (hNodes : ∀ e ∈ entries, e.2.Keyed) :
      (table origin entries).Keyed
  | tables {earlier : List (List (String × Node))} {latest : List (String × Node)}
      (hKeys : ∀ es ∈ earlier ++ [latest], (es.map Prod.fst).Nodup)
      (hNodes : ∀ es ∈ earlier ++ [latest], ∀ e ∈ es, e.2.Keyed) :
      (tables earlier latest).Keyed

/-- No key occurs twice, neither among the entries nor in a table within them. -/
structure Entries.Keyed (es : Entries) : Prop where
  keys  : (es.map Prod.fst).Nodup
  nodes : ∀ e ∈ es, e.2.Keyed

theorem entryValues_eq_map (es : Entries) :
    entryValues es = es.map fun e => (e.1, e.2.toValue) := by
  induction es with
  | nil => rw [entryValues, List.map_nil]
  | cons e rest ih => rw [entryValues, ih, List.map_cons]

theorem tableValues_eq_map (ts : List Entries) :
    tableValues ts = ts.map fun es => .table (entryValues es) := by
  induction ts with
  | nil => rw [tableValues, List.map_nil]
  | cons es rest ih => rw [tableValues, ih, List.map_cons]

/-- A table whose nodes stand for values without a key twice. -/
theorem keyed_entryValues {es : Entries} (hKeys : (es.map Prod.fst).Nodup)
    (hValues : ∀ e ∈ es, e.2.toValue.Keyed) : (Value.table (entryValues es)).Keyed := by
  rw [entryValues_eq_map]
  refine .table ?_ fun e hMem => ?_
  · rwa [List.map_map]
  · obtain ⟨e', hMem', rfl⟩ := List.mem_map.mp hMem
    exact hValues e' hMem'

theorem Node.Keyed.toValue {n : Node} (h : n.Keyed) : n.toValue.Keyed := by
  induction h with
  | value h => rwa [Node.toValue]
  | table hKeys _ ih =>
    rw [Node.toValue]
    exact keyed_entryValues hKeys ih
  | @tables earlier latest hKeys _ ih =>
    have hTables : (Node.tables earlier latest).toValue =
        .array ((earlier ++ [latest]).map fun es => .table (entryValues es)) := by
      rw [Node.toValue, tableValues_eq_map, List.map_append]
      rfl
    rw [hTables]
    refine .array fun v hMem => ?_
    obtain ⟨es, hMem', rfl⟩ := List.mem_map.mp hMem
    exact keyed_entryValues (hKeys es hMem') (ih es hMem')

theorem Entries.Keyed.toTable {es : Entries} (h : Keyed es) :
    (Value.table (entryValues es)).Keyed :=
  keyed_entryValues h.keys fun e hMem => (h.nodes e hMem).toValue

-- ---------------------------------------------------------------------------
-- A document that grows
-- ---------------------------------------------------------------------------

namespace Entries

variable {es es' : Entries} {key : String} {n : Node}

theorem keyed_nil : Keyed [] := ⟨List.nodup_nil, fun _ hMem => absurd hMem List.not_mem_nil⟩

/-- What stands under a key that is in use. -/
theorem Keyed.lookup (h : Keyed es) (hFound : es.lookup key = some n) : n.Keyed := by
  obtain ⟨before, after, rfl, -⟩ := List.lookup_eq_some_iff.mp hFound
  exact h.nodes (key, n) (by simp)

theorem Keyed.replace (h : Keyed es) (hNode : n.Keyed) : Keyed (es.replace key n) := by
  constructor
  · have hKeys : (es.replace key n).map Prod.fst = es.map Prod.fst := by
      rw [Entries.replace, List.map_map]
      refine List.map_congr_left fun e _ => ?_
      show (if e.1 = key then (key, n) else e).1 = e.1
      split
      · rename_i hSame
        exact hSame.symm
      · rfl
    rw [hKeys]
    exact h.keys
  · intro e hMem
    obtain ⟨e', hMem', rfl⟩ := List.mem_map.mp hMem
    split
    · exact hNode
    · exact h.nodes e' hMem'

/-- A key that is not in use is added. -/
theorem Keyed.add (h : Keyed es) (hFree : es.lookup key = none) (hNode : n.Keyed) :
    Keyed (es ++ [(key, n)]) := by
  constructor
  · rw [List.map_append, List.nodup_append]
    refine ⟨h.keys, List.nodup_singleton key, fun k hMem k' hMem' => ?_⟩
    obtain ⟨e, hEntry, rfl⟩ := List.mem_map.mp hMem
    obtain rfl : k' = key := List.mem_singleton.mp hMem'
    have hOther := List.lookup_eq_none_iff.mp hFree e hEntry
    exact fun hSame => absurd hSame.symm (by simpa using hOther)
  · intro e hMem
    rcases List.mem_append.mp hMem with hOld | hNew
    · exact h.nodes e hOld
    · rw [List.mem_singleton.mp hNew]
      exact hNode

theorem Keyed.toNode (h : Keyed es) (origin : Origin) : (Node.table origin es).Keyed :=
  .table h.keys h.nodes

theorem keyed_of_table {origin : Origin} (h : (Node.table origin es).Keyed) : Keyed es := by
  cases h with
  | table hKeys hNodes => exact ⟨hKeys, hNodes⟩

theorem keyed_tables_iff {earlier : List Entries} :
    (Node.tables earlier es).Keyed ↔ (∀ t ∈ earlier, Keyed t) ∧ Keyed es := by
  constructor
  · intro h
    cases h with
    | tables hKeys hNodes =>
      refine ⟨fun t hMem => ?_, ?_⟩
      · have hMem' := List.mem_append_left [es] hMem
        exact ⟨hKeys t hMem', hNodes t hMem'⟩
      · have hMem' := List.mem_append_right earlier (List.mem_singleton_self es)
        exact ⟨hKeys es hMem', hNodes es hMem'⟩
  · rintro ⟨hEarlier, hLatest⟩
    have hAll : ∀ t ∈ earlier ++ [es], Keyed t := by
      intro t hMem
      rcases List.mem_append.mp hMem with hOld | hNew
      · exact hEarlier t hOld
      · rw [List.mem_singleton.mp hNew]
        exact hLatest
    exact .tables (fun t hMem => (hAll t hMem).keys) fun t hMem => (hAll t hMem).nodes

/-- A change that keeps the keys of one table apart keeps those of all. -/
theorem keyed_within {dotted : Bool} {change : Origin → Entries → Except TomlError Entries}
    (hChange : ∀ origin inner inner', Keyed inner → change origin inner = .ok inner' →
      Keyed inner') {origin : Origin} {path : List String} (h : Keyed es)
    (hWithin : within dotted change origin path es = .ok es') : Keyed es' := by
  induction path generalizing origin es es' with
  | nil => exact hChange origin es es' h hWithin
  | cons key path ih =>
    rw [within] at hWithin
    split at hWithin
    · rename_i hFree
      obtain ⟨inner, hInner, hRest⟩ := bind_eq_ok_iff.mp hWithin
      cases hRest
      exact h.add hFree ((ih keyed_nil hInner).toNode _)
    · rename_i origin' known hFound
      split at hWithin
      · cases hWithin
      · obtain ⟨inner, hInner, hRest⟩ := bind_eq_ok_iff.mp hWithin
        cases hRest
        exact h.replace ((ih (keyed_of_table (h.lookup hFound)) hInner).toNode _)
    · rename_i earlier latest hFound
      obtain ⟨hEarlier, hLatest⟩ := keyed_tables_iff.mp (h.lookup hFound)
      split at hWithin
      · cases hWithin
      · obtain ⟨inner, hInner, hRest⟩ := bind_eq_ok_iff.mp hWithin
        cases hRest
        exact h.replace (keyed_tables_iff.mpr ⟨hEarlier, ih hLatest hInner⟩)
    · cases hWithin

theorem keyed_addValue {path : List String} {v : Value} (h : Keyed es) (hValue : v.Keyed)
    (hAdd : addValue path key v es = .ok es') : Keyed es' := by
  refine keyed_within (fun origin inner inner' hInner hChange => ?_) h hAdd
  split at hChange
  · cases hChange
  split at hChange
  · cases hChange
  · rename_i hFree
    cases hChange
    rw [Option.not_isSome_iff_eq_none] at hFree
    exact hInner.add hFree (.value hValue)

theorem keyed_openTable {path : List String} (h : Keyed es)
    (hOpen : openTable path key es = .ok es') : Keyed es' := by
  refine keyed_within (fun _ inner inner' hInner hChange => ?_) h hOpen
  split at hChange
  · rename_i hFree
    cases hChange
    exact hInner.add hFree (keyed_nil.toNode _)
  · rename_i known hFound
    cases hChange
    exact hInner.replace ((keyed_of_table (hInner.lookup hFound)).toNode _)
  · cases hChange

theorem keyed_openElement {path : List String} (h : Keyed es)
    (hOpen : openElement path key es = .ok es') : Keyed es' := by
  refine keyed_within (fun _ inner inner' hInner hChange => ?_) h hOpen
  split at hChange
  · rename_i hFree
    cases hChange
    exact hInner.add hFree
      (keyed_tables_iff.mpr ⟨fun _ hMem => absurd hMem List.not_mem_nil, keyed_nil⟩)
  · rename_i earlier latest hFound
    cases hChange
    obtain ⟨hEarlier, hLatest⟩ := keyed_tables_iff.mp (hInner.lookup hFound)
    refine hInner.replace (keyed_tables_iff.mpr ⟨fun t hMem => ?_, keyed_nil⟩)
    rcases List.mem_append.mp hMem with hOld | hNew
    · exact hEarlier t hOld
    · rw [List.mem_singleton.mp hNew]
      exact hLatest
  · cases hChange

end Entries

namespace Document

variable {d d' : Document} {path : List String}

theorem keyed_addValue {v : Value} (h : Entries.Keyed d.entries) (hValue : v.Keyed)
    (hAdd : d.addValue path v = .ok d') : Entries.Keyed d'.entries := by
  unfold addValue at hAdd
  split at hAdd
  · cases hAdd
  · obtain ⟨entries, hEntries, hRest⟩ := bind_eq_ok_iff.mp hAdd
    cases hRest
    exact Entries.keyed_within
      (fun _ _ _ hInner hChange => Entries.keyed_addValue hInner hValue hChange) h hEntries

theorem keyed_openTable {element : Bool} (h : Entries.Keyed d.entries)
    (hOpen : d.openTable path element = .ok d') : Entries.Keyed d'.entries := by
  unfold openTable at hOpen
  split at hOpen
  · cases hOpen
  · simp only at hOpen
    split at hOpen
    · obtain ⟨entries, hEntries, hRest⟩ := bind_eq_ok_iff.mp hOpen
      cases hRest
      exact Entries.keyed_openElement h hEntries
    · obtain ⟨entries, hEntries, hRest⟩ := bind_eq_ok_iff.mp hOpen
      cases hRest
      exact Entries.keyed_openTable h hEntries

end Document

-- ---------------------------------------------------------------------------
-- Readers
-- ---------------------------------------------------------------------------

namespace Scalar

variable {text : List Char} {v : Value}

theorem isScalar_of_radixInteger? {base : Nat} (h : radixInteger? base text = some v) :
    v.isScalar = true := by
  unfold radixInteger? at h
  simp only at h
  split at h
  · cases h
    rfl
  · cases h

theorem isScalar_of_decimal? {negative : Bool} (h : decimal? negative text = some v) :
    v.isScalar = true := by
  unfold decimal? at h
  split at h
  · cases h
  split at h
  · cases h
  split at h
  · cases h
    rfl
  · split at h
    · cases h
    simp only at h
    split at h
    · cases h
      rfl
    split at h
    · obtain ⟨e, -, rfl⟩ := Option.map_eq_some_iff.mp h
      rfl
    · cases h
  · split at h
    · obtain ⟨e, -, rfl⟩ := Option.map_eq_some_iff.mp h
      rfl
    · cases h

theorem isScalar_of_signed? {negative : Bool} (h : signed? negative text = some v) :
    v.isScalar = true := by
  unfold signed? at h
  split at h
  · cases h
    rfl
  · exact isScalar_of_decimal? h

/-- A scalar without quotes stands for a value without parts. -/
theorem isScalar_of_read? (h : read? text = some v) : v.isScalar = true := by
  unfold read? at h
  split at h
  · cases h
    rfl
  split at h
  · exact isScalar_of_radixInteger? h
  · exact isScalar_of_radixInteger? h
  · exact isScalar_of_radixInteger? h
  · exact isScalar_of_signed? h
  · exact isScalar_of_signed? h
  · split at h
    · cases h
      rfl
    split at h
    · cases h
      rfl
    · exact isScalar_of_signed? h

end Scalar

namespace Reader

variable {α β : Type} {P : α → Prop} {Q : β → Prop}

/-- What the reader makes has the property, if it does not fail. -/
def Yields (r : Reader α) (P : α → Prop) : Prop := ∀ cs a rest, r.run cs = .ok (a, rest) → P a

theorem yields_pure {a : α} (h : P a) : Yields (pure a) P := by
  intro cs b rest hRun
  cases hRun
  exact h

theorem yields_throw (e : TomlError) : Yields (throw e) P := by
  intro cs a rest hRun
  cases hRun

theorem yields_lift {x : Except TomlError α} (h : ∀ a, x = .ok a → P a) :
    Yields (liftM x) P := by
  intro cs a rest hRun
  cases x with
  | error e => cases hRun
  | ok b =>
    cases hRun
    exact h a rfl

theorem Yields.bind {r : Reader α} {f : α → Reader β} (hFirst : Yields r P)
    (hSecond : ∀ a, P a → Yields (f a) Q) : Yields (r >>= f) Q := by
  intro cs b rest hRun
  obtain ⟨a, mid, hRun₁, hRun₂⟩ := run_bind_eq_ok hRun
  exact hSecond a (hFirst cs a mid hRun₁) mid b rest hRun₂

/-- Whatever the first reader makes. -/
theorem yields_bind {r : Reader α} {f : α → Reader β} (h : ∀ a, Yields (f a) Q) :
    Yields (r >>= f) Q :=
  Yields.bind (P := fun _ => True) (fun _ _ _ _ => trivial) fun a _ => h a

theorem yields_foldlM {f : β → α → Reader β} {b : β} {l : List α} (hStart : Q b)
    (h : ∀ b, Q b → ∀ a ∈ l, Yields (f b a) Q) : Yields (l.foldlM f b) Q := by
  induction l generalizing b with
  | nil => exact yields_pure hStart
  | cons a l ih =>
    rw [List.foldlM_cons]
    exact (h b hStart a List.mem_cons_self).bind fun b' hNext =>
      ih hNext fun b'' hLater a' hMem => h b'' hLater a' (List.mem_cons_of_mem a hMem)

theorem yields_separated {close : Char} {unclosed : TomlError} {element : Reader α}
    (h : Yields element P) (n : Nat) :
    Yields (separated close unclosed element n) fun as => ∀ a ∈ as, P a := by
  induction n with
  | zero => exact yields_throw _
  | succ n ih =>
    refine yields_bind fun _ => yields_bind fun closed => ?_
    cases closed with
    | true => exact yields_pure fun a hMem => absurd hMem List.not_mem_nil
    | false =>
      refine h.bind fun first hFirst => yields_bind fun _ => yields_bind fun more => ?_
      cases more with
      | true =>
        exact ih.bind fun rest hRest => yields_pure (List.forall_mem_cons.mpr ⟨hFirst, hRest⟩)
      | false =>
        refine yields_bind fun closed => ?_
        cases closed with
        | true => exact yields_pure (List.forall_mem_singleton.mpr hFirst)
        | false => exact yields_throw _

theorem yields_keyValue {value : Reader Value} (h : Yields value Value.Keyed) :
    Yields (keyValue value) fun pair => pair.2.Keyed := by
  refine yields_bind fun path => yields_bind fun found => ?_
  cases found with
  | false => exact yields_throw _
  | true => exact yields_bind fun _ => h.bind fun v hValue => yields_pure hValue

theorem yields_inlineTable {value : Reader Value} (h : Yields value Value.Keyed) :
    Yields (inlineTable value) Value.Keyed := by
  refine yields_bind fun cs => (yields_separated (yields_keyValue h) _).bind fun pairs hPairs => ?_
  refine (yields_foldlM (Q := fun d => Entries.Keyed d.entries) Entries.keyed_nil ?_).bind
    fun d hDocument => yields_pure hDocument.toTable
  intro d hDocument pair hMem
  exact yields_lift fun d' => Document.keyed_addValue hDocument (hPairs pair hMem)

theorem yields_scalar : Yields scalar Value.Keyed := by
  refine yields_bind fun cs => ?_
  cases Scalar.cut cs with
  | mk text rest =>
    simp only
    split
    · exact yields_throw _
    · refine yields_bind fun _ => ?_
      split
      · rename_i v hRead
        exact yields_pure (.scalar (Scalar.isScalar_of_read? hRead))
      · exact yields_throw _

theorem yields_valueOf {nested? : Option (Reader Value)}
    (h : ∀ r ∈ nested?, Yields r Value.Keyed) : Yields (valueOf nested?) Value.Keyed := by
  refine yields_bind fun found => ?_
  cases found with
  | true => exact yields_bind fun s => yields_pure (.scalar rfl)
  | false =>
    refine yields_bind fun found => ?_
    cases found with
    | true => exact yields_bind fun s => yields_pure (.scalar rfl)
    | false =>
      refine yields_bind fun found => ?_
      cases found with
      | true =>
        cases nested? with
        | none => exact yields_throw _
        | some nested =>
          refine yields_bind fun cs => ?_
          exact (yields_separated (h nested rfl) _).bind fun items hItems =>
            yields_pure (.array hItems)
      | false =>
        refine yields_bind fun found => ?_
        cases found with
        | true =>
          cases nested? with
          | none => exact yields_throw _
          | some nested => exact yields_inlineTable (h nested rfl)
        | false => exact yields_scalar

theorem yields_value (depth : Nat) : Yields (value depth) Value.Keyed := by
  induction depth with
  | zero =>
    refine yields_valueOf fun r hMem => ?_
    cases hMem
  | succ depth ih =>
    refine yields_valueOf fun r hMem => ?_
    obtain rfl : value depth = r := Option.some.inj hMem
    exact ih

/-- What a statement adds to a document without a key twice. -/
theorem yields_statement {d : Document} (h : Entries.Keyed d.entries) :
    Yields (statement d) fun d' => Entries.Keyed d'.entries := by
  refine yields_bind fun isHeader => ?_
  cases isHeader with
  | true =>
    refine yields_bind fun element => yields_bind fun path => yields_bind fun closed => ?_
    cases closed with
    | false => exact yields_throw _
    | true =>
      cases element with
      | false => exact yields_lift fun d' => Document.keyed_openTable h
      | true =>
        refine yields_bind fun closed => ?_
        cases closed with
        | false => exact yields_throw _
        | true => exact yields_lift fun d' => Document.keyed_openTable h
  | false =>
    exact (yields_keyValue (yields_value _)).bind fun pair hValue =>
      yields_lift fun d' => Document.keyed_addValue h hValue

theorem yields_statements {d : Document} (h : Entries.Keyed d.entries) (n : Nat) :
    Yields (statements d n) fun d' => Entries.Keyed d'.entries := by
  induction n generalizing d with
  | zero => exact yields_pure h
  | succ n ih =>
    refine yields_bind fun _ => yields_bind fun cs => ?_
    split
    · exact yields_pure h
    · exact (yields_statement h).bind fun d' hNext => yields_bind fun _ => ih hNext

end Reader

/-- No table of a document has a key twice. -/
theorem keyed_of_read {text : String} {entries : List (String × Value)}
    (h : read text = .ok entries) : (Value.table entries).Keyed := by
  obtain ⟨⟨d, rest⟩, hRun, hRest⟩ := bind_eq_ok_iff.mp h
  cases hRest
  exact (Reader.yields_statements Entries.keyed_nil _ _ d rest hRun).toTable

end LicenseAudit.Toml
