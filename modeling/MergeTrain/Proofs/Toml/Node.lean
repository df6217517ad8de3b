import Mathlib.Data.List.Basic
import MergeTrain.Proofs.Keyed
import MergeTrain.Toml.Reader

/-!
# Documents being written

While the statements of a document are performed, only the table that was made last and the tables
around it change, and each of these is the last entry of the next. A document being written is
therefore a way of frames, each with the entries that stand before the table it holds, and the
entries of the table at the end of the way. A statement about that table changes these entries and
leaves the frames as they are.

A table with neither a header nor values of its own is not written: it is there only once a
statement has passed through it. `Frame.Shows` does not tell such a table from one that is missing,
and this is all that the first statement in it needs.

## Main definitions

* `Frame` — a table on the way, with the entries before it.
* `Frame.plug` — the document, from the way and the entries at its end.
* `Frame.Shows` — a document with such a table, or with none if the table is empty.

## Main results

* `Frame.editAt_plug` — a change at the path of the way changes the entries at its end.
* `Frame.Shows.of_missing` — a table that is passed through need not be there.
* `Statement.perform?_assign`, `Statement.perform?_table` — what a value and a header do.
-/

namespace MergeTrain.Toml

/-! ### The entry that was made last -/

section Last

variable {key : String} {entries : Entries} (h : key ∉ entries.map Prod.fst)
include h

theorem lookup_append_singleton (node : Node) :
    (entries ++ [(key, node)]).lookup key = some node := by
  simp [List.lookup_append, lookup_eq_none_iff_not_mem.mpr h]

theorem replace_append_singleton (node other : Node) :
    replace key node (entries ++ [(key, other)]) = entries ++ [(key, node)] := by
  have hsame : entries.map (fun e => if e.1 = key then (key, node) else e) = entries := by
    refine (List.map_congr_left fun e he => ?_).trans (List.map_id entries)
    have hne : e.1 ≠ key := fun heq => h (heq ▸ List.mem_map_of_mem he)
    simp [hne]
  simp [replace, hsame]

variable (change : Origin → Entries → Option Entries) (path : List String) (origin : Origin)

/-- A change in a table that is not there yet. -/
theorem editAt_of_not_mem :
    editAt false change (key :: path) origin entries =
      (editAt false change path .passed []).map fun inner =>
        entries ++ [(key, .table .passed inner)] := by
  rw [editAt, lookup_eq_none_iff_not_mem.mpr h]
  cases hchange : editAt false change path .passed [] <;> simp [hchange]

/-- A change in the table that was made last. -/
theorem editAt_append_singleton (made : Origin) (inner : Entries) :
    editAt false change (key :: path) origin (entries ++ [(key, .table made inner)]) =
      (editAt false change path made inner).map fun inner =>
        entries ++ [(key, .table made inner)] := by
  rw [editAt, lookup_append_singleton h]
  cases hchange : editAt false change path made inner <;>
    simp [hchange, replace_append_singleton h]

theorem openTable_of_not_mem :
    openTable key origin entries = some (entries ++ [(key, .table .header [])]) := by
  rw [openTable, lookup_eq_none_iff_not_mem.mpr h]

theorem assignAt_of_not_mem (v : Toml) (horigin : origin ≠ .dotted) :
    assignAt [] key v origin entries = some (entries ++ [(key, .value v)]) := by
  simp [assignAt, editAt, assign, horigin, lookup_eq_none_iff_not_mem.mpr h]

end Last

theorem editAt_append (dotted : Bool) (change : Origin → Entries → Option Entries)
    (path more : List String) (origin : Origin) (entries : Entries) :
    editAt dotted change (path ++ more) origin entries =
      editAt dotted (editAt dotted change more) path origin entries := by
  induction path generalizing origin entries with
  | nil => rfl
  | cons key path ih => simp only [List.cons_append, editAt, ih]

/-! ### The way to the table that is being written -/

/-- A table that holds the one that is being written, with the entries that stand before it. -/
structure Frame where
  before : Entries
  key : String
  /-- Whether the table has a header, and is not only passed through. -/
  headed : Bool
  fresh : key ∉ before.map Prod.fst

namespace Frame

/-- How the table came to be. -/
def origin (f : Frame) : Origin :=
  if f.headed then .header else .passed

theorem origin_ne_dotted (f : Frame) : f.origin ≠ .dotted := by
  unfold origin
  split <;> decide

/-- The path to the table. -/
def path (way : List Frame) : List String :=
  way.map key

@[simp] theorem path_append_singleton (way : List Frame) (f : Frame) :
    path (way ++ [f]) = path way ++ [f.key] := by
  simp [path]

/-- The document in which the table has given entries. -/
def plug : List Frame → Entries → Entries
  | [], entries => entries
  | f :: way, entries => f.before ++ [(f.key, .table f.origin (plug way entries))]

/-- How the table at the end of a way came to be, given how the one at its start did. -/
def originAt : Origin → List Frame → Origin
  | start, [] => start
  | _, f :: way => originAt f.origin way

theorem originAt_ne_dotted {start : Origin} (hstart : start ≠ .dotted) (way : List Frame) :
    originAt start way ≠ .dotted := by
  induction way generalizing start with
  | nil => exact hstart
  | cons f way ih => exact ih f.origin_ne_dotted

theorem originAt_append_singleton (start : Origin) (way : List Frame) (f : Frame) :
    originAt start (way ++ [f]) = f.origin := by
  induction way generalizing start with
  | nil => rfl
  | cons g way ih => exact ih g.origin

theorem plug_append_singleton (way : List Frame) (f : Frame) (entries : Entries) :
    plug (way ++ [f]) entries = plug way (f.before ++ [(f.key, .table f.origin entries)]) := by
  induction way with
  | nil => rfl
  | cons g way ih => simp [plug, ih]

theorem editAt_plug (change : Origin → Entries → Option Entries) (way : List Frame)
    (start : Origin) (entries : Entries) :
    editAt false change (path way) start (plug way entries) =
      (change (originAt start way) entries).map (plug way) := by
  induction way generalizing start with
  | nil => simp [path, plug, editAt, originAt]
  | cons f way ih =>
    rw [path, List.map_cons, plug, editAt_append_singleton f.fresh, ← path, ih, Option.map_map]
    rfl

/-- A document in which the table at the end of a way has given entries, as far as changes to it
can tell: a table without entries and without a header may be missing. -/
def Shows (way : List Frame) (entries root : Entries) : Prop :=
  ∀ change : Origin → Entries → Option Entries,
    editAt false change (path way) .header root =
      (change (originAt .header way) entries).map (plug way)

theorem shows_plug (way : List Frame) (entries : Entries) : Shows way entries (plug way entries) :=
  fun change => editAt_plug change way .header entries

theorem Shows.of_missing {way : List Frame} {f : Frame} {root : Entries}
    (h : Shows way f.before root) (hf : f.headed = false) : Shows (way ++ [f]) [] root := by
  intro change
  have horigin : f.origin = .passed := by simp [Frame.origin, hf]
  rw [path, List.map_append, ← path, editAt_append, h, List.map_singleton,
    editAt_of_not_mem f.fresh, originAt_append_singleton, horigin, Option.map_map]
  simp only [editAt]
  congr 1
  funext entries
  rw [plug_append_singleton, horigin]
  rfl

end Frame

/-! ### Statements about the table that is being written -/

namespace Statement

variable {way : List Frame} {entries root : Entries} (h : Frame.Shows way entries root)
include h

theorem perform?_assign {key : String} (hkey : key ∉ entries.map Prod.fst) (v : Toml) :
    perform? (Frame.path way, root) (.assign [] key v) =
      some (Frame.path way, Frame.plug way (entries ++ [(key, .value v)])) := by
  have horigin : Frame.originAt .header way ≠ .dotted := Frame.originAt_ne_dotted (by decide) way
  simp [perform?, h (assignAt [] key v), assignAt_of_not_mem hkey _ _ horigin]

theorem perform?_table {key : String} (hkey : key ∉ entries.map Prod.fst)
    (current : List String) :
    perform? (current, root) (.table (Frame.path way) key) =
      some (Frame.path way ++ [key],
        Frame.plug way (entries ++ [(key, .table .header [])])) := by
  simp [perform?, h (openTable key), openTable_of_not_mem hkey]

end Statement

end MergeTrain.Toml
