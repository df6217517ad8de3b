import Mathlib.Tactic.Tauto
import MergeTrain.Proofs.Toml.Node
import MergeTrain.Proofs.Toml.Statement

/-!
# Documents read back

A document is written table by table, first the values of a table and then the tables in it, and
is read by performing its statements one after the other. What is written is the outline of the
document: a group of statements for each table that has something to write, with an empty line
between two groups.

Reading keeps the order in which keys are made, and values stand before tables in what is written.
A document comes back with its entries in their order only if they stand so in each of its tables
already: such documents are the tabular ones. Tables in arrays are not among them.

## Main definitions

* `outline` — the statements of a document, in groups.
* `Tabular` — documents with values first and tables last, in each table.
* `Enters` — that some statements enter a value under a new key.

## Main results

* `blocks_eq`, `laid_render` — a document is written as its outline.
* `Tabular.enters`, `Tabular.perform_outline` — its outline makes it.
* `Tabular.ofText?_render` — a document of tables is read back.
-/

namespace MergeTrain.Toml

open Text Reader

/-! ### The statements of a document -/

/-- The header of the table at a path. The document itself has none. -/
def heading (path : List String) : List Statement :=
  match path.getLast? with
  | none => []
  | some key => [.table path.dropLast key]

/-- The statements for the values among some entries. -/
def assignments (entries : List (String × Toml)) : List Statement :=
  (entries.filter fun e => !isTable e.2).map fun e => .assign [] e.1 e.2

/-- The statements for a table without the tables in it, unless that leaves nothing to write. -/
def group (path : List String) (entries : List (String × Toml)) : List (List Statement) :=
  if (assignments entries).isEmpty && (path.isEmpty || !entries.isEmpty) then []
  else [heading path ++ assignments entries]

mutual

/-- The statements for a table and the tables in it, a group for each. -/
def outline (path : List String) : Toml → List (List Statement)
  | .table entries => group path entries ++ innerOutline path entries
  | _ => []

/-- The statements for the tables among some entries. -/
def innerOutline (path : List String) : List (String × Toml) → List (List Statement)
  | [] => []
  | (key, v) :: rest => outline (path ++ [key]) v ++ innerOutline path rest

end

/-- A group of statements as written. -/
def groupText (sts : List Statement) : String :=
  String.ofList (sts.flatMap Statement.line)

@[simp] theorem heading_nil : heading [] = [] :=
  rfl

@[simp] theorem heading_append_singleton (path : List String) (key : String) :
    heading (path ++ [key]) = [.table path key] := by
  simp [heading]

theorem toList_headerText (path : List String) :
    (headerText path).toList = (heading path).flatMap Statement.line := by
  rcases List.eq_nil_or_concat path with rfl | ⟨path, key, rfl⟩
  · rfl
  · rw [List.concat_eq_append, heading_append_singleton, headerText]
    simp [Statement.line, dottedText]

theorem entryTexts_eq_map (entries : List (String × Toml)) :
    entryTexts entries = entries.map fun e => keyText e.1 ++ " = " ++ valueText e.2 := by
  induction entries with
  | nil => rfl
  | cons e entries ih => simp [entryTexts, ih]

theorem block_eq (path : List String) (entries : List (String × Toml)) :
    block path entries = (group path entries).map groupText := by
  have hown : (assignments entries).isEmpty = (entries.filter fun e => !isTable e.2).isEmpty := by
    simp [assignments]
  rw [block, group, hown]
  split
  · rfl
  · simp only [List.map_singleton, List.cons.injEq, and_true]
    rw [← String.toList_inj, groupText, String.toList_ofList, List.flatMap_append,
      String.toList_append, toList_headerText, String.toList_join, entryTexts_eq_map]
    simp [assignments, List.flatMap_map, Statement.line, dottedText_singleton]

mutual

theorem blocks_eq (path : List String) :
    ∀ v : Toml, blocks path v = (outline path v).map groupText
  | .table entries => by
    rw [blocks, outline, block_eq, innerBlocks_eq path entries, List.map_append]
  | .text _ | .integer _ | .bool _ | .other _ | .array _ => rfl

theorem innerBlocks_eq (path : List String) :
    ∀ entries : List (String × Toml),
      innerBlocks path entries = (innerOutline path entries).map groupText
  | [] => rfl
  | (key, v) :: rest => by
    rw [innerBlocks, innerOutline, blocks_eq (path ++ [key]) v, innerBlocks_eq path rest,
      List.map_append]

end

/-! ### Reading the statements -/

theorem Laid.append {group sts : List Statement} {s : List Char}
    (hgroup : ∀ st ∈ group, st.IsWritable) (h : Laid sts s) :
    Laid (group ++ sts) (group.flatMap Statement.line ++ s) := by
  induction group with
  | nil => exact h
  | cons st group ih =>
    obtain ⟨hst, hgroup⟩ := List.forall_mem_cons.mp hgroup
    rw [List.flatMap_cons, List.append_assoc]
    exact Laid.cons (show 0 ≤ 1 from Nat.zero_le 1) hst (ih hgroup)

/-- Groups with an empty line between any two, and with one before them or not. -/
theorem laid_intercalate {lines : Nat} (hlines : lines ≤ 1) (g : List Statement)
    (groups : List (List Statement))
    (hgroups : ∀ sts ∈ g :: groups, sts ≠ [] ∧ ∀ st ∈ sts, st.IsWritable) :
    Laid (g :: groups).flatten
      (List.replicate lines '\n' ++ ("\n".intercalate ((g :: groups).map groupText)).toList) := by
  induction groups generalizing g lines with
  | nil =>
    obtain ⟨hne, hg⟩ := hgroups g List.mem_cons_self
    obtain ⟨st, sts, rfl⟩ := List.exists_cons_of_ne_nil hne
    obtain ⟨hst, hsts⟩ := List.forall_mem_cons.mp hg
    simpa [groupText] using Laid.cons hlines hst (Laid.nil.append hsts)
  | cons next groups ih =>
    obtain ⟨⟨hne, hg⟩, hrest⟩ := List.forall_mem_cons.mp hgroups
    obtain ⟨st, sts, rfl⟩ := List.exists_cons_of_ne_nil hne
    obtain ⟨hst, hsts⟩ := List.forall_mem_cons.mp hg
    have hnext := ih (Nat.le_refl 1) next hrest
    simpa [groupText, String.intercalate_cons_cons] using
      Laid.cons hlines hst (hnext.append hsts)

theorem laid_render {v : Toml} (hv : ∀ g ∈ outline [] v, g ≠ [] ∧ ∀ st ∈ g, st.IsWritable) :
    Laid (outline [] v).flatten (render v).toList := by
  rw [render, blocks_eq]
  cases hgroups : outline [] v with
  | nil => exact .nil
  | cons g groups =>
    rw [hgroups] at hv
    exact laid_intercalate (Nat.zero_le 1) g groups hv

/-! ### Documents of tables -/

/-- The entries of a table whose values are written after their keys, with the tables among them
last and of the same kind. No key comes twice, and tables nest at most so deep. -/
inductive Tabular : Nat → List (String × Toml) → Prop
  | mk {depth : Nat} (own : List (String × Toml))
      (inner : List (String × List (String × Toml))) :
      (own.map Prod.fst ++ inner.map Prod.fst).Nodup → (∀ e ∈ own, IsValue e.2) →
        (∀ e ∈ inner, Tabular depth e.2) →
          Tabular (depth + 1) (own ++ inner.map fun e => (e.1, .table e.2))

theorem Tabular.of_values {own : List (String × Toml)} (hkeys : (own.map Prod.fst).Nodup)
    (hown : ∀ e ∈ own, IsValue e.2) (depth : Nat) : Tabular (depth + 1) own := by
  have htable : Tabular (depth + 1) _ := Tabular.mk own [] (by simpa using hkeys) hown (by simp)
  simpa using htable

theorem isTable_of_isValue {v : Toml} (hv : IsValue v) : isTable v = false := by
  cases v <;> first | rfl | exact hv.elim

section Split

variable {own : List (String × Toml)} (hown : ∀ e ∈ own, IsValue e.2)
  (inner : List (String × List (String × Toml)))
include hown

theorem assignments_append :
    assignments (own ++ inner.map fun e => (e.1, .table e.2)) =
      own.map fun e => .assign [] e.1 e.2 := by
  have hkept : own.filter (fun e => !isTable e.2) = own :=
    List.filter_eq_self.mpr fun e he => by simp [isTable_of_isValue (hown e he)]
  have hleft : (inner.map fun e => (e.1, Toml.table e.2)).filter (fun e => !isTable e.2) = [] := by
    rw [List.filter_eq_nil_iff, List.forall_mem_map]
    simp [isTable]
  rw [assignments, List.filter_append, hkept, hleft, List.append_nil]

theorem innerOutline_append (path : List String) :
    innerOutline path (own ++ inner.map fun e => (e.1, .table e.2)) =
      inner.flatMap fun e => outline (path ++ [e.1]) (.table e.2) := by
  induction own with
  | nil =>
    induction inner with
    | nil => rfl
    | cons e inner ih => simp_all [innerOutline]
  | cons e own ih =>
    obtain ⟨he, hown⟩ := List.forall_mem_cons.mp hown
    have hnone : outline (path ++ [e.1]) e.2 = [] := by
      cases hv : e.2 <;> first | rfl | exact (by rw [hv] at he; exact he.elim)
    rw [List.cons_append, innerOutline, hnone, List.nil_append, ih hown]

end Split

theorem mem_heading {path : List String} {st : Statement} (h : st ∈ heading path) :
    ∃ key, st = .table path.dropLast key ∧ path ≠ [] := by
  rcases List.eq_nil_or_concat path with rfl | ⟨path, key, rfl⟩
  · simp at h
  · rw [List.concat_eq_append] at h ⊢
    exact ⟨key, by simpa using h, by simp⟩

theorem heading_ne_nil {path : List String} (h : path ≠ []) : heading path ≠ [] := by
  rcases List.eq_nil_or_concat path with rfl | ⟨path, key, rfl⟩
  · contradiction
  · simp [List.concat_eq_append]

/-- The statements of a document can be written, and no group is empty. -/
theorem Tabular.isWritable {depth : Nat} {entries : List (String × Toml)}
    (h : Tabular depth entries) {path : List String} (hpath : path.length + depth ≤ depthLimit) :
    ∀ g ∈ outline path (.table entries), g ≠ [] ∧ ∀ st ∈ g, st.IsWritable := by
  induction h generalizing path with
  | @mk depth own inner _ hown _ ih =>
    rw [outline, innerOutline_append hown]
    intro g hg
    rcases List.mem_append.mp hg with hg | hg
    · rw [group, assignments_append hown] at hg
      split at hg
      · simp at hg
      next hwritten =>
        obtain rfl := List.mem_singleton.mp hg
        refine ⟨fun hnil => hwritten ?_, fun st hst => ?_⟩
        · obtain ⟨hheading, hvalues⟩ := List.append_eq_nil_iff.mp hnil
          have hpath : path = [] := by
            by_contra hne
            exact heading_ne_nil hne hheading
          simp [hpath, hvalues]
        · rcases List.mem_append.mp hst with hst | hst
          · obtain ⟨key, rfl, hne⟩ := mem_heading hst
            have hpos := List.length_pos_iff.mpr hne
            simp only [Statement.IsWritable, List.length_dropLast]
            omega
          · obtain ⟨e, he, rfl⟩ := List.mem_map.mp hst
            exact ⟨by decide, hown e he⟩
    · obtain ⟨e, he, hg⟩ := List.mem_flatMap.mp hg
      exact ih e he (by simp; omega) g hg

/-! ### Performing the statements -/

@[simp] theorem finished_append (entries more : Entries) :
    finished (entries ++ more) = finished entries ++ finished more := by
  induction entries with
  | nil => rfl
  | cons e entries ih => simp [finished, ih]

theorem finished_values (own : List (String × Toml)) :
    finished (own.map fun e => (e.1, .value e.2)) = own := by
  induction own with
  | nil => rfl
  | cons e own ih => simp [finished, Node.toToml, ih]

/-- The values of a table are entered one after the other. -/
theorem perform_assignments (way : List Frame) :
    ∀ (own : List (String × Toml)) (entries : Entries),
      (entries.map Prod.fst ++ own.map Prod.fst).Nodup →
      (own.map fun e => Statement.assign [] e.1 e.2).foldlM Statement.perform?
          (Frame.path way, Frame.plug way entries) =
        some (Frame.path way,
          Frame.plug way (entries ++ own.map fun e => (e.1, .value e.2))) := by
  intro own
  induction own with
  | nil => intro entries _; simp
  | cons e own ih =>
    intro entries hkeys
    have hfresh : e.1 ∉ entries.map Prod.fst := fun hmem =>
      List.disjoint_of_nodup_append hkeys hmem List.mem_cons_self
    have hnext := ih (entries ++ [(e.1, .value e.2)]) (by simpa using hkeys)
    simp [Statement.perform?_assign (Frame.shows_plug way entries) hfresh, hnext]

/-- What some statements do: they enter a value under a new key of the table at the end of a way. -/
def Enters (way : List Frame) (key : String) (v : Toml) (sts : List Statement) : Prop :=
  ∀ {entries root : Entries}, Frame.Shows way entries root → key ∉ entries.map Prod.fst →
    ∀ current : List String, ∃ (node : Node) (stop : List String), node.toToml = v ∧
      sts.foldlM Statement.perform? (current, root) =
        some (stop, Frame.plug way (entries ++ [(key, node)]))

/-- The tables in a table are entered one after the other, if each of them is. The first of them
makes the table if it is missing. -/
theorem perform_inner {way : List Frame} {inner : List (String × List (String × Toml))}
    (hinner : ∀ e ∈ inner,
      Enters way e.1 (.table e.2) (outline (Frame.path way ++ [e.1]) (.table e.2)).flatten)
    {entries root : Entries} (hshows : Frame.Shows way entries root)
    (hroot : inner = [] → root = Frame.plug way entries)
    (hkeys : (entries.map Prod.fst ++ inner.map Prod.fst).Nodup) (current : List String) :
    ∃ (nodes : Entries) (stop : List String),
      finished nodes = inner.map (fun e => (e.1, .table e.2)) ∧
      (inner.flatMap fun e =>
          outline (Frame.path way ++ [e.1]) (.table e.2)).flatten.foldlM Statement.perform?
          (current, root) =
        some (stop, Frame.plug way (entries ++ nodes)) := by
  induction inner generalizing entries root current with
  | nil => exact ⟨[], current, rfl, by simp [hroot rfl]⟩
  | cons e inner ih =>
    obtain ⟨hfirst, hinner⟩ := List.forall_mem_cons.mp hinner
    have hfresh : e.1 ∉ entries.map Prod.fst := fun hmem =>
      List.disjoint_of_nodup_append hkeys hmem List.mem_cons_self
    obtain ⟨node, middle, hnode, hmiddle⟩ := hfirst hshows hfresh current
    obtain ⟨nodes, stop, hnodes, hstop⟩ := ih hinner
      (Frame.shows_plug way (entries ++ [(e.1, node)])) (fun _ => rfl) (by simpa using hkeys) middle
    refine ⟨(e.1, node) :: nodes, stop, by simp [finished, hnode, hnodes], ?_⟩
    rw [List.flatMap_cons, List.flatten_append, List.foldlM_append, hmiddle]
    simpa using hstop

/-- A table of a document is entered under its key. -/
theorem Tabular.enters {depth : Nat} {table : List (String × Toml)} (h : Tabular depth table)
    (way : List Frame) (key : String) :
    Enters way key (.table table) (outline (Frame.path way ++ [key]) (.table table)).flatten := by
  induction h generalizing way key with
  | @mk depth own inner hkeys hown _ ih =>
    intro entries root hshows hfresh current
    rw [outline, innerOutline_append hown, group, assignments_append hown, List.flatten_append]
    by_cases hpassed : own = [] ∧ inner ≠ []
    · -- Nothing is written for the table itself: it is made on the way to the first one in it.
      obtain ⟨rfl, hne⟩ := hpassed
      let f : Frame := ⟨entries, key, false, hfresh⟩
      have hmissing : Frame.Shows (way ++ [f]) [] root := hshows.of_missing rfl
      obtain ⟨nodes, stop, hnodes, hstop⟩ := perform_inner (fun e he => ih e he (way ++ [f]) e.1)
        hmissing (absurd · hne) (by simpa using hkeys) current
      refine ⟨.table .passed nodes, stop, by simp [Node.toToml, hnodes], ?_⟩
      rw [Frame.plug_append_singleton] at hstop
      simpa [hne, f, Frame.origin] using hstop
    · let f : Frame := ⟨entries, key, true, hfresh⟩
      have hopen : Statement.perform? (current, root) (.table (Frame.path way) key) =
          some (Frame.path (way ++ [f]), Frame.plug (way ++ [f]) []) := by
        rw [Statement.perform?_table hshows hfresh, Frame.plug_append_singleton]
        simp [f, Frame.origin]
      have hown := perform_assignments (way ++ [f]) own [] (by simpa using hkeys.of_append_left)
      obtain ⟨nodes, stop, hnodes, hstop⟩ := perform_inner (fun e he => ih e he (way ++ [f]) e.1)
        (Frame.shows_plug (way ++ [f]) (own.map fun e => (e.1, .value e.2))) (fun _ => rfl)
        (by simpa [Function.comp_def] using hkeys) (Frame.path (way ++ [f]))
      refine ⟨.table .header (own.map (fun e => (e.1, .value e.2)) ++ nodes), stop,
        by simp [Node.toToml, hnodes, finished_values], ?_⟩
      have hgroup : ¬((own.map fun e => Statement.assign [] e.1 e.2).isEmpty &&
          ((Frame.path way ++ [key]).isEmpty ||
            !(own ++ inner.map fun e => (e.1, Toml.table e.2)).isEmpty)) = true := by
        simp
        tauto
      rw [if_neg hgroup, heading_append_singleton, List.flatten_singleton, List.foldlM_append,
        List.singleton_append, List.foldlM_cons, hopen, Option.bind_eq_bind, Option.bind_some, hown]
      simpa [Frame.plug_append_singleton, f, Frame.origin] using hstop

/-- The statements of a document make it from nothing. -/
theorem Tabular.perform_outline {depth : Nat} {entries : List (String × Toml)}
    (h : Tabular depth entries) :
    ∃ (root : Entries) (stop : List String), finished root = entries ∧
      (outline [] (.table entries)).flatten.foldlM Statement.perform? ([], []) =
        some (stop, root) := by
  obtain @⟨depth, own, inner, hkeys, hown, hinner⟩ := h
  have hgroup : (group [] (own ++ inner.map fun e => (e.1, .table e.2))).flatten =
      own.map fun e => .assign [] e.1 e.2 := by
    rw [group, assignments_append hown]
    cases own <;> simp
  have hvalues := perform_assignments [] own [] (by simpa using hkeys.of_append_left)
  obtain ⟨nodes, stop, hnodes, hstop⟩ := perform_inner
    (fun e he => (hinner e he).enters [] e.1)
    (Frame.shows_plug [] (own.map fun e => (e.1, .value e.2))) (fun _ => rfl)
    (by simpa [Function.comp_def] using hkeys) []
  refine ⟨own.map (fun e => (e.1, .value e.2)) ++ nodes, stop,
    by simp [finished_values, hnodes], ?_⟩
  rw [outline, innerOutline_append hown, List.flatten_append, hgroup, List.foldlM_append]
  simp only [Frame.path, Frame.plug, List.map_nil, List.nil_append] at hvalues hstop
  simpa [hvalues] using hstop

theorem Tabular.laid {entries : List (String × Toml)} (h : Tabular depthLimit entries) :
    Laid (outline [] (.table entries)).flatten (render (.table entries)).toList :=
  laid_render (h.isWritable (Nat.le_refl _))

/-- **A document of tables is read back.** -/
theorem Tabular.ofText?_render {entries : List (String × Toml)} (h : Tabular depthLimit entries) :
    ofText? (render (.table entries)) = some (.table entries) := by
  have hlaid := h.laid
  have hread := hlaid.run_readAll (Nat.lt_succ_of_le hlaid.length_le) []
  obtain ⟨root, stop, hroot, hperform⟩ := h.perform_outline
  simp [ofText?, hlaid.dropMark_eq, hread, hperform, hroot]

end MergeTrain.Toml
