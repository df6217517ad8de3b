import MergeTrain.Json.Reader
import MergeTrain.Proofs.Except
import MergeTrain.Proofs.Json.Token

/-!
# Values read back from texts

A value that is printed is read back: the values with one text, which leaves out numbers that are
kept as written, and strings that have no text.

The reader has a stack, and a value is read on top of whatever stands there. So the statement for
the induction is about any stack: after the text of a value the reader stands behind the value, with
the stack as it was. The items of an array and the entries of an object move on to the frame on top
of the stack, one after the other.

## Main definitions

* `IsPlain` — the values with one text.
* `readFrom` — a text read on from where the reader stands.

## Main results

* `readFrom_render` — a value inside of others.
* `read?_render` — a value is read back from its text.
-/

namespace MergeTrain.Json

variable {s rest : List Char} {state next : Goal × List Frame}

mutual

/-- A value that has one text, and so have the values in it. -/
def IsPlain : Json → Prop
  | .null => True
  | .bool _ => True
  | .int _ => True
  | .real _ => False
  | .string _ => True
  | .unreadable => False
  | .array items => ItemsPlain items
  | .object entries => EntriesPlain entries

/-- Items that have one text each. -/
def ItemsPlain : List Json → Prop
  | [] => True
  | v :: rest => IsPlain v ∧ ItemsPlain rest

/-- Entries whose values have one text each. -/
def EntriesPlain : List (String × Json) → Prop
  | [] => True
  | (_, v) :: rest => IsPlain v ∧ EntriesPlain rest

end

variable {α : Type} {encode : α → Json}

theorem isPlain_ofOption (h : ∀ a, IsPlain (encode a)) (value : Option α) :
    IsPlain (ofOption encode value) := by
  cases value with
  | none => trivial
  | some a => exact h a

theorem itemsPlain_map (h : ∀ a, IsPlain (encode a)) (values : List α) :
    ItemsPlain (values.map encode) := by
  induction values with
  | nil => trivial
  | cons a values ih => exact ⟨h a, ih⟩

theorem entriesPlain_map (h : ∀ a, IsPlain (encode a))
    (values : List (String × α)) :
    EntriesPlain (values.map fun e => (e.1, encode e.2)) := by
  induction values with
  | nil => trivial
  | cons e values ih => exact ⟨h e.2, ih⟩

/-- A text read on from where the reader stands. -/
def readFrom (state : Goal × List Frame) (s : List Char) : Option (Goal × List Frame) :=
  (tokens? s).bind (·.foldlM readStep state)

/-- A piece of a text that is one token. -/
theorem readFrom_token {t : Token} (h : tokens? s = (tokens? rest).map (t :: ·))
    (hstep : readStep state t = some next) : readFrom state s = readFrom next rest := by
  rw [readFrom, readFrom, h]
  cases tokens? rest with
  | none => rfl
  | some later =>
    show (t :: later).foldlM readStep state = later.foldlM readStep next
    rw [List.foldlM_cons, hstep]
    rfl

/-- A value may come next, where the reader stands. -/
def ExpectsValue (goal : Goal) (stack : List Frame) : Prop :=
  ∀ t, t ≠ .closeBracket → readStep (goal, stack) t = readValue stack t

theorem expectsValue_value (stack : List Frame) : ExpectsValue .value stack :=
  fun _ _ => rfl

theorem expectsValue_itemOrEnd (stack : List Frame) :
    ExpectsValue .itemOrEnd (.array [] :: stack) := by
  intro t ht
  cases t with
  | closeBracket => exact absurd rfl ht
  | _ => rfl

/-- The texts of parts after the first, each with a comma in front. -/
def followed (parts : List String) : List Char :=
  parts.flatMap fun s => ',' :: s.toList

theorem intercalate_map_toList (s : List Char) (parts : List String) :
    [','].intercalate (s :: parts.map String.toList) = s ++ followed parts := by
  induction parts generalizing s with
  | nil => simp [followed]
  | cons head parts ih =>
    rw [List.map_cons, List.intercalate_cons_cons, ih]
    simp [followed]

theorem toList_render_array (v : Json) (items : List Json) (rest : List Char) :
    (render (.array (v :: items))).toList ++ rest =
      '[' :: ((render v).toList ++ (followed (renderItems items) ++ ']' :: rest)) := by
  simp [render, renderItems, intercalate_map_toList]

theorem toList_render_object (key : String) (v : Json) (entries : List (String × Json))
    (rest : List Char) :
    (render (.object ((key, v) :: entries))).toList ++ rest =
      '\x7b' :: ((quoted key ++ ":" ++ render v).toList ++
        (followed (renderEntries entries) ++ '\x7d' :: rest)) := by
  simp [render, renderEntries, intercalate_map_toList]

theorem endsScalar_followed (parts : List String) (h : EndsScalar rest) :
    EndsScalar (followed parts ++ rest) := by
  cases parts with
  | nil => exact h
  | cons s parts => exact endsScalar_cons rfl rfl _

/-- The entries of an object, as the reader keeps them. -/
def keyed (entries : List (String × Json)) : List (Key × Json) :=
  entries.map fun e => (some e.1, e.2)

theorem objectOf_keyed (entries : List (String × Json)) :
    objectOf (keyed entries) = .object entries := by
  have h : (keyed entries).mapM (fun e => e.1.map fun key => (key, e.2)) = some entries := by
    induction entries with
    | nil => rfl
    | cons e entries ih =>
      rw [keyed, List.map_cons, List.mapM_cons, ← keyed, ih]
      rfl
  rw [objectOf, h]

/-- An entry is read if its value is. -/
theorem readFrom_entry {stack : List Frame} {done : List (Key × Json)} {key : String} {v : Json}
    (hkey : readStep state (.string key) = some (.colon done (some key), stack))
    (hvalue : readFrom (.value, .object done (some key) :: stack) ((render v).toList ++ rest) =
      readFrom (.after v, .object done (some key) :: stack) rest) :
    readFrom state ((quoted key ++ ":" ++ render v).toList ++ rest) =
      readFrom (.after v, .object done (some key) :: stack) rest := by
  calc readFrom state ((quoted key ++ ":" ++ render v).toList ++ rest)
      = readFrom state ((quoted key).toList ++ ':' :: ((render v).toList ++ rest)) := by simp
    _ = readFrom (.colon done (some key), stack) (':' :: ((render v).toList ++ rest)) :=
        readFrom_token (tokens?_quoted key) hkey
    _ = readFrom (.value, .object done (some key) :: stack) ((render v).toList ++ rest) :=
        readFrom_token (tokens?_cons rfl) rfl
    _ = readFrom (.after v, .object done (some key) :: stack) rest := hvalue

mutual

/-- **A value inside of others**: after its text the reader stands behind it, with the stack as it
was. -/
theorem readFrom_render (v : Json) (hv : IsPlain v) {goal : Goal} {stack : List Frame}
    (hgoal : ExpectsValue goal stack) {rest : List Char} (hrest : EndsScalar rest) :
    readFrom (goal, stack) ((render v).toList ++ rest) = readFrom (.after v, stack) rest := by
  match v with
  | .null => exact readFrom_token (tokens?_null hrest) (hgoal _ nofun)
  | .bool b => exact readFrom_token (tokens?_bool hrest b) (hgoal _ nofun)
  | .int n => exact readFrom_token (tokens?_toString hrest n) (hgoal _ nofun)
  | .string s => exact readFrom_token (tokens?_quoted s) (hgoal _ nofun)
  | .array [] =>
    calc readFrom (goal, stack) ('[' :: ']' :: rest)
        = readFrom (.itemOrEnd, .array [] :: stack) (']' :: rest) :=
          readFrom_token (tokens?_cons rfl) (hgoal _ nofun)
      _ = readFrom (.after (.array []), stack) rest := readFrom_token (tokens?_cons rfl) rfl
  | .array (v :: items) =>
    have hends : EndsScalar (followed (renderItems items) ++ ']' :: rest) :=
      endsScalar_followed _ (endsScalar_cons rfl rfl rest)
    rw [toList_render_array]
    calc readFrom (goal, stack)
            ('[' :: ((render v).toList ++ (followed (renderItems items) ++ ']' :: rest)))
        = readFrom (.itemOrEnd, .array [] :: stack)
            ((render v).toList ++ (followed (renderItems items) ++ ']' :: rest)) :=
          readFrom_token (tokens?_cons rfl) (hgoal _ nofun)
      _ = readFrom (.after v, .array [] :: stack) (followed (renderItems items) ++ ']' :: rest) :=
          readFrom_render v hv.1 (expectsValue_itemOrEnd stack) hends
      _ = readFrom (.after (.array (v :: items)), stack) rest := readFrom_items items hv.2 [] v
  | .object [] =>
    calc readFrom (goal, stack) ('\x7b' :: '\x7d' :: rest)
        = readFrom (.keyOrEnd, stack) ('\x7d' :: rest) :=
          readFrom_token (tokens?_cons rfl) (hgoal _ nofun)
      _ = readFrom (.after (.object []), stack) rest := readFrom_token (tokens?_cons rfl) rfl
  | .object ((key, v) :: entries) =>
    have hends : EndsScalar (followed (renderEntries entries) ++ '\x7d' :: rest) :=
      endsScalar_followed _ (endsScalar_cons rfl rfl rest)
    rw [toList_render_object]
    calc readFrom (goal, stack) ('\x7b' :: ((quoted key ++ ":" ++ render v).toList ++
            (followed (renderEntries entries) ++ '\x7d' :: rest)))
        = readFrom (.keyOrEnd, stack) ((quoted key ++ ":" ++ render v).toList ++
            (followed (renderEntries entries) ++ '\x7d' :: rest)) :=
          readFrom_token (tokens?_cons rfl) (hgoal _ nofun)
      _ = readFrom (.after v, .object [] (some key) :: stack)
            (followed (renderEntries entries) ++ '\x7d' :: rest) :=
          readFrom_entry rfl (readFrom_render v hv.1 (expectsValue_value _) hends)
      _ = readFrom (.after (.object ((key, v) :: entries)), stack) rest :=
          readFrom_entries entries hv.2 [] key v

/-- The items of an array after the first. -/
theorem readFrom_items (items : List Json) (hitems : ItemsPlain items) (done : List Json)
    (v : Json) {stack : List Frame} {rest : List Char} :
    readFrom (.after v, .array done :: stack) (followed (renderItems items) ++ ']' :: rest) =
      readFrom (.after (.array ((v :: done).reverse ++ items)), stack) rest := by
  match items with
  | [] =>
    rw [List.append_nil]
    exact readFrom_token (tokens?_cons rfl) rfl
  | item :: items =>
    have hends : EndsScalar (followed (renderItems items) ++ ']' :: rest) :=
      endsScalar_followed _ (endsScalar_cons rfl rfl rest)
    calc readFrom (.after v, .array done :: stack)
            (followed (renderItems (item :: items)) ++ ']' :: rest)
        = readFrom (.after v, .array done :: stack)
            (',' :: ((render item).toList ++ (followed (renderItems items) ++ ']' :: rest))) := by
          simp [renderItems, followed]
      _ = readFrom (.value, .array (v :: done) :: stack)
            ((render item).toList ++ (followed (renderItems items) ++ ']' :: rest)) :=
          readFrom_token (tokens?_cons rfl) rfl
      _ = readFrom (.after item, .array (v :: done) :: stack)
            (followed (renderItems items) ++ ']' :: rest) :=
          readFrom_render item hitems.1 (expectsValue_value _) hends
      _ = readFrom (.after (.array ((v :: done).reverse ++ item :: items)), stack) rest := by
          rw [readFrom_items items hitems.2 (v :: done) item]
          simp

/-- The entries of an object after the first. -/
theorem readFrom_entries (entries : List (String × Json)) (hentries : EntriesPlain entries)
    (done : List (String × Json)) (key : String) (v : Json) {stack : List Frame}
    {rest : List Char} :
    readFrom (.after v, .object (keyed done) (some key) :: stack)
        (followed (renderEntries entries) ++ '\x7d' :: rest) =
      readFrom (.after (.object (((key, v) :: done).reverse ++ entries)), stack) rest := by
  match entries with
  | [] =>
    have hobject : objectOf (((some key, v) :: keyed done).reverse) =
        .object (((key, v) :: done).reverse ++ []) := by
      rw [List.append_nil, ← objectOf_keyed]
      simp [keyed]
    rw [← hobject]
    exact readFrom_token (tokens?_cons rfl) rfl
  | (name, item) :: entries =>
    have hends : EndsScalar (followed (renderEntries entries) ++ '\x7d' :: rest) :=
      endsScalar_followed _ (endsScalar_cons rfl rfl rest)
    calc readFrom (.after v, .object (keyed done) (some key) :: stack)
            (followed (renderEntries ((name, item) :: entries)) ++ '\x7d' :: rest)
        = readFrom (.after v, .object (keyed done) (some key) :: stack)
            (',' :: ((quoted name ++ ":" ++ render item).toList ++
              (followed (renderEntries entries) ++ '\x7d' :: rest))) := by
          simp [renderEntries, followed]
      _ = readFrom (.key (keyed ((key, v) :: done)), stack)
            ((quoted name ++ ":" ++ render item).toList ++
              (followed (renderEntries entries) ++ '\x7d' :: rest)) :=
          readFrom_token (tokens?_cons rfl) rfl
      _ = readFrom (.after item, .object (keyed ((key, v) :: done)) (some name) :: stack)
            (followed (renderEntries entries) ++ '\x7d' :: rest) :=
          readFrom_entry rfl (readFrom_render item hentries.1 (expectsValue_value _) hends)
      _ = readFrom (.after (.object (((key, v) :: done).reverse ++ (name, item) :: entries)), stack)
            rest := by
          rw [readFrom_entries entries hentries.2 ((key, v) :: done) name item]
          simp

end

/-- **A value is read back from its text.** -/
theorem read?_render {v : Json} (hv : IsPlain v) : read? (render v) = some v := by
  have hread : readFrom (.value, []) (render v).toList = some (.after v, []) := by
    rw [← List.append_nil (render v).toList,
      readFrom_render v hv (expectsValue_value []) endsScalar_nil]
    rfl
  obtain ⟨tokens, htokens, hfold⟩ := Option.bind_eq_some_iff.mp hread
  rw [read?]
  refine (bind_eq_of_eq_some htokens _).trans ?_
  exact bind_eq_of_eq_some hfold _

end MergeTrain.Json
