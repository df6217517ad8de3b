import Mathlib.Data.Nat.Digits.Defs
import MergeTrain.Proofs.Text
import MergeTrain.Proofs.Toml.Quoted

/-!
# Values read back

A value is written after its key: a text, a number or a truth value, or an array of such. An array
stands on one line if it has fewer than two items, and has a line for each otherwise.

A value that is no text or array is a word, and a word is tried as an integer, as a number with a
fraction, as a date and as a time. A date may swallow the word after it. The digits of an integer
never begin a date, since a date has a hyphen after its year and integers have theirs in front, so
an integer is read as it is written.

## Main definitions

* `IsItem`, `IsValue` — the values that are read back.
* `EndsValue` — what may follow a value.
* `Reader.Solid` — text before which nothing is skipped.

## Main results

* `anyInteger?_toString` — an integer is read from its digits.
* `Reader.run_items_rows` — the items of an array, on a line each.
* `Reader.run_value_of_isValue` — a value is read back.
-/

namespace MergeTrain.Toml

open Text

/-! ### Numbers -/

theorem digit?_ten {c : Char} (h : isDigit c) : digit? 10 c = some (c.toNat - 48) := by
  have hlt : c.toNat - 48 < 10 := by
    have hle : c ≤ '9' := by simp_all [isDigit]
    have hle : c.toNat ≤ 57 := hle
    omega
  simp [digit?, Json.hexValue?, h, hlt]

theorem digitGroups?_of_all {isDigit : Char → Bool} (hbar : isDigit '_' = false) {s : List Char} :
    s ≠ [] → (∀ c ∈ s, isDigit c) → digitGroups? isDigit s = some s := by
  fun_induction digitGroups? isDigit s <;> simp_all

theorem natInBase?_toDigits (n : Nat) : natInBase? 10 (Nat.toDigits 10 n) = some n := by
  have hdigit : ∀ c ∈ Nat.toDigits 10 n, digit? 10 c = some (c.toNat - 48) := fun c hc =>
    digit?_ten (isDigit_of_mem_toDigits hc)
  have hgroups : digitGroups? (fun c => (digit? 10 c).isSome) (Nat.toDigits 10 n) =
      some (Nat.toDigits 10 n) :=
    digitGroups?_of_all (by decide) Nat.toDigits_ne_nil (fun c hc => by simp [hdigit c hc])
  have hvalue : (Nat.toDigits 10 n).foldl (fun m c => 10 * m + (digit? 10 c).getD 0) 0 = n := by
    conv_rhs => rw [← @Nat.ofDigitChars_ten_toDigits n, Nat.ofDigitChars_eq_foldl]
    refine List.foldl_ext _ _ _ fun m c hc => ?_
    simp [hdigit c hc]
  simp [natInBase?, hgroups, hvalue]

theorem decimal?_toDigits (n : Nat) : decimal? (Nat.toDigits 10 n) = some n := by
  unfold decimal?
  split
  next heq =>
    have hzero : n = 0 := by
      by_contra hpos
      exact head?_toDigits_ne_zero (Nat.pos_of_ne_zero hpos) (by simp [heq])
    simp [hzero, Nat.toDigits_zero] at heq
  next => exact natInBase?_toDigits n

theorem unsigned_of_isDigit {s : List Char} (h : ∀ c ∈ s, isDigit c) : unsigned s = s := by
  unfold unsigned
  split
  · exact absurd (h '+' (by simp)) (by decide)
  · exact absurd (h '-' (by simp)) (by decide)
  · rfl

theorem anyInteger?_toDigits (n : Nat) : anyInteger? (Nat.toDigits 10 n) = some (n : Int) := by
  have hdigit : ∀ c ∈ Nat.toDigits 10 n, isDigit c := fun c => isDigit_of_mem_toDigits
  unfold anyInteger?
  split
  next heq => exact absurd (hdigit 'x' (by simp [heq])) (by decide)
  next heq => exact absurd (hdigit 'o' (by simp [heq])) (by decide)
  next heq => exact absurd (hdigit 'b' (by simp [heq])) (by decide)
  next heq => exact absurd (hdigit '-' (by simp [heq])) (by decide)
  next => simp [unsigned_of_isDigit hdigit, decimal?_toDigits]

/-- **An integer is read from its digits.** -/
theorem anyInteger?_toString (n : Int) : anyInteger? (toString n).toList = some n := by
  rw [toList_toString_int]
  split
  next hpos => simp [anyInteger?_toDigits, hpos]
  next hneg =>
    simp only [anyInteger?, decimal?_toDigits]
    simp
    omega

theorem toString_int_ne_nil (n : Int) : (toString n).toList ≠ [] := by
  rw [toList_toString_int]
  split <;> simp [Nat.toDigits_ne_nil]

theorem isDigit_of_mem_tail_toString {n : Int} {c : Char} (h : c ∈ (toString n).toList.tail) :
    isDigit c := by
  rw [toList_toString_int] at h
  split at h
  · exact isDigit_of_mem_toDigits (List.mem_of_mem_tail h)
  · exact isDigit_of_mem_toDigits h

theorem isWordChar_of_mem_toString {n : Int} {c : Char} (h : c ∈ (toString n).toList) :
    isWordChar c := by
  have hword : ∀ {d : Char}, isDigit d → isWordChar d := by
    intro d hd
    have hdigit : d.isDigit := by simpa [isDigit, Char.isDigit, Char.le_def] using hd
    simp [isWordChar, Char.isAlphanum, hdigit]
  rw [toList_toString_int] at h
  split at h
  · exact hword (isDigit_of_mem_toDigits h)
  · rcases List.mem_cons.mp h with rfl | h
    · decide
    · exact hword (isDigit_of_mem_toDigits h)

/-! ### Words -/

/-- What may follow a value. -/
def EndsValue (rest : List Char) : Prop :=
  ∀ c ∈ rest.head?, c = '\n' ∨ c = ',' ∨ c = ']'

theorem word_append {s rest : List Char} (hs : ∀ c ∈ s, isWordChar c) (hdate : afterDate? s = none)
    (hrest : EndsValue rest) : word (s ++ rest) = s := by
  have hstop : ∀ c ∈ rest.head?, isWordChar c = false := fun c hc => by
    rcases hrest c hc with rfl | rfl | rfl <;> rfl
  have hfirst : (s ++ rest).takeWhile isWordChar = s := takeWhile_append hs hstop
  simp [word, hfirst, hdate]

theorem afterDate?_eq_none {s : List Char} (h : ∀ c ∈ s.tail, isDigit c) : afterDate? s = none := by
  unfold afterDate?
  split
  · exact absurd (h '-' (by simp)) (by decide)
  · rfl

theorem scalar?_toString {n : Int} (h : isInt64 n) :
    scalar? (toString n).toList = some (.integer n) := by
  have htrue : (toString n).toList ≠ "true".toList := fun heq =>
    absurd (isDigit_of_mem_tail_toString (n := n) (c := 'r') (by rw [heq]; decide)) (by decide)
  have hfalse : (toString n).toList ≠ "false".toList := fun heq =>
    absurd (isDigit_of_mem_tail_toString (n := n) (c := 'a') (by rw [heq]; decide)) (by decide)
  rw [scalar?, if_neg (by simpa only [beq_iff_eq] using htrue),
    if_neg (by simpa only [beq_iff_eq] using hfalse), integer?, anyInteger?_toString,
    Option.filter_some, if_pos h]

/-! ### Values -/

/-- A value that is written as one word or text. -/
def IsItem : Toml → Prop
  | .text _ | .bool _ => True
  | .integer n => isInt64 n
  | _ => False

/-- A value that is written after its key: such a one, or an array of them. -/
def IsValue : Toml → Prop
  | .array items => ∀ v ∈ items, IsItem v
  | v => IsItem v

theorem head?_quotedText (text : String) :
    ∃ c ∈ (quotedText text).toList.head?, c = '\"' ∨ c = '\'' := by
  rw [quotedText, String.toList_ofList]
  cases form text.toList <;> simp [inForm, List.replicate_succ]

namespace Reader

theorem run_value_word {s : List Char} {v : Toml} (hs : ∀ c ∈ s, isWordChar c) (hne : s ≠ [])
    (hdate : afterDate? s = none) (hv : scalar? s = some v) {rest : List Char}
    (hrest : EndsValue rest) (fuel depth : Nat) :
    (value (fuel + 1) depth).run (s ++ rest) = some (v, rest) := by
  have hword := word_append hs hdate hrest
  obtain ⟨c, chars, rfl⟩ := List.exists_cons_of_ne_nil hne
  have hc := hs c List.mem_cons_self
  rw [value, StateT.run_bind, run_peek]
  simp only [List.cons_append, List.head?_cons, Option.bind_eq_bind, Option.bind_some]
  split
  case h_5 =>
    simp only [List.cons_append] at hword
    simp [hword, hv]
  all_goals next heq => cases heq; exact absurd hc (by decide)

/-- An item as written is read back. -/
theorem run_value_of_isItem {v : Toml} (hv : IsItem v) {rest : List Char} (hrest : EndsValue rest)
    (fuel depth : Nat) : (value (fuel + 1) depth).run ((valueText v).toList ++ rest) =
      some (v, rest) := by
  cases v with
  | text s =>
    have hquote : ∀ c ∈ rest.head?, c ≠ '\"' ∧ c ≠ '\'' := fun c hc => by
      rcases hrest c hc with rfl | rfl | rfl <;> decide
    have hstring := run_string_quotedText s hquote
    obtain ⟨c, hc, hhead⟩ := head?_quotedText s
    have hpeek := Option.mem_def.mp (List.mem_head?_append_of_mem_head? (t := rest) hc)
    rw [valueText, value]
    rcases hhead with rfl | rfl <;> simp [hpeek, hstring, -List.head?_append]
  | integer n =>
    exact run_value_word (fun c => isWordChar_of_mem_toString) (toString_int_ne_nil n)
      (afterDate?_eq_none fun c => isDigit_of_mem_tail_toString) (scalar?_toString hv) hrest _ _
  | bool b =>
    cases b
    · exact run_value_word (s := "false".toList) (List.all_eq_true.mp rfl) (by decide) (by decide)
        rfl hrest _ _
    · exact run_value_word (s := "true".toList) (List.all_eq_true.mp rfl) (by decide) (by decide)
        rfl hrest _ _
  | other | array | table => exact hv.elim

/-! ### Blanks -/

/-- Text that begins with neither a blank nor a comment. -/
def Solid (s : List Char) : Prop :=
  ∀ c ∈ s.head?, isGap c = false ∧ c ≠ '#' ∧ c ≠ '\n' ∧ c ≠ '\r'

theorem solid_cons {c : Char} {s : List Char} :
    Solid (c :: s) ↔ isGap c = false ∧ c ≠ '#' ∧ c ≠ '\n' ∧ c ≠ '\r' := by
  simp [Solid]

theorem run_comment_of_head {s : List Char} (h : ∀ c ∈ s.head?, c ≠ '#') :
    comment.run s = some ((), s) := by
  cases s with
  | nil => rfl
  | cons c s => simp [comment, run_take?, after?, Ne.symm (h c rfl)]

theorem run_gap_spaces (count : Nat) {s : List Char} (h : ∀ c ∈ s.head?, isGap c = false) :
    gap.run (List.replicate count ' ' ++ s) = some ((), s) := by
  have hspaces : ∀ c ∈ List.replicate count ' ', isGap c := fun c hc =>
    List.eq_of_mem_replicate hc ▸ by decide
  have hspan := run_span_append hspaces h
  simp [gap, run_discard, hspan]

/-- Empty lines, and blanks before what stands on the next line. -/
theorem run_blanks {s : List Char} (hs : Solid s) (count : Nat) :
    ∀ {lines fuel : Nat}, lines ≤ fuel →
      (blanks (fuel + 1)).run (List.replicate lines '\n' ++ (List.replicate count ' ' ++ s)) =
        some ((), s) := by
  intro lines
  induction lines with
  | zero =>
    intro fuel _
    have hgap := run_gap_spaces count fun c hc => (hs c hc).1
    have hcomment := run_comment_of_head fun c hc => (hs c hc).2.1
    have hline := run_newline?_of_head fun c hc => (hs c hc).2.2
    simp [blanks, hgap, hcomment, hline]
  | succ lines ih =>
    intro fuel hfuel
    obtain ⟨fuel, rfl⟩ : ∃ n, fuel = n + 1 := ⟨fuel - 1, by omega⟩
    have hrest := ih (show lines ≤ fuel by omega)
    rw [List.replicate_succ, List.cons_append, blanks, StateT.run_bind,
      run_gap_of_head (forall_mem_head?_cons.mpr (by decide))]
    simp [comment, newline?, run_take?, after?, hrest]

theorem Solid.run_blanks {s : List Char} (hs : Solid s) (fuel : Nat) :
    (blanks (fuel + 1)).run s = some ((), s) := by
  simpa using Reader.run_blanks hs 0 (Nat.zero_le fuel)

/-- A character that a key or an item may begin with. -/
def Leads (c : Char) : Prop :=
  isWordChar c ∨ c = '\"' ∨ c = '\''

theorem Leads.ne {c : Char} (h : Leads c) {d : Char} (hword : isWordChar d = false)
    (hdouble : d ≠ '\"') (hsingle : d ≠ '\'') : c ≠ d := by
  rintro rfl
  rcases h with h | h | h <;> simp_all

theorem Leads.solid {c : Char} (h : Leads c) (s : List Char) : Solid (c :: s) := by
  have hspace : c ≠ ' ' := h.ne (by decide) (by decide) (by decide)
  have htab : c ≠ '\t' := h.ne (by decide) (by decide) (by decide)
  have hhash : c ≠ '#' := h.ne (by decide) (by decide) (by decide)
  have hfeed : c ≠ '\n' := h.ne (by decide) (by decide) (by decide)
  have hreturn : c ≠ '\r' := h.ne (by decide) (by decide) (by decide)
  simp [solid_cons, isGap, *]

/-! ### Arrays -/

theorem exists_leads_valueText {v : Toml} (hv : IsItem v) :
    ∃ c chars, (valueText v).toList = c :: chars ∧ Leads c := by
  cases v with
  | text s =>
    obtain ⟨c, hc, hquote⟩ := head?_quotedText s
    exact ⟨c, _, (List.cons_head?_tail hc).symm, .inr hquote⟩
  | integer n =>
    obtain ⟨c, chars, hchars⟩ := List.exists_cons_of_ne_nil (toString_int_ne_nil n)
    have hc : c ∈ (toString n).toList := by rw [hchars]; exact List.mem_cons_self
    exact ⟨c, chars, hchars, .inl (isWordChar_of_mem_toString hc)⟩
  | bool b =>
    cases b
    · exact ⟨'f', _, rfl, .inl (by decide)⟩
    · exact ⟨'t', _, rfl, .inl (by decide)⟩
  | other | array | table => exact hv.elim

/-- Nothing is skipped before an item, and the array does not end there. -/
theorem run_before_item {v : Toml} (hv : IsItem v) (rest : List Char) :
    Solid ((valueText v).toList ++ rest) ∧
      (take? "]").run ((valueText v).toList ++ rest) =
        some (false, (valueText v).toList ++ rest) := by
  obtain ⟨c, chars, htext, hlead⟩ := exists_leads_valueText hv
  have hbracket : c ≠ ']' := hlead.ne (by decide) (by decide) (by decide)
  rw [htext]
  exact ⟨hlead.solid _, by simp [run_take?, after?, hbracket.symm]⟩

/-- An item on a line of its own, and the comma after it. -/
theorem run_items_item {v : Toml} (hv : IsItem v) (next : List Char) (fuel depth : Nat)
    (done : List Toml) :
    (items (fuel + 2) depth done).run
        ('\n' :: (List.replicate 4 ' ' ++ ((valueText v).toList ++ ',' :: next))) =
      (items (fuel + 1) depth (v :: done)).run next := by
  obtain ⟨hsolid, hopen⟩ := run_before_item hv (',' :: next)
  have hblanks := run_blanks hsolid 4 (show 1 ≤ fuel + 1 by omega)
  rw [List.replicate_one, List.singleton_append] at hblanks
  have hends : EndsValue (',' :: next) := by simp [EndsValue]
  have hvalue := run_value_of_isItem hv hends fuel depth
  have hcomma : Solid (',' :: next) := solid_cons.mpr (by decide)
  rw [items, StateT.run_bind, hblanks]
  simp only [Option.bind_eq_bind, Option.bind_some, StateT.run_bind, hopen]
  simp [hvalue, hcomma.run_blanks, run_take?, after?]

/-- An item on a line of its own. -/
def row (v : Toml) : List Char :=
  List.replicate 4 ' ' ++ ((valueText v).toList ++ [',', '\n'])

theorem length_le_flatMap_row (vs : List Toml) : vs.length ≤ (vs.flatMap row).length := by
  induction vs with
  | nil => exact Nat.le_refl _
  | cons v vs ih =>
    simp only [List.flatMap_cons, List.length_append, List.length_cons, row, List.length_replicate]
    omega

/-- **Items on lines of their own are read back.** -/
theorem run_items_rows (rest : List Char) (depth : Nat) {vs : List Toml}
    (hvs : ∀ v ∈ vs, IsItem v) :
    ∀ {fuel : Nat}, vs.length + 1 < fuel → ∀ done : List Toml,
      (items fuel depth done).run ('\n' :: (vs.flatMap row ++ ']' :: rest)) =
        some (.array (done.reverse ++ vs), rest) := by
  induction vs with
  | nil =>
    intro fuel hfuel done
    obtain ⟨fuel, rfl⟩ : ∃ n, fuel = n + 2 := ⟨fuel - 2, by simp at hfuel; omega⟩
    have hclosing : Solid (']' :: rest) := solid_cons.mpr (by decide)
    have hblanks := run_blanks hclosing 0 (show 1 ≤ fuel + 1 by omega)
    simp only [List.replicate, List.nil_append, List.cons_append] at hblanks
    simp [items, hblanks, run_take?, after?]
  | cons v vs ih =>
    intro fuel hfuel done
    simp only [List.length_cons] at hfuel
    obtain ⟨fuel, rfl⟩ : ∃ n, fuel = n + 2 := ⟨fuel - 2, by omega⟩
    obtain ⟨hv, hvs⟩ := List.forall_mem_cons.mp hvs
    have hnext := ih hvs (show vs.length + 1 < fuel + 1 by omega) (v :: done)
    rw [List.reverse_cons, List.append_assoc] at hnext
    simpa [row] using (run_items_item hv _ fuel depth done).trans hnext

theorem itemTexts_eq_map (vs : List Toml) : itemTexts vs = vs.map valueText := by
  induction vs with
  | nil => rfl
  | cons v vs ih => simp [itemTexts, ih]

theorem toList_arrayText (v w : Toml) (vs : List Toml) :
    (arrayText (itemTexts (v :: w :: vs))).toList =
      '[' :: '\n' :: ((v :: w :: vs).flatMap row ++ [']']) := by
  simp [itemTexts_eq_map, arrayText, String.toList_join, List.flatMap_map, row]
  rfl

/-- An array is read back: what stands inside its brackets is one item, or a row for each. -/
theorem run_items_of_array {vs : List Toml} (hvs : ∀ v ∈ vs, IsItem v) (rest : List Char)
    {fuel : Nat} (hfuel : (valueText (.array vs)).toList.length ≤ fuel) :
    ∃ inside, (valueText (.array vs)).toList = '[' :: inside ∧
      (items fuel 1 []).run (inside ++ rest) = some (.array vs, rest) := by
  have hclosing : Solid (']' :: rest) := solid_cons.mpr (by decide)
  match vs, hvs with
  | [], _ =>
    refine ⟨[']'], by simp [valueText, itemTexts, arrayText], ?_⟩
    have hpos : 0 < fuel := Nat.lt_of_lt_of_le (by decide) hfuel
    obtain ⟨fuel, rfl⟩ : ∃ n, fuel = n + 1 := ⟨fuel - 1, by omega⟩
    simp [items, hclosing.run_blanks, run_take?, after?]
  | [v], hvs =>
    have hv : IsItem v := by simpa using hvs
    have htext : (valueText (.array [v])).toList = '[' :: ((valueText v).toList ++ [']']) := by
      simp [valueText, itemTexts, arrayText]
    refine ⟨_, htext, ?_⟩
    rw [htext] at hfuel
    obtain ⟨fuel, rfl⟩ : ∃ n, fuel = n + 2 := ⟨fuel - 2, by simp at hfuel; omega⟩
    obtain ⟨hsolid, hopen⟩ := run_before_item hv (']' :: rest)
    have hends : EndsValue (']' :: rest) := by simp [EndsValue]
    have hvalue := run_value_of_isItem hv hends fuel 1
    rw [items, List.append_assoc, List.singleton_append, StateT.run_bind, hsolid.run_blanks]
    simp only [Option.bind_eq_bind, Option.bind_some, StateT.run_bind, hopen]
    simp [hvalue, hclosing.run_blanks, expect, run_take?, after?]
  | v :: w :: vs, hvs =>
    rw [valueText, toList_arrayText] at hfuel ⊢
    refine ⟨_, rfl, ?_⟩
    have hlength := length_le_flatMap_row (v :: w :: vs)
    have hcount : (v :: w :: vs).length + 1 < fuel := by
      simp at hfuel hlength ⊢
      omega
    simpa using run_items_rows rest 1 hvs hcount []

/-- **A value as written is read back.** -/
theorem run_value_of_isValue {v : Toml} (hv : IsValue v) {rest : List Char}
    (hrest : EndsValue rest) {fuel : Nat} (hfuel : (valueText v).toList.length < fuel) :
    (value fuel 0).run ((valueText v).toList ++ rest) = some (v, rest) := by
  obtain ⟨fuel, rfl⟩ : ∃ n, fuel = n + 1 := ⟨fuel - 1, by omega⟩
  cases v with
  | text s => exact run_value_of_isItem (v := .text s) trivial hrest fuel 0
  | bool b => exact run_value_of_isItem (v := .bool b) trivial hrest fuel 0
  | integer n => exact run_value_of_isItem (v := .integer n) hv hrest fuel 0
  | other | table => exact hv.elim
  | array vs =>
    obtain ⟨inside, htext, hitems⟩ := run_items_of_array hv rest (Nat.le_of_lt_succ hfuel)
    rw [htext]
    simp [value, depthLimit, hitems]

end Reader

end MergeTrain.Toml
