import Mathlib.Data.List.Infix
import Mathlib.Data.List.TakeWhile
import Mathlib.Data.Nat.Digits.Defs
import MergeTrain.Text.Blank
import MergeTrain.Text.Decimal
import MergeTrain.Text.Lines
import MergeTrain.Text.Search

/-!
# Texts without blanks at their ends, texts in texts, digits and lines

A text is as it should be, without blanks at its ends, if its first and its last character are none.
And one text is found in another where it occurs first: past a part in which it does not start.
A number is read from its digits, and a line is read up to its end.

## Main results

* `Text.trim_eq_self_iff` — the texts without blanks at their ends.
* `Text.cut?_eq_none_iff` — a text is found if and only if it occurs.
* `Text.cut?_append_mark`, `Text.cut?_past` — where a mark with one last character is found.
* `Text.natOfDigits_toDigits` — the number that the digits of a number denote.
* `Text.lines_append_cons` — a line, and the lines after it.
-/

namespace MergeTrain.Text

variable {s v lead mark m rest : List Char} {c y : Char}

/-- What is left of a list when elements at its start are dropped. -/
theorem dropWhile_eq_iff {α : Type} {p : α → Bool} {l rest : List α} : l.dropWhile p = rest ↔
    ∃ lead, l = lead ++ rest ∧ (∀ a ∈ lead, p a = true) ∧ ∀ a ∈ rest.head?, p a = false := by
  constructor
  · rintro rfl
    refine ⟨l.takeWhile p, List.takeWhile_append_dropWhile.symm, fun a => List.mem_takeWhile_imp,
      fun a ha => ?_⟩
    have h := List.head?_dropWhile_not p l
    rwa [ha] at h
  · rintro ⟨lead, rfl, hlead, hrest⟩
    rw [List.dropWhile_append_of_pos hlead]
    cases rest with
    | nil => rfl
    | cons a rest => exact List.dropWhile_cons_of_neg (by simp [hrest a rfl])

theorem dropWhile_append {α : Type} {p : α → Bool} {taken rest : List α}
    (htaken : ∀ a ∈ taken, p a = true) (hrest : ∀ a ∈ rest.head?, p a = false) :
    (taken ++ rest).dropWhile p = rest :=
  dropWhile_eq_iff.mpr ⟨taken, rfl, htaken, hrest⟩

theorem takeWhile_append {α : Type} {p : α → Bool} {taken rest : List α}
    (htaken : ∀ a ∈ taken, p a = true) (hrest : ∀ a ∈ rest.head?, p a = false) :
    (taken ++ rest).takeWhile p = taken := by
  have hsplit := List.takeWhile_append_dropWhile (p := p) (l := taken ++ rest)
  rw [dropWhile_append htaken hrest] at hsplit
  exact List.append_cancel_right hsplit

/-! ### Blanks at the ends -/

theorem trimStart_eq_self_iff : trimStart s = s ↔ ∀ c ∈ s.head?, isBlank c = false := by
  cases s with
  | nil => simp [trimStart]
  | cons c s =>
    rw [trimStart, List.dropWhile_eq_self_iff]
    simp

theorem trimEnd_eq_self_iff : trimEnd s = s ↔ ∀ c ∈ s.getLast?, isBlank c = false := by
  rw [← List.head?_reverse, ← trimStart_eq_self_iff, trimEnd, ← List.reverse_inj,
    List.reverse_reverse, trimStart]

/-- A text has no blanks at its ends if neither its first nor its last character is one. -/
theorem trim_eq_self_iff : trim s = s ↔
    (∀ c ∈ s.head?, isBlank c = false) ∧ ∀ c ∈ s.getLast?, isBlank c = false := by
  rw [← trimStart_eq_self_iff, ← trimEnd_eq_self_iff, trim]
  constructor
  · intro h
    have hstart : trimStart s = s := by
      refine (List.dropWhile_suffix isBlank).eq_of_length_le ?_
      have hend : (trimEnd (trimStart s)).length ≤ (trimStart s).length := by
        simpa [trimEnd] using
          (List.dropWhile_suffix (l := (trimStart s).reverse) isBlank).length_le
      rwa [h] at hend
    exact ⟨hstart, by rwa [hstart] at h⟩
  · rintro ⟨hstart, hend⟩
    rw [hstart, hend]

/-- Parts around one that ends with no blank. -/
theorem trim_append_append {a mark v : List Char} (ha : trim a = a) (hne : a ≠ [])
    (hmark : mark ≠ []) (hend : ∀ c ∈ mark.getLast?, isBlank c = false) (hv : trim v = v) :
    trim (a ++ (mark ++ v)) = a ++ (mark ++ v) := by
  rw [trim_eq_self_iff] at ha hv ⊢
  refine ⟨by rw [List.head?_append_of_ne_nil _ hne]; exact ha.1, ?_⟩
  rw [List.getLast?_append_of_ne_nil _ (by simp [hmark])]
  by_cases hnil : v = []
  · rw [hnil, List.append_nil]
    exact hend
  · rw [List.getLast?_append_of_ne_nil _ hnil]
    exact hv.2

/-- What is no blank stays. -/
theorem mem_trim (h : c ∈ s) (hc : isBlank c = false) : c ∈ trim s := by
  have hstays : ∀ {s : List Char}, c ∈ s → c ∈ s.dropWhile isBlank := by
    intro s hmem
    rw [← List.takeWhile_append_dropWhile (p := isBlank) (l := s), List.mem_append] at hmem
    refine hmem.resolve_left fun hlead => ?_
    rw [List.mem_takeWhile_imp hlead] at hc
    cases hc
  have hstart : c ∈ trimStart s := hstays h
  rw [trim, trimEnd, List.mem_reverse]
  exact hstays (List.mem_reverse.mpr hstart)

/-- A text that is not blank has something between its blanks. -/
theorem trim_ne_nil (h : isBlankText s = false) : trim s ≠ [] := by
  obtain ⟨c, hc, hblank⟩ := List.all_eq_false.mp h
  exact List.ne_nil_of_mem (mem_trim hc (by simpa using hblank))

theorem trimmed_eq_self_iff {s : String} : trimmed s = s ↔ trim s.toList = s.toList := by
  rw [trimmed, ← String.toList_inj, String.toList_ofList]

/-! ### Texts in texts -/

theorem after?_eq_some_iff : after? lead s = some rest ↔ s = lead ++ rest := by
  rw [after?]
  split
  next h =>
    obtain ⟨tail, rfl⟩ := List.isPrefixOf_iff_prefix.mp h
    simp
  next h =>
    have hnot : ¬lead <+: s := fun hstarts => h <| List.isPrefixOf_iff_prefix.mpr hstarts
    exact ⟨nofun, fun heq => absurd ⟨rest, heq.symm⟩ hnot⟩

theorem after?_eq_none_iff : after? lead s = none ↔ ¬lead <+: s := by
  rw [after?, ← List.isPrefixOf_iff_prefix]
  split <;> simp_all

theorem cut?_cons_of_not_start (h : ¬mark <+: c :: s) :
    cut? mark (c :: s) = (cut? mark s).map fun parts => (c :: parts.1, parts.2) := by
  rw [cut?, after?_eq_none_iff.mpr h]

/-- **A text is found if and only if it occurs.** -/
theorem cut?_eq_none_iff : cut? mark s = none ↔ ¬mark <:+: s := by
  induction s with
  | nil => cases mark <;> simp [cut?]
  | cons c s ih =>
    rw [List.infix_cons_iff, not_or, ← ih]
    by_cases h : mark <+: c :: s
    · obtain ⟨tail, htail⟩ := id h
      rw [cut?, after?_eq_some_iff.mpr htail.symm]
      simp [h]
    · rw [cut?_cons_of_not_start h]
      simp [h]

theorem occursIn_iff {mark s : String} : occursIn mark s = true ↔ mark.toList <:+: s.toList := by
  rw [occursIn, Option.isSome_iff_ne_none, Ne, cut?_eq_none_iff, not_not]

/-- What comes before a part in which a text is sought, and in which it does not start. -/
theorem cut?_append_of_not_start
    (h : ∀ rest, rest <:+ lead → rest ≠ [] → ¬mark <+: rest ++ s) :
    cut? mark (lead ++ s) = (cut? mark s).map fun parts => (lead ++ parts.1, parts.2) := by
  induction lead with
  | nil => simp
  | cons c lead ih =>
    have hhead : ¬mark <+: c :: (lead ++ s) := h (c :: lead) List.suffix_rfl (by simp)
    rw [List.cons_append, cut?_cons_of_not_start hhead,
      ih fun rest hrest => h rest (hrest.trans (List.suffix_cons c lead)), Option.map_map]
    rfl

theorem cut?_self_append (h : mark ≠ []) : cut? mark (mark ++ v) = some ([], v) := by
  cases mark with
  | nil => exact absurd rfl h
  | cons c mark => rw [List.cons_append, cut?, after?_eq_some_iff.mpr (List.cons_append ..).symm]

/-! ### A mark that is told by its last character -/

/-- A prefix of a text that ends with a character, and is no longer than the part of it that does
not have the character, is none. -/
theorem not_prefix_of_not_mem (hy : y ∉ lead) (hlength : m.length < lead.length) :
    ¬m ++ [y] <+: lead ++ s := by
  intro h
  have hshort : (m ++ [y]).length ≤ lead.length := by simpa using Nat.succ_le_of_lt hlength
  have hstarts : m ++ [y] <+: lead :=
    List.prefix_of_prefix_length_le h (List.prefix_append lead s) hshort
  exact hy (hstarts.subset (by simp))

/-- A mark is found where its last character occurs first. -/
theorem cut?_append_mark (hlead : y ∉ lead) (hm : y ∉ m) :
    cut? (m ++ [y]) (lead ++ (m ++ [y] ++ v)) = some (lead, v) := by
  rw [cut?_append_of_not_start, cut?_self_append (by simp)]
  · simp
  · intro rest hrest hne
    have hy : y ∉ rest ++ m := by
      simpa using ⟨fun h => hlead (hrest.subset h), hm⟩
    have hlength : m.length < (rest ++ m).length := by
      have := List.length_pos_of_ne_nil hne
      simp only [List.length_append]
      omega
    have hnot := not_prefix_of_not_mem (s := [y] ++ v) hy hlength
    simpa only [List.append_assoc] using hnot

/-- What comes before a character that occurs for the first time. -/
theorem eq_of_append_cons_eq {s' v' : List Char} (hs : y ∉ s) (hs' : y ∉ s')
    (h : s ++ y :: v = s' ++ y :: v') : s = s' := by
  have hfound : ∀ {s v : List Char}, y ∉ s → cut? [y] (s ++ y :: v) = some (s, v) :=
    fun hs => cut?_append_mark (m := []) hs List.not_mem_nil
  have hsame : some (s, v) = some (s', v') := by rw [← hfound hs, h, hfound hs']
  exact congrArg Prod.fst (Option.some.inj hsame)

/-- A mark is not found at its last character if what comes before is not the rest of it. -/
theorem cut?_past (hlead : y ∉ lead) (hm : y ∉ m) (hend : ¬m <:+ lead) :
    cut? (m ++ [y]) (lead ++ y :: v) =
      (cut? (m ++ [y]) v).map fun parts => (lead ++ y :: parts.1, parts.2) := by
  have hnot : ∀ rest, rest <:+ lead ++ [y] → rest ≠ [] → ¬m ++ [y] <+: rest ++ v := by
    rintro rest hrest hne ⟨tail, htail⟩
    obtain hnil | ⟨before, rfl, hbefore⟩ := List.suffix_concat_iff.mp hrest
    · exact hne hnil
    · rw [List.append_assoc, List.append_assoc] at htail
      have hbefore' : y ∉ before := fun h => hlead (hbefore.subset h)
      exact hend (eq_of_append_cons_eq hm hbefore' htail ▸ hbefore)
  simpa using cut?_append_of_not_start hnot

/-! ### Digits -/

theorem isDigit_of_mem_toDigits {n : Nat} (h : c ∈ Nat.toDigits 10 n) : isDigit c := by
  have hdigit := Nat.isDigit_of_mem_toDigits (by decide) (by decide) h
  simpa [isDigit, Char.isDigit, Char.le_def] using hdigit

/-- A number is read from its digits. -/
theorem natOfDigits_toDigits (n : Nat) : natOfDigits (Nat.toDigits 10 n) = n := by
  rw [natOfDigits]
  conv_rhs => rw [← @Nat.ofDigitChars_ten_toDigits n, Nat.ofDigitChars_eq_foldl]
  rfl

theorem toList_toString_nat (n : Nat) : (toString n).toList = Nat.toDigits 10 n := by
  rw [Nat.toString_eq_repr, Nat.repr_eq_ofList_toDigits, String.toList_ofList]

/-- A number is written without needless zeros in front. -/
theorem head?_toDigits_ne_zero {n : Nat} (h : 0 < n) : (Nat.toDigits 10 n).head? ≠ some '0' := by
  induction n using Nat.strong_induction_on with
  | h n ih =>
    rcases Nat.lt_or_ge n 10 with hlt | hge
    · have hdigit : ∀ n < 10, 0 < n → n.digitChar ≠ '0' := by decide
      simpa [Nat.toDigits_of_lt_base hlt] using hdigit n hlt h
    · rw [Nat.toDigits_of_base_le (by decide) hge,
        List.head?_append_of_ne_nil _ Nat.toDigits_ne_nil]
      exact ih (n / 10) (by omega) (by omega)

/-- An integer is written in digits, with a sign in front if it is negative. -/
theorem toList_toString_int (n : Int) :
    (toString n).toList =
      if 0 ≤ n then Nat.toDigits 10 n.toNat else '-' :: Nat.toDigits 10 (-n).toNat := by
  rw [Int.toString_eq_repr, Int.repr_eq_if]
  split <;> simp [Nat.repr_eq_ofList_toDigits]

/-! ### Lines -/

/-- A character that ends no line goes with the line after it. -/
theorem lines_cons (hfeed : c ≠ '\n') (hreturn : c ≠ '\r') :
    lines (c :: s) = (c :: (lines s).headD []) :: (lines s).tail := by
  rw [lines.eq_3 _ _ fun _ h _ => hreturn h, if_neg hfeed]
  cases lines s <;> rfl

/-- A line, and the lines after it. -/
theorem lines_append_cons (hs : ∀ c ∈ s, c ≠ '\n' ∧ c ≠ '\r') :
    lines (s ++ '\n' :: rest) = s :: lines rest := by
  induction s with
  | nil => rfl
  | cons c s ih =>
    obtain ⟨hc, hs⟩ := List.forall_mem_cons.mp hs
    rw [List.cons_append, lines_cons hc.1 hc.2, ih hs]
    rfl

/-- A text in which no line ends is one line. -/
theorem lines_eq_singleton (hne : s ≠ []) (hs : ∀ c ∈ s, c ≠ '\n' ∧ c ≠ '\r') :
    lines s = [s] := by
  induction s with
  | nil => exact absurd rfl hne
  | cons c s ih =>
    obtain ⟨hc, hs⟩ := List.forall_mem_cons.mp hs
    rw [lines_cons hc.1 hc.2]
    cases s with
    | nil => rfl
    | cons d s =>
      rw [ih (List.cons_ne_nil d s) hs]
      rfl

end MergeTrain.Text
