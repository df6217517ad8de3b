import MergeTrain.Proofs.Toml.Value

/-!
# Statements read back

A document is written as headers and as keys with their values, a line for each. The parts of a key
are quoted one by one, so that the dots between them are the only ones that separate anything, and
each line is closed before the next one begins. Reading takes the lines in their order and gives
the statements in reverse.

The first character of a statement decides how the reader goes on, and it is never one that is
skipped: a key begins with a character of a word or a quote, a header with a bracket. An empty line
between two statements is skipped, and nothing else is.

## Main definitions

* `Statement.line` — a statement as written.
* `Statement.IsWritable` — what is asked of it: a key that is not too long, and a value that is
  read back.
* `Laid` — statements as written one after the other.

## Main results

* `Reader.run_key` — a key with dots is read back.
* `Statement.run_read` — a statement is read back.
* `Laid.run_readAll` — so are all statements of a document.
-/

namespace MergeTrain.Toml

open Text Reader

/-! ### Keys with dots -/

/-- A key of several parts as written. -/
def dottedText (parts : List String) : List Char :=
  (".".intercalate (parts.map keyText)).toList

theorem dottedText_singleton (part : String) : dottedText [part] = (keyText part).toList := by
  simp [dottedText]

theorem dottedText_cons_cons (part next : String) (parts : List String) :
    dottedText (part :: next :: parts) =
      (keyText part).toList ++ '.' :: dottedText (next :: parts) := by
  simp [dottedText, String.intercalate_cons_cons]

theorem isWordChar_of_isKeyChar {c : Char} (h : isKeyChar c) : isWordChar c := by
  simp_all [isKeyChar, isWordChar]

theorem exists_leads_keyText (key : String) :
    ∃ c chars, (keyText key).toList = c :: chars ∧ Leads c := by
  rw [keyText]
  split_ifs with hbare
  · obtain ⟨hne, hchars⟩ := isBare_iff.mp hbare
    obtain ⟨c, chars, heq⟩ := List.exists_cons_of_ne_nil hne
    exact ⟨c, chars, heq, .inl (isWordChar_of_isKeyChar (hchars c (by simp [heq])))⟩
  · rw [String.toList_ofList]
    rcases keyForm_spec key.toList with hform | ⟨hform, -⟩
    · exact ⟨'\"', _, by rw [hform, inForm]; rfl, .inr (.inl rfl)⟩
    · exact ⟨'\'', _, by rw [hform, inForm]; rfl, .inr (.inr rfl)⟩

theorem exists_leads_dottedText (path : List String) (key : String) :
    ∃ c chars, dottedText (path ++ [key]) = c :: chars ∧ Leads c := by
  obtain ⟨part, parts, hparts⟩ : ∃ part parts, path ++ [key] = part :: parts :=
    List.exists_cons_of_ne_nil (by simp)
  obtain ⟨c, chars, htext, hlead⟩ := exists_leads_keyText part
  rw [hparts]
  cases parts with
  | nil => exact ⟨c, chars, by rw [dottedText_singleton, htext], hlead⟩
  | cons next parts => exact ⟨c, _, by rw [dottedText_cons_cons, htext]; rfl, hlead⟩

namespace Reader

theorem run_gap_keyText (key : String) (rest : List Char) :
    gap.run ((keyText key).toList ++ rest) = some ((), (keyText key).toList ++ rest) := by
  obtain ⟨c, chars, htext, hlead⟩ := exists_leads_keyText key
  rw [htext]
  exact run_gap_of_head fun d hd => (hlead.solid (chars ++ rest) d hd).1

/-- A key with dots is read back, with blanks before what ends it. -/
theorem run_keyParts (stop : List Char) (hstop : stop.head? = some '=' ∨ stop.head? = some ']')
    (count : Nat) (part : String) (parts : List String) :
    ∀ {fuel : Nat}, parts.length < fuel → ∀ done : List String,
      (keyParts fuel done).run
          (dottedText (part :: parts) ++ (List.replicate count ' ' ++ stop)) =
        some ((part :: parts).reverse ++ done, stop) := by
  induction parts generalizing part with
  | nil =>
    intro fuel hfuel done
    obtain ⟨fuel, rfl⟩ : ∃ n, fuel = n + 1 := ⟨fuel - 1, by omega⟩
    have hend : ∀ c ∈ (List.replicate count ' ' ++ stop).head?, isKeyChar c = false := by
      cases count <;> rcases hstop with h | h <;> simp [h, List.replicate_succ] <;> decide
    have hpart := run_keyPart_keyText part hend
    have hgap : gap.run (List.replicate count ' ' ++ stop) = some ((), stop) :=
      run_gap_spaces count (by rcases hstop with h | h <;> simp [h] <;> decide)
    have hdot : (take? ".").run stop = some (false, stop) := by
      cases stop with
      | nil => rfl
      | cons c stop => rcases hstop with h | h <;> simp_all [run_take?, after?]
    simp [keyParts, dottedText_singleton, run_gap_keyText, hpart, hgap, hdot]
  | cons next parts ih =>
    intro fuel hfuel done
    simp only [List.length_cons] at hfuel
    obtain ⟨fuel, rfl⟩ : ∃ n, fuel = n + 1 := ⟨fuel - 1, by omega⟩
    generalize hafter : List.replicate count ' ' ++ stop = after at ih ⊢
    have hend : ∀ c ∈ ('.' :: (dottedText (next :: parts) ++ after)).head?,
        isKeyChar c = false :=
      forall_mem_head?_cons.mpr (by decide)
    have hpart := run_keyPart_keyText part hend
    have hgap : gap.run ('.' :: (dottedText (next :: parts) ++ after)) =
        some ((), '.' :: (dottedText (next :: parts) ++ after)) :=
      run_gap_of_head (forall_mem_head?_cons.mpr (by decide))
    have hnext := ih next (show parts.length < fuel by omega) (part :: done)
    rw [keyParts, dottedText_cons_cons, List.append_assoc, List.cons_append]
    simp [run_gap_keyText, hpart, hgap, run_take?, after?, hnext]

theorem run_key (stop : List Char) (hstop : stop.head? = some '=' ∨ stop.head? = some ']')
    (count : Nat) {path : List String} (hpath : path.length + 1 < depthLimit) (last : String) :
    key.run (dottedText (path ++ [last]) ++ (List.replicate count ' ' ++ stop)) =
      some ((path, last), stop) := by
  obtain ⟨part, parts, hparts⟩ : ∃ part parts, path ++ [last] = part :: parts :=
    List.exists_cons_of_ne_nil (by simp)
  have hlength : parts.length < depthLimit - 1 := by
    have := congrArg List.length hparts
    simp at this
    omega
  have hread := run_keyParts stop hstop count part parts hlength []
  rw [← hparts] at hread
  simp [key, hread]

theorem run_lineEnd (s : List Char) : lineEnd.run ('\n' :: s) = some ((), s) := by
  have hgap : gap.run ('\n' :: s) = some ((), '\n' :: s) :=
    run_gap_of_head (forall_mem_head?_cons.mpr (by decide))
  have hcomment : comment.run ('\n' :: s) = some ((), '\n' :: s) :=
    run_comment_of_head (by simp)
  simp [lineEnd, hgap, hcomment, newline?, run_take?, after?]

end Reader

/-! ### Statements -/

namespace Statement

/-- A statement as written, with its line. -/
def line : Statement → List Char
  | .assign path key v =>
    dottedText (path ++ [key]) ++ (' ' :: '=' :: ' ' :: ((valueText v).toList ++ ['\n']))
  | .table path key => '[' :: (dottedText (path ++ [key]) ++ [']', '\n'])
  | .item path key => '[' :: '[' :: (dottedText (path ++ [key]) ++ [']', ']', '\n'])

/-- A statement that can be written: its key is not too long and its value is read back. -/
def IsWritable : Statement → Prop
  | .assign path _ v => path.length + 1 < depthLimit ∧ IsValue v
  | .table path _ | .item path _ => path.length + 1 < depthLimit

theorem run_gap_space_valueText {v : Toml} (hv : IsValue v) (rest : List Char) :
    gap.run (' ' :: ((valueText v).toList ++ rest)) = some ((), (valueText v).toList ++ rest) := by
  refine run_gap_spaces 1 ?_
  have hitem : ∀ {v : Toml}, IsItem v →
      ∀ c ∈ ((valueText v).toList ++ rest).head?, isGap c = false := fun hv c hc =>
    ((run_before_item hv rest).1 c hc).1
  cases v with
  | text s => exact hitem (v := .text s) trivial
  | bool b => exact hitem (v := .bool b) trivial
  | integer n => exact hitem (v := .integer n) hv
  | other | table => exact hv.elim
  | array vs =>
    obtain ⟨inside, htext, -⟩ := run_items_of_array hv rest (Nat.le_refl _)
    rw [htext]
    exact forall_mem_head?_cons.mpr (by decide)

/-- A key is not taken for the bracket of a header. -/
theorem not_bracket_prefix_dottedText (path : List String) (key : String) (rest : List Char) :
    ¬['['] <+: dottedText (path ++ [key]) ++ rest := by
  obtain ⟨c, chars, htext, hlead⟩ := exists_leads_dottedText path key
  have hbracket : c ≠ '[' := hlead.ne (by decide) (by decide) (by decide)
  simpa [htext] using hbracket.symm

/-- **A statement as written is read back.** -/
theorem run_read {st : Statement} (h : st.IsWritable) (rest : List Char) :
    Statement.read.run (st.line ++ rest) = some (st, rest) := by
  cases st with
  | assign path key v =>
    obtain ⟨hpath, hv⟩ := h
    have hnot := not_bracket_prefix_dottedText path key
      (' ' :: '=' :: ' ' :: ((valueText v).toList ++ '\n' :: rest))
    have hnots : ¬['[', '['] <+: dottedText (path ++ [key]) ++
        (' ' :: '=' :: ' ' :: ((valueText v).toList ++ '\n' :: rest)) := fun hprefix =>
      hnot ((List.prefix_append ['['] ['[']).trans hprefix)
    have hkey := run_key ('=' :: ' ' :: ((valueText v).toList ++ '\n' :: rest)) (.inl rfl) 1 hpath
      key
    rw [List.replicate_one, List.singleton_append] at hkey
    have hgap := run_gap_space_valueText hv ('\n' :: rest)
    have hends : EndsValue ('\n' :: rest) := by simp [EndsValue]
    have hvalue : ∀ {fuel : Nat}, (valueText v).toList.length < fuel → _ :=
      run_value_of_isValue hv hends
    simp only [line, List.append_assoc, List.cons_append, List.nil_append]
    simp (disch := omega) [Statement.read, run_take?, after?, hnot, hnots, hkey, expect, hgap,
      hvalue, run_lineEnd]
  | table path key =>
    have hkey := run_key (']' :: '\n' :: rest) (.inr rfl) 0 h key
    have hnot := not_bracket_prefix_dottedText path key (']' :: '\n' :: rest)
    simp only [List.replicate_zero, List.nil_append] at hkey
    simp [line, Statement.read, run_take?, after?, hnot, hkey, expect, run_lineEnd]
  | item path key =>
    have hkey := run_key (']' :: ']' :: '\n' :: rest) (.inr rfl) 0 h key
    simp only [List.replicate_zero, List.nil_append] at hkey
    simp [line, Statement.read, run_take?, after?, hkey, expect, run_lineEnd]

theorem exists_leads_line (st : Statement) :
    ∃ c chars, st.line = c :: chars ∧ (Leads c ∨ c = '[') := by
  cases st with
  | assign path key v =>
    obtain ⟨c, chars, htext, hlead⟩ := exists_leads_dottedText path key
    exact ⟨c, _, by rw [line, htext]; rfl, .inl hlead⟩
  | table | item => exact ⟨'[', _, rfl, .inr rfl⟩

theorem solid_line (st : Statement) (rest : List Char) : Solid (st.line ++ rest) := by
  obtain ⟨c, chars, hline, hlead | rfl⟩ := st.exists_leads_line
  · rw [hline]
    exact hlead.solid _
  · rw [hline]
    exact solid_cons.mpr (by decide)

end Statement

/-! ### Documents -/

/-- Statements as written one after the other, each with at most one empty line before it. -/
inductive Laid : List Statement → List Char → Prop
  | nil : Laid [] []
  | cons {lines : Nat} {st : Statement} {sts : List Statement} {s : List Char} :
      lines ≤ 1 → st.IsWritable → Laid sts s →
        Laid (st :: sts) (List.replicate lines '\n' ++ (st.line ++ s))

theorem Laid.length_le {sts : List Statement} {s : List Char} (h : Laid sts s) :
    sts.length ≤ s.length := by
  induction h with
  | nil => exact Nat.le_refl _
  | @cons _ st _ _ _ _ _ ih =>
    obtain ⟨c, chars, hline, -⟩ := st.exists_leads_line
    simp only [hline, List.length_append, List.length_cons]
    omega

theorem Laid.dropMark_eq {sts : List Statement} {s : List Char} (h : Laid sts s) :
    dropMark s = s := by
  have hhead : s.head? ≠ some '\ufeff' := by
    cases h with
    | nil => simp
    | @cons lines st _ _ _ _ _ =>
      obtain ⟨c, chars, hline, hlead⟩ := st.exists_leads_line
      have hne : c ≠ '\ufeff' := by
        rcases hlead with hlead | rfl
        · exact hlead.ne (by decide) (by decide) (by decide)
        · decide
      cases lines <;> simp [hline, hne, List.replicate_succ]
  unfold dropMark
  split
  · simp at hhead
  · rfl

/-- **Statements as written are read back, in reverse.** -/
theorem Laid.run_readAll {sts : List Statement} {s : List Char} (h : Laid sts s) :
    ∀ {fuel : Nat}, sts.length < fuel → ∀ done : List Statement,
      (Statement.readAll fuel done).run s = some (sts.reverse ++ done, []) := by
  induction h with
  | nil =>
    intro fuel hfuel done
    obtain ⟨fuel, rfl⟩ : ∃ n, fuel = n + 1 := ⟨fuel - 1, by omega⟩
    have hblanks := (show Solid [] by simp [Solid]).run_blanks fuel
    simp [Statement.readAll, hblanks]
  | @cons lines st sts s hlines hst _ ih =>
    intro fuel hfuel done
    simp only [List.length_cons] at hfuel
    obtain ⟨fuel, rfl⟩ : ∃ n, fuel = n + 2 := ⟨fuel - 2, by omega⟩
    obtain ⟨c, chars, hline, -⟩ := st.exists_leads_line
    have hmore : st.line ≠ [] := by simp [hline]
    have hblanks : (blanks (fuel + 1 + 1)).run (List.replicate lines '\n' ++ (st.line ++ s)) =
        some ((), st.line ++ s) :=
      run_blanks (st.solid_line s) 0 (by omega)
    have hread := Statement.run_read hst s
    have hnext := ih (show sts.length < fuel + 1 by omega) (st :: done)
    rw [Statement.readAll]
    simp [hblanks, hmore, hread, hnext]

end MergeTrain.Toml
