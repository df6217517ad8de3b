import Mathlib.Data.List.Basic
import Mathlib.Data.List.TakeWhile
import MergeTrain.Proofs.Text
import MergeTrain.Toml.Printer
import MergeTrain.Toml.Reader

/-!
# Texts and keys read back

A text is written in one of four forms, and a key bare or in one of two. What is written is read
back, whatever stands in the text and whatever follows it, as long as that does not make it longer:
a quote must not follow a text, nor a character of a key a bare key.

The forms differ in their quotes and in what they escape, and strings on several lines may hold one
or two quotes in a row. They have one description nevertheless: between the quotes stand pieces,
each of which stands for one character, and quotes that stand for themselves, as many in a row as
the form allows. Reading takes quotes in a row at once, so the induction carries along how many of
them stand right before.

## Main definitions

* `Reader.Piece`, `Reader.Spells` — what is written between quotes, and what it stands for.

## Main results

* `Reader.Spells.run_linesBody`, `Reader.Spells.run_lineBody` — it is read as what it stands for.
* `Reader.Spells.escapedText`, `Reader.Spells.literal` — texts with and without escapes.
* `Reader.run_string_quotedText` — a text is read back.
* `Reader.run_keyPart_keyText` — a key is read back.
-/

namespace MergeTrain.Toml

open Text

namespace Reader

/-! ### Taking text -/

theorem forall_mem_head?_cons {p : Char → Prop} {c : Char} {s : List Char} :
    (∀ d ∈ (c :: s).head?, p d) ↔ p c := by
  simp

@[simp] theorem run_peek (s : List Char) : peek.run s = some (s.head?, s) :=
  rfl

@[simp] theorem run_advance (s : List Char) : advance.run s = some ((), s.tail) :=
  rfl

@[simp] theorem run_atEnd (s : List Char) : atEnd.run s = some (s.isEmpty, s) :=
  rfl

theorem run_discard {α : Type} (r : Reader α) (s : List Char) :
    (discard r).run s = (r.run s).map fun p => ((), p.2) := by
  rw [discard, LawfulFunctor.map_const, Function.comp_apply, StateT.run_map]
  rfl

theorem run_take? (lead : String) (s : List Char) :
    (take? lead).run s =
      some (((after? lead.toList s).map fun rest => (true, rest)).getD (false, s)) := by
  simp only [take?, StateT.run_bind, StateT.run_get]
  cases h : after? lead.toList s <;> simp [h]

theorem run_span_append {test : Char → Bool} {taken rest : List Char}
    (htaken : ∀ c ∈ taken, test c) (hrest : ∀ c ∈ rest.head?, test c = false) :
    (span test).run (taken ++ rest) = some (taken, rest) := by
  simp [span, takeWhile_append htaken hrest]

/-! ### Escapes -/

theorem hexValue?_hexDigit {n : Nat} (h : n < 16) :
    Json.hexValue? (Json.hexDigit n).toUpper = some n := by
  decide +revert

theorem run_codePoint_escaped {c : Char} (h : isHidden c) (rest : List Char) :
    (codePoint 4).run
        ('0' :: '0' :: (Json.hexDigit (c.toNat / 16)).toUpper ::
          (Json.hexDigit (c.toNat % 16)).toUpper :: rest) =
      some (c, rest) := by
  have hlow : c.toNat < 128 := by
    simp only [isHidden, Bool.or_eq_true, Bool.and_eq_true, decide_eq_true_eq, beq_iff_eq] at h
    omega
  have hzero : Json.hexValue? '0' = some 0 := by decide
  have hhigh := hexValue?_hexDigit (show c.toNat / 16 < 16 by omega)
  have hrest := hexValue?_hexDigit (show c.toNat % 16 < 16 by omega)
  simp [codePoint, hzero, hhigh, hrest, Nat.div_add_mod, show c.toNat < 55296 by omega]

/-! ### Bodies of strings -/

/-- The reader of the body of a string, on several lines or on one. -/
def body (long : Bool) : Char → Nat → List Char → Reader String :=
  if long then linesBody else lineBody

/-- How many quotes may stand in a row in a string without ending it. -/
def quoteLimit (long : Bool) : Nat :=
  if long then 2 else 0

/-- Some characters that stand for one, in a string between given quotes. -/
def Piece (long : Bool) (quote : Char) (written : List Char) (c : Char) : Prop :=
  (∃ d ∈ written.head?, d ≠ quote) ∧
    ∀ fuel done rest,
      (body long quote (fuel + 1) done).run (written ++ rest) =
        (body long quote fuel (c :: done)).run rest

/-- What is written between quotes, with the characters that it stands for. As many quotes as given
stand right before. -/
inductive Spells (long : Bool) (quote : Char) : Nat → List Char → List Char → Prop
  | nil {run : Nat} : run ≤ quoteLimit long → Spells long quote run [] []
  | quote {run : Nat} {written meant : List Char} :
      Spells long quote (run + 1) written meant →
        Spells long quote run (quote :: written) (quote :: meant)
  | piece {run : Nat} {lead written meant : List Char} {c : Char} :
      run ≤ quoteLimit long → Piece long quote lead c → Spells long quote 0 written meant →
        Spells long quote run (lead ++ written) (c :: meant)

theorem Spells.run_le {long : Bool} {quote : Char} {run : Nat} {written meant : List Char}
    (h : Spells long quote run written meant) : run ≤ quoteLimit long := by
  induction h with
  | nil hrun => exact hrun
  | quote _ ih => omega
  | piece hrun _ _ _ => exact hrun

theorem takeWhile_quotes (quote : Char) (run : Nat) {s : List Char} (hs : s.head? ≠ some quote) :
    (List.replicate run quote ++ s).takeWhile (· == quote) = List.replicate run quote :=
  takeWhile_append (by simp) fun _ hc => beq_eq_false_iff_ne.mpr fun heq => hs (heq ▸ hc)

/-- Quotes before another character are taken in one step. -/
theorem run_linesBody_quotes {quote : Char} {run : Nat} (hpos : 0 < run) (hrun : run ≤ 2)
    {s : List Char} (hs : s.head? ≠ some quote) (fuel : Nat) (done : List Char) :
    (linesBody quote (fuel + 1) done).run (List.replicate run quote ++ s) =
      (linesBody quote fuel (List.replicate run quote ++ done)).run s := by
  have hmin : min run 5 = run := by omega
  have hfew : run < 3 := by omega
  have hhead : (List.replicate run quote ++ s).head? = some quote := by
    simp [List.head?_append, List.head?_replicate, hpos.ne']
  rw [linesBody]
  simp [hhead, takeWhile_quotes quote run hs, hmin, hfew]

/-- Up to two quotes, and three that close the string. -/
theorem run_linesBody_closing {quote : Char} {run : Nat} (hrun : run ≤ 2) {s : List Char}
    (hs : s.head? ≠ some quote) (fuel : Nat) (done : List Char) :
    (linesBody quote (fuel + 1) done).run (List.replicate (run + 3) quote ++ s) =
      some (String.ofList (done.reverse ++ List.replicate run quote), s) := by
  have hmin : min (run + 3) 5 = run + 3 := by omega
  have hhead : (List.replicate (run + 3) quote ++ s).head? = some quote := by
    simp [List.head?_append, List.head?_replicate]
  rw [linesBody]
  simp [hhead, takeWhile_quotes quote (run + 3) hs, hmin, show ¬run + 3 < 3 by omega]

/-- **What is written between quotes on several lines is read as what it stands for.** -/
theorem Spells.run_linesBody {quote : Char} {run : Nat} {written meant : List Char}
    (h : Spells true quote run written meant) {rest : List Char}
    (hrest : rest.head? ≠ some quote) :
    ∀ {fuel : Nat}, run + meant.length < fuel → ∀ done : List Char,
      (linesBody quote fuel done).run
          (List.replicate run quote ++ (written ++ (List.replicate 3 quote ++ rest))) =
        some (String.ofList (done.reverse ++ (List.replicate run quote ++ meant)), rest) := by
  induction h with
  | nil hrun =>
    intro fuel hfuel done
    obtain ⟨fuel, rfl⟩ : ∃ n, fuel = n + 1 := ⟨fuel - 1, by omega⟩
    rw [List.nil_append, ← List.append_assoc, List.replicate_append_replicate, List.append_nil]
    exact run_linesBody_closing hrun hrest fuel done
  | @quote run written meant _ ih =>
    intro fuel hfuel done
    have hgrown := ih (show run + 1 + meant.length < fuel by simp at hfuel; omega) done
    simpa [List.replicate_succ', List.append_assoc] using hgrown
  | @piece run lead written meant c hrun hpiece _ ih =>
    intro fuel hfuel done
    simp only [List.length_cons] at hfuel
    -- The quotes before the piece are a step of their own, if there are any.
    have hstep : ∀ fuel done, meant.length + 1 < fuel →
        (linesBody quote fuel done).run
            (lead ++ (written ++ (List.replicate 3 quote ++ rest))) =
          some (String.ofList (done.reverse ++ c :: meant), rest) := by
      intro fuel done hfuel
      obtain ⟨fuel, rfl⟩ : ∃ n, fuel = n + 1 := ⟨fuel - 1, by omega⟩
      have hnext := ih (show 0 + meant.length < fuel by omega) (c :: done)
      rw [List.reverse_cons, List.append_assoc] at hnext
      exact (hpiece.2 fuel done _).trans hnext
    rcases Nat.eq_zero_or_pos run with rfl | hpos
    · simpa using hstep fuel done (by omega)
    · obtain ⟨fuel, rfl⟩ : ∃ n, fuel = n + 1 := ⟨fuel - 1, by omega⟩
      obtain ⟨d, hd, hne⟩ := hpiece.1
      have hhead : (lead ++ (written ++ (List.replicate 3 quote ++ rest))).head? ≠ some quote := by
        rw [Option.mem_def.mp (List.mem_head?_append_of_mem_head? hd)]
        simpa using hne
      rw [List.append_assoc, run_linesBody_quotes hpos hrun hhead, hstep _ _ (by omega)]
      simp

/-- **What is written between quotes on one line is read as what it stands for.** -/
theorem Spells.run_lineBody {quote : Char} {written meant : List Char}
    (h : Spells false quote 0 written meant) (rest : List Char) :
    ∀ {fuel : Nat}, meant.length < fuel → ∀ done : List Char,
      (lineBody quote fuel done).run (written ++ quote :: rest) =
        some (String.ofList (done.reverse ++ meant), rest) := by
  generalize hrun : 0 = run at h
  induction h with
  | nil _ =>
    intro fuel hfuel done
    obtain ⟨fuel, rfl⟩ : ∃ n, fuel = n + 1 := ⟨fuel - 1, by omega⟩
    simp [lineBody]
  | quote h _ => exact absurd h.run_le (by simp [quoteLimit])
  | @piece _ _ _ _ c _ hpiece _ ih =>
    intro fuel hfuel done
    obtain ⟨fuel, rfl⟩ : ∃ n, fuel = n + 1 := ⟨fuel - 1, by omega⟩
    have hnext := ih rfl (Nat.lt_of_succ_lt_succ hfuel) (c :: done)
    rw [List.reverse_cons, List.append_assoc] at hnext
    rw [List.append_assoc]
    exact (hpiece.2 fuel done _).trans hnext

theorem run_newline?_of_head {s : List Char} (h : ∀ c ∈ s.head?, c ≠ '\n' ∧ c ≠ '\r') :
    newline?.run s = some (false, s) := by
  cases s with
  | nil => rfl
  | cons c s =>
    obtain ⟨hfeed, hreturn⟩ := h c rfl
    simp [newline?, run_take?, after?, hfeed.symm, hreturn.symm]

theorem run_gap_of_head {s : List Char} (h : ∀ c ∈ s.head?, isGap c = false) :
    gap.run s = some ((), s) := by
  have hspan : (span isGap).run ([] ++ s) = some ([], s) := run_span_append (by simp) h
  simp_all [gap, run_discard]

theorem run_joinedLines_of_head {s : List Char} (hgap : ∀ c ∈ s.head?, isGap c = false)
    (hline : ∀ c ∈ s.head?, c ≠ '\n' ∧ c ≠ '\r') : joinedLines.run s = some (false, s) := by
  simp [joinedLines, run_gap_of_head hgap, run_newline?_of_head hline]

theorem isPlain_iff {c : Char} : isPlain c ↔ ¬isHidden c ∧ c ≠ '\n' := by
  by_cases htab : c = '\t'
  · subst htab; decide
  by_cases hfeed : c = '\n'
  · subst hfeed; decide
  simp [isPlain, isHidden, htab, hfeed]

theorem isPlain_ne_lineEnd {c : Char} (h : isPlain c) : c ≠ '\n' ∧ c ≠ '\r' := by
  constructor <;> (rintro rfl; exact absurd h (by decide))

/-- A character that stands for itself. -/
theorem Piece.plain (long : Bool) {quote c : Char} (hplain : isPlain c) (hquote : c ≠ quote)
    (hslash : c ≠ '\\' ∨ quote ≠ '\"') : Piece long quote [c] c := by
  refine ⟨⟨c, rfl, hquote⟩, fun fuel done rest => ?_⟩
  have hescape : ¬(c = '\\' ∧ quote = '\"') := fun h => hslash.elim (· h.1) (· h.2)
  cases long with
  | false => simp [body, lineBody, hquote, hescape, hplain]
  | true =>
    have hline := run_newline?_of_head (s := c :: rest) (by simpa using isPlain_ne_lineEnd hplain)
    simp [body, linesBody, hquote, hescape, hplain, hline]

/-- The end of a line, in a string on several lines. -/
theorem Piece.lineFeed {quote : Char} (hquote : '\n' ≠ quote) : Piece true quote ['\n'] '\n' := by
  refine ⟨⟨'\n', rfl, hquote⟩, fun fuel done rest => ?_⟩
  simp [body, linesBody, hquote, newline?, run_take?, after?]

/-- An escape. -/
theorem Piece.escape (long : Bool) {code : List Char} {c d : Char} (hd : d ∈ code.head?)
    (hgap : isGap d = false) (hline : d ≠ '\n' ∧ d ≠ '\r')
    (hreads : ∀ rest, Reader.escape.run (code ++ rest) = some (c, rest)) :
    Piece long '\"' ('\\' :: code) c := by
  refine ⟨⟨'\\', rfl, by decide⟩, fun fuel done rest => ?_⟩
  cases long with
  | false => simp [body, lineBody, hreads]
  | true =>
    have hhead := Option.mem_def.mp (List.mem_head?_append_of_mem_head? (t := rest) hd)
    have hjoin : joinedLines.run (code ++ rest) = some (false, code ++ rest) :=
      run_joinedLines_of_head (by simpa [hhead] using hgap) (by simpa [hhead] using hline)
    simp [body, linesBody, hjoin, hreads]

/-- A character other than a quote, as it is written between double quotes. -/
theorem Piece.escaped (long : Bool) {c : Char} (hquote : c ≠ '\"') :
    Piece long '\"' (escaped long c) c := by
  unfold Toml.escaped
  split
  · exact Piece.escape long rfl (by decide) (by decide) fun _ => rfl
  · exact Piece.escape long rfl (by decide) (by decide) fun _ => rfl
  · cases long with
    | false => exact Piece.escape false rfl (by decide) (by decide) fun _ => rfl
    | true => exact Piece.lineFeed (by decide)
  · exact Piece.escape long rfl (by decide) (by decide) fun _ => rfl
  · exact Piece.escape long rfl (by decide) (by decide) fun _ => rfl
  · exact Piece.escape long rfl (by decide) (by decide) fun _ => rfl
  · split
    next hhidden =>
      refine Piece.escape long rfl (by decide) (by decide) fun rest => ?_
      simp [Reader.escape, run_codePoint_escaped hhidden]
    next hfeed _ _ hslash hhidden =>
      have hplain : isPlain c := isPlain_iff.mpr ⟨hhidden, hfeed⟩
      exact Piece.plain long hplain hquote (.inl hslash)

/-- A text with escapes, up to two quotes in a row left as they are if that is allowed. -/
theorem Spells.escapedText (long : Bool) (s : List Char) :
    ∀ {run : Nat}, run ≤ quoteLimit long → Spells long '\"' run (escapedText long run s) s := by
  induction s with
  | nil => exact fun hrun => .nil hrun
  | cons c s ih =>
    intro run hrun
    rw [Toml.escapedText]
    split
    next hquote =>
      subst hquote
      split
      next hshort =>
        obtain ⟨rfl, hlt⟩ : long = true ∧ run < 2 := by simpa using hshort
        exact .quote (ih hlt)
      next _ =>
        have hpiece : Piece long '\"' ['\\', '\"'] '\"' :=
          Piece.escape long rfl (by decide) (by decide) fun _ => rfl
        exact .piece hrun hpiece (ih (Nat.zero_le _))
    next hquote => exact .piece hrun (Piece.escaped long hquote) (ih (Nat.zero_le _))

/-- A text as it is, between single quotes. -/
theorem Spells.literal {long : Bool} {s : List Char}
    (hplain : ∀ c ∈ s, isPlain c ∨ long = true ∧ c = '\n') :
    ∀ {run : Nat}, longestRun.go '\'' run s ≤ quoteLimit long → Spells long '\'' run s s := by
  induction s with
  | nil => exact fun hrun => .nil hrun
  | cons c s ih =>
    intro run hrun
    rw [longestRun.go] at hrun
    have hnext := @ih fun d hd => hplain d (List.mem_cons_of_mem c hd)
    split at hrun
    next hquote =>
      subst hquote
      exact .quote (hnext hrun)
    next hquote =>
      obtain ⟨hbefore, hafter⟩ := Nat.max_le.mp hrun
      have hpiece : Piece long '\'' [c] c := by
        rcases hplain c List.mem_cons_self with hc | ⟨rfl, rfl⟩
        · exact Piece.plain long hc hquote (.inr (by decide))
        · exact Piece.lineFeed (by decide)
      exact .piece hbefore hpiece (hnext hafter)

/-! ### Strings -/

theorem Spells.length_le {long : Bool} {quote : Char} {run : Nat} {written meant : List Char}
    (h : Spells long quote run written meant) : meant.length ≤ written.length := by
  induction h with
  | nil _ => exact Nat.le_refl _
  | quote _ ih => simpa using ih
  | piece _ hpiece _ ih =>
    obtain ⟨d, hd, -⟩ := hpiece.1
    have hpos := List.length_pos_iff.mpr (List.ne_nil_of_mem (List.mem_of_mem_head? hd))
    simp only [List.length_cons, List.length_append]
    omega

theorem Spells.head?_ne {quote : Char} {written meant : List Char}
    (h : Spells false quote 0 written meant) : written.head? ≠ some quote := by
  generalize hrun : 0 = run at h
  cases h with
  | nil _ => simp
  | quote h => exact absurd h.run_le (by simp [quoteLimit])
  | piece _ hpiece _ =>
    obtain ⟨d, hd, hne⟩ := hpiece.1
    rw [Option.mem_def.mp (List.mem_head?_append_of_mem_head? hd)]
    simpa using hne

theorem Spells.run_lineString {quote : Char} (hquote : quote = '\"' ∨ quote = '\'')
    {written meant : List Char} (h : Spells false quote 0 written meant) (rest : List Char) :
    lineString.run (quote :: (written ++ quote :: rest)) = some (String.ofList meant, rest) := by
  have hlength := h.length_le
  have hfuel : meant.length < written.length + (rest.length + 1) + 1 + 1 := by omega
  have hbody := h.run_lineBody rest hfuel []
  rcases hquote with rfl | rfl <;>
    simpa [lineString, expect, run_take?, after?] using hbody

/-- A string on one line is not taken for one on several lines. -/
theorem Spells.run_string_of_line {quote : Char} (hquote : quote = '\"' ∨ quote = '\'')
    {written meant : List Char} (h : Spells false quote 0 written meant) {rest : List Char}
    (hrest : rest.head? ≠ some quote) :
    string.run (quote :: (written ++ quote :: rest)) = some (String.ofList meant, rest) := by
  have hnot : ¬[quote, quote] <+: written ++ quote :: rest := by
    have hhead := h.head?_ne
    cases written with
    | nil => cases rest <;> simp_all [eq_comm]
    | cons d written => simp_all [eq_comm]
  have hline := h.run_lineString hquote rest
  rcases hquote with rfl | rfl <;>
    simpa [string, run_take?, after?, hnot] using hline

/-- A line feed or nothing, before the body of a string on several lines. -/
theorem run_discard_newline? {start s : List Char}
    (h : start = ['\n'] ∨ start = [] ∧ ∀ c ∈ s.head?, c ≠ '\n' ∧ c ≠ '\r') :
    (discard newline?).run (start ++ s) = some ((), s) := by
  rcases h with rfl | ⟨rfl, hhead⟩
  · simp [run_discard, newline?, run_take?, after?]
  · simp [run_discard, run_newline?_of_head hhead]

theorem Spells.run_string_of_lines {quote : Char} (hquote : quote = '\"' ∨ quote = '\'')
    {start written meant : List Char} (h : Spells true quote 0 written meant)
    (hstart : start = ['\n'] ∨ start = [] ∧ ∀ c ∈ written.head?, c ≠ '\n' ∧ c ≠ '\r')
    {rest : List Char} (hrest : rest.head? ≠ some quote) :
    string.run
        (List.replicate 3 quote ++ (start ++ (written ++ (List.replicate 3 quote ++ rest)))) =
      some (String.ofList meant, rest) := by
  have hskip : (discard newline?).run (start ++ (written ++ (List.replicate 3 quote ++ rest))) =
      some ((), written ++ (List.replicate 3 quote ++ rest)) := by
    refine run_discard_newline? (hstart.imp_right fun hhead => ⟨hhead.1, ?_⟩)
    cases written with
    | nil => rcases hquote with rfl | rfl <;> simp
    | cons d written => exact hhead.2
  have hopen : ∀ s, string.run (List.replicate 3 quote ++ s) =
      (do discard newline?; linesBody quote (s.length + 4) [] : Reader String).run s := by
    intro s
    rcases hquote with rfl | rfl <;>
      simp [string, run_take?, after?, List.replicate_succ]
  have hlength := h.length_le
  have hfuel : 0 + meant.length <
      (start ++ (written ++ (List.replicate 3 quote ++ rest))).length + 4 := by
    simp
    omega
  have hbody := h.run_linesBody hrest hfuel []
  rw [hopen, StateT.run_bind, hskip]
  simpa using hbody

/-! ### Texts in their form -/

theorem isPlain_of_not_any_isHidden {s : List Char} (h : s.any isHidden = false) {c : Char}
    (hc : c ∈ s) : isPlain c ∨ c = '\n' := by
  by_cases hfeed : c = '\n'
  · exact .inr hfeed
  · exact .inl (isPlain_iff.mpr ⟨by simpa using List.any_eq_false.mp h c hc, hfeed⟩)

/-- What a form without escapes asks of a text. -/
theorem form_spec (s : List Char) :
    (form s = .literal →
      (∀ c ∈ s, isPlain c ∨ c = '\n') ∧ longestRun '\'' s = 0 ∧ '\n' ∉ s) ∧
    (form s = .longLiteral → (∀ c ∈ s, isPlain c ∨ c = '\n') ∧ longestRun '\'' s ≤ 2) := by
  have hplain := @isPlain_of_not_any_isHidden s
  unfold form
  dsimp only
  split_ifs <;> simp_all

theorem opening_eq (s : List Char) : opening s = ['\n'] ∨ opening s = [] ∧ '\n' ∉ s := by
  unfold opening
  split_ifs with h
  · exact .inl rfl
  · exact .inr ⟨rfl, by simpa using h⟩

/-- A text with escapes begins with no line end unless it stands for one. -/
theorem isPlain_head?_escapedText {s : List Char} (h : '\n' ∉ s) (long : Bool) :
    ∀ c ∈ (Toml.escapedText long 0 s).head?, isPlain c := by
  cases s with
  | nil => simp [Toml.escapedText]
  | cons d s =>
    have hfeed : d ≠ '\n' := fun hd => h (by simp [hd])
    rw [Toml.escapedText]
    split_ifs
    · simpa using by decide
    · simpa using by decide
    · unfold Toml.escaped
      split <;> try simpa using by decide
      · contradiction
      · split
        · simpa using by decide
        next hhidden => simpa using isPlain_iff.mpr ⟨hhidden, hfeed⟩

/-- **A text in its form is read back**, where no quote follows. -/
theorem run_string_quotedText (text : String) {rest : List Char}
    (hrest : ∀ c ∈ rest.head?, c ≠ '\"' ∧ c ≠ '\'') :
    string.run ((quotedText text).toList ++ rest) = some (text, rest) := by
  have hdouble : rest.head? ≠ some '\"' := fun h => (hrest _ h).1 rfl
  have hsingle : rest.head? ≠ some '\'' := fun h => (hrest _ h).2 rfl
  obtain ⟨hliteral, hlong⟩ := form_spec text.toList
  rw [quotedText, String.toList_ofList]
  cases hform : form text.toList with
  | basic =>
    have hspells := Spells.escapedText false text.toList (Nat.zero_le _)
    simpa [inForm] using hspells.run_string_of_line (.inl rfl) hdouble
  | literal =>
    obtain ⟨hplain, hsingles, hfeed⟩ := hliteral hform
    have hspells : Spells false '\'' 0 text.toList text.toList :=
      Spells.literal (fun c hc => .inl ((hplain c hc).resolve_right fun h => hfeed (h ▸ hc)))
        hsingles.le
    simpa [inForm] using hspells.run_string_of_line (.inr rfl) hsingle
  | longBasic =>
    have hspells := Spells.escapedText true text.toList (Nat.zero_le _)
    have hstart := (opening_eq text.toList).imp_right fun h => And.intro h.1 fun c hc =>
      isPlain_ne_lineEnd (isPlain_head?_escapedText h.2 true c hc)
    simpa [inForm] using hspells.run_string_of_lines (.inl rfl) hstart hdouble
  | longLiteral =>
    obtain ⟨hplain, hsingles⟩ := hlong hform
    have hspells : Spells true '\'' 0 text.toList text.toList :=
      Spells.literal (fun c hc => (hplain c hc).imp_right (And.intro rfl)) hsingles
    have hstart := (opening_eq text.toList).imp_right fun h => And.intro h.1 fun c hc =>
      isPlain_ne_lineEnd ((hplain c (List.mem_of_mem_head? hc)).resolve_right
        fun hfeed => h.2 (hfeed ▸ List.mem_of_mem_head? hc))
    simpa [inForm] using hspells.run_string_of_lines (.inr rfl) hstart hsingle

/-! ### Keys -/

theorem longestRun_go_eq_zero {c : Char} {s : List Char} (h : c ∉ s) : longestRun.go c 0 s = 0 := by
  induction s with
  | nil => rfl
  | cons d s ih =>
    rw [List.mem_cons, not_or] at h
    simp [longestRun.go, Ne.symm h.1, ih h.2]

/-- What the form of a key asks of it. -/
theorem keyForm_spec (s : List Char) :
    keyForm s = .basic ∨ keyForm s = .literal ∧ (∀ c ∈ s, isPlain c) ∧ '\'' ∉ s := by
  have hplain : s.any (fun c => isHidden c || c == '\n') = false → ∀ c ∈ s, isPlain c := by
    intro h c hc
    have hvisible := List.any_eq_false.mp h c hc
    rw [isPlain_iff]
    simpa using hvisible
  unfold keyForm
  dsimp only
  split_ifs <;> simp_all

theorem isKeyChar_ne_quote {c : Char} (h : isKeyChar c) : c ≠ '\"' ∧ c ≠ '\'' := by
  constructor <;> (rintro rfl; exact absurd h (by decide))

theorem isBare_iff {s : List Char} : isBare s ↔ s ≠ [] ∧ ∀ c ∈ s, isKeyChar c := by
  simp [isBare, isKeyChar]

/-- **A key as written is read back**, where no character of a key follows. -/
theorem run_keyPart_keyText (key : String) {rest : List Char}
    (hrest : ∀ c ∈ rest.head?, isKeyChar c = false) :
    keyPart.run ((keyText key).toList ++ rest) = some (key, rest) := by
  rw [keyText]
  split_ifs with hbare
  · obtain ⟨hne, hchars⟩ := isBare_iff.mp hbare
    have hquote : (key.toList ++ rest).head?.any (fun c => c == '\"' || c == '\'') = false := by
      cases hkey : key.toList with
      | nil => exact absurd hkey hne
      | cons c chars =>
        simpa using isKeyChar_ne_quote (hchars c (by simp [hkey]))
    simp [keyPart, hquote, run_span_append hchars hrest, hne, -List.head?_append]
  · rw [String.toList_ofList]
    rcases keyForm_spec key.toList with hform | ⟨hform, hplain, hquote⟩
    · have hspells := Spells.escapedText false key.toList (Nat.zero_le _)
      have hline := hspells.run_lineString (.inl rfl) rest
      simpa [hform, inForm, keyPart] using hline
    · have hspells : Spells false '\'' 0 key.toList key.toList :=
        Spells.literal (fun c hc => .inl (hplain c hc)) (longestRun_go_eq_zero hquote).le
      have hline := hspells.run_lineString (.inr rfl) rest
      simpa [hform, inForm, keyPart] using hline

end Reader

end MergeTrain.Toml
