import MergeTrain.Json.Printer
import MergeTrain.Json.Token
import MergeTrain.Proofs.Decimal

/-!
# Tokens of printed texts

The scanner finds in a printed text the tokens that were printed, one after the other. A string ends
with its quote and a bracket is a token by itself, so these are found whatever comes after them. A
number or a word ends only where something begins that cannot go on with it.

## Main definitions

* `EndsScalar` — what may come after a number or a word.

## Main results

* `tokens?_cons` — a token of one character.
* `tokens?_toString`, `tokens?_null`, `tokens?_bool` — a number and the words.
* `tokens?_quoted` — a string, whatever its characters.
-/

namespace MergeTrain.Json

open Text

variable {s rest done : List Char} {c : Char} {t : Token}

/-! ### Steps of the scanner -/

namespace Scan

/-- Tokens that were found before go in front. -/
theorem run_eq (found : List Token) (scan : Scan) (s : List Char) :
    run found scan s = (run [] scan s).map (found.reverse ++ ·) := by
  induction s generalizing found scan with
  | nil => cases h : scan.finish <;> simp [run, h]
  | cons c s ih =>
    cases h : scan.step c with
    | none => simp [run, h]
    | some next =>
      obtain ⟨next, more⟩ := next
      simp only [run, h]
      rw [ih (more.reverse ++ found), ih (more.reverse ++ []), Option.map_map]
      congr 1
      funext later
      simp

theorem run_cons {scan next : Scan} {more : List Token} (h : scan.step c = some (next, more)) :
    run [] scan (c :: rest) = (run [] next rest).map (more ++ ·) := by
  simp only [run, h]
  rw [run_eq]
  simp

/-- A character that completes no token. -/
theorem run_cons_nil {scan next : Scan} (h : scan.step c = some (next, [])) :
    run [] scan (c :: rest) = run [] next rest := by
  rw [run_cons h]
  simp

theorem run_cons_none {scan : Scan} (h : scan.step c = none) : run [] scan (c :: rest) = none := by
  rw [run, h]

theorem resume_some (t : Token) (c : Char) :
    resume (some t) c = (step .between c).map fun next => (next.1, t :: next.2) := by
  cases h : start c <;> simp [resume, step, h]

/-- A scalar that ends where it cannot go on. -/
theorem run_of_ends {scan : Scan} (hfinish : scan.finish = some [t])
    (hstep : ∀ c ∈ rest.head?, scan.step c = resume (some t) c) :
    run [] scan rest = (run [] .between rest).map (t :: ·) := by
  cases rest with
  | nil =>
    rw [run, hfinish]
    rfl
  | cons c rest =>
    have hresume := hstep c rfl
    rw [resume_some] at hresume
    cases hstart : step .between c with
    | none =>
      rw [hstart] at hresume
      rw [run_cons_none hresume, run_cons_none hstart]
      rfl
    | some next =>
      rw [hstart] at hresume
      rw [run_cons hresume, run_cons hstart, Option.map_map]
      rfl

end Scan

open Scan

/-- **A token of one character.** -/
theorem tokens?_cons (h : step .between c = some (.between, [t])) :
    tokens? (c :: rest) = (tokens? rest).map (t :: ·) :=
  run_cons h

/-! ### Numbers and words -/

/-- Neither a number nor a word goes on. -/
def EndsScalar (rest : List Char) : Prop :=
  ∀ c ∈ rest.head?, isNumberChar c = false ∧ ('a' ≤ c && c ≤ 'z') = false

theorem endsScalar_nil : EndsScalar [] :=
  nofun

theorem endsScalar_cons (hnumber : isNumberChar c = false) (hword : ('a' ≤ c && c ≤ 'z') = false)
    (rest : List Char) : EndsScalar (c :: rest) := by
  intro d hd
  obtain rfl : c = d := by simpa using hd
  exact ⟨hnumber, hword⟩

theorem run_number (h : EndsScalar rest) (ht : number? done.reverse = some t) :
    run [] (.number done) rest = (tokens? rest).map (t :: ·) := by
  refine run_of_ends (by simp [finish, ht]) fun c hc => ?_
  rw [step, if_neg (by simp [(h c hc).1]), ht]

theorem run_word (h : EndsScalar rest) (ht : word? done.reverse = some t) :
    run [] (.word done) rest = (tokens? rest).map (t :: ·) := by
  refine run_of_ends (by simp [finish, ht]) fun c hc => ?_
  rw [step, if_neg (by simp [(h c hc).2]), ht]

/-- A number goes on with every character of numbers. -/
theorem run_number_append (hs : ∀ c ∈ s, isNumberChar c = true) :
    run [] (.number done) (s ++ rest) = run [] (.number (s.reverse ++ done)) rest := by
  induction s generalizing done with
  | nil => rfl
  | cons c s ih =>
    obtain ⟨hc, hs⟩ := List.forall_mem_cons.mp hs
    have hstep : (Scan.number done).step c = some (.number (c :: done), []) := if_pos hc
    rw [List.cons_append, run_cons_nil hstep, ih hs]
    simp

theorem isNumberChar_of_isDigit (h : isDigit c = true) : isNumberChar c = true := by
  simp [isNumberChar, h]

theorem step_of_isDigit (h : isDigit c = true) :
    step .between c = some (.number [c], []) := by
  have hne : ∀ d, isDigit d = false → ¬c = d := by
    rintro d hd rfl
    simp [h] at hd
  simp (disch := decide) [step, start, h, hne]

/-- The digits of a number are read as the number, with no needless zero in front. -/
theorem unsignedNumber?_toDigits {negative : Bool} {n : Nat} (h : negative = true → n ≠ 0) :
    unsignedNumber? negative (Nat.toDigits 10 n) =
      some (.int (if negative then -Int.ofNat n else Int.ofNat n)) := by
  have hdigits : ∀ c ∈ Nat.toDigits 10 n, isDigit c = true := fun _ => isDigit_of_mem_toDigits
  have htake : (Nat.toDigits 10 n).takeWhile isDigit = Nat.toDigits 10 n :=
    List.takeWhile_eq_self_iff.mpr hdigits
  have hdrop : (Nat.toDigits 10 n).dropWhile isDigit = [] := List.dropWhile_eq_nil_iff.mpr hdigits
  have hzero : (Nat.toDigits 10 n).length > 1 → (Nat.toDigits 10 n).head? ≠ some '0' := by
    intro hlong
    refine head?_toDigits_ne_zero (Nat.pos_of_ne_zero ?_)
    rintro rfl
    simp at hlong
  have hshape : ((Nat.toDigits 10 n).isEmpty || ((Nat.toDigits 10 n).length > 1 &&
      (Nat.toDigits 10 n).head? == some '0')) = false := by
    simpa using hzero
  simp only [unsignedNumber?, htake, hdrop, hshape, natOfDigits_toDigits]
  cases negative with
  | false => rfl
  | true => simp [h rfl]

theorem number?_toString (v : Int) : number? (toString v).toList = some (.int v) := by
  rw [toList_toString_int]
  split
  · next hv =>
    have hdigits : ∀ s, Nat.toDigits 10 v.toNat ≠ '-' :: s := fun s =>
      ((isNumeral_toDigits v.toNat).head_ne s).2
    rw [number?.eq_2 _ hdigits, unsignedNumber?_toDigits Bool.noConfusion]
    simpa using hv
  · next hv =>
    rw [number?, unsignedNumber?_toDigits fun _ => by omega]
    simp
    omega

/-- **An integer is found where it is written.** -/
theorem tokens?_toString (h : EndsScalar rest) (v : Int) :
    tokens? ((toString v).toList ++ rest) = (tokens? rest).map (.int v :: ·) := by
  have hstart : ∃ c s, (toString v).toList = c :: s ∧
      step .between c = some (.number [c], []) ∧ ∀ c ∈ s, isNumberChar c = true := by
    rw [toList_toString_int]
    split
    · have hdigits : ∀ c ∈ Nat.toDigits 10 v.toNat, isDigit c = true :=
        fun _ => isDigit_of_mem_toDigits
      obtain ⟨c, s, hs⟩ := List.exists_cons_of_ne_nil (@Nat.toDigits_ne_nil v.toNat 10)
      rw [hs] at hdigits ⊢
      obtain ⟨hc, hrest⟩ := List.forall_mem_cons.mp hdigits
      exact ⟨c, s, rfl, step_of_isDigit hc, fun c hc => isNumberChar_of_isDigit (hrest c hc)⟩
    · exact ⟨'-', _, rfl, rfl, fun c hc => isNumberChar_of_isDigit (isDigit_of_mem_toDigits hc)⟩
  obtain ⟨c, s, hs, hc, hrest⟩ := hstart
  have hnumber := number?_toString v
  rw [hs] at hnumber ⊢
  rw [tokens?, List.cons_append, run_cons_nil hc, run_number_append hrest]
  exact run_number h (by simpa using hnumber)

theorem tokens?_null (h : EndsScalar rest) :
    tokens? ("null".toList ++ rest) = (tokens? rest).map (.null :: ·) :=
  run_word h rfl

theorem tokens?_bool (h : EndsScalar rest) (b : Bool) :
    tokens? ((if b then "true" else "false").toList ++ rest) =
      (tokens? rest).map (.bool b :: ·) := by
  cases b with
  | true => exact run_word h rfl
  | false => exact run_word h rfl

/-! ### Strings -/

theorem hexValue?_hexDigit : ∀ n < 16, hexValue? (hexDigit n) = some n := by
  decide

theorem step_hexDigit {q : Quote} {left value n : Nat} (hn : n < 16) (hleft : ¬left ≤ 1) :
    step (.unicode q left value) (hexDigit n) =
      some (.unicode q (left - 1) (16 * value + n), []) := by
  simp [step, hexValue?_hexDigit n hn, hleft]

theorem step_hexDigit_last {q : Quote} {value n : Nat} (hn : n < 16) :
    step (.unicode q 1 value) (hexDigit n) = some (.quote (q.pushUnit (16 * value + n)), []) := by
  simp [step, hexValue?_hexDigit n hn]

/-- A unit that is half of no pair is a character. -/
theorem pushUnit_of_lt {q : Quote} {unit : Nat} (hhigh : q.high = none) (hunit : unit < 0xD800) :
    q.pushUnit unit = ⟨Char.ofNat unit :: q.done, none, q.broken⟩ := by
  have hnotHigh : (decide (0xD800 ≤ unit) && decide (unit < 0xDC00)) = false := by simp; omega
  have hnotLow : (decide (0xDC00 ≤ unit) && decide (unit < 0xE000)) = false := by simp; omega
  simp [Quote.pushUnit, hhigh, hnotHigh, hnotLow]

/-- A character is read back from what stands for it inside a string. -/
theorem run_escapeChar (done : List Char) (c : Char) (rest : List Char) :
    run [] (.quote ⟨done, none, false⟩) (escapeChar c ++ rest) =
      run [] (.quote ⟨c :: done, none, false⟩) rest := by
  rw [escapeChar]
  split
  · next h =>
    obtain rfl : c = '\"' := by simpa using h
    rfl
  split
  · next h =>
    obtain rfl : c = '\\' := by simpa using h
    rfl
  split
  · next hcontrol =>
    show run [] (.unicode ⟨done, none, false⟩ 2 0)
      (hexDigit (c.toNat / 16) :: hexDigit (c.toNat % 16) :: rest) = _
    have hvalue : 16 * (16 * 0 + c.toNat / 16) + c.toNat % 16 = c.toNat := by omega
    rw [run_cons_nil (step_hexDigit (by omega) (by decide)),
      run_cons_nil (step_hexDigit_last (by omega)), pushUnit_of_lt rfl (by omega), hvalue,
      Char.ofNat_toNat]
  · next hquote hslash hcontrol =>
    refine run_cons_nil ?_
    simp [step, Quote.push, hquote, hslash, hcontrol]

/-- **A string is found where it is written**, whatever its characters. -/
theorem tokens?_quoted (s : String) :
    tokens? ((quoted s).toList ++ rest) = (tokens? rest).map (.string s :: ·) := by
  -- The characters that are done stand last first, so the statement is about any of them.
  have hchars : ∀ done, run [] (.quote ⟨done, none, false⟩)
      (s.toList.flatMap escapeChar ++ '\"' :: rest) =
        (tokens? rest).map (.string (String.ofList (done.reverse ++ s.toList)) :: ·) := by
    induction s.toList with
    | nil =>
      intro done
      have hend : step (.quote ⟨done, none, false⟩) '\"' =
          some (.between, [.string (String.ofList done.reverse)]) := rfl
      rw [List.flatMap_nil, List.nil_append, run_cons hend]
      simp [tokens?]
    | cons c s ih =>
      intro done
      rw [List.flatMap_cons, List.append_assoc, run_escapeChar, ih]
      simp
  have htext : (quoted s).toList ++ rest =
      '\"' :: (s.toList.flatMap escapeChar ++ '\"' :: rest) := by
    simp [quoted]
  rw [htext, tokens?, run_cons_nil rfl, hchars]
  simp

end MergeTrain.Json
