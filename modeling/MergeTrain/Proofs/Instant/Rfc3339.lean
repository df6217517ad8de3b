import MergeTrain.Instant.Rfc3339
import MergeTrain.Proofs.Decimal
import MergeTrain.Proofs.Except
import MergeTrain.Proofs.Instant.Calendar

/-!
# Instants read back

Reading is lenient and writing is not: of the many texts of an instant one is written. It is read
back whatever the instant is, in a year of any number of digits on either side of year zero, with
any part of a second and within a leap second.

What is written is a row of numerals, each of a fixed width, and what follows each of them is no
digit. That alone brings every reader to the number and to what follows, so the text is gone through
from left to right. The parts that come out are those of the instant: its day number has a date that
exists, and the sixtieth second is written just for the last second of a minute with more
nanoseconds than a second has.

## Main results

* `Instant.isNumeral_padded`, `Instant.length_padded` — numerals of a fixed width.
* `Instant.readYear?_yearText`, `Instant.readFraction?_fractionText` — the parts that have no width.
* `Instant.ofLocal?_of_parts` — the instant that the parts make.
* `Instant.ofText?_toText` — an instant is read back from its text.
-/

namespace MergeTrain.Instant

open Text Calendar

variable {s rest : List Char} {n width most : Nat} {t : Instant}

/-! ### Numerals of a fixed width -/

theorem padded_eq (width n : Nat) :
    padded width n =
      List.replicate (width - (Nat.toDigits 10 n).length) '0' ++ Nat.toDigits 10 n := by
  rw [padded, toList_toString_nat]

/-- Zeros in front do not change a number. -/
theorem isNumeral_padded (width n : Nat) : IsNumeral (padded width n) n := by
  have hdigits := isNumeral_toDigits n
  rw [padded_eq]
  constructor
  · exact List.append_ne_nil_of_right_ne_nil _ hdigits.nonempty
  · intro c hc
    rcases List.mem_append.mp hc with hzero | hc
    · rw [List.eq_of_mem_replicate hzero]
      rfl
    · exact hdigits.digits c hc
  · rw [← natOfDigits_eq_ofDigits, natOfDigits_replicate_zero_append, natOfDigits_toDigits]

theorem length_padded (hpos : 0 < width) (h : n < 10 ^ width) :
    (padded width n).length = width := by
  have hlength := Nat.toDigits_length 10 n width hpos h
  rw [padded_eq, List.length_append, List.length_replicate]
  omega

/-! ### What follows a numeral -/

/-- A text that does not go on with a digit. -/
def EndsDigits (rest : List Char) : Prop :=
  ∀ c ∈ rest.head?, isDigit c = false

theorem takeWhile_isDigit_append (hs : IsNumeral s n) (hrest : EndsDigits rest) :
    (s ++ rest).takeWhile isDigit = s :=
  takeWhile_append hs.digits hrest

/-- A digit is no blank. -/
theorem isBlank_of_isDigit {c : Char} (h : isDigit c = true) : isBlank c = false := by
  have hrange : 48 ≤ c.toNat ∧ c.toNat ≤ 57 := by
    simpa [isDigit, Char.le_def, UInt32.le_iff_toNat_le] using h
  simp only [isBlank, Bool.or_eq_false_iff, Bool.and_eq_false_iff, decide_eq_false_iff_not,
    beq_eq_false_iff_ne]
  omega

theorem trimStart_append (hs : IsNumeral s n) : trimStart (s ++ rest) = s ++ rest := by
  rw [trimStart_eq_self_iff]
  intro c hc
  obtain ⟨d, digits, rfl⟩ := List.exists_cons_of_ne_nil hs.nonempty
  obtain rfl : d = c := by simpa using hc
  exact isBlank_of_isDigit (hs.digits d List.mem_cons_self)

/-- A numeral that is not too long is read. -/
theorem readDigits?_append (hs : IsNumeral s n) (hlength : s.length ≤ most)
    (hrest : EndsDigits rest) : readDigits? most (s ++ rest) = some (n, rest) := by
  have hne : s.isEmpty = false := by simpa using hs.nonempty
  rw [readDigits?, takeWhile_isDigit_append hs hrest, List.take_of_length_le hlength]
  simp [hne, hs.natOfDigits_eq]

/-- Two digits are read. -/
theorem readPart?_padded (hlimit : most < 100) (hn : n ≤ most) (hrest : EndsDigits rest) :
    readPart? most (padded 2 n ++ rest) = some (n, rest) := by
  have hlength : (padded 2 n).length = 2 := length_padded (by decide) (by omega)
  rw [readPart?, trimStart_append (isNumeral_padded 2 n),
    readDigits?_append (isNumeral_padded 2 n) (by omega) hrest]
  simpa using hn

theorem readMark?_cons {mark : Char} (h : isBlank mark = false) (rest : List Char) :
    readMark? mark (mark :: rest) = some rest := by
  have htrim : trimStart (mark :: rest) = mark :: rest :=
    trimStart_eq_self_iff.mpr (by simpa using h)
  simp [readMark?, htrim]

/-! ### Years and fractions -/

theorem readYear?_unsigned (hs : IsNumeral s n) (hlength : s.length ≤ 4)
    (hrest : EndsDigits rest) : readYear? (s ++ rest) = some ((n : Int), rest) := by
  have hread := readDigits?_append hs hlength hrest
  -- A digit is neither of the signs.
  have hsign : ∀ sign tail, isDigit sign = false → s ++ rest ≠ sign :: tail := by
    intro sign tail hno heq
    obtain ⟨d, digits, rfl⟩ := List.exists_cons_of_ne_nil hs.nonempty
    obtain rfl : d = sign := (List.cons.inj heq).1
    exact absurd (hs.digits d List.mem_cons_self) (by simp [hno])
  rw [readYear?, trimStart_append hs]
  split
  · next tail heq => exact absurd heq (hsign '-' tail rfl)
  · next tail heq => exact absurd heq (hsign '+' tail rfl)
  · rw [hread]
    rfl

theorem readYear?_negative (hs : IsNumeral s n) (hrest : EndsDigits rest) :
    readYear? ('-' :: (s ++ rest)) = some (-(n : Int), rest) := by
  have hread := readDigits?_append hs (by simp : s.length ≤ (s ++ rest).length) hrest
  have htrim : trimStart ('-' :: (s ++ rest)) = '-' :: (s ++ rest) := rfl
  rw [readYear?, htrim]
  simp only [hread]
  rfl

theorem readYear?_positive (hs : IsNumeral s n) (hrest : EndsDigits rest) :
    readYear? ('+' :: (s ++ rest)) = some ((n : Int), rest) := by
  have hread := readDigits?_append hs (by simp : s.length ≤ (s ++ rest).length) hrest
  have htrim : trimStart ('+' :: (s ++ rest)) = '+' :: (s ++ rest) := rfl
  rw [readYear?, htrim]
  simp only [hread]
  rfl

/-- **A year is read back**: in four digits without a sign, and in any number of them with one. -/
theorem readYear?_yearText (year : Int) (hrest : EndsDigits rest) :
    readYear? (yearText year ++ rest) = some (year, rest) := by
  rw [yearText]
  split
  · next hfour =>
    obtain ⟨hpos, hmost⟩ : 0 ≤ year ∧ year ≤ 9999 := by simpa using hfour
    have hlength : (padded 4 year.toNat).length = 4 := length_padded (by decide) (by omega)
    rw [readYear?_unsigned (isNumeral_padded 4 year.toNat) (by omega) hrest,
      Int.toNat_of_nonneg hpos]
  · split
    · next hneg =>
      rw [List.cons_append, readYear?_negative (isNumeral_padded 4 year.natAbs) hrest]
      congr 2
      omega
    · next hpos =>
      rw [List.cons_append, readYear?_positive (isNumeral_padded 4 year.natAbs) hrest]
      congr 2
      omega

theorem readFraction?_padded (hpos : 0 < width) (hmost : width ≤ 9) (hn : n < 10 ^ width)
    (hrest : EndsDigits rest) :
    readFraction? ('.' :: (padded width n ++ rest)) = some (n * 10 ^ (9 - width), rest) := by
  have hdigits := isNumeral_padded width n
  have hlength := length_padded hpos hn
  have hne : (padded width n).isEmpty = false := by simpa using hdigits.nonempty
  have hkept : (padded width n).take 9 = padded width n := List.take_of_length_le (by omega)
  have hdrop : (padded width n ++ rest).dropWhile isDigit = rest :=
    dropWhile_append hdigits.digits hrest
  rw [readFraction?, takeWhile_isDigit_append hdigits hrest, hdrop]
  simp [hne, hkept, hlength, hdigits.natOfDigits_eq]

/-- **A fraction is read back**, in as many digits as it needs. -/
theorem readFraction?_fractionText {nanos : Nat} (h : nanos < nanosPerSecond)
    (hrest : EndsDigits rest) (hpoint : ∀ c ∈ rest.head?, c ≠ '.') :
    readFraction? (fractionText nanos ++ rest) = some (nanos, rest) := by
  have hbound : nanos < 1000000000 := h
  rw [fractionText]
  split
  · next hzero =>
    obtain rfl : nanos = 0 := by simpa using hzero
    rw [List.nil_append, readFraction?.eq_2]
    rintro tail rfl
    exact hpoint '.' rfl rfl
  · split
    · next hmillis =>
      have hexact : nanos % 1000000 = 0 := by simpa using hmillis
      rw [List.cons_append, readFraction?_padded (by decide) (by decide) (by omega) hrest]
      congr 2
      omega
    · split
      · next hmicros =>
        have hexact : nanos % 1000 = 0 := by simpa using hmicros
        rw [List.cons_append, readFraction?_padded (by decide) (by decide) (by omega) hrest]
        congr 2
        omega
      · rw [List.cons_append, readFraction?_padded (by decide) (by decide) (by omega) hrest,
          Nat.sub_self, Nat.pow_zero, Nat.mul_one]

/-! ### Instants -/

/-- The sixtieth second, in which more nanoseconds than a second has are told apart. -/
def extraSecond (t : Instant) : Nat :=
  if t.inLeapSecond then 1 else 0

/-- A leap second comes at the end of a minute, and no other second has more nanoseconds than it
should. -/
theorem extraSecond_cases (t : Instant) :
    (t.extraSecond = 0 ∧ t.nanos < nanosPerSecond) ∨
      (t.extraSecond = 1 ∧ nanosPerSecond ≤ t.nanos ∧ t.nanos < 2 * nanosPerSecond ∧
        t.seconds % 60 = 59) := by
  have hvalid := t.valid
  simp only [isValid, Bool.and_eq_true, Bool.or_eq_true, decide_eq_true_eq, beq_iff_eq] at hvalid
  by_cases h : nanosPerSecond ≤ t.nanos
  · have hextra : t.extraSecond = 1 := if_pos (by simpa [inLeapSecond] using h)
    refine .inr ⟨hextra, h, ?_⟩
    omega
  · have hextra : t.extraSecond = 0 := if_neg (by simpa [inLeapSecond] using h)
    exact .inl ⟨hextra, by omega⟩

theorem nanos_sub_lt (t : Instant) :
    t.nanos - t.extraSecond * nanosPerSecond < nanosPerSecond := by
  rcases t.extraSecond_cases with ⟨hextra, hnanos⟩ | ⟨hextra, hleast, hmost, -⟩
  · rw [hextra]
    omega
  · rw [hextra]
    omega

theorem bounds_of_valid (t : Instant) : earliest ≤ t.seconds ∧ t.seconds ≤ latest := by
  have hvalid := t.valid
  simp only [isValid, Bool.and_eq_true, decide_eq_true_eq] at hvalid
  exact hvalid.1

/-- The date of an instant. -/
def date (t : Instant) : Date :=
  Date.ofDays (t.seconds / 86400 + epochDay)

/-- **The parts of an instant make the instant.** -/
theorem ofLocal?_of_parts (t : Instant) :
    ofLocal? t.date (t.secondOfDay.toNat / 3600) (t.secondOfDay.toNat / 60 % 60)
      (t.secondOfDay.toNat % 60 + t.extraSecond) (t.nanos - t.extraSecond * nanosPerSecond) 0 =
        some t := by
  have hdays : t.date.toDays - epochDay = t.seconds / 86400 := by
    rw [date, Date.toDays_ofDays]
    omega
  have hdate : t.date.isValid = true := Date.isValid_ofDays _
  obtain ⟨hearliest, hlatest⟩ := t.bounds_of_valid
  have hday : (t.secondOfDay.toNat : Int) = t.seconds % 86400 := by
    rw [secondOfDay]
    omega
  have hwhole : ofParts? t.seconds t.nanos = some t := dif_pos t.valid
  rw [ofLocal?, hdate, hdays]
  rcases t.extraSecond_cases with ⟨hextra, hnanos⟩ | ⟨hextra, hleast, -, hlast⟩
  · have hleap : (t.secondOfDay.toNat % 60 + t.extraSecond == 60) = false := by
      rw [hextra, beq_eq_false_iff_ne]
      omega
    have hseconds : t.seconds / 86400 * 86400 + ((t.secondOfDay.toNat / 3600 * 3600 +
        t.secondOfDay.toNat / 60 % 60 * 60 + (t.secondOfDay.toNat % 60 + t.extraSecond) : Nat) : Int)
          = t.seconds := by
      omega
    rw [hleap, if_neg Bool.false_ne_true, if_neg Bool.false_ne_true, hseconds]
    simp [hextra, hearliest, hlatest, hwhole]
  · have hleap : (t.secondOfDay.toNat % 60 + t.extraSecond == 60) = true := by
      rw [hextra, beq_iff_eq]
      omega
    have hseconds : t.seconds / 86400 * 86400 + ((t.secondOfDay.toNat / 3600 * 3600 +
        t.secondOfDay.toNat / 60 % 60 * 60 + 59 : Nat) : Int) = t.seconds := by
      omega
    have hnanos : t.nanos - nanosPerSecond + nanosPerSecond = t.nanos := Nat.sub_add_cancel hleast
    rw [hleap, if_pos rfl, if_pos rfl, hseconds]
    simp [hextra, hearliest, hlatest, hwhole, hnanos]

theorem toChars_eq (t : Instant) :
    t.toChars = yearText t.date.year ++ ('-' :: (padded 2 t.date.month ++ ('-' ::
      (padded 2 t.date.day ++ ('T' :: (padded 2 (t.secondOfDay.toNat / 3600) ++ (':' ::
        (padded 2 (t.secondOfDay.toNat / 60 % 60) ++ (':' ::
          (padded 2 (t.secondOfDay.toNat % 60 + t.extraSecond) ++
            (fractionText (t.nanos - t.extraSecond * nanosPerSecond) ++ ['Z']))))))))))) := by
  simp only [toChars, date, extraSecond, List.append_assoc, List.cons_append]

theorem endsDigits_cons {c : Char} (h : isDigit c = false) (rest : List Char) :
    EndsDigits (c :: rest) := by
  intro d hd
  obtain rfl : c = d := by simpa using hd
  exact h

theorem endsDigits_fractionText (nanos : Nat) : EndsDigits (fractionText nanos ++ ['Z']) := by
  rw [fractionText]
  split
  · exact endsDigits_cons rfl []
  · split
    · exact endsDigits_cons rfl _
    · split <;> exact endsDigits_cons rfl _

/-- A text whose parts are read one after the other, up to the end, denotes the instant that they
make. -/
theorem ofText?_of_reads {text : String} {year offset : Int}
    {month day hour minute second nanos : Nat} {s₁ s₂ s₃ s₄ s₅ s₆ s₇ s₈ s₉ s₁₀ s₁₁ : List Char}
    (hyear : readYear? text.toList = some (year, s₁)) (hdash : readMark? '-' s₁ = some s₂)
    (hmonth : readPart? 12 s₂ = some (month, s₃)) (hdash' : readMark? '-' s₃ = some s₄)
    (hday : readPart? 31 s₄ = some (day, 'T' :: s₅)) (hhour : readPart? 23 s₅ = some (hour, s₆))
    (hcolon : readMark? ':' s₆ = some s₇) (hminute : readPart? 59 s₇ = some (minute, s₈))
    (hcolon' : readMark? ':' s₈ = some s₉) (hsecond : readPart? 60 s₉ = some (second, s₁₀))
    (hnanos : readFraction? s₁₀ = some (nanos, s₁₁))
    (hoffset : readOffset? (trimStart s₁₁) = some (offset, [])) :
    ofText? text = ofLocal? ⟨year, month, day⟩ hour minute second nanos offset := by
  rw [ofText?]
  refine (bind_eq_of_eq_some hyear _).trans ?_
  refine (bind_eq_of_eq_some hdash _).trans ?_
  refine (bind_eq_of_eq_some hmonth _).trans ?_
  refine (bind_eq_of_eq_some hdash' _).trans ?_
  refine (bind_eq_of_eq_some hday _).trans ?_
  refine (bind_eq_of_eq_some hhour _).trans ?_
  refine (bind_eq_of_eq_some hcolon _).trans ?_
  refine (bind_eq_of_eq_some hminute _).trans ?_
  refine (bind_eq_of_eq_some hcolon' _).trans ?_
  refine (bind_eq_of_eq_some hsecond _).trans ?_
  refine (bind_eq_of_eq_some hnanos _).trans ?_
  exact bind_eq_of_eq_some hoffset _

/-- **An instant is read back from its text.** Every reader stops where the next part begins. -/
theorem ofText?_toText (t : Instant) : ofText? t.toText = some t := by
  obtain ⟨hmonths, hdays⟩ := Date.le_of_isValid (Date.isValid_ofDays (t.seconds / 86400 + epochDay))
  have hofDay : t.secondOfDay.toNat < 86400 := by
    rw [secondOfDay]
    omega
  have hextra := t.extraSecond_cases
  have hhours : t.secondOfDay.toNat / 3600 ≤ 23 := by omega
  have hminutes : t.secondOfDay.toNat / 60 % 60 ≤ 59 := by omega
  have hseconds : t.secondOfDay.toNat % 60 + t.extraSecond ≤ 60 := by omega
  have htext : t.toText.toList = t.toChars := String.toList_ofList
  rw [toChars_eq] at htext
  rw [ofText?_of_reads (htext ▸ readYear?_yearText t.date.year (endsDigits_cons rfl _))
    (readMark?_cons rfl _)
    (readPart?_padded (by decide) hmonths (endsDigits_cons rfl _)) (readMark?_cons rfl _)
    (readPart?_padded (by decide) hdays (endsDigits_cons rfl _))
    (readPart?_padded (by decide) hhours (endsDigits_cons rfl _)) (readMark?_cons rfl _)
    (readPart?_padded (by decide) hminutes (endsDigits_cons rfl _)) (readMark?_cons rfl _)
    (readPart?_padded (by decide) hseconds (endsDigits_fractionText _))
    (readFraction?_fractionText t.nanos_sub_lt (endsDigits_cons rfl []) (by simp))
    (rfl : readOffset? (trimStart ['Z']) = some (0, []))]
  exact t.ofLocal?_of_parts

end MergeTrain.Instant
