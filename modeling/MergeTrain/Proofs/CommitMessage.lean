import MergeTrain.CommitMessage
import MergeTrain.Proofs.Text

/-!
# The section of a commit message

The body of a pull request may have a section for the commit message. It begins under the first
heading of that name and ends before the next heading, or with the body. Its first line that is not
blank is the title, and the lines from the next one that is not blank are the message.

More is taken than this section, though. A further heading of the same name does not end anything:
the line is left out and the lines under it are taken too, up to the first heading of another name.
So the section alone is what counts if no such lines follow it, or if they could not be noticed:
they are blank, and there is no more than the title in the section.

## Main definitions

* `Heading`, `MessageHeading` — the lines that begin sections, as patterns.
* `Sectioned` — where the section of a text is.
* `continuation` — the lines under further headings of the same name.
* `Composes` — a title and a message made of lines.

## Main results

* `isHeading_iff`, `isMessageHeading_iff` — headings are recognised.
* `messageSection_of_sectioned` — the lines that are taken.
* `composes_iff` — how they are used.
* `Composes.append_iff` — when more lines can be noticed.
* `section_composes_iff` — when it is the section alone that counts.
* `second_section_joins` — a body for which it is not.
-/

namespace MergeTrain

open Text

variable {line rest s : List Char}

/-! ### Headings -/

/-- A line that begins a section: one or more number signs and a space, whatever follows. -/
def Heading (line : List Char) : Prop :=
  ∃ n rest, line = List.replicate (n + 1) '#' ++ ' ' :: rest

/-- What may follow the words in the heading of a commit message: a space or none, a colon or none,
and blanks. -/
def HeadingEnd (s : List Char) : Prop :=
  ∃ gap colon blanks, s = gap ++ colon ++ blanks ∧ (gap = [] ∨ gap = [' ']) ∧
    (colon = [] ∨ colon = [':']) ∧ isBlankText blanks = true

/-- A line that begins the section of a commit message: a heading of these words, in any case. -/
def MessageHeading (line : List Char) : Prop :=
  ∃ n words rest, line = List.replicate (n + 1) '#' ++ ' ' :: (words ++ rest) ∧
    words.map plainLetter = "commit message".toList ∧ HeadingEnd rest

theorem afterHeadingMark?_eq_some_iff : afterHeadingMark? line = some rest ↔
    ∃ n, line = List.replicate (n + 1) '#' ++ ' ' :: rest := by
  constructor
  · intro h
    unfold afterHeadingMark? at h
    split at h
    next tail _ hdrop =>
      cases h
      obtain ⟨k, hk⟩ : ∃ k, tail.takeWhile (· == '#') = List.replicate k '#' :=
        ⟨_, List.eq_replicate_of_mem fun c hc => by simpa using List.mem_takeWhile_imp hc⟩
      have hrest : tail.dropWhile (· == '#') = ' ' :: rest := by simpa using hdrop
      refine ⟨k, ?_⟩
      rw [List.replicate_succ, List.cons_append, ← hk, ← hrest, List.takeWhile_append_dropWhile]
    next => cases h
  · rintro ⟨n, rfl⟩
    have hdrop :
        (List.replicate (n + 1) '#' ++ ' ' :: rest).dropWhile (· == '#') = ' ' :: rest := by
      rw [List.dropWhile_append_of_pos fun c hc => by simpa using List.eq_of_mem_replicate hc]
      rfl
    unfold afterHeadingMark?
    rw [hdrop]
    rfl

theorem isHeading_iff : isHeading line = true ↔ Heading line := by
  simp only [isHeading, Option.isSome_iff_exists, afterHeadingMark?_eq_some_iff, Heading]
  exact exists_comm

theorem afterAnyCase?_eq_some_iff {lead : List Char} : afterAnyCase? lead s = some rest ↔
    ∃ words, s = words ++ rest ∧ words.map plainLetter = lead := by
  induction lead generalizing s with
  | nil => simp [afterAnyCase?, eq_comm]
  | cons l lead ih =>
    cases s with
    | nil => simp [afterAnyCase?]
    | cons c s =>
      rw [afterAnyCase?]
      split
      next hc =>
        rw [ih]
        constructor
        · rintro ⟨words, rfl, hwords⟩
          exact ⟨c :: words, rfl, by rw [List.map_cons, hc, hwords]⟩
        · rintro ⟨_ | ⟨c', words⟩, hs, hwords⟩
          · cases hwords
          · cases hs
            exact ⟨words, rfl, (List.cons.inj hwords).2⟩
      next hc =>
        refine ⟨nofun, ?_⟩
        rintro ⟨_ | ⟨c', words⟩, hs, hwords⟩
        · cases hwords
        · cases hs
          exact absurd (List.cons.inj hwords).1 hc

theorem exists_append_dropOptional (c : Char) (s : List Char) :
    ∃ lead, (lead = [] ∨ lead = [c]) ∧ s = lead ++ dropOptional c s := by
  rw [dropOptional]
  split
  next h =>
    obtain ⟨tail, rfl⟩ := List.head?_eq_some_iff.mp h
    exact ⟨[c], .inr rfl, rfl⟩
  next => exact ⟨[], .inl rfl, rfl⟩

theorem isBlankText_dropOptional {c : Char} (h : isBlankText s = true) :
    isBlankText (dropOptional c s) = true := by
  rw [isBlankText, List.all_eq_true] at h ⊢
  rw [dropOptional]
  split
  · exact fun d hd => h d (List.mem_of_mem_tail hd)
  · exact h

theorem isBlankText_dropOptional_iff :
    isBlankText (dropOptional ':' (dropOptional ' ' s)) = true ↔ HeadingEnd s := by
  constructor
  · intro h
    obtain ⟨gap, hgap, hs⟩ := exists_append_dropOptional ' ' s
    obtain ⟨colon, hcolon, hrest⟩ := exists_append_dropOptional ':' (dropOptional ' ' s)
    exact ⟨gap, colon, _, by rw [List.append_assoc, ← hrest, ← hs], hgap, hcolon, h⟩
  · rintro ⟨gap, colon, blanks, rfl, hgap, hcolon, hblanks⟩
    obtain rfl | rfl := hgap <;> obtain rfl | rfl := hcolon
    · exact isBlankText_dropOptional (isBlankText_dropOptional hblanks)
    · simpa [dropOptional] using hblanks
    · simpa [dropOptional] using isBlankText_dropOptional (c := ':') hblanks
    · simpa [dropOptional] using hblanks

theorem isMessageHeading_iff : isMessageHeading line = true ↔ MessageHeading line := by
  have hmatch : isMessageHeading line = true ↔ ∃ rest,
      (afterHeadingMark? line).bind (afterAnyCase? "commit message".toList) = some rest ∧
        HeadingEnd rest := by
    rw [isMessageHeading]
    generalize (afterHeadingMark? line).bind _ = found
    cases found with
    | none => simp
    | some rest => simp [isBlankText_dropOptional_iff]
  simp only [hmatch, Option.bind_eq_some_iff, afterHeadingMark?_eq_some_iff,
    afterAnyCase?_eq_some_iff, MessageHeading]
  constructor
  · rintro ⟨rest, ⟨_, ⟨n, rfl⟩, words, rfl, hwords⟩, hend⟩
    exact ⟨n, words, rest, rfl, hwords, hend⟩
  · rintro ⟨n, words, rest, rfl, hwords, hend⟩
    exact ⟨rest, ⟨_, ⟨n, rfl⟩, words, rfl, hwords⟩, hend⟩

theorem MessageHeading.heading (h : MessageHeading line) : Heading line := by
  obtain ⟨n, words, rest, rfl, -, -⟩ := h
  exact ⟨n, words ++ rest, rfl⟩

/-! ### Sections -/

variable {all before under after more lines : List (List Char)} {heading : List Char}

/-- Where the section of the commit message is: under the first heading of that name, up to the next
heading or the end. -/
structure Sectioned (all before : List (List Char)) (heading : List Char)
    (under after : List (List Char)) : Prop where
  eq : all = before ++ heading :: (under ++ after)
  before : ∀ l ∈ before, ¬MessageHeading l
  heading : MessageHeading heading
  under : ∀ l ∈ under, ¬Heading l
  after : ∀ l ∈ after.head?, Heading l

/-- The lines after a section that are taken too: up to the first heading of another name, without
the headings of this one. -/
def continuation (after : List (List Char)) : List (List Char) :=
  (after.takeWhile fun l => isMessageHeading l || !isHeading l).filter fun l => !isMessageHeading l

theorem not_isMessageHeading_iff {l : List Char} :
    (!isMessageHeading l) = true ↔ ¬MessageHeading l := by
  rw [Bool.not_eq_true', ← isMessageHeading_iff, Bool.not_eq_true]

theorem not_isHeading_iff {l : List Char} : (!isHeading l) = true ↔ ¬Heading l := by
  rw [Bool.not_eq_true', ← isHeading_iff, Bool.not_eq_true]

/-- **What is taken** is the section and what goes on. -/
theorem messageSection_of_sectioned (h : Sectioned all before heading under after) :
    messageSection all = under ++ continuation after := by
  have hbefore : ∀ l ∈ before, (!isMessageHeading l) = true :=
    fun l hl => not_isMessageHeading_iff.mpr (h.before l hl)
  have hheading : isMessageHeading heading = true := isMessageHeading_iff.mpr h.heading
  have htaken : ∀ l ∈ heading :: under, (isMessageHeading l || !isHeading l) = true := by
    rw [List.forall_mem_cons]
    exact ⟨by simp [hheading],
      fun l hl => by rw [not_isHeading_iff.mpr (h.under l hl), Bool.or_true]⟩
  have hkept : ∀ l ∈ under, (!isMessageHeading l) = true :=
    fun l hl => not_isMessageHeading_iff.mpr fun hm => h.under l hl hm.heading
  rw [messageSection, h.eq, List.dropWhile_append_of_pos hbefore,
    List.dropWhile_cons_of_neg (by simp [hheading]), ← List.cons_append,
    List.takeWhile_append_of_pos htaken, List.filter_append,
    List.filter_cons_of_neg (by simp [hheading]), List.filter_eq_self.mpr hkept, continuation]

/-- Nothing is taken without a heading. -/
theorem messageSection_of_not_mem (h : ∀ l ∈ all, ¬MessageHeading l) : messageSection all = [] := by
  have hdrop : (all.dropWhile fun l => !isMessageHeading l) = [] :=
    List.dropWhile_eq_nil_iff.mpr fun l hl => not_isMessageHeading_iff.mpr (h l hl)
  rw [messageSection, hdrop]
  rfl

/-- A text with a heading has a section. -/
theorem exists_sectioned (h : ∃ l ∈ all, MessageHeading l) :
    ∃ before heading under after, Sectioned all before heading under after := by
  obtain ⟨before, hall, hbefore, hhead⟩ :=
    dropWhile_eq_iff.mp (rfl : (all.dropWhile fun l => !isMessageHeading l) = _)
  simp only [not_isMessageHeading_iff] at hbefore
  cases hfound : all.dropWhile fun l => !isMessageHeading l with
  | nil =>
    obtain ⟨l, hl, hmessage⟩ := h
    rw [hall, hfound, List.append_nil] at hl
    exact absurd hmessage (hbefore l hl)
  | cons heading rest =>
    rw [hfound] at hall hhead
    have hheading : MessageHeading heading := isMessageHeading_iff.mp (by simpa using hhead)
    obtain ⟨under, hrest, hunder, hafter⟩ :=
      dropWhile_eq_iff.mp (rfl : (rest.dropWhile fun l => !isHeading l) = _)
    simp only [not_isHeading_iff] at hunder
    refine ⟨before, heading, under, _, hrest ▸ hall, hbefore, hheading, hunder, fun l hl => ?_⟩
    exact isHeading_iff.mp (by simpa using hafter l hl)

/-! ### What is made of lines -/

/-- A title and a message made of lines: none of blank lines, else the first line that is not blank
and the lines from the next one that is not, all without blanks at their ends. -/
inductive Composes : List (List Char) → Option (String × String) → Prop where
  | nothing {lines : List (List Char)} (h : ∀ l ∈ lines, isBlankText l = true) : Composes lines none
  | message {blanks gap body : List (List Char)} {title : List Char}
      (hblanks : ∀ l ∈ blanks, isBlankText l = true) (htitle : isBlankText title = false)
      (hgap : ∀ l ∈ gap, isBlankText l = true) (hbody : ∀ l ∈ body.head?, isBlankText l = false) :
      Composes (blanks ++ title :: (gap ++ body)) (some (String.ofList (trim title),
        "\n".intercalate (body.map fun l => String.ofList (trim l))))

/-- The lines from the first one that is not blank, as a message. -/
def messageText (lines : List (List Char)) : String :=
  "\n".intercalate ((lines.dropWhile isBlankText).map fun l => String.ofList (trim l))

/-- The title and the message of lines. -/
def composed? (lines : List (List Char)) : Option (String × String) :=
  match lines.dropWhile isBlankText with
  | [] => none
  | title :: rest => some (String.ofList (trim title), messageText rest)

theorem sectionMessage?_eq (body : String) :
    sectionMessage? body = composed? (messageSection (Text.lines body.toList)) :=
  rfl

/-- **How lines are used.** -/
theorem composes_iff {result : Option (String × String)} :
    Composes lines result ↔ composed? lines = result := by
  constructor
  · rintro (h | ⟨hblanks, htitle, hgap, hbody⟩)
    · rw [composed?, List.dropWhile_eq_nil_iff.mpr h]
    · rw [composed?, dropWhile_eq_iff.mpr ⟨_, rfl, hblanks, by simpa using htitle⟩]
      dsimp only
      rw [messageText, dropWhile_eq_iff.mpr ⟨_, rfl, hgap, hbody⟩]
  · rintro rfl
    obtain ⟨blanks, hlines, hblanks, hhead⟩ :=
      dropWhile_eq_iff.mp (rfl : lines.dropWhile isBlankText = _)
    rw [composed?]
    cases hfound : lines.dropWhile isBlankText with
    | nil => exact .nothing (List.dropWhile_eq_nil_iff.mp hfound)
    | cons title rest =>
      rw [hfound] at hlines hhead
      obtain ⟨gap, hrest, hgap, hbody⟩ :=
        dropWhile_eq_iff.mp (rfl : rest.dropWhile isBlankText = _)
      have hcomposes := Composes.message hblanks (hhead title rfl) hgap hbody
      rwa [← hrest, ← hlines] at hcomposes

/-! ### More lines -/

theorem composed?_eq_none_iff : composed? lines = none ↔ ∀ l ∈ lines, isBlankText l = true := by
  rw [← List.dropWhile_eq_nil_iff, composed?]
  cases lines.dropWhile isBlankText <;> simp

theorem messageText_eq_empty_iff :
    messageText lines = "" ↔ ∀ l ∈ lines, isBlankText l = true := by
  rw [← List.dropWhile_eq_nil_iff, messageText]
  cases hfound : lines.dropWhile isBlankText with
  | nil => simp
  | cons l rest =>
    have hhead : isBlankText l = false := by
      obtain ⟨-, -, -, hhead⟩ := dropWhile_eq_iff.mp hfound
      exact hhead l rfl
    cases rest <;> simp [String.intercalate_cons_cons, trim_ne_nil hhead]

/-- Lines after a message that is not empty are seen in it. -/
theorem messageText_append_eq_iff (h : ¬∀ l ∈ lines, isBlankText l = true) :
    messageText (lines ++ more) = messageText lines ↔ more = [] := by
  rw [← List.dropWhile_eq_nil_iff] at h
  constructor
  · intro heq
    by_contra hmore
    rw [messageText, messageText, List.dropWhile_append, if_neg (by simpa using h), List.map_append,
      String.intercalate_append_of_ne_nil (by simpa using h) (by simpa using hmore)] at heq
    have hlength := congrArg String.length heq
    have hbreak : "\n".length = 1 := rfl
    rw [String.length_append, String.length_append] at hlength
    omega
  · rintro rfl
    rw [List.append_nil]

/-- Only a title is made of lines if no more than one is not blank. -/
theorem length_filter_le_one_iff {title : List Char} {rest : List (List Char)}
    (h : lines.dropWhile isBlankText = title :: rest) :
    (lines.filter fun l => !isBlankText l).length ≤ 1 ↔ ∀ l ∈ rest, isBlankText l = true := by
  obtain ⟨blanks, rfl, hblanks, hhead⟩ := dropWhile_eq_iff.mp h
  have hnone : (blanks.filter fun l => !isBlankText l) = [] :=
    List.filter_eq_nil_iff.mpr fun l hl => by simp [hblanks l hl]
  have htitle : isBlankText title = false := hhead title rfl
  rw [List.filter_append, hnone, List.nil_append, List.filter_cons_of_pos (by simp [htitle])]
  simp [List.filter_eq_nil_iff]

/-- **When more lines are noticed**: unless they are blank, and no message comes before them. -/
theorem composed?_append_eq_iff : composed? (under ++ more) = composed? under ↔
    more = [] ∨ (∀ l ∈ more, isBlankText l = true) ∧
      (under.filter fun l => !isBlankText l).length ≤ 1 := by
  cases hfound : under.dropWhile isBlankText with
  | nil =>
    have hblank := List.dropWhile_eq_nil_iff.mp hfound
    have hnone : composed? under = none := composed?_eq_none_iff.mpr hblank
    have hfilter : (under.filter fun l => !isBlankText l) = [] :=
      List.filter_eq_nil_iff.mpr fun l hl => by simp [hblank l hl]
    rw [hnone, composed?_eq_none_iff, List.forall_mem_append, hfilter]
    simp +contextual [hblank]
  | cons title rest =>
    have hunder : composed? under = some (String.ofList (trim title), messageText rest) := by
      rw [composed?, hfound]
    have hmore : composed? (under ++ more) =
        some (String.ofList (trim title), messageText (rest ++ more)) := by
      rw [composed?, List.dropWhile_append, hfound]
      rfl
    rw [hunder, hmore, Option.some.injEq, Prod.mk.injEq, length_filter_le_one_iff hfound]
    simp only [true_and]
    by_cases hblank : ∀ l ∈ rest, isBlankText l = true
    · rw [messageText_eq_empty_iff.mpr hblank, messageText_eq_empty_iff, List.forall_mem_append]
      simp +contextual [hblank]
    · rw [messageText_append_eq_iff hblank]
      simp [hblank]

/-! ### Commit messages -/

/-- **The section of a commit message.** By default there is no title and message if the body of a
pull request has no heading of that name. If it has, they are those of the section under the first
such heading together with the lines that it goes on with, and they are those of the section alone
if and only if it does not go on, or only with blank lines after no more than one that is not. -/
theorem commitMessage_of_section (s : PullSnapshot) :
    let all := Text.lines (s.body.getD "").toList
    ((∀ l ∈ all, ¬MessageHeading l) ∧ s.commitMessage .default = none) ∨
    ∃ before heading under after, Sectioned all before heading under after ∧
      Composes (under ++ continuation after) (s.commitMessage .default) ∧
      (Composes under (s.commitMessage .default) ↔
        continuation after = [] ∨ (∀ l ∈ continuation after, isBlankText l = true) ∧
          (under.filter fun l => !isBlankText l).length ≤ 1) := by
  intro all
  have hmessage : s.commitMessage .default = composed? (messageSection all) :=
    sectionMessage?_eq _
  by_cases hheading : ∃ l ∈ all, MessageHeading l
  · obtain ⟨before, heading, under, after, hsection⟩ := exists_sectioned hheading
    rw [messageSection_of_sectioned hsection] at hmessage
    refine .inr ⟨before, heading, under, after, hsection, composes_iff.mpr hmessage.symm, ?_⟩
    rw [composes_iff, hmessage, eq_comm, composed?_append_eq_iff]
  · have hnone : ∀ l ∈ all, ¬MessageHeading l := by simpa using hheading
    rw [messageSection_of_not_mem hnone] at hmessage
    exact .inl ⟨hnone, hmessage⟩

/-- A pull request whose body has two sections for the commit message, with a title in the first. -/
def twiceHeaded : PullSnapshot where
  pull :=
    { owner := ⟨42, "acme"⟩, repo := "widgets", number := 1, headSha := "sha1", baseRef := "main" }
  title := "Change 1"
  body := some "# Commit Message\nfix\n# Commit Message\nmore"
  state := .isOpen
  mergeability := .clean

/-- The second section joins the first, of which a title is made and no message. -/
theorem second_section_joins :
    ∃ before heading under after,
      Sectioned (Text.lines (twiceHeaded.body.getD "").toList) before heading under after ∧
        Composes under (some ("fix", "")) ∧
        twiceHeaded.commitMessage .default = some ("fix", "more") ∧
        ¬Composes under (twiceHeaded.commitMessage .default) := by
  have hmessage : twiceHeaded.commitMessage .default = some ("fix", "more") := by decide
  have hsection : Sectioned (Text.lines (twiceHeaded.body.getD "").toList) []
      "# Commit Message".toList ["fix".toList] ["# Commit Message".toList, "more".toList] := by
    refine ⟨by decide, nofun, isMessageHeading_iff.mp (by decide), ?_, ?_⟩
    · rintro l hl
      cases List.mem_singleton.mp hl
      exact not_isHeading_iff.mp (by decide)
    · rintro l ⟨⟩
      exact isHeading_iff.mp (by decide)
  refine ⟨_, _, _, _, hsection, composes_iff.mpr (by decide), hmessage, fun h => ?_⟩
  rw [composes_iff, hmessage] at h
  exact absurd h (by decide)

end MergeTrain
