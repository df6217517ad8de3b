import Mathlib.Data.List.Chain
import MergeTrain.Proofs.Priority
import MergeTrain.Proofs.Queue.Ledger
import MergeTrain.Report.Waiting

/-!
# What a listing of a queue shows

A listing has a line for each run of entries with one configured priority. It is read here as people
read it: the lines with a bullet, in each of them the numbers that are mentioned, and the priority
that it names. What is read is the queue, entry by entry and in its order.

That there is one line for each priority needs more. The runs follow the configured priorities and
the queue follows those that count, so it takes that the two are the same for every entry. Then the
priorities fall from entry to entry, and from line to line they fall strictly.

## Main definitions

* `bullets`, `mentions`, `shownPriority?` — how a listing is read.
* `warningWords`, `warningEnd` — what tells a warning.
* `Lists` — runs of entries, as a listing should have them.

## Main results

* `flatMap_priorityGroups`, `isChain_priorityGroups` — runs of entries lose nothing, and neighbours
  differ.
* `pairwise_priorityGroups` — when there is one run for each priority.
* `bullets_listingText`, `mentions_bulletText`, `shownPriority?_bulletText` — what is read is what
  was written.
* `warningWords_infix_iff` — when there is a warning.
* `Queue.summary_lists_queue` — all of this for queues that calls have built.
-/

namespace MergeTrain

variable {entries : List QueueEntry} {groups : List (Priority × List UInt64)}
  {group : Priority × List UInt64} {line s rest : List Char} {c : Char}

/-! ### Reading a listing -/

/-- Whether a line has a bullet. -/
def isBullet (line : List Char) : Bool :=
  ['*', ' '].isPrefixOf line

/-- The first lines with bullets that stand together. -/
def bullets (text : List Char) : List (List Char) :=
  ((Text.lines text).dropWhile fun line => !isBullet line).takeWhile isBullet

/-- The numbers of the pull requests that a text mentions, each after its sign. -/
def mentions : List Char → List Nat
  | [] => []
  | '#' :: rest => Text.natOfDigits (rest.takeWhile Text.isDigit) :: mentions rest
  | _ :: rest => mentions rest

/-- The priority that a line names in parentheses. -/
def shownPriority? (line : List Char) : Option (List Char) :=
  (Text.after? "(priority: ".toList (line.dropWhile fun c => c != '(')).map fun rest =>
    rest.takeWhile fun c => c != ')'

/-! ### Runs of entries -/

theorem priorityGroups_cons (e : QueueEntry) (entries : List QueueEntry) :
    priorityGroups (e :: entries) =
      match priorityGroups entries with
      | [] => [(e.config.priority, [e.number])]
      | (priority, numbers) :: others =>
        if e.config.priority = priority then (priority, e.number :: numbers) :: others
        else (e.config.priority, [e.number]) :: (priority, numbers) :: others :=
  rfl

/-- **Nothing is lost.** The runs, one after the other, are the entries. -/
theorem flatMap_priorityGroups (entries : List QueueEntry) :
    (priorityGroups entries).flatMap (fun g => g.2.map fun n => (g.1, n))
      = entries.map fun e => (e.config.priority, e.number) := by
  induction entries with
  | nil => rfl
  | cons e entries ih =>
    rw [List.map_cons, ← ih, priorityGroups_cons]
    cases priorityGroups entries with
    | nil => rfl
    | cons group others =>
      dsimp only
      split
      next hsame => simp [hsame]
      next => simp

theorem ne_nil_of_mem_priorityGroups (h : group ∈ priorityGroups entries) : group.2 ≠ [] := by
  induction entries with
  | nil => cases h
  | cons e entries ih =>
    rw [priorityGroups_cons] at h
    cases hgroups : priorityGroups entries with
    | nil =>
      rw [hgroups] at h
      rw [List.mem_singleton.mp h]
      simp
    | cons next others =>
      rw [hgroups] at h ih
      dsimp only at h
      split at h
      · rcases List.mem_cons.mp h with rfl | h
        · simp
        · exact ih (List.mem_cons_of_mem _ h)
      · rcases List.mem_cons.mp h with rfl | h
        · simp
        · exact ih h

/-- Neighbouring runs have different priorities: an entry begins a run only before another one. -/
theorem isChain_priorityGroups (entries : List QueueEntry) :
    (priorityGroups entries).IsChain fun a b => a.1 ≠ b.1 := by
  induction entries with
  | nil => exact .nil
  | cons e entries ih =>
    rw [priorityGroups_cons]
    cases hgroups : priorityGroups entries with
    | nil => exact .singleton _
    | cons next others =>
      rw [hgroups] at ih
      dsimp only
      split
      · -- the first run grows, and its priority stays
        cases others with
        | nil => exact .singleton _
        | cons => exact .cons_cons (List.isChain_cons_cons.mp ih).1 (List.isChain_cons_cons.mp ih).2
      next hne => exact .cons_cons hne ih

theorem QueueEntry.weight_le_of_precedes {a b : QueueEntry} (h : a.precedes b = true) :
    b.priority.weight ≤ a.priority.weight := by
  rw [precedes] at h
  split at h
  next hsame =>
    rw [hsame]
    exact UInt32.le_refl _
  next => exact UInt32.le_of_lt (by simpa using h)

/-- **One run for each priority**, from the greatest to the least, where the priorities that are
configured are those that count. -/
theorem pairwise_priorityGroups (hsorted : Sorted entries)
    (hcount : ∀ e ∈ entries, e.priority = e.config.priority) :
    (priorityGroups entries).Pairwise fun a b => b.1.weight < a.1.weight := by
  have hentries : (entries.map fun e => (e.config.priority, e.number)).Pairwise
      fun a b => b.1.weight ≤ a.1.weight := by
    refine List.pairwise_map.mpr (List.Pairwise.imp_of_mem (fun ha hb hab => ?_) hsorted)
    rw [← hcount _ ha, ← hcount _ hb]
    exact QueueEntry.weight_le_of_precedes hab
  rw [← flatMap_priorityGroups, List.pairwise_flatMap] at hentries
  have hfalls : (priorityGroups entries).Pairwise fun a b => b.1.weight ≤ a.1.weight := by
    refine List.Pairwise.imp_of_mem (fun {a b} ha hb hab => ?_) hentries.2
    obtain ⟨n, hn⟩ := List.exists_mem_of_ne_nil _ (ne_nil_of_mem_priorityGroups ha)
    obtain ⟨m, hm⟩ := List.exists_mem_of_ne_nil _ (ne_nil_of_mem_priorityGroups hb)
    exact hab _ (List.mem_map_of_mem hn) _ (List.mem_map_of_mem hm)
  -- what falls or stays, and differs from run to run, falls from run to run
  have hstrict : (priorityGroups entries).IsChain fun a b => b.1.weight < a.1.weight := by
    have hchain := hfalls.isChain
    have hdiffer := isChain_priorityGroups entries
    rw [List.isChain_iff_getElem] at hchain hdiffer ⊢
    intro i hi
    refine UInt32.lt_of_le_of_ne (hchain i hi) fun hweight => hdiffer i hi ?_
    exact ((Priority.mk.injEq ..).mpr hweight).symm
  let falls (a b : Priority × List UInt64) : Prop := b.1.weight < a.1.weight
  have htrans : Trans falls falls falls := ⟨fun hab hbc => UInt32.lt_trans hbc hab⟩
  exact List.isChain_iff_pairwise.mp hstrict

/-! ### The line of a run -/

/-- The numbers of a run, as they are written. -/
def namesText (numbers : List UInt64) : List Char :=
  [',', ' '].intercalate (numbers.map fun n => (numberText n).toList)

/-- The line of a run, without the end of the line before it. -/
def bulletText (group : Priority × List UInt64) : List Char :=
  "* ".toList ++ namesText group.2 ++ " (priority: ".toList ++ group.1.text.toList ++ [')']

theorem toList_groupLine (group : Priority × List UInt64) :
    (groupLine group).toList = '\n' :: bulletText group := by
  have hnames : (", ".intercalate (group.2.map numberText)).toList = namesText group.2 := by
    rw [String.toList_intercalate, List.map_map]
    rfl
  have hbullet : "\n* ".toList = '\n' :: "* ".toList := by decide
  have hclose : ")".toList = [')'] := by decide
  simp only [groupLine, String.toList_append, hnames, hbullet, hclose, bulletText,
    List.cons_append, List.append_assoc]

theorem toList_numberText (n : UInt64) :
    (numberText n).toList = '#' :: Nat.toDigits 10 n.toNat := by
  rw [numberText, String.toList_append, Text.toList_toString_nat]
  rfl

theorem namesText_cons_cons (n m : UInt64) (numbers : List UInt64) :
    namesText (n :: m :: numbers)
      = (numberText n).toList ++ ([',', ' '] ++ namesText (m :: numbers)) := by
  rw [namesText, List.map_cons, List.map_cons, List.intercalate_cons_cons, List.append_assoc]
  rfl

theorem mem_namesText {numbers : List UInt64} {c : Char} (h : c ∈ namesText numbers) :
    Text.isDigit c = true ∨ c ∈ ['#', ',', ' '] := by
  have hnumber : ∀ n : UInt64, c ∈ (numberText n).toList →
      Text.isDigit c = true ∨ c ∈ ['#', ',', ' '] := by
    intro n hc
    rw [toList_numberText] at hc
    rcases List.mem_cons.mp hc with rfl | hc
    · exact .inr List.mem_cons_self
    · exact .inl (Text.isDigit_of_mem_toDigits hc)
  induction numbers with
  | nil => cases h
  | cons n numbers ih =>
    cases numbers with
    | nil => exact hnumber n (by simpa [namesText] using h)
    | cons m numbers =>
      rw [namesText_cons_cons] at h
      rcases List.mem_append.mp h with h | h
      · exact hnumber n h
      · rcases List.mem_append.mp h with h | h
        · exact .inr (List.mem_cons_of_mem _ h)
        · exact ih h

/-- What may occur in the line of a run. -/
def isListed (c : Char) : Bool :=
  Text.isDigit c || c.isLower || ['#', ',', '*', ' ', '(', ':', ')'].contains c

theorem isListed_of_mem_bulletText (h : c ∈ bulletText group) : isListed c = true := by
  have hstart : "* ".toList.all isListed = true := by decide
  have hnames : ['#', ',', ' '].all isListed = true := by decide
  have hword : " (priority: ".toList.all isListed = true := by decide
  simp only [bulletText, List.mem_append, or_assoc] at h
  rcases h with h | h | h | h | h
  · exact List.all_eq_true.mp hstart c h
  · rcases mem_namesText h with h | h
    · rw [isListed, h, Bool.true_or, Bool.true_or]
    · exact List.all_eq_true.mp hnames c h
  · exact List.all_eq_true.mp hword c h
  · rcases Priority.isDigit_or_isLower_of_mem_text h with h | h
    · rw [isListed, h, Bool.true_or, Bool.true_or]
    · rw [isListed, h, Bool.or_true, Bool.true_or]
  · rw [List.mem_singleton.mp h]
    decide

/-- A line ends nowhere in between. -/
theorem ne_of_mem_bulletText (h : c ∈ bulletText group) : c ≠ '\n' ∧ c ≠ '\r' := by
  constructor
  · rintro rfl
    exact absurd (isListed_of_mem_bulletText h) (by decide)
  · rintro rfl
    exact absurd (isListed_of_mem_bulletText h) (by decide)

/-! ### A line is read -/

theorem mentions_cons (h : c ≠ '#') : mentions (c :: s) = mentions s :=
  mentions.eq_3 c s h

theorem mentions_append (h : '#' ∉ s) : mentions (s ++ rest) = mentions rest := by
  induction s with
  | nil => rfl
  | cons c s ih =>
    obtain ⟨hc, hs⟩ := not_or.mp (mt List.mem_cons.mpr h)
    rw [List.cons_append, mentions_cons (Ne.symm hc), ih hs]

/-- A number is mentioned where no digit comes after it. -/
theorem mentions_numberText (n : UInt64) (h : ∀ c ∈ rest.head?, Text.isDigit c = false) :
    mentions ((numberText n).toList ++ rest) = n.toNat :: mentions rest := by
  have hdigits : ∀ c ∈ Nat.toDigits 10 n.toNat, Text.isDigit c = true :=
    fun c hc => Text.isDigit_of_mem_toDigits hc
  have hend : rest.takeWhile Text.isDigit = [] := by
    cases rest with
    | nil => rfl
    | cons c rest => exact List.takeWhile_cons_of_neg (by simp [h c rfl])
  have hsign : '#' ∉ Nat.toDigits 10 n.toNat := fun hmem => absurd (hdigits _ hmem) (by decide)
  rw [toList_numberText, List.cons_append, mentions, List.takeWhile_append_of_pos hdigits, hend,
    List.append_nil, Text.natOfDigits_toDigits, mentions_append hsign]

theorem mentions_namesText {numbers : List UInt64}
    (h : ∀ c ∈ rest.head?, Text.isDigit c = false) :
    mentions (namesText numbers ++ rest) = numbers.map UInt64.toNat ++ mentions rest := by
  induction numbers with
  | nil => rfl
  | cons n numbers ih =>
    cases numbers with
    | nil =>
      rw [namesText, List.map_singleton, List.intercalate_singleton, mentions_numberText n h]
      rfl
    | cons m numbers =>
      have hcomma : ∀ c ∈ ([',', ' '] ++ (namesText (m :: numbers) ++ rest)).head?,
          Text.isDigit c = false := by
        rintro c ⟨⟩
        decide
      rw [namesText_cons_cons, List.append_assoc, List.append_assoc,
        mentions_numberText n hcomma, mentions_append (by decide)]
      exact congrArg (n.toNat :: ·) ih

/-- **The numbers of a run are read** from its line. -/
theorem mentions_bulletText (group : Priority × List UInt64) :
    mentions (bulletText group) = group.2.map UInt64.toNat := by
  have hnone : '#' ∉ " (priority: ".toList ++ (group.1.text.toList ++ [')']) := by
    intro hmem
    rcases List.mem_append.mp hmem with hmem | hmem
    · exact absurd hmem (by decide)
    · rcases List.mem_append.mp hmem with hmem | hmem
      · exact absurd (Priority.isDigit_or_isLower_of_mem_text hmem) (by decide)
      · exact absurd hmem (by decide)
  have hblank : ∀ c ∈ (" (priority: ".toList ++ (group.1.text.toList ++ [')'])).head?,
      Text.isDigit c = false := by
    rintro c ⟨⟩
    decide
  simp only [bulletText, List.append_assoc]
  rw [mentions_append (by decide), mentions_namesText hblank, ← List.append_nil (_ ++ (_ ++ [')'])),
    mentions_append hnone]
  exact List.append_nil _

/-- **The priority of a run is read** from its line. -/
theorem shownPriority?_bulletText (group : Priority × List UInt64) :
    shownPriority? (bulletText group) = some group.1.text.toList := by
  have hopen : ∀ c ∈ "* ".toList ++ namesText group.2 ++ [' '], (c != '(') = true := by
    intro c hc
    rw [bne_iff_ne]
    rintro rfl
    simp only [List.mem_append, or_assoc] at hc
    rcases hc with hc | hc | hc
    · exact absurd hc (by decide)
    · exact absurd (mem_namesText hc) (by decide)
    · exact absurd hc (by decide)
  have hclose : ∀ c ∈ group.1.text.toList, (c != ')') = true := by
    intro c hc
    rw [bne_iff_ne]
    rintro rfl
    exact absurd (Priority.isDigit_or_isLower_of_mem_text hc) (by decide)
  have hparts : bulletText group = ("* ".toList ++ namesText group.2 ++ [' ']) ++
      ("(priority: ".toList ++ (group.1.text.toList ++ [')'])) := by
    simp only [bulletText, List.append_assoc]
    rfl
  rw [shownPriority?, hparts, List.dropWhile_append_of_pos hopen]
  have hrest : ("(priority: ".toList ++ (group.1.text.toList ++ [')'])).dropWhile
      (fun c => c != '(') = "(priority: ".toList ++ (group.1.text.toList ++ [')']) := rfl
  rw [hrest, Text.after?_eq_some_iff.mpr rfl, Option.map_some,
    List.takeWhile_append_of_pos hclose]
  exact congrArg some (List.append_nil _)

/-! ### The listing is read -/

/-- Rows of a text under a line, each after an end of line. What comes last is left open. -/
theorem lines_rows {title : List Char} {rows more : List (List Char)} {tail : List Char}
    (htail : ∀ last : List Char, last ≠ [] → (∀ c ∈ last, c ≠ '\n' ∧ c ≠ '\r') →
      Text.lines (last ++ tail) = last :: more)
    (hne : title ≠ []) (htitle : ∀ c ∈ title, c ≠ '\n' ∧ c ≠ '\r')
    (hrows : ∀ row ∈ rows, row ≠ [] ∧ ∀ c ∈ row, c ≠ '\n' ∧ c ≠ '\r') :
    Text.lines (title ++ (rows.flatMap fun row => '\n' :: row) ++ tail)
      = title :: (rows ++ more) := by
  induction rows generalizing title with
  | nil =>
    rw [List.flatMap_nil, List.append_nil]
    exact htail title hne htitle
  | cons row rows ih =>
    obtain ⟨hrow, hrows⟩ := List.forall_mem_cons.mp hrows
    rw [List.flatMap_cons, List.append_assoc, List.cons_append, List.cons_append,
      Text.lines_append_cons htitle, ih hrow.1 hrow.2 hrows]
    rfl

/-- The line over the others. -/
def listingTitle : List Char :=
  "The following pull requests are queued:".toList

/-- The lines of runs under their title. -/
def listingText (groups : List (Priority × List UInt64)) : List Char :=
  '\n' :: '\n' :: (listingTitle ++ (groups.map bulletText).flatMap fun row => '\n' :: row)

theorem toList_queueSummary (entitlements : Entitlements) {q : Queue} (owner : Owner)
    (h : q.entries ≠ []) :
    (queueSummary entitlements q owner).toList =
      listingText (priorityGroups q.entries)
        ++ (priorityWarning entitlements owner q.entries).toList := by
  have hrows : ∀ groups : List (Priority × List UInt64),
      (String.join (groups.map groupLine)).toList
        = (groups.map bulletText).flatMap fun row => '\n' :: row := by
    intro groups
    rw [String.toList_join, List.flatMap_map, List.flatMap_map]
    exact congrArg (fun f => groups.flatMap f) (funext toList_groupLine)
  have hsome : q.isEmpty = false := by
    rw [Queue.isEmpty]
    simpa using h
  have htitle : "\n\nThe following pull requests are queued:".toList
      = '\n' :: '\n' :: listingTitle := by decide
  rw [queueSummary, hsome, if_neg Bool.false_ne_true, String.toList_append, String.toList_append,
    hrows, htitle, listingText]
  simp only [List.cons_append]

theorem isBullet_bulletText (group : Priority × List UInt64) :
    isBullet (bulletText group) = true := by
  have hprefix : ['*', ' '] <+: bulletText group := by
    simp only [bulletText, List.append_assoc]
    exact List.prefix_append ..
  exact List.isPrefixOf_iff_prefix.mpr hprefix

theorem bulletText_ne_nil (group : Priority × List UInt64) : bulletText group ≠ [] := by
  simp [bulletText]

/-- **What is read is what was written**, whether a warning comes after it or not. -/
theorem bullets_listingText (hgroups : groups ≠ []) {tail : List Char}
    (htail : tail = [] ∨ ∃ after, tail = '\n' :: '\n' :: after) :
    bullets (listingText groups ++ tail) = groups.map bulletText := by
  -- the line after the last run has no bullet
  obtain ⟨more, hmore, hend⟩ : ∃ more : List (List Char),
      (∀ last : List Char, last ≠ [] → (∀ c ∈ last, c ≠ '\n' ∧ c ≠ '\r') →
        Text.lines (last ++ tail) = last :: more) ∧ more.takeWhile isBullet = [] := by
    rcases htail with rfl | ⟨after, rfl⟩
    · refine ⟨[], fun last hne hlast => ?_, rfl⟩
      rw [List.append_nil, Text.lines_eq_singleton hne hlast]
    · refine ⟨[] :: Text.lines after, fun last _ hlast => ?_, rfl⟩
      rw [Text.lines_append_cons hlast]
      exact congrArg (last :: ·) (Text.lines_append_cons (s := []) (by simp))
  have hlines : Text.lines (listingText groups ++ tail)
      = [] :: [] :: listingTitle :: (groups.map bulletText ++ more) := by
    have htitle : ∀ c ∈ listingTitle, c ≠ '\n' ∧ c ≠ '\r' := by
      intro c hc
      constructor
      · rintro rfl
        exact absurd hc (by decide)
      · rintro rfl
        exact absurd hc (by decide)
    rw [listingText, List.cons_append, List.cons_append, ← List.nil_append ('\n' :: _),
      Text.lines_append_cons (by simp), ← List.nil_append ('\n' :: _),
      Text.lines_append_cons (by simp), lines_rows hmore (by decide) htitle]
    intro row hrow
    obtain ⟨group, -, rfl⟩ := List.mem_map.mp hrow
    exact ⟨bulletText_ne_nil group, fun c hc => ne_of_mem_bulletText hc⟩
  have hbullets : ∀ line ∈ groups.map bulletText, isBullet line = true := by
    intro line hline
    obtain ⟨group, -, rfl⟩ := List.mem_map.mp hline
    exact isBullet_bulletText group
  obtain ⟨group, groups, rfl⟩ := List.exists_cons_of_ne_nil hgroups
  have hdrop : (Text.lines (listingText (group :: groups) ++ tail)).dropWhile
      (fun line => !isBullet line) = (group :: groups).map bulletText ++ more := by
    have hfirst : ¬(!isBullet (bulletText group)) = true := by simp [isBullet_bulletText]
    rw [hlines, List.dropWhile_cons_of_pos rfl, List.dropWhile_cons_of_pos rfl,
      List.dropWhile_cons_of_pos rfl, List.map_cons, List.cons_append,
      List.dropWhile_cons_of_neg (p := fun line => !isBullet line) hfirst]
  rw [bullets, hdrop, List.takeWhile_append_of_pos hbullets, hend, List.append_nil]

example : (bullets ("\n\nThe following pull requests are queued:\n* #3, #12 (priority: high)" ++
      "\n* #7 (priority: 1500)").toList).map (fun line => (shownPriority? line, mentions line))
    = [(some "high".toList, [3, 12]), (some "1500".toList, [7])] := by
  decide +kernel

/-- A listing without a warning does not have the words of one. -/
theorem not_mem_listingText (groups : List (Priority × List UInt64)) :
    'I' ∉ listingText groups := by
  intro hmem
  rw [listingText, List.mem_cons, List.mem_cons, List.mem_append] at hmem
  rcases hmem with hmem | hmem | hmem | hmem
  · exact absurd hmem (by decide)
  · exact absurd hmem (by decide)
  · exact absurd hmem (by decide)
  · obtain ⟨row, hrow, hmem⟩ := List.mem_flatMap.mp hmem
    obtain ⟨group, -, rfl⟩ := List.mem_map.mp hrow
    rcases List.mem_cons.mp hmem with hmem | hmem
    · exact absurd hmem (by decide)
    · exact absurd (isListed_of_mem_bulletText hmem) (by decide)

/-! ### The warning -/

/-- The words that tell a warning. -/
def warningWords : List Char :=
  "Ignoring merge priority".toList

/-- A warning from its words on, with what can be done about it. -/
def warningEnd (advice : String) : List Char :=
  warningWords ++ ('*' :: '\n' :: advice.toList)

theorem toList_priorityWarning (entitlements : Entitlements) (owner : Owner)
    (entries : List QueueEntry) :
    (priorityWarning entitlements owner entries).toList =
      if configuresPriority entries && !entitlements.allows owner.id .priorityQueues then
        '\n' :: '\n' :: ("⚠ *".toList ++ warningEnd (entitlements.advice owner.login))
      else [] := by
  have hnotice : "\n\n⚠ *Ignoring merge priority*\n".toList
      = '\n' :: '\n' :: ("⚠ *".toList ++ (warningWords ++ ['*', '\n'])) := by decide
  rw [priorityWarning]
  split
  · rw [String.toList_append, hnotice]
    simp only [warningEnd, List.cons_append, List.append_assoc, List.nil_append]
  · rfl

theorem configuresPriority_iff :
    configuresPriority entries = true ↔ ∃ e ∈ entries, e.config.priority ≠ .medium := by
  simp [configuresPriority]

/-- **When there is a warning**, and what it ends with. Nothing in the lines of runs could be taken
for one. -/
theorem warningWords_infix_iff (groups : List (Priority × List UInt64))
    (entitlements : Entitlements) (owner : Owner) (entries : List QueueEntry) :
    let text := listingText groups ++ (priorityWarning entitlements owner entries).toList
    (warningWords <:+: text ↔
        (∃ e ∈ entries, e.config.priority ≠ .medium) ∧
          entitlements.allows owner.id .priorityQueues = false) ∧
      (warningWords <:+: text → warningEnd (entitlements.advice owner.login) <:+ text) := by
  intro text
  rw [← configuresPriority_iff, ← Bool.not_eq_true', ← Bool.and_eq_true]
  have htext : text = listingText groups ++ (priorityWarning entitlements owner entries).toList :=
    rfl
  rw [toList_priorityWarning] at htext
  split at htext
  next hwarned =>
    have hend : warningEnd (entitlements.advice owner.login) <:+ text := by
      rw [htext]
      refine List.IsSuffix.trans ?_ (List.suffix_append ..)
      exact List.suffix_append ('\n' :: '\n' :: "⚠ *".toList) _
    have hwords : warningWords <:+: text := (List.prefix_append ..).isInfix.trans hend.isInfix
    exact ⟨iff_of_true hwords hwarned, fun _ => hend⟩
  next hquiet =>
    have hnone : ¬warningWords <:+: text := by
      rw [htext, List.append_nil]
      exact fun h => not_mem_listingText groups (h.subset (by decide))
    exact ⟨iff_of_false hnone hquiet, fun h => absurd h hnone⟩

/-! ### Queues -/

/-- Runs of entries as a listing should have them. -/
structure Lists (groups : List (Priority × List UInt64)) (entries : List QueueEntry) : Prop where
  /-- Every entry comes in its place, under its configured priority. -/
  inOrder : groups.flatMap (fun g => g.2.map fun n => (g.1, n))
    = entries.map fun e => (e.config.priority, e.number)
  nonempty : ∀ g ∈ groups, g.2 ≠ []
  /-- Neighbours do not even look the same. -/
  differ : groups.IsChain fun a b => a.1.text ≠ b.1.text
  fall : (∀ e ∈ entries, e.priority = e.config.priority) →
    groups.Pairwise fun a b => b.1.weight < a.1.weight

theorem lists_priorityGroups (h : Sorted entries) : Lists (priorityGroups entries) entries where
  inOrder := flatMap_priorityGroups entries
  nonempty := fun _ hg => ne_nil_of_mem_priorityGroups hg
  differ := (isChain_priorityGroups entries).imp fun _ _ hne htext =>
    hne (Priority.text_injective htext)
  fall := pairwise_priorityGroups h

/-- **A listing shows the queue.** After any calls on an empty queue, there is nothing to say if it
is empty. Else the lines with bullets are read as runs of its entries, in their order: every pull
request once, under the priority configured for it, no line without one and no two neighbours of one
priority, and where the configured priorities are those that count, one line for each, the greatest
first. The warning is there, with what to do about it, if and only if some entry is configured with
another priority than the default one and its owner lacks the feature. -/
theorem Queue.summary_lists_queue (repository branch : String) (calls : List QueueCall)
    (entitlements : Entitlements) (owner : Owner) :
    let q := (serveAll Queue.serve { repository, branch } calls).2
    let text := (queueSummary entitlements q owner).toList
    (text = [] ↔ q.entries = []) ∧ q.numbers.Nodup ∧
      (∃ groups, Lists groups q.entries ∧
        (bullets text).map (fun line => (shownPriority? line, mentions line))
          = groups.map fun g => (some g.1.text.toList, g.2.map UInt64.toNat)) ∧
      (warningWords <:+: text ↔
        (∃ e ∈ q.entries, e.config.priority ≠ .medium) ∧
          entitlements.allows owner.id .priorityQueues = false) ∧
      (warningWords <:+: text → warningEnd (entitlements.advice owner.login) <:+ text) := by
  intro q text
  have hsound : q.Sound := ((Ledger.records_empty repository branch).serveAll calls).2.sound
  by_cases hempty : q.entries = []
  · have htext : text = [] := by
      have hnothing : q.isEmpty = true := List.isEmpty_iff.mpr hempty
      change (queueSummary entitlements q owner).toList = []
      rw [queueSummary, hnothing]
      rfl
    have hnone : ¬warningWords <:+: [] :=
      fun h => absurd (List.infix_nil.mp h) (by decide)
    rw [htext, hempty]
    exact ⟨iff_of_true rfl rfl, hsound.numbers, ⟨[], lists_priorityGroups .nil, rfl⟩,
      iff_of_false hnone (by simp), fun h => absurd h hnone⟩
  · have hgroups : priorityGroups q.entries ≠ [] := by
      intro hnil
      have hflat := flatMap_priorityGroups q.entries
      rw [hnil] at hflat
      exact hempty (List.map_eq_nil_iff.mp hflat.symm)
    have htext : text = listingText (priorityGroups q.entries)
        ++ (priorityWarning entitlements owner q.entries).toList :=
      toList_queueSummary entitlements owner hempty
    refine ⟨iff_of_false (by simp [htext, listingText]) hempty, hsound.numbers,
      ⟨_, lists_priorityGroups hsound.sorted, ?_⟩, ?_⟩
    · rw [htext, bullets_listingText hgroups, List.map_map]
      · refine List.map_congr_left fun group _ => ?_
        rw [Function.comp_apply, shownPriority?_bulletText, mentions_bulletText]
      · rw [toList_priorityWarning]
        split
        · exact .inr ⟨_, rfl⟩
        · exact .inl rfl
    · rw [htext]
      exact warningWords_infix_iff _ entitlements owner q.entries

end MergeTrain
