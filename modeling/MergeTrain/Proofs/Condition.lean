import MergeTrain.Condition
import MergeTrain.Proofs.Except
import MergeTrain.Proofs.Text

/-!
# Conditions read back

A condition is written as an attribute, a sign and a value, and read by looking for a sign. The
three signs end with the same character, which no attribute has, so the sign that was written is the
first in the text. But that is not how it is found: signs are looked for one after the other, `~=`
before `!=` before `=`, each in the whole text. So a value is read back exactly if it has no sign in
it that is looked for before its own. Otherwise the text is cut there, and what was meant as the
sign becomes part of the attribute, which then is one that nothing has.

## Main definitions

* `Condition.IsAttribute` — what can be written before a sign.

## Main results

* `Condition.ofText_eq_ok_iff` — a condition that is read.
* `Condition.parts_equals`, `Condition.parts_differs`, `Condition.parts_fits` — texts that are cut
  at their own sign.
* `Condition.mem_of_parts_fits`, `Condition.mem_of_parts_differs` — texts that are not.
* `Condition.read_back_iff` — which conditions are read back.
* `Condition.sign_in_name_misleads` — the name of a check for which none is.
-/

namespace MergeTrain.Condition

open Text

variable {attr lead v : List Char} {test : ValueTest} {c : Condition}

/-- What can be written before a sign. -/
structure IsAttribute (attr : String) : Prop where
  nonempty : attr ≠ ""
  trimmed : Text.trimmed attr = attr
  no_equals : '=' ∉ attr.toList
  no_bang : ¬['!'] <:+ attr.toList
  no_tilde : ¬['~'] <:+ attr.toList

/-- A condition that is read: its text has two parts, and the first is not blank. -/
theorem ofText_eq_ok_iff {text : String} : ofText text = .ok c ↔
    trim text.toList ≠ [] ∧ ∃ attr test, parts (trim text.toList) = .ok (attr, test) ∧
      trim attr ≠ [] ∧
      c = { text := Text.trimmed text, attr := String.ofList (trim attr), test } := by
  rw [ofText]
  dsimp only
  by_cases hempty : trim text.toList = []
  · simp [hempty, throw, throwThe, MonadExceptOf.throw, bind, Except.bind]
  · simp only [List.isEmpty_iff, hempty, if_false, not_false_eq_true, true_and, ne_eq]
    rw [bind_eq_ok_iff]
    constructor
    · rintro ⟨⟨attr, test⟩, hparts, h⟩
      dsimp only at h
      split at h
      next => cases h
      next hattr => exact ⟨attr, test, hparts, hattr, pure_eq_ok_iff.mp h⟩
    · rintro ⟨attr, test, hparts, hattr, rfl⟩
      refine ⟨(attr, test), hparts, ?_⟩
      dsimp only
      rw [if_neg hattr]
      rfl

/-- A condition bears its text without the blanks around it. -/
theorem text_of_ofText {text : String} (h : ofText text = .ok c) : c.text = Text.trimmed text := by
  obtain ⟨-, _, _, -, -, rfl⟩ := ofText_eq_ok_iff.mp h
  rfl

/-! ### The parts of a text -/

/-- A sign of two characters, in a text that has an equals sign after its attribute. -/
theorem cut?_equals {k : Char} (hk : '=' ≠ k) (hlead : '=' ∉ lead) (hend : ¬[k] <:+ lead) :
    cut? [k, '='] (lead ++ '=' :: v) =
      (cut? [k, '='] v).map fun found => (lead ++ '=' :: found.1, found.2) :=
  cut?_past (m := [k]) hlead (by simpa using hk) hend

/-- A text has its parts at an equals sign that no other sign comes after. -/
theorem parts_equals (hlead : '=' ∉ lead) (hbang : ¬['!'] <:+ lead) (htilde : ¬['~'] <:+ lead)
    (hfits : ¬['~', '='] <:+: v) (hdiffers : ¬['!', '='] <:+: v) :
    parts (lead ++ '=' :: v) = .ok (lead, .equals (String.ofList (trim v))) := by
  have hequals : cut? ['='] (lead ++ '=' :: v) = some (lead, v) :=
    cut?_append_mark (m := []) hlead List.not_mem_nil
  rw [parts, cut?_equals (by decide) hlead htilde, cut?_eq_none_iff.mpr hfits,
    cut?_equals (by decide) hlead hbang, cut?_eq_none_iff.mpr hdiffers, hequals]
  rfl

theorem not_tilde_suffix (lead : List Char) : ¬['~'] <:+ lead ++ ['!'] := by
  rw [List.suffix_concat_iff]
  rintro (h | ⟨before, h, -⟩)
  · cases h
  · simpa using congrArg List.getLast? h

/-- It has them at a sign for a difference that no sign for a pattern comes after. -/
theorem parts_differs (hlead : '=' ∉ lead) (hfits : ¬['~', '='] <:+: v) :
    parts (lead ++ ['!', '='] ++ v) = .ok (lead, .differs (String.ofList (trim v))) := by
  have hnofit : cut? ['~', '='] (lead ++ ['!', '='] ++ v) = none := by
    have h := cut?_equals (v := v) (by decide) (by simpa using hlead) (not_tilde_suffix lead)
    rw [cut?_eq_none_iff.mpr hfits] at h
    simpa using h
  have hdiffers : cut? ['!', '='] (lead ++ ['!', '='] ++ v) = some (lead, v) := by
    rw [List.append_assoc]
    exact cut?_append_mark (m := ['!']) hlead (by decide)
  rw [parts, hnofit, hdiffers]

/-- And at a sign for a pattern in any case. -/
theorem parts_fits {p : Pattern} (hlead : '=' ∉ lead)
    (hp : Pattern.ofText? (String.ofList (trim v)) = some p) :
    parts (lead ++ ['~', '='] ++ v) = .ok (lead, .fits p) := by
  have hfits : cut? ['~', '='] (lead ++ ['~', '='] ++ v) = some (lead, v) := by
    rw [List.append_assoc]
    exact cut?_append_mark (m := ['~']) hlead (by decide)
  rw [parts, hfits]
  dsimp only
  rw [hp]

/-- A sign for a pattern that comes later is the one, and the attribute runs up to it. -/
theorem mem_of_parts_fits (hlead : '=' ∉ lead) (htilde : ¬['~'] <:+ lead)
    (hsign : ['~', '='] <:+: v) (h : parts (lead ++ '=' :: v) = .ok (attr, test)) :
    '=' ∈ attr := by
  cases hcut : cut? ['~', '='] v with
  | none => exact absurd hsign (cut?_eq_none_iff.mp hcut)
  | some found =>
    rw [parts, cut?_equals (by decide) hlead htilde, hcut] at h
    dsimp only [Option.map_some] at h
    split at h <;> cases h
    simp

/-- So is a sign for a difference, if there is none for a pattern. -/
theorem mem_of_parts_differs (hlead : '=' ∉ lead) (hbang : ¬['!'] <:+ lead)
    (htilde : ¬['~'] <:+ lead) (hfits : ¬['~', '='] <:+: v) (hsign : ['!', '='] <:+: v)
    (h : parts (lead ++ '=' :: v) = .ok (attr, test)) : '=' ∈ attr := by
  cases hcut : cut? ['!', '='] v with
  | none => exact absurd hsign (cut?_eq_none_iff.mp hcut)
  | some found =>
    rw [parts, cut?_equals (by decide) hlead htilde, cut?_eq_none_iff.mpr hfits,
      cut?_equals (by decide) hlead hbang, hcut] at h
    cases h
    simp

/-! ### Texts that are written -/

section Written

variable {attr value sign : String}

/-- A text that is written has no blanks at its ends, so it is read as it is. -/
theorem ofText_written_iff (hattr : IsAttribute attr) (hvalue : Text.trimmed value = value)
    (hsign : sign.toList.getLast? = some '=') : ofText (attr ++ sign ++ value) = .ok c ↔
      ∃ found test, parts (attr.toList ++ (sign.toList ++ value.toList)) = .ok (found, test) ∧
        trim found ≠ [] ∧
        c = { text := attr ++ sign ++ value, attr := String.ofList (trim found), test } := by
  have hne : attr.toList ≠ [] := by simpa using hattr.nonempty
  have hmark : sign.toList ≠ [] := fun h => by simp [h] at hsign
  have htext : (attr ++ sign ++ value).toList = attr.toList ++ (sign.toList ++ value.toList) := by
    simp [String.toList_append]
  have htrim : trim (attr ++ sign ++ value).toList = (attr ++ sign ++ value).toList := by
    rw [htext]
    refine trim_append_append (trimmed_eq_self_iff.mp hattr.trimmed) hne hmark (fun c hc => ?_)
      (trimmed_eq_self_iff.mp hvalue)
    rw [hsign] at hc
    cases hc
    decide
  rw [ofText_eq_ok_iff, trimmed_eq_self_iff.mpr htrim, htrim, htext]
  simp [hne]

/-- A text that has its parts at its own sign is read back. -/
theorem ofText_written (hattr : IsAttribute attr) (hvalue : Text.trimmed value = value)
    (hsign : sign.toList.getLast? = some '=')
    (h : parts (attr.toList ++ (sign.toList ++ value.toList)) = .ok (attr.toList, test)) :
    ofText (attr ++ sign ++ value) = .ok { text := attr ++ sign ++ value, attr, test } := by
  have htrim := trimmed_eq_self_iff.mp hattr.trimmed
  refine (ofText_written_iff hattr hvalue hsign).mpr ⟨attr.toList, test, h, ?_, ?_⟩
  · rw [htrim]
    simpa using hattr.nonempty
  · rw [htrim, String.ofList_toList]

/-- A text that has its parts further on is read with an attribute that no subject has. -/
theorem mem_attr_of_ofText_written (hattr : IsAttribute attr) (hvalue : Text.trimmed value = value)
    (hsign : sign.toList.getLast? = some '=')
    (h : ∀ found test, parts (attr.toList ++ (sign.toList ++ value.toList)) = .ok (found, test) →
      '=' ∈ found) (hc : ofText (attr ++ sign ++ value) = .ok c) : '=' ∈ c.attr.toList := by
  obtain ⟨found, test, hparts, -, rfl⟩ := (ofText_written_iff hattr hvalue hsign).mp hc
  rw [String.toList_ofList]
  exact mem_trim (h found test hparts) (by decide)

/-- A sign of two characters in the value of an equality misleads. -/
theorem mem_attr_of_equals (hattr : IsAttribute attr) (hvalue : Text.trimmed value = value)
    (hmisleads : ['~', '='] <:+: value.toList ∨ ['!', '='] <:+: value.toList)
    (hc : ofText (attr ++ "=" ++ value) = .ok c) : '=' ∈ c.attr.toList := by
  refine mem_attr_of_ofText_written hattr hvalue rfl (fun found test h => ?_) hc
  by_cases hfits : ['~', '='] <:+: value.toList
  · exact mem_of_parts_fits hattr.no_equals hattr.no_tilde hfits h
  · exact mem_of_parts_differs hattr.no_equals hattr.no_bang hattr.no_tilde hfits
      (hmisleads.resolve_left hfits) h

/-- So does a sign for a pattern in the value of a difference. -/
theorem mem_attr_of_differs (hattr : IsAttribute attr) (hvalue : Text.trimmed value = value)
    (hmisleads : ['~', '='] <:+: value.toList)
    (hc : ofText (attr ++ "!=" ++ value) = .ok c) : '=' ∈ c.attr.toList := by
  refine mem_attr_of_ofText_written hattr hvalue rfl (fun found test h => ?_) hc
  have hlead : '=' ∉ attr.toList ++ ['!'] := by simpa using hattr.no_equals
  have hparts : parts (attr.toList ++ ['!'] ++ '=' :: value.toList) = .ok (found, test) := by
    rwa [List.append_assoc]
  exact mem_of_parts_fits hlead (not_tilde_suffix _) hmisleads hparts

/-- An equality without such a sign is read back. -/
theorem ofText_equals (hattr : IsAttribute attr) (hvalue : Text.trimmed value = value)
    (hfits : ¬['~', '='] <:+: value.toList) (hdiffers : ¬['!', '='] <:+: value.toList) :
    ofText (attr ++ "=" ++ value) =
      .ok { text := attr ++ "=" ++ value, attr, test := .equals value } := by
  refine ofText_written hattr hvalue rfl ?_
  have h := parts_equals hattr.no_equals hattr.no_bang hattr.no_tilde hfits hdiffers
  rwa [trimmed_eq_self_iff.mp hvalue, String.ofList_toList] at h

theorem isAttribute_checkSuccess : IsAttribute "check-success" :=
  ⟨by decide, by decide, by decide, by decide, by decide⟩

theorem text_checkSuccess (name : String) :
    (checkSuccess name).text = "check-success" ++ "=" ++ name :=
  congrArg (· ++ name) (by decide : "check-success=" = "check-success" ++ "=")

/-- **Which conditions are read back.** A condition on a plain attribute and a value without blanks
at its ends is read back as it was written: an equality if and only if no other sign is in its
value, a difference if and only if no sign for a pattern is, and a pattern always. So the condition
on a required check is read back, as one that holds of the same subjects, if and only if no sign but
an equals sign is in the name of the check. -/
theorem read_back_iff (hattr : IsAttribute attr) (hvalue : Text.trimmed value = value) :
    (ofText (attr ++ "=" ++ value) =
        .ok { text := attr ++ "=" ++ value, attr, test := .equals value } ↔
      ¬['~', '='] <:+: value.toList ∧ ¬['!', '='] <:+: value.toList) ∧
    (ofText (attr ++ "!=" ++ value) =
        .ok { text := attr ++ "!=" ++ value, attr, test := .differs value } ↔
      ¬['~', '='] <:+: value.toList) ∧
    (∀ p, Pattern.ofText? value = some p → ofText (attr ++ "~=" ++ value) =
      .ok { text := attr ++ "~=" ++ value, attr, test := .fits p }) ∧
    ((∃ c, ofText (checkSuccess value).text = .ok c ∧
        ∀ subject, c.holds subject = (checkSuccess value).holds subject) ↔
      ¬['~', '='] <:+: value.toList ∧ ¬['!', '='] <:+: value.toList) := by
  have htrim : String.ofList (trim value.toList) = value := hvalue
  refine ⟨⟨fun h => not_or.mp fun hmisleads => ?_, fun h => ofText_equals hattr hvalue h.1 h.2⟩,
    ⟨fun h hmisleads => ?_, fun h => ofText_written hattr hvalue rfl ?_⟩,
    fun p hp => ofText_written hattr hvalue rfl ?_, ?_⟩
  · exact hattr.no_equals (mem_attr_of_equals hattr hvalue hmisleads h)
  · exact hattr.no_equals (mem_attr_of_differs hattr hvalue hmisleads h)
  · have hparts := parts_differs hattr.no_equals h
    rwa [htrim, List.append_assoc] at hparts
  · have hparts := parts_fits hattr.no_equals (htrim.symm ▸ hp)
    rwa [List.append_assoc] at hparts
  · rw [text_checkSuccess]
    constructor
    · rintro ⟨c, hc, hsame⟩
      refine not_or.mp fun hmisleads => ?_
      have hmem := mem_attr_of_equals isAttribute_checkSuccess hvalue hmisleads hc
      -- the condition that was written holds of its own check, the one that is read does not
      have hholds : c.holds ⟨"check-success", value⟩ = true := by
        rw [hsame]
        simp [holds, checkSuccess, ValueTest.passes]
      have hattr : "check-success" = c.attr := by
        simpa using (Bool.and_eq_true_iff.mp hholds).1
      exact isAttribute_checkSuccess.no_equals (hattr ▸ hmem)
    · rintro ⟨hfits, hdiffers⟩
      exact ⟨_, ofText_equals isAttribute_checkSuccess hvalue hfits hdiffers, fun _ => rfl⟩

/-- A difference and a pattern are read back whose value an equality could not have. -/
theorem sign_in_value_is_read_back :
    IsAttribute "title" ∧ Text.trimmed "a!=b" = "a!=b" ∧
      ofText "title!=a!=b" =
        .ok { text := "title!=a!=b", attr := "title", test := .differs "a!=b" } ∧
      (∃ p, Pattern.ofText? "a!=b" = some p ∧ ofText "title~=a!=b" =
        .ok { text := "title~=a!=b", attr := "title", test := .fits p }) ∧
      ofText "title=a!=b" ≠
        .ok { text := "title=a!=b", attr := "title", test := .equals "a!=b" } := by
  have hattr : IsAttribute "title" := ⟨by decide, by decide, by decide, by decide, by decide⟩
  have hvalue : Text.trimmed "a!=b" = "a!=b" := by decide
  obtain ⟨hequals, hdiffers, hfits, -⟩ := read_back_iff hattr hvalue
  obtain ⟨p, hp⟩ := Option.isSome_iff_exists.mp
    (by decide +kernel : (Pattern.ofText? "a!=b").isSome = true)
  exact ⟨hattr, hvalue, hdiffers.mpr (by decide), ⟨p, hp, hfits p hp⟩,
    fun h => (hequals.mp h).2 (by decide)⟩

/-- The condition on a check that has a sign in its name is read as one that does not hold of the
check. -/
theorem sign_in_name_misleads :
    (checkSuccess "a!=b").holds ⟨"check-success", "a!=b"⟩ = true ∧
      ofText (checkSuccess "a!=b").text ≠ .ok (checkSuccess "a!=b") ∧
      ∃ c, ofText (checkSuccess "a!=b").text = .ok c ∧ c.attr = "check-success=a" ∧
        c.test = .differs "b" ∧ c.holds ⟨"check-success", "a!=b"⟩ = false := by
  have hread : ofText (checkSuccess "a!=b").text =
      .ok { text := "check-success=a!=b", attr := "check-success=a", test := .differs "b" } := rfl
  refine ⟨by decide, fun h => ?_, _, hread, rfl, rfl, by decide⟩
  rw [hread] at h
  have hattr : "check-success=a" = "check-success" := congrArg Condition.attr (Except.ok.inj h)
  exact absurd hattr (by decide)

end Written

end MergeTrain.Condition
