import MergeTrain.Json.Fields
import MergeTrain.Pull.Basic

/-!
# Pull requests on the wire

The JSON form of identities and snapshots. Every field is written, an absent one as `null`.
-/

namespace MergeTrain

open Json

namespace Owner

/-- The wire form. -/
def toJson (owner : Owner) : Json :=
  .object [("id", .nat owner.id.toNat), ("login", .string owner.login)]

/-- A wire value read back. -/
def ofJson? (j : Json) : Option Owner := do
  let [id, login] ← j.fields? [("id", .required), ("login", .required)] false | none
  return { id := ← required uint64? id, login := ← required text? login }

end Owner

namespace PullRef

/-- The wire form. -/
def toJson (pull : PullRef) : Json :=
  .object
    [("owner", pull.owner.toJson), ("repo", .string pull.repo),
      ("number", .nat pull.number.toNat), ("head_sha", .string pull.headSha),
      ("base_ref", .string pull.baseRef)]

/-- The fields, in order. -/
def shape : Shape :=
  [("owner", .required), ("repo", .required), ("number", .required), ("head_sha", .required),
    ("base_ref", .required)]

/-- A wire value read back. -/
def ofJson? (j : Json) : Option PullRef := do
  let [owner, repo, number, headSha, baseRef] ← j.fields? shape false | none
  return {
    owner := ← required Owner.ofJson? owner
    repo := ← required text? repo
    number := ← required uint64? number
    headSha := ← required text? headSha
    baseRef := ← required text? baseRef }

end PullRef

namespace PullSnapshot

/-- The wire form. -/
def toJson (s : PullSnapshot) : Json :=
  .object
    [("pull", s.pull.toJson), ("title", .string s.title), ("body", .ofOption .string s.body),
      ("state", Spelled.toJson s.state), ("is_draft", .bool s.isDraft), ("merged", .bool s.merged),
      ("merged_by", .ofOption .string s.mergedBy),
      ("merge_commit_sha", .ofOption .string s.mergeCommitSha),
      ("mergeable_state", Spelled.toJson s.mergeability), ("rebaseable", .bool s.rebaseable),
      ("changed_files", .nat s.changedFiles.toNat), ("workflow_changed", .bool s.workflowChanged)]

/-- The fields, in order. -/
def shape : Shape :=
  [("pull", .required), ("title", .required), ("body", .defaulted), ("state", .required),
    ("is_draft", .defaulted), ("merged", .defaulted), ("merged_by", .defaulted),
    ("merge_commit_sha", .defaulted), ("mergeable_state", .required), ("rebaseable", .defaulted),
    ("changed_files", .defaulted), ("workflow_changed", .defaulted)]

/-- A wire value read back. -/
def ofJson? (j : Json) : Option PullSnapshot := do
  let [pull, title, body, state, isDraft, merged, mergedBy, mergeCommitSha, mergeability,
    rebaseable, changedFiles, workflowChanged] ← j.fields? shape false | none
  return {
    pull := ← required PullRef.ofJson? pull
    title := ← required text? title
    body := ← orNone text? body
    state := ← required Spelled.ofJson? state
    isDraft := ← orElse false bool? isDraft
    merged := ← orElse false bool? merged
    mergedBy := ← orNone text? mergedBy
    mergeCommitSha := ← orNone text? mergeCommitSha
    mergeability := ← required Spelled.ofJson? mergeability
    rebaseable := ← orElse true bool? rebaseable
    changedFiles := ← orElse 0 uint64? changedFiles
    workflowChanged := ← orElse false bool? workflowChanged }

end PullSnapshot

end MergeTrain
