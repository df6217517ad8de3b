import MergeTrain.MergeConfig
import MergeTrain.Proofs.Keyed
import MergeTrain.Pull.Basic
import MergeTrain.Subscription

/-!
# Alternatives read back from their words

An alternative is read from the word that it is written as if every alternative is listed and no two
of them share a word.

## Main definitions

* `LawfulSpelled` — the two conditions, for a type of alternatives.

## Main results

* `Spelled.lookup_words` — an alternative is read from its word.
-/

namespace MergeTrain

/-- Every alternative is listed, with a word of its own. -/
class LawfulSpelled (α : Type) [Spelled α] : Prop where
  mem_all : ∀ a : α, a ∈ (Spelled.all : List α)
  nodup_text : ((Spelled.all : List α).map Spelled.text).Nodup

theorem Spelled.lookup_words {α : Type} [Spelled α] [LawfulSpelled α] (a : α) :
    (words α).lookup (text a) = some a := by
  have hnames : ((words α).map Prod.fst).Nodup := by
    simpa [words, Function.comp_def] using LawfulSpelled.nodup_text (α := α)
  exact (lookup_eq_some_iff_mem hnames).mpr
    (List.mem_map.mpr ⟨a, LawfulSpelled.mem_all a, rfl⟩)

instance : LawfulSpelled PullState where
  mem_all := by intro a; cases a <;> decide
  nodup_text := by decide

instance : LawfulSpelled Mergeability where
  mem_all := by intro a; cases a <;> decide
  nodup_text := by decide

instance : LawfulSpelled MergeMethod where
  mem_all := by intro a; cases a <;> decide
  nodup_text := by decide

instance : LawfulSpelled RebaseFallback where
  mem_all := by intro a; cases a <;> decide
  nodup_text := by decide

instance : LawfulSpelled UpdateMethod where
  mem_all := by intro a; cases a <;> decide
  nodup_text := by decide

instance : LawfulSpelled CommitMessageMode where
  mem_all := by intro a; cases a <;> decide
  nodup_text := by decide

instance : LawfulSpelled Feature where
  mem_all := by intro a; cases a <;> decide
  nodup_text := by decide

end MergeTrain
