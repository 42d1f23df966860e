import MediaGrid.Artifact.Basic
import MediaGrid.Proofs.Text.Percent

/-!
# Artifacts are told by their ids

An id joins kind, bucket and name by colons. Neither the word for a kind nor an encoded text has a
colon, so the first two colons of an id are those that join its parts, and the parts can be told
from it. The grid keeps its entries by id; so no two artifacts share an entry.
-/

namespace MediaGrid

/-- Kinds are told by their words. -/
theorem MediaKind.word_inj {kind kind' : MediaKind} (h : kind.word = kind'.word) :
    kind = kind' := by
  cases kind <;> cases kind' <;> first | rfl | exact absurd h (by decide)

theorem MediaKind.colon_not_mem_word (kind : MediaKind) : ':' ∉ kind.word.toList := by
  cases kind <;> decide

/-- Where no part before it has the separator, a list is cut at its first separator. -/
theorem append_sep_inj {α : Type} {sep : α} {before before' after after' : List α}
    (hbefore : sep ∉ before) (hbefore' : sep ∉ before')
    (h : before ++ sep :: after = before' ++ sep :: after') :
    before = before' ∧ after = after' := by
  induction before generalizing before' with
  | nil =>
    cases before' with
    | nil => exact ⟨rfl, (List.cons.inj h).2⟩
    | cons b rest => exact absurd (List.cons.inj h).1 fun heq => hbefore' (heq ▸ List.mem_cons_self)
  | cons b rest ih =>
    cases before' with
    | nil => exact absurd (List.cons.inj h).1 fun heq => hbefore (heq ▸ List.mem_cons_self)
    | cons b' rest' =>
      obtain ⟨rfl, hrest⟩ := List.cons.inj h
      obtain ⟨rfl, hafter⟩ := ih (fun hm => hbefore (List.mem_cons_of_mem _ hm))
        (fun hm => hbefore' (List.mem_cons_of_mem _ hm)) hrest
      exact ⟨rfl, hafter⟩

namespace Artifact

/-- The characters of an id: the word for the kind, the bucket and the name, and two colons between
them. -/
theorem toList_id (ref : Artifact) : ref.id.text.toList =
    ref.kind.word.toList ++ ':' :: ((Text.percentEncode ref.bucket).toList ++
      ':' :: (Text.percentEncode ref.name).toList) := by
  simp [id, String.toList_append, List.append_assoc]

/-- The parts of an artifact can be told from its id. -/
theorem eq_of_id_eq {ref other : Artifact} (h : ref.id = other.id) : ref = other := by
  have htext := congrArg (fun id : ItemId => id.text.toList) h
  simp only [toList_id] at htext
  obtain ⟨hkind, hrest⟩ := append_sep_inj
    ref.kind.colon_not_mem_word other.kind.colon_not_mem_word htext
  obtain ⟨hbucket, hname⟩ := append_sep_inj
    (Text.colon_not_mem_percentEncode ref.bucket)
    (Text.colon_not_mem_percentEncode other.bucket) hrest
  obtain ⟨bucket, name, kind⟩ := ref
  obtain ⟨bucket', name', kind'⟩ := other
  cases Text.percentEncode_inj (String.toList_inj.mp hbucket)
  cases Text.percentEncode_inj (String.toList_inj.mp hname)
  cases MediaKind.word_inj (String.toList_inj.mp hkind)
  rfl

/-- Different artifacts have different ids, whatever characters their buckets and names are made
of. -/
theorem id_injective : Function.Injective Artifact.id :=
  fun _ _ => eq_of_id_eq

end Artifact

end MediaGrid
