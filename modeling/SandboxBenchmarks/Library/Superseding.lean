import Mathlib.Data.List.Nodup

/-!
# Logs whose entries supersede earlier ones

A writer keeps a list of entries; writing one drops the entries it supersedes. What is
kept after any history is read off the history alone: the entries nothing later
supersedes. Where equal keys supersede each other, kept entries have distinct keys.
-/

namespace Superseding

universe u v
variable {α : Type u} {κ : Type v} {s : α → α → Prop}

/-- `e` was written, and nothing later supersedes it. -/
def Stands (s : α → α → Prop) (written : List α) (e : α) : Prop :=
  ∃ before after, written = before ++ e :: after ∧ ∀ later ∈ after, ¬ s later e

theorem not_stands_nil {e : α} : ¬ Stands s [] e := by
  rintro ⟨before, after, same, _⟩
  cases before <;> cases same

theorem stands_snoc {written : List α} {last e : α} :
    Stands s (written ++ [last]) e ↔ e = last ∨ Stands s written e ∧ ¬ s last e := by
  constructor
  · rintro ⟨before, after, same, standing⟩
    rcases List.eq_nil_or_concat after with rfl | ⟨rest, final, rfl⟩
    · exact Or.inl (List.cons.inj (List.append_inj_right' same rfl)).1.symm
    · rw [List.concat_eq_append, ← List.cons_append, ← List.append_assoc] at same
      obtain ⟨initial, final_⟩ := List.append_inj' same rfl
      obtain rfl := (List.cons.inj final_).1
      refine Or.inr ⟨⟨before, rest, initial, fun later member => ?_⟩, ?_⟩
      · exact standing later (by simp [member])
      · exact standing last (by simp)
  · rintro (rfl | ⟨⟨before, after, rfl, standing⟩, kept⟩)
    · exact ⟨written, [], rfl, fun _ member => absurd member List.not_mem_nil⟩
    · refine ⟨before, after ++ [last], by simp, fun later member => ?_⟩
      rcases List.mem_append.mp member with earlier | final
      · exact standing later earlier
      · rwa [List.mem_singleton.mp final]

variable [DecidableRel s]

/-- The entries after `e` is written. -/
def supersede (s : α → α → Prop) [DecidableRel s] (e : α) (kept : List α) : List α :=
  e :: kept.filter (fun earlier => ¬ s e earlier)

theorem mem_supersede {e earlier : α} {kept : List α} :
    earlier ∈ supersede s e kept ↔ earlier = e ∨ earlier ∈ kept ∧ ¬ s e earlier := by
  simp [supersede]

/-- What stands after one more write. -/
theorem stands_supersede {written kept : List α} {last : α}
    (kept_iff : ∀ e, e ∈ kept ↔ Stands s written e) (e : α) :
    e ∈ supersede s last kept ↔ Stands s (written ++ [last]) e := by
  rw [mem_supersede, stands_snoc, kept_iff]

theorem nodup_map_supersede {key : α → κ} (covers : ∀ e earlier, key earlier = key e → s e earlier)
    {kept : List α} (distinct : (kept.map key).Nodup) (e : α) :
    ((supersede s e kept).map key).Nodup := by
  rw [supersede, List.map_cons, List.nodup_cons]
  constructor
  · intro member
    obtain ⟨earlier, inside, same⟩ := List.mem_map.mp member
    have spared := (List.mem_filter.mp inside).2
    simp [covers e earlier same] at spared
  · exact distinct.sublist (List.filter_sublist.map key)

/-- The last entry under a key stands, or a later one supersedes it under another key. -/
theorem stands_or_superseded {key : α → κ} {before after : List α} {e : α}
    (last : ∀ later ∈ after, key later ≠ key e) :
    Stands s (before ++ e :: after) e ∨ ∃ later ∈ after, s later e ∧ key later ≠ key e := by
  by_cases spared : ∀ later ∈ after, ¬ s later e
  · exact Or.inl ⟨before, after, rfl, spared⟩
  · push Not at spared
    obtain ⟨later, member, superseded⟩ := spared
    exact Or.inr ⟨later, member, superseded, last later member⟩

end Superseding
