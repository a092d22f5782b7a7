import Mathlib.Tactic.Common

/-!
# One item at a time

A list of numbered items where a new one is started only when every earlier one is
finished: only the last may be unfinished.
-/

namespace Sequential

universe u
variable {α : Type u}

/-- Every item but the last is done, and the last is as `now` says; `empty` holds of no items. -/
structure Serial (done : α → Prop) (now : ℕ → α → Prop) (empty : Prop) (items : List α) : Prop where
  earlier : ∀ i item, items[i]? = some item → i + 1 ≠ items.length → done item
  last : ∀ i item, items[i]? = some item → i + 1 = items.length → now i item
  none : items = [] → empty

variable {done done' : α → Prop} {now now' : ℕ → α → Prop} {empty empty' : Prop} {items : List α}
  {i j : ℕ} {item next : α}

theorem Serial.nil (h : empty) : Serial done now empty [] :=
  ⟨fun _ _ found => by simp at found, fun _ _ found => by simp at found, fun _ => h⟩

/-- An item that is not done is the last one. -/
theorem Serial.unfinished (h : Serial done now empty items) (found : items[i]? = some item)
    (open_ : ¬ done item) : i + 1 = items.length ∧ now i item := by
  by_cases latest : i + 1 = items.length
  · exact ⟨latest, h.last i item found latest⟩
  · exact absurd (h.earlier i item found latest) open_

theorem Serial.mono (h : Serial done now empty items) (dones : ∀ item, done item → done' item)
    (nows : ∀ i item, i + 1 = items.length → now i item → now' i item) (none : empty → empty') :
    Serial done' now' empty' items := by
  refine ⟨?_, ?_, fun nil => none (h.none nil)⟩
  · intro i item found latest
    exact dones item (h.earlier i item found latest)
  · intro i item found latest
    exact nows i item latest (h.last i item found latest)

theorem getElem?_set_cases {xs : List α} {x y : α} (h : (xs.set i y)[j]? = some x) :
    (j = i ∧ x = y) ∨ (j ≠ i ∧ xs[j]? = some x) := by
  rw [List.getElem?_set] at h
  split at h
  · rename_i same
    split at h
    · exact Or.inl ⟨same.symm, (Option.some.inj h).symm⟩
    · cases h
  · rename_i other
    exact Or.inr ⟨fun same => other same.symm, h⟩

/-- The last item goes on. -/
theorem Serial.advance (h : Serial done now empty items) (latest : i + 1 = items.length)
    (dones : ∀ item, done item → done' item) (here : now' i next) :
    Serial done' now' empty' (items.set i next) := by
  constructor
  · intro j item found before
    rw [List.length_set] at before
    rcases getElem?_set_cases found with ⟨same, _⟩ | ⟨_, found⟩
    · omega
    · exact dones item (h.earlier j item found before)
  · intro j item found last
    rw [List.length_set] at last
    rcases getElem?_set_cases found with ⟨same, rfl⟩ | ⟨other, _⟩
    · rwa [same]
    · omega
  · intro nil
    rw [List.set_eq_nil_iff] at nil
    rw [nil] at latest
    simp at latest

/-- A new item starts after the last one is done. -/
theorem Serial.start (h : Serial done now empty items)
    (dones : ∀ item, done item → done' item) (ended : ∀ i item, now i item → done' item)
    (here : now' items.length next) : Serial done' now' empty' (items ++ [next]) := by
  constructor
  · intro j item found before
    have bound : j < (items ++ [next]).length := (List.getElem?_eq_some_iff.mp found).1
    rw [List.length_append, List.length_singleton] at before bound
    rw [List.getElem?_append_left (by omega)] at found
    by_cases latest : j + 1 = items.length
    · exact ended j item (h.last j item found latest)
    · exact dones item (h.earlier j item found latest)
  · intro j item found last
    rw [List.length_append, List.length_singleton] at last
    obtain rfl : j = items.length := by omega
    rw [List.getElem?_concat_length, Option.some.injEq] at found
    rwa [← found]
  · intro nil
    simp at nil

end Sequential
