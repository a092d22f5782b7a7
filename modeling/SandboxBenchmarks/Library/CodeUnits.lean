import Mathlib.Data.List.Sort
import Mathlib.Data.List.Lex
import Mathlib.Tactic.Common

/-!
# Strings as sequences of UTF-16 code units

Length and the code-unit order. A string is determined by its code units, so the
order is linear.
-/

namespace CodeUnits

/-- One scalar value: itself below `2^16`, a surrogate pair above. -/
def unitsOf (c : Char) : List Nat :=
  if c.toNat < 65536 then [c.toNat]
  else [55296 + (c.toNat - 65536) / 1024, 56320 + (c.toNat - 65536) % 1024]

def units (s : String) : List Nat := s.toList.flatMap unitsOf

def utf16Length (s : String) : Nat := (units s).length

/-- `a < b` on strings. -/
def lt (a b : String) : Bool := decide (units a < units b)

/-- `a <= b` on strings. -/
def le (a b : String) : Bool := ! lt b a

/-- `strings.toSorted()` -/
def sorted (strings : List String) : List String :=
  strings.insertionSort (fun a b => le a b)

theorem toNat_surrogate {c : Char} : c.toNat < 55296 ∨ 57343 < c.toNat := by
  rcases c.valid with h | h
  · exact Or.inl h
  · exact Or.inr h.1

theorem toNat_lt (c : Char) : c.toNat < 1114112 := by
  rcases c.valid with h | h
  · have : c.toNat < 55296 := h
    omega
  · exact h.2

theorem unitsOf_append_injective {c d : Char} {rest rest' : List Nat}
    (h : unitsOf c ++ rest = unitsOf d ++ rest') : c = d ∧ rest = rest' := by
  have hc := toNat_surrogate (c := c)
  have hd := toNat_surrogate (c := d)
  have boundC := toNat_lt c
  have boundD := toNat_lt d
  have same : c.toNat = d.toNat ∧ rest = rest' := by
    unfold unitsOf at h
    by_cases smallC : c.toNat < 65536
    · by_cases smallD : d.toNat < 65536
      · simpa [smallC, smallD] using h
      · simp only [smallC, smallD, if_true, if_false, List.cons_append, List.nil_append,
          List.cons.injEq] at h
        omega
    · by_cases smallD : d.toNat < 65536
      · simp only [smallC, smallD, if_true, if_false, List.cons_append, List.nil_append,
          List.cons.injEq] at h
        omega
      · simp only [smallC, smallD, if_false, List.cons_append, List.nil_append,
          List.cons.injEq] at h
        exact ⟨by omega, h.2.2⟩
  exact ⟨Char.toNat_inj.mp same.1, same.2⟩

theorem unitsOf_ne_nil (c : Char) : unitsOf c ≠ [] := by
  unfold unitsOf
  split
  all_goals simp

theorem units_injective : Function.Injective units := by
  have key : ∀ s t : List Char, s.flatMap unitsOf = t.flatMap unitsOf → s = t := by
    intro s
    induction s with
    | nil =>
      intro t h
      cases t with
      | nil => rfl
      | cons d t =>
        rw [List.flatMap_nil, List.flatMap_cons] at h
        exact absurd (List.append_eq_nil_iff.mp h.symm).1 (unitsOf_ne_nil d)
    | cons c s ih =>
      intro t h
      cases t with
      | nil =>
        rw [List.flatMap_nil, List.flatMap_cons] at h
        exact absurd (List.append_eq_nil_iff.mp h).1 (unitsOf_ne_nil c)
      | cons d t =>
        rw [List.flatMap_cons, List.flatMap_cons] at h
        obtain ⟨rfl, rest⟩ := unitsOf_append_injective h
        rw [ih t rest]
  intro a b h
  exact String.toList_injective (key _ _ h)

theorem lt_self (a : String) : lt a a = false := by
  simp [lt]

theorem lt_chain {a b c : String} (hab : lt a b = true) (hbc : lt b c = true) :
    lt a c = true := by
  simp only [lt, decide_eq_true_eq] at *
  exact lt_trans hab hbc

theorem lt_total {a b : String} (h : a ≠ b) : lt a b = true ∨ lt b a = true := by
  simp only [lt, decide_eq_true_eq]
  exact lt_or_gt_of_ne (fun same => h (units_injective same))

end CodeUnits
