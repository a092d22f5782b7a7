import Mathlib.Data.String.Basic

/-!
# Splitting a text at a character

`String.splitOn` walks over byte positions. At a separator of one character it
gives the pieces that `List.splitOn` gives of the characters.
-/

namespace Splitting

open String

variable (c : Char)

lemma next_singleton : Pos.Raw.next (String.singleton c) 0 = ⟨c.utf8Size⟩ := by
  have stepped := next_of_valid [] c []
  simpa using stepped

lemma atEnd_singleton : Pos.Raw.atEnd (String.singleton c) ⟨c.utf8Size⟩ = true := by
  have ended := (atEnd_of_valid [c] []).mpr rfl
  simpa using ended

lemma get_singleton : Pos.Raw.get (String.singleton c) 0 = c := by
  have first := get_of_valid [] [c]
  simpa using first

/-- The walk after the finished pieces `acc`, with `m` read of the next piece. -/
theorem splitOnAux_eq (l m r : List Char) (acc : List String) :
    splitOnAux (ofList (l ++ m ++ r)) (String.singleton c) ⟨utf8Len l⟩ ⟨utf8Len (l ++ m)⟩ 0 acc =
      acc.reverse ++ (List.splitOnPPrepend (· == c) r m.reverse).map ofList := by
  induction r generalizing l m acc with
  | nil =>
    have ended := (atEnd_of_valid (l ++ m) []).mpr rfl
    have piece := extract_of_valid l m []
    rw [splitOnAux, if_pos ended, utf8Len_append, piece]
    simp
  | cons d r ih =>
    have going : ¬ Pos.Raw.atEnd (ofList (l ++ m ++ d :: r)) ⟨utf8Len (l ++ m)⟩ = true := by
      rw [atEnd_of_valid]
      exact List.cons_ne_nil d r
    have read : Pos.Raw.get (ofList (l ++ m ++ d :: r)) ⟨utf8Len (l ++ m)⟩ = d :=
      get_of_valid (l ++ m) (d :: r)
    have next : Pos.Raw.next (ofList (l ++ m ++ d :: r)) ⟨utf8Len (l ++ m)⟩ =
        ⟨utf8Len (l ++ m ++ [d])⟩ := by
      rw [next_of_valid, utf8Len_append (l ++ m)]
      simp
    rw [splitOnAux, if_neg going, read, get_singleton]
    by_cases separates : d = c
    · have piece : Pos.Raw.extract (ofList (l ++ m ++ d :: r)) ⟨utf8Len l⟩
          (Pos.Raw.unoffsetBy ⟨utf8Len (l ++ m ++ [d])⟩ ⟨d.utf8Size⟩) = ofList m := by
        have back : Pos.Raw.unoffsetBy ⟨utf8Len (l ++ m ++ [d])⟩ ⟨d.utf8Size⟩ =
            ⟨utf8Len l + utf8Len m⟩ := by
          simp [Pos.Raw.unoffsetBy]
          omega
        rw [back]
        exact extract_of_valid l m (d :: r)
      have rest := ih (l ++ m ++ [d]) [] (ofList m :: acc)
      subst separates
      rw [if_pos (beq_self_eq_true d)]
      simp only [next, next_singleton, atEnd_singleton, if_true, piece]
      rw [List.splitOnPPrepend_cons_pos (p := (· == d)) (beq_self_eq_true d)]
      simpa using rest
    · have rest := ih l (m ++ [d]) acc
      have differs : (d == c) = false := beq_false_of_ne separates
      have stays : Pos.Raw.unoffsetBy ⟨utf8Len (l ++ m)⟩ 0 = ⟨utf8Len (l ++ m)⟩ := rfl
      rw [if_neg (by simp [separates]), stays, next,
        List.splitOnPPrepend_cons_neg (p := (· == c)) differs]
      simpa using rest

theorem splitOn_eq (s : String) :
    s.splitOn (String.singleton c) = (s.toList.splitOn c).map ofList := by
  have walk := splitOnAux_eq c [] [] s.toList []
  have apart : ¬ (String.singleton c == "") = true := by simp
  rw [splitOn, if_neg apart, List.splitOn_eq_splitOnP]
  simpa using walk

end Splitting
