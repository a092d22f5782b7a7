import Mathlib.Data.List.GetD
import SandboxBenchmarks.Library.OrderStatistics
import SandboxBenchmarks.RunModel

/-!
# Medians selected in place

`selectNth` and `medianInPlace` of `packages/schema/src/analysis.ts` over a typed
array of finite numbers: a write outside it is dropped. The upper ends `hi` and
`gt` of the source's ranges are kept one past, so that they are never negative.
-/

namespace SelectMedian

open OrderStatistics RunModel

/-- `buffer[i]` -/
def entry (buffer : List ℚ) (i : ℕ) : ℚ := buffer.getD i 0

/-- Where a partition stands: what is below `lt` is less than the pivot, what is from `gt` on
greater, and `i` is the next element to look at. -/
structure Scan where
  buffer : List ℚ
  lt : ℕ
  i : ℕ
  gt : ℕ
deriving DecidableEq, Repr

/-- One step of the three-way partition. -/
def scanStep (pivot : ℚ) (s : Scan) : Scan :=
  let v := entry s.buffer s.i
  if v < pivot then
    { buffer := (s.buffer.set s.i (entry s.buffer s.lt)).set s.lt v
      lt := s.lt + 1
      i := s.i + 1
      gt := s.gt }
  else if v > pivot then
    { s with
      buffer := (s.buffer.set s.i (entry s.buffer (s.gt - 1))).set (s.gt - 1) v
      gt := s.gt - 1 }
  else { s with i := s.i + 1 }

/-- `while (i <= gt)`, with nothing to return when it is cut off. -/
def scan (pivot : ℚ) : ℕ → Scan → Option Scan
  | 0, _ => none
  | fuel + 1, s => if s.i < s.gt then scan pivot fuel (scanStep pivot s) else some s

def medianOfThree (x y z : ℚ) : ℚ :=
  if x < y then (if y < z then y else if x < z then z else x)
  else if x < z then x
  else if y < z then z
  else y

/-- `while (lo < hi)`, cut off likewise. -/
def selectLoop (k : ℕ) : ℕ → List ℚ → ℕ → ℕ → Option (ℚ × List ℚ)
  | 0, _, _, _ => none
  | fuel + 1, buffer, lo, hi => do
    if lo + 1 < hi then
      -- `>>>` reads 32 bits.
      let mid := (lo + (hi - 1)) % 2 ^ 32 / 2
      let pivot := medianOfThree (entry buffer lo) (entry buffer mid) (entry buffer (hi - 1))
      let s ← scan pivot (hi - lo + 1) ⟨buffer, lo, lo, hi⟩
      if k < s.lt then selectLoop k fuel s.buffer lo s.lt
      else if s.gt ≤ k then selectLoop k fuel s.buffer s.gt hi
      else return (pivot, s.buffer)
    else return (entry buffer k, buffer)

/-- The `k`-th smallest of the first `length` elements, and the buffer it leaves. -/
def selectNth (buffer : List ℚ) (length k : ℕ) : Option (ℚ × List ℚ) :=
  selectLoop k (length + 1) buffer 0 length

/-- The scan of the tail for the next order statistic. -/
def leastFrom (buffer : List ℚ) (start length : ℕ) (first : ℚ) : ℚ :=
  (List.range' start (length - start)).foldl
    (fun hiValue i => if entry buffer i < hiValue then entry buffer i else hiValue) first

/-- The median of the first `length` elements, of which there is at least one. -/
def medianInPlace (buffer : List ℚ) (length : ℕ) : Option (ℚ × List ℚ) := do
  let h : ℚ := ((length : ℚ) - 1) * (1 / 2)
  let lo := ⌊h⌋₊
  let (loValue, buffer) ← selectNth buffer length lo
  if h = lo then return (loValue + 0, buffer)
  else
    let hiValue := leastFrom buffer (lo + 2) length (entry buffer (lo + 1))
    return (loValue + (h - lo) * (hiValue - loValue), buffer)

/-! ### Exchanges -/

/-- Two writes that exchange two elements. -/
def exchange (buffer : List ℚ) (i j : ℕ) : List ℚ :=
  (buffer.set i (entry buffer j)).set j (entry buffer i)

lemma exchange_perm {buffer : List ℚ} {i j : ℕ} (hi : i < buffer.length) (hj : j < buffer.length) :
    (exchange buffer i j).Perm buffer := by
  have at_i : entry buffer i = buffer[i] := List.getD_eq_getElem _ _ hi
  have at_j : entry buffer j = buffer[j] := List.getD_eq_getElem _ _ hj
  rw [exchange, at_i, at_j]
  exact List.set_set_perm hi hj

lemma entry_exchange {buffer : List ℚ} {i j : ℕ} (hi : i < buffer.length) (hj : j < buffer.length)
    (t : ℕ) : entry (exchange buffer i j) t =
      if j = t then entry buffer i else if i = t then entry buffer j else entry buffer t := by
  have sets : (exchange buffer i j)[t]? =
      if j = t then some (entry buffer i) else if i = t then some (entry buffer j) else buffer[t]? := by
    rw [exchange, List.getElem?_set, List.getElem?_set, List.length_set, if_pos hj, if_pos hi]
  rw [entry, List.getD_eq_getElem?_getD, sets]
  split
  · rfl
  · split
    · rfl
    · exact (List.getD_eq_getElem?_getD ..).symm

/-- Only elements of `[lo, hi)` have changed places. -/
structure Rearranged (lo hi : ℕ) (buffer buffer' : List ℚ) : Prop where
  perm : buffer'.Perm buffer
  outside : ∀ j, j < lo ∨ hi ≤ j → entry buffer' j = entry buffer j
  drawn : ∀ j, lo ≤ j → j < hi → ∃ i, lo ≤ i ∧ i < hi ∧ entry buffer' j = entry buffer i
  kept : ∀ i, lo ≤ i → i < hi → ∃ j, lo ≤ j ∧ j < hi ∧ entry buffer' j = entry buffer i

variable {lo hi : ℕ} {buffer buffer' buffer'' : List ℚ}

lemma Rearranged.refl : Rearranged lo hi buffer buffer :=
  ⟨List.Perm.refl _, fun _ _ => rfl, fun j above below => ⟨j, above, below, rfl⟩,
    fun i above below => ⟨i, above, below, rfl⟩⟩

lemma Rearranged.trans (first : Rearranged lo hi buffer buffer')
    (second : Rearranged lo hi buffer' buffer'') : Rearranged lo hi buffer buffer'' := by
  refine ⟨second.perm.trans first.perm, fun j out => ?_, fun j above below => ?_,
    fun i above below => ?_⟩
  · rw [second.outside j out, first.outside j out]
  · obtain ⟨i, hi, hi', same⟩ := second.drawn j above below
    obtain ⟨i', hi, hi', same'⟩ := first.drawn i hi hi'
    exact ⟨i', hi, hi', same.trans same'⟩
  · obtain ⟨j, hj, hj', same⟩ := first.kept i above below
    obtain ⟨j', hj, hj', same'⟩ := second.kept j hj hj'
    exact ⟨j', hj, hj', same'.trans same⟩

lemma Rearranged.mono {lo' hi' : ℕ} (inside : Rearranged lo hi buffer buffer') (low : lo' ≤ lo)
    (high : hi ≤ hi') : Rearranged lo' hi' buffer buffer' := by
  refine ⟨inside.perm, fun j out => inside.outside j (by omega), fun j above below => ?_,
    fun i above below => ?_⟩
  · by_cases within : lo ≤ j ∧ j < hi
    · obtain ⟨i, hi, hi', same⟩ := inside.drawn j within.1 within.2
      exact ⟨i, by omega, by omega, same⟩
    · exact ⟨j, above, below, inside.outside j (by omega)⟩
  · by_cases within : lo ≤ i ∧ i < hi
    · obtain ⟨j, hj, hj', same⟩ := inside.kept i within.1 within.2
      exact ⟨j, by omega, by omega, same⟩
    · exact ⟨i, above, below, inside.outside i (by omega)⟩

lemma rearranged_exchange {i j : ℕ} (fits : hi ≤ buffer.length) (first : lo ≤ i ∧ i < hi)
    (second : lo ≤ j ∧ j < hi) : Rearranged lo hi buffer (exchange buffer i j) := by
  have reads := entry_exchange (first.2.trans_le fits) (second.2.trans_le fits)
  refine ⟨exchange_perm (first.2.trans_le fits) (second.2.trans_le fits), fun t out => ?_,
    fun t above below => ?_, fun t above below => ?_⟩
  · rw [reads, if_neg (by omega), if_neg (by omega)]
  · rw [reads]
    split
    · exact ⟨i, first.1, first.2, rfl⟩
    · split
      · exact ⟨j, second.1, second.2, rfl⟩
      · exact ⟨t, above, below, rfl⟩
  · by_cases isFirst : i = t
    · exact ⟨j, second.1, second.2, by rw [reads, if_pos rfl, isFirst]⟩
    · by_cases isSecond : j = t
      · refine ⟨i, first.1, first.2, ?_⟩
        rw [reads, if_pos rfl]
        split
        · rename_i same
          rw [← same, isSecond]
        · rw [isSecond]
      · exact ⟨t, above, below, by rw [reads, if_neg isSecond, if_neg isFirst]⟩

/-! ### The partition -/

/-- What the scan keeps. -/
structure Scanning (pivot : ℚ) (lo hi : ℕ) (buffer : List ℚ) (s : Scan) : Prop where
  moved : Rearranged lo hi buffer s.buffer
  ends : lo ≤ s.lt ∧ s.lt ≤ s.i ∧ s.i ≤ s.gt ∧ s.gt ≤ hi
  less : ∀ j, lo ≤ j → j < s.lt → entry s.buffer j < pivot
  equal : ∀ j, s.lt ≤ j → j < s.i → entry s.buffer j = pivot
  greater : ∀ j, s.gt ≤ j → j < hi → pivot < entry s.buffer j

lemma scanStep_keeps {pivot : ℚ} {s : Scan} (fits : hi ≤ buffer.length)
    (inv : Scanning pivot lo hi buffer s) (more : s.i < s.gt) :
    Scanning pivot lo hi buffer (scanStep pivot s) ∧
      (scanStep pivot s).gt - (scanStep pivot s).i + 1 = s.gt - s.i := by
  obtain ⟨moved, ⟨from_lo, lt_i, i_gt, to_hi⟩, less, equal, greater⟩ := inv
  have fits' : hi ≤ s.buffer.length := moved.perm.length_eq.symm ▸ fits
  have i_fits : s.i < s.buffer.length := by omega
  rcases lt_trichotomy (entry s.buffer s.i) pivot with small | same | large
  · have lt_fits : s.lt < s.buffer.length := by omega
    have reads := entry_exchange i_fits lt_fits
    have step : scanStep pivot s = ⟨exchange s.buffer s.i s.lt, s.lt + 1, s.i + 1, s.gt⟩ := by
      simp only [scanStep, if_pos small]
      rfl
    rw [step]
    refine ⟨⟨moved.trans (rearranged_exchange fits' ⟨by omega, by omega⟩ ⟨by omega, by omega⟩),
      by dsimp only; omega, fun j above below => ?_, fun j above below => ?_,
      fun j above below => ?_⟩, by dsimp only; omega⟩
    · rw [reads]
      grind
    · rw [reads]
      grind
    · rw [reads]
      grind
  · have step : scanStep pivot s = ⟨s.buffer, s.lt, s.i + 1, s.gt⟩ := by
      simp only [scanStep, same, lt_irrefl, if_false]
    rw [step]
    refine ⟨⟨moved, by dsimp only; omega, less, fun j above below => ?_, greater⟩,
      by dsimp only; omega⟩
    rcases Nat.lt_succ_iff_lt_or_eq.mp below with earlier | rfl
    · exact equal j above earlier
    · exact same
  · have gt_fits : s.gt - 1 < s.buffer.length := by omega
    have reads := entry_exchange i_fits gt_fits
    have step : scanStep pivot s = ⟨exchange s.buffer s.i (s.gt - 1), s.lt, s.i, s.gt - 1⟩ := by
      simp only [scanStep, if_neg (not_lt.mpr large.le), gt_iff_lt, if_pos large]
      rfl
    rw [step]
    refine ⟨⟨moved.trans (rearranged_exchange fits' ⟨by omega, by omega⟩ ⟨by omega, by omega⟩),
      by dsimp only; omega, fun j above below => ?_, fun j above below => ?_,
      fun j above below => ?_⟩, by dsimp only; omega⟩
    · rw [reads]
      grind
    · rw [reads]
      grind
    · rw [reads]
      grind

lemma scan_keeps {pivot : ℚ} (fits : hi ≤ buffer.length) {fuel : ℕ} {s : Scan}
    (inv : Scanning pivot lo hi buffer s) (enough : s.gt - s.i < fuel) :
    ∃ s', scan pivot fuel s = some s' ∧ Scanning pivot lo hi buffer s' ∧ s'.i = s'.gt := by
  induction fuel generalizing s with
  | zero => omega
  | succ fuel ih =>
    rw [scan]
    split
    · rename_i more
      obtain ⟨inv, shorter⟩ := scanStep_keeps fits inv more
      exact ih inv (by omega)
    · have ends := inv.ends
      exact ⟨s, rfl, inv, by omega⟩

/-- Whatever is read in the middle, the pivot lies between the two ends. -/
lemma medianOfThree_between (x y z : ℚ) :
    (medianOfThree x y z ≤ x ∨ medianOfThree x y z ≤ z) ∧
      (x ≤ medianOfThree x y z ∨ z ≤ medianOfThree x y z) := by
  rw [medianOfThree]
  grind

/-! ### The selection -/

/-- What the outer loop keeps: the place is still inside, and what is outside is in order with it. -/
structure Selecting (length k lo hi : ℕ) (buffer buffer' : List ℚ) : Prop where
  moved : Rearranged 0 length buffer buffer'
  ends : lo ≤ k ∧ k < hi ∧ hi ≤ length
  below : ∀ j t, j < lo → lo ≤ t → t < length → entry buffer' j ≤ entry buffer' t
  above : ∀ j t, t < hi → hi ≤ j → j < length → entry buffer' t ≤ entry buffer' j

/-- The buffer is partitioned about `k`. -/
structure Selected (length k : ℕ) (buffer buffer' : List ℚ) : Prop where
  moved : Rearranged 0 length buffer buffer'
  below : ∀ j, j < k → entry buffer' j ≤ entry buffer' k
  above : ∀ j, k < j → j < length → entry buffer' k ≤ entry buffer' j

/-- Inside an interval that is in order with what is outside, elements may change places. -/
lemma Selecting.rearrange {length k : ℕ} (inv : Selecting length k lo hi buffer buffer')
    (moved : Rearranged lo hi buffer' buffer'') : Selecting length k lo hi buffer buffer'' := by
  have ends := inv.ends
  refine ⟨inv.moved.trans (moved.mono (Nat.zero_le _) ends.2.2), ends, fun j t hj ht ht' => ?_,
    fun j t ht hj hj' => ?_⟩
  · rw [moved.outside j (Or.inl hj)]
    by_cases inside : t < hi
    · obtain ⟨i, from_lo, to_hi, same⟩ := moved.drawn t ht inside
      rw [same]
      exact inv.below j i hj from_lo (by omega)
    · rw [moved.outside t (by omega)]
      exact inv.below j t hj ht ht'
  · rw [moved.outside j (Or.inr hj)]
    by_cases inside : lo ≤ t
    · obtain ⟨i, from_lo, to_hi, same⟩ := moved.drawn t inside ht
      rw [same]
      exact inv.above j i to_hi hj hj'
    · rw [moved.outside t (by omega)]
      exact inv.above j t ht hj hj'

/-- After a whole scan the interval is in three parts, and the outer two are shorter than it. -/
structure Split (pivot : ℚ) (lo hi : ℕ) (s : Scan) : Prop where
  shorter : s.lt < hi ∧ lo < s.gt ∧ lo ≤ s.lt ∧ s.lt ≤ s.gt ∧ s.gt ≤ hi
  less : ∀ j, lo ≤ j → j < s.lt → entry s.buffer j < pivot
  equal : ∀ j, s.lt ≤ j → j < s.gt → entry s.buffer j = pivot
  greater : ∀ j, s.gt ≤ j → j < hi → pivot < entry s.buffer j

lemma split_of_scan {pivot : ℚ} (fits : hi ≤ buffer.length) (more : lo + 1 < hi)
    (low : ∃ j, lo ≤ j ∧ j < hi ∧ entry buffer j ≤ pivot)
    (high : ∃ j, lo ≤ j ∧ j < hi ∧ pivot ≤ entry buffer j) :
    ∃ s, scan pivot (hi - lo + 1) ⟨buffer, lo, lo, hi⟩ = some s ∧
      Rearranged lo hi buffer s.buffer ∧ Split pivot lo hi s := by
  have start : Scanning pivot lo hi buffer ⟨buffer, lo, lo, hi⟩ :=
    ⟨.refl, by dsimp only; omega, fun _ above below => absurd below (not_lt.mpr above),
      fun _ above below => absurd below (not_lt.mpr above),
      fun _ above below => absurd below (not_lt.mpr above)⟩
  obtain ⟨s, done, ⟨moved, ends, less, equal, greater⟩, whole⟩ :=
    scan_keeps fits start (Nat.lt_succ_self (hi - lo))
  refine ⟨s, done, moved, ⟨?_, ?_, ends.1, by omega, ends.2.2.2⟩, less, fun j above below =>
    equal j above (by omega), greater⟩
  · obtain ⟨i, from_lo, to_hi, least⟩ := high
    obtain ⟨j, hj, hj', same⟩ := moved.kept i from_lo to_hi
    have late : s.lt ≤ j := by
      by_contra early
      have small := less j hj (not_le.mp early)
      rw [same] at small
      exact absurd small (not_lt.mpr least)
    omega
  · obtain ⟨i, from_lo, to_hi, most⟩ := low
    obtain ⟨j, hj, hj', same⟩ := moved.kept i from_lo to_hi
    have early : j < s.gt := by
      by_contra late
      have large := greater j (not_lt.mp late) hj'
      rw [same] at large
      exact absurd large (not_lt.mpr most)
    omega

theorem selectLoop_spec {length k fuel : ℕ} (fits : length ≤ buffer.length)
    (enough : hi - lo < fuel) (inv : Selecting length k lo hi buffer buffer') :
    ∃ buffer'', selectLoop k fuel buffer' lo hi = some (entry buffer'' k, buffer'') ∧
      Selected length k buffer buffer'' := by
  induction fuel generalizing lo hi buffer' with
  | zero => omega
  | succ fuel ih =>
    have ends := inv.ends
    have fits' : hi ≤ buffer'.length := by
      rw [inv.moved.perm.length_eq]
      omega
    rw [selectLoop]
    split
    · rename_i more
      dsimp only
      generalize hy : entry buffer' ((lo + (hi - 1)) % 2 ^ 32 / 2) = y
      obtain ⟨top, bottom⟩ := medianOfThree_between (entry buffer' lo) y (entry buffer' (hi - 1))
      generalize medianOfThree (entry buffer' lo) y (entry buffer' (hi - 1)) = pivot at top bottom ⊢
      obtain ⟨s, done, moved, split⟩ := split_of_scan fits' more
        (bottom.elim (fun le => ⟨lo, le_refl lo, by omega, le⟩)
          (fun le => ⟨hi - 1, by omega, by omega, le⟩))
        (top.elim (fun le => ⟨lo, le_refl lo, by omega, le⟩)
          (fun le => ⟨hi - 1, by omega, by omega, le⟩))
      rw [done, Option.bind_eq_bind, Option.bind_some]
      have inv := inv.rearrange moved
      obtain ⟨shorter, less, equal, greater⟩ := split
      by_cases left : k < s.lt
      · rw [if_pos left]
        refine ih (by omega) ⟨inv.moved, by omega, inv.below, fun t j before after last => ?_⟩
        by_cases outside : hi ≤ t
        · exact inv.above t j (by omega) outside last
        · have large : pivot ≤ entry s.buffer t := by
            by_cases tied : t < s.gt
            · exact (equal t after tied).ge
            · exact (greater t (by omega) (by omega)).le
          by_cases early : j < lo
          · exact inv.below j t early (by omega) last
          · exact (less j (by omega) before).le.trans large
      · rw [if_neg left]
        by_cases right : s.gt ≤ k
        · rw [if_pos right]
          refine ih (by omega) ⟨inv.moved, by omega, fun j t before after last => ?_, inv.above⟩
          by_cases outside : hi ≤ t
          · exact inv.above t j (by omega) outside last
          · have large := greater t after (by omega)
            by_cases early : j < lo
            · exact inv.below j t early (by omega) last
            · have small : entry s.buffer j ≤ pivot := by
                by_cases tied : s.lt ≤ j
                · exact (equal j tied before).le
                · exact (less j (by omega) (by omega)).le
              exact small.trans large.le
        · rw [if_neg right]
          have here := equal k (by omega) (by omega)
          refine ⟨s.buffer, by rw [here]; rfl, inv.moved, fun j before => ?_, fun j after last => ?_⟩
          · by_cases early : j < lo
            · exact inv.below j k early (by omega) (by omega)
            · rw [here]
              by_cases tied : s.lt ≤ j
              · exact (equal j tied (by omega)).le
              · exact (less j (by omega) (by omega)).le
          · by_cases outside : hi ≤ j
            · exact inv.above j k (by omega) outside last
            · rw [here]
              by_cases tied : j < s.gt
              · exact (equal j (by omega) tied).ge
              · exact (greater j (by omega) (by omega)).le
    · rename_i single
      have here : k = lo := by omega
      refine ⟨buffer', rfl, inv.moved, fun j before => ?_, fun j after last => ?_⟩
      · exact inv.below j k (by omega) (by omega) (by omega)
      · exact inv.above j k (by omega) (by omega) last

/-! ### The prefix -/

/-- The first `length` elements have changed places and nothing else has. -/
structure Permuted (length : ℕ) (buffer buffer' : List ℚ) : Prop where
  prefixPerm : (buffer'.take length).Perm (buffer.take length)
  rest : buffer'.drop length = buffer.drop length

lemma Permuted.perm {length : ℕ} (h : Permuted length buffer buffer') : buffer'.Perm buffer := by
  rw [← List.take_append_drop length buffer', ← List.take_append_drop length buffer, h.rest]
  exact h.prefixPerm.append_right _

lemma permuted_of_rearranged {length : ℕ} (moved : Rearranged 0 length buffer buffer') :
    Permuted length buffer buffer' := by
  have rest : buffer'.drop length = buffer.drop length := by
    apply List.ext_getElem
    · rw [List.length_drop, List.length_drop, moved.perm.length_eq]
    · intro j hj hj'
      rw [List.length_drop] at hj hj'
      rw [List.getElem_drop, List.getElem_drop]
      have same := moved.outside (length + j) (Or.inr (Nat.le_add_right _ _))
      rwa [entry, entry, List.getD_eq_getElem _ _ (by omega), List.getD_eq_getElem _ _ (by omega)]
        at same
  refine ⟨?_, rest⟩
  have whole := moved.perm
  rw [← List.take_append_drop length buffer', ← List.take_append_drop length buffer, rest,
    List.perm_append_right_iff] at whole
  exact whole

lemma mem_take_iff {length : ℕ} (fits : length ≤ buffer.length) {x : ℚ} :
    x ∈ buffer.take length ↔ ∃ j < length, entry buffer j = x := by
  rw [List.mem_iff_getElem]
  constructor
  · rintro ⟨j, hj, rfl⟩
    rw [List.length_take, lt_min_iff] at hj
    exact ⟨j, hj.1, by rw [entry, List.getD_eq_getElem _ _ hj.2, List.getElem_take]⟩
  · rintro ⟨j, hj, rfl⟩
    refine ⟨j, by rw [List.length_take]; omega, ?_⟩
    rw [entry, List.getD_eq_getElem _ _ (by omega), List.getElem_take]

lemma take_eq_split {length k : ℕ} (fits : length ≤ buffer.length) (inside : k < length) :
    buffer.take length = buffer.take k ++ entry buffer k :: (buffer.take length).drop (k + 1) := by
  have within : k < (buffer.take length).length := by
    rw [List.length_take]
    omega
  have here : entry buffer k = (buffer.take length)[k] := by
    rw [entry, List.getD_eq_getElem _ _ (by omega), List.getElem_take]
  have start : buffer.take k = (buffer.take length).take k := by
    rw [List.take_take, min_eq_left inside.le]
  rw [start, here, ← List.drop_eq_getElem_cons within, List.take_append_drop]

lemma mem_after_iff {length k : ℕ} (fits : length ≤ buffer.length) {x : ℚ} :
    x ∈ (buffer.take length).drop (k + 1) ↔ ∃ j, k < j ∧ j < length ∧ entry buffer j = x := by
  rw [List.mem_iff_getElem]
  constructor
  · rintro ⟨j, hj, rfl⟩
    rw [List.length_drop, List.length_take] at hj
    refine ⟨k + 1 + j, by omega, by omega, ?_⟩
    rw [entry, List.getD_eq_getElem _ _ (by omega), List.getElem_drop, List.getElem_take]
  · rintro ⟨j, after, last, rfl⟩
    have here : k + 1 + (j - (k + 1)) = j := by omega
    refine ⟨j - (k + 1), by rw [List.length_drop, List.length_take]; omega, ?_⟩
    rw [List.getElem_drop, List.getElem_take, entry, List.getD_eq_getElem _ _ (by omega)]
    simp only [here]

lemma Selected.partitioned {length k : ℕ} (fits : length ≤ buffer'.length) (inside : k < length)
    (selected : Selected length k buffer buffer') :
    Partitioned (buffer'.take k) (entry buffer' k) ((buffer'.take length).drop (k + 1)) := by
  constructor
  · intro x hx
    obtain ⟨j, before, rfl⟩ := (mem_take_iff (by omega)).mp hx
    exact selected.below j before
  · intro x hx
    obtain ⟨j, after, last, rfl⟩ := (mem_after_iff fits).mp hx
    exact selected.above j after last

/-- What `leastFrom` gives is one of the elements it looks at, and none of them is smaller. -/
lemma leastFrom_spec (buffer : List ℚ) (start length : ℕ) (first : ℚ) :
    (leastFrom buffer start length first = first ∨
      ∃ j, start ≤ j ∧ j < length ∧ entry buffer j = leastFrom buffer start length first) ∧
      leastFrom buffer start length first ≤ first ∧
      ∀ j, start ≤ j → j < length → leastFrom buffer start length first ≤ entry buffer j := by
  rw [leastFrom]
  generalize hn : length - start = n
  induction n generalizing start first with
  | zero => exact ⟨Or.inl rfl, le_refl _, fun j above below => by omega⟩
  | succ n ih =>
    rw [List.range'_succ, List.foldl_cons]
    generalize hv : (if entry buffer start < first then entry buffer start else first) = value
    have fewer : length - (start + 1) = n := by omega
    obtain ⟨found, le, least⟩ := ih (start + 1) value fewer
    have both : value ≤ first ∧ value ≤ entry buffer start := by
      rw [← hv]
      split
      · exact ⟨le_of_lt ‹_›, le_refl _⟩
      · exact ⟨le_refl _, not_lt.mp ‹_›⟩
    refine ⟨?_, le.trans both.1, fun j above below => ?_⟩
    · rcases found with same | ⟨j, above, below, same⟩
      · rw [same, ← hv]
        split
        · exact Or.inr ⟨start, le_refl _, by omega, rfl⟩
        · exact Or.inl rfl
      · exact Or.inr ⟨j, by omega, below, same⟩
    · rcases above.eq_or_lt with rfl | later
      · exact le.trans both.2
      · exact least j later below

/-! ### The order statistics -/

/-- What a selection leaves: the order statistic at its place, the buffer partitioned about it. -/
structure SelectedAt (length k : ℕ) (buffer buffer' : List ℚ) : Prop where
  statistic : (sort (buffer.take length))[k]? = some (entry buffer' k)
  below : ∀ j, j < k → entry buffer' j ≤ entry buffer' k
  above : ∀ j, k < j → j < length → entry buffer' k ≤ entry buffer' j
  permuted : Permuted length buffer buffer'

lemma Selected.selectedAt {length k : ℕ} (fits : length ≤ buffer.length) (inside : k < length)
    (selected : Selected length k buffer buffer') : SelectedAt length k buffer buffer' := by
  have permuted := permuted_of_rearranged selected.moved
  have fits' : length ≤ buffer'.length := by rwa [selected.moved.perm.length_eq]
  refine ⟨?_, selected.below, selected.above, permuted⟩
  have perm : (buffer.take length).Perm
      (buffer'.take k ++ entry buffer' k :: (buffer'.take length).drop (k + 1)) := by
    rw [← take_eq_split fits' inside]
    exact permuted.prefixPerm.symm
  have place : (buffer'.take k).length = k := by
    rw [List.length_take]
    omega
  have found := sort_getElem?_of_partitioned perm (selected.partitioned fits' inside)
  rwa [place] at found

lemma selectNth_selected {length k : ℕ} (fits : length ≤ buffer.length) (inside : k < length) :
    ∃ buffer', selectNth buffer length k = some (entry buffer' k, buffer') ∧
      Selected length k buffer buffer' :=
  selectLoop_spec fits (by omega)
    ⟨.refl, by omega, fun j _ early => absurd early (Nat.not_lt_zero j),
      fun _ j _ late early => absurd early (not_lt.mpr late)⟩

/-- The tail of a selection holds the next order statistic as its least element. -/
lemma Selected.next {length k : ℕ} (fits : length ≤ buffer.length) (inside : k + 1 < length)
    (selected : Selected length k buffer buffer') :
    (sort (buffer.take length))[k + 1]? =
      some (leastFrom buffer' (k + 2) length (entry buffer' (k + 1))) := by
  have fits' : length ≤ buffer'.length := by rwa [selected.moved.perm.length_eq]
  have perm : (buffer.take length).Perm
      (buffer'.take k ++ entry buffer' k :: (buffer'.take length).drop (k + 1)) := by
    rw [← take_eq_split fits' (by omega)]
    exact (permuted_of_rearranged selected.moved).prefixPerm.symm
  have place : (buffer'.take k).length = k := by
    rw [List.length_take]
    omega
  obtain ⟨found, le, least⟩ :=
    leastFrom_spec buffer' (k + 2) length (entry buffer' (k + 1))
  have member : leastFrom buffer' (k + 2) length (entry buffer' (k + 1)) ∈
      (buffer'.take length).drop (k + 1) := by
    rw [mem_after_iff fits']
    rcases found with same | ⟨j, above, below, same⟩
    · exact ⟨k + 1, by omega, inside, same.symm⟩
    · exact ⟨j, by omega, below, same⟩
  have smallest : ∀ x ∈ (buffer'.take length).drop (k + 1),
      leastFrom buffer' (k + 2) length (entry buffer' (k + 1)) ≤ x := by
    intro x hx
    obtain ⟨j, after, last, rfl⟩ := (mem_after_iff fits').mp hx
    rcases Nat.lt_or_ge (k + 1) j with later | here
    · exact least j later last
    · obtain rfl : j = k + 1 := by omega
      exact le
  have found := sort_getElem?_succ_of_partitioned perm
    (selected.partitioned fits' (by omega)) member smallest
  rwa [place] at found

lemma percentileOf_eq {l : List ℚ} {length : ℕ} (size : l.length = length) (p : ℚ) :
    percentileOf l p = (sort l).getD ⌊((length : ℚ) - 1) * p⌋₊ 0 +
      (((length : ℚ) - 1) * p - ⌊((length : ℚ) - 1) * p⌋₊) *
        ((sort l).getD ⌈((length : ℚ) - 1) * p⌉₊ ((sort l).getD ⌊((length : ℚ) - 1) * p⌋₊ 0) -
          (sort l).getD ⌊((length : ℚ) - 1) * p⌋₊ 0) := by
  have same : (l.insertionSort (· ≤ ·)).length = length := by rw [List.length_insertionSort, size]
  rw [percentileOf, percentile, same]
  rfl

/-- Selecting in place gives the same value as sorting. -/
lemma medianInPlace_spec {length : ℕ} (live : 1 ≤ length) (fits : length ≤ buffer.length) :
    ∃ buffer', medianInPlace buffer length =
        some (percentileOf (buffer.take length) (1 / 2), buffer') ∧
      Permuted length buffer buffer' := by
  have size : (buffer.take length).length = length := by
    rw [List.length_take, min_eq_left fits]
  have cast : (1 : ℚ) ≤ length := by exact_mod_cast live
  rw [medianInPlace, percentileOf_eq size]
  generalize hh : ((length : ℚ) - 1) * (1 / 2) = h
  have nonneg : 0 ≤ h := by linarith
  have floor_le := Nat.floor_le nonneg
  have inside : ⌊h⌋₊ < length := by
    have below : (⌊h⌋₊ : ℚ) < length := by linarith
    exact_mod_cast below
  obtain ⟨buffer', chosen, selected⟩ := selectNth_selected fits inside
  have statistic := (selected.selectedAt fits inside).statistic
  refine ⟨buffer', ?_, permuted_of_rearranged selected.moved⟩
  rw [List.getD_eq_getElem?_getD, statistic, Option.getD_some]
  simp only [chosen, Option.bind_eq_bind, Option.bind_some]
  split
  · rename_i whole
    rw [← whole, sub_self, zero_mul]
    rfl
  · rename_i part
    have floor_lt := lt_of_le_of_ne floor_le (Ne.symm part)
    have ceil : ⌈h⌉₊ = ⌊h⌋₊ + 1 :=
      le_antisymm (Nat.ceil_le_floor_add_one h) (Nat.lt_ceil.mpr floor_lt)
    have inside : ⌊h⌋₊ + 1 < length := by
      have below : (⌊h⌋₊ : ℚ) + 1 < length := by linarith
      exact_mod_cast below
    rw [ceil, List.getD_eq_getElem?_getD, selected.next fits inside, Option.getD_some]
    rfl

theorem selection_in_place {buffer : List ℚ} {length : ℕ} (live : 1 ≤ length)
    (fits : length ≤ buffer.length) :
    (∀ k, k < length → ∃ buffer', selectNth buffer length k = some (entry buffer' k, buffer') ∧
      SelectedAt length k buffer buffer' ∧ buffer'.Perm buffer) ∧
    ∃ buffer', medianInPlace buffer length =
        some (percentileOf (buffer.take length) (1 / 2), buffer') ∧
      Permuted length buffer buffer' ∧ buffer'.Perm buffer := by
  constructor
  · intro k inside
    obtain ⟨buffer', chosen, selected⟩ := selectNth_selected fits inside
    exact ⟨buffer', chosen, selected.selectedAt fits inside, selected.moved.perm⟩
  · obtain ⟨buffer', value, permuted⟩ := medianInPlace_spec live fits
    exact ⟨buffer', value, permuted, permuted.perm⟩

/-- Equal keys, an even prefix and one element past it. -/
theorem selection_in_place_ties :
    (∀ k, k < 4 → ∃ buffer', selectNth [3, 1, 3, 1, 0] 4 k = some (entry buffer' k, buffer') ∧
      SelectedAt 4 k [3, 1, 3, 1, 0] buffer' ∧ buffer'.Perm [3, 1, 3, 1, 0]) ∧
    ∃ buffer', medianInPlace [3, 1, 3, 1, 0] 4 =
        some (percentileOf ([3, 1, 3, 1, 0].take 4) (1 / 2), buffer') ∧
      Permuted 4 [3, 1, 3, 1, 0] buffer' ∧ buffer'.Perm [3, 1, 3, 1, 0] :=
  selection_in_place (by decide) (by decide)

example : medianInPlace [3, 1, 3, 1, 0] 4 = some (2, [1, 1, 3, 3, 0]) := by decide +kernel

end SelectMedian
