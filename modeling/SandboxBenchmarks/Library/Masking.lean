import Mathlib.Data.List.Basic
import Mathlib.Tactic.Common

/-!
# Rewriting a text from left to right

A pass reads the text once. Where it finds a match it keeps a first part of what
it matched, writes a mark in place of the rest and goes on behind the match. A
mark that begins and ends with a stop symbol separates what stands around it: a
pattern without stop symbols occurs in the result only where it occurred before,
or inside a mark.
-/

namespace Masking

variable {α : Type}

/-- A match: `kept` symbols of it stay, `taken` is its length. -/
structure Hit (α : Type) where
  kept : Nat
  taken : Nat
  mark : List α

/-- One pass, `skip` symbols of the last match still to be left out. The search sees
the symbol before the current place, as the text had it. -/
def rewriteFrom (find : Option α → List α → Option (Hit α)) :
    Option α → Nat → List α → List α
  | _, _, [] => []
  | _, skip + 1, c :: rest => rewriteFrom find (some c) skip rest
  | before, 0, c :: rest =>
    match find before (c :: rest) with
    | none => c :: rewriteFrom find (some c) 0 rest
    | some hit =>
      (c :: rest).take hit.kept ++ hit.mark
        ++ rewriteFrom find (some c) (hit.taken - 1) rest

def rewrite (find : Option α → List α → Option (Hit α)) (text : List α) : List α :=
  rewriteFrom find none 0 text

section Patterns

variable [DecidableEq α]

def occurrence (pattern mark : List α) (_ : Option α) (text : List α) : Option (Hit α) :=
  if pattern <+: text then some ⟨0, pattern.length, mark⟩ else none

/-- Every occurrence of the pattern from left to right; the empty pattern occurs around
every symbol. -/
def replaceAll (pattern mark text : List α) : List α :=
  if pattern = [] then mark ++ text.flatMap (fun c => c :: mark)
  else rewrite (occurrence pattern mark) text

end Patterns

/-- No symbol of the pattern is a stop symbol. -/
def Open (stop : α → Prop) (pattern : List α) : Prop := ∀ c ∈ pattern, ¬ stop c

/-- A mark between two stop symbols, or one stop symbol alone. -/
structure Fenced (stop : α → Prop) (mark : List α) : Prop where
  first : ∃ c rest, mark = c :: rest ∧ stop c
  last : ∃ rest c, mark = rest ++ [c] ∧ stop c

theorem infix_around {stop : α → Prop} {pattern before after : List α} {c : α}
    (openly : Open stop pattern) (hc : stop c) (h : pattern <:+: before ++ c :: after) :
    pattern <:+: before ∨ pattern <:+: after := by
  obtain ⟨left, right, same⟩ := h
  rw [List.append_assoc] at same
  rcases List.append_eq_append_iff.mp same with ⟨gap, rfl, tail⟩ | ⟨gap, rfl, tail⟩
  · -- the pattern begins before the stop symbol
    rcases List.append_eq_append_iff.mp tail with ⟨more, rfl, _⟩ | ⟨more, rfl, rest⟩
    · exact Or.inl ⟨left, more, by rw [List.append_assoc]⟩
    · cases more with
      | nil => exact Or.inl ⟨left, [], by simp⟩
      | cons d more =>
        obtain ⟨rfl, _⟩ := List.cons.inj rest
        exact absurd hc (openly c (by simp))
  · cases gap with
    | nil =>
      cases pattern with
      | nil => exact Or.inl (List.nil_infix)
      | cons d pattern =>
        obtain ⟨rfl, _⟩ := List.cons.inj tail
        exact absurd hc (openly c (by simp))
    | cons d gap =>
      obtain ⟨_, rfl⟩ := List.cons.inj tail
      exact Or.inr ⟨gap, right, List.append_assoc ..⟩

theorem infix_across {stop : α → Prop} {pattern before mark after : List α}
    (openly : Open stop pattern) (fenced : Fenced stop mark)
    (h : pattern <:+: before ++ mark ++ after) :
    pattern <:+: before ∨ pattern <:+: mark ∨ pattern <:+: after := by
  obtain ⟨c, rest, rfl, hc⟩ := fenced.first
  obtain ⟨rest', d, same, hd⟩ := fenced.last
  rw [same, ← List.append_assoc, List.append_assoc, List.singleton_append] at h
  rcases infix_around openly hd h with inside | behind
  · cases rest' with
    | nil =>
      rw [List.append_nil] at inside
      exact Or.inl inside
    | cons e rest' =>
      obtain ⟨rfl, _⟩ := List.cons.inj same
      rcases infix_around openly hc inside with ahead | within
      · exact Or.inl ahead
      · refine Or.inr (Or.inl (within.trans ?_))
        rw [same]
        exact ⟨[c], [d], by simp⟩
  · exact Or.inr (Or.inr behind)

theorem infix_fenced {stop : α → Prop} {pattern inner : List α} {c d : α}
    (openly : Open stop pattern) (hc : stop c) (hd : stop d)
    (h : pattern <:+: c :: inner ++ [d]) : pattern <:+: inner := by
  rcases infix_around openly hd h with inside | behind
  · rcases infix_around openly hc (show pattern <:+: [] ++ c :: inner from inside) with
      ahead | within
    · rw [List.infix_nil.mp ahead]
      exact List.nil_infix
    · exact within
  · rw [List.infix_nil.mp behind]
    exact List.nil_infix

section Passes

variable {stop : α → Prop} {find : Option α → List α → Option (Hit α)}
  {pattern : List α}

/-- The marks a search writes are fenced and do not show the pattern. -/
def Hides (stop : α → Prop) (find : Option α → List α → Option (Hit α))
    (pattern : List α) : Prop :=
  ∀ before text hit, find before text = some hit →
    Fenced stop hit.mark ∧ ¬ pattern <:+: hit.mark

/-- Induction over the text; what the pass left unchanged since the last mark is carried
along, because an occurrence may begin in it. -/
theorem infix_rewriteFrom (openly : Open stop pattern) (hides : Hides stop find pattern) :
    ∀ (text : List α) (before : Option α) (skip : Nat) (kept : List α),
      (skip = 0 ∨ kept = []) →
      pattern <:+: kept ++ rewriteFrom find before skip text →
      pattern <:+: kept ++ text := by
  intro text
  induction text with
  | nil =>
    intro before skip kept _ h
    simpa only [rewriteFrom] using h
  | cons c rest ih =>
    intro before skip kept start h
    cases skip with
    | succ skip =>
      obtain rfl : kept = [] := by simpa using start
      have inner := ih (some c) skip [] (Or.inr rfl) (by simpa only [rewriteFrom] using h)
      exact List.infix_cons inner
    | zero =>
      rw [rewriteFrom] at h
      cases found : find before (c :: rest) with
      | none =>
        simp only [found] at h
        have inner := ih (some c) 0 (kept ++ [c]) (Or.inl rfl)
          (by simpa only [List.append_assoc, List.singleton_append] using h)
        simpa only [List.append_assoc, List.singleton_append] using inner
      | some hit =>
        simp only [found] at h
        obtain ⟨fenced, hidden⟩ := hides before _ hit found
        rw [← List.append_assoc, ← List.append_assoc] at h
        rcases infix_across openly fenced h with ahead | within | behind
        · refine ahead.trans ⟨[], (c :: rest).drop hit.kept, ?_⟩
          rw [List.nil_append, List.append_assoc, List.take_append_drop]
        · exact absurd within hidden
        · have inner := ih (some c) _ [] (Or.inr rfl) (by simpa using behind)
          have whole : pattern <:+: c :: rest := List.infix_cons inner
          exact whole.trans (List.suffix_append kept _).isInfix

/-- A pass brings no occurrence into a text. -/
theorem infix_rewrite (openly : Open stop pattern) (hides : Hides stop find pattern)
    {text : List α} (h : pattern <:+: rewrite find text) : pattern <:+: text :=
  infix_rewriteFrom openly hides text none 0 [] (Or.inl rfl) h

end Passes

section Kept

variable {pattern : List α}

/-- What a kept part may be: no occurrence of the pattern begins in it. -/
def Before (pattern kept text : List α) : Prop :=
  ∀ start, start ≠ [] → start <:+ kept → ¬ pattern <+: start ++ text

theorem Before.snoc {kept rest : List α} {c : α} (before : Before pattern kept (c :: rest))
    (none : ¬ pattern <+: c :: rest) : Before pattern (kept ++ [c]) rest := by
  intro start nonempty suffix occurs
  obtain ⟨front, same⟩ := suffix
  rcases List.eq_nil_or_concat start with rfl | ⟨start', d, rfl⟩
  · exact nonempty rfl
  · rw [List.concat_eq_append, ← List.append_assoc] at same
    obtain ⟨_, last⟩ := List.append_inj' same rfl
    cases last
    rw [List.concat_eq_append, List.append_assoc, List.singleton_append] at occurs
    by_cases empty : start' = []
    · subst empty
      exact none occurs
    · exact before start' empty ⟨front, (List.append_inj' same rfl).1⟩ occurs

theorem Before.not_infix {kept text : List α} (nonempty : pattern ≠ [])
    (before : Before pattern kept text) : ¬ pattern <:+: kept := by
  rintro ⟨left, right, rfl⟩
  refine before (pattern ++ right) (by simp [nonempty]) ⟨left, by simp⟩ ?_
  exact ⟨right ++ text, by simp⟩

end Kept

section Replacing

variable [DecidableEq α] {stop : α → Prop} {pattern mark : List α}

theorem hides_occurrence {wanted : List α} (fenced : Fenced stop mark)
    (hidden : ¬ wanted <:+: mark) : Hides stop (occurrence pattern mark) wanted := by
  intro before text hit found
  unfold occurrence at found
  split at found
  · cases found
    exact ⟨fenced, hidden⟩
  · exact absurd found nofun

theorem not_infix_rewriteFrom (nonempty : pattern ≠ []) (openly : Open stop pattern)
    (fenced : Fenced stop mark) (hidden : ¬ pattern <:+: mark) :
    ∀ (text : List α) (last : Option α) (skip : Nat) (kept : List α),
      (skip = 0 ∨ kept = []) → Before pattern kept text →
      ¬ pattern <:+: kept ++ rewriteFrom (occurrence pattern mark) last skip text := by
  intro text
  induction text with
  | nil =>
    intro last skip kept _ before
    rw [rewriteFrom, List.append_nil]
    exact before.not_infix nonempty
  | cons c rest ih =>
    intro last skip kept start before
    have fresh : Before pattern [] rest := by
      intro start nonempty suffix
      exact absurd (List.suffix_nil.mp suffix) nonempty
    cases skip with
    | succ skip =>
      obtain rfl : kept = [] := by simpa using start
      rw [rewriteFrom]
      exact ih (some c) skip [] (Or.inr rfl) fresh
    | zero =>
      rw [rewriteFrom]
      by_cases occurs : pattern <+: c :: rest
      · simp only [occurrence, occurs, if_true, List.take_zero, List.nil_append]
        intro h
        rw [← List.append_assoc] at h
        rcases infix_across openly fenced h with ahead | within | behind
        · exact before.not_infix nonempty ahead
        · exact hidden within
        · exact ih (some c) _ [] (Or.inr rfl) fresh (by simpa using behind)
      · simp only [occurrence, occurs, if_false]
        have step := ih (some c) 0 (kept ++ [c]) (Or.inl rfl) (before.snoc occurs)
        simpa only [List.append_assoc, List.singleton_append] using step

/-- A replaced pattern is gone. -/
theorem not_infix_replaceAll (nonempty : pattern ≠ []) (openly : Open stop pattern)
    (fenced : Fenced stop mark) (hidden : ¬ pattern <:+: mark) (text : List α) :
    ¬ pattern <:+: replaceAll pattern mark text := by
  rw [replaceAll, if_neg nonempty]
  refine not_infix_rewriteFrom nonempty openly fenced hidden text none 0 [] (Or.inl rfl) ?_
  intro start nonempty suffix
  exact absurd (List.suffix_nil.mp suffix) nonempty

/-- Replacing one pattern brings in no occurrence of another. -/
theorem infix_replaceAll {wanted : List α} (nonempty : pattern ≠ [])
    (openly : Open stop wanted) (fenced : Fenced stop mark) (hidden : ¬ wanted <:+: mark)
    {text : List α} (h : wanted <:+: replaceAll pattern mark text) : wanted <:+: text := by
  rw [replaceAll, if_neg nonempty] at h
  exact infix_rewrite openly (hides_occurrence fenced hidden) h

end Replacing

section Sequences

variable [DecidableEq α] {stop : α → Prop} {mark : List α}

/-- Patterns replaced one after the other are all gone, however they overlap: a later
replacement brings none of the earlier ones back. -/
theorem not_infix_foldl_replaceAll (fenced : Fenced stop mark) :
    ∀ (patterns : List (List α)) (text : List α),
      (∀ pattern ∈ patterns, pattern ≠ [] ∧ Open stop pattern ∧ ¬ pattern <:+: mark) →
      ∀ wanted, Open stop wanted → ¬ wanted <:+: mark →
        (wanted ∈ patterns ∨ ¬ wanted <:+: text) →
        ¬ wanted <:+: patterns.foldl (fun output pattern => replaceAll pattern mark output)
          text := by
  intro patterns
  induction patterns with
  | nil =>
    intro text _ wanted _ _ start
    exact start.resolve_left nofun
  | cons pattern patterns ih =>
    intro text fine wanted openly hidden start
    obtain ⟨nonempty, openPattern, hiddenPattern⟩ := fine pattern List.mem_cons_self
    refine ih _ (fun p hp => fine p (List.mem_cons_of_mem _ hp)) wanted openly hidden ?_
    rcases start with listed | absent
    · rcases List.mem_cons.mp listed with rfl | later
      · exact Or.inr (not_infix_replaceAll nonempty openPattern fenced hiddenPattern text)
      · exact Or.inl later
    · exact Or.inr (fun h => absent (infix_replaceAll nonempty openly fenced hidden h))

end Sequences

end Masking
