import Mathlib.Data.List.Basic
import Mathlib.Data.Nat.Notation
import Mathlib.Tactic.Common

/-!
# Base64

Three bytes make a quantum of four letters, and a last group of one or two bytes is
padded. The text of a whole number of quanta can be cut off and read for itself.
-/

namespace Base64

abbrev Bytes := List UInt8

/-! ### Letters -/

/-- The letter of a value below 64. -/
def letter (n : ℕ) : Char :=
  if n < 26 then Char.ofNat (65 + n)
  else if n < 52 then Char.ofNat (71 + n)
  else if n < 62 then Char.ofNat (n - 4)
  else if n = 62 then '+'
  else '/'

def value (c : Char) : Option ℕ :=
  if 'A' ≤ c ∧ c ≤ 'Z' then some (c.toNat - 65)
  else if 'a' ≤ c ∧ c ≤ 'z' then some (c.toNat - 71)
  else if '0' ≤ c ∧ c ≤ '9' then some (c.toNat + 4)
  else if c = '+' then some 62
  else if c = '/' then some 63
  else none

theorem value_letter {n : ℕ} (small : n < 64) : value (letter n) = some n := by
  have every : ∀ n < 64, value (letter n) = some n := by decide +kernel
  exact every n small

theorem letter_ne_pad {n : ℕ} (small : n < 64) : letter n ≠ '=' := by
  intro pad
  have read := value_letter small
  rw [pad] at read
  cases read

/-- Letters are visible characters of ASCII. -/
theorem letter_visible {n : ℕ} (small : n < 64) : 0x20 < (letter n).toNat ∧ (letter n).toNat < 0x7F := by
  have every : ∀ n < 64, 0x20 < (letter n).toNat ∧ (letter n).toNat < 0x7F := by decide +kernel
  exact every n small

/-! ### Quanta -/

def encode : Bytes → List Char
  | [] => []
  | [a] => [letter (a.toNat / 4), letter (a.toNat % 4 * 16), '=', '=']
  | [a, b] => [letter (a.toNat / 4), letter (a.toNat % 4 * 16 + b.toNat / 16),
      letter (b.toNat % 16 * 4), '=']
  | a :: b :: c :: rest => letter (a.toNat / 4) :: letter (a.toNat % 4 * 16 + b.toNat / 16) ::
      letter (b.toNat % 16 * 4 + c.toNat / 64) :: letter (c.toNat % 64) :: encode rest

/-- The byte of two letters. -/
def one (p q : Char) : Option Bytes := do
  let p ← value p
  let q ← value q
  pure [UInt8.ofNat (p * 4 + q / 16)]

/-- The bytes of three letters. -/
def two (p q r : Char) : Option Bytes := do
  let p ← value p
  let q ← value q
  let r ← value r
  pure [UInt8.ofNat (p * 4 + q / 16), UInt8.ofNat (q % 16 * 16 + r / 4)]

def three (p q r s : Char) : Option Bytes := do
  let p ← value p
  let q ← value q
  let r ← value r
  let s ← value s
  pure [UInt8.ofNat (p * 4 + q / 16), UInt8.ofNat (q % 16 * 16 + r / 4),
    UInt8.ofNat (r % 4 * 64 + s)]

/-- Padding ends the text, and a last quantum may lack it. -/
def decode : List Char → Option Bytes
  | [] => some []
  | [_] => none
  | [p, q] => one p q
  | [p, q, r] => two p q r
  | p :: q :: r :: s :: rest =>
    if s = '=' then
      if rest = [] then (if r = '=' then one p q else two p q r) else none
    else do
      let bytes ← three p q r s
      let more ← decode rest
      pure (bytes ++ more)

theorem byte_lt (a : UInt8) : a.toNat < 256 := a.toNat_lt

theorem byte_eq {a : UInt8} {n : ℕ} (h : n = a.toNat) : UInt8.ofNat n = a := by
  rw [h, UInt8.ofNat_toNat]

theorem one_encode (a : UInt8) :
    one (letter (a.toNat / 4)) (letter (a.toNat % 4 * 16)) = some [a] := by
  have small := byte_lt a
  have first := value_letter (n := a.toNat / 4) (by omega)
  have second := value_letter (n := a.toNat % 4 * 16) (by omega)
  simp only [one, first, second, Option.bind_eq_bind, Option.bind_some, Option.pure_def]
  rw [byte_eq (a := a) (by omega)]

theorem two_encode (a b : UInt8) :
    two (letter (a.toNat / 4)) (letter (a.toNat % 4 * 16 + b.toNat / 16))
      (letter (b.toNat % 16 * 4)) = some [a, b] := by
  have small := byte_lt a
  have small' := byte_lt b
  have first := value_letter (n := a.toNat / 4) (by omega)
  have second := value_letter (n := a.toNat % 4 * 16 + b.toNat / 16) (by omega)
  have third := value_letter (n := b.toNat % 16 * 4) (by omega)
  simp only [two, first, second, third, Option.bind_eq_bind, Option.bind_some, Option.pure_def]
  rw [byte_eq (a := a) (by omega), byte_eq (a := b) (by omega)]

theorem three_encode (a b c : UInt8) :
    three (letter (a.toNat / 4)) (letter (a.toNat % 4 * 16 + b.toNat / 16))
      (letter (b.toNat % 16 * 4 + c.toNat / 64)) (letter (c.toNat % 64)) = some [a, b, c] := by
  have small := byte_lt a
  have small' := byte_lt b
  have small'' := byte_lt c
  have first := value_letter (n := a.toNat / 4) (by omega)
  have second := value_letter (n := a.toNat % 4 * 16 + b.toNat / 16) (by omega)
  have third := value_letter (n := b.toNat % 16 * 4 + c.toNat / 64) (by omega)
  have fourth := value_letter (n := c.toNat % 64) (by omega)
  simp only [three, first, second, third, fourth, Option.bind_eq_bind, Option.bind_some,
    Option.pure_def]
  rw [byte_eq (a := a) (by omega), byte_eq (a := b) (by omega), byte_eq (a := c) (by omega)]

/-! ### Round trip -/

theorem decode_encode (bytes : Bytes) : decode (encode bytes) = some bytes := by
  induction bytes using encode.induct with
  | case1 => rfl
  | case2 a =>
    rw [encode, decode, if_pos rfl, if_pos rfl, if_pos rfl]
    exact one_encode a
  | case3 a b =>
    have small := byte_lt b
    have letter_third := letter_ne_pad (n := b.toNat % 16 * 4) (by omega)
    rw [encode, decode, if_pos rfl, if_pos rfl, if_neg letter_third]
    exact two_encode a b
  | case4 a b c rest ih =>
    have letter_fourth := letter_ne_pad (n := c.toNat % 64) (by omega)
    rw [encode, decode, if_neg letter_fourth, three_encode, ih]
    rfl

theorem length_encode (bytes : Bytes) : (encode bytes).length = 4 * ((bytes.length + 2) / 3) := by
  induction bytes using encode.induct with
  | case1 => rfl
  | case2 a => simp [encode]
  | case3 a b => simp [encode]
  | case4 a b c rest ih =>
    simp only [encode, List.length_cons, ih]
    omega

/-- Whole groups of three bytes are encoded for themselves. -/
theorem encode_append (front back : Bytes) (whole : 3 ∣ front.length) :
    encode (front ++ back) = encode front ++ encode back := by
  induction front using encode.induct with
  | case1 => rfl
  | case2 a => simp at whole
  | case3 a b =>
    simp only [List.length_cons, List.length_nil] at whole
    omega
  | case4 a b c rest ih =>
    have shorter : 3 ∣ rest.length := by
      simp only [List.length_cons] at whole
      omega
    simp only [List.cons_append, encode, ih shorter]

theorem encode_split (n : ℕ) (bytes : Bytes) :
    encode bytes = encode (bytes.take (3 * n)) ++ encode (bytes.drop (3 * n)) := by
  rcases Nat.le_total bytes.length (3 * n) with short | long
  · rw [List.take_of_length_le short, List.drop_eq_nil_of_le short, encode, List.append_nil]
  · have whole : (bytes.take (3 * n)).length = 3 * n := by
      rw [List.length_take, Nat.min_eq_left long]
    rw [← encode_append _ _ ⟨n, whole⟩, List.take_append_drop]

/-- Cut after whole quanta, each part of the text encodes its own bytes. -/
theorem take_encode (n : ℕ) (bytes : Bytes) :
    (encode bytes).take (4 * n) = encode (bytes.take (3 * n)) := by
  rcases Nat.le_total bytes.length (3 * n) with short | long
  · have covered : (encode bytes).length ≤ 4 * n := by
      rw [length_encode]
      omega
    rw [List.take_of_length_le covered, List.take_of_length_le short]
  · have cut : (encode (bytes.take (3 * n))).length = 4 * n := by
      rw [length_encode, List.length_take, Nat.min_eq_left long]
      omega
    rw [encode_split n bytes, ← cut, List.take_left]

theorem drop_encode (n : ℕ) (bytes : Bytes) :
    (encode bytes).drop (4 * n) = encode (bytes.drop (3 * n)) := by
  rcases Nat.le_total bytes.length (3 * n) with short | long
  · have covered : (encode bytes).length ≤ 4 * n := by
      rw [length_encode]
      omega
    rw [List.drop_eq_nil_of_le covered, List.drop_eq_nil_of_le short, encode]
  · have cut : (encode (bytes.take (3 * n))).length = 4 * n := by
      rw [length_encode, List.length_take, Nat.min_eq_left long]
      omega
    rw [encode_split n bytes, ← cut, List.drop_left]

theorem visible_of_mem_encode {bytes : Bytes} {c : Char} (h : c ∈ encode bytes) :
    0x20 < c.toNat ∧ c.toNat < 0x7F := by
  have pad : 0x20 < '='.toNat ∧ '='.toNat < 0x7F := by decide
  induction bytes using encode.induct with
  | case1 => cases h
  | case2 a =>
    have small := byte_lt a
    simp only [encode, List.mem_cons, List.not_mem_nil, or_false] at h
    rcases h with rfl | rfl | rfl | rfl
    · exact letter_visible (by omega)
    · exact letter_visible (by omega)
    · exact pad
    · exact pad
  | case3 a b =>
    have small := byte_lt a
    have small' := byte_lt b
    simp only [encode, List.mem_cons, List.not_mem_nil, or_false] at h
    rcases h with rfl | rfl | rfl | rfl
    · exact letter_visible (by omega)
    · exact letter_visible (by omega)
    · exact letter_visible (by omega)
    · exact pad
  | case4 a b c rest ih =>
    have small := byte_lt a
    have small' := byte_lt b
    have small'' := byte_lt c
    simp only [encode, List.mem_cons] at h
    rcases h with rfl | rfl | rfl | rfl | later
    · exact letter_visible (by omega)
    · exact letter_visible (by omega)
    · exact letter_visible (by omega)
    · exact letter_visible (by omega)
    · exact ih later

end Base64
