import Mathlib.Data.List.Basic
import Mathlib.Data.List.Infix
import Mathlib.Tactic.Common

/-!
# Texts of UTF-16 code units

A text may hold a surrogate without its partner, as a cut inside a pair leaves it.
The percent encoding refuses such a text, the quotation of JSON writes the unpaired
unit out.
-/

namespace Utf16

abbrev Text := List UInt16

/-- A text of characters below `2^16`. -/
def ascii (s : String) : Text := s.toList.map (fun c => UInt16.ofNat c.toNat)

def high (c : UInt16) : Bool := 0xD800 ≤ c && c < 0xDC00

def low (c : UInt16) : Bool := 0xDC00 ≤ c && c < 0xE000

/-- `text.isWellFormed()` -/
def isWellFormed : Text → Bool
  | [] => true
  | [c] => ! (high c || low c)
  | c :: d :: rest =>
    if high c then low d && isWellFormed rest
    else ! low c && isWellFormed (d :: rest)

/-- The class `\s`: white space and line terminators. -/
def space (c : UInt16) : Bool :=
  (9 ≤ c && c ≤ 13) || c == 0x20 || c == 0xA0 || c == 0x1680
    || (0x2000 ≤ c && c ≤ 0x200A) || c == 0x2028 || c == 0x2029 || c == 0x202F
    || c == 0x205F || c == 0x3000 || c == 0xFEFF

def decimalUnit (c : UInt16) : Bool := 0x30 ≤ c && c ≤ 0x39

def letter (c : UInt16) : Bool := (0x41 ≤ c && c ≤ 0x5A) || (0x61 ≤ c && c ≤ 0x7A)

/-- The class `\w`. -/
def wordUnit (c : UInt16) : Bool := letter c || decimalUnit c || c == 0x5F

/-- The case of ASCII letters ignored. -/
def lowerUnit (c : UInt16) : UInt16 := if 0x41 ≤ c && c ≤ 0x5A then c + 0x20 else c

/-! ## Percent encoding -/

def upperHex (n : Nat) : UInt16 := UInt16.ofNat (if n < 10 then 0x30 + n else 0x41 + n - 10)

def percentByte (n : Nat) : Text := [0x25, upperHex (n / 16), upperHex (n % 16)]

/-- The UTF-8 bytes of a scalar value. -/
def utf8Bytes (n : Nat) : List Nat :=
  if n < 0x80 then [n]
  else if n < 0x800 then [0xC0 + n / 64, 0x80 + n % 64]
  else if n < 0x10000 then [0xE0 + n / 4096, 0x80 + n / 64 % 64, 0x80 + n % 64]
  else [0xF0 + n / 262144, 0x80 + n / 4096 % 64, 0x80 + n / 64 % 64, 0x80 + n % 64]

def percentScalar (n : Nat) : Text := (utf8Bytes n).flatMap percentByte

/-- Letters, digits and `- _ . ! ~ * ' ( )`. -/
def unreserved (c : UInt16) : Bool :=
  letter c || decimalUnit c || c ∈ ascii "-_.!~*'()"

def joined (c d : UInt16) : Nat := 0x10000 + (c.toNat - 0xD800) * 1024 + (d.toNat - 0xDC00)

/-- `encodeURIComponent(text)`; `none` is the `URIError` of an unpaired surrogate. -/
def encodeURIComponent : Text → Option Text
  | [] => some []
  | [c] =>
    if unreserved c then some [c]
    else if high c || low c then none
    else some (percentScalar c.toNat)
  | c :: d :: rest =>
    if unreserved c then (encodeURIComponent (d :: rest)).map (c :: ·)
    else if low c then none
    else if high c then
      if low d then (encodeURIComponent rest).map (percentScalar (joined c d) ++ ·) else none
    else (encodeURIComponent (d :: rest)).map (percentScalar c.toNat ++ ·)

/-! ## The quotation of JSON -/

def lowerHex (n : Nat) : UInt16 := UInt16.ofNat (if n < 10 then 0x30 + n else 0x61 + n - 10)

def unicodeEscape (n : Nat) : Text :=
  ascii "\\u" ++ [lowerHex (n / 4096), lowerHex (n / 256 % 16), lowerHex (n / 16 % 16),
    lowerHex (n % 16)]

/-- One unit that is not half of a pair. -/
def quoteUnit (c : UInt16) : Text :=
  if c = 8 then ascii "\\b"
  else if c = 9 then ascii "\\t"
  else if c = 10 then ascii "\\n"
  else if c = 12 then ascii "\\f"
  else if c = 13 then ascii "\\r"
  else if c = 0x22 then ascii "\\\""
  else if c = 0x5C then ascii "\\\\"
  else if c < 0x20 || high c || low c then unicodeEscape c.toNat
  else [c]

def quoteUnits : Text → Text
  | [] => []
  | [c] => quoteUnit c
  | c :: d :: rest =>
    if high c && low d then c :: d :: quoteUnits rest
    else quoteUnit c ++ quoteUnits (d :: rest)

/-- `JSON.stringify(text)` -/
def stringify (text : Text) : Text := [0x22] ++ quoteUnits text ++ [0x22]

/-! ## What the encodings are made of -/

/-- `%` and the upper-case hexadecimal digits. -/
def PercentUnit (c : UInt16) : Prop := c = 0x25 ∨ ∃ n, n < 16 ∧ c = upperHex n

theorem mem_percentByte {c : UInt16} {n : Nat} (small : n < 256) (h : c ∈ percentByte n) :
    PercentUnit c := by
  simp only [percentByte, List.mem_cons, List.not_mem_nil, or_false] at h
  rcases h with rfl | rfl | rfl
  · exact Or.inl rfl
  · exact Or.inr ⟨n / 16, by omega, rfl⟩
  · exact Or.inr ⟨n % 16, by omega, rfl⟩

theorem utf8Bytes_lt {n byte : Nat} (small : n < 0x110000) (h : byte ∈ utf8Bytes n) :
    byte < 256 := by
  unfold utf8Bytes at h
  split at h
  · simp only [List.mem_singleton] at h
    omega
  · split at h
    · simp only [List.mem_cons, List.not_mem_nil, or_false] at h
      omega
    · split at h
      all_goals
        simp only [List.mem_cons, List.not_mem_nil, or_false] at h
        omega

theorem mem_percentScalar {c : UInt16} {n : Nat} (small : n < 0x110000)
    (h : c ∈ percentScalar n) : PercentUnit c := by
  obtain ⟨byte, hb, hc⟩ := List.mem_flatMap.mp h
  exact mem_percentByte (utf8Bytes_lt small hb) hc

theorem percent_mem_percentScalar (n : Nat) : 0x25 ∈ percentScalar n := by
  unfold percentScalar utf8Bytes
  split_ifs
  all_goals simp [percentByte]

theorem joined_lt {c d : UInt16} (hc : high c = true) (hd : low d = true) :
    joined c d < 0x110000 := by
  simp only [high, low, Bool.and_eq_true, decide_eq_true_eq, UInt16.le_iff_toNat_le,
    UInt16.lt_iff_toNat_lt] at hc hd
  have bounds : (0xDC00 : UInt16).toNat = 0xDC00 ∧ (0xE000 : UInt16).toNat = 0xE000 := by
    decide
  unfold joined
  omega

theorem mem_encodeURIComponent {text : Text} :
    ∀ {encoded : Text}, encodeURIComponent text = some encoded →
      ∀ c ∈ encoded, c ∈ text ∨ PercentUnit c := by
  fun_induction encodeURIComponent text with
  | case1 =>
    intro encoded h c hc
    cases h
    exact absurd hc List.not_mem_nil
  | case2 c free =>
    intro encoded h c hc
    cases h
    exact Or.inl hc
  | case3 c _ _ => exact fun h => absurd h nofun
  | case4 c _ _ =>
    intro encoded h d hd
    cases h
    exact Or.inr (mem_percentScalar (by have := c.toNat_lt; omega) hd)
  | case5 c d rest free ih =>
    intro encoded h e he
    obtain ⟨tail, ht, rfl⟩ := Option.map_eq_some_iff.mp h
    rcases List.mem_cons.mp he with rfl | he
    · exact Or.inl List.mem_cons_self
    · exact (ih ht e he).imp_left (List.mem_cons_of_mem _)
  | case6 => exact fun h => absurd h nofun
  | case7 c d rest _ _ hc hd ih =>
    intro encoded h e he
    obtain ⟨tail, ht, rfl⟩ := Option.map_eq_some_iff.mp h
    rcases List.mem_append.mp he with he | he
    · exact Or.inr (mem_percentScalar (joined_lt hc hd) he)
    · exact (ih ht e he).imp_left
        (fun h => List.mem_cons_of_mem _ (List.mem_cons_of_mem _ h))
  | case8 => exact fun h => absurd h nofun
  | case9 c d rest _ _ _ ih =>
    intro encoded h e he
    obtain ⟨tail, ht, rfl⟩ := Option.map_eq_some_iff.mp h
    rcases List.mem_append.mp he with he | he
    · exact Or.inr (mem_percentScalar (by have := c.toNat_lt; omega) he)
    · exact (ih ht e he).imp_left (List.mem_cons_of_mem _)

/-- An encoding without `%` is the text itself. -/
theorem eq_of_encodeURIComponent {text : Text} :
    ∀ {encoded : Text}, encodeURIComponent text = some encoded → 0x25 ∉ encoded →
      encoded = text := by
  fun_induction encodeURIComponent text with
  | case1 =>
    intro encoded h _
    cases h
    rfl
  | case2 c free =>
    intro encoded h _
    cases h
    rfl
  | case3 c _ _ => exact fun h => absurd h nofun
  | case4 c _ _ =>
    intro encoded h plain
    cases h
    exact absurd (percent_mem_percentScalar _) plain
  | case5 c d rest free ih =>
    intro encoded h plain
    obtain ⟨tail, ht, rfl⟩ := Option.map_eq_some_iff.mp h
    rw [ih ht (fun h => plain (List.mem_cons_of_mem _ h))]
  | case6 => exact fun h => absurd h nofun
  | case7 c d rest _ _ hc hd ih =>
    intro encoded h plain
    obtain ⟨tail, ht, rfl⟩ := Option.map_eq_some_iff.mp h
    exact absurd (List.mem_append_left _ (percent_mem_percentScalar _)) plain
  | case8 => exact fun h => absurd h nofun
  | case9 c d rest _ _ _ ih =>
    intro encoded h plain
    obtain ⟨tail, ht, rfl⟩ := Option.map_eq_some_iff.mp h
    exact absurd (List.mem_append_left _ (percent_mem_percentScalar _)) plain

/-- A property of all units of a text, to be decided by evaluation. -/
theorem forall_of_all {P : UInt16 → Prop} [DecidablePred P] {s : Text}
    (h : s.all (fun c => decide (P c)) = true) : ∀ c ∈ s, P c :=
  fun c hc => of_decide_eq_true (List.all_eq_true.mp h c hc)

theorem unreserved_not_surrogate {c : UInt16} (h : unreserved c = true) :
    high c = false ∧ low c = false := by
  have listed : c ∈ ascii "-_.!~*'()" → c.toNat < 0x80 := by
    intro h
    have every : ∀ d ∈ ascii "-_.!~*'()", d.toNat < 0x80 := forall_of_all (by decide)
    exact every c h
  have small : c.toNat < 0x80 := by
    simp only [unreserved, letter, decimalUnit, Bool.or_eq_true, Bool.and_eq_true,
      decide_eq_true_eq, UInt16.le_iff_toNat_le] at h
    rcases h with ((⟨_, h⟩ | ⟨_, h⟩) | ⟨_, h⟩) | h
    · exact lt_of_le_of_lt h (by decide)
    · exact lt_of_le_of_lt h (by decide)
    · exact lt_of_le_of_lt h (by decide)
    · exact listed h
  have bound : (0xD800 : UInt16).toNat = 0xD800 ∧ (0xDC00 : UInt16).toNat = 0xDC00 := by decide
  constructor
  · simp only [high, Bool.and_eq_false_iff, decide_eq_false_iff_not, UInt16.le_iff_toNat_le]
    omega
  · simp only [low, Bool.and_eq_false_iff, decide_eq_false_iff_not, UInt16.le_iff_toNat_le]
    omega

theorem encodeURIComponent_wellFormed {text : Text} :
    isWellFormed text = true → ∃ encoded, encodeURIComponent text = some encoded := by
  fun_induction encodeURIComponent text with
  | case1 => exact fun _ => ⟨_, rfl⟩
  | case2 c free => exact fun _ => ⟨_, rfl⟩
  | case3 c _ lone =>
    intro fine
    simp only [isWellFormed, lone] at fine
    exact absurd fine (by decide)
  | case4 c _ _ => exact fun _ => ⟨_, rfl⟩
  | case5 c d rest free ih =>
    intro fine
    obtain ⟨notHigh, notLow⟩ := unreserved_not_surrogate free
    simp only [isWellFormed, notHigh, notLow] at fine
    obtain ⟨tail, ht⟩ := ih (by simpa using fine)
    exact ⟨c :: tail, by rw [ht]; rfl⟩
  | case6 c d rest _ lone =>
    intro fine
    have notHigh : high c = false := by
      simp only [low, high, Bool.and_eq_true, Bool.and_eq_false_iff, decide_eq_true_eq,
        decide_eq_false_iff_not, UInt16.le_iff_toNat_le, UInt16.lt_iff_toNat_lt] at lone ⊢
      omega
    simp [isWellFormed, notHigh, lone] at fine
  | case7 c d rest _ _ hc hd ih =>
    intro fine
    simp only [isWellFormed, hc, hd] at fine
    obtain ⟨tail, ht⟩ := ih (by simpa using fine)
    exact ⟨_, by rw [ht]; rfl⟩
  | case8 c d rest _ _ hc hd =>
    intro fine
    simp [isWellFormed, hc, hd] at fine
  | case9 c d rest _ hl hc ih =>
    intro fine
    simp only [isWellFormed, hl, hc] at fine
    obtain ⟨tail, ht⟩ := ih (by simpa using fine)
    exact ⟨_, by rw [ht]; rfl⟩

/-- What the quotation writes besides the units of the text. -/
def QuoteUnit (c : UInt16) : Prop := c ∈ ascii "\\btnfr\"u" ∨ ∃ n, n < 16 ∧ c = lowerHex n

theorem mem_quoteUnit {c d : UInt16} (h : d ∈ quoteUnit c) : d = c ∨ QuoteUnit d := by
  have short : ∀ s ∈ ["\\b", "\\t", "\\n", "\\f", "\\r", "\\\"", "\\\\", "\\u"],
      ∀ e ∈ ascii s, e ∈ ascii "\\btnfr\"u" := by
    have all : ["\\b", "\\t", "\\n", "\\f", "\\r", "\\\"", "\\\\", "\\u"].all (fun s =>
      (ascii s).all (fun e => decide (e ∈ ascii "\\btnfr\"u"))) = true := by decide
    exact fun s hs => forall_of_all (List.all_eq_true.mp all s hs)
  unfold quoteUnit at h
  split_ifs at h
  any_goals exact Or.inr (Or.inl (short _ (by decide) d h))
  · rw [unicodeEscape] at h
    rcases List.mem_append.mp h with h | h
    · exact Or.inr (Or.inl (short "\\u" (by decide) d h))
    · refine Or.inr (Or.inr ?_)
      simp only [List.mem_cons, List.not_mem_nil, or_false] at h
      have := c.toNat_lt
      rcases h with rfl | rfl | rfl | rfl
      · exact ⟨_, by omega, rfl⟩
      · exact ⟨_, by omega, rfl⟩
      · exact ⟨_, by omega, rfl⟩
      · exact ⟨_, by omega, rfl⟩
  · exact Or.inl (List.mem_singleton.mp h)

theorem mem_quoteUnits {text : Text} : ∀ c ∈ quoteUnits text, c ∈ text ∨ QuoteUnit c := by
  fun_induction quoteUnits text with
  | case1 => exact fun c hc => absurd hc List.not_mem_nil
  | case2 c =>
    intro d hd
    exact (mem_quoteUnit hd).imp_left (fun h => by simp [h])
  | case3 c d rest _ ih =>
    intro e he
    simp only [List.mem_cons] at he ⊢
    rcases he with rfl | rfl | he
    · exact Or.inl (Or.inl rfl)
    · exact Or.inl (Or.inr (Or.inl rfl))
    · exact (ih e he).imp_left (fun h => Or.inr (Or.inr h))
  | case4 c d rest _ ih =>
    intro e he
    rcases List.mem_append.mp he with he | he
    · exact (mem_quoteUnit he).imp_left (fun h => by simp [h])
    · exact (ih e he).imp_left (List.mem_cons_of_mem _)

/-- A quoted unit without a backslash is the unit itself. -/
theorem eq_of_quoteUnit {c : UInt16} (plain : 0x5C ∉ quoteUnit c) : quoteUnit c = [c] := by
  have short : ∀ s ∈ ["\\b", "\\t", "\\n", "\\f", "\\r", "\\\"", "\\\\", "\\u"],
      (0x5C : UInt16) ∈ ascii s := by decide
  unfold quoteUnit at plain ⊢
  split_ifs at plain ⊢
  any_goals exact absurd (short _ (by decide)) plain
  · exact absurd (List.mem_append_left _ (short "\\u" (by decide))) plain
  · rfl

theorem eq_of_quoteUnits {text : Text} : 0x5C ∉ quoteUnits text → quoteUnits text = text := by
  fun_induction quoteUnits text with
  | case1 => exact fun _ => rfl
  | case2 c => exact eq_of_quoteUnit
  | case3 c d rest _ ih =>
    intro plain
    rw [ih (fun h => plain (by simp [h]))]
  | case4 c d rest _ ih =>
    intro plain
    rw [ih (fun h => plain (List.mem_append_right _ h)),
      eq_of_quoteUnit (fun h => plain (List.mem_append_left _ h)), List.singleton_append]

end Utf16
