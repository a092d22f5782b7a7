import Mathlib.Data.List.Basic
import Mathlib.Data.Nat.Notation
import Mathlib.Tactic.Common

/-!
# Reading bytes as text

The decoder of UTF-8 that never fails: what no character is encoded by reads as U+FFFD,
and a byte order mark at the start is not part of the text.
-/

namespace TextDecoding

abbrev Bytes := List UInt8

/-- A character begun: its bits so far, the bytes it still needs, the range of the next. -/
structure State where
  codePoint : ℕ
  needed : ℕ
  lower : ℕ
  upper : ℕ
deriving DecidableEq, Repr

def idle : State := ⟨0, 0, 0x80, 0xBF⟩

def replacement : Char := Char.ofNat 0xFFFD

/-- A byte where a character may begin. -/
def first (byte : ℕ) : List Char × State :=
  if byte < 0x80 then ([Char.ofNat byte], idle)
  else if 0xC2 ≤ byte ∧ byte ≤ 0xDF then ([], ⟨byte % 32, 1, 0x80, 0xBF⟩)
  else if 0xE0 ≤ byte ∧ byte ≤ 0xEF then
    ([], ⟨byte % 16, 2, if byte = 0xE0 then 0xA0 else 0x80, if byte = 0xED then 0x9F else 0xBF⟩)
  else if 0xF0 ≤ byte ∧ byte ≤ 0xF4 then
    ([], ⟨byte % 8, 3, if byte = 0xF0 then 0x90 else 0x80, if byte = 0xF4 then 0x8F else 0xBF⟩)
  else ([replacement], idle)

def next (state : State) (byte : ℕ) : List Char × State :=
  if state.needed = 0 then first byte
  else if state.lower ≤ byte ∧ byte ≤ state.upper then
    let codePoint := state.codePoint * 64 + byte % 64
    if state.needed = 1 then ([Char.ofNat codePoint], idle)
    else ([], ⟨codePoint, state.needed - 1, 0x80, 0xBF⟩)
  else
    -- the byte is no part of the character begun, and may begin one itself
    (replacement :: (first byte).1, (first byte).2)

def decodeFrom (state : State) : Bytes → List Char
  | [] => if state.needed = 0 then [] else [replacement]
  | byte :: rest =>
    let (read, after) := next state byte.toNat
    read ++ decodeFrom after rest

def withoutByteOrderMark : Bytes → Bytes
  | 0xEF :: 0xBB :: 0xBF :: rest => rest
  | bytes => bytes

def decode (bytes : Bytes) : List Char := decodeFrom idle (withoutByteOrderMark bytes)

-- a character, its last two bytes alone, and a surrogate
example : decode [0xE2, 0x82, 0xAC] = [Char.ofNat 0x20AC] ∧
    decode [0x82, 0xAC] = [replacement, replacement] ∧
    decode [0xED, 0xA0, 0x80] = [replacement, replacement, replacement] := by decide

/-! ### Text of ASCII -/

def IsAscii (bytes : Bytes) : Prop := ∀ byte ∈ bytes, byte.toNat < 0x80

/-- The bytes of a text of ASCII. -/
def ascii (text : List Char) : Bytes := text.map fun c => UInt8.ofNat c.toNat

theorem next_idle {byte : ℕ} (small : byte < 0x80) : next idle byte = ([Char.ofNat byte], idle) := by
  simp only [next, idle, first, if_pos small]
  rfl

theorem decodeFrom_ascii {bytes : Bytes} (plain : IsAscii bytes) :
    decodeFrom idle bytes = bytes.map fun byte => Char.ofNat byte.toNat := by
  induction bytes with
  | nil => rfl
  | cons byte rest ih =>
    have later : IsAscii rest := fun b hb => plain b (List.mem_cons_of_mem _ hb)
    simp only [decodeFrom, next_idle (plain byte List.mem_cons_self), ih later]
    rfl

theorem decode_ascii {bytes : Bytes} (plain : IsAscii bytes) :
    decode bytes = bytes.map fun byte => Char.ofNat byte.toNat := by
  have whole : withoutByteOrderMark bytes = bytes := by
    unfold withoutByteOrderMark
    split
    · have large := plain 0xEF List.mem_cons_self
      exact absurd large (by decide)
    · rfl
  rw [decode, whole, decodeFrom_ascii plain]

/-- A text of ASCII is as long as its bytes. -/
theorem length_decode {bytes : Bytes} (plain : IsAscii bytes) :
    (decode bytes).length = bytes.length := by
  rw [decode_ascii plain, List.length_map]

theorem ascii_byte {c : Char} (small : c.toNat < 0x80) : (UInt8.ofNat c.toNat).toNat = c.toNat := by
  rw [UInt8.toNat_ofNat']
  omega

theorem isAscii_ascii {text : List Char} (plain : ∀ c ∈ text, c.toNat < 0x80) :
    IsAscii (ascii text) := by
  intro byte member
  obtain ⟨c, hc, rfl⟩ := List.mem_map.mp member
  rw [ascii_byte (plain c hc)]
  exact plain c hc

theorem decode_ascii_text {text : List Char} (plain : ∀ c ∈ text, c.toNat < 0x80) :
    decode (ascii text) = text := by
  rw [decode_ascii (isAscii_ascii plain), ascii, List.map_map]
  have same : ∀ c ∈ text, ((fun byte => Char.ofNat (UInt8.toNat byte)) ∘
      fun c : Char => UInt8.ofNat c.toNat) c = c := by
    intro c hc
    rw [Function.comp_apply, ascii_byte (plain c hc), Char.ofNat_toNat]
  rw [List.map_congr_left same, List.map_id']

end TextDecoding
