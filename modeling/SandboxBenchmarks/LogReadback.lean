import SandboxBenchmarks.DetachedStep
import SandboxBenchmarks.Library.Base64
import SandboxBenchmarks.Library.TextDecoding

/-!
# The readback of a log over exec

`catLogOrNull` of `packages/harness/src/lib/execute.ts`. A probe measures the log, a
long log is read in slices, and a short one, or one whose probe failed, with a single
`cat`. The vendor keeps only the end of what one command prints. The log may grow while
it is read, and every command may fail.
-/

namespace LogReadback

open CliCreate (trim)
open DetachedStep (Executed)
open TextDecoding

def execLogReadChunkBytes : ℕ := 192 * 1024

/-- What the vendor keeps of the output of one command: its last 512 KiB. -/
def vendorExecStdoutCapBytes : ℕ := 512 * 1024

/-- `Number.parseInt(text, 10)`; `none` is `NaN`. -/
def parseInt (text : String) : Option ℤ :=
  let magnitude (chars : List Char) : Option ℤ :=
    let digits := chars.takeWhile Char.isDigit
    if digits = [] then none else some ((Nat.ofDigitChars 10 digits 0 : ℕ) : ℤ)
  match text.toList.dropWhile CliCreate.isSpace with
  | '-' :: rest => (magnitude rest).map fun size => - size
  | '+' :: rest => magnitude rest
  | chars => magnitude chars

/-- ASCII white space -/
def isBlank (c : Char) : Bool := c.val ∈ ([9, 10, 12, 13, 32] : List UInt32)

/-- `Uint8Array.fromBase64`; `none` is that it throws. -/
def fromBase64 (text : String) : Option Bytes :=
  Base64.decode (text.toList.filter fun c => ! isBlank c)

/-! ### The guest -/

inductive LogCommand
  /-- `wc -c < log 2>/dev/null | tr -d '[:space:]'` -/
  | size
  /-- `cat log 2>/dev/null` -/
  | whole
  /-- `dd if=log iflag=skip_bytes,count_bytes skip=offset count=count bs=65536 2>/dev/null
  | base64 | tr -d '\n'` -/
  | slice (offset count : ℕ)
deriving DecidableEq, Repr

inductive Fault
  | none
  /-- The call rejects, or its timer fires first. -/
  | rejected
  | exited (code : Option ℤ) (failed : code ≠ some 0) (stdout : Option String)
  /-- What reads the log stops after so many bytes. -/
  | stopped (bytes : ℕ)
deriving DecidableEq

/-- The exit code of a command and what it prints. A pipe ends as its last command does. -/
def guest (log : Option Bytes) (stop : Option ℕ) : LogCommand → ℤ × Bytes
  | .size =>
    match log, stop with
    | some bytes, none => (0, ascii (Nat.toDigits 10 bytes.length))
    | _, _ => (0, [])
  | .whole =>
    match log, stop with
    | some bytes, none => (0, bytes)
    | some bytes, some n => (1, bytes.take n)
    | none, _ => (1, [])
  | .slice offset count =>
    let asked := ((log.getD []).drop offset).take count
    let read := match stop with
      | none => asked
      | some n => asked.take n
    (0, ascii (Base64.encode read))

/-- The end of the output that the vendor keeps. -/
def capped (output : Bytes) : Bytes := output.drop (output.length - vendorExecStdoutCapBytes)

def printed (answer : ℤ × Bytes) : Executed :=
  ⟨some answer.1, some (String.ofList (decode (capped answer.2)))⟩

/-- What the harness gets for a command; `none` is that the call rejects or is late. -/
def vendorAnswer (log : Option Bytes) (command : LogCommand) : Fault → Option Executed
  | .none => some (printed (guest log none command))
  | .rejected => none
  | .exited code _ stdout => some ⟨code, stdout⟩
  | .stopped n => some (printed (guest log (some n) command))

/-! ### The harness -/

/-- One call. The log, the faults and the clock are those of the command of that number. -/
structure Readback where
  log : ℕ → Option Bytes
  /-- A log is only written to at its end. -/
  grows : ∀ k bytes, log k = some bytes → ∃ later, log (k + 1) = some later ∧ bytes <+: later
  /-- The length of a file is a safe integer. -/
  addressable : ∀ k bytes, log k = some bytes → bytes.length < 2 ^ 53
  fault : ℕ → Fault
  /-- The deadline has not passed at the start. -/
  started : Bool
  /-- The deadline has not passed where the budget of the command is read. -/
  inTime : ℕ → Bool

namespace Readback

variable (call : Readback)

def executed (k : ℕ) (command : LogCommand) : Option Executed :=
  vendorAnswer (call.log k) command (call.fault k)

def catLogOnce (k : ℕ) : Option String :=
  if call.inTime k then
    match call.executed k .whole with
    | some ⟨some 0, stdout⟩ => some (stdout.getD "")
    | _ => none
  else none

def sizeText : Option String :=
  match call.executed 0 .size with
  | some ⟨some 0, stdout⟩ => some (trim (stdout.getD ""))
  | _ => none

/-- The bytes of one slice; `none` also where they do not decode or are not as many as asked. -/
def readSlice (k offset count : ℕ) : Option Bytes :=
  if call.inTime k then
    match call.executed k (.slice offset count) with
    | some ⟨some 0, some encoded⟩ =>
      (fromBase64 (trim encoded)).bind fun bytes => if bytes.length = count then some bytes else none
    | _ => none
  else none

/-- The slices from `offset` on, the first with the command of number `k`. -/
def readSlices (size k offset : ℕ) : Option (List Bytes) :=
  if offset < size then do
    let bytes ← call.readSlice k offset (min execLogReadChunkBytes (size - offset))
    let parts ← readSlices size (k + 1) (offset + execLogReadChunkBytes)
    pure (bytes :: parts)
  else some []
termination_by size - offset
decreasing_by
  simp only [execLogReadChunkBytes]
  omega

def catLogOrNull : Option String :=
  if call.started && call.inTime 0 then
    match call.sizeText.bind parseInt with
    | none => call.catLogOnce 1
    | some size =>
      if size < 0 then call.catLogOnce 1
      else if size = 0 then some ""
      else if size ≤ execLogReadChunkBytes then call.catLogOnce 1
      else (call.readSlices size.toNat 1 0).map fun parts => String.ofList (decode parts.flatten)
  else none

/-! ### What the call reads -/

/-- The log that the probe measured. -/
def measured : Option Bytes := if call.fault 0 = .none then call.log 0 else none

/-- The call is one `cat`: the probe gave no size, or that of a short log. -/
def single : Bool :=
  match call.measured with
  | none => true
  | some bytes => 0 < bytes.length && bytes.length ≤ execLogReadChunkBytes

/-- The command that fixes what is read: the `cat`, or the probe whose size ends the slices. -/
def readAt : ℕ := if call.single then 1 else 0

/-- A text that the call returns is the whole log as it stood when read. -/
def CompleteOrNull : Prop := ∀ text, call.catLogOrNull = some text →
  ∃ bytes, call.log call.readAt = some bytes ∧ text = String.ofList (decode bytes)

/-- The call is one `cat` that succeeds on this log. -/
structure OneShot (bytes : Bytes) : Prop where
  single : call.single = true
  inTime : (call.started && call.inTime 0 && call.inTime 1) = true
  sound : call.fault 1 = .none
  log : call.log 1 = some bytes

end Readback

/-! ### Outputs below the cap -/

theorem capped_eq_self {output : Bytes} (small : output.length ≤ vendorExecStdoutCapBytes) :
    capped output = output := by
  rw [capped, Nat.sub_eq_zero_of_le small, List.drop_zero]

/-- No visible character is among values that are all at most a space or beyond the tilde. -/
theorem notMem_of_visible {values : List UInt32}
    (outside : values.all (fun v => v.toNat ≤ 0x20 ∨ 0x7F ≤ v.toNat) = true) {c : Char}
    (low : 0x20 < c.toNat) (high : c.toNat < 0x7F) : c.val ∉ values := by
  intro member
  have value : c.val.toNat = c.toNat := rfl
  have := of_decide_eq_true (List.all_eq_true.mp outside c.val member)
  omega

theorem isSpace_visible {c : Char} (low : 0x20 < c.toNat) (high : c.toNat < 0x7F) :
    CliCreate.isSpace c = false := by
  have value : c.val.toNat = c.toNat := rfl
  rw [CliCreate.isSpace, Bool.or_eq_false_iff, Bool.and_eq_false_iff, decide_eq_false_iff_not,
    decide_eq_false_iff_not]
  constructor
  · exact notMem_of_visible (by decide +kernel) low high
  · left
    intro h
    have large : 0x2000 ≤ c.val.toNat := UInt32.le_iff_toNat_le.mp h
    omega

theorem trim_visible {text : List Char}
    (visible : ∀ c ∈ text, 0x20 < c.toNat ∧ c.toNat < 0x7F) :
    trim (String.ofList text) = String.ofList text := by
  have kept : ∀ chars : List Char, (∀ c ∈ chars, CliCreate.isSpace c = false) →
      chars.dropWhile CliCreate.isSpace = chars := by
    intro chars none
    cases chars with
    | nil => rfl
    | cons c rest => rw [List.dropWhile_cons_of_neg (by simp [none c List.mem_cons_self])]
  have plain : ∀ c ∈ text, CliCreate.isSpace c = false :=
    fun c hc => isSpace_visible (visible c hc).1 (visible c hc).2
  rw [trim, String.toList_ofList, kept text plain,
    kept text.reverse (fun c hc => plain c (List.mem_reverse.mp hc)), List.reverse_reverse]

theorem digit_visible {n : ℕ} {c : Char} (h : c ∈ Nat.toDigits 10 n) :
    0x20 < c.toNat ∧ c.toNat < 0x7F := by
  have digit : c.isDigit = true := Nat.isDigit_of_mem_toDigits (by decide) (by decide) h
  have range : 48 ≤ c.toNat ∧ c.toNat ≤ 57 := Char.isDigit_iff_toNat.mp digit
  omega

/-- Visible text below the cap reaches the harness as it was printed. -/
theorem printed_visible {text : List Char}
    (visible : ∀ c ∈ text, 0x20 < c.toNat ∧ c.toNat < 0x7F)
    (small : text.length ≤ vendorExecStdoutCapBytes) (code : ℤ) :
    printed (code, ascii text) = ⟨some code, some (String.ofList text)⟩ := by
  have fits : (ascii text).length ≤ vendorExecStdoutCapBytes := by
    rw [ascii, List.length_map]
    exact small
  have plain : ∀ c ∈ text, c.toNat < 0x80 := by
    intro c hc
    have := (visible c hc).2
    omega
  rw [printed, capped_eq_self fits, decode_ascii_text plain]

/-! ### The probe -/

theorem takeWhile_digits (n : ℕ) :
    (Nat.toDigits 10 n).takeWhile Char.isDigit = Nat.toDigits 10 n :=
  List.takeWhile_eq_self_iff.mpr fun _ hc =>
    Nat.isDigit_of_mem_toDigits (by decide) (by decide) hc

theorem parseInt_digits (n : ℕ) : parseInt (String.ofList (Nat.toDigits 10 n)) = some (n : ℤ) := by
  have spaceless : (Nat.toDigits 10 n).dropWhile CliCreate.isSpace = Nat.toDigits 10 n := by
    apply List.dropWhile_eq_self_iff.mpr
    intro nonempty
    have visible := digit_visible (List.getElem_mem nonempty)
    rw [isSpace_visible visible.1 visible.2]
    exact Bool.false_ne_true
  have signless : ∀ c rest, ¬ c.isDigit → Nat.toDigits 10 n ≠ c :: rest := by
    intro c rest sign same
    have member : c ∈ Nat.toDigits 10 n := by rw [same]; exact List.mem_cons_self
    exact sign (Nat.isDigit_of_mem_toDigits (by decide) (by decide) member)
  rw [parseInt, String.toList_ofList, spaceless]
  split
  · rename_i rest same
    exact absurd same (signless _ rest (by decide))
  · rename_i rest same
    exact absurd same (signless _ rest (by decide))
  · simp only [takeWhile_digits, if_neg Nat.toDigits_ne_nil, Nat.ofDigitChars_ten_toDigits]

theorem parseInt_empty : parseInt (trim (String.ofList (decode (capped [])))) = none := by
  decide

namespace Readback

variable {call : Readback}

/-- The probe yields the length of the log it measured, and no number where it fails. -/
theorem probe_eq (call : Readback) :
    call.sizeText.bind parseInt = call.measured.map fun bytes => (bytes.length : ℤ) := by
  cases fault : call.fault 0 with
  | none =>
    cases log : call.log 0 with
    | none => simp [sizeText, executed, measured, fault, log, vendorAnswer, guest, printed, parseInt_empty]
    | some bytes =>
      have small : (Nat.toDigits 10 bytes.length).length ≤ vendorExecStdoutCapBytes := by
        have short : (Nat.toDigits 10 bytes.length).length ≤ 53 := by
          rw [Nat.length_toDigits_le_iff (by decide) (by decide)]
          have := call.addressable 0 bytes log
          omega
        exact short.trans (by decide)
      have answer : call.executed 0 .size =
          some ⟨some 0, some (String.ofList (Nat.toDigits 10 bytes.length))⟩ := by
        rw [executed, fault, log, vendorAnswer, guest,
          printed_visible (fun c hc => digit_visible hc) small]
      simp only [sizeText, answer, measured, fault, log, if_true, Option.getD_some,
        trim_visible fun c hc => digit_visible hc, Option.bind_some, parseInt_digits, Option.map_some]
  | rejected => simp [sizeText, executed, measured, fault, vendorAnswer]
  | exited code failed stdout =>
    cases code with
    | none => simp [sizeText, executed, measured, fault, vendorAnswer]
    | some code =>
      have nonzero : code ≠ 0 := fun h => failed (congrArg some h)
      simp [sizeText, executed, measured, fault, vendorAnswer, nonzero]
  | stopped n =>
    cases log : call.log 0 with
    | none => simp [sizeText, executed, measured, fault, log, vendorAnswer, guest, printed, parseInt_empty]
    | some bytes =>
      simp [sizeText, executed, measured, fault, log, vendorAnswer, guest, printed, parseInt_empty]

/-! ### The slices -/

theorem isBlank_visible {c : Char} (low : 0x20 < c.toNat) (high : c.toNat < 0x7F) :
    isBlank c = false := by
  rw [isBlank, decide_eq_false_iff_not]
  exact notMem_of_visible (by decide +kernel) low high

theorem fromBase64_encode (read : Bytes) :
    fromBase64 (trim (String.ofList (Base64.encode read))) = some read := by
  have kept : (Base64.encode read).filter (fun c => ! isBlank c) = Base64.encode read := by
    apply List.filter_eq_self.mpr
    intro c hc
    have visible := Base64.visible_of_mem_encode hc
    rw [isBlank_visible visible.1 visible.2]
    rfl
  rw [trim_visible fun c hc => Base64.visible_of_mem_encode hc, fromBase64, String.toList_ofList,
    kept, Base64.decode_encode]

/-- The text of a slice stays below the cap. -/
theorem printed_slice {read : Bytes} (small : read.length ≤ execLogReadChunkBytes) :
    printed (0, ascii (Base64.encode read)) =
      ⟨some 0, some (String.ofList (Base64.encode read))⟩ := by
  apply printed_visible fun c hc => Base64.visible_of_mem_encode hc
  rw [Base64.length_encode]
  simp only [execLogReadChunkBytes] at small
  simp only [vendorExecStdoutCapBytes]
  omega

/-- A slice that is accepted is what the log holds there, whatever became of its command. -/
theorem readSlice_eq {k offset count : ℕ} {bytes : Bytes} (small : count ≤ execLogReadChunkBytes)
    (h : call.readSlice k offset count = some bytes) :
    bytes = (((call.log k).getD []).drop offset).take count := by
  have asked : ((((call.log k).getD []).drop offset).take count).length ≤ count :=
    List.length_take_le _ _
  revert h asked
  generalize holds : (((call.log k).getD []).drop offset).take count = slice
  intro h asked
  unfold readSlice at h
  split at h
  · cases fault : call.fault k with
    | none =>
      have answer : call.executed k (.slice offset count) =
          some ⟨some 0, some (String.ofList (Base64.encode slice))⟩ := by
        simp only [executed, fault, vendorAnswer, guest, holds, printed_slice (asked.trans small)]
      simp only [answer, fromBase64_encode, Option.bind_some] at h
      split at h
      · exact (Option.some.inj h).symm
      · cases h
    | rejected => simp [executed, fault, vendorAnswer] at h
    | exited code failed stdout =>
      simp only [executed, fault, vendorAnswer] at h
      split at h
      · rename_i same
        simp only [Option.some.injEq, Executed.mk.injEq] at same
        exact absurd same.1 failed
      · cases h
    | stopped n =>
      have fits : (slice.take n).length ≤ execLogReadChunkBytes :=
        (List.length_take_le' _ _).trans (asked.trans small)
      have answer : call.executed k (.slice offset count) =
          some ⟨some 0, some (String.ofList (Base64.encode (slice.take n)))⟩ := by
        simp only [executed, fault, vendorAnswer, guest, holds, printed_slice fits]
      simp only [answer, fromBase64_encode, Option.bind_some] at h
      split at h
      · rename_i full
        rw [← Option.some.inj h, List.take_of_length_le]
        rw [List.length_take] at full
        omega
      · cases h
  · cases h

/-- What the log held at one command it still begins with at a later one. -/
theorem prefix_later {j k : ℕ} {bytes : Bytes} (from_ : call.log j = some bytes) (later : j ≤ k) :
    ∃ now, call.log k = some now ∧ bytes <+: now := by
  induction k, later using Nat.le_induction with
  | base => exact ⟨bytes, from_, List.prefix_rfl⟩
  | succ k _ ih =>
    obtain ⟨now, held, begins⟩ := ih
    obtain ⟨next, held', begins'⟩ := call.grows k now held
    exact ⟨next, held', begins.trans begins'⟩

theorem take_drop_of_prefix {measured now : Bytes} (begins : measured <+: now) {offset count : ℕ}
    (within : offset + count ≤ measured.length) :
    (now.drop offset).take count = (measured.drop offset).take count := by
  obtain ⟨more, rfl⟩ := begins
  rw [List.drop_append_of_le_length (by omega), List.take_append_of_le_length]
  rw [List.length_drop]
  omega

/-- Slices up to the measured size are the rest of the log the probe measured. -/
theorem readSlices_eq {measured : Bytes} (held : call.log 0 = some measured) {k offset : ℕ}
    {parts : List Bytes} (h : call.readSlices measured.length k offset = some parts) :
    parts.flatten = measured.drop offset := by
  induction k, offset using readSlices.induct measured.length generalizing parts with
  | case1 k offset inside ih =>
    rw [readSlices, if_pos inside] at h
    simp only [Option.bind_eq_bind, Option.bind_eq_some_iff, Option.pure_def,
      Option.some.injEq] at h
    obtain ⟨bytes, read, rest, reads, rfl⟩ := h
    obtain ⟨now, held', begins⟩ := prefix_later held (Nat.zero_le k)
    have here := readSlice_eq (Nat.min_le_left _ _) read
    rw [held', Option.getD_some, take_drop_of_prefix begins (by omega)] at here
    have split := List.take_append_drop execLogReadChunkBytes (measured.drop offset)
    have cut : (measured.drop offset).take (min execLogReadChunkBytes (measured.length - offset)) =
        (measured.drop offset).take execLogReadChunkBytes := by
      rw [← List.length_drop, ← List.take_eq_take_min]
    rw [List.flatten_cons, ih reads, here, cut, ← List.drop_drop, split]
  | case2 k offset outside =>
    rw [readSlices, if_neg outside] at h
    cases h
    rw [List.drop_eq_nil_of_le (by omega)]
    rfl

/-! ### The single `cat` -/

theorem catLogOnce_eq_some {text : String} : call.catLogOnce 1 = some text ↔
    ∃ bytes, call.inTime 1 = true ∧ call.fault 1 = .none ∧ call.log 1 = some bytes ∧
      text = String.ofList (decode (capped bytes)) := by
  unfold catLogOnce executed
  cases call.inTime 1 with
  | false => simp
  | true =>
    cases fault : call.fault 1 with
    | none =>
      cases call.log 1 with
      | none => simp [vendorAnswer, guest, printed]
      | some bytes => simp [vendorAnswer, guest, printed, eq_comm]
    | rejected => simp [vendorAnswer]
    | exited code failed stdout =>
      cases code with
      | none => simp [vendorAnswer]
      | some code =>
        have nonzero : code ≠ 0 := fun h => failed (congrArg some h)
        simp [vendorAnswer, nonzero]
    | stopped n =>
      cases call.log 1 with
      | none => simp [vendorAnswer, guest, printed]
      | some bytes => simp [vendorAnswer, guest, printed]

/-- Only one `cat` is made where the probe gave no size, or that of a short log. -/
theorem catLogOrNull_single (single : call.single = true) :
    call.catLogOrNull = if call.started && call.inTime 0 then call.catLogOnce 1 else none := by
  rw [catLogOrNull, probe_eq]
  unfold Readback.single at single
  split at single
  · rename_i unmeasured
    rw [unmeasured]
    rfl
  · rename_i bytes measured
    simp only [Bool.and_eq_true, decide_eq_true_eq] at single
    have nonnegative : ¬ (bytes.length : ℤ) < 0 := by omega
    have nonzero : ¬ (bytes.length : ℤ) = 0 := by omega
    have short : (bytes.length : ℤ) ≤ (execLogReadChunkBytes : ℤ) := by omega
    simp only [measured, Option.map_some, if_neg nonnegative, if_neg nonzero, if_pos short]

/-- By slices, or by the size 0, the call returns the whole log the probe measured. -/
theorem complete_of_sliced (sliced : call.single = false) {text : String}
    (h : call.catLogOrNull = some text) :
    ∃ bytes, call.log 0 = some bytes ∧ text = String.ofList (decode bytes) := by
  rw [catLogOrNull, probe_eq] at h
  unfold Readback.single at sliced
  split at sliced
  · cases sliced
  · rename_i bytes measured
    have held : call.log 0 = some bytes := by
      unfold Readback.measured at measured
      split at measured
      · exact measured
      · cases measured
    refine ⟨bytes, held, ?_⟩
    have nonnegative : ¬ (bytes.length : ℤ) < 0 := by omega
    simp only [measured, Option.map_some, if_neg nonnegative] at h
    split at h
    · split at h
      · rename_i empty
        have none : bytes = [] := List.length_eq_zero_iff.mp (by omega)
        rw [← Option.some.inj h, none]
        rfl
      · rename_i nonzero
        have long : ¬ (bytes.length : ℤ) ≤ (execLogReadChunkBytes : ℤ) := by
          simp only [Bool.and_eq_false_iff, decide_eq_false_iff_not] at sliced
          omega
        rw [if_neg long, Int.toNat_natCast, Option.map_eq_some_iff] at h
        obtain ⟨parts, reads, rfl⟩ := h
        rw [readSlices_eq held reads, List.drop_zero]
    · cases h

/-! ### When the log is complete -/

theorem spared_of_complete (complete : call.CompleteOrNull) {bytes : Bytes}
    (shot : call.OneShot bytes) : decode (capped bytes) = decode bytes := by
  have timely := shot.inTime
  simp only [Bool.and_eq_true] at timely
  obtain ⟨⟨started, probed⟩, inTime⟩ := timely
  have returned : call.catLogOrNull = some (String.ofList (decode (capped bytes))) := by
    rw [catLogOrNull_single shot.single, started, probed, if_pos (by rfl)]
    exact catLogOnce_eq_some.mpr ⟨bytes, inTime, shot.sound, shot.log, rfl⟩
  obtain ⟨whole, held, same⟩ := complete _ returned
  rw [readAt, if_pos shot.single, shot.log] at held
  rw [← Option.some.inj held] at same
  exact String.ofList_injective same

theorem complete_of_spared
    (spared : ∀ bytes, call.OneShot bytes → decode (capped bytes) = decode bytes) :
    call.CompleteOrNull := by
  intro text returned
  cases single : call.single with
  | false =>
    rw [readAt, single]
    exact complete_of_sliced single returned
  | true =>
    rw [catLogOrNull_single single] at returned
    split at returned
    · rename_i timely
      obtain ⟨bytes, inTime, sound, held, rfl⟩ := catLogOnce_eq_some.mp returned
      have shot : call.OneShot bytes := ⟨single, by rw [timely, inTime]; rfl, sound, held⟩
      refine ⟨bytes, by rw [readAt, if_pos single, held], ?_⟩
      rw [spared bytes shot]
    · cases returned

/-- The call never returns part of a log exactly when the vendor's cap, wherever it meets the
log of a single `cat`, leaves its text whole. -/
theorem completeOrNull_iff (call : Readback) :
    call.CompleteOrNull ↔ ∀ bytes, call.OneShot bytes → decode (capped bytes) = decode bytes :=
  ⟨fun complete _ shot => spared_of_complete complete shot, complete_of_spared⟩

/-- A log of at most 512 KiB is never cut. -/
theorem completeOrNull_of_short (short : ∀ bytes, call.log 1 = some bytes →
    bytes.length ≤ vendorExecStdoutCapBytes) : call.CompleteOrNull := by
  apply complete_of_spared
  intro bytes shot
  rw [capped_eq_self (short bytes shot.log)]

/-- Of a log of ASCII, the cap leaves the text whole exactly when it is at most 512 KiB long. -/
theorem decode_capped_ascii {bytes : Bytes} (plain : IsAscii bytes) :
    decode (capped bytes) = decode bytes ↔ bytes.length ≤ vendorExecStdoutCapBytes := by
  constructor
  · intro same
    have kept : IsAscii (capped bytes) := fun b hb => plain b (List.mem_of_mem_drop hb)
    have lengths := congrArg List.length same
    rw [length_decode kept, length_decode plain, capped, List.length_drop] at lengths
    simp only [vendorExecStdoutCapBytes] at lengths ⊢
    omega
  · intro short
    rw [capped_eq_self short]

/-! ### A lost probe -/

/-- A completed log of one byte more than the vendor keeps, and a probe that is lost. -/
def lostProbe : Readback where
  log _ := some (List.replicate (vendorExecStdoutCapBytes + 1) 0x41)
  grows _ bytes held := ⟨bytes, held, List.prefix_rfl⟩
  addressable _ bytes held := by
    rw [← Option.some.inj held, List.length_replicate]
    decide
  fault k := if k = 0 then .rejected else .none
  started := true
  inTime _ := true

/-- The end of the log is returned as if it were the log. -/
theorem lostProbe_truncated : ¬ lostProbe.CompleteOrNull := by
  intro complete
  have shot : lostProbe.OneShot (List.replicate (vendorExecStdoutCapBytes + 1) 0x41) :=
    ⟨rfl, rfl, rfl, rfl⟩
  have plain : IsAscii (List.replicate (vendorExecStdoutCapBytes + 1) 0x41) := by
    intro byte member
    rw [List.eq_of_mem_replicate member]
    decide
  have short := (decode_capped_ascii plain).mp (spared_of_complete complete shot)
  rw [List.length_replicate] at short
  omega

end Readback

end LogReadback
