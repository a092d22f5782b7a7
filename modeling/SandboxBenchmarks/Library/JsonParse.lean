import Mathlib.Data.Rat.Lemmas
import SandboxBenchmarks.Library.JsonText
import SandboxBenchmarks.Library.Keyed

/-!
# Reading JSON

A recursive-descent reader of JSON texts. A repeated key keeps its first place
and its last value, as objects built from a text do. The reader inverts `text`:
what comes back is the printed value with its repeated keys merged.
-/

namespace JsonText

/-- A printer of numbers with the reader of what it prints. -/
structure NumberCodec extends NumberText where
  read : List Char → Option ℚ
  read_print : ∀ q, read (print q).toList = some q

def isBlank (c : Char) : Bool := c == ' ' || c == '\t' || c == '\n' || c == '\r'

def skipBlanks (chars : List Char) : List Char := chars.dropWhile isBlank

/-- The value of one hexadecimal digit, in either case. -/
def readHexDigit (c : Char) : Option Nat :=
  if '0' ≤ c ∧ c ≤ '9' then some (c.toNat - 48)
  else if 'a' ≤ c ∧ c ≤ 'f' then some (c.toNat - 87)
  else if 'A' ≤ c ∧ c ≤ 'F' then some (c.toNat - 55)
  else none

/-- The four digits after `\u`. -/
def readUnit : List Char → Option (Nat × List Char)
  | a :: b :: c :: d :: rest =>
    match readHexDigit a, readHexDigit b, readHexDigit c, readHexDigit d with
    | some a, some b, some c, some d => some (a * 4096 + b * 256 + c * 16 + d, rest)
    | _, _, _, _ => none
  | _ => none

/-- A unit above the basic plane's first half takes the unit after it along. -/
def readScalar (chars : List Char) : Option (Char × List Char) :=
  match readUnit chars with
  | none => none
  | some (high, rest) =>
    if high < 0xD800 ∨ 0xDFFF < high then some (Char.ofNat high, rest)
    else match rest with
      | '\\' :: 'u' :: more =>
        match readUnit more with
        | some (low, rest) =>
          if high < 0xDC00 ∧ 0xDC00 ≤ low ∧ low ≤ 0xDFFF then
            some (Char.ofNat (0x10000 + (high - 0xD800) * 1024 + (low - 0xDC00)), rest)
          else none
        | none => none
      | _ => none

/-- The letters that may follow a backslash, `u` apart. -/
def readEscape (c : Char) : Option Char :=
  if c = '"' ∨ c = '\\' ∨ c = '/' then some c
  else if c = 'b' then some '\x08'
  else if c = 'f' then some '\x0c'
  else if c = 'n' then some '\n'
  else if c = 'r' then some '\r'
  else if c = 't' then some '\t'
  else none

/-- The next character of a string, and what follows it. -/
def readChar : List Char → Option (Char × List Char)
  | [] => none
  | c :: rest =>
    if c ≠ '\\' then
      if c.toNat < 32 then none else some (c, rest)
    else match rest with
      | [] => none
      | e :: rest => if e = 'u' then readScalar rest else (readEscape e).map (·, rest)

/-- The characters of a string up to its closing quote; each takes at least one of the text. -/
def readChars : Nat → List Char → Option (List Char × List Char)
  | 0, _ => none
  | fuel + 1, chars =>
    if chars.head? = some '"' then some ([], chars.tail)
    else match readChar chars with
      | none => none
      | some (c, rest) => (readChars fuel rest).map (fun read => (c :: read.1, read.2))

def readString (chars : List Char) : Option (String × List Char) :=
  (readChars (chars.length + 1) chars).map (fun read => (String.ofList read.1, read.2))

def readWord (word : List Char) (value : Value) (chars : List Char) :
    Option (Value × List Char) :=
  if word.isPrefixOf chars then some (value, chars.drop word.length) else none

section
variable (n : NumberCodec)

def readNumber (chars : List Char) : Option (Value × List Char) :=
  (n.read (chars.takeWhile isNumberChar)).map (Value.num ·, chars.dropWhile isNumberChar)

mutual
/-- A value, and what follows it. The fuel bounds the characters still to read. -/
def readValue : Nat → List Char → Option (Value × List Char)
  | 0, _ => none
  | fuel + 1, chars =>
    match skipBlanks chars with
    | [] => none
    | c :: rest =>
      if c = 'n' then readWord ['u', 'l', 'l'] .null rest
      else if c = 't' then readWord ['r', 'u', 'e'] (.bool true) rest
      else if c = 'f' then readWord ['a', 'l', 's', 'e'] (.bool false) rest
      else if c = '"' then (readString rest).map (fun read => (.str read.1, read.2))
      else if c = '[' then
        if (skipBlanks rest).head? = some ']' then some (.arr [], (skipBlanks rest).tail)
        else (readItems fuel rest).map (fun read => (.arr read.1, read.2))
      else if c = '{' then
        if (skipBlanks rest).head? = some '}' then some (.obj [], (skipBlanks rest).tail)
        else (readFields fuel rest).map (fun read => (.obj (Keyed.mapOf read.1), read.2))
      else readNumber n (c :: rest)

/-- The items of an array up to its closing bracket. -/
def readItems : Nat → List Char → Option (List Value × List Char)
  | 0, _ => none
  | fuel + 1, chars =>
    match readValue fuel chars with
    | none => none
    | some (item, rest) =>
      match skipBlanks rest with
      | [] => none
      | c :: rest =>
        if c = ',' then (readItems fuel rest).map (fun read => (item :: read.1, read.2))
        else if c = ']' then some ([item], rest)
        else none

/-- One field: its key, a colon and its value. -/
def readField : Nat → List Char → Option ((String × Value) × List Char)
  | 0, _ => none
  | fuel + 1, chars =>
    if (skipBlanks chars).head? = some '"' then
      match readString (skipBlanks chars).tail with
      | none => none
      | some (key, rest) =>
        if (skipBlanks rest).head? = some ':' then
          (readValue fuel (skipBlanks rest).tail).map (fun read => ((key, read.1), read.2))
        else none
    else none

/-- The fields of an object up to its closing brace. -/
def readFields : Nat → List Char → Option (List (String × Value) × List Char)
  | 0, _ => none
  | fuel + 1, chars =>
    match readField fuel chars with
    | none => none
    | some (field, rest) =>
      match skipBlanks rest with
      | [] => none
      | c :: rest =>
        if c = ',' then (readFields fuel rest).map (fun read => (field :: read.1, read.2))
        else if c = '}' then some ([field], rest)
        else none
end

/-- `JSON.parse` -/
def parse (chars : List Char) : Option Value :=
  match readValue n (chars.length + 1) chars with
  | some (value, rest) => if skipBlanks rest = [] then some value else none
  | none => none

end

mutual
/-- A value with every repeated key merged, the last value in the first place. -/
def merged : Value → Value
  | .null => .null
  | .bool b => .bool b
  | .num q => .num q
  | .str s => .str s
  | .arr items => .arr (mergedItems items)
  | .obj fields => .obj (Keyed.mapOf (mergedFields fields))

def mergedItems : List Value → List Value
  | [] => []
  | item :: items => merged item :: mergedItems items

def mergedField : String × Value → String × Value
  | (key, value) => (key, merged value)

def mergedFields : List (String × Value) → List (String × Value)
  | [] => []
  | field :: fields => mergedField field :: mergedFields fields
end

theorem mergedItems_eq_map (items : List Value) : mergedItems items = items.map merged := by
  induction items with
  | nil => rfl
  | cons item items ih => rw [mergedItems, ih, List.map_cons]

theorem mergedFields_eq_map (fields : List (String × Value)) :
    mergedFields fields = fields.map (fun f => (f.1, merged f.2)) := by
  induction fields with
  | nil => rfl
  | cons field fields ih =>
    obtain ⟨key, value⟩ := field
    rw [mergedFields, ih, List.map_cons, mergedField]

/-! ### Strings -/

theorem readHexDigit_hexDigit {k : Nat} (h : k < 16) : readHexDigit (hexDigit k) = some k := by
  revert k
  decide

theorem readChar_escapeChar (c : Char) (rest : List Char) :
    readChar (escapeChar c ++ rest) = some (c, rest) := by
  by_cases special : c = '"' ∨ c = '\\' ∨ c = '\x08' ∨ c = '\x0c' ∨ c = '\n' ∨ c = '\r' ∨ c = '\t'
  · rcases special with rfl | rfl | rfl | rfl | rfl | rfl | rfl
    all_goals rfl
  · simp only [not_or] at special
    obtain ⟨h1, h2, h3, h4, h5, h6, h7⟩ := special
    by_cases control : c.toNat < 32
    · have zero : readHexDigit '0' = some 0 := by decide
      have high := readHexDigit_hexDigit (k := c.toNat / 16) (by omega)
      have low := readHexDigit_hexDigit (k := c.toNat % 16) (by omega)
      have back : c.toNat / 16 * 16 + c.toNat % 16 = c.toNat := by omega
      have basic : c.toNat < 0xD800 := by omega
      simp [escapeChar, readChar, readScalar, readUnit, h1, h2, h3, h4, h5, h6, h7, control, zero,
        high, low, back, basic, Char.ofNat_toNat]
    · simp [escapeChar, readChar, h1, h2, h3, h4, h5, h6, h7, control]

theorem escapeChar_length_pos (c : Char) : 0 < (escapeChar c).length := by
  unfold escapeChar
  split_ifs
  all_goals simp

theorem readChars_escaped (chars rest : List Char) {fuel : Nat}
    (enough : (chars.flatMap escapeChar).length < fuel) :
    readChars fuel (chars.flatMap escapeChar ++ '"' :: rest) = some (chars, rest) := by
  induction chars generalizing fuel with
  | nil =>
    obtain ⟨fuel, rfl⟩ := Nat.exists_eq_succ_of_ne_zero (Nat.ne_of_gt enough)
    simp [readChars]
  | cons c chars ih =>
    have taken := escapeChar_length_pos c
    rw [List.flatMap_cons, List.length_append] at enough
    obtain ⟨fuel, rfl⟩ := Nat.exists_eq_succ_of_ne_zero (Nat.ne_of_gt (Nat.zero_lt_of_lt enough))
    have open_ : (escapeChar c ++ (chars.flatMap escapeChar ++ '"' :: rest)).head? ≠ some '"' := by
      intro head
      obtain ⟨tail, closed⟩ := List.head?_eq_some_iff.mp head
      exact escapeChar_ne_quote c _ _ closed
    rw [List.flatMap_cons, List.append_assoc, readChars, if_neg open_, readChar_escapeChar]
    have enough' : (chars.flatMap escapeChar).length < fuel := by omega
    simp [ih enough']

theorem readString_quoted (s : String) (rest : List Char) :
    readString (s.toList.flatMap escapeChar ++ '"' :: rest) = some (s, rest) := by
  have enough : (s.toList.flatMap escapeChar).length <
      (s.toList.flatMap escapeChar ++ '"' :: rest).length + 1 := by
    rw [List.length_append, List.length_cons]
    omega
  rw [readString, readChars_escaped _ _ enough]
  simp

/-! ### Values -/

theorem skipBlanks_cons {c : Char} (h : isBlank c = false) (rest : List Char) :
    skipBlanks (c :: rest) = c :: rest := by
  simp [skipBlanks, h]

theorem isBlank_delimiter {c : Char} (h : c = ',' ∨ c = ']' ∨ c = '}') : isBlank c = false := by
  rcases h with rfl | rfl | rfl
  all_goals rfl

variable {n : NumberCodec}

/-- The first character of a text is neither blank nor a closing bracket. -/
theorem text_head (v : Value) :
    ∃ c tail, text n.toNumberText v = c :: tail ∧ isBlank c = false ∧ c ≠ ']' ∧ c ≠ '}' := by
  cases v with
  | num q =>
    obtain ⟨c, tail, split⟩ := List.exists_cons_of_ne_nil (n.nonempty q)
    have number : isNumberChar c = true := n.plain q c (by simp [split])
    refine ⟨c, tail, by rw [text, split], ?_, ?_, ?_⟩
    · by_contra blank
      simp only [isBlank, Bool.not_eq_false, Bool.or_eq_true, beq_iff_eq] at blank
      rcases blank with ((rfl | rfl) | rfl) | rfl
      all_goals exact absurd number (by decide)
    · rintro rfl
      exact absurd number (by decide)
    · rintro rfl
      exact absurd number (by decide)
  | bool b => cases b <;> exact ⟨_, _, rfl, by decide⟩
  | null => exact ⟨_, _, rfl, by decide⟩
  | str s => exact ⟨_, _, rfl, by decide⟩
  | arr items => exact ⟨_, _, rfl, by decide⟩
  | obj fields => exact ⟨_, _, rfl, by decide⟩

theorem dropWhile_number (q : ℚ) {rest : List Char} (h : Stops rest) :
    ((n.print q).toList ++ rest).dropWhile isNumberChar = rest := by
  have split := List.takeWhile_append_dropWhile (p := isNumberChar) (l := (n.print q).toList ++ rest)
  rw [takeWhile_number n.toNumberText q h] at split
  exact List.append_cancel_left split

theorem readValue_number (q : ℚ) {rest : List Char} (h : Stops rest) (fuel : Nat) :
    readValue n (fuel + 1) (text n.toNumberText (.num q) ++ rest) = some (.num q, rest) := by
  obtain ⟨c, tail, split⟩ := List.exists_cons_of_ne_nil (n.nonempty q)
  have number : isNumberChar c = true := n.plain q c (by simp [split])
  have kind := shapeOf_number number
  have apart : c ≠ 'n' ∧ c ≠ 't' ∧ c ≠ 'f' ∧ c ≠ '"' ∧ c ≠ '[' ∧ c ≠ '{' := by
    refine ⟨?_, ?_, ?_, ?_, ?_, ?_⟩
    all_goals
      rintro rfl
      exact absurd kind (by decide)
  obtain ⟨h1, h2, h3, h4, h5, h6⟩ := apart
  obtain ⟨d, rest', head, solid, _⟩ := text_head (n := n) (.num q)
  rw [text, split, List.cons.injEq] at head
  obtain ⟨rfl, rfl⟩ := head
  have read : readNumber n (c :: (tail ++ rest)) = some (.num q, rest) := by
    rw [← List.cons_append, ← split, readNumber, takeWhile_number n.toNumberText q h,
      dropWhile_number q h, n.read_print]
    rfl
  rw [text, split, List.cons_append, readValue, skipBlanks_cons solid]
  simp [h1, h2, h3, h4, h5, h6, read]

mutual
theorem readValue_text (v : Value) (rest : List Char) (hr : Delimited rest) (fuel : Nat)
    (enough : (text n.toNumberText v).length ≤ fuel) :
    readValue n fuel (text n.toNumberText v ++ rest) = some (merged v, rest) := by
  obtain ⟨_, _, nonempty, _⟩ := text_head (n := n) v
  obtain ⟨fuel, rfl⟩ : ∃ k, fuel = k + 1 := by
    rw [nonempty, List.length_cons] at enough
    exact ⟨fuel - 1, by omega⟩
  match v with
  | .null => rfl
  | .bool true => rfl
  | .bool false => rfl
  | .num q => exact readValue_number q (stops_of_delimited hr) fuel
  | .str s =>
    have skipped := skipBlanks_cons (c := '"') (by rfl)
      (s.toList.flatMap escapeChar ++ '"' :: rest)
    simp [text, quote, readValue, skipped, readString_quoted, merged]
  | .arr [] => rfl
  | .arr (item :: items) =>
    obtain ⟨c, tail, head, solid, bracket, _⟩ := text_head (n := n) item
    have skipped := skipBlanks_cons (c := '[') (by rfl)
      (textItems n.toNumberText (item :: items) ++ rest)
    have first : (skipBlanks (textItems n.toNumberText (item :: items) ++ rest)).head? ≠
        some ']' := by
      rw [textItems, head, List.cons_append, List.cons_append, skipBlanks_cons solid]
      simpa using bracket
    have read := readItems_text item items rest fuel (by simpa [text] using enough)
    rw [text, List.cons_append, readValue, skipped]
    simp [first, read, merged]
  | .obj [] => rfl
  | .obj ((key, value) :: fields) =>
    have skipped := skipBlanks_cons (c := '{') (by rfl)
      (textFields n.toNumberText ((key, value) :: fields) ++ rest)
    have first : (skipBlanks (textFields n.toNumberText ((key, value) :: fields) ++ rest)).head? ≠
        some '}' := by
      rw [textFields, textField, quote, List.cons_append, List.cons_append, List.cons_append,
        skipBlanks_cons (by rfl)]
      simp
    have read := readFields_text (key, value) fields rest fuel (by simpa [text] using enough)
    rw [text, List.cons_append, readValue, skipped]
    simp [first, read, merged]
termination_by fuel

theorem readItems_text (item : Value) (items : List Value) (rest : List Char) (fuel : Nat)
    (enough : (textItems n.toNumberText (item :: items)).length ≤ fuel) :
    readItems n fuel (textItems n.toNumberText (item :: items) ++ rest) =
      some (mergedItems (item :: items), rest) := by
  rw [textItems, List.length_append] at enough
  have closed : 0 < (textMoreItems n.toNumberText items).length := by
    cases items <;> simp [textMoreItems]
  obtain ⟨fuel, rfl⟩ : ∃ k, fuel = k + 1 := ⟨fuel - 1, by omega⟩
  have head := readValue_text item (textMoreItems n.toNumberText items ++ rest)
    (textMoreItems_delimited items rest) fuel (by omega)
  rw [textItems, List.append_assoc, readItems, head]
  match items with
  | [] => simp [textMoreItems, skipBlanks_cons (isBlank_delimiter (Or.inr (Or.inl rfl))), mergedItems]
  | next :: items =>
    have more := readItems_text next items rest fuel (by
      simp only [textMoreItems, textItems, List.length_cons, List.length_append] at enough ⊢
      omega)
    simp only [textItems] at more
    rw [List.append_assoc] at more
    simp [textMoreItems, skipBlanks_cons (isBlank_delimiter (Or.inl rfl)), more, mergedItems]
termination_by fuel

theorem readField_text (field : String × Value) (rest : List Char) (hr : Delimited rest)
    (fuel : Nat) (enough : (textField n.toNumberText field).length ≤ fuel) :
    readField n fuel (textField n.toNumberText field ++ rest) = some (mergedField field, rest) := by
  match field with
  | (key, value) =>
    rw [textField, List.length_append, List.length_cons, quote, List.length_cons] at enough
    obtain ⟨fuel, rfl⟩ : ∃ k, fuel = k + 1 := ⟨fuel - 1, by omega⟩
    have read := readValue_text value rest hr fuel (by omega)
    have opened := skipBlanks_cons (c := '"') (by rfl)
      (key.toList.flatMap escapeChar ++ '"' :: (':' :: (text n.toNumberText value ++ rest)))
    have colon := skipBlanks_cons (c := ':') (by rfl) (text n.toNumberText value ++ rest)
    simp [textField, quote, readField, opened, readString_quoted, colon, read, mergedField]
termination_by fuel

theorem readFields_text (field : String × Value) (fields : List (String × Value))
    (rest : List Char) (fuel : Nat)
    (enough : (textFields n.toNumberText (field :: fields)).length ≤ fuel) :
    readFields n fuel (textFields n.toNumberText (field :: fields) ++ rest) =
      some (mergedFields (field :: fields), rest) := by
  rw [textFields, List.length_append] at enough
  have closed : 0 < (textMoreFields n.toNumberText fields).length := by
    cases fields <;> simp [textMoreFields]
  obtain ⟨fuel, rfl⟩ : ∃ k, fuel = k + 1 := ⟨fuel - 1, by omega⟩
  have head := readField_text field (textMoreFields n.toNumberText fields ++ rest)
    (textMoreFields_delimited fields rest) fuel (by omega)
  rw [textFields, List.append_assoc, readFields, head]
  match fields with
  | [] =>
    simp [textMoreFields, skipBlanks_cons (isBlank_delimiter (Or.inr (Or.inr rfl))), mergedFields]
  | next :: fields =>
    have more := readFields_text next fields rest fuel (by
      simp only [textMoreFields, textFields, List.length_cons, List.length_append] at enough ⊢
      omega)
    simp only [textFields] at more
    rw [List.append_assoc] at more
    simp [textMoreFields, skipBlanks_cons (isBlank_delimiter (Or.inl rfl)), more, mergedFields]
termination_by fuel
end

/-- Reading a printed value gives the value with its repeated keys merged. -/
theorem parse_text (v : Value) : parse n (text n.toNumberText v) = some (merged v) := by
  have read := readValue_text v [] delimited_nil ((text n.toNumberText v).length + 1)
    (Nat.le_succ _)
  rw [List.append_nil] at read
  simp [parse, read, skipBlanks]

/-! ### A reader for the decimal printer -/

def readInt : List Char → Int
  | '-' :: digits => -(Nat.ofDigitChars 10 digits 0)
  | digits => Nat.ofDigitChars 10 digits 0

theorem readInt_intChars (z : Int) : readInt (intChars z) = z := by
  cases z with
  | ofNat k =>
    have unsigned : ∀ l : List Char, l.head? ≠ some '-' → readInt l = Nat.ofDigitChars 10 l 0 := by
      intro l h
      rw [readInt.eq_def]
      split
      · simp at h
      · rfl
    have digits : (Nat.toDigits 10 k).head? ≠ some '-' := by
      intro head
      have digit := isDigit_toDigits (List.mem_of_mem_head? head)
      exact absurd digit (by decide)
    rw [intChars, unsigned _ digits, Nat.ofDigitChars_ten_toDigits]
    rfl
  | negSucc k =>
    rw [intChars, readInt, Nat.ofDigitChars_ten_toDigits]
    rfl

def readRat (chars : List Char) : Option ℚ :=
  match chars.dropWhile (fun c => c != 'e') with
  | [] => if chars = [] then none else some (readInt chars)
  | _ :: den => some (readInt (chars.takeWhile (fun c => c != 'e')) / Nat.ofDigitChars 10 den 0)

theorem readRat_ratChars (q : ℚ) : readRat (ratChars q) = some q := by
  have plain : ∀ c ∈ intChars q.num, (c != 'e') = true := by
    intro c hc
    rcases intChars_plain hc with digit | rfl
    · rw [bne_iff_ne]
      rintro rfl
      exact absurd digit (by decide)
    · rfl
  have nonempty : ratChars q ≠ [] := by simp [ratChars, intChars_ne_nil]
  unfold readRat
  rw [if_neg nonempty, ratChars]
  by_cases whole : q.den = 1
  · rw [if_pos whole, List.append_nil, List.dropWhile_eq_nil_iff.mpr plain]
    simp only [readInt_intChars]
    rw [Rat.coe_int_num_of_den_eq_one whole]
  · rw [if_neg whole, List.dropWhile_append_of_pos plain, List.takeWhile_append_of_pos plain]
    simp [readInt_intChars, Nat.ofDigitChars_ten_toDigits, Rat.num_div_den]

def decimalCodec : NumberCodec where
  toNumberText := decimal
  read := readRat
  read_print q := by
    rw [decimal, String.toList_ofList]
    exact readRat_ratChars q

end JsonText
