import Mathlib.Data.List.Sort
import Mathlib.Data.List.TakeWhile
import Mathlib.Data.Rat.Defs
import Mathlib.Logic.Function.Basic
import Mathlib.Tactic.Common

/-!
# JSON values and their compact text

`text` prints a value without blanks, object fields in the order given;
`sortKeys` sorts the fields of every object. A text determines its value
(`text_injective`), so equal sorted texts mean equal values up to the order
of fields.
-/

namespace JsonText

inductive Value where
  | null
  | bool (b : Bool)
  | num (q : ℚ)
  | str (s : String)
  | arr (items : List Value)
  | obj (fields : List (String × Value))

/-- The characters a printed number consists of. -/
def isNumberChar (c : Char) : Bool :=
  c.isDigit || c == '-' || c == '+' || c == '.' || c == 'e'

/-- A printer of numbers: distinct numbers print differently, in number characters only. -/
structure NumberText where
  print : ℚ → String
  injective : Function.Injective print
  plain : ∀ q, ∀ c ∈ (print q).toList, isNumberChar c = true
  nonempty : ∀ q, (print q).toList ≠ []

def hexDigit (n : Nat) : Char := if n < 10 then Char.ofNat (48 + n) else Char.ofNat (87 + n)

/-- One character inside a quoted string. -/
def escapeChar (c : Char) : List Char :=
  if c = '"' then ['\\', '"']
  else if c = '\\' then ['\\', '\\']
  else if c = '\x08' then ['\\', 'b']
  else if c = '\x0c' then ['\\', 'f']
  else if c = '\n' then ['\\', 'n']
  else if c = '\r' then ['\\', 'r']
  else if c = '\t' then ['\\', 't']
  else if c.toNat < 32 then
    ['\\', 'u', '0', '0', hexDigit (c.toNat / 16), hexDigit (c.toNat % 16)]
  else [c]

/-- `JSON.stringify` of a string. -/
def quote (s : String) : List Char := '"' :: (s.toList.flatMap escapeChar ++ ['"'])

section
variable (n : NumberText)

mutual
def text : Value → List Char
  | .null => ['n', 'u', 'l', 'l']
  | .bool true => ['t', 'r', 'u', 'e']
  | .bool false => ['f', 'a', 'l', 's', 'e']
  | .num q => (n.print q).toList
  | .str s => quote s
  | .arr items => '[' :: textItems items
  | .obj fields => '{' :: textFields fields

/-- The items of an array and its closing bracket. -/
def textItems : List Value → List Char
  | [] => [']']
  | item :: items => text item ++ textMoreItems items

def textMoreItems : List Value → List Char
  | [] => [']']
  | item :: items => ',' :: (text item ++ textMoreItems items)

def textField : String × Value → List Char
  | (key, value) => quote key ++ ':' :: text value

/-- The fields of an object and its closing brace. -/
def textFields : List (String × Value) → List Char
  | [] => ['}']
  | field :: fields => textField field ++ textMoreFields fields

def textMoreFields : List (String × Value) → List Char
  | [] => ['}']
  | field :: fields => ',' :: (textField field ++ textMoreFields fields)
end

end

section
variable (le : String → String → Bool)

mutual
/-- Every object's fields in key order; equal keys keep their order. -/
def sortKeys : Value → Value
  | .null => .null
  | .bool b => .bool b
  | .num q => .num q
  | .str s => .str s
  | .arr items => .arr (sortKeysItems items)
  | .obj fields => .obj ((sortKeysFields fields).insertionSort (fun a b => le a.1 b.1))

def sortKeysItems : List Value → List Value
  | [] => []
  | item :: items => sortKeys item :: sortKeysItems items

def sortKeysField : String × Value → String × Value
  | (key, value) => (key, sortKeys value)

def sortKeysFields : List (String × Value) → List (String × Value)
  | [] => []
  | field :: fields => sortKeysField field :: sortKeysFields fields
end

theorem sortKeysItems_eq_map (items : List Value) :
    sortKeysItems le items = items.map (sortKeys le) := by
  induction items with
  | nil => rfl
  | cons item items ih => rw [sortKeysItems, ih, List.map_cons]

theorem sortKeysFields_eq_map (fields : List (String × Value)) :
    sortKeysFields le fields = fields.map (fun f => (f.1, sortKeys le f.2)) := by
  induction fields with
  | nil => rfl
  | cons field fields ih =>
    obtain ⟨key, value⟩ := field
    rw [sortKeysFields, ih, List.map_cons, sortKeysField]

/-- Objects with sorted keys agree exactly when their fields agree up to order, for the same key order. -/
theorem perm_of_sortKeys_obj {fields fields' : List (String × Value)}
    (h : sortKeys le (.obj fields) = sortKeys le (.obj fields')) :
    (fields.map (fun f => (f.1, sortKeys le f.2))).Perm
      (fields'.map (fun f => (f.1, sortKeys le f.2))) := by
  simp only [sortKeys, Value.obj.injEq, sortKeysFields_eq_map] at h
  have sorted := List.perm_insertionSort (fun a b => le a.1 b.1 = true)
    (fields'.map (fun f => (f.1, sortKeys le f.2)))
  rw [← h] at sorted
  exact (List.perm_insertionSort _ _).symm.trans sorted

/-- Such objects have the same fields, with the same values up to the order inside them. -/
theorem mem_of_sortKeys_obj {fields fields' : List (String × Value)}
    (h : sortKeys le (.obj fields) = sortKeys le (.obj fields')) {key : String} {value : Value}
    (hv : (key, value) ∈ fields) :
    ∃ value', (key, value') ∈ fields' ∧ sortKeys le value' = sortKeys le value := by
  have member : (key, sortKeys le value) ∈ fields'.map (fun f => (f.1, sortKeys le f.2)) :=
    (perm_of_sortKeys_obj le h).mem_iff.mp (List.mem_map.mpr ⟨(key, value), hv, rfl⟩)
  obtain ⟨⟨key', value'⟩, hv', same⟩ := List.mem_map.mp member
  simp only [Prod.mk.injEq] at same
  obtain ⟨rfl, same⟩ := same
  exact ⟨value', hv', same⟩

end

/-! ### Reading a text back -/

def hexValue (c : Char) : Nat := if c.toNat < 58 then c.toNat - 48 else c.toNat - 87

def unescapeLetter (c : Char) : Char :=
  if c = 'b' then '\x08'
  else if c = 'f' then '\x0c'
  else if c = 'n' then '\n'
  else if c = 'r' then '\r'
  else if c = 't' then '\t'
  else c

/-- The next character of a quoted string, and what follows it. -/
def unescape : List Char → Option (Char × List Char)
  | [] => none
  | c :: rest =>
    if c ≠ '\\' then some (c, rest)
    else match rest with
      | [] => none
      | e :: rest =>
        if e ≠ 'u' then some (unescapeLetter e, rest)
        else match rest with
          | _ :: _ :: a :: b :: rest => some (Char.ofNat (hexValue a * 16 + hexValue b), rest)
          | _ => none

theorem hexValue_hexDigit {k : Nat} (h : k < 16) : hexValue (hexDigit k) = k := by
  revert k
  decide

theorem unescape_escapeChar (c : Char) (rest : List Char) :
    unescape (escapeChar c ++ rest) = some (c, rest) := by
  by_cases special : c = '"' ∨ c = '\\' ∨ c = '\x08' ∨ c = '\x0c' ∨ c = '\n' ∨ c = '\r' ∨ c = '\t'
  · rcases special with rfl | rfl | rfl | rfl | rfl | rfl | rfl
    all_goals rfl
  · simp only [not_or] at special
    obtain ⟨h1, h2, h3, h4, h5, h6, h7⟩ := special
    by_cases control : c.toNat < 32
    · have high := hexValue_hexDigit (k := c.toNat / 16) (by omega)
      have low := hexValue_hexDigit (k := c.toNat % 16) (by omega)
      have back : c.toNat / 16 * 16 + c.toNat % 16 = c.toNat := by omega
      simp [escapeChar, unescape, h1, h2, h3, h4, h5, h6, h7, control, high, low, back,
        Char.ofNat_toNat]
    · simp [escapeChar, unescape, h1, h2, h3, h4, h5, h6, h7, control]

/-- No escape starts with the closing quote. -/
theorem escapeChar_ne_quote (c : Char) (rest rest' : List Char) :
    escapeChar c ++ rest ≠ '"' :: rest' := by
  intro h
  have read := unescape_escapeChar c rest
  rw [h] at read
  have same : c = '"' := by
    simp only [unescape] at read
    simp at read
    exact read.1.symm
  subst same
  simp [escapeChar] at h

theorem quoted_injective (s t rest rest' : List Char)
    (h : s.flatMap escapeChar ++ '"' :: rest = t.flatMap escapeChar ++ '"' :: rest') :
    s = t ∧ rest = rest' := by
  induction s generalizing t with
  | nil =>
    cases t with
    | nil => simpa using h
    | cons d t =>
      rw [List.flatMap_cons, List.append_assoc] at h
      exact absurd h.symm (escapeChar_ne_quote d _ _)
  | cons c s ih =>
    cases t with
    | nil =>
      rw [List.flatMap_cons, List.append_assoc] at h
      exact absurd h (escapeChar_ne_quote c _ _)
    | cons d t =>
      rw [List.flatMap_cons, List.append_assoc, List.flatMap_cons, List.append_assoc] at h
      have read := congrArg unescape h
      rw [unescape_escapeChar, unescape_escapeChar, Option.some.injEq, Prod.mk.injEq] at read
      obtain ⟨rfl, tails⟩ := read
      obtain ⟨rfl, rests⟩ := ih t tails
      exact ⟨rfl, rests⟩

theorem quote_injective {s t : String} {rest rest' : List Char}
    (h : quote s ++ rest = quote t ++ rest') : s = t ∧ rest = rest' := by
  simp only [quote, List.cons_append, List.append_assoc, List.cons.injEq, true_and,
    List.nil_append] at h
  obtain ⟨chars, rest_eq⟩ := quoted_injective _ _ _ _ h
  exact ⟨String.toList_injective chars, rest_eq⟩

/-- What may follow a value inside a text. -/
def Delimited (rest : List Char) : Prop :=
  ∀ c, rest.head? = some c → c = ',' ∨ c = ']' ∨ c = '}'

theorem delimited_nil : Delimited [] := by
  intro c h
  simp at h

theorem delimited_cons {c : Char} (h : c = ',' ∨ c = ']' ∨ c = '}') (rest : List Char) :
    Delimited (c :: rest) := by
  intro d hd
  simp only [List.head?_cons, Option.some.injEq] at hd
  exact hd ▸ h

/-- What ends a number inside a text. -/
def Stops (rest : List Char) : Prop := ∀ c, rest.head? = some c → isNumberChar c = false

theorem stops_of_delimited {rest : List Char} (h : Delimited rest) : Stops rest := by
  intro c hc
  rcases h c hc with rfl | rfl | rfl
  all_goals rfl

theorem takeWhile_number (n : NumberText) (q : ℚ) {rest : List Char} (h : Stops rest) :
    ((n.print q).toList ++ rest).takeWhile isNumberChar = (n.print q).toList := by
  rw [List.takeWhile_append_of_pos (n.plain q)]
  cases rest with
  | nil => simp
  | cons c rest => simp [h c rfl]

/-- The constructor of a value, as its first character shows it. -/
def Value.shape : Value → Nat
  | .null => 0
  | .bool true => 1
  | .bool false => 2
  | .num _ => 3
  | .str _ => 4
  | .arr _ => 5
  | .obj _ => 6

def shapeOf (c : Char) : Nat :=
  if c = 'n' then 0
  else if c = 't' then 1
  else if c = 'f' then 2
  else if c = '"' then 4
  else if c = '[' then 5
  else if c = '{' then 6
  else 3

theorem shapeOf_number {c : Char} (h : isNumberChar c = true) : shapeOf c = 3 := by
  have apart : c ≠ 'n' ∧ c ≠ 't' ∧ c ≠ 'f' ∧ c ≠ '"' ∧ c ≠ '[' ∧ c ≠ '{' := by
    refine ⟨?_, ?_, ?_, ?_, ?_, ?_⟩
    all_goals
      rintro rfl
      exact absurd h (by decide)
  simp [shapeOf, apart]

variable {n : NumberText}

theorem text_shape (v : Value) :
    ∃ c tail, text n v = c :: tail ∧ shapeOf c = v.shape := by
  cases v with
  | null => exact ⟨_, _, rfl, rfl⟩
  | bool b =>
    cases b with
    | false => exact ⟨_, _, rfl, rfl⟩
    | true => exact ⟨_, _, rfl, rfl⟩
  | num q =>
    obtain ⟨c, tail, split⟩ := List.exists_cons_of_ne_nil (n.nonempty q)
    have number : isNumberChar c = true := n.plain q c (by simp [split])
    exact ⟨c, tail, by rw [text, split], shapeOf_number number⟩
  | str s => exact ⟨_, _, rfl, rfl⟩
  | arr items => exact ⟨_, _, rfl, rfl⟩
  | obj fields => exact ⟨_, _, rfl, rfl⟩

theorem shape_eq_of_text {v w : Value} {rest rest' : List Char}
    (h : text n v ++ rest = text n w ++ rest') : v.shape = w.shape := by
  obtain ⟨c, tail, hv, cShape⟩ := text_shape (n := n) v
  obtain ⟨d, tail', hw, dShape⟩ := text_shape (n := n) w
  rw [hv, hw, List.cons_append, List.cons_append, List.cons.injEq] at h
  rw [← cShape, ← dShape, h.1]

/-- A value's text is neither empty nor the end of a sequence. -/
theorem text_ne_delimited (v : Value) {rest rest' : List Char} (h : Delimited rest') :
    text n v ++ rest ≠ rest' := by
  intro same
  obtain ⟨c, tail, hv, cShape⟩ := text_shape (n := n) v
  have delimiter := h c (by rw [← same, hv]; rfl)
  have number : shapeOf c = 3 := by
    rcases delimiter with rfl | rfl | rfl
    all_goals rfl
  have isNum : v.shape = 3 := by rw [← cShape, number]
  cases v with
  | num q =>
    have plain := n.plain q c (by rw [text] at hv; simp [hv])
    rcases delimiter with rfl | rfl | rfl
    all_goals exact absurd plain (by decide)
  | null => simp [Value.shape] at isNum
  | bool b => cases b <;> simp [Value.shape] at isNum
  | str s => simp [Value.shape] at isNum
  | arr items => simp [Value.shape] at isNum
  | obj fields => simp [Value.shape] at isNum

theorem textMoreItems_delimited (items : List Value) (rest : List Char) :
    Delimited (textMoreItems n items ++ rest) := by
  cases items with
  | nil => exact delimited_cons (Or.inr (Or.inl rfl)) _
  | cons item items => exact delimited_cons (Or.inl rfl) _

theorem textMoreFields_delimited (fields : List (String × Value)) (rest : List Char) :
    Delimited (textMoreFields n fields ++ rest) := by
  cases fields with
  | nil => exact delimited_cons (Or.inr (Or.inr rfl)) _
  | cons field fields => exact delimited_cons (Or.inl rfl) _

mutual
theorem text_append_injective (v w : Value) (rest rest' : List Char)
    (hr : Delimited rest) (hr' : Delimited rest')
    (h : text n v ++ rest = text n w ++ rest') : v = w ∧ rest = rest' := by
  have shape := shape_eq_of_text h
  match v, w with
  | .null, .null => simpa [text] using h
  | .bool true, .bool true => simpa [text] using h
  | .bool false, .bool false => simpa [text] using h
  | .num q, .num p =>
    have same : (n.print q).toList = (n.print p).toList := by
      rw [← takeWhile_number n q (stops_of_delimited hr),
        ← takeWhile_number n p (stops_of_delimited hr')]
      exact congrArg _ h
    have rests : rest = rest' := by
      rw [text, text, same] at h
      exact List.append_cancel_left h
    exact ⟨congrArg Value.num (n.injective (String.toList_injective same)), rests⟩
  | .str s, .str t =>
    obtain ⟨rfl, rests⟩ := quote_injective h
    exact ⟨rfl, rests⟩
  | .arr items, .arr items' =>
    rw [text, text, List.cons_append, List.cons_append, List.cons.injEq] at h
    obtain ⟨rfl, rests⟩ := textItems_append_injective items items' rest rest' h.2
    exact ⟨rfl, rests⟩
  | .obj fields, .obj fields' =>
    rw [text, text, List.cons_append, List.cons_append, List.cons.injEq] at h
    obtain ⟨rfl, rests⟩ := textFields_append_injective fields fields' rest rest' h.2
    exact ⟨rfl, rests⟩

theorem textItems_append_injective (items items' : List Value) (rest rest' : List Char)
    (h : textItems n items ++ rest = textItems n items' ++ rest') :
    items = items' ∧ rest = rest' := by
  match items, items' with
  | [], [] => simpa [textItems] using h
  | [], item' :: items' =>
    rw [textItems, textItems, List.append_assoc] at h
    exact absurd h.symm (text_ne_delimited item' (delimited_cons (Or.inr (Or.inl rfl)) _))
  | item :: items, [] =>
    rw [textItems, textItems, List.append_assoc] at h
    exact absurd h (text_ne_delimited item (delimited_cons (Or.inr (Or.inl rfl)) _))
  | item :: items, item' :: items' =>
    rw [textItems, textItems, List.append_assoc, List.append_assoc] at h
    obtain ⟨rfl, more⟩ := text_append_injective item item' _ _
      (textMoreItems_delimited items rest) (textMoreItems_delimited items' rest') h
    obtain ⟨rfl, rests⟩ := textMoreItems_append_injective items items' rest rest' more
    exact ⟨rfl, rests⟩

theorem textMoreItems_append_injective (items items' : List Value) (rest rest' : List Char)
    (h : textMoreItems n items ++ rest = textMoreItems n items' ++ rest') :
    items = items' ∧ rest = rest' := by
  match items, items' with
  | [], [] => simpa [textMoreItems] using h
  | [], item' :: items' => simp [textMoreItems] at h
  | item :: items, [] => simp [textMoreItems] at h
  | item :: items, item' :: items' =>
    rw [textMoreItems, textMoreItems, List.cons_append, List.cons_append, List.cons.injEq,
      List.append_assoc, List.append_assoc] at h
    obtain ⟨rfl, more⟩ := text_append_injective item item' _ _
      (textMoreItems_delimited items rest) (textMoreItems_delimited items' rest') h.2
    obtain ⟨rfl, rests⟩ := textMoreItems_append_injective items items' rest rest' more
    exact ⟨rfl, rests⟩

theorem textField_append_injective (field field' : String × Value) (rest rest' : List Char)
    (hr : Delimited rest) (hr' : Delimited rest')
    (h : textField n field ++ rest = textField n field' ++ rest') :
    field = field' ∧ rest = rest' := by
  match field, field' with
  | (key, value), (key', value') =>
    rw [textField, textField, List.append_assoc, List.append_assoc] at h
    obtain ⟨rfl, values⟩ := quote_injective h
    rw [List.cons_append, List.cons_append, List.cons.injEq] at values
    obtain ⟨rfl, rests⟩ := text_append_injective value value' rest rest' hr hr' values.2
    exact ⟨rfl, rests⟩

theorem textFields_append_injective (fields fields' : List (String × Value))
    (rest rest' : List Char)
    (h : textFields n fields ++ rest = textFields n fields' ++ rest') :
    fields = fields' ∧ rest = rest' := by
  match fields, fields' with
  | [], [] => simpa [textFields] using h
  | [], (key', value') :: fields' => simp [textFields, textField, quote] at h
  | (key, value) :: fields, [] => simp [textFields, textField, quote] at h
  | field :: fields, field' :: fields' =>
    rw [textFields, textFields, List.append_assoc, List.append_assoc] at h
    obtain ⟨rfl, more⟩ := textField_append_injective field field' _ _
      (textMoreFields_delimited fields rest) (textMoreFields_delimited fields' rest') h
    obtain ⟨rfl, rests⟩ := textMoreFields_append_injective fields fields' rest rest' more
    exact ⟨rfl, rests⟩

theorem textMoreFields_append_injective (fields fields' : List (String × Value))
    (rest rest' : List Char)
    (h : textMoreFields n fields ++ rest = textMoreFields n fields' ++ rest') :
    fields = fields' ∧ rest = rest' := by
  match fields, fields' with
  | [], [] => simpa [textMoreFields] using h
  | [], field' :: fields' => simp [textMoreFields] at h
  | field :: fields, [] => simp [textMoreFields] at h
  | field :: fields, field' :: fields' =>
    rw [textMoreFields, textMoreFields, List.cons_append, List.cons_append, List.cons.injEq,
      List.append_assoc, List.append_assoc] at h
    obtain ⟨rfl, more⟩ := textField_append_injective field field' _ _
      (textMoreFields_delimited fields rest) (textMoreFields_delimited fields' rest') h.2
    obtain ⟨rfl, rests⟩ := textMoreFields_append_injective fields fields' rest rest' more
    exact ⟨rfl, rests⟩
end

/-- A text determines its value. -/
theorem text_injective {v w : Value} (h : text n v = text n w) : v = w := by
  have appended : text n v ++ [] = text n w ++ [] := by rw [h]
  exact (text_append_injective v w [] [] delimited_nil delimited_nil appended).1

/-! ### A printer -/

/-- An integer's decimal digits. -/
def intChars : Int → List Char
  | .ofNat k => Nat.toDigits 10 k
  | .negSucc k => '-' :: Nat.toDigits 10 (k + 1)

theorem toDigits_injective {j k : Nat} (h : Nat.toDigits 10 j = Nat.toDigits 10 k) : j = k := by
  have read := congrArg (fun chars => Nat.ofDigitChars 10 chars 0) h
  simpa only [Nat.ofDigitChars_ten_toDigits] using read

theorem isDigit_toDigits {k : Nat} {c : Char} (h : c ∈ Nat.toDigits 10 k) : c.isDigit = true :=
  Nat.isDigit_of_mem_toDigits (by decide) (by decide) h

theorem intChars_plain {z : Int} {c : Char} (h : c ∈ intChars z) :
    c.isDigit = true ∨ c = '-' := by
  cases z with
  | ofNat k => exact Or.inl (isDigit_toDigits h)
  | negSucc k =>
    rcases List.mem_cons.mp h with rfl | h
    · exact Or.inr rfl
    · exact Or.inl (isDigit_toDigits h)

theorem intChars_injective {y z : Int} (h : intChars y = intChars z) : y = z := by
  have noSign : ∀ k l, Nat.toDigits 10 k ≠ '-' :: l := by
    intro k l same
    have digit := isDigit_toDigits (k := k) (c := '-') (by simp [same])
    exact absurd digit (by decide)
  cases y with
  | ofNat j =>
    cases z with
    | ofNat k => rw [toDigits_injective h]
    | negSucc k => exact absurd h (noSign j _)
  | negSucc j =>
    cases z with
    | ofNat k => exact absurd h.symm (noSign k _)
    | negSucc k =>
      have := toDigits_injective (List.cons.inj h).2
      rw [Nat.succ.inj this]

theorem intChars_ne_nil (z : Int) : intChars z ≠ [] := by
  cases z with
  | ofNat k => exact Nat.toDigits_ne_nil
  | negSucc k => simp [intChars]

/-- Decimal for integers, numerator and denominator around `e` for the rest. -/
def ratChars (q : ℚ) : List Char :=
  intChars q.num ++ if q.den = 1 then [] else 'e' :: Nat.toDigits 10 q.den

theorem ratChars_injective {p q : ℚ} (h : ratChars p = ratChars q) : p = q := by
  have head : ∀ q : ℚ, (ratChars q).takeWhile (fun c => c != 'e') = intChars q.num := by
    intro q
    rw [ratChars, List.takeWhile_append_of_pos]
    · split
      · simp
      · simp
    · intro c hc
      rcases intChars_plain hc with digit | rfl
      · rw [bne_iff_ne]
        rintro rfl
        exact absurd digit (by decide)
      · rfl
  have num : p.num = q.num := intChars_injective (by rw [← head p, ← head q, h])
  have den : p.den = q.den := by
    unfold ratChars at h
    rw [num, List.append_cancel_left_eq] at h
    split at h
    · rename_i hp
      split at h
      · rename_i hq
        rw [hp, hq]
      · simp at h
    · split at h
      · simp at h
      · exact toDigits_injective (List.cons.inj h).2
  exact Rat.ext num den

def decimal : NumberText where
  print q := String.ofList (ratChars q)
  injective := fun _ _ h => ratChars_injective (String.ofList_injective h)
  plain := by
    intro q c hc
    rw [String.toList_ofList, ratChars, List.mem_append] at hc
    have plainDigit : ∀ c : Char, c.isDigit = true → isNumberChar c = true := by
      intro c h
      simp [isNumberChar, h]
    rcases hc with hc | hc
    · rcases intChars_plain hc with digit | rfl
      · exact plainDigit c digit
      · rfl
    · split at hc
      · simp at hc
      · rcases List.mem_cons.mp hc with rfl | hc
        · rfl
        · exact plainDigit c (isDigit_toDigits hc)
  nonempty := by
    intro q
    rw [String.toList_ofList, ratChars]
    simp [intChars_ne_nil]

end JsonText
