import SandboxBenchmarks.Library.JsonParse

/-!
# Indented JSON

The texts of values with two blanks of indentation a level, and that the reader reads
them back as it does the texts without blanks.
-/

namespace JsonText

def newline (depth : ℕ) : List Char := '\n' :: List.replicate (2 * depth) ' '

section
variable (n : NumberText)

mutual
/-- `JSON.stringify(value, null, 2)`, inside so many brackets. -/
def pretty (depth : ℕ) : Value → List Char
  | .arr (item :: items) =>
    '[' :: (newline (depth + 1) ++ (pretty (depth + 1) item ++ prettyMoreItems depth items))
  | .obj (field :: fields) =>
    '{' :: (newline (depth + 1) ++ (prettyField (depth + 1) field ++ prettyMoreFields depth fields))
  | .arr [] => ['[', ']']
  | .obj [] => ['{', '}']
  | .null => ['n', 'u', 'l', 'l']
  | .bool true => ['t', 'r', 'u', 'e']
  | .bool false => ['f', 'a', 'l', 's', 'e']
  | .num q => (n.print q).toList
  | .str s => quote s

/-- The items of an array after its first, and its closing bracket. -/
def prettyMoreItems (depth : ℕ) : List Value → List Char
  | [] => newline depth ++ [']']
  | item :: items =>
    ',' :: (newline (depth + 1) ++ (pretty (depth + 1) item ++ prettyMoreItems depth items))

def prettyField (depth : ℕ) : String × Value → List Char
  | (key, value) => quote key ++ ':' :: ' ' :: pretty depth value

/-- The fields of an object after its first, and its closing brace. -/
def prettyMoreFields (depth : ℕ) : List (String × Value) → List Char
  | [] => newline depth ++ ['}']
  | field :: fields =>
    ',' :: (newline (depth + 1) ++ (prettyField (depth + 1) field ++ prettyMoreFields depth fields))
end

end

variable {n : NumberCodec}

/-! ### Blanks -/

theorem skipBlanks_newline (depth : ℕ) (chars : List Char) :
    skipBlanks (newline depth ++ chars) = skipBlanks chars := by
  have blank : ∀ c ∈ newline depth, isBlank c = true := by
    intro c hc
    rcases List.mem_cons.mp hc with rfl | hc
    · rfl
    · rw [List.eq_of_mem_replicate hc]
      rfl
  exact List.dropWhile_append_of_pos blank

theorem skipBlanks_space (chars : List Char) : skipBlanks (' ' :: chars) = skipBlanks chars := rfl

theorem readValue_newline (depth fuel : ℕ) (chars : List Char) :
    readValue n fuel (newline depth ++ chars) = readValue n fuel chars := by
  cases fuel with
  | zero => rfl
  | succ fuel => rw [readValue, readValue, skipBlanks_newline]

theorem readValue_space (fuel : ℕ) (chars : List Char) :
    readValue n fuel (' ' :: chars) = readValue n fuel chars := by
  cases fuel with
  | zero => rfl
  | succ fuel => rw [readValue, readValue, skipBlanks_space]

theorem readField_newline (depth fuel : ℕ) (chars : List Char) :
    readField n fuel (newline depth ++ chars) = readField n fuel chars := by
  cases fuel with
  | zero => rfl
  | succ fuel => rw [readField, readField, skipBlanks_newline]

/-- The first character of an indented text is neither blank nor a closing bracket. -/
theorem pretty_head (depth : ℕ) (v : Value) : ∃ c tail,
    pretty n.toNumberText depth v = c :: tail ∧ isBlank c = false ∧ c ≠ ']' ∧ c ≠ '}' := by
  cases v with
  | num q =>
    obtain ⟨c, tail, split, solid, brackets⟩ := text_head (n := n) (.num q)
    rw [text] at split
    exact ⟨c, tail, by rw [pretty, split], solid, brackets⟩
  | bool b => cases b <;> exact ⟨_, _, rfl, by decide⟩
  | null => exact ⟨_, _, rfl, by decide⟩
  | str s => exact ⟨_, _, rfl, by decide⟩
  | arr items => cases items <;> exact ⟨_, _, rfl, by decide⟩
  | obj fields => cases fields <;> exact ⟨_, _, rfl, by decide⟩

theorem stops_newline (depth : ℕ) (chars : List Char) : Stops (newline depth ++ chars) := by
  intro c hc
  rw [newline, List.cons_append, List.head?_cons] at hc
  rw [← Option.some.inj hc]
  rfl

theorem stops_prettyMoreItems (depth : ℕ) (items : List Value) (rest : List Char) :
    Stops (prettyMoreItems n.toNumberText depth items ++ rest) := by
  cases items with
  | nil =>
    rw [prettyMoreItems, List.append_assoc]
    exact stops_newline depth _
  | cons item items => exact stops_of_delimited (delimited_cons (Or.inl rfl) _)

theorem stops_prettyMoreFields (depth : ℕ) (fields : List (String × Value)) (rest : List Char) :
    Stops (prettyMoreFields n.toNumberText depth fields ++ rest) := by
  cases fields with
  | nil =>
    rw [prettyMoreFields, List.append_assoc]
    exact stops_newline depth _
  | cons field fields => exact stops_of_delimited (delimited_cons (Or.inl rfl) _)

/-! ### Reading back -/

mutual
theorem readValue_pretty (depth : ℕ) (v : Value) (rest : List Char) (hr : Stops rest) (fuel : ℕ)
    (enough : (pretty n.toNumberText depth v).length ≤ fuel) :
    readValue n fuel (pretty n.toNumberText depth v ++ rest) = some (merged v, rest) := by
  obtain ⟨_, _, nonempty, _⟩ := pretty_head (n := n) depth v
  obtain ⟨fuel, rfl⟩ : ∃ k, fuel = k + 1 := by
    rw [nonempty, List.length_cons] at enough
    exact ⟨fuel - 1, by omega⟩
  match v with
  | .null => rfl
  | .bool true => rfl
  | .bool false => rfl
  | .num q =>
    have read := readValue_number (n := n) q hr fuel
    rw [text] at read
    rw [pretty, read, merged]
  | .str s =>
    have skipped := skipBlanks_cons (c := '"') (by rfl)
      (s.toList.flatMap escapeChar ++ '"' :: rest)
    simp [pretty, quote, readValue, skipped, readString_quoted, merged]
  | .arr [] => rfl
  | .arr (item :: items) =>
    obtain ⟨c, tail, head, solid, bracket, _⟩ := pretty_head (n := n) (depth + 1) item
    have read := readItems_pretty depth item items rest fuel (by
      simp only [pretty, List.length_cons, List.length_append] at enough ⊢
      omega)
    have first : (skipBlanks (newline (depth + 1) ++ (pretty n.toNumberText (depth + 1) item ++
        (prettyMoreItems n.toNumberText depth items ++ rest)))).head? ≠ some ']' := by
      rw [skipBlanks_newline, head, List.cons_append, skipBlanks_cons solid]
      simpa using bracket
    simp only [pretty, List.cons_append, List.append_assoc]
    rw [readValue, skipBlanks_cons (by rfl)]
    simp [first, read, merged]
  | .obj [] => rfl
  | .obj ((key, value) :: fields) =>
    have read := readFields_pretty depth (key, value) fields rest fuel (by
      simp only [pretty, List.length_cons, List.length_append] at enough ⊢
      omega)
    have first : (skipBlanks (newline (depth + 1) ++ (prettyField n.toNumberText (depth + 1)
        (key, value) ++ (prettyMoreFields n.toNumberText depth fields ++ rest)))).head? ≠
        some '}' := by
      rw [skipBlanks_newline, prettyField, quote, List.cons_append, List.cons_append,
        skipBlanks_cons (by rfl)]
      simp
    simp only [pretty, List.cons_append, List.append_assoc]
    rw [readValue, skipBlanks_cons (by rfl)]
    simp [first, read, merged]
termination_by fuel

theorem readItems_pretty (depth : ℕ) (item : Value) (items : List Value) (rest : List Char)
    (fuel : ℕ) (enough : (newline (depth + 1) ++ (pretty n.toNumberText (depth + 1) item ++
      prettyMoreItems n.toNumberText depth items)).length ≤ fuel) :
    readItems n fuel (newline (depth + 1) ++ (pretty n.toNumberText (depth + 1) item ++
      (prettyMoreItems n.toNumberText depth items ++ rest))) =
      some (mergedItems (item :: items), rest) := by
  rw [List.length_append, List.length_append, newline, List.length_cons] at enough
  obtain ⟨fuel, rfl⟩ : ∃ k, fuel = k + 1 := ⟨fuel - 1, by omega⟩
  have head := readValue_pretty (depth + 1) item (prettyMoreItems n.toNumberText depth items ++ rest)
    (stops_prettyMoreItems depth items rest) fuel (by omega)
  rw [readItems, readValue_newline, head]
  match items with
  | [] =>
    have closed := skipBlanks_cons (isBlank_delimiter (c := ']') (Or.inr (Or.inl rfl))) rest
    simp only [prettyMoreItems, List.append_assoc, List.singleton_append, skipBlanks_newline, closed]
    rfl
  | next :: items =>
    have more := readItems_pretty depth next items rest fuel (by
      simp only [prettyMoreItems, List.length_cons, List.length_append, newline] at enough ⊢
      omega)
    have comma := skipBlanks_cons (isBlank_delimiter (c := ',') (Or.inl rfl))
      (newline (depth + 1) ++ (pretty n.toNumberText (depth + 1) next ++
        (prettyMoreItems n.toNumberText depth items ++ rest)))
    simp only [prettyMoreItems, List.cons_append, List.append_assoc]
    simp only [comma, if_true, more, Option.map_some, mergedItems]
termination_by fuel

theorem readField_pretty (depth : ℕ) (field : String × Value) (rest : List Char) (hr : Stops rest)
    (fuel : ℕ) (enough : (prettyField n.toNumberText depth field).length ≤ fuel) :
    readField n fuel (prettyField n.toNumberText depth field ++ rest) =
      some (mergedField field, rest) := by
  match field with
  | (key, value) =>
    rw [prettyField, List.length_append, List.length_cons, List.length_cons, quote,
      List.length_cons] at enough
    obtain ⟨fuel, rfl⟩ : ∃ k, fuel = k + 1 := ⟨fuel - 1, by omega⟩
    have read := readValue_pretty depth value rest hr fuel (by omega)
    have opened := skipBlanks_cons (c := '"') (by rfl) (key.toList.flatMap escapeChar ++
      '"' :: (':' :: ' ' :: (pretty n.toNumberText depth value ++ rest)))
    have colon := skipBlanks_cons (c := ':') (by rfl)
      (' ' :: (pretty n.toNumberText depth value ++ rest))
    simp [prettyField, quote, readField, opened, readString_quoted, colon, readValue_space, read,
      mergedField]
termination_by fuel

theorem readFields_pretty (depth : ℕ) (field : String × Value) (fields : List (String × Value))
    (rest : List Char) (fuel : ℕ)
    (enough : (newline (depth + 1) ++ (prettyField n.toNumberText (depth + 1) field ++
      prettyMoreFields n.toNumberText depth fields)).length ≤ fuel) :
    readFields n fuel (newline (depth + 1) ++ (prettyField n.toNumberText (depth + 1) field ++
      (prettyMoreFields n.toNumberText depth fields ++ rest))) =
      some (mergedFields (field :: fields), rest) := by
  rw [List.length_append, List.length_append, newline, List.length_cons] at enough
  obtain ⟨fuel, rfl⟩ : ∃ k, fuel = k + 1 := ⟨fuel - 1, by omega⟩
  have head := readField_pretty (depth + 1) field (prettyMoreFields n.toNumberText depth fields ++ rest)
    (stops_prettyMoreFields depth fields rest) fuel (by omega)
  rw [readFields, readField_newline, head]
  match fields with
  | [] =>
    have closed := skipBlanks_cons (isBlank_delimiter (c := '}') (Or.inr (Or.inr rfl))) rest
    simp only [prettyMoreFields, List.append_assoc, List.singleton_append, skipBlanks_newline, closed]
    rfl
  | next :: fields =>
    have more := readFields_pretty depth next fields rest fuel (by
      simp only [prettyMoreFields, List.length_cons, List.length_append, newline] at enough ⊢
      omega)
    have comma := skipBlanks_cons (isBlank_delimiter (c := ',') (Or.inl rfl))
      (newline (depth + 1) ++ (prettyField n.toNumberText (depth + 1) next ++
        (prettyMoreFields n.toNumberText depth fields ++ rest)))
    simp only [prettyMoreFields, List.cons_append, List.append_assoc]
    simp only [comma, if_true, more, Option.map_some, mergedFields]
termination_by fuel
end

/-- Reading an indented text gives what reading the text without blanks does. -/
theorem parse_pretty (v : Value) :
    parse n (pretty n.toNumberText 0 v ++ ['\n']) = some (merged v) := by
  have stops : Stops ['\n'] := stops_newline 0 []
  have enough : (pretty n.toNumberText 0 v).length ≤
      (pretty n.toNumberText 0 v ++ ['\n']).length + 1 := by
    rw [List.length_append]
    omega
  have read := readValue_pretty 0 v ['\n'] stops _ enough
  rw [parse, read]
  rfl

end JsonText
