import Mathlib.Data.List.Basic
import Mathlib.Tactic.Common

/-!
# Line prefixes of a shared log

`prefixChunk` of `apps/cli/src/lib/log-prefix.ts`, and the writes of several
cells through one stream state. Texts are lists of characters.
-/

namespace LogPrefix

abbrev Text := List Char

structure StreamState where
  atLineStart : Bool
deriving DecidableEq, Repr

/-- `line.startsWith("::")` -/
def isWorkflowCommand (line : Text) : Bool := [':', ':'].isPrefixOf line

def renderLine (tag : Text) (atLineStart : Bool) (line : Text) : Text :=
  if isWorkflowCommand line then (if atLineStart then line else '\n' :: line)
  else if atLineStart then tag ++ line else line

def endsWithNewline (chunk : Text) : Bool := chunk.getLast? == some '\n'

def bodyOf (chunk : Text) : Text := if endsWithNewline chunk then chunk.dropLast else chunk

def lineEnd (closed : Bool) : Text := if closed then ['\n'] else []

/-- Prefix each line start in `chunk` with `tag`, advancing `state`. -/
def prefixChunk (chunk tag : Text) (state : StreamState) : Text × StreamState :=
  if chunk = [] then (chunk, state)
  else
    -- only the first line of a chunk can be a continuation
    let rendered := ((bodyOf chunk).splitOn '\n').mapIdx fun i line =>
      renderLine tag (if i = 0 then state.atLineStart else true) line
    (['\n'].intercalate rendered ++ lineEnd (endsWithNewline chunk), ⟨endsWithNewline chunk⟩)

structure Write where
  chunk : Text
  tag : Text
deriving DecidableEq, Repr

/-- The text that several writes leave on one stream, and the state after them. -/
def writeAll (state : StreamState) : List Write → Text × StreamState
  | [] => ([], state)
  | w :: rest =>
    let (rendered, next) := prefixChunk w.chunk w.tag state
    let (later, final) := writeAll next rest
    (rendered ++ later, final)

/-! ### The lines of the chunks -/

/-- One line of a chunk: who writes it, and whether the chunk ends it. -/
structure Piece where
  tag : Text
  line : Text
  closed : Bool
deriving DecidableEq, Repr

def Piece.source (p : Piece) : Text := p.line ++ lineEnd p.closed

/-- Every line but the last is ended by the one after it. -/
def close (tag : Text) (closed : Bool) : List Text → List Piece
  | [] => []
  | [line] => [⟨tag, line, closed⟩]
  | line :: next :: rest => ⟨tag, line, true⟩ :: close tag closed (next :: rest)

def piecesOf (w : Write) : List Piece :=
  if w.chunk = [] then []
  else close w.tag (endsWithNewline w.chunk) ((bodyOf w.chunk).splitOn '\n')

/-- A line in the output, behind what was inserted before it. -/
structure Placed where
  piece : Piece
  inserted : Text
deriving DecidableEq, Repr

def Placed.text (p : Placed) : Text := p.inserted ++ p.piece.source

def AtLineStart (output : Text) : Prop := output = [] ∨ output.getLast? = some '\n'

/-- What belongs between an output and the next line: a line break before a command within a line,
the writer's tag before any other line at a line start, and nothing else. -/
structure Fits (output : Text) (p : Placed) : Prop where
  command : isWorkflowCommand p.piece.line = true →
    AtLineStart (output ++ p.inserted) ∧
      (p.inserted = [] ∨ p.inserted = ['\n'] ∧ ¬ AtLineStart output)
  started : isWorkflowCommand p.piece.line = false → AtLineStart output →
    p.inserted = p.piece.tag
  continued : isWorkflowCommand p.piece.line = false → ¬ AtLineStart output → p.inserted = []

/-- Each line stands where the output before it allows. -/
def WellPlaced (output : Text) : List Placed → Prop
  | [] => True
  | p :: rest => Fits output p ∧ WellPlaced (output ++ p.text) rest

lemma intercalate_cons_cons (line next : Text) (rest : List Text) :
    ['\n'].intercalate (line :: next :: rest) =
      line ++ '\n' :: ['\n'].intercalate (next :: rest) := by
  simp [List.intercalate, List.intersperse]

lemma source_close (tag : Text) (closed : Bool) (lines : List Text) (some : lines ≠ []) :
    (close tag closed lines).flatMap Piece.source = ['\n'].intercalate lines ++ lineEnd closed := by
  fun_induction close tag closed lines with
  | case1 => exact absurd rfl some
  | case2 line => simp [Piece.source, List.intercalate]
  | case3 line next rest ih =>
    rw [List.flatMap_cons, ih (by simp), intercalate_cons_cons]
    simp [Piece.source, lineEnd]

lemma body_lineEnd (chunk : Text) : bodyOf chunk ++ lineEnd (endsWithNewline chunk) = chunk := by
  by_cases h : endsWithNewline chunk = true
  · have last : chunk.getLast? = some '\n' := by simpa [endsWithNewline] using h
    have rebuilt := List.dropLast_append_getLast? '\n' last
    simpa [bodyOf, lineEnd, h] using rebuilt
  · simp [bodyOf, lineEnd, h]

/-- The pieces of a chunk are the chunk. -/
theorem source_piecesOf (w : Write) : (piecesOf w).flatMap Piece.source = w.chunk := by
  by_cases empty : w.chunk = []
  · simp [piecesOf, empty]
  · rw [piecesOf, if_neg empty, source_close _ _ _ (List.splitOn_ne_nil _ _),
      List.intercalate_splitOn, body_lineEnd]

lemma newline_not_mem_splitOn (text : Text) : ∀ line ∈ text.splitOn '\n', '\n' ∉ line := by
  induction text with
  | nil => simp
  | cons c text ih =>
    rw [List.splitOn_cons_eq_if_modifyHead]
    by_cases here : c = '\n'
    · simpa [here] using ih
    · rcases found : text.splitOn '\n' with _ | ⟨first, later⟩
      · exact absurd found (List.splitOn_ne_nil _ _)
      · rw [found] at ih
        have other : ¬ '\n' = c := fun same => here same.symm
        simpa [here, other] using ih

lemma line_of_mem_close {tag : Text} {closed : Bool} {lines : List Text} {p : Piece}
    (h : p ∈ close tag closed lines) : p.line ∈ lines ∧ p.tag = tag := by
  fun_induction close tag closed lines with
  | case1 => cases h
  | case2 line => simp_all
  | case3 line next rest ih =>
    rcases List.mem_cons.mp h with rfl | later
    · simp
    · exact ⟨List.mem_cons_of_mem _ (ih later).1, (ih later).2⟩

/-- A piece is one line. -/
theorem newline_not_mem_line {w : Write} {p : Piece} (h : p ∈ piecesOf w) : '\n' ∉ p.line := by
  unfold piecesOf at h
  split at h
  · cases h
  · exact newline_not_mem_splitOn _ _ (line_of_mem_close h).1

/-! ### One chunk -/

def insertion (atLineStart : Bool) (p : Piece) : Text :=
  if isWorkflowCommand p.line then lineEnd (! atLineStart)
  else if atLineStart then p.tag else []

/-- The pieces of one chunk; after the first, each one follows a line end. -/
def place (atLineStart : Bool) : List Piece → List Placed
  | [] => []
  | p :: rest => ⟨p, insertion atLineStart p⟩ :: place true rest

lemma renderLine_eq (tag line : Text) (atLineStart closed : Bool) :
    renderLine tag atLineStart line = insertion atLineStart ⟨tag, line, closed⟩ ++ line := by
  unfold renderLine insertion
  cases atLineStart with
  | true => by_cases h : isWorkflowCommand line <;> simp [h, lineEnd]
  | false => by_cases h : isWorkflowCommand line <;> simp [h, lineEnd]

lemma map_piece_place (atLineStart : Bool) (pieces : List Piece) :
    (place atLineStart pieces).map Placed.piece = pieces := by
  induction pieces generalizing atLineStart with
  | nil => rfl
  | cons p rest ih => rw [place, List.map_cons, ih]

lemma text_place (tag : Text) (closed : Bool) (lines : List Text) (some : lines ≠ [])
    (atLineStart : Bool) :
    (place atLineStart (close tag closed lines)).flatMap Placed.text =
      ['\n'].intercalate (lines.mapIdx fun i line =>
        renderLine tag (if i = 0 then atLineStart else true) line) ++ lineEnd closed := by
  fun_induction close tag closed lines generalizing atLineStart with
  | case1 => exact absurd rfl some
  | case2 line =>
    simp [place, Placed.text, Piece.source, List.intercalate, renderLine_eq tag line _ closed]
  | case3 line next rest ih =>
    have later := ih (by simp) true
    simp only [List.mapIdx_cons, if_true, Nat.add_eq_zero_iff, Nat.one_ne_zero, and_false,
      if_false, ite_self] at later ⊢
    rw [place, List.flatMap_cons, later, intercalate_cons_cons, renderLine_eq tag line _ true]
    simp [Placed.text, Piece.source, lineEnd]

/-- What a chunk becomes is its lines in their places. -/
theorem prefixChunk_text (w : Write) (state : StreamState) :
    (prefixChunk w.chunk w.tag state).1 =
      (place state.atLineStart (piecesOf w)).flatMap Placed.text := by
  by_cases empty : w.chunk = []
  · simp [prefixChunk, piecesOf, empty, place]
  · rw [piecesOf, if_neg empty, text_place _ _ _ (List.splitOn_ne_nil _ _), prefixChunk,
      if_neg empty]

lemma fits_insertion {output : Text} {atLineStart : Bool} (p : Piece)
    (start : atLineStart = true ↔ AtLineStart output) :
    Fits output ⟨p, insertion atLineStart p⟩ := by
  constructor
  · intro command
    cases atLineStart with
    | true => simp [insertion, command, lineEnd, start.mp rfl]
    | false =>
      have inside : ¬ AtLineStart output := by simpa using start
      refine ⟨Or.inr (by simp [insertion, command, lineEnd]), Or.inr ⟨?_, inside⟩⟩
      simp [insertion, command, lineEnd]
  · intro plain started
    simp [insertion, plain, start.mpr started]
  · intro plain inside
    have : atLineStart = false := by
      by_contra h
      exact inside (start.mp (by simpa using h))
    simp [insertion, plain, this]

lemma atLineStart_newline (output : Text) : AtLineStart (output ++ ['\n']) := by
  right
  simp

lemma wellPlaced_place {output : Text} (tag : Text) (closed : Bool) (lines : List Text)
    {atLineStart : Bool} (start : atLineStart = true ↔ AtLineStart output) :
    WellPlaced output (place atLineStart (close tag closed lines)) := by
  fun_induction close tag closed lines generalizing output atLineStart with
  | case1 => trivial
  | case2 line => exact ⟨fits_insertion _ start, trivial⟩
  | case3 line next rest ih =>
    refine ⟨fits_insertion _ start, ih ?_⟩
    simpa [Placed.text, Piece.source, lineEnd] using atLineStart_newline (output ++ (_ ++ line))

/-- A chunk that ends within a line leaves its own last character last. -/
lemma getLast?_place {tag : Text} {lines : List Text} {atLineStart : Bool} {c : Char}
    (inside : c ≠ '\n')
    (h : ((close tag false lines).flatMap Piece.source).getLast? = some c) :
    ((place atLineStart (close tag false lines)).flatMap Placed.text).getLast? = some c := by
  fun_induction close tag false lines generalizing atLineStart with
  | case1 => simp at h
  | case2 line =>
    simp only [List.flatMap_cons, List.flatMap_nil, List.append_nil, Piece.source, lineEnd,
      Bool.false_eq_true, if_false] at h
    simp [place, Placed.text, Piece.source, lineEnd, h]
  | case3 line next rest ih =>
    rw [List.flatMap_cons, List.getLast?_append] at h
    rw [place, List.flatMap_cons, List.getLast?_append]
    cases later : ((close tag false (next :: rest)).flatMap Piece.source).getLast? with
    | none =>
      rw [later] at h
      simp [Piece.source, lineEnd, inside.symm] at h
    | some d =>
      rw [later, Option.some_or, Option.some.injEq] at h
      subst h
      rw [ih later, Option.some_or]

lemma atLineStart_of_last {output rendered : Text} {c : Char} (last : rendered.getLast? = some c) :
    AtLineStart (output ++ rendered) ↔ c = '\n' := by
  have joined : (output ++ rendered).getLast? = some c := by
    rw [List.getLast?_append, last, Option.some_or]
  have present : output ++ rendered ≠ [] := by
    intro empty
    simp [empty] at joined
  simp [AtLineStart, present, joined]

/-- The state of the stream says whether the output stands at a line start. -/
theorem prefixChunk_state (w : Write) {state : StreamState} {output : Text}
    (start : state.atLineStart = true ↔ AtLineStart output) :
    (prefixChunk w.chunk w.tag state).2.atLineStart = true ↔
      AtLineStart (output ++ (prefixChunk w.chunk w.tag state).1) := by
  by_cases empty : w.chunk = []
  · simpa [prefixChunk, empty] using start
  · obtain ⟨c, last⟩ : ∃ c, w.chunk.getLast? = some c :=
      Option.ne_none_iff_exists'.mp (by simpa using empty)
    have ended : (prefixChunk w.chunk w.tag state).2.atLineStart = true ↔ c = '\n' := by
      simp [prefixChunk, empty, endsWithNewline, last]
    rw [ended]
    by_cases newline : c = '\n'
    · subst newline
      have closed : endsWithNewline w.chunk = true := by simp [endsWithNewline, last]
      exact (atLineStart_of_last (by simp [prefixChunk, empty, closed, lineEnd])).symm
    · refine (atLineStart_of_last ?_).symm
      have opened : endsWithNewline w.chunk = false := by simp [endsWithNewline, last, newline]
      have source := source_piecesOf w
      rw [prefixChunk_text]
      rw [piecesOf, if_neg empty, opened] at source ⊢
      exact getLast?_place newline (by rw [source, last])

/-! ### Several writes -/

lemma wellPlaced_append {output : Text} {here later : List Placed} :
    WellPlaced output (here ++ later) ↔
      WellPlaced output here ∧ WellPlaced (output ++ here.flatMap Placed.text) later := by
  induction here generalizing output with
  | nil => simp [WellPlaced]
  | cons p here ih =>
    simp only [List.cons_append, WellPlaced, ih, List.flatMap_cons, and_assoc, List.append_assoc]

/-- What several writes leave behind an output is their lines, each in its place. -/
theorem writeAll_places (ws : List Write) {state : StreamState} {output : Text}
    (start : state.atLineStart = true ↔ AtLineStart output) :
    ∃ placed : List Placed, placed.map Placed.piece = ws.flatMap piecesOf ∧
      (writeAll state ws).1 = placed.flatMap Placed.text ∧ WellPlaced output placed ∧
      ((writeAll state ws).2.atLineStart = true ↔ AtLineStart (output ++ (writeAll state ws).1)) := by
  induction ws generalizing state output with
  | nil => exact ⟨[], rfl, rfl, trivial, by simpa [writeAll] using start⟩
  | cons w rest ih =>
    have here := prefixChunk_text w state
    have next := prefixChunk_state w start
    obtain ⟨later, pieces, text, fits, final⟩ := ih next
    refine ⟨place state.atLineStart (piecesOf w) ++ later, ?_, ?_, ?_, ?_⟩
    · rw [List.map_append, map_piece_place, pieces, List.flatMap_cons]
    · rw [List.flatMap_append, ← here, ← text]
      rfl
    · rw [wellPlaced_append, ← here]
      refine ⟨?_, fits⟩
      unfold piecesOf
      split
      · trivial
      · exact wellPlaced_place _ _ _ start
    · rw [List.append_assoc] at final
      exact final

/-- Whoever writes, and wherever chunks end: the state is at a line start exactly when the output
is, the output is the chunks with nothing inserted but what belongs before their lines, and there
tags stand at line starts only, and commands on lines of their own. -/
theorem writeAll_tags_lines (ws : List Write) :
    ∃ placed : List Placed, placed.map Placed.piece = ws.flatMap piecesOf ∧
      (ws.flatMap piecesOf).flatMap Piece.source = ws.flatMap Write.chunk ∧
      (∀ p ∈ ws.flatMap piecesOf, '\n' ∉ p.line) ∧
      (writeAll ⟨true⟩ ws).1 = placed.flatMap Placed.text ∧
      (∀ before p after, placed = before ++ p :: after →
        Fits (before.flatMap Placed.text) p) ∧
      ((writeAll ⟨true⟩ ws).2.atLineStart = true ↔ AtLineStart (writeAll ⟨true⟩ ws).1) := by
  obtain ⟨placed, pieces, text, fits, final⟩ :=
    @writeAll_places ws ⟨true⟩ [] (by simp [AtLineStart])
  refine ⟨placed, pieces, ?_, ?_, text, ?_, final⟩
  · rw [List.flatMap_assoc]
    exact List.flatMap_congr (fun w _ => source_piecesOf w)
  · intro p hp
    obtain ⟨w, _, inside⟩ := List.mem_flatMap.mp hp
    exact newline_not_mem_line inside
  · rintro before p after rfl
    exact (wellPlaced_append.mp fits).2.1

end LogPrefix
