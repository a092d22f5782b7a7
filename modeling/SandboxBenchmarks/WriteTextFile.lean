import SandboxBenchmarks.Library.Base64

/-!
# Writing a text file through the shell

`writeTextFile` of `packages/driver/src/lib/shell.ts`. Without a file capability of the
vendor the text goes in pieces of base64 into a temporary file beside the target, and
that file is renamed. A command may fail or be lost, with any part of its effect, and
the effect of a lost one may come late.
-/

namespace WriteTextFile

open Base64 (Bytes)

/-! ### Files and commands -/

inductive Entry
  | file (bytes : Bytes)
  | directory
deriving DecidableEq, Repr

/-- What stands at a path, links followed. -/
abbrev Files := String → Option Entry

def put (files : Files) (path : String) (entry : Option Entry) : Files :=
  fun p => if p = path then entry else files p

inductive Command
  /-- `: > 'path'` -/
  | create (path : String)
  /-- `printf '%s' 'chunk' | base64 -d >> 'path'` -/
  | append (path : String) (chunk : List Char)
  /-- `mv 'source' 'target'` -/
  | move (source target : String)
  /-- `rm -f 'path'` -/
  | remove (path : String)
deriving DecidableEq, Repr

/-- The part of a path after its last slash. -/
def basename (path : String) : String :=
  String.ofList (path.toList.reverse.takeWhile (fun c => c ≠ '/')).reverse

/-- A file moved to a directory goes inside. -/
def destination (files : Files) (source target : String) : String :=
  if files target = some .directory then target ++ "/" ++ basename source else target

def contents : Option Entry → Bytes
  | some (.file bytes) => bytes
  | _ => []

/-- A command that runs to its end; `none` is that it refuses and does nothing. -/
def Command.perform (files : Files) : Command → Option Files
  | .create path =>
    if files path = some .directory then none else some (put files path (some (.file [])))
  | .append path chunk =>
    if files path = some .directory then none
    else (Base64.decode chunk).map fun bytes =>
      put files path (some (.file (contents (files path) ++ bytes)))
  | .move source target =>
    let into := destination files source target
    if files source = none ∨ files into = some .directory then none
    else some (put (put files source none) into (files source))
  | .remove path =>
    if files path = some .directory then none else some (put files path none)

/-- How much of a command is done although it is reported as failed, or not at all. -/
inductive Effect
  | nothing
  /-- So many bytes are written. -/
  | part (bytes : ℕ)
  | whole
deriving DecidableEq, Repr

def Command.leave (files : Files) (command : Command) : Effect → Files
  | .nothing => files
  | .part n =>
    match command with
    | .append path chunk =>
      if files path = some .directory then files
      else put files path
        (some (.file (contents (files path) ++ ((Base64.decode chunk).getD []).take n)))
    | _ => files
  | .whole => (command.perform files).getD files

/-! ### The session -/

inductive Fate
  | succeeds
  /-- The call fails or rejects; what it does comes at once, or after everything else. -/
  | fails (effect : Effect) (late : Bool)
deriving DecidableEq, Repr

/-- What a sequence of commands came to: whether one failed, and what that one does later. -/
structure Attempt where
  files : Files
  failed : Bool
  late : Option (Command × Effect)

/-- `execOrThrow` on one command after another, the first of number `k`. -/
def runAll (fate : ℕ → Fate) (k : ℕ) (files : Files) : List Command → Attempt
  | [] => ⟨files, false, none⟩
  | command :: rest =>
    match fate k with
    | .succeeds =>
      match command.perform files with
      | some after => runAll fate (k + 1) after rest
      | none => ⟨files, true, none⟩
    | .fails effect false => ⟨command.leave files effect, true, none⟩
    | .fails effect true => ⟨files, true, some (command, effect)⟩

def base64ChunkChars : ℕ := 64 * 1024

/-- `new TextEncoder().encode(text)` -/
def encodeText (text : String) : Bytes := text.toList.flatMap String.utf8EncodeChar

/-- The slices of the encoded text from `offset` on. -/
def chunks (encoded : List Char) (offset : ℕ) : List (List Char) :=
  if offset < encoded.length then
    (encoded.drop offset).take base64ChunkChars :: chunks encoded (offset + base64ChunkChars)
  else []
termination_by encoded.length - offset
decreasing_by
  simp only [base64ChunkChars]
  omega

/-- One call: the files before it, the random name, and what becomes of each command. -/
structure Call where
  path : String
  text : String
  /-- The answer of `crypto.randomUUID()`. -/
  uuid : String
  files : Files
  /-- The vendor's own `files.writeText`: whether it returns, and the files it leaves. -/
  native : Option (String → String → Files → Bool × Files)
  fate : ℕ → Fate
  cleanup : Effect

namespace Call

variable (call : Call)

def temporary : String := s!"{call.path}.sandbox-benchmarks-{call.uuid}.tmp"

def bytes : Bytes := encodeText call.text

def encoded : List Char := Base64.encode call.bytes

/-- The pieces of base64 that are appended. -/
def pieces : List (List Char) := chunks call.encoded 0

/-- The commands that fill the temporary file. -/
def filling : List Command :=
  .create call.temporary :: call.pieces.map (Command.append call.temporary)

def commands : List Command := call.filling ++ [.move call.temporary call.path]

def attempt : Attempt := runAll call.fate 0 call.files call.commands

/-- `rm -f`, whatever it comes to, and then what a lost command still does. -/
def afterFailure (attempt : Attempt) : Files :=
  let cleaned := (Command.remove call.temporary).leave attempt.files call.cleanup
  match attempt.late with
  | none => cleaned
  | some (command, effect) => command.leave cleaned effect

/-- Whether the call returns, and the files once all of its commands have ended. -/
def writeTextFile : Bool × Files :=
  match call.native with
  | some writeText => writeText call.path call.text call.files
  | none =>
    if call.attempt.failed then (false, call.afterFailure call.attempt)
    else (true, call.attempt.files)

end Call

/-! ### Pieces -/

/-- The bytes of a piece that is not the last. -/
def rawChunkBytes : ℕ := 48 * 1024

def rawPieces (bytes : Bytes) (offset : ℕ) : List Bytes :=
  if offset < bytes.length then
    (bytes.drop offset).take rawChunkBytes :: rawPieces bytes (offset + rawChunkBytes)
  else []
termination_by bytes.length - offset
decreasing_by
  simp only [rawChunkBytes]
  omega

theorem base64ChunkChars_eq : base64ChunkChars = 4 * 16384 := by simp [base64ChunkChars]

theorem rawChunkBytes_eq : rawChunkBytes = 3 * 16384 := by simp [rawChunkBytes]

/-- Every piece of the encoded text encodes a piece of the bytes for itself. -/
theorem chunks_encode (bytes : Bytes) (n : ℕ) :
    chunks (Base64.encode bytes) (4 * n) = (rawPieces bytes (3 * n)).map Base64.encode := by
  induction measure : bytes.length - 3 * n using Nat.strongRecOn generalizing n with
  | ind left ih =>
    have length := Base64.length_encode bytes
    rw [chunks, rawPieces, base64ChunkChars_eq, rawChunkBytes_eq]
    rcases Nat.lt_or_ge (3 * n) bytes.length with inside | outside
    · have next := ih (bytes.length - 3 * (n + 16384)) (by omega) (n + 16384) rfl
      rw [if_pos (by omega), if_pos inside, List.map_cons, Base64.drop_encode, Base64.take_encode,
        ← Nat.mul_add, ← Nat.mul_add, next]
    · rw [if_neg (by omega), if_neg (by omega), List.map_nil]

theorem flatten_take_rawPieces (bytes : Bytes) (offset k : ℕ) :
    ((rawPieces bytes offset).take k).flatten = (bytes.drop offset).take (k * rawChunkBytes) := by
  induction k generalizing offset with
  | zero => simp
  | succ k ih =>
    rw [rawPieces]
    split
    · rw [List.take_succ_cons, List.flatten_cons, ih, Nat.succ_mul,
        Nat.add_comm (k * rawChunkBytes), ← List.drop_drop,
        List.take_add]
    · rename_i outside
      rw [List.drop_eq_nil_of_le (by omega)]
      simp

theorem flatten_rawPieces (bytes : Bytes) (offset : ℕ) :
    (rawPieces bytes offset).flatten = bytes.drop offset := by
  induction offset using rawPieces.induct bytes with
  | case1 offset inside ih =>
    rw [rawPieces, if_pos inside, List.flatten_cons, ih, ← List.drop_drop, List.take_append_drop]
  | case2 offset outside =>
    rw [rawPieces, if_neg outside, List.drop_eq_nil_of_le (by omega)]
    rfl

theorem mapM_decode_encode (parts : List Bytes) :
    (parts.map Base64.encode).mapM Base64.decode = some parts := by
  induction parts with
  | nil => rfl
  | cons part rest ih =>
    rw [List.map_cons, List.mapM_cons, Base64.decode_encode, ih]
    rfl

/-! ### What a command changes -/

@[simp] theorem put_same (files : Files) (path : String) (entry : Option Entry) :
    put files path entry path = entry := if_pos rfl

theorem put_other (files : Files) {path p : String} (entry : Option Entry) (other : p ≠ path) :
    put files path entry p = files p := if_neg other

@[simp] theorem put_put (files : Files) (path : String) (first second : Option Entry) :
    put (put files path first) path second = put files path second := by
  funext p
  unfold put
  split <;> rfl

/-- The command writes one file, another than that of the path. -/
def Command.Spares (path : String) : Command → Prop
  | .create p => path ≠ p
  | .append p _ => path ≠ p
  | .move _ _ => False
  | .remove p => path ≠ p

theorem perform_spares {path : String} {command : Command} {files after : Files}
    (spares : command.Spares path) (h : command.perform files = some after) :
    after path = files path := by
  cases command with
  | create p =>
    simp only [Command.perform] at h
    split at h
    · cases h
    · rw [← Option.some.inj h, put_other _ _ spares]
  | append p chunk =>
    simp only [Command.perform] at h
    split at h
    · cases h
    · obtain ⟨bytes, -, rfl⟩ := Option.map_eq_some_iff.mp h
      rw [put_other _ _ spares]
  | move source target => exact spares.elim
  | remove p =>
    simp only [Command.perform] at h
    split at h
    · cases h
    · rw [← Option.some.inj h, put_other _ _ spares]

theorem leave_spares {path : String} {command : Command} (spares : command.Spares path)
    (files : Files) (effect : Effect) : command.leave files effect path = files path := by
  cases effect with
  | nothing => rfl
  | part n =>
    cases command with
    | append p chunk =>
      simp only [Command.leave]
      split
      · rfl
      · rw [put_other _ _ spares]
    | create p => rfl
    | move source target => rfl
    | remove p => rfl
  | whole =>
    simp only [Command.leave]
    cases h : command.perform files with
    | none => rfl
    | some after => exact perform_spares spares h

/-! ### What a sequence of commands changes -/

theorem runAll_append_of_failed {fate : ℕ → Fate} {k : ℕ} {files : Files} {first : List Command}
    (rest : List Command) (failed : (runAll fate k files first).failed = true) :
    runAll fate k files (first ++ rest) = runAll fate k files first := by
  induction first generalizing k files with
  | nil => cases failed
  | cons command first ih =>
    simp only [List.cons_append, runAll] at failed ⊢
    cases fated : fate k with
    | succeeds =>
      cases performed : command.perform files with
      | none => rfl
      | some after =>
        simp only [fated, performed] at failed ⊢
        exact ih failed
    | fails effect late => cases late <;> rfl

theorem runAll_append_of_done {fate : ℕ → Fate} {k : ℕ} {files : Files} {first : List Command}
    (rest : List Command) (done : (runAll fate k files first).failed = false) :
    runAll fate k files (first ++ rest) =
      runAll fate (k + first.length) (runAll fate k files first).files rest := by
  induction first generalizing k files with
  | nil => rfl
  | cons command first ih =>
    simp only [List.cons_append, runAll] at done ⊢
    cases fated : fate k with
    | succeeds =>
      cases performed : command.perform files with
      | none => simp [fated, performed] at done
      | some after =>
        simp only [fated, performed] at done ⊢
        rw [ih done, List.length_cons, Nat.add_right_comm, Nat.add_assoc]
    | fails effect late => cases late <;> simp [fated] at done

/-- Commands that spare a path leave it alone, also when they come late. -/
theorem runAll_spares {path : String} {fate : ℕ → Fate} {k : ℕ} {files : Files}
    {commands : List Command} (spares : ∀ c ∈ commands, c.Spares path) :
    (runAll fate k files commands).files path = files path ∧
      ∀ c effect, (runAll fate k files commands).late = some (c, effect) → c.Spares path := by
  induction commands generalizing k files with
  | nil => exact ⟨rfl, fun c effect h => nomatch h⟩
  | cons command rest ih =>
    have here := spares command List.mem_cons_self
    have later : ∀ c ∈ rest, c.Spares path := fun c hc => spares c (List.mem_cons_of_mem _ hc)
    rw [runAll]
    cases fate k with
    | succeeds =>
      cases performed : command.perform files with
      | none => exact ⟨rfl, fun c effect h => nomatch h⟩
      | some after =>
        obtain ⟨kept, lates⟩ := @ih (k + 1) after later
        exact ⟨kept.trans (perform_spares here performed), lates⟩
    | fails effect late =>
      cases late with
      | false => exact ⟨leave_spares here files effect, fun c effect h => nomatch h⟩
      | true =>
        refine ⟨rfl, ?_⟩
        intro c effect' h
        simp only [Option.some.injEq, Prod.mk.injEq] at h
        rw [← h.1]
        exact here

theorem fate_of_done {fate : ℕ → Fate} {k : ℕ} {files : Files} {commands : List Command}
    (done : (runAll fate k files commands).failed = false) :
    ∀ i < commands.length, fate (k + i) = .succeeds := by
  induction commands generalizing k files with
  | nil => exact fun i h => absurd h (Nat.not_lt_zero i)
  | cons command rest ih =>
    rw [runAll] at done
    cases fated : fate k with
    | succeeds =>
      cases performed : command.perform files with
      | none => simp [fated, performed] at done
      | some after =>
        simp only [fated, performed] at done
        intro i inside
        cases i with
        | zero => exact fated
        | succ i =>
          have later := ih done i (Nat.lt_of_succ_lt_succ inside)
          rwa [Nat.add_right_comm, Nat.add_assoc] at later
    | fails effect late => cases late <;> simp [fated] at done

/-! ### Filling the temporary file -/

theorem put_self {files : Files} {path : String} {entry : Option Entry}
    (held : files path = entry) : put files path entry = files := by
  funext p
  unfold put
  split
  · rename_i same
    rw [same, held]
  · rfl

theorem perform_append {files : Files} {path : String} {old part : Bytes}
    (held : files path = some (.file old)) :
    (Command.append path (Base64.encode part)).perform files =
      some (put files path (some (.file (old ++ part)))) := by
  rw [Command.perform, held, if_neg (by simp), Base64.decode_encode]
  rfl

/-- Pieces that are all appended add up to their bytes. -/
theorem runAll_appends {fate : ℕ → Fate} {k : ℕ} {files : Files} {path : String} {old : Bytes}
    {parts : List Bytes} (held : files path = some (.file old))
    (done : (runAll fate k files
      ((parts.map Base64.encode).map (Command.append path))).failed = false) :
    (runAll fate k files ((parts.map Base64.encode).map (Command.append path))).files =
      put files path (some (.file (old ++ parts.flatten))) := by
  induction parts generalizing k files old with
  | nil =>
    rw [List.flatten_nil, List.append_nil, put_self held]
    rfl
  | cons part rest ih =>
    simp only [List.map_cons, runAll, perform_append held] at done ⊢
    cases fated : fate k with
    | succeeds =>
      simp only [fated] at done ⊢
      rw [ih (put_same _ _ _) done, put_put, List.flatten_cons, List.append_assoc]
    | fails effect late => cases late <;> simp [fated] at done

theorem runAll_appends_done {fate : ℕ → Fate} {k : ℕ} {files : Files} {path : String} {old : Bytes}
    {parts : List Bytes} (held : files path = some (.file old))
    (fated : ∀ i < parts.length, fate (k + i) = .succeeds) :
    (runAll fate k files ((parts.map Base64.encode).map (Command.append path))).failed = false := by
  induction parts generalizing k files old with
  | nil => rfl
  | cons part rest ih =>
    have here := fated 0 (Nat.succ_pos _)
    rw [Nat.add_zero] at here
    simp only [List.map_cons, runAll, here, perform_append held]
    apply ih (put_same _ _ _)
    intro i inside
    rw [Nat.add_assoc, Nat.add_comm 1]
    exact fated (i + 1) (Nat.succ_lt_succ inside)

namespace Call

variable (call : Call)

theorem path_ne_temporary : call.path ≠ call.temporary := by
  intro same
  have lengths := congrArg String.length same
  have shown : (toString call.path).length = call.path.length := rfl
  have ending : (toString ".tmp").length = 4 := by decide
  simp only [temporary, String.length_append] at lengths
  omega

/-- The path inside a target that is a directory. -/
def inside : String := call.path ++ "/" ++ basename call.temporary

theorem path_ne_inside : call.path ≠ call.inside := by
  intro same
  have lengths := congrArg String.length same
  have slash : "/".length = 1 := by decide
  simp only [inside, String.length_append] at lengths
  omega

theorem inside_ne_temporary : call.inside ≠ call.temporary := by
  intro same
  have texts := congrArg String.toList same
  simp only [inside, temporary, String.toList_append, List.append_assoc] at texts
  have after := List.append_cancel_left texts
  exact absurd (List.cons.inj after).1 (by decide)

theorem pieces_eq : call.pieces = (rawPieces call.bytes 0).map Base64.encode :=
  chunks_encode call.bytes 0

/-- The files once the temporary file holds the whole text. -/
def filled : Files := put call.files call.temporary (some (.file call.bytes))

theorem filling_spares : ∀ c ∈ call.filling, c.Spares call.path := by
  intro c member
  rcases List.mem_cons.mp member with rfl | member
  · exact call.path_ne_temporary
  · obtain ⟨piece, -, rfl⟩ := List.mem_map.mp member
    exact call.path_ne_temporary

theorem filling_files (done : (runAll call.fate 0 call.files call.filling).failed = false) :
    (runAll call.fate 0 call.files call.filling).files = call.filled := by
  rw [filling, runAll] at done ⊢
  cases fated : call.fate 0 with
  | succeeds =>
    simp only [fated, Command.perform] at done ⊢
    by_cases named : call.files call.temporary = some .directory
    · simp [if_pos named] at done
    · simp only [if_neg named] at done ⊢
      rw [call.pieces_eq] at done ⊢
      rw [runAll_appends (put_same _ _ _) done, put_put, List.nil_append, flatten_rawPieces,
        List.drop_zero]
      rfl
  | fails effect late => cases late <;> simp [fated] at done

theorem filling_done (named : call.files call.temporary ≠ some .directory)
    (fated : ∀ k < call.filling.length, call.fate k = .succeeds) :
    (runAll call.fate 0 call.files call.filling).failed = false := by
  have first : call.fate 0 = .succeeds := fated 0 (Nat.succ_pos _)
  rw [filling, runAll]
  simp only [first, Command.perform, if_neg named]
  rw [call.pieces_eq]
  apply runAll_appends_done (put_same _ _ _)
  intro i inside
  rw [Nat.zero_add, Nat.add_comm]
  apply fated
  rw [filling, List.length_cons, List.length_map, call.pieces_eq, List.length_map]
  omega

/-! ### The rename -/

/-- The temporary file is whole or gone. -/
def TempWhole (files : Files) : Prop :=
  files call.temporary = none ∨ files call.temporary = some (.file call.bytes)

variable {call}

theorem perform_move {files after : Files} (whole : call.TempWhole files)
    (performed : (Command.move call.temporary call.path).perform files = some after) :
    after call.path =
      if files call.path = some .directory then some .directory else some (.file call.bytes) := by
  simp only [Command.perform] at performed
  split at performed
  · cases performed
  · rename_i possible
    rw [not_or] at possible
    have held : files call.temporary = some (.file call.bytes) := whole.resolve_left possible.1
    rw [← Option.some.inj performed, destination]
    split
    · rename_i directory
      have outside : call.path ≠ call.path ++ "/" ++ basename call.temporary := call.path_ne_inside
      rw [put_other _ _ outside, put_other _ _ call.path_ne_temporary, directory]
    · rw [put_same, held]

theorem leave_move {files : Files} (whole : call.TempWhole files) (effect : Effect) :
    (Command.move call.temporary call.path).leave files effect call.path = files call.path ∨
      (Command.move call.temporary call.path).leave files effect call.path =
        some (.file call.bytes) := by
  cases effect with
  | nothing => exact Or.inl rfl
  | part n => exact Or.inl rfl
  | whole =>
    rw [Command.leave]
    cases performed : (Command.move call.temporary call.path).perform files with
    | none => exact Or.inl rfl
    | some after =>
      have moved := perform_move whole performed
      split at moved
      · rename_i directory
        exact Or.inl (moved.trans directory.symm)
      · exact Or.inr moved

theorem tempWhole_cleaned {files : Files} (whole : call.TempWhole files) (effect : Effect) :
    call.TempWhole ((Command.remove call.temporary).leave files effect) := by
  cases effect with
  | nothing => exact whole
  | part n => exact whole
  | whole =>
    simp only [Command.leave, Command.perform]
    split
    · exact whole
    · exact Or.inl (put_same _ _ _)

theorem filled_path : call.filled call.path = call.files call.path :=
  put_other _ _ call.path_ne_temporary

theorem destination_filled (directory : call.files call.path = some .directory) :
    destination call.filled call.temporary call.path = call.inside := by
  rw [destination, filled_path, if_pos directory]
  rfl

theorem tempWhole_filled : call.TempWhole call.filled := Or.inr (put_same _ _ _)

/-- The attempt stops while it fills the temporary file, or the rename is its last command. -/
theorem attempt_cases : (call.attempt = runAll call.fate 0 call.files call.filling ∧
      call.attempt.failed = true) ∨
    (runAll call.fate 0 call.files call.filling).failed = false ∧
      call.attempt = runAll call.fate call.filling.length call.filled
        [.move call.temporary call.path] := by
  rw [attempt, commands]
  cases filling : (runAll call.fate 0 call.files call.filling).failed with
  | true =>
    rw [runAll_append_of_failed _ filling]
    exact Or.inl ⟨rfl, filling⟩
  | false =>
    rw [runAll_append_of_done _ filling, call.filling_files filling, Nat.zero_add]
    exact Or.inr ⟨rfl, rfl⟩

/-! ### What the call leaves -/

/-- The target is untouched or whole, it is whole where the call returns, and the pieces
before any boundary decode to the bytes up to it. -/
structure Faithful (call : Call) : Prop where
  target : call.writeTextFile.2 call.path = call.files call.path ∨
    call.writeTextFile.2 call.path = some (.file call.bytes)
  success : call.writeTextFile.1 = true →
    call.writeTextFile.2 call.path = some (.file call.bytes)
  pieces : ∀ k, ((call.pieces.take k).mapM Base64.decode).map List.flatten =
    some (call.bytes.take (k * rawChunkBytes))

/-- The target is a directory, and every command succeeds: the file is renamed into it. -/
structure Misplaced (call : Call) : Prop where
  directory : call.files call.path = some .directory
  named : call.files call.temporary ≠ some .directory
  inside : call.files call.inside ≠ some .directory
  succeeds : ∀ k < call.commands.length, call.fate k = .succeeds

theorem removes (call : Call) : (Command.remove call.temporary).Spares call.path :=
  call.path_ne_temporary

theorem afterFailure_now {attempt : Attempt} (now : attempt.late = none) :
    call.afterFailure attempt call.path = attempt.files call.path := by
  simp only [afterFailure, now]
  exact leave_spares call.removes _ _

theorem afterFailure_late {attempt : Attempt} {command : Command} {effect : Effect}
    (late : attempt.late = some (command, effect)) : call.afterFailure attempt =
      command.leave ((Command.remove call.temporary).leave attempt.files call.cleanup) effect := by
  simp only [afterFailure, late]

theorem failed_target (failed : call.attempt.failed = true) :
    call.afterFailure call.attempt call.path = call.files call.path ∨
      call.afterFailure call.attempt call.path = some (.file call.bytes) := by
  rcases call.attempt_cases with ⟨same, -⟩ | ⟨-, same⟩
  · left
    obtain ⟨kept, lates⟩ := @runAll_spares call.path call.fate 0 call.files _ call.filling_spares
    rw [← same] at kept lates
    cases late : call.attempt.late with
    | none => rw [afterFailure_now late, kept]
    | some lost =>
      rw [afterFailure_late late, leave_spares (lates _ _ late), leave_spares call.removes, kept]
  · rw [same] at failed ⊢
    cases fated : call.fate call.filling.length with
    | succeeds =>
      cases performed : (Command.move call.temporary call.path).perform call.filled with
      | none =>
        left
        rw [afterFailure_now (by simp only [runAll, fated, performed])]
        simp only [runAll, fated, performed, filled_path]
      | some after => simp [runAll, fated, performed] at failed
    | fails effect late =>
      cases late with
      | false =>
        rw [afterFailure_now (by simp only [runAll, fated]), ← filled_path]
        simp only [runAll, fated]
        exact leave_move tempWhole_filled effect
      | true =>
        have cleaned : call.TempWhole ((Command.remove call.temporary).leave call.filled call.cleanup) :=
          tempWhole_cleaned tempWhole_filled call.cleanup
        have moved := leave_move cleaned effect
        rw [leave_spares call.removes, filled_path] at moved
        have lost : (runAll call.fate call.filling.length call.filled
            [.move call.temporary call.path]).late =
              some (.move call.temporary call.path, effect) := by simp only [runAll, fated]
        rw [afterFailure_late lost]
        simp only [runAll, fated]
        exact moved

/-- A call that returns has renamed the whole file to the target, or into it. -/
theorem returned_target (done : call.attempt.failed = false) :
    call.attempt.files call.path = some (.file call.bytes) ∨
      call.attempt.files call.path = call.files call.path ∧ call.Misplaced := by
  have succeeds := fate_of_done (show (runAll call.fate 0 call.files call.commands).failed = false
    from done)
  simp only [Nat.zero_add] at succeeds
  rcases call.attempt_cases with ⟨-, failed⟩ | ⟨filling, same⟩
  · rw [failed] at done
    cases done
  · have fated : call.fate call.filling.length = .succeeds := succeeds _ (by simp [commands])
    rw [same] at done ⊢
    cases performed : (Command.move call.temporary call.path).perform call.filled with
    | none => simp [runAll, fated, performed] at done
    | some after =>
      have moved := perform_move tempWhole_filled performed
      rw [filled_path] at moved
      simp only [runAll, fated, performed]
      split at moved
      · rename_i directory
        right
        refine ⟨moved.trans directory.symm, directory, ?_, ?_, succeeds⟩
        · intro named
          have first := succeeds 0 (by simp [commands, Call.filling])
          simp [Call.filling, runAll, first, Command.perform, named] at filling
        · intro inside
          have full : call.filled call.inside = some .directory :=
            (put_other _ _ call.inside_ne_temporary).trans inside
          simp [Command.perform, destination_filled directory, full] at performed
      · exact Or.inl moved

theorem misplaced_returns (misplaced : call.Misplaced) : call.attempt.failed = false ∧
    call.attempt.files call.path = some .directory := by
  have length : call.commands.length = call.filling.length + 1 := by simp [commands]
  have filling := call.filling_done misplaced.named fun k inside =>
    misplaced.succeeds k (by omega)
  rcases call.attempt_cases with ⟨same, failed⟩ | ⟨-, same⟩
  · rw [same, filling] at failed
    cases failed
  · have fated : call.fate call.filling.length = .succeeds := misplaced.succeeds _ (by omega)
    cases performed : (Command.move call.temporary call.path).perform call.filled with
    | none =>
      have held : call.filled call.temporary = some (.file call.bytes) := put_same _ _ _
      have free : call.filled call.inside = call.files call.inside :=
        put_other _ _ call.inside_ne_temporary
      simp [Command.perform, destination_filled misplaced.directory, held, free,
        misplaced.inside] at performed
    | some after =>
      have moved := perform_move tempWhole_filled performed
      rw [filled_path, if_pos misplaced.directory] at moved
      rw [same]
      simp only [runAll, fated, performed]
      exact ⟨trivial, moved⟩

theorem pieces_decode (call : Call) (k : ℕ) :
    ((call.pieces.take k).mapM Base64.decode).map List.flatten =
      some (call.bytes.take (k * rawChunkBytes)) := by
  rw [call.pieces_eq, ← List.map_take, mapM_decode_encode, Option.map_some, flatten_take_rawPieces,
    List.drop_zero]

theorem faithful_of_not_misplaced (commanded : call.native = none) (sound : ¬ call.Misplaced) :
    call.Faithful := by
  have run : call.writeTextFile = if call.attempt.failed then
      (false, call.afterFailure call.attempt) else (true, call.attempt.files) := by
    rw [writeTextFile, commanded]
  cases failed : call.attempt.failed with
  | true =>
    rw [failed, if_pos rfl] at run
    refine ⟨?_, ?_, call.pieces_decode⟩
    · rw [run]
      exact failed_target failed
    · rw [run]
      exact fun returned => absurd returned Bool.false_ne_true
  | false =>
    rw [failed, if_neg Bool.false_ne_true] at run
    have whole := (returned_target failed).resolve_right fun h => sound h.2
    refine ⟨?_, ?_, call.pieces_decode⟩
    · rw [run]
      exact Or.inr whole
    · rw [run]
      exact fun _ => whole

theorem not_misplaced_of_faithful (commanded : call.native = none) (faithful : call.Faithful) :
    ¬ call.Misplaced := by
  intro misplaced
  obtain ⟨done, directory⟩ := misplaced_returns misplaced
  have success := faithful.success
  rw [writeTextFile, commanded, done] at success
  have whole : call.attempt.files call.path = some (.file call.bytes) := success rfl
  rw [directory] at whole
  cases whole

/-- Through the shell, the target is left as it was or whole, and the call returns only in the
latter case, unless every command succeeds on a target that is a directory. -/
theorem faithful_iff (call : Call) (commanded : call.native = none) :
    call.Faithful ↔ ¬ call.Misplaced :=
  ⟨not_misplaced_of_faithful commanded, faithful_of_not_misplaced commanded⟩

/-- The rename over a file is lost, and done after the call has failed. -/
def lostRename : Call where
  path := "/opt/bench/seed.json"
  text := "{}"
  uuid := "6f1d2c3b"
  files p := if p = "/opt/bench/seed.json" then some (.file [0x5B, 0x5D]) else none
  native := none
  fate k := if k = 2 then .fails .whole true else .succeeds
  cleanup := .nothing

theorem lostRename_faithful : lostRename.Faithful := by
  have file : lostRename.files lostRename.path = some (.file [0x5B, 0x5D]) := by
    simp only [lostRename, if_true]
  refine (faithful_iff lostRename rfl).mpr fun misplaced => ?_
  have directory := misplaced.directory
  rw [file] at directory
  cases directory

/-! ### A target that is a directory -/

/-- Every command succeeds, and the target is a directory. -/
def ontoDirectory : Call where
  path := "/opt/bench"
  text := "{}"
  uuid := "6f1d2c3b"
  files p := if p = "/opt/bench" then some .directory else none
  native := none
  fate _ := .succeeds
  cleanup := .whole

/-- The call returns, and nothing of the text is at its target. -/
theorem ontoDirectory_unfaithful : ontoDirectory.native = none ∧ ¬ ontoDirectory.Faithful := by
  have free : ∀ p, ontoDirectory.path ≠ p → ontoDirectory.files p ≠ some .directory := by
    intro p other directory
    have absent : ontoDirectory.files p = none := if_neg fun same => other same.symm
    rw [absent] at directory
    cases directory
  have directory : ontoDirectory.files ontoDirectory.path = some .directory := by
    simp only [ontoDirectory, if_true]
  refine ⟨rfl, fun faithful => not_misplaced_of_faithful rfl faithful ⟨directory, ?_, ?_, ?_⟩⟩
  · exact free _ ontoDirectory.path_ne_temporary
  · exact free _ ontoDirectory.path_ne_inside
  · exact fun _ _ => rfl

end Call

end WriteTextFile
