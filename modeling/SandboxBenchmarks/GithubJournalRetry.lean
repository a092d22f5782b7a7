import SandboxBenchmarks.GithubJournalSafety

/-!
# Appending after a failed append

An append is undisturbed when each of its requests is served once, with the ref as it
stands, and nobody else moves the branch. After any run, failed appends included, an
undisturbed append succeeds exactly when the instance remembers the branch as it is.
-/

namespace GithubJournal

open AccountJournal Transition

variable {account : String} {root : Commit} {rootJournal : Journal} {ω : Type} [DecidableEq ω]

/-- The request does not fail: reads are current and whole, and only a ref update that is no
fast-forward is refused. -/
def Willing (head : Commit) : Operation → Answer → Prop
  | .getRef, .ref sha => sha = head
  | .getTree _, .inventory truncated _ => truncated = false
  | .patchRef sha, .error => ¬ Ancestor head sha
  | _, .error => False
  | _, _ => True

def World.serve (world : World ω) (call : Call ω) (answer : Answer) (head : Commit)
    (past : List Commit) : World ω :=
  { world with head, past, answers := (call, answer) :: world.answers }

/-- The request of `w` is served once, undisturbed, and its answer received. -/
inductive Quiet (account : String) (w : ω) : World ω → World ω → Prop
  | exchange {world : World ω} {op : Operation} {answer : Answer} {head : Commit} {past : List Commit}
      (busy : (world.writers w).phase ≠ .idle)
      (sent : ((w, (world.writers w).calls), op) ∈ world.requests)
      (served : Serves world.head world.past op answer head past)
      (willing : Willing world.head op answer) :
      Quiet account w world
        ((world.serve (w, (world.writers w).calls) answer head past).react w
          (resume account (world.writers w).phase answer))

/-- The append is over, and its promise resolved. -/
def Appended (before : World ω) (w : ω) (record : AccountRecord) (t : World ω) : Prop :=
  (t.writers w).phase = .idle ∧ t.resolved = record :: before.resolved

/-- An append of `record` by `w` from here on, undisturbed, resolves. -/
def Succeeds (account : String) (world : World ω) (w : ω) (record : AccountRecord) : Prop :=
  Inevitably (Quiet account w) (Appended world w record)
    (world.react w (begin (world.writers w).acknowledged record))

/-- What `w` remembers of the branch, if anything, is where it stands. -/
def InStep (world : World ω) (w : ω) : Prop :=
  ∀ state, (world.writers w).acknowledged = some state → state.head = world.head

def Unrecorded (world : World ω) (record : AccountRecord) : Prop :=
  ∀ journal, world.head.journal = some journal →
    ∀ entry ∈ journal.records, entry.clashes record = false

theorem History.theirs (provisioned : Provisioned account root rootJournal) {heads : List Commit}
    (h : History account root heads) : ∀ head ∈ heads, ∀ journal, head.journal = some journal →
      ∀ entry ∈ journal.records, entry.account = account := by
  induction h with
  | start =>
    intro head mem journal holds
    rcases List.mem_singleton.mp mem with rfl
    obtain rfl : rootJournal = journal := Option.some.inj (provisioned.holds.symm.trans holds)
    exact provisioned.ours
  | @extend head later past state record before at_head known one ih =>
    intro c mem journal holds
    rcases List.mem_cons.mp mem with rfl | mem
    · obtain rfl := Option.some.inj (one.journal.symm.trans holds)
      intro entry inside
      rcases List.mem_append.mp inside with earlier | last
      · exact ih state.head known.head state.journal known.journal entry earlier
      · rw [List.mem_singleton.mp last]
        exact one.ours
    · exact ih c mem journal holds

/-! ### One undisturbed exchange -/

section
variable {world : World ω} {w : ω} {head : Commit} {phase : Phase} {op : Operation}
  {P : World ω → Prop}

/-- To come to `P` it is enough to come to it after any answer to the one request in flight. -/
theorem Waiting.inevitably (reached : Reachable account root world)
    (waiting : Waiting world w head phase op) (busy : phase ≠ .idle)
    (progress : ∃ answer later past, Serves head world.past op answer later past ∧
      Willing head op answer)
    (next : ∀ answer later past, Serves head world.past op answer later past →
      Willing head op answer → ∀ t : World ω, t.head = later → t.resolved = world.resolved →
        Reachable account root (t.react w (resume account phase answer)) →
        Inevitably (Quiet account w) P (t.react w (resume account phase answer))) :
    Inevitably (Quiet account w) P world := by
  obtain ⟨rfl, rfl, sent⟩ := waiting
  obtain ⟨answer, later, past, served, willing⟩ := progress
  refine .later ⟨_, .exchange busy sent served willing⟩ ?_
  intro t quiet
  cases quiet with
  | @exchange op' answer' head' past' _ sent' served' willing' =>
    obtain rfl := (reachable_sound reached).single _ _ _ sent sent'
    exact next answer' head' past' served' willing' _ rfl rfl
      (reached.later (.tail (.single (.serve sent served')) (.receive w List.mem_cons_self)))

theorem Waiting.quiet (waiting : Waiting world w head phase op) (busy : phase ≠ .idle)
    (account : String) {answer : Answer} {later : Commit} {past : List Commit}
    (served : Serves head world.past op answer later past) (willing : Willing head op answer) :
    ∃ t : World ω, t.head = later ∧ t.resolved = world.resolved ∧
      Quiet account w world (t.react w (resume account phase answer)) := by
  obtain ⟨rfl, rfl, sent⟩ := waiting
  exact ⟨world.serve _ answer later past, rfl, rfl, .exchange busy sent served willing⟩

/-- The next request after an answer that leaves the ref where it is. -/
theorem Waiting.quiet_ask (waiting : Waiting world w head phase op) (account : String)
    (phase' : Phase) (op' : Operation) (busy : phase ≠ .idle) {answer : Answer} {later : Commit}
    {past : List Commit} (served : Serves head world.past op answer later past) (willing : Willing head op answer)
    (next : resume account phase answer = .ask phase' op') :
    ∃ t : World ω, Leads (Quiet account w) world t ∧ Waiting t w later phase' op' ∧
      t.resolved = world.resolved := by
  obtain ⟨t, rfl, same, quiet⟩ := waiting.quiet busy account served willing
  rw [next] at quiet
  exact ⟨_, .single quiet, react_waiting t w phase' op', same⟩

theorem Waiting.quiet_throw (waiting : Waiting world w head phase op) (account : String)
    (busy : phase ≠ .idle) {answer : Answer} {later : Commit} {past : List Commit}
    (served : Serves head world.past op answer later past) (willing : Willing head op answer)
    (next : resume account phase answer = .throw) :
    ∃ t : World ω, Leads (Quiet account w) world t ∧ (t.writers w).phase = .idle ∧
      t.resolved = world.resolved := by
  obtain ⟨t, rfl, same, quiet⟩ := waiting.quiet busy account served willing
  rw [next] at quiet
  exact ⟨_, .single quiet, by simp [World.react, World.setWriter], same⟩

end

/-! ### In step with the branch -/

theorem next_ne_parent {stamp : Nat} {message : String} {tree : Tree} {head : Commit} :
    Commit.next stamp message tree head ≠ head := by
  intro same
  have := congrArg Commit.depth same
  simp [Commit.depth] at this

section
variable {world before : World ω} {w : ω} {head : Commit} {record : AccountRecord}

theorem inevitably_patched {update : Update} (reached : Reachable account root world)
    (waiting : Waiting world w head (.patching update) (.patchRef update.nextCommit))
    (onHead : ∃ stamp message tree, update.nextCommit = .next stamp message tree head)
    (same : world.resolved = before.resolved) :
    Inevitably (Quiet account w) (Appended before w update.record) world := by
  obtain ⟨stamp, message, tree, commit⟩ := onHead
  have ahead : Ancestor head update.nextCommit := by
    rw [commit]
    exact .inr (Ancestor.self _)
  have moved : update.nextCommit ≠ head := by
    rw [commit]
    exact next_ne_parent
  refine waiting.inevitably reached nofun ⟨_, _, _, .fastForward ahead moved, trivial⟩ ?_
  intro answer later past served willing t _ unchanged _
  have accepted : answer = .ref update.nextCommit := by
    cases served with
    | alreadyThere => rfl
    | fastForward => rfl
    | refused diverged => exact absurd ahead diverged
    | fails => exact absurd ahead willing
  have resolves : resume account (.patching update) answer = update.acknowledge := by
    simp [accepted, resume]
  rw [resolves]
  exact .now ⟨by simp [World.react, World.setWriter, Update.acknowledge],
    by simp [World.react, Update.acknowledge, unchanged, same, World.setWriter]⟩

theorem inevitably_committed {state : Snapshot} {nextJournal : Journal} {nextTree : Tree}
    (reached : Reachable account root world)
    (waiting : Waiting world w head (.commitPosted record state nextJournal nextTree)
      (.postCommit (commitMessage record) nextTree state.head))
    (inStep : state.head = head) (same : world.resolved = before.resolved) :
    Inevitably (Quiet account w) (Appended before w record) world := by
  refine waiting.inevitably reached nofun ⟨_, _, world.past, .postCommit _ _ _ 0, trivial⟩ ?_
  intro answer later past served willing t atLater unchanged next
  cases served with
  | fails => exact absurd willing not_false
  | postCommit _ _ _ stamp =>
    have waits := react_waiting t w (.patching ⟨record, state, nextJournal, nextTree,
      .next stamp (commitMessage record) nextTree state.head, 0⟩)
      (.patchRef (.next stamp (commitMessage record) nextTree state.head))
    rw [atLater] at waits
    exact inevitably_patched next waits ⟨stamp, _, _, by rw [inStep]⟩ (unchanged.trans same)

theorem inevitably_planned {state : Snapshot} {nextJournal : Journal}
    (reached : Reachable account root world)
    (waiting : Waiting world w head (.treePosted record state nextJournal)
      (.postTree state.baseTree nextJournal))
    (inStep : state.head = head) (same : world.resolved = before.resolved) :
    Inevitably (Quiet account w) (Appended before w record) world := by
  refine waiting.inevitably reached nofun ⟨_, _, world.past, .postTree _ _, trivial⟩ ?_
  intro answer later past served willing t atLater unchanged next
  cases served with
  | fails => exact absurd willing not_false
  | postTree =>
    have waits := react_waiting t w (.commitPosted record state nextJournal
      (overlay state.baseTree nextJournal))
      (.postCommit (commitMessage record) (overlay state.baseTree nextJournal) state.head)
    rw [atLater] at waits
    exact inevitably_committed next waits inStep (unchanged.trans same)

theorem inevitably_read {journal : Journal} (reached : Reachable account root world)
    (waiting : Waiting world w head (.readBlob record head head.tree) (.getBlob (some journal)))
    (owned : journal.account = account)
    (theirs : ∀ entry ∈ journal.records, entry.account = account)
    (fresh : ∀ entry ∈ journal.records, entry.clashes record = false)
    (same : world.resolved = before.resolved) :
    Inevitably (Quiet account w) (Appended before w record) world := by
  have provenance : ¬ (journal.account ≠ account ∨
      journal.records.any (fun entry => entry.account != account)) := by
    simpa [owned] using theirs
  have allowed : ¬ journal.records.any (fun entry => entry.clashes record) := by
    simpa using fresh
  refine waiting.inevitably reached nofun ⟨_, _, world.past, .getBlob _, trivial⟩ ?_
  intro answer later past served willing t atLater unchanged next
  cases served with
  | fails => exact absurd willing not_false
  | getBlob =>
    have plans : resume account (.readBlob record head head.tree) (.blob (some journal)) =
        .ask (.treePosted record ⟨head, head.tree, journal⟩
            { journal with records := journal.records ++ [record] })
          (.postTree head.tree { journal with records := journal.records ++ [record] }) := by
      simp only [resume, provenance, prepare, allowed]
      rfl
    rw [plans] at next ⊢
    have waits := react_waiting t w (.treePosted record ⟨head, head.tree, journal⟩
      { journal with records := journal.records ++ [record] })
      (.postTree head.tree { journal with records := journal.records ++ [record] })
    rw [atLater] at waits
    exact inevitably_planned next waits rfl (unchanged.trans same)

theorem entry_of_journal {c : Commit} {journal : Journal} (holds : c.journal = some journal) :
    Keyed.get? c.tree path = some (.blob (some journal)) := by
  unfold Commit.journal at holds
  split at holds
  · rename_i content found
    rw [found, holds]
  · cases holds

/-- From the first read of a snapshot on. -/
theorem inevitably_snapshot {journal : Journal} (reached : Reachable account root world)
    (waiting : Waiting world w head (.readRef record) .getRef) (holds : head.journal = some journal)
    (owned : journal.account = account)
    (theirs : ∀ entry ∈ journal.records, entry.account = account)
    (fresh : ∀ entry ∈ journal.records, entry.clashes record = false)
    (same : world.resolved = before.resolved) :
    Inevitably (Quiet account w) (Appended before w record) world := by
  refine waiting.inevitably reached nofun ⟨_, _, world.past, .getRef List.mem_cons_self, rfl⟩ ?_
  intro answer later past served willing t atLater unchanged next
  cases served with
  | fails => exact absurd willing not_false
  | @getRef sha held =>
    obtain rfl : sha = head := willing
    have waits := react_waiting t w (.readCommit record sha) (.getCommit sha)
    rw [atLater] at waits
    refine waits.inevitably next nofun ⟨_, _, _, .getCommit sha, trivial⟩ ?_
    intro answer later past served willing u atLater' unchanged' next
    cases served with
    | fails => exact absurd willing not_false
    | getCommit =>
      have waits := react_waiting u w (.readTree record sha sha.tree) (.getTree sha.tree)
      rw [atLater'] at waits
      refine waits.inevitably next nofun ⟨_, _, _, .getTree sha.tree false, rfl⟩ ?_
      intro answer later past served willing v atLater'' unchanged'' next
      cases served with
      | fails => exact absurd willing not_false
      | getTree _ truncated =>
        obtain rfl : truncated = false := willing
        have reads : resume account (.readTree record sha sha.tree) (.inventory false sha.tree) =
            .ask (.readBlob record sha sha.tree) (.getBlob (some journal)) := by
          simp only [resume, entry_of_journal holds]
          rfl
        rw [reads] at next ⊢
        have waits := react_waiting v w (.readBlob record sha sha.tree) (.getBlob (some journal))
        rw [atLater''] at waits
        exact inevitably_read next waits owned theirs fresh
          (unchanged''.trans (unchanged'.trans (unchanged.trans same)))

theorem succeeds_of_inStep (provisioned : Provisioned account root rootJournal)
    (reached : Reachable account root world) (idle : (world.writers w).phase = .idle)
    (ours : record.account = account) (inStep : InStep world w)
    (unrecorded : Unrecorded world record) : Succeeds account world w record := by
  have sound := reachable_sound reached
  obtain ⟨journal, holds, owned, -⟩ :=
    sound.history.readable provisioned world.head List.mem_cons_self
  have theirs := sound.history.theirs provisioned world.head List.mem_cons_self journal holds
  have fresh := unrecorded journal holds
  have start := reached.later (.single (.append w record idle ours))
  rw [Succeeds]
  cases remembered : (world.writers w).acknowledged with
  | none =>
    rw [remembered] at start
    exact inevitably_snapshot start (react_waiting world w (.readRef record) .getRef) holds owned
      theirs fresh rfl
  | some state =>
    have known := (sound.writers w).acknowledged state remembered
    have atHead := inStep state remembered
    obtain rfl : journal = state.journal :=
      Option.some.inj (holds.symm.trans (atHead ▸ known.journal))
    have allowed : ¬ state.journal.records.any (fun entry => entry.clashes record) := by
      simpa using fresh
    have plans : begin (some state) record = .ask
        (.treePosted record state
          { state.journal with records := state.journal.records ++ [record] })
        (.postTree state.baseTree
          { state.journal with records := state.journal.records ++ [record] }) := by
      simp only [begin, prepare, allowed]
      rfl
    rw [remembered, plans] at start
    rw [plans]
    exact inevitably_planned start (react_waiting world w _ _) atHead rfl

end

/-! ### Out of step, or recorded already -/

/-- An undisturbed run of the append that ends without its promise resolved. -/
def Rejects (account : String) (world : World ω) (w : ω) (record : AccountRecord) : Prop :=
  ∃ t, Leads (Quiet account w) (world.react w (begin (world.writers w).acknowledged record)) t ∧
    (t.writers w).phase = .idle ∧ t.resolved = world.resolved

section
variable {world : World ω} {w : ω} {record : AccountRecord}

theorem not_succeeds_of_rejects (rejects : Rejects account world w record) :
    ¬ Succeeds account world w record := by
  obtain ⟨t, run, idle, unresolved⟩ := rejects
  refine not_inevitably_of_stuck ?_ run ?_ ?_
  · rintro u v ⟨ended, _⟩ quiet
    cases quiet with
    | exchange busy => exact busy ended
  · intro u quiet
    cases quiet with
    | exchange busy => exact busy idle
  · rintro ⟨_, resolved⟩
    have := congrArg List.length (unresolved.symm.trans resolved)
    simp at this

/-- A fresh snapshot already holds a record of the attempt and kind. -/
theorem rejects_of_recorded {journal : Journal} (new : (world.writers w).acknowledged = none)
    (holds : world.head.journal = some journal)
    (recorded : ∃ entry ∈ journal.records, entry.clashes record = true) :
    Rejects account world w record := by
  rw [Rejects, new]
  obtain ⟨a, toA, atRef, sameA⟩ := (react_waiting world w (.readRef record) .getRef).quiet_ask account
    (.readCommit record world.head) (.getCommit world.head) (fun same => by cases same) (.getRef List.mem_cons_self) rfl rfl
  obtain ⟨b, toB, atCommit, sameB⟩ := atRef.quiet_ask account
    (.readTree record world.head world.head.tree) (.getTree world.head.tree) (fun same => by cases same)
    (.getCommit world.head) trivial rfl
  obtain ⟨c, toC, atTree, sameC⟩ := atCommit.quiet_ask account
    (.readBlob record world.head world.head.tree) (.getBlob (some journal)) (fun same => by cases same)
    (.getTree world.head.tree false) rfl (by simp only [resume, entry_of_journal holds]; rfl)
  obtain ⟨entry, member, clash⟩ := recorded
  have refused : journal.records.any (fun entry => entry.clashes record) = true :=
    List.any_eq_true.mpr ⟨entry, member, clash⟩
  obtain ⟨d, toD, idle, sameD⟩ := atTree.quiet_throw account (fun same => by cases same)
    (.getBlob (some journal)) trivial (by
      simp only [resume, prepare, refused, if_true]
      split <;> rfl)
  refine ⟨d, ((toA.trans toB).trans toC).trans toD, idle, ?_⟩
  rw [sameD, sameC, sameB, sameA]
  rfl

/-- The remembered journal holds one. -/
theorem rejects_of_remembered {state : Snapshot}
    (remembered : (world.writers w).acknowledged = some state)
    (recorded : state.journal.records.any (fun entry => entry.clashes record) = true) :
    Rejects account world w record := by
  rw [Rejects, remembered]
  simp only [begin, prepare, recorded, if_true]
  exact ⟨_, .refl, by simp [World.react, World.setWriter], rfl⟩

/-- The commit is on the remembered head, which the branch has left behind. -/
theorem rejects_of_left_behind {state : Snapshot} (reached : Reachable account root world)
    (remembered : (world.writers w).acknowledged = some state) (left : state.head ≠ world.head) :
    Rejects account world w record := by
  have sound := reachable_sound reached
  have known := (sound.writers w).acknowledged state remembered
  by_cases refused : state.journal.records.any (fun entry => entry.clashes record) = true
  · exact rejects_of_remembered remembered refused
  · rw [Rejects, remembered]
    let nextJournal : Journal := { state.journal with records := state.journal.records ++ [record] }
    let nextTree := overlay state.baseTree nextJournal
    -- some second of the clock is not the one the head was written in
    obtain ⟨stamp, other⟩ : ∃ stamp, Commit.next stamp (commitMessage record) nextTree state.head ≠
        world.head := by
      cases here : world.head with
      | provisioned tree => exact ⟨0, fun same => by cases same⟩
      | next written message tree parent =>
        refine ⟨written + 1, fun same => ?_⟩
        simp only [Commit.next.injEq] at same
        omega
    let nextCommit := Commit.next stamp (commitMessage record) nextTree state.head
    have diverged : ¬ Ancestor world.head nextCommit := by
      rintro (same | ahead)
      · exact other same.symm
      · exact left ((sound.history.ancestor_head known.head).antisymm ahead)
    have plans : begin (some state) record = .ask (.treePosted record state nextJournal)
        (.postTree state.baseTree nextJournal) := by
      simp only [begin, prepare, refused]
      rfl
    rw [plans]
    obtain ⟨a, toA, atPost, sameA⟩ := (react_waiting world w (.treePosted record state nextJournal)
      (.postTree state.baseTree nextJournal)).quiet_ask account
      (.commitPosted record state nextJournal nextTree)
      (.postCommit (commitMessage record) nextTree state.head) (fun same => by cases same) (.postTree _ _) trivial rfl
    obtain ⟨b, toB, atPatch, sameB⟩ := atPost.quiet_ask account
      (.patching ⟨record, state, nextJournal, nextTree, nextCommit, 0⟩)
      (.patchRef nextCommit) (fun same => by cases same) (.postCommit _ _ _ stamp) trivial rfl
    obtain ⟨c, toC, atRef, sameC⟩ := atPatch.quiet_ask account
      (.observing ⟨record, state, nextJournal, nextTree, nextCommit, 0⟩) .getRef (fun same => by cases same) (.refused diverged) diverged rfl
    obtain ⟨d, toD, idle, sameD⟩ := atRef.quiet_throw account (fun same => by cases same)
      (.getRef List.mem_cons_self) rfl (by
        simp only [resume]
        rw [if_neg (Ne.symm other), if_pos (Ne.symm left)])
    refine ⟨d, ((toA.trans toB).trans toC).trans toD, idle, ?_⟩
    rw [sameD, sameC, sameB, sameA]
    rfl

end

/-! ### A ref update that landed unacknowledged -/

section
variable {world : World ω} {w : ω} {record : AccountRecord}

/-- The ref update lands, and its answer and the read that would settle it are lost. -/
theorem lost_update {head : Commit} {update : Update}
    (waiting : Waiting world w head (.patching update) (.patchRef update.nextCommit))
    (first : update.attempt = 0) (ahead : Ancestor head update.nextCommit)
    (moved : update.nextCommit ≠ head) :
    ∃ t : World ω, Leads (Step account) world t ∧ t.head = update.nextCommit ∧
      t.resolved = world.resolved ∧ (t.writers w).phase = .idle ∧
      (t.writers w).acknowledged = (world.writers w).acknowledged := by
  obtain ⟨rfl, phase, sent⟩ := waiting
  let landed : World ω :=
    world.serve (w, (world.writers w).calls) (.ref update.nextCommit) update.nextCommit
      (world.head :: world.past)
  have lands : Step account world landed := .serve sent (.fastForward ahead moved)
  have waits : Waiting landed w update.nextCommit (.patching update)
      (.patchRef update.nextCommit) := ⟨rfl, phase, sent⟩
  have again : resume account (.patching update) .error = .ask (.observing update) .getRef := by
    simp [resume, first]
  obtain ⟨t, toT, atRef, sameT, keptT⟩ := waits.ask account (.observing update) .getRef
    ⟨_, .fails _⟩ again
  obtain ⟨u, atU, sameU, writers, toU⟩ := atRef.exchange account .error ⟨_, .fails _⟩
  refine ⟨_, (Relation.ReflTransGen.single lands).trans (toT.trans toU), ?_⟩
  refine ⟨atU, sameU.trans sameT, ?_, ?_⟩
  · simp [resume, World.react, World.setWriter]
  · have kept : (t.writers w).acknowledged = (world.writers w).acknowledged := keptT
    simpa [resume, World.react, World.setWriter, writers] using kept

/-- Of an append by a writer in step with the branch. -/
theorem lost_append {state : Snapshot} (remembered : (world.writers w).acknowledged = some state)
    (inStep : state.head = world.head)
    (fresh : ∀ entry ∈ state.journal.records, entry.clashes record = false) :
    ∃ t : World ω, Leads (Step account)
        (world.react w (begin (world.writers w).acknowledged record)) t ∧
      t.head = .next 0 (commitMessage record) (overlay state.baseTree
        { state.journal with records := state.journal.records ++ [record] }) state.head ∧
      t.resolved = world.resolved ∧ (t.writers w).phase = .idle ∧
      (t.writers w).acknowledged = some state := by
  let nextJournal : Journal := { state.journal with records := state.journal.records ++ [record] }
  let nextTree := overlay state.baseTree nextJournal
  let nextCommit := Commit.next 0 (commitMessage record) nextTree state.head
  have allowed : ¬ state.journal.records.any (fun entry => entry.clashes record) := by
    simpa using fresh
  have plans : begin (some state) record = .ask (.treePosted record state nextJournal)
      (.postTree state.baseTree nextJournal) := by
    simp only [begin, prepare, allowed]
    rfl
  rw [remembered, plans]
  have starts := react_waiting world w (.treePosted record state nextJournal)
    (.postTree state.baseTree nextJournal)
  obtain ⟨a, toA, atPost, sameA, keptA⟩ := starts.ask account
    (.commitPosted record state nextJournal nextTree)
    (.postCommit (commitMessage record) nextTree state.head) ⟨_, .postTree _ _⟩ rfl
  obtain ⟨b, toB, atPatch, sameB, keptB⟩ := atPost.ask account
    (.patching ⟨record, state, nextJournal, nextTree, nextCommit, 0⟩) (.patchRef nextCommit)
    ⟨_, .postCommit _ _ _ 0⟩ rfl
  rw [← inStep] at atPatch
  obtain ⟨t, toT, landed, sameT, idle, keptT⟩ := lost_update atPatch rfl
    (.inr (Ancestor.self _)) next_ne_parent
  refine ⟨t, (toA.trans toB).trans toT, landed, ?_, idle, ?_⟩
  · rw [sameT, sameB, sameA]
    rfl
  · rw [keptT, keptB, keptA]
    simpa [World.react, World.setWriter] using remembered

end

end GithubJournal
