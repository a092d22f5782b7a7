import SandboxBenchmarks.GithubJournal

/-!
# Safety of the account branch

The ref only ever moves to a commit that extends the current head by one
record, because every commit a writer patches in names a head it has seen, and
a fast-forward leaves no other parent. Everything a writer keeps between two
requests therefore stays true of the branch, however late an answer arrives.
-/

namespace GithubJournal

open AccountJournal

/-! ### Ancestry -/

def Commit.depth : Commit → Nat
  | .provisioned _ => 0
  | .next _ _ _ parent => parent.depth + 1

theorem Ancestor.self (c : Commit) : Ancestor c c := by
  cases c with
  | provisioned tree => rfl
  | next stamp message tree parent => exact .inl rfl

theorem Ancestor.depth_le {a c : Commit} (h : Ancestor a c) : a.depth ≤ c.depth := by
  induction c with
  | provisioned tree =>
    cases h
    exact Nat.le_refl _
  | next stamp message tree parent ih =>
    rcases h with rfl | h
    · exact Nat.le_refl _
    · have := ih h
      simp only [Commit.depth]
      omega

theorem Ancestor.trans {a b c : Commit} (first : Ancestor a b) (second : Ancestor b c) :
    Ancestor a c := by
  induction c with
  | provisioned tree =>
    cases second
    exact first
  | next stamp message tree parent ih =>
    rcases second with rfl | second
    · exact first
    · exact .inr (ih second)

theorem Ancestor.antisymm {a c : Commit} (h : Ancestor a c) (back : Ancestor c a) : a = c := by
  cases c with
  | provisioned tree => exact h
  | next stamp message tree parent =>
    rcases h with h | h
    · exact h
    · have low := h.depth_le
      have high := back.depth_le
      simp only [Commit.depth] at high
      omega

/-! ### The branch history -/

@[simp] theorem journal_overlay {stamp : Nat} {message : String} {base : Tree} {journal : Journal}
    {parent : Commit} :
    (Commit.next stamp message (overlay base journal) parent).journal = some journal := by
  simp [Commit.journal, Commit.tree, overlay]

/-- `state` is what a reader sees at one of the heads. -/
structure Snapshot.Known (account : String) (heads : List Commit) (state : Snapshot) : Prop where
  head : state.head ∈ heads
  tree : state.baseTree = state.head.tree
  journal : state.head.journal = some state.journal
  owned : state.journal.account = account

/-- One record was appended between two commits, and nothing else was touched. -/
structure Extends (account : String) (later : Commit) (state : Snapshot) (record : AccountRecord) :
    Prop where
  commit : ∃ stamp message, later = .next stamp message
    (overlay state.baseTree { state.journal with records := state.journal.records ++ [record] })
    state.head
  ours : record.account = account
  fresh : ∀ entry ∈ state.journal.records, entry.clashes record = false

/-- The heads a ref has had, latest first. -/
inductive History (account : String) (root : Commit) : List Commit → Prop
  | start : History account root [root]
  | extend {head later : Commit} {past : List Commit} {state : Snapshot} {record : AccountRecord}
      (before : History account root (head :: past)) (at_head : state.head = head)
      (known : state.Known account (head :: past)) (one : Extends account later state record) :
      History account root (later :: head :: past)

theorem Extends.journal {account : String} {later : Commit} {state : Snapshot}
    {record : AccountRecord} (h : Extends account later state record) :
    later.journal =
      some { state.journal with records := state.journal.records ++ [record] } := by
  obtain ⟨stamp, message, rfl⟩ := h.commit
  exact journal_overlay

theorem clashes_comm (a b : AccountRecord) : a.clashes b = b.clashes a := by
  simp only [AccountRecord.clashes, BEq.comm (a := a.attempt), BEq.comm (a := a.kind)]

theorem clashes_self (a : AccountRecord) : a.clashes a = true := by
  simp [AccountRecord.clashes]

section history
variable {account : String} {root : Commit} {rootJournal : Journal}

theorem History.ancestors {heads : List Commit} (h : History account root heads) :
    heads.Pairwise (fun later earlier => Ancestor earlier later) := by
  induction h with
  | start => exact List.pairwise_singleton _ _
  | @extend head later past state record before at_head known one ih =>
    obtain ⟨stamp, message, rfl⟩ := one.commit
    refine List.pairwise_cons.mpr ⟨?_, ih⟩
    intro c hc
    rw [at_head]
    rcases List.mem_cons.mp hc with rfl | hc
    · exact .inr (Ancestor.self _)
    · exact .inr (List.rel_of_pairwise_cons ih hc)

theorem History.ancestor_head {head c : Commit} {past : List Commit}
    (h : History account root (head :: past)) (hc : c ∈ head :: past) : Ancestor c head := by
  rcases List.mem_cons.mp hc with rfl | hc
  · exact Ancestor.self _
  · exact List.rel_of_pairwise_cons h.ancestors hc

/-- A fast-forward to a commit that extends some head extends the current one. -/
theorem History.parent_is_head {head later : Commit} {past : List Commit} {state : Snapshot}
    {record : AccountRecord} (h : History account root (head :: past))
    (known : state.head ∈ head :: past) (one : Extends account later state record)
    (ahead : Ancestor head later) (moved : later ≠ head) : state.head = head := by
  obtain ⟨stamp, message, rfl⟩ := one.commit
  rcases ahead with rfl | ahead
  · exact absurd rfl moved
  · exact (h.ancestor_head known).antisymm ahead

theorem History.single_parent {heads : List Commit} (h : History account root heads) :
    heads.IsChain (fun later earlier =>
      ∃ stamp message tree, later = .next stamp message tree earlier) := by
  induction h with
  | start => exact .singleton _
  | extend before at_head known one ih =>
    obtain ⟨stamp, message, rfl⟩ := one.commit
    exact List.isChain_cons_cons.mpr ⟨⟨stamp, message, _, by rw [at_head]⟩, ih⟩

theorem History.root_last {heads : List Commit} (h : History account root heads) :
    heads.getLast? = some root := by
  induction h with
  | start => rfl
  | extend before at_head known one ih => rw [List.getLast?_cons_cons, ih]

/-- Every head holds the account's journal, without two records of one kind for an attempt. -/
theorem History.readable (provisioned : Provisioned account root rootJournal)
    {heads : List Commit} (h : History account root heads) :
    ∀ head ∈ heads, ∃ journal, head.journal = some journal ∧ journal.account = account ∧
      NoClash journal.records := by
  induction h with
  | start =>
    intro head mem
    rcases List.mem_singleton.mp mem with rfl
    exact ⟨rootJournal, provisioned.holds, provisioned.owned, provisioned.noClash⟩
  | @extend head later past state record before at_head known one ih =>
    intro c mem
    rcases List.mem_cons.mp mem with rfl | mem
    · obtain ⟨journal, holds, owned, noClash⟩ := ih state.head known.head
      obtain rfl : state.journal = journal := by
        simpa only [holds, Option.some.injEq, eq_comm] using known.journal
      refine ⟨_, one.journal, owned, ?_⟩
      refine List.pairwise_append.mpr ⟨noClash, List.pairwise_singleton _ _, ?_⟩
      intro entry hentry last hlast
      rcases List.mem_singleton.mp hlast with rfl
      exact one.fresh entry hentry
    · exact ih c mem

/-- Later heads keep every record where it was. -/
theorem History.grows {heads : List Commit} (h : History account root heads) :
    heads.Pairwise (fun later earlier => ∀ journal, earlier.journal = some journal →
      ∃ after, later.journal = some after ∧ journal.records <+: after.records) := by
  induction h with
  | start => exact List.pairwise_singleton _ _
  | @extend head later past state record before at_head known one ih =>
    have last : ∀ journal, head.journal = some journal →
        ∃ after, later.journal = some after ∧ journal.records <+: after.records := by
      intro journal holds
      obtain rfl : state.journal = journal := by
        simpa only [at_head, holds, Option.some.injEq, eq_comm] using known.journal
      exact ⟨_, one.journal, List.prefix_append _ _⟩
    refine List.pairwise_cons.mpr ⟨?_, ih⟩
    intro c hc
    rcases List.mem_cons.mp hc with rfl | hc
    · exact last
    · intro journal holds
      obtain ⟨middle, atHead, first⟩ := List.rel_of_pairwise_cons ih hc journal holds
      obtain ⟨after, atLater, second⟩ := last middle atHead
      exact ⟨after, atLater, first.trans second⟩

theorem History.grows_to_head {head c : Commit} {past : List Commit}
    (h : History account root (head :: past)) (hc : c ∈ head :: past) {journal : Journal}
    (holds : c.journal = some journal) :
    ∃ after, head.journal = some after ∧ journal.records <+: after.records := by
  rcases List.mem_cons.mp hc with rfl | hc
  · exact ⟨journal, holds, List.prefix_rfl⟩
  · exact List.rel_of_pairwise_cons h.grows hc journal holds

end history

/-- In a journal without clashes a record is the only one of its kind for its attempt. -/
theorem NoClash.exactly_once {records : List AccountRecord} {record : AccountRecord}
    (h : NoClash records) (mem : record ∈ records) :
    records.filter (fun entry => entry.clashes record) = [record] := by
  induction records with
  | nil => cases mem
  | cons first rest ih =>
    obtain ⟨apart, h⟩ := List.pairwise_cons.mp h
    rcases List.mem_cons.mp mem with rfl | mem
    · have others : rest.filter (fun entry => entry.clashes record) = [] := by
        refine List.filter_eq_nil_iff.mpr ?_
        intro entry hentry
        rw [clashes_comm, apart entry hentry]
        exact Bool.false_ne_true
      simp only [List.filter_cons, clashes_self, if_true, others]
    · have clear : first.clashes record = false := apart record mem
      rw [List.filter_cons_of_neg (by simp [clear]), ih h mem]

/-! ### What the writers and the messages in flight know -/

section knowledge
variable {account : String} {heads : List Commit}

/-- An append that passed its checks. -/
structure Planned (account : String) (heads : List Commit) (record : AccountRecord)
    (state : Snapshot) (nextJournal : Journal) : Prop where
  known : state.Known account heads
  ours : record.account = account
  fresh : ∀ entry ∈ state.journal.records, entry.clashes record = false
  next : nextJournal = { state.journal with records := state.journal.records ++ [record] }

structure Update.Sound (account : String) (heads : List Commit) (update : Update) : Prop where
  planned : Planned account heads update.record update.state update.nextJournal
  tree : update.nextTree = overlay update.state.baseTree update.nextJournal
  commit : ∃ stamp message,
    update.nextCommit = .next stamp message update.nextTree update.state.head

def Phase.Sound (account : String) (heads : List Commit) : Phase → Prop
  | .idle => True
  | .readRef record => record.account = account
  | .readCommit record head => record.account = account ∧ head ∈ heads
  | .readTree record head baseTree | .readBlob record head baseTree =>
    record.account = account ∧ head ∈ heads ∧ baseTree = head.tree
  | .treePosted record state nextJournal => Planned account heads record state nextJournal
  | .commitPosted record state nextJournal nextTree =>
    Planned account heads record state nextJournal ∧
      nextTree = overlay state.baseTree nextJournal
  | .patching update | .observing update => update.Sound account heads

/-- The request a phase has in flight. -/
def Phase.Awaits : Phase → Operation → Prop
  | .idle, _ => False
  | .readRef _, op => op = .getRef
  | .readCommit _ head, op => op = .getCommit head
  | .readTree _ _ baseTree, op => op = .getTree baseTree
  | .readBlob _ _ baseTree, op =>
    ∃ content, op = .getBlob content ∧ Keyed.get? baseTree path = some (.blob content)
  | .treePosted _ state nextJournal, op => op = .postTree state.baseTree nextJournal
  | .commitPosted record state _ nextTree, op =>
    op = .postCommit (commitMessage record) nextTree state.head
  | .patching update, op => op = .patchRef update.nextCommit
  | .observing _, op => op = .getRef

/-- Answers say the truth about what was asked, at the latest when they arrive. -/
def Fits (heads : List Commit) : Operation → Answer → Prop
  | _, .error => True
  | .getRef, .ref sha => sha ∈ heads
  | .getCommit sha, .commit tree => tree = sha.tree
  | .getTree sha, .inventory _ entries => entries = sha
  | .getBlob sha, .blob content => content = sha
  | .postTree base journal, .createdTree sha => sha = overlay base journal
  | .postCommit message tree parent, .createdCommit sha =>
    ∃ stamp, sha = .next stamp message tree parent
  | .patchRef sha, .ref moved => moved = sha ∧ sha ∈ heads
  | _, _ => False

/-- A patch is only ever asked for a commit that extends a head by one record. -/
def Operation.Careful (account : String) (heads : List Commit) : Operation → Prop
  | .patchRef sha => ∃ state record, Snapshot.Known account heads state ∧
      Extends account sha state record
  | _ => True

def Reaction.Sound (account : String) (heads : List Commit) : Reaction → Prop
  | .ask phase op => phase.Sound account heads ∧ phase.Awaits op ∧ op.Careful account heads
  | .resolve record state => state.Known account heads ∧ record ∈ state.journal.records
  | .throw => True

/-! Knowledge outlives the growth of the branch. -/

variable {more : List Commit} (grow : heads ⊆ more)
include grow

theorem Snapshot.Known.mono {state : Snapshot} (h : state.Known account heads) :
    state.Known account more :=
  { h with head := grow h.head }

theorem Planned.mono {record : AccountRecord} {state : Snapshot} {nextJournal : Journal}
    (h : Planned account heads record state nextJournal) :
    Planned account more record state nextJournal :=
  { h with known := h.known.mono grow }

theorem Phase.Sound.mono {phase : Phase} (h : phase.Sound account heads) :
    phase.Sound account more := by
  cases phase with
  | idle => trivial
  | readRef record => exact h
  | readCommit record head => exact ⟨h.1, grow h.2⟩
  | readTree record head baseTree => exact ⟨h.1, grow h.2.1, h.2.2⟩
  | readBlob record head baseTree => exact ⟨h.1, grow h.2.1, h.2.2⟩
  | treePosted record state nextJournal => exact Planned.mono grow h
  | commitPosted record state nextJournal nextTree => exact ⟨h.1.mono grow, h.2⟩
  | patching update => exact ⟨h.planned.mono grow, h.tree, h.commit⟩
  | observing update => exact ⟨h.planned.mono grow, h.tree, h.commit⟩

theorem Fits.mono {op : Operation} {answer : Answer} (h : Fits heads op answer) :
    Fits more op answer := by
  cases answer with
  | error => cases op <;> trivial
  | ref sha =>
    cases op with
    | getRef => exact grow h
    | patchRef asked => exact ⟨h.1, grow h.2⟩
    | _ => exact h
  | _ => cases op <;> exact h

theorem Operation.Careful.mono {op : Operation} (h : op.Careful account heads) :
    op.Careful account more := by
  cases op with
  | patchRef sha =>
    obtain ⟨state, record, known, one⟩ := h
    exact ⟨state, record, known.mono grow, one⟩
  | _ => trivial

end knowledge

/-! ### One await at a time -/

section writer
variable {account : String} {heads : List Commit}

theorem prepare_sound {record : AccountRecord} {state : Snapshot}
    (known : state.Known account heads) (ours : record.account = account) :
    (prepare record state).Sound account heads := by
  unfold prepare
  split
  · trivial
  · rename_i fresh
    refine ⟨⟨known, ours, ?_, rfl⟩, rfl, trivial⟩
    simpa using fresh

theorem begin_sound {acknowledged : Option Snapshot} {record : AccountRecord}
    (known : ∀ state, acknowledged = some state → state.Known account heads)
    (ours : record.account = account) : (begin acknowledged record).Sound account heads := by
  cases acknowledged with
  | none => exact ⟨ours, rfl, trivial⟩
  | some state => exact prepare_sound (known state rfl) ours

theorem Update.Sound.extends {update : Update} (h : update.Sound account heads) :
    Extends account update.nextCommit update.state update.record := by
  obtain ⟨stamp, message, commit⟩ := h.commit
  refine ⟨⟨stamp, message, ?_⟩, h.planned.ours, h.planned.fresh⟩
  rw [commit, h.tree, h.planned.next]

theorem Update.Sound.careful {update : Update} (h : update.Sound account heads) :
    (Operation.patchRef update.nextCommit).Careful account heads :=
  ⟨update.state, update.record, h.planned.known, h.extends⟩

/-- Once its commit has been a head, the update is what the branch holds there. -/
theorem Update.Sound.acknowledge {update : Update} (h : update.Sound account heads)
    (landed : update.nextCommit ∈ heads) : update.acknowledge.Sound account heads := by
  obtain ⟨stamp, message, commit⟩ := h.commit
  refine ⟨⟨landed, ?_, ?_, ?_⟩, ?_⟩
  · simp only [commit, Commit.tree]
  · simp only [h.extends.journal, h.planned.next]
  · simp only [h.planned.next, h.planned.known.owned]
  · simp only [h.planned.next, List.mem_append, List.mem_singleton, or_true]

/-- Every continuation, on the truthful answer to the request in flight, is sound. -/
theorem resume_sound {phase : Phase} {op : Operation} {answer : Answer}
    (sound : phase.Sound account heads) (awaits : phase.Awaits op)
    (fits : Fits heads op answer) : (resume account phase answer).Sound account heads := by
  cases phase with
  | idle => cases awaits
  | readRef record =>
    cases awaits
    cases answer with
    | ref sha => exact ⟨⟨sound, fits⟩, rfl, trivial⟩
    | _ => trivial
  | readCommit record head =>
    cases awaits
    cases answer with
    | commit tree => exact ⟨⟨sound.1, sound.2, fits⟩, rfl, trivial⟩
    | _ => trivial
  | readTree record head baseTree =>
    cases awaits
    cases answer with
    | inventory truncated entries =>
      cases fits
      simp only [resume]
      split
      · trivial
      · split
        · rename_i content found
          exact ⟨sound, ⟨content, rfl, found⟩, trivial⟩
        · trivial
    | _ => trivial
  | readBlob record head baseTree =>
    obtain ⟨content, rfl, found⟩ := awaits
    cases answer with
    | blob read =>
      cases fits
      cases content with
      | none => trivial
      | some journal =>
        simp only [resume]
        split
        · trivial
        · rename_i provenance
          obtain ⟨ours, seen, rfl⟩ := sound
          refine prepare_sound ⟨seen, rfl, ?_, ?_⟩ ours
          · simp only [Commit.journal, found]
          · exact not_not.mp fun wrong => provenance (.inl wrong)
    | _ => trivial
  | treePosted record state nextJournal =>
    cases awaits
    cases answer with
    | createdTree nextTree => exact ⟨⟨sound, fits⟩, rfl, trivial⟩
    | _ => trivial
  | commitPosted record state nextJournal nextTree =>
    cases awaits
    cases answer with
    | createdCommit nextCommit =>
      obtain ⟨stamp, commit⟩ := fits
      have update : Update.Sound account heads ⟨record, state, nextJournal, nextTree, nextCommit, 0⟩ :=
        ⟨sound.1, sound.2, stamp, _, commit⟩
      exact ⟨update, rfl, update.careful⟩
    | _ => trivial
  | patching update =>
    cases awaits
    cases answer with
    | ref sha =>
      obtain ⟨rfl, landed⟩ := fits
      simpa only [resume, ne_eq, not_true_eq_false, if_false] using
        Update.Sound.acknowledge sound landed
    | error =>
      simp only [resume]
      split
      · trivial
      · exact ⟨sound, rfl, trivial⟩
    | _ => trivial
  | observing update =>
    cases awaits
    cases answer with
    | ref observed =>
      simp only [resume]
      split
      · rename_i same
        exact Update.Sound.acknowledge sound (same ▸ fits)
      · split
        · trivial
        · exact ⟨⟨sound.planned, sound.tree, sound.commit⟩, rfl, sound.careful⟩
    | _ => trivial

end writer

/-! ### The whole system -/

section system
variable {ω : Type} {account : String} {root : Commit} {rootJournal : Journal}

abbrev World.heads (world : World ω) : List Commit := world.head :: world.past

/-- What holds of one writer between any two steps. -/
structure Writer.Sound (account : String) (heads : List Commit)
    (requests : List (Call ω × Operation)) (w : ω) (writer : Writer) : Prop where
  counted : ∀ n op, ((w, n), op) ∈ requests → n ≤ writer.calls
  acknowledged : ∀ state, writer.acknowledged = some state → state.Known account heads
  phase : writer.phase.Sound account heads
  awaiting : writer.phase = .idle ∨
    ∃ op, ((w, writer.calls), op) ∈ requests ∧ writer.phase.Awaits op

/-- What holds of the messages between any two steps. -/
structure World.Sound (account : String) (root : Commit) (world : World ω) : Prop where
  history : History account root world.heads
  writers : ∀ w, (world.writers w).Sound account world.heads world.requests w
  single : ∀ call op op', (call, op) ∈ world.requests → (call, op') ∈ world.requests → op = op'
  careful : ∀ call op, (call, op) ∈ world.requests → op.Careful account world.heads
  answered : ∀ call answer, (call, answer) ∈ world.answers →
    ∃ op, (call, op) ∈ world.requests ∧ Fits world.heads op answer
  resolved : ∀ record ∈ world.resolved, ∃ state, Snapshot.Known account world.heads state ∧
    record ∈ state.journal.records

theorem initial_sound : (initial root : World ω).Sound account root where
  history := .start
  writers _ :=
    { counted := fun _ _ sent => nomatch sent
      acknowledged := fun _ known => nomatch known
      phase := trivial
      awaiting := .inl rfl }
  single _ _ _ sent := nomatch sent
  careful _ _ sent := nomatch sent
  answered _ _ arrived := nomatch arrived
  resolved _ mem := nomatch mem

theorem Writer.Sound.mono {heads more : List Commit} {requests : List (Call ω × Operation)}
    {w : ω} {writer : Writer} (h : writer.Sound account heads requests w) (grow : heads ⊆ more) :
    writer.Sound account more requests w :=
  { h with
    acknowledged := fun state known => (h.acknowledged state known).mono grow
    phase := h.phase.mono grow }

/-- Another writer's request is nothing to this one. -/
theorem Writer.Sound.others_ask {heads : List Commit} {requests : List (Call ω × Operation)}
    {w v : ω} {writer : Writer} (h : writer.Sound account heads requests v) (apart : v ≠ w)
    (n : Nat) (op : Operation) : writer.Sound account heads (((w, n), op) :: requests) v where
  counted m asked sent := by
    rcases List.mem_cons.mp sent with same | sent
    · exact absurd (Prod.mk.inj (Prod.mk.inj same).1).1 apart
    · exact h.counted m asked sent
  acknowledged := h.acknowledged
  phase := h.phase
  awaiting := h.awaiting.imp_right fun ⟨asked, sent, awaits⟩ =>
    ⟨asked, List.mem_cons_of_mem _ sent, awaits⟩

variable [DecidableEq ω]

theorem forall_setWriter {world : World ω} {w : ω} {writer : Writer} {P : ω → Writer → Prop}
    (own : P w writer) (others : ∀ v, v ≠ w → P v (world.writers v)) (v : ω) :
    P v ((world.setWriter w writer).writers v) := by
  simp only [World.setWriter]
  split
  · rename_i same
    exact same ▸ own
  · rename_i apart
    exact others v apart

/-- A sound reaction of one writer keeps the whole system sound. -/
theorem World.Sound.react {world : World ω} (h : world.Sound account root) (w : ω)
    {reaction : Reaction} (sound : reaction.Sound account world.heads) :
    (world.react w reaction).Sound account root := by
  have mine := h.writers w
  cases reaction with
  | throw =>
    refine { h with writers := forall_setWriter ?_ fun v _ => h.writers v }
    exact { mine with phase := trivial, awaiting := .inl rfl }
  | resolve record state =>
    refine { h with
      writers := forall_setWriter ?_ fun v _ => h.writers v
      resolved := ?_ }
    · refine { mine with acknowledged := ?_, phase := trivial, awaiting := .inl rfl }
      rintro _ ⟨⟩
      exact sound.1
    · intro entry mem
      rcases List.mem_cons.mp mem with rfl | mem
      · exact ⟨state, sound⟩
      · exact h.resolved entry mem
  | ask phase op =>
    obtain ⟨phaseSound, awaits, careful⟩ := sound
    have fresh : ∀ asked, ((w, (world.writers w).calls + 1), asked) ∉ world.requests := by
      intro asked sent
      have := mine.counted _ asked sent
      omega
    refine { h with
      writers := forall_setWriter ?_ fun v apart => (h.writers v).others_ask apart _ op
      single := ?_, careful := ?_, answered := ?_ }
    · refine ⟨?_, mine.acknowledged, phaseSound, .inr ⟨op, List.mem_cons_self, awaits⟩⟩
      intro n asked sent
      rcases List.mem_cons.mp sent with same | sent
      · exact Nat.le_of_eq (Prod.mk.inj (Prod.mk.inj same).1).2
      · exact Nat.le_succ_of_le (mine.counted n asked sent)
    · intro call asked other sent sent'
      rcases List.mem_cons.mp sent with same | sent <;>
        rcases List.mem_cons.mp sent' with same' | sent'
      · exact (Prod.mk.inj same).2.trans (Prod.mk.inj same').2.symm
      · exact absurd ((Prod.mk.inj same).1 ▸ sent') (fresh other)
      · exact absurd ((Prod.mk.inj same').1 ▸ sent) (fresh asked)
      · exact h.single call asked other sent sent'
    · intro call asked sent
      rcases List.mem_cons.mp sent with same | sent
      · exact (Prod.mk.inj same).2 ▸ careful
      · exact h.careful call asked sent
    · intro call answer arrived
      obtain ⟨asked, sent, fits⟩ := h.answered call answer arrived
      exact ⟨asked, List.mem_cons_of_mem _ sent, fits⟩

/-- What the server does to the heads: nothing, or one record more. -/
theorem Serves.grows {head : Commit} {past : List Commit} {op : Operation} {answer : Answer}
    {head' : Commit} {past' : List Commit} (h : Serves head past op answer head' past')
    (history : History account root (head :: past)) (careful : op.Careful account (head :: past)) :
    History account root (head' :: past') ∧ head :: past <:+ head' :: past' ∧
      Fits (head' :: past') op answer := by
  cases h with
  | getRef held => exact ⟨history, List.suffix_rfl, held⟩
  | postCommit message tree parent stamp => exact ⟨history, List.suffix_rfl, stamp, rfl⟩
  | alreadyThere => exact ⟨history, List.suffix_rfl, rfl, List.mem_cons_self⟩
  | fastForward ahead moved =>
    obtain ⟨state, record, known, one⟩ := careful
    have parent := history.parent_is_head known.head one ahead moved
    exact ⟨.extend history parent known one, List.suffix_cons _ _, rfl, List.mem_cons_self⟩
  | refused diverged => exact ⟨history, List.suffix_rfl, trivial⟩
  | fails => exact ⟨history, List.suffix_rfl, by cases op <;> trivial⟩
  | _ => exact ⟨history, List.suffix_rfl, rfl⟩

theorem World.Sound.step {s t : World ω} (h : s.Sound account root) (step : Step account s t) :
    t.Sound account root := by
  cases step with
  | append w record free ours =>
    exact h.react w (begin_sound (h.writers w).acknowledged ours)
  | @serve call op answer head past sent served =>
    obtain ⟨history, later, fits⟩ := served.grows h.history (h.careful call op sent)
    have grow := later.subset
    refine ⟨history, fun w => (h.writers w).mono grow, h.single, ?_, ?_, ?_⟩
    · exact fun call op sent => (h.careful call op sent).mono grow
    · intro call' answer' arrived
      rcases List.mem_cons.mp arrived with same | arrived
      · cases same
        exact ⟨op, sent, fits⟩
      · obtain ⟨asked, sent', fits'⟩ := h.answered call' answer' arrived
        exact ⟨asked, sent', fits'.mono grow⟩
    · intro record mem
      obtain ⟨state, known, holds⟩ := h.resolved record mem
      exact ⟨state, known.mono grow, holds⟩
  | receive w arrived =>
    obtain ⟨asked, sent, fits⟩ := h.answered _ _ arrived
    rcases (h.writers w).awaiting with idle | ⟨op, sent', awaits⟩
    · rw [idle]
      exact h.react w trivial
    · cases h.single _ _ _ sent sent'
      exact h.react w (resume_sound (h.writers w).phase awaits fits)

theorem World.Sound.step_heads {s t : World ω} (h : s.Sound account root)
    (step : Step account s t) : s.heads <:+ t.heads ∧ s.resolved ⊆ t.resolved := by
  cases step with
  | @serve call op answer head past sent served =>
    exact ⟨(served.grows h.history (h.careful call op sent)).2.1, List.Subset.refl _⟩
  | append w record free ours =>
    cases begin (s.writers w).acknowledged record <;>
      exact ⟨List.suffix_rfl, by simp [World.react, World.setWriter]⟩
  | receive w arrived =>
    cases resume account (s.writers w).phase _ <;>
      exact ⟨List.suffix_rfl, by simp [World.react, World.setWriter]⟩

theorem reachable_sound {s : World ω} (reached : Reachable account root s) :
    s.Sound account root := by
  refine reached.invariant ?_ fun _ _ => World.Sound.step
  rintro _ rfl
  exact initial_sound

theorem later_heads {s t : World ω} (reached : Reachable account root s)
    (later : Transition.Leads (Step account) s t) :
    s.heads <:+ t.heads ∧ s.resolved ⊆ t.resolved := by
  refine reached.related (R := fun s t : World ω => s.heads <:+ t.heads ∧ s.resolved ⊆ t.resolved)
    ?_ (fun s t (h : s.Sound account root) step => h.step step) ?_ ?_
    (fun _ _ h step => h.step_heads step) later
  · rintro _ rfl
    exact initial_sound
  · exact fun s => ⟨List.suffix_rfl, List.Subset.refl _⟩
  · exact fun a b c first second =>
      ⟨first.1.trans second.1, List.Subset.trans first.2 second.2⟩

/-! ### A quiet branch takes the append -/

/-- `w` waits in `phase` for the answer to `op`, with the ref at `head`. -/
structure Waiting (world : World ω) (w : ω) (head : Commit) (phase : Phase) (op : Operation) :
    Prop where
  head : world.head = head
  phase : (world.writers w).phase = phase
  sent : ((w, (world.writers w).calls), op) ∈ world.requests

theorem react_waiting (world : World ω) (w : ω) (phase : Phase) (op : Operation) :
    Waiting (world.react w (.ask phase op)) w world.head phase op := by
  constructor <;> simp [World.react, World.setWriter]

@[simp] theorem World.react_head (world : World ω) (w : ω) (reaction : Reaction) :
    (world.react w reaction).head = world.head := by
  cases reaction <;> rfl

/-- One request served once, and its answer received. -/
theorem Waiting.exchange {world : World ω} {w : ω} {head later : Commit} {phase : Phase}
    {op : Operation} (waiting : Waiting world w head phase op) (account : String) (answer : Answer)
    (served : ∃ past, Serves head world.past op answer later past) :
    ∃ next : World ω, next.head = later ∧ next.resolved = world.resolved ∧
      next.writers = world.writers ∧ Transition.Leads (Step account) world
        (next.react w (resume account phase answer)) := by
  obtain ⟨rfl, rfl, sent⟩ := waiting
  obtain ⟨past, served⟩ := served
  let next := { world with
    head := later, past, answers := ((w, (world.writers w).calls), answer) :: world.answers }
  have received : Step account next (next.react w (resume account (world.writers w).phase answer)) :=
    .receive w List.mem_cons_self
  exact ⟨next, rfl, rfl, rfl, .tail (.single (.serve sent served)) received⟩

theorem Waiting.ask {world : World ω} {w : ω} {head later : Commit} {phase : Phase}
    {op : Operation} (waiting : Waiting world w head phase op) (account : String) {answer : Answer}
    (phase' : Phase) (op' : Operation)
    (served : ∃ past, Serves head world.past op answer later past)
    (next : resume account phase answer = .ask phase' op') :
    ∃ t : World ω, Transition.Leads (Step account) world t ∧ Waiting t w later phase' op' ∧
      t.resolved = world.resolved ∧
      (t.writers w).acknowledged = (world.writers w).acknowledged := by
  obtain ⟨t, rfl, resolved, writers, run⟩ := waiting.exchange account answer served
  rw [next] at run
  refine ⟨_, run, react_waiting t w phase' op', resolved, ?_⟩
  simp [World.react, World.setWriter, writers]

/-- With nobody else at work and no message lost, a fresh record is appended. -/
theorem append_resolves {world : World ω} {w : ω} (record : AccountRecord) (journal : Journal)
    (free : (world.writers w).phase = .idle) (new : (world.writers w).acknowledged = none)
    (ours : record.account = account) (holds : world.head.journal = some journal)
    (owned : journal.account = account) (theirs : ∀ entry ∈ journal.records, entry.account = account)
    (fresh : ∀ entry ∈ journal.records, entry.clashes record = false) :
    ∃ t : World ω, Transition.Leads (Step account) world t ∧ record ∈ t.resolved ∧
      t.head.journal = some { journal with records := journal.records ++ [record] } ∧
      (t.writers w).phase = .idle ∧ (t.writers w).acknowledged =
        some ⟨t.head, t.head.tree, { journal with records := journal.records ++ [record] }⟩ := by
  have first := Step.append w record free ours
  rw [new] at first
  have found : Keyed.get? world.head.tree path = some (.blob (some journal)) := by
    unfold Commit.journal at holds
    split at holds
    · rename_i content found
      rw [found, holds]
    · cases holds
  have provenance : ¬ (journal.account ≠ account ∨
      journal.records.any (fun entry => entry.account != account)) := by
    simpa [owned] using theirs
  have allowed : ¬ journal.records.any (fun entry => entry.clashes record) := by
    simpa using fresh
  let state : Snapshot := ⟨world.head, world.head.tree, journal⟩
  let nextJournal : Journal := { journal with records := journal.records ++ [record] }
  let nextTree := overlay world.head.tree nextJournal
  let nextCommit := Commit.next 0 (commitMessage record) nextTree world.head
  obtain ⟨a, toA, atRef, -⟩ := (react_waiting world w (.readRef record) .getRef).ask account
    (.readCommit record world.head) (.getCommit world.head) ⟨_, .getRef List.mem_cons_self⟩ rfl
  obtain ⟨b, toB, atCommit, -⟩ := atRef.ask account
    (.readTree record world.head world.head.tree) (.getTree world.head.tree)
    ⟨_, .getCommit world.head⟩ rfl
  obtain ⟨c, toC, atTree, -⟩ := atCommit.ask account
    (.readBlob record world.head world.head.tree) (.getBlob (some journal))
    ⟨_, .getTree world.head.tree false⟩ (by simp only [resume, found]; rfl)
  obtain ⟨d, toD, atBlob, -⟩ := atTree.ask account
    (.treePosted record state nextJournal) (.postTree world.head.tree nextJournal)
    ⟨_, .getBlob (some journal)⟩ (by simp only [resume, provenance, prepare, allowed]; rfl)
  obtain ⟨e, toE, atPost, -⟩ := atBlob.ask account
    (.commitPosted record state nextJournal nextTree)
    (.postCommit (commitMessage record) nextTree world.head)
    ⟨_, .postTree world.head.tree nextJournal⟩ rfl
  obtain ⟨f, toF, atPatch, -⟩ := atPost.ask account
    (.patching ⟨record, state, nextJournal, nextTree, nextCommit, 0⟩) (.patchRef nextCommit)
    ⟨_, .postCommit (commitMessage record) nextTree world.head 0⟩ rfl
  have forward : Serves world.head f.past (.patchRef nextCommit) (.ref nextCommit) nextCommit
      (world.head :: f.past) := by
    refine .fastForward (.inr (Ancestor.self _)) ?_
    intro same
    have := congrArg Commit.depth same
    simp [nextCommit, Commit.depth] at this
  obtain ⟨g, landed, -, -, toG⟩ := atPatch.exchange account (.ref nextCommit) ⟨_, forward⟩
  refine ⟨_, ((((((Relation.ReflTransGen.single first).trans toA).trans toB).trans toC).trans
    toD).trans toE).trans toF |>.trans toG, ?_, ?_, ?_⟩
  · simp [resume, nextCommit, Update.acknowledge, World.react]
  · rw [World.react_head, landed]
    exact journal_overlay
  · rw [World.react_head, landed]
    simp [resume, nextCommit, nextTree, nextJournal, Update.acknowledge, World.react,
      World.setWriter, Commit.tree]

/-! ### Durability -/

/-- Appends that resolved are durable, and the branch is an append-only log. -/
theorem resolved_appends_durable (provisioned : Provisioned account root rootJournal)
    {s t : World ω} (reached : Reachable account root s)
    (later : Transition.Leads (Step account) s t) :
    (∀ record ∈ s.resolved, ∃ journal, t.head.journal = some journal ∧
      journal.records.filter (fun entry => entry.clashes record) = [record]) ∧
    (∃ before after, s.head.journal = some before ∧ t.head.journal = some after ∧
      before.records <+: after.records) ∧
    (∀ head ∈ t.heads, ∃ journal, head.journal = some journal ∧ NoClash journal.records) ∧
    s.heads <:+ t.heads ∧ t.heads.getLast? = some root ∧
    t.heads.IsChain (fun next previous =>
      ∃ stamp message tree, next = .next stamp message tree previous) := by
  have sound := reachable_sound (reached.later later)
  obtain ⟨grow, kept⟩ := later_heads reached later
  have readable := sound.history.readable provisioned
  refine ⟨?_, ?_, ?_, grow, sound.history.root_last, sound.history.single_parent⟩
  · intro record mem
    obtain ⟨state, known, holds⟩ := sound.resolved record (kept mem)
    obtain ⟨after, atHead, before⟩ := sound.history.grows_to_head known.head known.journal
    obtain ⟨journal, same, -, noClash⟩ := readable t.head List.mem_cons_self
    cases atHead.symm.trans same
    exact ⟨after, atHead, noClash.exactly_once (before.subset holds)⟩
  · have earlier : s.head ∈ t.heads := grow.subset List.mem_cons_self
    obtain ⟨before, holds, -⟩ := readable s.head earlier
    obtain ⟨after, atHead, kept⟩ := sound.history.grows_to_head earlier holds
    exact ⟨before, after, holds, atHead, kept⟩
  · intro head mem
    obtain ⟨journal, holds, -, noClash⟩ := readable head mem
    exact ⟨journal, holds, noClash⟩

end system

def sampleRoot : Commit := .provisioned [(path, .blob (some ⟨"acme", []⟩))]

def sampleRecord : AccountRecord := ⟨"acme", "cell-1", "cell", "digest", .intent⟩

theorem sample_provisioned : Provisioned "acme" sampleRoot ⟨"acme", []⟩ :=
  ⟨by decide, rfl, (fun _ mem => nomatch mem), .nil⟩

theorem resolved_appends_durable_sample :
    ∃ s : World Bool, Reachable "acme" sampleRoot s ∧ s.resolved ≠ [] ∧
      (∀ record ∈ s.resolved, ∃ journal, s.head.journal = some journal ∧
        journal.records.filter (fun entry => entry.clashes record) = [record]) := by
  have start : (initial sampleRoot : World Bool).head.journal = _ := sample_provisioned.holds
  obtain ⟨s, run, landed, -⟩ := append_resolves (w := true) sampleRecord _ rfl rfl rfl start rfl
    sample_provisioned.ours (fun _ mem => nomatch mem)
  have reached : Reachable "acme" sampleRoot s := ⟨_, rfl, run⟩
  exact ⟨s, reached, List.ne_nil_of_mem landed,
    (resolved_appends_durable sample_provisioned reached .refl).1⟩

end GithubJournal
