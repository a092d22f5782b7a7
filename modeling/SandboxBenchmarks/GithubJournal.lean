import SandboxBenchmarks.AccountJournal
import SandboxBenchmarks.Library.Keyed
import SandboxBenchmarks.Library.Transition

/-!
# The account journal on a git branch

`apps/cli/src/lib/github-account-journal.ts`: any number of writers, each a
`githubAccountJournal` over one account branch, exchange requests and answers
with the server. Object writes are content-addressed, so an object's address is
the object itself. A request may be served any number of times after it was
sent, at any later moment, each answer may be lost, and any request may fail.
-/

namespace GithubJournal

open AccountJournal

/-- The file `journal.json`, parsed. -/
structure Journal where
  account : String
  records : List AccountRecord
deriving DecidableEq, Repr

/-- A tree entry: a blob, with the journal it parses to if it is one, or anything else. -/
inductive Entry where
  | blob (content : Option Journal)
  | other
deriving DecidableEq, Repr

abbrev Tree := List (String × Entry)

def path : String := "journal.json"

/-- A commit this program writes names one parent; older history ends in a provisioned commit. -/
inductive Commit where
  | provisioned (tree : Tree)
  | next (stamp : Nat) (message : String) (tree : Tree) (parent : Commit)
deriving DecidableEq, Repr

def Commit.tree : Commit → Tree
  | .provisioned tree => tree
  | .next _ _ tree _ => tree

/-- `a` is `c` or one of its ancestors. -/
def Ancestor (a : Commit) : Commit → Prop
  | .provisioned tree => a = .provisioned tree
  | .next stamp message tree parent => a = .next stamp message tree parent ∨ Ancestor a parent

/-- `POST /git/trees` with a base tree and a new `journal.json`. -/
def overlay (base : Tree) (journal : Journal) : Tree := Keyed.set base path (.blob (some journal))

/-- The journal a commit's tree holds. -/
def Commit.journal (c : Commit) : Option Journal :=
  match Keyed.get? c.tree path with
  | some (.blob content) => content
  | _ => none

/-! ### Requests and the server -/

inductive Operation where
  | getRef
  | getCommit (sha : Commit)
  | getTree (sha : Tree)
  | getBlob (sha : Option Journal)
  | postTree (base : Tree) (journal : Journal)
  | postCommit (message : String) (tree : Tree) (parent : Commit)
  | patchRef (sha : Commit)

inductive Answer where
  | ref (sha : Commit)
  | commit (tree : Tree)
  | inventory (truncated : Bool) (entries : Tree)
  | blob (content : Option Journal)
  | createdTree (sha : Tree)
  | createdCommit (sha : Commit)
  | error

/-- One service of a request by a server whose ref stands at `head` after `past`. -/
inductive Serves (head : Commit) (past : List Commit) :
    Operation → Answer → Commit → List Commit → Prop
  /-- A ref read may be stale. -/
  | getRef {sha : Commit} (held : sha ∈ head :: past) :
      Serves head past .getRef (.ref sha) head past
  | getCommit (sha : Commit) : Serves head past (.getCommit sha) (.commit sha.tree) head past
  | getTree (sha : Tree) (truncated : Bool) :
      Serves head past (.getTree sha) (.inventory truncated sha) head past
  | getBlob (sha : Option Journal) : Serves head past (.getBlob sha) (.blob sha) head past
  | postTree (base : Tree) (journal : Journal) :
      Serves head past (.postTree base journal) (.createdTree (overlay base journal)) head past
  | postCommit (message : String) (tree : Tree) (parent : Commit) (stamp : Nat) :
      Serves head past (.postCommit message tree parent)
        (.createdCommit (.next stamp message tree parent)) head past
  | alreadyThere : Serves head past (.patchRef head) (.ref head) head past
  | fastForward {sha : Commit} (ahead : Ancestor head sha) (moved : sha ≠ head) :
      Serves head past (.patchRef sha) (.ref sha) sha (head :: past)
  | refused {sha : Commit} (diverged : ¬ Ancestor head sha) :
      Serves head past (.patchRef sha) .error head past
  | fails (op : Operation) : Serves head past op .error head past

/-! ### A writer -/

/-- What `snapshot` returns, and what `acknowledged` remembers. -/
structure Snapshot where
  head : Commit
  baseTree : Tree
  journal : Journal
deriving DecidableEq, Repr

/-- An append that has its commit and moves the ref to it. -/
structure Update where
  record : AccountRecord
  state : Snapshot
  nextJournal : Journal
  nextTree : Tree
  nextCommit : Commit
  attempt : Nat
deriving DecidableEq, Repr

/-- Where the running append awaits an answer. -/
inductive Phase where
  | idle
  | readRef (record : AccountRecord)
  | readCommit (record : AccountRecord) (head : Commit)
  | readTree (record : AccountRecord) (head : Commit) (baseTree : Tree)
  | readBlob (record : AccountRecord) (head : Commit) (baseTree : Tree)
  | treePosted (record : AccountRecord) (state : Snapshot) (nextJournal : Journal)
  | commitPosted (record : AccountRecord) (state : Snapshot) (nextJournal : Journal)
      (nextTree : Tree)
  | patching (update : Update)
  | observing (update : Update)
deriving DecidableEq, Repr

/-- How an append goes on: one more request, the promise resolved, or an error thrown. -/
inductive Reaction where
  | ask (phase : Phase) (op : Operation)
  | resolve (record : AccountRecord) (state : Snapshot)
  | throw

/-- After the snapshot: refuse a second record of one kind, else write the new tree. -/
def prepare (record : AccountRecord) (state : Snapshot) : Reaction :=
  let nextJournal := { state.journal with records := state.journal.records ++ [record] }
  if state.journal.records.any (fun entry => entry.clashes record) then .throw
  else .ask (.treePosted record state nextJournal) (.postTree state.baseTree nextJournal)

/-- `append(record)`: our own acknowledged state is used in place of a fresh snapshot. -/
def begin (acknowledged : Option Snapshot) (record : AccountRecord) : Reaction :=
  match acknowledged with
  | some state => prepare record state
  | none => .ask (.readRef record) .getRef

def Update.acknowledge (update : Update) : Reaction :=
  .resolve update.record ⟨update.nextCommit, update.nextTree, update.nextJournal⟩

def commitMessage (record : AccountRecord) : String :=
  let kind := match record.kind with
    | .intent => "intent"
    | .allocated => "allocated"
    | .cleanupAttested => "cleanup-attested"
    | .released => "released"
  s!"Record {record.account} {record.attempt} {kind}"

/-- The continuation of an append at each `await`. -/
def resume (account : String) : Phase → Answer → Reaction
  | .readRef record, .ref sha => .ask (.readCommit record sha) (.getCommit sha)
  | .readCommit record head, .commit tree => .ask (.readTree record head tree) (.getTree tree)
  | .readTree record head baseTree, .inventory truncated entries =>
    if truncated then .throw
    else
      match Keyed.get? entries path with
      | some (.blob content) => .ask (.readBlob record head baseTree) (.getBlob content)
      | _ => .throw
  | .readBlob record head baseTree, .blob (some journal) =>
    if journal.account ≠ account ∨ journal.records.any (fun entry => entry.account != account) then
      .throw
    else prepare record ⟨head, baseTree, journal⟩
  | .treePosted record state nextJournal, .createdTree nextTree =>
    .ask (.commitPosted record state nextJournal nextTree)
      (.postCommit (commitMessage record) nextTree state.head)
  | .commitPosted record state nextJournal nextTree, .createdCommit nextCommit =>
    .ask (.patching ⟨record, state, nextJournal, nextTree, nextCommit, 0⟩) (.patchRef nextCommit)
  | .patching update, .ref sha =>
    if sha ≠ update.nextCommit then .throw else update.acknowledge
  | .patching update, .error =>
    if update.attempt ≥ 2 then .throw else .ask (.observing update) .getRef
  | .observing update, .ref observed =>
    -- A lost response is settled by the exact commit, never by guessing or forcing.
    if observed = update.nextCommit then update.acknowledge
    else if observed ≠ update.state.head then .throw
    else
      .ask (.patching { update with attempt := update.attempt + 1 }) (.patchRef update.nextCommit)
  | _, _ => .throw

/-- One journal client; its appends run one at a time, in call order. -/
structure Writer where
  acknowledged : Option Snapshot
  calls : Nat
  phase : Phase

/-! ### All writers and the server -/

/-- The `n`-th request of a writer. -/
abbrev Call (ω : Type) := ω × Nat

structure World (ω : Type) where
  head : Commit
  past : List Commit
  requests : List (Call ω × Operation)
  answers : List (Call ω × Answer)
  writers : ω → Writer
  resolved : List AccountRecord

section
variable {ω : Type} [DecidableEq ω]

def World.setWriter (world : World ω) (w : ω) (writer : Writer) : World ω :=
  { world with writers := fun v => if v = w then writer else world.writers v }

/-- What a reaction does to the world. -/
def World.react (world : World ω) (w : ω) : Reaction → World ω
  | .ask phase op =>
    let call := (world.writers w).calls + 1
    { world.setWriter w { world.writers w with calls := call, phase } with
      requests := ((w, call), op) :: world.requests }
  | .resolve record state =>
    { world.setWriter w { world.writers w with acknowledged := some state, phase := .idle } with
      resolved := record :: world.resolved }
  | .throw => world.setWriter w { world.writers w with phase := .idle }

inductive Step (account : String) : World ω → World ω → Prop
  | append {world : World ω} (w : ω) (record : AccountRecord)
      (free : (world.writers w).phase = .idle) (ours : record.account = account) :
      Step account world (world.react w (begin (world.writers w).acknowledged record))
  | serve {world : World ω} {call : Call ω} {op : Operation} {answer : Answer} {head : Commit}
      {past : List Commit} (sent : (call, op) ∈ world.requests)
      (served : Serves world.head world.past op answer head past) :
      Step account world
        { world with head, past, answers := (call, answer) :: world.answers }
  | receive {world : World ω} (w : ω) {answer : Answer}
      (arrived : ((w, (world.writers w).calls), answer) ∈ world.answers) :
      Step account world (world.react w (resume account (world.writers w).phase answer))

/-- No two records of one kind for one attempt. -/
def NoClash (records : List AccountRecord) : Prop :=
  records.Pairwise (fun a b => a.clashes b = false)

/-- A branch provisioned for the account. -/
structure Provisioned (account : String) (root : Commit) (journal : Journal) : Prop where
  holds : root.journal = some journal
  owned : journal.account = account
  ours : ∀ record ∈ journal.records, record.account = account
  noClash : NoClash journal.records

def initial (root : Commit) : World ω where
  head := root
  past := []
  requests := []
  answers := []
  writers := fun _ => ⟨none, 0, .idle⟩
  resolved := []

/-- Every state of any interleaving of the writers' and the server's steps. -/
abbrev Reachable (account : String) (root : Commit) : World ω → Prop :=
  Transition.Reachable (fun world => world = initial root) (Step account)

end

end GithubJournal
