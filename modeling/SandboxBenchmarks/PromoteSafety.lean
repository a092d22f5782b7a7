import Mathlib.Data.List.Perm.Subperm
import SandboxBenchmarks.Promote

/-!
# Nothing unvalidated is promoted

What a promotion has observed whenever it builds a version artifact or retags an image,
over every run of `promoteAll`: for every scope, force flag, set of required providers
and every answer of its environment.
-/

namespace Promote

open Interaction

abbrev Event := Sigma Answer

/-! ### What a history shows -/

def Validated (h : Events) (id : ProviderId) : Prop :=
  ∃ ref outcome, (⟨.bootAndSmoke id ref, outcome⟩ : Event) ∈ h ∧ smokeOk outcome = true

/-- The version artifact was built, where the provider has one. -/
def Built (config : Config) (h : Events) (id : ProviderId) : Prop :=
  match artifact id with
  | .baked _ _ => ∃ base ref, (⟨.build id (bakedArtifactName id .version) base, .ok ref⟩ : Event) ∈ h
  | .mirror =>
    (⟨.imagetoolsCreate config.vercelImageVersion config.vercelImageCandidate, .ok ()⟩ : Event) ∈ h
  | .none | .image | .built _ => True

/-- Credentials of the provider were missing. -/
def Skipped (h : Events) (id : ProviderId) : Prop :=
  ∃ names, (⟨.missing id, names⟩ : Event) ∈ h ∧ names ≠ []

def Failed : Event → Prop
  | ⟨.bootAndSmoke _ _, outcome⟩ => smokeOk outcome = false
  | ⟨.build _ _ _, answer⟩ => ∃ e, answer = .error e
  | ⟨.imagetoolsCreate _ _, answer⟩ => ∃ e, answer = .error e
  | _ => False

/-- A boot is one of the candidate that `refs` names. -/
def Boots (refs : CandidateRefs) : Event → Prop
  | ⟨.bootAndSmoke id ref, _⟩ => candidateResolvedArtifact id refs = .ok ref
  | _ => True

/-- The validations were of candidates whose base is `pinned`. -/
def Revalidated (config : Config) (h : Events) (pinned : String) : Prop :=
  ∃ snapshot, ∀ e ∈ h, Boots (candidateRefs config pinned snapshot) e

/-- The registry answered that the public version is not there. -/
def ObservedAbsent (h : Events) : Prop :=
  ∃ code stderr,
    (⟨.manifestInspect (toolchainImageRef .version), .ok (code, stderr)⟩ : Event) ∈ h ∧
      code ≠ 0 ∧ registryManifestAbsent stderr = true

/-- The registry resolved `ref` to `digest`. -/
def Resolved (h : Events) (ref digest : String) : Prop :=
  (⟨.imagetoolsInspect ref, .ok (some digest)⟩ : Event) ∈ h

variable (config : Config) (configured : List String) (force : Bool)
  (only : Option (List ProviderId))

structure Publishable (h : Events) (source : String) : Prop where
  full : isPartialScope only = false
  absent : force = true ∨ ObservedAbsent h
  pinned : ∃ digest, Resolved h (toolchainImageRef .candidate) digest ∧
    Pins (toolchainImageRef .candidate) digest source
  revalidated : Revalidated config h source
  required : ∀ name ∈ configured, ∃ id : ProviderId, id.name = name ∧ Validated h id ∧ Built config h id
  unfailed : configured = [] → ∀ e ∈ h, ¬ Failed e
  settled : configured = [] →
    ∀ id ∈ requested only, Skipped h id ∨ Validated h id ∧ Built config h id

/-- The base of a backfill is the published one, and the candidate is the same bytes. -/
def Undrifted (h : Events) (base : String) : Prop :=
  ∃ digest, Resolved h (toolchainImageRef .candidate) digest ∧
    Resolved h (toolchainImageRef .version) digest ∧ Pins (toolchainImageRef .version) digest base

/-- What must have been observed when a question is asked. -/
def Guard (h : Events) : Query → Prop
  | .build id name base => name = bakedArtifactName id .version ∧ Validated h id ∧
      (isPartialScope only = true → baseImageUse id = .bakes → Undrifted h base)
  | .imagetoolsCreate target source =>
      if target = toolchainImageRef .version then Publishable config configured force only h source
      else target = config.vercelImageVersion ∧ source = config.vercelImageCandidate ∧
        Validated h .vercel
  | _ => True

/-! ### Histories only grow -/

variable {config configured force only} {h later : Events} {id : ProviderId}

theorem Validated.grow (validated : Validated h id) (extends_ : h <+: later) :
    Validated later id := by
  obtain ⟨ref, outcome, booted, passed⟩ := validated
  exact ⟨ref, outcome, extends_.subset booted, passed⟩

theorem Skipped.grow (skipped : Skipped h id) (extends_ : h <+: later) : Skipped later id := by
  obtain ⟨names, missing, some_⟩ := skipped
  exact ⟨names, extends_.subset missing, some_⟩

theorem Built.grow (built : Built config h id) (extends_ : h <+: later) :
    Built config later id := by
  rw [Built] at built ⊢
  cases kind : artifact id <;> rw [kind] at built
  case baked nameSuffix nativeSnapshot =>
    obtain ⟨base, ref, event⟩ := built
    exact ⟨base, ref, extends_.subset event⟩
  case mirror => exact extends_.subset built
  all_goals exact trivial

theorem ObservedAbsent.grow (observed : ObservedAbsent h) (extends_ : h <+: later) :
    ObservedAbsent later := by
  obtain ⟨code, stderr, event, absent⟩ := observed
  exact ⟨code, stderr, extends_.subset event, absent⟩

/-- Questions that neither validate nor write. -/
def Query.reads : Query → Bool
  | .bootAndSmoke _ _ | .build _ _ _ | .imagetoolsCreate _ _ => false
  | _ => true

theorem not_failed_of_reads {e : Event} (reads : e.1.reads = true) : ¬ Failed e := by
  obtain ⟨q, answer⟩ := e
  cases q <;> first | exact id | cases reads

theorem boots_of_reads (refs : CandidateRefs) {e : Event} (reads : e.1.reads = true) :
    Boots refs e := by
  obtain ⟨q, answer⟩ := e
  cases q <;> first | exact trivial | cases reads

theorem guard_of_reads {q : Query} (reads : q.reads = true) :
    Guard config configured force only h q := by
  cases q <;> first | exact trivial | cases reads

theorem forall_mem_ask {P : Event → Prop} {e : Event} (before : ∀ e ∈ h, P e) (here : P e) :
    ∀ e' ∈ h ++ [e], P e' := by
  intro e' member
  rcases List.mem_append.mp member with earlier | last
  · exact before e' earlier
  · rwa [List.mem_singleton.mp last]

/-- Of a scope without repetitions, the partial ones leave a provider out. -/
theorem isPartialScope_iff {ids : List ProviderId} (distinct : ids.Nodup) :
    isPartialScope (some ids) = true ↔ ∃ id, id ∉ ids := by
  rw [isPartialScope, decide_eq_true_iff]
  constructor
  · intro fewer
    by_contra all
    have every : providers ⊆ ids := fun id _ => not_not.mp (not_exists.mp all id)
    have := (List.subperm_of_subset (by decide) every).length_le
    omega
  · rintro ⟨id, missing⟩
    have inside : (id :: ids) ⊆ providers := fun id _ => mem_providers id
    have := (List.subperm_of_subset (List.nodup_cons.mpr ⟨missing, distinct⟩) inside).length_le
    exact this

/-! ### Digests -/

theorem idxOf?_append_cons {c : Char} {before after : List Char} (fresh : c ∉ before) :
    (before ++ c :: after).idxOf? c = some before.length := by
  induction before with
  | nil => simp [List.idxOf?_cons]
  | cons a before ih =>
    obtain ⟨differs, fresh⟩ := not_or.mp (mt List.mem_cons.mpr fresh)
    simp [List.idxOf?_cons, ih fresh, Ne.symm differs]

theorem lastIndexOf_append {c : Char} {before after : List Char} (fresh : c ∉ after) :
    lastIndexOf c (before ++ c :: after) = before.length := by
  have back : (before ++ c :: after).reverse.idxOf? c = some after.length := by
    rw [List.reverse_append, List.reverse_cons, List.append_assoc, List.singleton_append,
      idxOf?_append_cons (fun member => fresh (List.mem_reverse.mp member)), List.length_reverse]
  rw [lastIndexOf, back]
  simp only [List.length_append, List.length_cons]
  omega

theorem not_mem_of_isSha256 {digest : List Char} (sha : isSha256 digest = true) : '@' ∉ digest := by
  simp only [isSha256, Bool.and_eq_true, decide_eq_true_eq, List.all_eq_true] at sha
  obtain ⟨⟨head, _⟩, tail⟩ := sha
  rw [← List.take_append_drop 7 digest, head]
  intro member
  rcases List.mem_append.mp member with inHead | inTail
  · exact absurd inHead (by decide)
  · exact absurd (tail _ inTail) (by decide)

/-- A pinned reference gives back the digest it was pinned to. -/
theorem imageDigest_of_pins {ref digest pinned : String} (pins : Pins ref digest pinned) :
    imageDigest pinned = digest := by
  rw [Pins, digestPinnedRef] at pins
  split at pins
  · rename_i sha
    cases pins
    have place : lastIndexOf '@' (imageRepo ref ++ "@" ++ digest).toList
        = (imageRepo ref).toList.length := by
      rw [String.toList_append, String.toList_append, List.append_assoc]
      exact lastIndexOf_append (not_mem_of_isSha256 sha)
    rw [imageDigest, place]
    simp only [String.toList_append, Int.toNat_natCast]
    rw [if_neg (by omega), List.append_assoc]
    simp
  · cases pins

/-! ### The probes of the registry -/

theorem returning_mapError {ε ε' α : Type} {f : ε → ε'} {P : Events → α → Prop}
    {result : Except ε α} : returning P h (result.mapError f) ↔ returning P h result := by
  cases result <;> exact Iff.rfl

/-- Every event so far only read. -/
def Reading (h : Events) : Prop := ∀ e ∈ h, e.1.reads = true

structure Vouched (force : Bool) (only : Option (List ProviderId)) (h : Events) (pinned : String) :
    Prop where
  reading : Reading h
  full : isPartialScope only = false → (force = true ∨ ObservedAbsent h) ∧
    ∃ digest, Resolved h (toolchainImageRef .candidate) digest ∧
      Pins (toolchainImageRef .candidate) digest pinned
  backfill : isPartialScope only = true → ∀ id ∈ requested only, baseImageUse id = .bakes →
    Undrifted h pinned

theorem holds_checkPublished :
    Holds (Guard config configured force only)
      (returning fun later _ => Reading later ∧
        (isPartialScope only = false → force = true ∨ ObservedAbsent later))
      (checkPublished force only) [] := by
  rw [checkPublished]
  by_cases forced : force = true
  · rw [if_pos forced]
    exact ⟨fun _ member => absurd member List.not_mem_nil, fun _ => Or.inl forced⟩
  · rw [if_neg forced]
    have probed : Holds (Guard config configured force only)
        (returning fun later there => Reading later ∧ (there = false → ObservedAbsent later))
        (imageExistsInRegistry (toolchainImageRef .version)) [] := by
      refine ⟨trivial, fun answer => ?_⟩
      refine holds_computed_andThen ?_
      rintro ⟨code, stderr⟩ rfl
      have reading : Reading [(⟨.manifestInspect (toolchainImageRef .version),
          .ok (code, stderr)⟩ : Event)] := by
        intro e member
        rw [List.mem_singleton.mp member]
        rfl
      by_cases found : code = 0
      · simp only [found]
        exact ⟨found ▸ reading, fun there => absurd there (by decide)⟩
      · by_cases gone : registryManifestAbsent stderr = true
        · simp only [found, gone, if_true, if_false]
          exact ⟨reading, fun _ => ⟨code, stderr, List.mem_singleton_self _, found, gone⟩⟩
        · simp only [found, gone, if_false]
          exact trivial
    refine Holds.andThen (holds_mapError.mpr (probed.mono fun _ _ _ => returning_mapError.mpr)) ?_
    intro later there _ observed
    split
    · exact trivial
    · rename_i agrees
      refine ⟨observed.1, fun full => Or.inr (observed.2 ?_)⟩
      rw [not_not.mp agrees, full]

theorem holds_resolveImageDigestRef {ref : String} (unpinned : isDigestPinned ref.toList = false)
    (reading : Reading h) :
    Holds (Guard config configured force only)
      (returning fun later pinned => Reading later ∧
        ∃ digest, Resolved later ref digest ∧ Pins ref digest pinned)
      (resolveImageDigestRef ref) h := by
  rw [resolveImageDigestRef, if_neg (Bool.eq_false_iff.mp unpinned)]
  refine ⟨trivial, fun inspection => ?_⟩
  refine holds_computed_andThen ?_
  rintro digest rfl
  rw [holds_computed]
  cases found : digestPinnedRef ref digest with
  | error e => exact trivial
  | ok pinned =>
    cases digest with
    | none => cases found
    | some digest =>
      exact ⟨forall_mem_ask reading rfl, digest, List.mem_append_right _ (List.mem_singleton_self _),
        found⟩

theorem holds_pinBaseImage (reading : Reading h)
    (admitted : isPartialScope only = false → force = true ∨ ObservedAbsent h) :
    Holds (Guard config configured force only) (returning (Vouched force only))
      (pinBaseImage only) h := by
  have resolve (ref : String) (f : String → String) (unpinned : isDigestPinned ref.toList = false)
      {h : Events} (reading : Reading h) :
      Holds (Guard config configured force only)
        (returning fun later pinned => Reading later ∧
          ∃ digest, Resolved later ref digest ∧ Pins ref digest pinned)
        (mapError f (resolveImageDigestRef ref)) h :=
    holds_mapError.mpr ((holds_resolveImageDigestRef unpinned reading).mono
      fun _ _ _ => returning_mapError.mpr)
  rw [pinBaseImage]
  cases scope : isPartialScope only with
  | false =>
    refine (resolve _ _ (by decide) reading).andThen ?_
    rintro later pinned grown ⟨reading, resolved⟩
    simp only [Bool.false_eq_true, false_and, if_false]
    refine ⟨reading, fun _ => ⟨?_, resolved⟩, fun backfill => absurd (scope.symm.trans backfill) nofun⟩
    exact (admitted scope).imp_right (fun observed => observed.grow grown)
  | true =>
    refine (resolve _ _ (by decide) reading).andThen ?_
    rintro later pinned - ⟨reading, digest, resolved, pins⟩
    by_cases baking : bakesFromBase only = []
    · simp only [baking, ne_eq, not_true_eq_false, and_false, if_false]
      refine ⟨reading, fun full => absurd (scope.symm.trans full) nofun, fun _ id member bakes => ?_⟩
      have listed : id ∈ bakesFromBase only := by simpa [bakesFromBase] using ⟨member, bakes⟩
      rw [baking] at listed
      exact absurd listed List.not_mem_nil
    · simp only [baking, ne_eq, not_false_eq_true, and_self, if_true]
      refine (resolve _ _ (by decide) reading).andThen ?_
      rintro last pinnedCandidate grown ⟨reading, digest', resolved', pins'⟩
      rw [imageDigest_of_pins pins, imageDigest_of_pins pins']
      split
      · exact trivial
      · rename_i same
        obtain rfl := not_not.mp same
        exact ⟨reading, fun full => absurd (scope.symm.trans full) nofun,
          fun _ _ _ _ => ⟨digest', resolved', grown.subset resolved, pins⟩⟩

/-! ### The loop over the providers -/

section
variable {β : Type} {P : Event → Prop} {Good : Events → ProviderId → Prop} {before : Events}
  {runs : List (ProviderRun β)}

/-- What is good stays good as the history grows. -/
def Stable (Good : Events → ProviderId → Prop) : Prop :=
  ∀ ⦃h later : Events⦄ ⦃id : ProviderId⦄, h <+: later → Good h id → Good later id

/-- What a pass over the providers has shown: `Good` is what it asks of a provider that is ok. -/
structure Visited (P : Event → Prop) (Good : Events → ProviderId → Prop) (before h : Events)
    (runs : List (ProviderRun β)) : Prop where
  events : ∀ e ∈ h, P e
  ok : ∀ run ∈ runs, run.status = .ok → Good h run.provider
  skipped : ∀ run ∈ runs, run.status = .skipped → Skipped h run.provider
  unfailed : (∀ run ∈ runs, run.status ≠ .failed) → ∀ e ∈ h, Failed e → e ∈ before

theorem Visited.snoc {run : ProviderRun β} (visited : Visited P Good before h runs)
    (stable : Stable Good) (extends_ : h <+: later)
    (events : ∀ e ∈ later, P e) (ok : run.status = .ok → Good later run.provider)
    (skipped : run.status = .skipped → Skipped later run.provider)
    (unfailed : run.status ≠ .failed → ∀ e ∈ later, Failed e → e ∈ h) :
    Visited P Good before later (runs ++ [run]) where
  events := events
  ok := by
    intro r member passed
    rcases List.mem_append.mp member with earlier | last
    · exact stable extends_ (visited.ok r earlier passed)
    · obtain rfl := List.mem_singleton.mp last
      exact ok passed
  skipped := by
    intro r member left
    rcases List.mem_append.mp member with earlier | last
    · exact (visited.skipped r earlier left).grow extends_
    · obtain rfl := List.mem_singleton.mp last
      exact skipped left
  unfailed := by
    intro none_ e member failed
    have here := unfailed (none_ run (List.mem_append_right _ (List.mem_singleton_self _))) e member
      failed
    exact visited.unfailed (fun r earlier => none_ r (List.mem_append_left _ earlier)) e here failed

/-- What the body of a pass shows of one provider. -/
structure Driven (P : Event → Prop) (Good : Events → ProviderId → Prop) (ok : β → Bool) (h : Events)
    (id : ProviderId) (later : Events) (result : Except String β) : Prop where
  events : ∀ e ∈ later, P e
  good : ∀ value, result = .ok value → ok value = true →
    Good later id ∧ ∀ e ∈ later, Failed e → e ∈ h

variable {body : ProviderId → Promoting β} {ok : β → Bool} {failureReason : β → Option String}

theorem failed_before {e e' : Event} (reads : e.1.reads = true) (member : e' ∈ h ++ [e])
    (failed : Failed e') : e' ∈ h := by
  rcases List.mem_append.mp member with earlier | last
  · exact earlier
  · rw [List.mem_singleton.mp last] at failed
    exact absurd failed (not_failed_of_reads reads)

theorem holds_visit (stable : Stable Good)
    (neutral : ∀ e : Event, e.1.reads = true → P e)
    (body_driven : ∀ {h}, before <+: h → (∀ e ∈ h, P e) →
      Holds (Guard config configured force only) (Driven P Good ok h id) (body id) h)
    (extends_ : before <+: h) (visited : Visited P Good before h runs) :
    Holds (Guard config configured force only)
      (returning fun later run => run.provider = id ∧ Visited P Good before later (runs ++ [run]))
      (visit body ok failureReason id) h := by
  have target : targetFor id = .ok id := by
    rw [targetFor, isDriverProviderId, if_pos (by simpa using mem_providers id)]
  simp only [visit, target, holds_question]
  refine ⟨trivial, fun missing => ?_⟩
  have asked : ∀ e ∈ h ++ [(⟨.missing id, missing⟩ : Event)], P e :=
    forall_mem_ask visited.events (neutral _ rfl)
  have grown := List.prefix_append h [(⟨.missing id, missing⟩ : Event)]
  split
  · rename_i some_
    refine ⟨rfl, visited.snoc stable grown asked (fun ok => by cases ok) (fun _ => ?_) (fun _ e => failed_before rfl)⟩
    exact ⟨missing, List.mem_append_right _ (List.mem_singleton_self _), some_⟩
  · refine ⟨trivial, fun start => ?_⟩
    have asked := forall_mem_ask (e := (⟨.now, start⟩ : Event)) asked (neutral _ rfl)
    have grown := grown.trans (List.prefix_append _ [(⟨.now, start⟩ : Event)])
    refine holds_bind.mpr (holds_captured.mpr ((body_driven (extends_.trans grown) asked).mono ?_))
    rintro later (message | value) further driven
    · refine ⟨trivial, fun stop => ⟨rfl, visited.snoc stable ?_ ?_ (fun ok => by cases ok) (fun left => by cases left) ?_⟩⟩
      · exact (grown.trans further).trans (List.prefix_append _ _)
      · exact forall_mem_ask driven.events (neutral _ rfl)
      · exact fun unfailed => absurd rfl unfailed
    · refine ⟨trivial, fun stop => ⟨rfl, visited.snoc stable ?_ ?_ ?_ ?_ ?_⟩⟩
      · exact (grown.trans further).trans (List.prefix_append _ _)
      · exact forall_mem_ask driven.events (neutral _ rfl)
      all_goals cases passed : ok value <;> simp only [if_true, Bool.false_eq_true, if_false]
      · exact fun status => by cases status
      · exact fun _ => stable (List.prefix_append _ _) (driven.good value rfl passed).1
      · exact fun status => by cases status
      · exact fun status => by cases status
      · exact fun unfailed => absurd rfl unfailed
      · intro _ e member failed
        have inLater := failed_before rfl member failed
        have inStart := (driven.good value rfl passed).2 e inLater failed
        exact failed_before rfl (failed_before rfl inStart failed) failed

theorem holds_visitAll {ids : List ProviderId}
    (stable : Stable Good)
    (neutral : ∀ e : Event, e.1.reads = true → P e)
    (body_driven : ∀ id ∈ ids, ∀ {h}, before <+: h → (∀ e ∈ h, P e) →
      Holds (Guard config configured force only) (Driven P Good ok h id) (body id) h)
    (extends_ : before <+: h) (visited : Visited P Good before h runs) :
    Holds (Guard config configured force only)
      (returning fun later more => more.map (·.provider) = ids ∧
        Visited P Good before later (runs ++ more))
      (visitAll body ok failureReason ids) h := by
  induction ids generalizing h runs with
  | nil => exact ⟨rfl, by simpa using visited⟩
  | cons id ids ih =>
    rw [visitAll]
    refine (holds_visit stable neutral (body_driven id List.mem_cons_self) extends_ visited).andThen ?_
    rintro later run grown ⟨provider, visited⟩
    refine (ih (fun id member => body_driven id (List.mem_cons_of_mem _ member))
      (extends_.trans grown) visited).andThen ?_
    rintro last more - ⟨rest, visited⟩
    refine ⟨by rw [List.map_cons, provider, rest], ?_⟩
    simpa using visited

theorem mem_selectedProviderIds {ids : Option (List ProviderId)} {selected : List ProviderId}
    (found : selectedProviderIds ids = .ok selected) (id : ProviderId) :
    id ∈ selected ↔ id ∈ requested ids := by
  rcases ids with _ | _ | ⟨first, rest⟩
  · cases found
    exact Iff.rfl
  · exact absurd found (by rw [selectedProviderIds]; exact nofun)
  · cases found
    simp [requested, mem_providers]

/-- A whole pass, from a history that keeps `P`. -/
theorem holds_forEachProviderWithCreds {ids : Option (List ProviderId)}
    (stable : Stable Good)
    (neutral : ∀ e : Event, e.1.reads = true → P e)
    (body_driven : ∀ id ∈ requested ids, ∀ {later}, h <+: later → (∀ e ∈ later, P e) →
      Holds (Guard config configured force only) (Driven P Good ok later id) (body id) later)
    (events : ∀ e ∈ h, P e) :
    Holds (Guard config configured force only)
      (returning fun later runs => (∀ id, id ∈ runs.map (·.provider) ↔ id ∈ requested ids) ∧
        Visited P Good h later runs)
      (forEachProviderWithCreds body ok failureReason ids) h := by
  rw [forEachProviderWithCreds]
  refine holds_computed_andThen fun selected found => ?_
  have same := mem_selectedProviderIds found
  have start : Visited P Good h h ([] : List (ProviderRun β)) :=
    ⟨events, fun _ member => absurd member List.not_mem_nil,
      fun _ member => absurd member List.not_mem_nil, fun _ _ member _ => member⟩
  have pass : Holds (Guard config configured force only)
      (returning fun later more => more.map (·.provider) = selected ∧
        Visited P Good h later ([] ++ more))
      (visitAll body ok failureReason selected) h :=
    holds_visitAll stable neutral (fun id member => body_driven id ((same id).mp member))
      List.prefix_rfl start
  refine pass.mono ?_
  rintro later (message | runs) -
  · exact fun _ => trivial
  · rintro ⟨ids, visited⟩
    exact ⟨fun id => ids ▸ same id, by simpa using visited⟩

end

/-! ### The two passes -/

theorem holds_bootAndSmokeCandidate {refs : CandidateRefs} (boots : ∀ e ∈ h, Boots refs e) :
    Holds (Guard config configured force only)
      (Driven (Boots refs) Validated smokeOk h id) (bootAndSmokeCandidate refs id) h := by
  rw [bootAndSmokeCandidate, holds_bind, holds_computed]
  cases found : candidateResolvedArtifact id refs with
  | error message => exact ⟨boots, nofun⟩
  | ok ref =>
    refine ⟨trivial, fun outcome => ⟨forall_mem_ask boots found, ?_⟩⟩
    rintro value same passed
    obtain rfl : outcome = value := Except.ok.inj same
    refine ⟨⟨ref, outcome, List.mem_append_right _ (List.mem_singleton_self _), passed⟩, ?_⟩
    intro e member failed
    rcases List.mem_append.mp member with earlier | last
    · exact earlier
    · rw [List.mem_singleton.mp last] at failed
      exact absurd (passed.symm.trans failed) (by decide)

theorem holds_validateCandidates {refs : CandidateRefs} (reading : Reading h) :
    Holds (Guard config configured force only)
      (returning fun later runs => (∀ id, id ∈ runs.map (·.provider) ↔ id ∈ requested only) ∧
        Visited (Boots refs) Validated h later runs)
      (validateCandidates refs only) h :=
  holds_forEachProviderWithCreds (fun _ _ _ extends_ validated => validated.grow extends_)
    (fun _ => boots_of_reads refs) (fun _ _ _ _ => holds_bootAndSmokeCandidate)
    (fun e member => boots_of_reads refs (reading e member))

theorem head?_append (first : Char) (text rest : String) (starts : text.toList.head? = some first) :
    (text ++ rest).toList.head? = some first := by
  rw [String.toList_append, List.head?_append, starts, Option.some_or]

theorem vercelImageVersion_ne : config.vercelImageVersion ≠ toolchainImageRef .version := by
  intro same
  have vercel : config.vercelImageVersion.toList.head? = some 'v' := by
    unfold Config.vercelImageVersion
    iterate 8 apply head?_append
    decide
  have shared : (toolchainImageRef .version).toList.head? = some 'g' := by decide
  rw [same, shared] at vercel
  exact absurd vercel (by decide)

theorem eq_vercel_of_mirror (mirror : artifact id = .mirror) : id = .vercel := by
  cases id <;> first | rfl | cases mirror

theorem holds_buildVersionArtifact {P : Event → Prop} {pinned : String} {snapshot : Option String}
    (other : ∀ e : Event, (∀ id ref, e.1 ≠ .bootAndSmoke id ref) → P e)
    (validated : Validated h id)
    (undrifted : isPartialScope only = true → baseImageUse id = .bakes → Undrifted h pinned)
    (events : ∀ e ∈ h, P e) :
    Holds (Guard config configured force only)
      (Driven P (Built config) (fun _ => true) h id)
      (buildVersionArtifact config pinned snapshot id) h := by
  -- an answer that is no error leaves no failure behind
  have unfailed {e : Event} (fine : ¬ Failed e) : ∀ e' ∈ h ++ [e], Failed e' → e' ∈ h := by
    intro e' member failed
    rcases List.mem_append.mp member with earlier | last
    · exact earlier
    · rw [List.mem_singleton.mp last] at failed
      exact absurd failed fine
  rw [buildVersionArtifact]
  cases kind : artifact id with
  | none | image | built recipe =>
    refine ⟨events, fun _ _ _ => ⟨?_, fun _ member _ => member⟩⟩
    rw [Built, kind]
    exact trivial
  | baked nameSuffix nativeSnapshot =>
    refine ⟨⟨rfl, validated, fun backfill bakes => ?_⟩, fun answer => ?_⟩
    · have notFreestyle : id ≠ .freestyle := by
        rintro rfl
        exact absurd bakes (by decide)
      rw [if_neg notFreestyle]
      exact undrifted backfill bakes
    · refine ⟨forall_mem_ask events (other _ fun _ _ => nofun), ?_⟩
      rintro ref answered -
      refine ⟨?_, unfailed ?_⟩
      · rw [Built, kind]
        exact ⟨_, ref, List.mem_append_right _ (List.mem_singleton.mpr (by rw [← answered]))⟩
      · rintro ⟨e, isError⟩
        exact absurd (answered.symm.trans isError) nofun
  | mirror =>
    obtain rfl := eq_vercel_of_mirror kind
    refine holds_bind.mpr ⟨?_, fun answer => ?_⟩
    · rw [Guard, if_neg vercelImageVersion_ne]
      exact ⟨rfl, rfl, validated⟩
    · cases answer with
      | error message => exact ⟨forall_mem_ask events (other _ fun _ _ => nofun), nofun⟩
      | ok u =>
        refine ⟨forall_mem_ask events (other _ fun _ _ => nofun), fun _ _ _ => ⟨?_, unfailed ?_⟩⟩
        · exact List.mem_append_right _ (List.mem_singleton_self _)
        · rintro ⟨e, isError⟩
          cases isError

/-! ### The transaction -/

theorem holds_resolveFreestyleSnapshotId {ref : String} (reading : Reading h) :
    Holds (Guard config configured force only) (fun later _ => Reading later)
      (resolveFreestyleSnapshotId ref) h := by
  refine ⟨trivial, fun answer => ?_⟩
  have reading := forall_mem_ask (e := (⟨.freestyleSnapshot ref, answer⟩ : Event)) reading rfl
  refine holds_bind.mpr ?_
  cases answer with
  | error message => exact reading
  | ok id =>
    show Holds _ _ (if isSnapshotId id.toList then pure id else _) _
    split <;> exact reading

theorem holds_freestyleCandidate (reading : Reading h) :
    Holds (Guard config configured force only) (returning fun later _ => Reading later)
      (freestyleCandidate only) h := by
  rw [freestyleCandidate]
  split
  · refine ⟨trivial, fun key => ?_⟩
    have reading := forall_mem_ask (e := (⟨.freestyleKey, key⟩ : Event)) reading rfl
    cases key with
    | false => exact reading
    | true =>
      refine holds_bind.mpr (holds_captured.mpr
        ((holds_resolveFreestyleSnapshotId reading).mono ?_))
      rintro later (message | id) - reading <;> exact reading
  · exact reading

section
variable {runs : List (ProviderRun SmokeOutcome)} {ids : List ProviderId} {P : Event → Prop}
  {before : Events}

/-- The run a provider has in the map of runs is one of its own. -/
theorem mem_of_find? {β : Type} {runs : List (ProviderRun β)} {run : ProviderRun β}
    (found : runs.reverse.find? (·.provider = id) = some run) : run ∈ runs ∧ run.provider = id :=
  ⟨List.mem_reverse.mp (List.mem_of_find?_eq_some found), by simpa using List.find?_some found⟩

theorem eligible_validated (visited : Visited P Validated before h runs)
    (eligible : id ∈ (promotionScopeAfterValidation ids runs).1) : Validated h id := by
  have passed := (List.mem_filter.mp eligible).2
  rw [Option.any_eq_true] at passed
  obtain ⟨run, found, isOk⟩ := passed
  obtain ⟨member, rfl⟩ := mem_of_find? found
  exact visited.ok run member (of_decide_eq_true isOk)

theorem rejected_not_ok {r : BakeReport} (rejected : r ∈ (promotionScopeAfterValidation ids runs).2) :
    r.status ≠ .ok := by
  obtain ⟨id, member, rfl⟩ := List.mem_map.mp rejected
  have left := (List.mem_filter.mp member).2
  cases found : runs.reverse.find? (·.provider = id) with
  | none => simp [found]
  | some run => simpa [found] using left

/-- A provider left behind without a failure was skipped. -/
theorem eligible_or_skipped (visited : Visited P Validated before h runs)
    (unfailed : ∀ r ∈ (promotionScopeAfterValidation ids runs).2, r.status ≠ .failed)
    (member : id ∈ ids) : id ∈ (promotionScopeAfterValidation ids runs).1 ∨ Skipped h id := by
  by_cases passed : ((runs.reverse.find? (·.provider = id)).any (·.status = .ok)) = true
  · exact Or.inl (List.mem_filter.mpr ⟨member, passed⟩)
  · have reported := unfailed _ (List.mem_map_of_mem (List.mem_filter.mpr ⟨member, by simp [passed]⟩))
    cases found : runs.reverse.find? (·.provider = id) with
    | none => simp [found] at reported
    | some run =>
      obtain ⟨inside, rfl⟩ := mem_of_find? found
      simp only [found, Option.any_some, decide_eq_true_eq, Option.map_some, Option.getD_some]
        at passed reported
      refine Or.inr (visited.skipped run inside ?_)
      cases status : run.status with
      | ok => exact absurd status passed
      | skipped => rfl
      | failed => exact absurd status reported

end

theorem Undrifted.grow {base : String} (undrifted : Undrifted h base) (extends_ : h <+: later) :
    Undrifted later base := by
  obtain ⟨digest, candidate, version, pins⟩ := undrifted
  exact ⟨digest, extends_.subset candidate, extends_.subset version, pins⟩

theorem holds_buildVersionArtifacts {P : Event → Prop} {pinned : String} {snapshot : Option String}
    {eligible : List ProviderId}
    (other : ∀ e : Event, (∀ id ref, e.1 ≠ .bootAndSmoke id ref) → P e)
    (validated : ∀ id ∈ eligible, Validated h id)
    (undrifted : isPartialScope only = true → ∀ id ∈ eligible, baseImageUse id = .bakes →
      Undrifted h pinned)
    (events : ∀ e ∈ h, P e) :
    Holds (Guard config configured force only)
      (returning fun later runs => (∀ id, id ∈ runs.map (·.provider) ↔ id ∈ eligible) ∧
        Visited P (Built config) h later runs)
      (buildVersionArtifacts config pinned snapshot eligible) h := by
  rw [buildVersionArtifacts]
  by_cases none_ : eligible = []
  · rw [if_pos none_, none_]
    exact ⟨fun _ => Iff.rfl, events, fun _ member => absurd member List.not_mem_nil,
      fun _ member => absurd member List.not_mem_nil, fun _ _ member _ => member⟩
  · rw [if_neg none_]
    have stable : Stable (Built config) := fun _ _ _ extends_ built => built.grow extends_
    show Holds _ (returning fun later runs =>
      (∀ id, id ∈ runs.map (·.provider) ↔ id ∈ requested (some eligible)) ∧
        Visited P (Built config) h later runs) _ _
    refine holds_forEachProviderWithCreds stable ?_ ?_ events
    · intro e reads
      refine other e fun id ref boots => ?_
      rw [boots] at reads
      cases reads
    · intro id member later extends_ events
      exact holds_buildVersionArtifact other ((validated id member).grow extends_)
        (fun backfill bakes => (undrifted backfill id member bakes).grow extends_) events

theorem Publishable.ask {source : String} {e : Event}
    (publishable : Publishable config configured force only h source) (reads : e.1.reads = true) :
    Publishable config configured force only (h ++ [e]) source := by
  have grown := List.prefix_append h [e]
  obtain ⟨full, absent, ⟨digest, resolved, pins⟩, ⟨snapshot, boots⟩, required, unfailed, settled⟩ :=
    publishable
  refine ⟨full, absent.imp_right (·.grow grown), ⟨digest, grown.subset resolved, pins⟩,
    ⟨snapshot, forall_mem_ask boots (boots_of_reads _ reads)⟩, ?_, ?_, ?_⟩
  · intro name member
    obtain ⟨id, named, validated, built⟩ := required name member
    exact ⟨id, named, validated.grow grown, built.grow grown⟩
  · exact fun none_ => forall_mem_ask (unfailed none_) (not_failed_of_reads reads)
  · intro none_ id member
    rcases settled none_ id member with skipped | ⟨validated, built⟩
    · exact Or.inl (skipped.grow grown)
    · exact Or.inr ⟨validated.grow grown, built.grow grown⟩

theorem holds_publish {reports : List BakeReport} {pinned : String}
    (publishable : Publishable config configured force only h pinned) :
    Holds (Guard config configured force only) (fun _ _ => True) (publish reports pinned) h := by
  refine ⟨trivial, fun imageStart => holds_bind.mpr (holds_captured.mpr ?_)⟩
  refine ⟨?_, fun answer => ?_⟩
  · rw [Guard, if_pos rfl]
    exact publishable.ask rfl
  · cases answer <;> exact ⟨trivial, fun _ => trivial⟩

/-- The gates let the image through to a history that has shown it publishable. -/
theorem holds_commit {required : List String} {reports : List BakeReport} {pinned : String}
    (ready : isPartialScope only = false →
      (∀ r ∈ reports, blocks required r.provider r.status = false) →
      (required = [] ∨ unmetRequirements reports required = []) →
      Publishable config configured force only h pinned) :
    Holds (Guard config configured force only) (fun _ _ => True)
      (commit required only pinned reports) h := by
  rw [commit]
  split
  · exact trivial
  · rename_i clear
    simp only [List.any_eq_true, not_exists, not_and, Bool.not_eq_true] at clear
    dsimp only
    split
    · exact trivial
    · rename_i met
      split
      · exact trivial
      · rename_i full
        refine holds_publish (ready (Bool.eq_false_iff.mpr full) clear ?_)
        exact (not_and_or.mp met).imp not_not.mp not_not.mp

theorem mem_effectivePromotionRequirements (full : isPartialScope only = false) {name : String} :
    name ∈ effectivePromotionRequirements configured only ↔ name ∈ configured := by
  simp [effectivePromotionRequirements, full, List.mem_eraseDups]

theorem effectivePromotionRequirements_eq_nil (full : isPartialScope only = false) :
    effectivePromotionRequirements configured only = [] ↔ configured = [] := by
  simp only [List.eq_nil_iff_forall_not_mem, mem_effectivePromotionRequirements full]

theorem status_of_unblocked {required : List String} {provider : String} {status : Status}
    (clear : blocks required provider status = false) (none_ : required = []) : status ≠ .failed := by
  rintro rfl
  simp [blocks, none_] at clear

/-- The reports on which the gates of a promotion decide. -/
def reportsOf (only : Option (List ProviderId)) (validateRuns : List (ProviderRun SmokeOutcome))
    (runs : List (ProviderRun (Option String))) : List BakeReport :=
  (promotionScopeAfterValidation (requested only) validateRuns).2 ++
    runs.map fun run => report run (run.value.join)

/-- A report that is ok is one of the second pass. -/
theorem mem_runs_of_ok {validateRuns : List (ProviderRun SmokeOutcome)}
    {runs : List (ProviderRun (Option String))} {r : BakeReport}
    (member : r ∈ reportsOf only validateRuns runs) (passed : r.status = .ok) :
    ∃ run ∈ runs, run.status = .ok ∧ run.provider.name = r.provider := by
  rcases List.mem_append.mp member with rejected | reported
  · exact absurd passed (rejected_not_ok rejected)
  · obtain ⟨run, inside, rfl⟩ := List.mem_map.mp reported
    exact ⟨run, inside, passed, rfl⟩

section
variable {pinned : String} {snapshot : Option String} {start reading_ validated_ : Events}
  {validateRuns : List (ProviderRun SmokeOutcome)} {runs : List (ProviderRun (Option String))}
  {required : List String}

/-- What the two passes have shown when no gate stops the promotion. -/
theorem publishable_of_passes (vouched : Vouched force only start pinned)
    (sinceStart : start <+: h) (sinceValidated : validated_ <+: h) (reading : Reading reading_)
    (validations : Visited (Boots (candidateRefs config pinned snapshot)) Validated reading_ validated_
      validateRuns)
    (unblocked : ∀ run ∈ validateRuns, blocks required run.provider.name run.status = false)
    (built_ids : ∀ id, id ∈ runs.map (·.provider) ↔
      id ∈ (promotionScopeAfterValidation (requested only) validateRuns).1)
    (builds : Visited (Boots (candidateRefs config pinned snapshot)) (Built config) validated_ h runs)
    (required_iff : required = effectivePromotionRequirements configured only)
    (full : isPartialScope only = false)
    (clear : ∀ r ∈ reportsOf only validateRuns runs, blocks required r.provider r.status = false)
    (met : required = [] ∨ unmetRequirements (reportsOf only validateRuns runs) required = []) :
    Publishable config configured force only h pinned := by
  have eligible {run : ProviderRun (Option String)} (member : run ∈ runs) :
      Validated h run.provider :=
    (eligible_validated validations ((built_ids _).mp (List.mem_map_of_mem member))).grow
      sinceValidated
  have nothing (none_ : configured = []) : required = [] :=
    required_iff.trans ((effectivePromotionRequirements_eq_nil full).mpr none_)
  have run_reported {run : ProviderRun (Option String)} (member : run ∈ runs) :
      report run (run.value.join) ∈ reportsOf only validateRuns runs :=
    List.mem_append_right _ (List.mem_map_of_mem member)
  obtain ⟨absent, digest, resolved, pins⟩ := vouched.full full
  refine ⟨full, absent.imp_right (·.grow sinceStart), ⟨digest, sinceStart.subset resolved, pins⟩,
    ⟨snapshot, builds.events⟩, ?_, ?_, ?_⟩
  · intro name member
    rw [← mem_effectivePromotionRequirements full, ← required_iff] at member
    have satisfied := met.resolve_left (List.ne_nil_of_mem member)
    rw [unmetRequirements, List.filter_eq_nil_iff] at satisfied
    have passed := satisfied name member
    simp only [decide_not, Bool.not_eq_true', decide_eq_false_iff_not, not_not, List.mem_map,
      List.mem_filter, decide_eq_true_eq] at passed
    obtain ⟨r, ⟨reported, isOk⟩, rfl⟩ := passed
    obtain ⟨run, inside, runOk, named⟩ := mem_runs_of_ok reported isOk
    exact ⟨run.provider, named, eligible inside, builds.ok run inside runOk⟩
  · intro none_ e member failed
    have inValidated := builds.unfailed
      (fun run inside => status_of_unblocked (clear _ (run_reported inside)) (nothing none_)) e member
      failed
    have inReading := validations.unfailed
      (fun run inside => status_of_unblocked (unblocked run inside) (nothing none_)) e inValidated
      failed
    exact not_failed_of_reads (reading e inReading) failed
  · intro none_ id member
    have rejected := fun r (inside : r ∈ (promotionScopeAfterValidation (requested only)
        validateRuns).2) =>
      status_of_unblocked (clear r (List.mem_append_left _ inside)) (nothing none_)
    rcases eligible_or_skipped validations rejected member with isEligible | skipped
    · obtain ⟨run, inside, rfl⟩ := List.mem_map.mp ((built_ids id).mpr isEligible)
      cases status : run.status with
      | ok => exact Or.inr ⟨eligible inside, builds.ok run inside status⟩
      | skipped => exact Or.inl (builds.skipped run inside status)
      | failed =>
        exact absurd status
          (status_of_unblocked (clear _ (run_reported inside)) (nothing none_))
    · exact Or.inl (skipped.grow sinceValidated)

end

theorem boots_of_other (refs : CandidateRefs) {e : Event}
    (other : ∀ id ref, e.1 ≠ .bootAndSmoke id ref) : Boots refs e := by
  obtain ⟨q, answer⟩ := e
  cases q with
  | bootAndSmoke id ref => exact absurd rfl (other id ref)
  | _ => exact trivial

theorem holds_release {pinned : String} (vouched : Vouched force only h pinned) :
    Holds (Guard config configured force only) (returning fun _ _ => True)
      (release config (effectivePromotionRequirements configured only) only pinned) h := by
  rw [release]
  refine (holds_freestyleCandidate vouched.reading).andThen ?_
  intro reading_ snapshot sinceStart reading
  refine (holds_validateCandidates reading).andThen ?_
  rintro validated_ validateRuns sinceReading ⟨-, validations⟩
  split
  · exact trivial
  · rename_i unblocked
    simp only [List.any_eq_true, not_exists, not_and, Bool.not_eq_true] at unblocked
    have sinceValidated := sinceStart.trans sinceReading
    have inScope : ∀ id ∈ (promotionScopeAfterValidation (requested only) validateRuns).1,
        id ∈ requested only := fun id eligible => (List.mem_filter.mp eligible).1
    refine (holds_buildVersionArtifacts (fun e => boots_of_other _)
      (fun id => eligible_validated validations)
      (fun backfill id eligible bakes =>
        (vouched.backfill backfill id (inScope id eligible) bakes).grow sinceValidated)
      validations.events).andThen ?_
    rintro last runs sinceLast ⟨ids, builds⟩
    refine (holds_commit (fun full clear met => publishable_of_passes vouched
      (sinceValidated.trans sinceLast) sinceLast reading validations unblocked ids builds rfl full
      clear met)).mono ?_
    rintro later (message | result) - - <;> exact trivial

theorem holds_promoteAll :
    Holds (Guard config configured force only) (returning fun _ _ => True)
      (promoteAll config configured force only) [] := by
  rw [promoteAll]
  have pinned : Holds (Guard config configured force only) (returning (Vouched force only))
      (do checkPublished force only; pinBaseImage only) [] :=
    holds_checkPublished.andThen fun _ _ _ ⟨reading, admitted⟩ =>
      holds_pinBaseImage reading admitted
  refine holds_bind.mpr (holds_captured.mpr (pinned.mono ?_))
  rintro later (reason | pinned) - vouched
  · exact trivial
  · exact holds_release vouched

/-- Whenever a promotion builds a version artifact or retags an image, it has observed what that
needs: over every run, with any answers of the registry, the providers and the builders. -/
theorem promoteAll_guarded (config : Config) (configured : List String) (force : Bool)
    (only : Option (List ProviderId)) (h : Events) (q : Query)
    (asks : (promoteAll config configured force only).run.Asks h q) :
    Guard config configured force only h q :=
  holds_promoteAll.asks asks

/-! ### A sample run -/

def sampleConfig : Config where
  vercelTeamSlug := "starsling"
  vercelProjectName := "hpc-sandbox-benchmarks"
  vercelImageCandidate := ""

def sampleDigest : String := "sha256:" ++ String.ofList (List.replicate 64 'a')

def samplePinned : String :=
  "ghcr.io/starslingdev/sandbox-benchmarks-toolchain@" ++ sampleDigest

def sampleVisit (id : ProviderId) : Events :=
  if id = .modalGvisor then
    [⟨.missing id, []⟩, ⟨.now, 0⟩,
      ⟨.bootAndSmoke id (some samplePinned), ⟨[⟨"toolchain", true⟩], none⟩⟩, ⟨.now, 1⟩]
  else [⟨.missing id, ["API_KEY"]⟩]

/-- The version is absent, only one provider has credentials, and it validates. -/
def sampleEvents : Events :=
  [⟨.manifestInspect (toolchainImageRef .version), .ok (1, "no such manifest")⟩,
    ⟨.imagetoolsInspect (toolchainImageRef .candidate), .ok (some sampleDigest)⟩,
    ⟨.freestyleKey, false⟩] ++ providers.flatMap sampleVisit ++
    [⟨.missing .modalGvisor, []⟩, ⟨.now, 2⟩, ⟨.now, 2⟩, ⟨.now, 2⟩]

theorem promoteAll_guarded_sample :
    (promoteAll sampleConfig ["modal-gvisor"] false none).run.Asks sampleEvents
        (.imagetoolsCreate (toolchainImageRef .version) samplePinned) ∧
      Publishable sampleConfig ["modal-gvisor"] false none sampleEvents samplePinned := by
  have asks : (promoteAll sampleConfig ["modal-gvisor"] false none).run.Asks sampleEvents
      (.imagetoolsCreate (toolchainImageRef .version) samplePinned) :=
    Program.asks_of_asking (by decide +kernel)
  have guarded := promoteAll_guarded sampleConfig ["modal-gvisor"] false none sampleEvents _ asks
  rw [Guard, if_pos rfl] at guarded
  exact ⟨asks, guarded⟩

end Promote
