import SandboxBenchmarks.AccountJournal

/-!
# What a journal may say

The ownership of a sandbox as one attempt's records tell it, from the intent to the
release, and journals in which every attempt tells such a story. Recovery rejects no
such journal, and it finds open exactly the attempts whose story has not ended.
-/

namespace AccountJournal

open Checks

/-- What all records of one attempt share. -/
structure Provenance where
  account : String
  attempt : String
  cellId : String
  planDigest : String
deriving DecidableEq, Repr

def Provenance.record (p : Provenance) (body : RecordBody) : AccountRecord where
  account := p.account
  attempt := p.attempt
  cellId := p.cellId
  planDigest := p.planDigest
  body := body

/-- An operator's recovery is about this attempt and the sandbox allocated for it. -/
structure Attests (p : Provenance) (ref : SandboxRef) (recovery : CleanupRecovery) : Prop where
  attempt : recovery.attemptId = p.attempt
  cell : recovery.cellId = p.cellId
  plan : recovery.planDigest = p.planDigest
  sandbox : ∃ state, recovery.observation = .sandbox ref.provider ref.id state

/-- How the ownership of an attempt may have developed. -/
inductive Story (p : Provenance) : List RecordBody → Prop
  | untouched : Story p []
  | intended : Story p [.intent]
  | allocated (ref : SandboxRef) : Story p [.intent, .allocated ref]
  | absent (ref : SandboxRef) (recovery : Option CleanupRecovery) :
      Story p [.intent, .allocated ref, .absent ref recovery]
  | attested (ref : SandboxRef) (recovery : CleanupRecovery) (attests : Attests p ref recovery) :
      Story p [.intent, .allocated ref, .absent ref none, .cleanupAttested recovery]
  | notAllocated : Story p [.intent, .notAllocated]
  | reconciled (evidence : ReconciliationEvidence) : Story p [.intent, .reconciled evidence]

namespace Story

variable {p : Provenance} {bodies : List RecordBody}

theorem dropLast (story : Story p bodies) : Story p bodies.dropLast := by
  cases story with
  | untouched => exact .untouched
  | intended => exact .untouched
  | allocated ref => exact .intended
  | absent ref recovery => exact .allocated ref
  | attested ref recovery attests => exact .absent ref none
  | notAllocated => exact .intended
  | reconciled evidence => exact .intended

theorem of_snoc {body : RecordBody} (story : Story p (bodies ++ [body])) : Story p bodies := by
  simpa using story.dropLast

theorem nodup_kinds (story : Story p bodies) : (bodies.map RecordBody.kind).Nodup := by
  cases story <;> simp [RecordBody.kind]

end Story

/-! ### The records of one attempt -/

def ofAttempt (attempt : String) (records : List AccountRecord) : List AccountRecord :=
  records.filter (fun record => record.attempt = attempt)

@[simp] theorem ofAttempt_nil (attempt : String) : ofAttempt attempt [] = [] := rfl

@[simp] theorem ofAttempt_append (attempt : String) (a b : List AccountRecord) :
    ofAttempt attempt (a ++ b) = ofAttempt attempt a ++ ofAttempt attempt b :=
  List.filter_append a b

@[simp] theorem mem_ofAttempt {attempt : String} {records : List AccountRecord}
    {record : AccountRecord} :
    record ∈ ofAttempt attempt records ↔ record ∈ records ∧ record.attempt = attempt := by
  simp [ofAttempt]

theorem ofAttempt_singleton_self (record : AccountRecord) :
    ofAttempt record.attempt [record] = [record] := by
  simp [ofAttempt]

theorem ofAttempt_singleton_other {attempt : String} {record : AccountRecord}
    (other : record.attempt ≠ attempt) : ofAttempt attempt [record] = [] := by
  simp [ofAttempt, other]

/-- The records are those of an attempt with such a story. -/
def Tells (account attempt : String) (records : List AccountRecord) : Prop :=
  ∃ (p : Provenance) (bodies : List RecordBody), p.account = account ∧ p.attempt = attempt ∧
    Story p bodies ∧ records = bodies.map p.record

/-- A journal of one account in which every attempt tells a story. -/
def Coherent (account : String) (records : List AccountRecord) : Prop :=
  ∀ attempt, Tells account attempt (ofAttempt attempt records)

/-- The record takes its attempt's story one step further. -/
def Continues (account : String) (records : List AccountRecord) (record : AccountRecord) : Prop :=
  Tells account record.attempt (ofAttempt record.attempt records ++ [record])

section
variable {account attempt : String} {records : List AccountRecord} {record : AccountRecord}

theorem Tells.nil (account attempt : String) : Tells account attempt [] :=
  ⟨⟨account, attempt, "", ""⟩, [], rfl, rfl, .untouched, rfl⟩

theorem Tells.of_snoc (tells : Tells account attempt (records ++ [record])) :
    Tells account attempt records := by
  obtain ⟨p, bodies, hAccount, hAttempt, story, same⟩ := tells
  refine ⟨p, bodies.dropLast, hAccount, hAttempt, story.dropLast, ?_⟩
  have shorter := congrArg List.dropLast same
  rwa [List.dropLast_concat, ← List.map_dropLast] at shorter

theorem Tells.nodup_kinds (tells : Tells account attempt records) :
    (records.map AccountRecord.kind).Nodup := by
  obtain ⟨p, bodies, -, -, story, rfl⟩ := tells
  rw [List.map_map]
  exact story.nodup_kinds

theorem Coherent.nil (account : String) : Coherent account [] := fun attempt => .nil account attempt

theorem Coherent.append (coherent : Coherent account records)
    (continues : Continues account records record) : Coherent account (records ++ [record]) := by
  intro attempt
  rw [ofAttempt_append]
  by_cases same : record.attempt = attempt
  · subst same
    rw [ofAttempt_singleton_self]
    exact continues
  · rw [ofAttempt_singleton_other same, List.append_nil]
    exact coherent attempt

theorem Coherent.owned (coherent : Coherent account records) (member : record ∈ records) :
    record.account = account := by
  obtain ⟨p, bodies, rfl, -, -, same⟩ := coherent record.attempt
  have mine : record ∈ ofAttempt record.attempt records := mem_ofAttempt.mpr ⟨member, rfl⟩
  rw [same] at mine
  obtain ⟨body, -, rfl⟩ := List.mem_map.mp mine
  rfl

theorem continues_of_story (p : Provenance) (bodies : List RecordBody) {body : RecordBody}
    (told : ofAttempt p.attempt records = bodies.map p.record) (story : Story p (bodies ++ [body])) :
    Continues p.account records (p.record body) := by
  have mine : (p.record body).attempt = p.attempt := rfl
  rw [Continues, mine, told]
  exact ⟨p, bodies ++ [body], rfl, rfl, story, by simp⟩

/-- No attempt has two records of one kind. -/
theorem Coherent.not_clashes (coherent : Coherent account records) {before after : List AccountRecord}
    (split : records = before ++ record :: after) {entry : AccountRecord} (earlier : entry ∈ before)
    (same : entry.attempt = record.attempt) : entry.kind ≠ record.kind := by
  have kinds := (coherent record.attempt).nodup_kinds
  have cut : ofAttempt record.attempt records =
      ofAttempt record.attempt before ++ record :: ofAttempt record.attempt after := by
    rw [split, ofAttempt_append, ← List.singleton_append, ofAttempt_append,
      ofAttempt_singleton_self]
    rfl
  rw [cut, List.map_append, List.map_cons] at kinds
  intro clash
  have before' : record.kind ∈ (ofAttempt record.attempt before).map AccountRecord.kind :=
    clash ▸ List.mem_map_of_mem (mem_ofAttempt.mpr ⟨earlier, same⟩)
  exact (List.nodup_append.mp kinds).2.2 _ before' _ List.mem_cons_self rfl

end

/-! ### Filing the records -/

/-- The records read so far, filed under their attempts. -/
structure Grouped (records : List AccountRecord) (attempts : List (String × List AccountRecord)) :
    Prop where
  nodup : (attempts.map Prod.fst).Nodup
  found : ∀ attempt group, Keyed.get? attempts attempt = some group →
    group = ofAttempt attempt records ∧ group ≠ []
  all : ∀ record ∈ records, record.attempt ∈ attempts.map Prod.fst

theorem Grouped.getD {records : List AccountRecord} {attempts : List (String × List AccountRecord)}
    (grouped : Grouped records attempts) (attempt : String) :
    (Keyed.get? attempts attempt).getD [] = ofAttempt attempt records := by
  cases found : Keyed.get? attempts attempt with
  | some group => exact (grouped.found attempt group found).1
  | none =>
    symm
    rw [Option.getD_none, List.eq_nil_iff_forall_not_mem]
    intro record member
    obtain ⟨inside, rfl⟩ := mem_ofAttempt.mp member
    exact Keyed.get?_eq_none_iff.mp found (grouped.all record inside)

theorem Grouped.snoc {records : List AccountRecord} {attempts : List (String × List AccountRecord)}
    (grouped : Grouped records attempts) (record : AccountRecord) :
    Grouped (records ++ [record])
      (Keyed.set attempts record.attempt (ofAttempt record.attempt records ++ [record])) where
  nodup := by
    rw [Keyed.keys_set]
    exact Keyed.nodup_add grouped.nodup _
  found := by
    intro attempt group found
    rw [Keyed.get?_set] at found
    rw [ofAttempt_append]
    split at found
    · rename_i same
      subst same
      obtain rfl := Option.some.inj found
      rw [ofAttempt_singleton_self]
      exact ⟨rfl, by simp⟩
    · rename_i other
      rw [ofAttempt_singleton_other other, List.append_nil]
      exact grouped.found attempt group found
  all := by
    intro entry member
    rw [Keyed.keys_set, Keyed.mem_add]
    rcases List.mem_append.mp member with before | last
    · exact .inl (grouped.all entry before)
    · exact .inr (by rw [List.mem_singleton.mp last])

/-- Recovery can file every record of a coherent journal. -/
theorem Coherent.fileRecords {account : String} {records : List AccountRecord}
    (coherent : Coherent account records) :
    ∃ attempts, fileRecords account records = .ok attempts ∧ Grouped records attempts := by
  refine foldlM_returns (f := fileRecord account) Grouped ⟨.nil, nofun, nofun⟩ ?_
  intro before record after attempts split grouped
  refine ⟨_, ?_, grouped.snoc record⟩
  have ours : record.account = account := by
    refine coherent.owned ?_
    rw [split]
    simp
  have fresh : ((ofAttempt record.attempt before).any fun entry => entry.kind == record.kind) =
      false := by
    simp only [List.any_eq_false, beq_iff_eq]
    intro entry member
    obtain ⟨earlier, same⟩ := mem_ofAttempt.mp member
    exact coherent.not_clashes split earlier same
  simp [fileRecord, throwIf, ours, grouped.getD, fresh, pure, Except.pure]

/-! ### Judging one attempt -/

@[simp] theorem Provenance.body_record (p : Provenance) (body : RecordBody) :
    (p.record body).body = body := rfl

@[simp] theorem Provenance.kind_record (p : Provenance) (body : RecordBody) :
    (p.record body).kind = body.kind := rfl

@[simp] theorem Provenance.strays_record (p : Provenance) (a b : RecordBody) :
    strays (p.record a) (p.record b) = false := by
  simp [strays, record]

theorem Provenance.ofKind_record (p : Provenance) (kind : RecordKind) (bodies : List RecordBody) :
    ofKind kind (bodies.map p.record) =
      (bodies.find? fun body => body.kind == kind).map p.record := by
  rw [ofKind, List.find?_map]
  rfl

theorem Provenance.bodyOf_record (p : Provenance) (kind : RecordKind) (bodies : List RecordBody) :
    bodyOf kind (bodies.map p.record) = bodies.find? fun body => body.kind == kind := by
  rw [bodyOf, p.ofKind_record, Option.map_map]
  exact congrFun Option.map_id _

theorem Tells.supplemental {account attempt : String} {records : List AccountRecord}
    (tells : Tells account attempt records) :
    ∃ recovery, supplementalCleanupRecovery records = .ok recovery := by
  obtain ⟨p, bodies, -, -, story, rfl⟩ := tells
  cases story with
  | attested ref recovery attests =>
    obtain ⟨hAttempt, hCell, hPlan, state, hSandbox⟩ := attests
    have agrees : supplements recovery ([.intent, .allocated ref, .absent ref none,
        .cleanupAttested recovery].map p.record) = true := by
      simp only [supplements, allocatedRef, p.ofKind_record, p.bodyOf_record]
      simp [RecordBody.kind, hAttempt, hCell, hPlan, hSandbox, Provenance.record, strays]
    refine ⟨some recovery, ?_⟩
    change (do throwIf (supplements recovery _ = false) _; pure (some recovery)) = _
    rw [agrees]
    rfl
  | _ => exact ⟨none, rfl⟩

/-- The attempt was intended, and nothing else is known of it. -/
def Unresolved (records : List AccountRecord) : Prop :=
  ∃ intent, records = [intent] ∧ intent.kind = .intent

/-- What recovery makes of an attempt, by its story. -/
theorem Tells.interrupted {account attempt : String} {records : List AccountRecord}
    (tells : Tells account attempt records) (nonempty : records ≠ []) :
    (∃ e, interrupted records = .error e ∧ Unresolved records) ∨
    (∃ (p : Provenance) (ref : SandboxRef), p.account = account ∧ p.attempt = attempt ∧
      records = [p.record .intent, p.record (.allocated ref)] ∧
      interrupted records = .ok (some (p.record .intent, ref))) ∨
    (interrupted records = .ok none ∧ ∃ record ∈ records, record.kind = .released) := by
  obtain ⟨recovery, supplemental⟩ := tells.supplemental
  obtain ⟨p, bodies, hAccount, hAttempt, story, rfl⟩ := tells
  cases story with
  | untouched => exact absurd rfl nonempty
  | intended =>
    left
    cases judged : AccountJournal.interrupted ([.intent].map p.record) with
    | error e => exact ⟨e, rfl, p.record .intent, rfl, rfl⟩
    | ok open_ =>
      simp only [AccountJournal.interrupted, supplemental, ok_bind] at judged
      simp only [allocatedRef, p.ofKind_record, p.bodyOf_record] at judged
      simp [RecordBody.kind, throwIf, require] at judged
  | allocated ref =>
    refine .inr (.inl ⟨p, ref, hAccount, hAttempt, rfl, ?_⟩)
    simp only [AccountJournal.interrupted, supplemental, ok_bind]
    simp only [allocatedRef, p.ofKind_record, p.bodyOf_record]
    simp [RecordBody.kind, throwIf, require]
  | _ =>
    refine .inr (.inr ⟨?_, by simp [RecordBody.kind]⟩)
    simp only [AccountJournal.interrupted, supplemental, ok_bind]
    simp only [allocatedRef, p.ofKind_record, p.bodyOf_record]
    simp [RecordBody.kind, throwIf, require]

end AccountJournal
