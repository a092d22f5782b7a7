import SandboxBenchmarks.Library.Checks
import SandboxBenchmarks.Library.Keyed

/-!
# Account journal records

`packages/schema/src/cleanup-recovery.ts`, `accountRecordSchema` of
`apps/cli/src/lib/account-journal.ts`, and what its `recoverAccount` decides
from the records it has read.
-/

namespace AccountJournal

open Checks

structure SandboxRef where
  provider : String
  id : String
deriving DecidableEq, Repr

inductive RecordKind where
  | intent
  | allocated
  | cleanupAttested
  | released
deriving DecidableEq, Repr

inductive CleanupObservation where
  | sandbox (provider sandboxId state : String)
  | runcloudNamedSandbox (sandboxName sandboxId : String)
  | modalApp (appId anchorSandboxId environment : String)
deriving DecidableEq, Repr

/-- Later ownership evidence; it never changes the original receipts. -/
structure CleanupRecovery where
  attemptId : String
  cellId : String
  planDigest : String
  attemptDigest : String
  workflowRun : String
  sourceSha : String
  confirmedAt : String
  operator : String
  observation : CleanupObservation
deriving DecidableEq, Repr

inductive ReconciliationEvidence where
  | completedCreate (sourceSha attemptDigest workflowRun confirmedAt operator : String)
  | recovery (recovery : CleanupRecovery)
deriving DecidableEq, Repr

/-- What a record says beyond its provenance. -/
inductive RecordBody where
  | intent
  | allocated (ref : SandboxRef)
  | cleanupAttested (recovery : CleanupRecovery)
  | absent (ref : SandboxRef) (recovery : Option CleanupRecovery)
  | notAllocated
  | reconciled (evidence : ReconciliationEvidence)
deriving DecidableEq, Repr

def RecordBody.kind : RecordBody → RecordKind
  | .intent => .intent
  | .allocated _ => .allocated
  | .cleanupAttested _ => .cleanupAttested
  | .absent _ _ => .released
  | .notAllocated => .released
  | .reconciled _ => .released

structure AccountRecord where
  account : String
  attempt : String
  cellId : String
  planDigest : String
  body : RecordBody
deriving DecidableEq, Repr

def AccountRecord.kind (record : AccountRecord) : RecordKind := record.body.kind

/-- Two records of one kind for one attempt. -/
def AccountRecord.clashes (a b : AccountRecord) : Bool :=
  a.attempt == b.attempt && a.kind == b.kind

/-! ### Recovery of an account -/

def ofKind (kind : RecordKind) (records : List AccountRecord) : Option AccountRecord :=
  records.find? (fun entry => entry.kind == kind)

/-- `entry.planDigest !== intent.planDigest || entry.cellId !== intent.cellId` -/
def strays (intent entry : AccountRecord) : Bool :=
  entry.planDigest != intent.planDigest || entry.cellId != intent.cellId

def bodyOf (kind : RecordKind) (records : List AccountRecord) : Option RecordBody :=
  (ofKind kind records).map AccountRecord.body

def allocatedRef (records : List AccountRecord) : Option SandboxRef :=
  match bodyOf .allocated records with
  | some (.allocated ref) => some ref
  | _ => none

/-- Whether an attestation supplements the release of exactly the allocated sandbox. -/
def supplements (recovery : CleanupRecovery) (records : List AccountRecord) : Bool :=
  match ofKind .intent records, allocatedRef records, bodyOf .released records with
  | some intent, some ref, some (.absent released none) =>
    records.length == 4 &&
      records.all (fun record => record.account == intent.account &&
        record.attempt == intent.attempt && ! strays intent record) &&
      ref == released && recovery.attemptId == intent.attempt &&
      recovery.cellId == intent.cellId && recovery.planDigest == intent.planDigest &&
      match recovery.observation with
      | .sandbox provider sandboxId _ => sandboxId == ref.id && provider == ref.provider
      | _ => false
  | _, _, _ => false

/-- A later attestation supplements an ordinary identity-based release; it never replaces it. -/
def supplementalCleanupRecovery (records : List AccountRecord) :
    Except String (Option CleanupRecovery) :=
  match records.filterMap (fun record => match record.body with
    | .cleanupAttested recovery => some recovery
    | _ => none) with
  | [] => return none
  | [recovery] => do
    throwIf (supplements recovery records = false)
      "cleanup attestation contradicts durable allocation and release"
    return some recovery
  | _ => throw "cleanup attestation contradicts durable allocation and release"

/-- One record of the first loop of `recoverAccount`, filed under its attempt. -/
def fileRecord (account : String) (attempts : List (String × List AccountRecord))
    (record : AccountRecord) : Except String (List (String × List AccountRecord)) := do
  throwIf (record.account ≠ account) "account journal identity mismatch"
  let records := (Keyed.get? attempts record.attempt).getD []
  throwIf (records.any (fun entry => entry.kind == record.kind) = true)
    "conflicting account journal records"
  return Keyed.set attempts record.attempt (records ++ [record])

def fileRecords (account : String) (records : List AccountRecord) :
    Except String (List (String × List AccountRecord)) :=
  records.foldlM (fileRecord account) []

/-- One turn of the second loop: nothing to do, or the intent and sandbox of an open attempt. -/
def interrupted (records : List AccountRecord) :
    Except String (Option (AccountRecord × SandboxRef)) := do
  let _ ← supplementalCleanupRecovery records
  let intent ← require (ofKind .intent records) "incomplete account journal provenance"
  throwIf (records.any (strays intent) = true) "incomplete account journal provenance"
  match bodyOf .released records with
  | some (.absent ref _) =>
    throwIf (allocatedRef records ≠ some ref) "account release contradicts allocation evidence"
    return none
  | some _ =>
    throwIf ((ofKind .allocated records).isSome = true)
      "account release contradicts allocation evidence"
    return none
  | none =>
    let ref ← require (allocatedRef records) s!"unresolved create {intent.attempt}: no durable sandbox identity; recover-not-allocated-intent when the attempt proves create never started and cleanup is not-allocated, otherwise vendor-confirmed recovery required (recover-allocated-intent when the retained attempt evidence holds allocation.json)"
    return some (intent, ref)

end AccountJournal
