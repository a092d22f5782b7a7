import Mathlib.Data.Rat.Floor
import SandboxBenchmarks.Library.JsonFields
import SandboxBenchmarks.SuiteContract

/-!
# Network probe artifacts

`packages/results/src/lib/network-probes.ts`: each artifact has one schema, and what
fails it contributes nothing. Arithmetic is exact.
-/

namespace NetworkProbes

open JsonText SuiteContract

structure NetworkProbeContribution where
  metricId : String
  samples : List ℚ
deriving DecidableEq, Repr

/-- A publishable reading. -/
def reading (value : Value) : Option ℚ := value.number?.filter (fun q => 0 ≤ q)

/-- Never empty, never an unknown id. -/
def contributionSchema (contribution : NetworkProbeContribution) : Bool :=
  networkProbeMetricIds.contains contribution.metricId && ! contribution.samples.isEmpty &&
    contribution.samples.all (fun sample => decide (0 ≤ sample))

def contributionsSchema (contributions : List NetworkProbeContribution) :
    Option (List NetworkProbeContribution) :=
  if contributions.all contributionSchema then some contributions else none

/-- `Math.round(seconds * 1_000_000) / 1000` -/
def secondsToMs (seconds : ℚ) : ℚ := (⌊seconds * 1000000 + 1 / 2⌋ : ℤ) / 1000

/-- `number.integer | null`, where the field may be missing. -/
def exitcode? (fields : List (String × Value)) : Option ℤ :=
  match Keyed.get? fields "exitcode" with
  | none => some 0
  | some .null => some 0
  | some value => value.integer?

/-- The sample of a response, or `none` inside for a recorded non-response. -/
def latencySample (record : Value) : Option (Option ℚ) := do
  let fields ← record.fields?
  let exitcode ← exitcode? fields
  let responseCode ← required fields "response_code" (·.natural?)
  let timeTotal ← required fields "time_total" reading
  return if exitcode = 0 ∧ 0 < responseCode then some (secondsToMs timeTotal) else none

structure LatencyEndpoint where
  url : String
  curlRecords : List (Option ℚ)
deriving DecidableEq, Repr

def latencyEndpoint (endpoint : Value) : Option LatencyEndpoint := do
  let fields ← endpoint.fields?
  let url ← required fields "url" (·.string?)
  let curlRecords ← required fields "curl_records" (·.array? latencySample)
  return ⟨url, curlRecords⟩

def latencyContribution (endpoints : List LatencyEndpoint) (target : NetworkLatencyTarget) :
    List NetworkProbeContribution :=
  let samples := ((endpoints.filter (fun endpoint => endpoint.url == target.url)).flatMap
    (·.curlRecords)).filterMap id
  if samples.isEmpty then [] else [⟨target.id, samples⟩]

def latencyArtifact (body : Value) : Option (List NetworkProbeContribution) := do
  let fields ← body.fields?
  let endpoints ← required fields "endpoints" (·.array? latencyEndpoint)
  contributionsSchema (networkLatencyTargets.flatMap (latencyContribution endpoints))

def isHexDigit (c : Char) : Bool := c.isDigit || decide ('a' ≤ c ∧ c ≤ 'f')

/-- A fresh random name under a domain, perhaps fully qualified. -/
def isCacheMissName (domain name : String) : Bool :=
  let label := name.toList.take 20
  let rest := name.toList.drop 20
  decide (label.take 4 = "sbx-".toList) && decide (label.length = 20) &&
    (label.drop 4).all isHexDigit &&
    (decide (rest = '.' :: domain.toList) || decide (rest = '.' :: domain.toList ++ ['.']))

/-- Exactly one answer, to a question no resolver can have cached. -/
def dnsColdArtifact (target : NetworkDnsTarget) (body : Value) :
    Option (List NetworkProbeContribution) :=
  match body with
  | .arr [answer] => do
    let fields ← answer.fields?
    let status ← required fields "status" (·.string?)
    let queryTime ← required fields "query_time" (·.natural?)
    let question ← required fields "question" (·.fields?)
    let name ← required question "name" (·.string?)
    if (status = "NOERROR" ∨ status = "NXDOMAIN") ∧ isCacheMissName target.domain name = true then
      contributionsSchema [⟨target.id, [(queryTime : ℚ)]⟩]
    else none
  | _ => none

/-- The record of the pinned payload; a transfer cut short still has its rate. -/
def downloadArtifact (body : Value) : Option (List NetworkProbeContribution) := do
  let fields ← body.fields?
  let url ← optional fields "url" (·.string?)
  let exitcode ← exitcode? fields
  let httpCode ← required fields "http_code" (·.integer?)
  let sizeDownload ← required fields "size_download" (·.number?)
  let speedDownload ← required fields "speed_download" (·.number?)
  if (url.all (fun url => url = networkDownloadTarget.url)) = true ∧
      (exitcode = 0 ∨ exitcode = 28) ∧ 100 ≤ httpCode ∧ httpCode < 400 ∧ 0 < sizeDownload ∧
      0 < speedDownload then
    contributionsSchema [⟨networkDownloadTarget.id, [speedDownload * 8 / 1000000]⟩]
  else none

def networkLatencyFile : String := "network-latency.json"

def networkDownloadFile : String := "network-download--speed.json"

def networkDnsColdFile (domain : String) : String := s!"network-dns--cold--{domain}.json"

/-- Exact artifact file names, each with its schema. -/
def probeParsers : List (String × (Value → Option (List NetworkProbeContribution))) :=
  [(networkLatencyFile, latencyArtifact), (networkDownloadFile, downloadArtifact)] ++
    networkDnsTargets.map (fun target => (networkDnsColdFile target.domain, dnsColdArtifact target))

def isNetworkProbeFile (filename : String) : Bool := Keyed.has probeParsers filename

/-- `body` is `none` where the file held no JSON. -/
def networkProbeContributions (filename : String) (body : Option Value) :
    List NetworkProbeContribution :=
  (((Keyed.get? probeParsers filename).bind (fun parser => body.bind parser))).getD []

/-! ### What a schema accepts -/

lemma mem_contributionsSchema {contributions accepted : List NetworkProbeContribution}
    (h : contributionsSchema contributions = some accepted) {c : NetworkProbeContribution}
    (hc : c ∈ accepted) : contributionSchema c = true := by
  unfold contributionsSchema at h
  split at h
  · rename_i all
    obtain rfl := Option.some.inj h
    exact List.all_eq_true.mp all c hc
  · cases h

/-- Every schema ends in the contributions schema. -/
lemma probeParsers_accept {filename : String} {parser : Value → Option (List NetworkProbeContribution)}
    (h : (filename, parser) ∈ probeParsers) {body : Value} {accepted : List NetworkProbeContribution}
    (ran : parser body = some accepted) :
    ∃ contributions, contributionsSchema contributions = some accepted := by
  rw [probeParsers, List.mem_append, List.mem_cons, List.mem_singleton, List.mem_map] at h
  rcases h with (h | h) | ⟨target, -, h⟩
  · obtain ⟨rfl, rfl⟩ := Prod.mk.inj h
    simp only [latencyArtifact, Option.bind_eq_bind, Option.bind_eq_some_iff] at ran
    obtain ⟨_, -, _, -, ran⟩ := ran
    exact ⟨_, ran⟩
  · obtain ⟨rfl, rfl⟩ := Prod.mk.inj h
    simp only [downloadArtifact, Option.bind_eq_bind, Option.bind_eq_some_iff] at ran
    obtain ⟨_, -, _, -, _, -, _, -, _, -, _, -, ran⟩ := ran
    split at ran
    · exact ⟨_, ran⟩
    · cases ran
  · obtain ⟨rfl, rfl⟩ := Prod.mk.inj h
    unfold dnsColdArtifact at ran
    split at ran
    · simp only [Option.bind_eq_bind, Option.bind_eq_some_iff] at ran
      obtain ⟨_, -, _, -, _, -, _, -, _, -, ran⟩ := ran
      split at ran
      · exact ⟨_, ran⟩
      · cases ran
    · cases ran

/-- A contribution has samples, and they are of a probe metric. -/
theorem contributionSchema_of_mem {filename : String} {body : Option Value}
    {c : NetworkProbeContribution} (h : c ∈ networkProbeContributions filename body) :
    contributionSchema c = true := by
  unfold networkProbeContributions at h
  cases ran : (Keyed.get? probeParsers filename).bind (fun parser => body.bind parser) with
  | none =>
    rw [ran] at h
    cases h
  | some accepted =>
    rw [ran, Option.getD_some] at h
    simp only [Option.bind_eq_some_iff] at ran
    obtain ⟨parser, found, body', -, ran⟩ := ran
    obtain ⟨contributions, checked⟩ := probeParsers_accept (Keyed.mem_of_get? found) ran
    exact mem_contributionsSchema checked h

end NetworkProbes
