import Mathlib.Data.Fintype.Option
import SandboxBenchmarks.AggregateFolds

/-!
# One pass over a provider's slices

Gaps, metrics and verdicts of the pass in closed form, and the pass itself as its
independent folds.
-/

namespace Aggregate

open CanonicalJson Checks JsonText PlanVerification RunModel

variable {runtime : Runtime} {catalog : Catalog}

/-! ### Gaps -/

lemma kind_field (c : GapCause) : Keyed.get? c.fields "kind" = some (.str c.kind) := by
  cases c with
  | sandboxCreateFailed detail => cases detail <;> rfl
  | sandboxLost step polls => cases polls <;> rfl
  | stepFailed step code => cases code <;> rfl
  | unsupportedOperation detail => cases detail <;> rfl
  | measurementDisabled detail => cases detail <;> rfl
  | _ => rfl

lemma texts_append_injective {key : String} {a b : Option String} {rest : List (String × Value)}
    (h : ExperimentRecords.texts key a ++ rest = ExperimentRecords.texts key b ++ rest) : a = b := by
  have heads := List.append_cancel_right h
  cases a with
  | none => cases b with
    | none => rfl
    | some t => simp [ExperimentRecords.texts, optionalField] at heads
  | some s => cases b with
    | none => simp [ExperimentRecords.texts, optionalField] at heads
    | some t => simpa [ExperimentRecords.texts, optionalField] using heads

lemma strings_injective : Function.Injective strings := by
  intro a b h
  have injective : Function.Injective Value.str := fun _ _ h => Value.str.inj h
  exact List.map_injective_iff.mpr injective (Value.arr.inj h)

lemma natural_injective : Function.Injective natural := by
  intro a b h
  exact_mod_cast Value.num.inj h

lemma integer_injective : Function.Injective integer := by
  intro a b h
  exact_mod_cast Value.num.inj h

lemma optionalField_append_injective {α : Type} {f : α → Value} (injective : Function.Injective f)
    {key : String} {a b : Option α} {rest rest' : List (String × Value)}
    (h : optionalField key (a.map f) ++ rest = optionalField key (b.map f) ++ rest')
    (lengths : rest.length = rest'.length) : a = b ∧ rest = rest' := by
  obtain ⟨heads, tails⟩ := List.append_inj' h lengths
  refine ⟨?_, tails⟩
  cases a with
  | none => cases b with
    | none => rfl
    | some y => simp [optionalField] at heads
  | some x => cases b with
    | none => simp [optionalField] at heads
    | some y =>
      simp only [optionalField, Option.map_some, Option.toList_some, List.cons.injEq,
        Prod.mk.injEq, true_and, and_true] at heads
      rw [injective heads]

theorem fields_injective : Function.Injective GapCause.fields := by
  intro c d h
  have kinds : c.kind = d.kind := by
    have read := congrArg (fun fields => Keyed.get? fields "kind") h
    simpa only [kind_field, Option.some.injEq, Value.str.injEq] using read
  -- causes of different kinds are told apart; the rest compares field by field
  cases c with
  | diskShortfall freeGb requiredGb =>
    cases d <;> simp_all [GapCause.kind, GapCause.fields]
  | missingCredentials names =>
    cases d <;> simp_all [GapCause.kind, GapCause.fields]
    exact strings_injective h
  | sandboxCreateFailed detail =>
    cases d <;> simp only [GapCause.kind, String.reduceEq] at kinds
    rw [texts_append_injective h]
  | sandboxLost step polls =>
    cases d <;> simp only [GapCause.kind, String.reduceEq] at kinds
    obtain ⟨rfl, rest⟩ := optionalField_append_injective natural_injective h rfl
    simp_all
  | stepTimeout step seconds =>
    cases d <;> simp_all [GapCause.kind, GapCause.fields]
  | stepFailed step code =>
    cases d <;> simp only [GapCause.kind, String.reduceEq] at kinds
    obtain ⟨rfl, rest⟩ := optionalField_append_injective integer_injective h rfl
    simp_all
  | metricsUnrecorded metricIds declared =>
    cases d <;> simp_all [GapCause.kind, GapCause.fields]
    exact ⟨strings_injective h.2, natural_injective h.1⟩
  | duplicateValueDedup metricIds =>
    cases d <;> simp_all [GapCause.kind, GapCause.fields]
    exact strings_injective h
  | unsupportedOperation detail =>
    cases d <;> simp only [GapCause.kind, String.reduceEq] at kinds
    rw [texts_append_injective h]
  | measurementDisabled detail =>
    cases d <;> simp only [GapCause.kind, String.reduceEq] at kinds
    rw [texts_append_injective h]

theorem causeKey_injective : Function.Injective (causeKey runtime) := by
  intro c d h
  exact fields_injective (Value.obj.inj (text_injective (String.ofList_injective h)))

/-- The cause kept after seeing another one. -/
def keepCause (runtime : Runtime) (best next : Option GapCause) : Option GapCause :=
  match next with
  | none => best
  | some cause => if preferCause runtime best cause then some cause else best

/-- A gap joined to the one already filed under its key. -/
def joinGap (runtime : Runtime) (current : Option ResultGap) (gap : ResultGap) : ResultGap :=
  match current with
  | none => gap
  | some existing => { existing with cause := keepCause runtime existing.cause gap.cause }

lemma get?_addGap (m : List (String × ResultGap)) (gap : ResultGap) (k : String) :
    Keyed.get? (addGap runtime m gap) k =
      if gapKey gap = k then some (joinGap runtime (Keyed.get? m k) gap) else Keyed.get? m k := by
  unfold addGap
  by_cases here : gapKey gap = k
  · subst here
    cases found : Keyed.get? m (gapKey gap) with
    | none => simp [joinGap]
    | some existing =>
      cases cause : gap.cause with
      | none => simp [joinGap, keepCause, cause, found]
      | some c =>
        by_cases prefer : preferCause runtime existing.cause c = true
        · simp [joinGap, keepCause, cause, prefer]
        · simp [joinGap, keepCause, cause, prefer, found]
  · cases found : Keyed.get? m (gapKey gap) with
    | none => simp [here]
    | some existing =>
      cases cause : gap.cause with
      | none => simp [here]
      | some c =>
        by_cases prefer : preferCause runtime existing.cause c = true
        · simp [prefer, here]
        · simp [prefer, here]

lemma nodup_addGap {m : List (String × ResultGap)} (h : (m.map Prod.fst).Nodup)
    (gap : ResultGap) : ((addGap runtime m gap).map Prod.fst).Nodup := by
  unfold addGap
  split
  · exact Keyed.nodup_keys_set h _ _
  · split
    · exact h
    · split
      · exact Keyed.nodup_keys_set h _ _
      · exact h

lemma nodup_addGaps (gaps : List ResultGap) {m : List (String × ResultGap)}
    (h : (m.map Prod.fst).Nodup) : ((gaps.foldl (addGap runtime) m).map Prod.fst).Nodup := by
  induction gaps generalizing m with
  | nil => exact h
  | cons gap gaps ih => exact ih (nodup_addGap h gap)

/-- The gaps filed under one key, in order. -/
def classOf (k : String) (gaps : List ResultGap) : List ResultGap :=
  gaps.filter (fun gap => gapKey gap == k)

lemma mem_classOf {k : String} {gaps : List ResultGap} {gap : ResultGap} :
    gap ∈ classOf k gaps ↔ gap ∈ gaps ∧ gapKey gap = k := by
  simp [classOf]

lemma get?_addGaps (gaps : List ResultGap) (m : List (String × ResultGap)) (k : String) :
    Keyed.get? (gaps.foldl (addGap runtime) m) k =
      (classOf k gaps).foldl (fun current gap => some (joinGap runtime current gap))
        (Keyed.get? m k) := by
  induction gaps generalizing m with
  | nil => rfl
  | cons gap gaps ih =>
    rw [List.foldl_cons, ih, get?_addGap]
    by_cases here : gapKey gap = k
    · simp [classOf, here]
    · simp [classOf, here]

/-- Among the causes of some gaps, the one no other comes before. -/
structure LeastCause (runtime : Runtime) (gaps : List ResultGap) (cause : GapCause) : Prop where
  named : ∃ gap ∈ gaps, gap.cause = some cause
  least : ∀ gap ∈ gaps, ∀ other, gap.cause = some other →
    CodeUnits.lt (causeKey runtime other) (causeKey runtime cause) = false

lemma LeastCause.unique {gaps gaps' : List ResultGap} (h : ∀ gap, gap ∈ gaps ↔ gap ∈ gaps')
    {c d : GapCause} (hc : LeastCause runtime gaps c) (hd : LeastCause runtime gaps' d) : c = d := by
  by_contra apart
  obtain ⟨g, hg, gc⟩ := hc.named
  obtain ⟨g', hg', gd⟩ := hd.named
  have keys : causeKey runtime c ≠ causeKey runtime d := fun same =>
    apart (causeKey_injective same)
  rcases CodeUnits.lt_total keys with before | before
  · rw [hd.least g ((h g).mp hg) c gc] at before
    cases before
  · rw [hc.least g' ((h g').mpr hg') d gd] at before
    cases before

/-- The join of a class: its first gap, with the least cause any of them names. -/
structure Joined (runtime : Runtime) (gaps : List ResultGap) (gap : ResultGap) : Prop where
  head : ∃ first, gaps.head? = some first ∧ gap = { first with cause := gap.cause }
  some : ∀ cause, gap.cause = some cause → LeastCause runtime gaps cause
  none : gap.cause = none → ∀ g ∈ gaps, g.cause = none

lemma joined_singleton (gap : ResultGap) : Joined runtime [gap] gap where
  head := ⟨gap, rfl, rfl⟩
  some cause h := ⟨⟨gap, by simp, h⟩, by
    intro g hg other hother
    rw [List.mem_singleton.mp hg, h, Option.some.injEq] at hother
    rw [hother]
    exact CodeUnits.lt_self _⟩
  none h := by simpa using h

lemma Joined.snoc {gaps : List ResultGap} {current gap : ResultGap}
    (h : Joined runtime gaps current) :
    Joined runtime (gaps ++ [gap]) (joinGap runtime (.some current) gap) := by
  obtain ⟨first, head, fields⟩ := h.head
  have keeps : ∃ first, (gaps ++ [gap]).head? = .some first ∧
      joinGap runtime (.some current) gap =
        { first with cause := (joinGap runtime (.some current) gap).cause } := by
    refine ⟨first, by simp [List.head?_append, head], ?_⟩
    simp only [joinGap]
    rw [fields]
  cases cause : gap.cause with
  | none =>
    have same : (joinGap runtime (.some current) gap).cause = current.cause := by
      simp [joinGap, keepCause, cause]
    refine ⟨keeps, ?_, ?_⟩
    · intro c hc
      obtain ⟨⟨g, hg, gc⟩, least⟩ := h.some c (same ▸ hc)
      refine ⟨⟨g, List.mem_append_left _ hg, gc⟩, ?_⟩
      intro g' hg' other hother
      rcases List.mem_append.mp hg' with hg' | hg'
      · exact least g' hg' other hother
      · rw [List.mem_singleton.mp hg', cause] at hother
        cases hother
    · intro hnone g hg
      rcases List.mem_append.mp hg with hg | hg
      · exact h.none (same ▸ hnone) g hg
      · rw [List.mem_singleton.mp hg, cause]
  | some c =>
    have wins : ∀ d, (joinGap runtime (.some current) gap).cause = .some d →
        (d = c ∧ preferCause runtime current.cause c = true) ∨
          (current.cause = .some d ∧ preferCause runtime current.cause c = false) := by
      intro d hd
      by_cases prefer : preferCause runtime current.cause c = true
      · simp only [joinGap, keepCause, cause, prefer, if_true, Option.some.injEq] at hd
        exact Or.inl ⟨hd.symm, prefer⟩
      · simp only [joinGap, keepCause, cause, prefer] at hd
        exact Or.inr ⟨by simpa using hd, by simpa using prefer⟩
    refine ⟨keeps, ?_, ?_⟩
    · intro d hd
      rcases wins d hd with ⟨rfl, prefer⟩ | ⟨hcurrent, prefer⟩
      · refine ⟨⟨gap, by simp, cause⟩, ?_⟩
        intro g hg other hother
        rcases List.mem_append.mp hg with hg | hg
        · cases present : current.cause with
          | none =>
            rw [h.none present g hg] at hother
            cases hother
          | some e =>
            have least := (h.some e present).least g hg other hother
            rw [present] at prefer
            simp only [preferCause] at prefer
            by_contra bad
            rw [Bool.not_eq_false] at bad
            rw [CodeUnits.lt_chain bad prefer] at least
            cases least
        · rw [List.mem_singleton.mp hg, cause, Option.some.injEq] at hother
          rw [hother]
          exact CodeUnits.lt_self _
      · obtain ⟨⟨g, hg, gd⟩, least⟩ := h.some d hcurrent
        refine ⟨⟨g, List.mem_append_left _ hg, gd⟩, ?_⟩
        intro g' hg' other hother
        rcases List.mem_append.mp hg' with hg' | hg'
        · exact least g' hg' other hother
        · rw [List.mem_singleton.mp hg', cause, Option.some.injEq] at hother
          subst hother
          simpa [preferCause, hcurrent] using prefer
    · intro hnone
      by_cases prefer : preferCause runtime current.cause c = true
      · simp [joinGap, keepCause, cause, prefer] at hnone
      · have same : (joinGap runtime (.some current) gap).cause = current.cause := by
          simp [joinGap, keepCause, cause, prefer]
        rw [same] at hnone
        simp [preferCause, hnone] at prefer

/-- What is filed under a key after all gaps. -/
theorem get?_gaps {gaps : List ResultGap} {k : String} {gap : ResultGap}
    (h : Keyed.get? (gaps.foldl (addGap runtime) []) k = some gap) :
    Joined runtime (classOf k gaps) gap := by
  have key : ∀ (post pre : List ResultGap) (current : ResultGap), Joined runtime pre current →
      post.foldl (fun current gap => some (joinGap runtime current gap)) (some current) = some gap →
      Joined runtime (pre ++ post) gap := by
    intro post
    induction post with
    | nil =>
      intro pre current joined same
      rw [List.foldl_nil, Option.some.injEq] at same
      rw [List.append_nil, ← same]
      exact joined
    | cons g post ih =>
      intro pre current joined rest
      simpa using ih (pre ++ [g]) _ joined.snoc rest
  rw [get?_addGaps] at h
  cases members : classOf k gaps with
  | nil => simp [members, Keyed.get?] at h
  | cons first rest =>
    rw [members, List.foldl_cons] at h
    exact key rest [first] first (joined_singleton first) h

lemma get?_gaps_none {gaps : List ResultGap} {k : String} :
    Keyed.get? (gaps.foldl (addGap runtime) []) k = none ↔ classOf k gaps = [] := by
  have stays : ∀ (post : List ResultGap) (current : ResultGap),
      post.foldl (fun current gap => some (joinGap runtime current gap)) (some current) ≠ none := by
    intro post
    induction post with
    | nil => simp
    | cons g post ih => intro current; exact ih _
  rw [get?_addGaps]
  cases members : classOf k gaps with
  | nil => simp [Keyed.get?]
  | cons first rest => simpa using stays rest _

/-! ### Verdicts -/

lemma foldVerdict_right_comm (z x y : Option Bool) :
    foldVerdict (foldVerdict z x) y = foldVerdict (foldVerdict z y) x := by
  revert z x y
  decide

lemma foldVerdict_ne_none {current next : Option Bool} :
    foldVerdict current next ≠ none ↔ current ≠ none ∨ next ≠ none := by
  revert current next
  decide

lemma foldVerdict_eq_false {current next : Option Bool} :
    foldVerdict current next = some false ↔ current = some false ∨ next = some false := by
  revert current next
  decide

lemma foldVerdicts_ne_none {verdicts : List (Option Bool)} {init : Option Bool} :
    verdicts.foldl foldVerdict init ≠ none ↔ init ≠ none ∨ ∃ v ∈ verdicts, v ≠ none := by
  induction verdicts generalizing init with
  | nil => simp
  | cons v verdicts ih =>
    rw [List.foldl_cons, ih, foldVerdict_ne_none, List.exists_mem_cons_iff, or_assoc]

lemma foldVerdicts_eq_false {verdicts : List (Option Bool)} {init : Option Bool} :
    verdicts.foldl foldVerdict init = some false ↔
      init = some false ∨ some false ∈ verdicts := by
  induction verdicts generalizing init with
  | nil => simp
  | cons v verdicts ih =>
    rw [List.foldl_cons, ih, foldVerdict_eq_false, List.mem_cons, or_assoc, eq_comm (a := v)]

/-! ### Metrics -/

/-- One listing of a metric, under the replicate and sandbox it was measured in. -/
structure Listing where
  replicateIndex : Nat
  ids : ObservedMixtureIds
  metric : MetricResult

/-- The listings of a provider's slices, in order. -/
def listings (runtime : Runtime) (entries : List ReplicateSlice) : List Listing :=
  entries.flatMap (fun entry => entry.slice.metrics.map (fun metric =>
    ⟨entry.replicateIndex, observedMixtureIds runtime entry.slice.observedSpecs, metric⟩))

def Listing.measures (catalog : Catalog) (metricId : String) (listing : Listing) : Bool :=
  listing.metric.metricId == metricId && ! isDerivedMetric catalog listing.metric

def fileListing (catalog : Catalog) (byMetric : List (String × ByReplicate)) (listing : Listing) :
    List (String × ByReplicate) :=
  addMetric catalog listing.replicateIndex listing.ids byMetric listing.metric

def Listing.contribution (listing : Listing) : ReplicateContribution :=
  ⟨listing.metric, listing.ids⟩

/-- What is filed for a metric under a replicate. -/
def contributed (byMetric : List (String × ByReplicate)) (metricId : String) (index : Nat) :
    Option ReplicateContribution :=
  Keyed.get? ((Keyed.get? byMetric metricId).getD []) index

/-- After `listings`: the first measured listing of each metric and replicate. -/
structure Measured (catalog : Catalog) (listings : List Listing)
    (byMetric : List (String × ByReplicate)) : Prop where
  nodup : (byMetric.map Prod.fst).Nodup
  inner : ∀ metricId byReplicate, Keyed.get? byMetric metricId = some byReplicate →
    (byReplicate.map Prod.fst).Nodup ∧ byReplicate ≠ []
  first : ∀ metricId index, contributed byMetric metricId index =
    (listings.find? (fun l => l.measures catalog metricId && l.replicateIndex == index)).map
      Listing.contribution

lemma measured_nil : Measured catalog [] [] where
  nodup := List.nodup_nil
  inner _ _ h := by simp [Keyed.get?] at h
  first _ _ := rfl

/-- A listing changes nothing but the place of its own metric and replicate. -/
lemma contributed_fileListing (byMetric : List (String × ByReplicate)) (l : Listing)
    (metricId : String) (index : Nat) :
    contributed (fileListing catalog byMetric l) metricId index =
      (contributed byMetric metricId index).or
        (if l.measures catalog metricId && l.replicateIndex == index then
          some l.contribution else none) := by
  unfold fileListing addMetric
  by_cases derived : isDerivedMetric catalog l.metric = true
  · simp [derived, Listing.measures]
  · simp only [derived, Listing.measures, Bool.false_eq_true, if_false, Bool.not_false,
      Bool.and_true]
    by_cases present : Keyed.has ((Keyed.get? byMetric l.metric.metricId).getD [])
        l.replicateIndex = true
    · rw [if_pos present]
      by_cases here : l.metric.metricId = metricId ∧ l.replicateIndex = index
      · obtain ⟨rfl, rfl⟩ := here
        obtain ⟨c, hc⟩ := Option.isSome_iff_exists.mp present
        simp [contributed, hc]
      · have other : (l.metric.metricId == metricId && l.replicateIndex == index) = false := by
          simpa using here
        simp [other]
    · rw [if_neg present]
      have fresh : Keyed.get? ((Keyed.get? byMetric l.metric.metricId).getD [])
          l.replicateIndex = none := by
        simpa [Keyed.has] using present
      unfold contributed
      rw [Keyed.get?_set]
      by_cases here : l.metric.metricId = metricId
      · subst here
        rw [if_pos rfl, Option.getD_some, Keyed.get?_set]
        by_cases at_index : l.replicateIndex = index
        · subst at_index
          simp [fresh, Listing.contribution]
        · simp [at_index]
      · simp [here]

lemma Measured.snoc {listings : List Listing} {byMetric : List (String × ByReplicate)}
    (h : Measured catalog listings byMetric) (l : Listing) :
    Measured catalog (listings ++ [l]) (fileListing catalog byMetric l) := by
  have shape : ((fileListing catalog byMetric l).map Prod.fst).Nodup ∧
      ∀ metricId byReplicate,
        Keyed.get? (fileListing catalog byMetric l) metricId = some byReplicate →
        (byReplicate.map Prod.fst).Nodup ∧ byReplicate ≠ [] := by
    unfold fileListing addMetric
    split
    · exact ⟨h.nodup, h.inner⟩
    · dsimp only
      split
      · exact ⟨h.nodup, h.inner⟩
      · refine ⟨Keyed.nodup_keys_set h.nodup _ _, ?_⟩
        intro metricId byReplicate found
        rw [Keyed.get?_set] at found
        split at found
        · rw [Option.some.injEq] at found
          subst found
          have distinct : (((Keyed.get? byMetric l.metric.metricId).getD []).map Prod.fst).Nodup := by
            cases known : Keyed.get? byMetric l.metric.metricId with
            | none => exact List.nodup_nil
            | some byReplicate => exact (h.inner _ _ known).1
          refine ⟨Keyed.nodup_keys_set distinct _ _, ?_⟩
          intro empty
          have keys := Keyed.keys_set ((Keyed.get? byMetric l.metric.metricId).getD [])
            l.replicateIndex ⟨l.metric, l.ids⟩
          rw [empty] at keys
          have : l.replicateIndex ∈ ([] : List Nat) := by
            rw [List.map_nil] at keys
            rw [keys]
            exact Keyed.mem_add.mpr (Or.inr rfl)
          cases this
        · exact h.inner _ _ found
  refine ⟨shape.1, shape.2, ?_⟩
  intro metricId index
  rw [contributed_fileListing, h.first, List.find?_append]
  cases found : listings.find? (fun l => l.measures catalog metricId && l.replicateIndex == index)
    with
  | none =>
    by_cases here : (l.measures catalog metricId && l.replicateIndex == index) = true
    · simp [here]
    · simp [here]
  | some first => simp

theorem measured_run (ls : List Listing) :
    Measured catalog ls (ls.foldl (fileListing catalog) []) := by
  have key : ∀ (post pre : List Listing) (byMetric : List (String × ByReplicate)),
      Measured catalog pre byMetric →
      Measured catalog (pre ++ post) (post.foldl (fileListing catalog) byMetric) := by
    intro post
    induction post with
    | nil => intro pre byMetric h; simpa using h
    | cons l post ih => intro pre byMetric h; simpa using ih (pre ++ [l]) _ (h.snoc l)
  exact key ls [] [] measured_nil

/-- A metric is filed exactly when some slice measured it. -/
lemma Measured.keys {ls : List Listing} {byMetric : List (String × ByReplicate)}
    (h : Measured catalog ls byMetric) {metricId : String} :
    metricId ∈ byMetric.map Prod.fst ↔ ∃ l ∈ ls, l.measures catalog metricId = true := by
  constructor
  · intro present
    obtain ⟨byReplicate, found⟩ := Keyed.exists_get? present
    obtain ⟨distinct, nonempty⟩ := h.inner _ _ found
    obtain ⟨⟨index, c⟩, rest, rfl⟩ := List.exists_cons_of_ne_nil nonempty
    have filed := h.first metricId index
    rw [contributed, found, Option.getD_some, Keyed.get?_of_mem distinct List.mem_cons_self,
      eq_comm, Option.map_eq_some_iff] at filed
    obtain ⟨l, hl, _⟩ := filed
    have measures := List.find?_some hl
    rw [Bool.and_eq_true] at measures
    exact ⟨l, List.mem_of_find?_eq_some hl, measures.1⟩
  · rintro ⟨l, hl, measures⟩
    by_contra absent
    have filed := h.first metricId l.replicateIndex
    rw [contributed, Keyed.get?_eq_none_iff.mpr absent] at filed
    have none := Option.map_eq_none_iff.mp filed.symm
    rw [List.find?_eq_none] at none
    exact absurd measures (by simpa using none l hl)

/-! ### The pass -/

def costOf (entries : List ReplicateSlice) : List ProviderCostEvidence :=
  entries.flatMap (fun e => e.slice.costEvidence.getD [])

def artifactsOf (entries : List ReplicateSlice) : List ProviderArtifactEvidence :=
  entries.flatMap (fun e => e.slice.artifactEvidence.getD [])

def gapsOf (entries : List ReplicateSlice) : List ResultGap := entries.flatMap (·.slice.gaps)

/-- One reading for each sandbox that took part. -/
def sandboxReadings (entries : List ReplicateSlice) : List ObservedSpecs :=
  (entries.filter (fun e => ! providerReportedNothing e.slice)).map (·.slice.observedSpecs)

def verdictsOf (entries : List ReplicateSlice) : List (Option Bool) :=
  entries.map (·.slice.specMatched)

/-- The merge after `entries`, component by component. -/
structure Collected (runtime : Runtime) (catalog : Catalog) (entries : List ReplicateSlice)
    (merge : Merge) : Prop where
  byMetric : merge.byMetric = (listings runtime entries).foldl (fileListing catalog) []
  gaps : merge.gapByKey = (gapsOf entries).foldl (addGap runtime) []
  suites : merge.suitesCovered = Keyed.setOf (entries.flatMap (·.slice.suitesCovered))
  specMatched : merge.specMatched = (verdictsOf entries).foldl foldVerdict none
  readings : merge.sandboxSpecReadings = sandboxReadings entries
  hostMetadata : merge.hostMetadataInputs = entries.flatMap (fun e => hostMetadataOf runtime e.slice)
  cost : (costOf entries).foldlM (fileEvidence runtime costEvidenceKind) ⟨[], []⟩ = .ok merge.cost
  artifact : (artifactsOf entries).foldlM (fileEvidence runtime artifactEvidenceKind) ⟨[], []⟩ =
    .ok merge.artifact

lemma collected_nil : Collected runtime catalog [] Merge.empty := by
  constructor
  all_goals rfl

lemma foldlM_snoc_ok {ε α β : Type} {f : β → α → Except ε β} {l l' : List α} {s t u : β}
    (first : l.foldlM f s = .ok t) (second : l'.foldlM f t = .ok u) :
    (l ++ l').foldlM f s = .ok u := by
  rw [List.foldlM_append, first, ok_bind, second]

lemma mergeSlice_collects {entries : List ReplicateSlice} {merge merge' : Merge}
    {entry : ReplicateSlice} (h : Collected runtime catalog entries merge)
    (step : mergeSlice runtime catalog merge entry = .ok merge') :
    Collected runtime catalog (entries ++ [entry]) merge' := by
  simp only [mergeSlice, bind_eq_ok, pure_eq_ok] at step
  obtain ⟨cost, costOk, artifact, artifactOk, rfl⟩ := step
  constructor
  · simp [listings, h.byMetric, List.foldl_map, fileListing]
  · simp [gapsOf, h.gaps]
  · simp [Keyed.setOf, h.suites]
  · simp [verdictsOf, h.specMatched]
  · by_cases nothing : providerReportedNothing entry.slice = true
    · simp [sandboxReadings, addReading, nothing, h.readings]
    · simp [sandboxReadings, addReading, nothing, h.readings]
  · simp [h.hostMetadata]
  · simpa [costOf] using foldlM_snoc_ok h.cost costOk
  · simpa [artifactsOf] using foldlM_snoc_ok h.artifact artifactOk

theorem mergeSlice_run {entries : List ReplicateSlice} {merge : Merge}
    (h : entries.foldlM (mergeSlice runtime catalog) Merge.empty = .ok merge) :
    Collected runtime catalog entries merge := by
  refine foldlM_invariant (Collected runtime catalog) collected_nil ?_ h
  intro _ _ _ _ _ _ collected step
  exact mergeSlice_collects collected step

/-- The pass goes through when the evidence does. -/
theorem mergeSlice_run_iff (entries : List ReplicateSlice) :
    (∃ merge, entries.foldlM (mergeSlice runtime catalog) Merge.empty = .ok merge) ↔
      (costOf entries).Pairwise (Agree runtime costEvidenceKind) ∧
        (artifactsOf entries).Pairwise (Agree runtime artifactEvidenceKind) := by
  rw [← fileEvidence_run_iff, ← fileEvidence_run_iff]
  have key : ∀ (entries : List ReplicateSlice) (merge : Merge),
      (∃ merge', entries.foldlM (mergeSlice runtime catalog) merge = .ok merge') ↔
        (∃ file, (costOf entries).foldlM (fileEvidence runtime costEvidenceKind) merge.cost =
          .ok file) ∧
        ∃ file, (artifactsOf entries).foldlM (fileEvidence runtime artifactEvidenceKind)
          merge.artifact = .ok file := by
    intro entries
    induction entries with
    | nil => intro merge; simp [costOf, artifactsOf]
    | cons entry entries ih =>
      intro merge
      simp only [List.foldlM_cons, bind_eq_ok, costOf, artifactsOf, List.flatMap_cons,
        List.foldlM_append]
      constructor
      · rintro ⟨merge', next, step, rest⟩
        obtain ⟨⟨cost, costs⟩, artifact, artifacts⟩ := (ih next).mp ⟨merge', rest⟩
        simp only [mergeSlice, bind_eq_ok, pure_eq_ok] at step
        obtain ⟨costNext, costOk, artifactNext, artifactOk, rfl⟩ := step
        exact ⟨⟨cost, costNext, costOk, costs⟩, artifact, artifactNext, artifactOk, artifacts⟩
      · rintro ⟨⟨cost, costNext, costOk, costs⟩, artifact, artifactNext, artifactOk, artifacts⟩
        have step : ∃ next, mergeSlice runtime catalog merge entry = .ok next ∧
            next.cost = costNext ∧ next.artifact = artifactNext := by
          simp only [mergeSlice, costOk, artifactOk, ok_bind]
          exact ⟨_, rfl, rfl, rfl⟩
        obtain ⟨next, step, rfl, rfl⟩ := step
        obtain ⟨merge', rest⟩ := (ih next).mpr ⟨⟨cost, costs⟩, artifact, artifacts⟩
        exact ⟨merge', next, step, rest⟩
  exact key entries Merge.empty

end Aggregate
