import Mathlib.Data.List.Perm.Basic
import Mathlib.Data.List.Forall2
import Mathlib.Data.List.ReduceOption
import SandboxBenchmarks.Leaderboard
import SandboxBenchmarks.RankSumPower

/-!
# What a ranked table says

One row against the row above it first, then the table: ranks and tie marks agree, and
the order of the providers matters only where neither value nor name tells two rows
apart. A verdict rests on a test whose reported floor lies below its level. Up to fifty
tested units that floor is within reach of some relabelling; past them ties can keep
every relabelling away from it.
-/

namespace Leaderboard

open CanonicalJson Checks LeaderboardDatasets RankSumPairs RankSumPower RankSumTest RunModel

variable {runtime : Runtime} {stats : Statistics} {run : LeaderboardDataset} {metric : MetricDef}

/-! ### One row against the one above -/

/-- What a row enters the deciding test with: sandboxes, when either row has several, or trials. -/
def unitsOf (other candidate : Candidate) : List ℚ :=
  if candidate.replicates.isSome ∨ other.replicates.isSome then
    sandboxMedians (candidate.replicates.getD [candidate.samples])
  else candidate.samples.values

/-- The test that decides the verdict of `candidate` below `previous`. -/
def decidingTest (tail : NormalTail) (previous candidate : Candidate) : Except String RankSum :=
  mannWhitneyU tail (unitsOf candidate previous) (unitsOf previous candidate)

/-- The level the verdict is decided at; the sandbox-level one is `1 - 0.95` in doubles. -/
def decidingLevel (previous candidate : Candidate) : ℚ :=
  if previous.replicates.isSome ∨ candidate.replicates.isSome then 1 - defaultLevel else defaultAlpha

/-- Both rows bring a distribution. -/
def Several (previous candidate : Candidate) : Prop :=
  2 ≤ previous.samples.values.length ∧ 2 ≤ candidate.samples.values.length

def identicalBasis (previous candidate : Candidate) : Option TieBasis :=
  if candidate.row.value = previous.row.value then some .identicalValue else none

/-- The verdict and the tie mark of a row, and what they rest on. -/
inductive Outcome (tail : NormalTail) (previous candidate : Candidate) :
    ComparisonVerdict → Option TieBasis → Prop
  | untested (few : previous.samples.values.length < 2 ∨ candidate.samples.values.length < 2) :
      Outcome tail previous candidate .untested (identicalBasis previous candidate)
  | underpowered (several : Several previous candidate) (test : RankSum)
      (ran : decidingTest tail previous candidate = .ok test)
      (powerless : defaultAlpha ≤ test.minAttainablePValue) :
      Outcome tail previous candidate .underpowered (identicalBasis previous candidate)
  | separated (several : Several previous candidate) (test : RankSum)
      (ran : decidingTest tail previous candidate = .ok test)
      (able : test.minAttainablePValue < defaultAlpha)
      (below : test.pValue < decidingLevel previous candidate) :
      Outcome tail previous candidate .separated none
  | tied (several : Several previous candidate) (test : RankSum)
      (ran : decidingTest tail previous candidate = .ok test)
      (able : test.minAttainablePValue < defaultAlpha)
      (above : decidingLevel previous candidate ≤ test.pValue) :
      Outcome tail previous candidate .tied (some .statistical)

/-- A row as it leaves the comparison with the row above. -/
structure Placed (tail : NormalTail) (i : ℕ) (previous candidate : Candidate)
    (row : LeaderboardRow) : Prop where
  outcome : ∃ verdict, row.verdict = some verdict ∧
    Outcome tail previous candidate verdict row.tiedWithAbove
  rank : row.rank = if row.tiedWithAbove = none then i + 1 else previous.row.rank
  value : row.value = candidate.row.value
  providerId : row.providerId = candidate.row.providerId

lemma clusterSeparation_ok {tail : NormalTail} {a b : List Samples} {cluster : ClusterSeparation}
    (h : clusterSeparation tail a b = .ok cluster) :
    ∃ test, mannWhitneyU tail (sandboxMedians a) (sandboxMedians b) = .ok test ∧
      cluster.minAttainablePValue = test.minAttainablePValue ∧
      cluster.separated = decide (test.pValue < 1 - defaultLevel) := by
  simp only [clusterSeparation, bind_eq_ok, throwIf_eq_ok, pure_eq_ok] at h
  obtain ⟨_, _, _, _, test, ran, rfl⟩ := h
  exact ⟨test, ran, rfl, rfl⟩

theorem rankAgainst_ok {i : ℕ} {previous candidate : Candidate} {row : LeaderboardRow}
    (h : rankAgainst stats i previous candidate = .ok row) :
    Placed stats.tail i previous candidate row := by
  unfold rankAgainst at h
  dsimp only at h
  split at h
  · rename_i few
    rw [pure_eq_ok] at h
    subst h
    exact ⟨⟨_, rfl, .untested few⟩, rfl, rfl, rfl⟩
  · rename_i enough
    have both : Several previous candidate := by
      unfold Several
      omega
    obtain ⟨mw, ran, h⟩ := bind_eq_ok.mp h
    split at h
    · rename_i several
      obtain ⟨cluster, separation, h⟩ := bind_eq_ok.mp h
      obtain ⟨test, ranCluster, floor, decided⟩ := clusterSeparation_ok separation
      have deciding : decidingTest stats.tail previous candidate = .ok test := by
        rw [decidingTest, unitsOf, unitsOf, if_pos several, if_pos several.symm]
        exact ranCluster
      have level : decidingLevel previous candidate = 1 - defaultLevel := if_pos several
      split at h
      · rename_i powerless
        rw [pure_eq_ok] at h
        subst h
        exact ⟨⟨_, rfl, .underpowered both test deciding (floor ▸ powerless)⟩, rfl, rfl, rfl⟩
      · rename_i able
        rw [floor, not_le] at able
        split at h
        · rename_i below
          rw [decided, decide_eq_true_eq, ← level] at below
          rw [pure_eq_ok] at h
          subst h
          exact ⟨⟨_, rfl, .separated both test deciding able below⟩, rfl, rfl, rfl⟩
        · rename_i above
          rw [decided, decide_eq_true_eq, ← level, not_lt] at above
          rw [pure_eq_ok] at h
          subst h
          exact ⟨⟨_, rfl, .tied both test deciding able above⟩, rfl, rfl, rfl⟩
    · rename_i single
      have deciding : decidingTest stats.tail previous candidate = .ok mw := by
        rw [decidingTest, unitsOf, unitsOf, if_neg single, if_neg (mt Or.symm single)]
        exact ran
      have level : decidingLevel previous candidate = defaultAlpha := if_neg single
      split at h
      · rename_i powerless
        rw [canSeparate, decide_eq_false_iff_not, not_lt] at powerless
        rw [pure_eq_ok] at h
        subst h
        exact ⟨⟨_, rfl, .underpowered both mw deciding powerless⟩, rfl, rfl, rfl⟩
      · rename_i able
        rw [canSeparate, Bool.not_eq_false, decide_eq_true_eq] at able
        split at h
        · rename_i below
          rw [← level] at below
          rw [pure_eq_ok] at h
          subst h
          exact ⟨⟨_, rfl, .separated both mw deciding able below⟩, rfl, rfl, rfl⟩
        · rename_i above
          rw [← level, not_lt] at above
          rw [pure_eq_ok] at h
          subst h
          exact ⟨⟨_, rfl, .tied both mw deciding able above⟩, rfl, rfl, rfl⟩

/-! ### The table -/

/-- The rows that follow `previous`, from index `i` on. -/
inductive Below (tail : NormalTail) : ℕ → Candidate → List Candidate → List LeaderboardRow → Prop
  | nil (i : ℕ) (previous : Candidate) : Below tail i previous [] []
  | cons {i : ℕ} {previous candidate : Candidate} {rest : List Candidate} {row : LeaderboardRow}
      {rows : List LeaderboardRow} (placed : Placed tail i previous candidate row)
      (below : Below tail (i + 1) { candidate with row } rest rows) :
      Below tail i previous (candidate :: rest) (row :: rows)

theorem rankBelow_ok {i : ℕ} {previous : Candidate} {rest : List Candidate}
    {rows : List LeaderboardRow} (h : rankBelow stats i previous rest = .ok rows) :
    Below stats.tail i previous rest rows := by
  induction rest generalizing i previous rows with
  | nil =>
    rw [rankBelow, pure_eq_ok] at h
    subst h
    exact .nil i previous
  | cons candidate rest ih =>
    simp only [rankBelow, bind_eq_ok, pure_eq_ok] at h
    obtain ⟨row, here, rows, later, rfl⟩ := h
    exact .cons (rankAgainst_ok here) (ih later)

/-- A row and the row above it: what their ranks and marks say. -/
structure Adjacent (tail : NormalTail) (place : ℕ) (a b : Candidate)
    (above row : LeaderboardRow) : Prop where
  monotone : above.rank ≤ row.rank
  shared : row.rank = above.rank ↔ row.tiedWithAbove ≠ none
  position : row.tiedWithAbove = none → row.rank = place
  outcome : ∃ verdict, row.verdict = some verdict ∧ Outcome tail a b verdict row.tiedWithAbove

theorem Placed.adjacent {tail : NormalTail} {i : ℕ} {previous candidate : Candidate}
    {row : LeaderboardRow} (placed : Placed tail i previous candidate row)
    (earlier : previous.row.rank ≤ i) :
    Adjacent tail (i + 1) previous candidate previous.row row := by
  have rank := placed.rank
  refine ⟨?_, ?_, ?_, ?_⟩
  · split at rank
    · omega
    · omega
  · constructor
    · intro same apart
      rw [if_pos apart] at rank
      omega
    · intro tied
      rw [if_neg tied] at rank
      exact rank
  · intro apart
    rw [if_pos apart] at rank
    exact rank
  · exact placed.outcome

lemma Placed.rank_le {tail : NormalTail} {i : ℕ} {previous candidate : Candidate}
    {row : LeaderboardRow} (placed : Placed tail i previous candidate row)
    (earlier : previous.row.rank ≤ i) : row.rank ≤ i + 1 := by
  have rank := placed.rank
  split at rank
  · omega
  · omega

/-- Of the row above, a comparison reads the value alone. -/
lemma Outcome.of_settled {tail : NormalTail} {previous candidate : Candidate} {row : LeaderboardRow}
    {verdict : ComparisonVerdict} {basis : Option TieBasis}
    (outcome : Outcome tail { previous with row } candidate verdict basis)
    (value : row.value = previous.row.value) : Outcome tail previous candidate verdict basis := by
  have same : identicalBasis { previous with row } candidate = identicalBasis previous candidate := by
    simp only [identicalBasis, value]
  generalize settled : ({ previous with row } : Candidate) = above at outcome
  cases outcome with
  | untested few =>
    subst settled
    exact same ▸ .untested few
  | underpowered several test ran powerless =>
    subst settled
    exact same ▸ .underpowered several test ran powerless
  | separated several test ran able below =>
    subst settled
    exact .separated several test ran able below
  | tied several test ran able above =>
    subst settled
    exact .tied several test ran able above

lemma Adjacent.of_settled {tail : NormalTail} {place : ℕ} {a b : Candidate}
    {settled above row : LeaderboardRow} (h : Adjacent tail place { a with row := settled } b above row)
    (value : settled.value = a.row.value) : Adjacent tail place a b above row := by
  obtain ⟨verdict, here, outcome⟩ := h.outcome
  exact ⟨h.monotone, h.shared, h.position, verdict, here, outcome.of_settled value⟩

theorem Below.ranks {tail : NormalTail} {i : ℕ} {previous : Candidate} {rest : List Candidate}
    {rows : List LeaderboardRow} (below : Below tail i previous rest rows)
    (earlier : previous.row.rank ≤ i) :
    (previous.row.rank :: rows.map (·.rank)).IsChain (· ≤ ·) := by
  induction below with
  | nil => exact .singleton _
  | cons placed _ ih =>
    exact .cons_cons (placed.adjacent earlier).monotone (ih (placed.rank_le earlier))

theorem Below.adjacent {tail : NormalTail} {i : ℕ} {previous : Candidate} {rest : List Candidate}
    {rows : List LeaderboardRow} (below : Below tail i previous rest rows)
    (earlier : previous.row.rank ≤ i) {j : ℕ} {a b : Candidate} {above row : LeaderboardRow}
    (hi : (previous :: rest)[j]? = some a) (hb : rest[j]? = some b)
    (habove : (previous.row :: rows)[j]? = some above) (hrow : rows[j]? = some row) :
    Adjacent tail (i + j + 1) a b above row := by
  induction below generalizing j a with
  | nil => cases hb
  | @cons i previous candidate rest row' rows placed below ih =>
    cases j with
    | zero =>
      obtain rfl := Option.some.inj hi
      obtain rfl := Option.some.inj hb
      obtain rfl := Option.some.inj habove
      obtain rfl := Option.some.inj hrow
      exact placed.adjacent earlier
    | succ j =>
      rw [show i + (j + 1) + 1 = i + 1 + j + 1 by omega]
      cases j with
      | zero =>
        -- the row above is settled by now
        obtain rfl := Option.some.inj hi
        have settled := ih (placed.rank_le earlier) (j := 0) rfl hb habove hrow
        exact settled.of_settled placed.value
      | succ j => exact ih (placed.rank_le earlier) hi hb habove hrow

/-- A ranked table, row by row, of its candidates in order. -/
structure Table (tail : NormalTail) (sorted : List Candidate) (rows : List LeaderboardRow) :
    Prop where
  ordered : rows.map (fun row => (row.value, row.providerId)) = sorted.map standing
  first : ∀ row, rows.head? = some row → row.rank = 1 ∧ row.tiedWithAbove = none
  monotone : (rows.map (·.rank)).Pairwise (· ≤ ·)
  adjacent : ∀ i a b above row, sorted[i]? = some a → sorted[i + 1]? = some b →
    rows[i]? = some above → rows[i + 1]? = some row → Adjacent tail (i + 2) a b above row

lemma Below.standing {tail : NormalTail} {i : ℕ} {previous : Candidate} {rest : List Candidate}
    {rows : List LeaderboardRow} (below : Below tail i previous rest rows) :
    rows.map (fun row => (row.value, row.providerId)) = rest.map standing := by
  induction below with
  | nil => rfl
  | cons placed _ ih =>
    rw [List.map_cons, List.map_cons, ih, placed.value, placed.providerId]
    rfl

theorem rankRows_table {sorted : List Candidate} (unranked : ∀ c ∈ sorted, c.row.tiedWithAbove = none)
    {rows : List LeaderboardRow} (h : rankRows stats sorted = .ok rows) :
    Table stats.tail sorted rows := by
  cases sorted with
  | nil =>
    rw [rankRows, pure_eq_ok] at h
    subst h
    refine ⟨rfl, ?_, .nil, ?_⟩
    · intro row head
      cases head
    · intro i a b above row ha
      cases ha
  | cons first rest =>
    simp only [rankRows, bind_eq_ok, pure_eq_ok] at h
    obtain ⟨rows, later, rfl⟩ := h
    have below := rankBelow_ok later
    refine ⟨?_, ?_, ?_, ?_⟩
    · rw [List.map_cons, List.map_cons, below.standing]
      rfl
    · rintro row ⟨rfl⟩
      exact ⟨rfl, unranked first List.mem_cons_self⟩
    · exact (below.ranks le_rfl).pairwise
    · intro i a b above row ha hb habove hrow
      have place : 1 + i + 1 = i + 2 := by omega
      cases i with
      | zero =>
        obtain rfl := Option.some.inj ha
        have settled := below.adjacent (j := 0) le_rfl rfl hb habove hrow
        exact settled.of_settled rfl
      | succ i => exact place ▸ below.adjacent le_rfl ha hb habove hrow

lemma mem_sortCandidates {candidates : List Candidate} {c : Candidate} :
    c ∈ sortCandidates runtime metric candidates ↔ c ∈ candidates := List.mem_insertionSort _

/-! ### The order of the providers -/

instance (direction : Direction) : Std.TransCmp (compareValues direction) := by
  cases direction with
  | HIB => exact inferInstanceAs (Std.TransCmp fun a b : ℚ => compare b a)
  | LIB => exact inferInstanceAs (Std.TransCmp fun a b : ℚ => compare a b)

lemma compareValues_eq {direction : Direction} {a b : ℚ} :
    compareValues direction a b = .eq ↔ a = b := by
  cases direction with
  | HIB => exact Std.compare_eq_iff_eq.trans eq_comm
  | LIB => exact Std.compare_eq_iff_eq

instance : Std.TransCmp (compareStanding runtime metric) := by
  have names : Std.TransCmp runtime.localeCompareEn := runtime.collationEn
  have byValue : Std.TransCmp fun a b : ℚ × String => compareValues metric.direction a.1 b.1 :=
    Sorting.transCmp_on _ Prod.fst
  have byName : Std.TransCmp fun a b : ℚ × String => runtime.localeCompareEn a.2 b.2 :=
    Sorting.transCmp_on _ Prod.snd
  exact inferInstanceAs (Std.TransCmp (compareLex
    (fun a b : ℚ × String => compareValues metric.direction a.1 b.1)
    (fun a b => runtime.localeCompareEn a.2 b.2)))

/-- Whatever the order of the candidates, the sorted values are the same. -/
theorem sortCandidates_values {candidates candidates' : List Candidate}
    (h : candidates.Perm candidates') :
    (sortCandidates runtime metric candidates).map (·.row.value) =
      (sortCandidates runtime metric candidates').map (·.row.value) := by
  have total := Sorting.total_upTo (compareStanding runtime metric) standing
  have trans := Sorting.trans_upTo (compareStanding runtime metric) standing
  have sorted : ∀ l : List Candidate, ((sortCandidates runtime metric l).map (·.row.value)).Pairwise
      (fun a b => compareValues metric.direction a b ≠ .gt) := by
    intro l
    refine List.pairwise_map.mpr ((List.pairwise_insertionSort _ l).imp ?_)
    intro a b upTo above
    refine upTo ?_
    rw [compareStanding, standing, standing, above]
    rfl
  refine List.Perm.eq_of_pairwise ?_ (sorted _) (sorted _) ?_
  · intro a b _ _ ab ba
    by_contra apart
    cases order : compareValues metric.direction a b with
    | eq => exact apart (compareValues_eq.mp order)
    | gt => exact ab order
    | lt => exact ba (Std.OrientedCmp.gt_iff_lt.mpr order)
  · exact (((List.perm_insertionSort _ candidates).trans h).trans
      (List.perm_insertionSort _ candidates').symm).map _

lemma candidateOf_withProviders (providers : List ProviderRun) :
    candidateOf stats (run.withProviders providers) metric = candidateOf stats run metric := by
  cases run <;> rfl

lemma sandboxMedianOf_cases (replicates : List Samples) :
    (replicates = [] ∧ sandboxMedianOf replicates =
      .error "sandboxMedianOf() requires at least one replicate") ∨
    (replicates ≠ [] ∧ sandboxMedianOf replicates =
      .ok (percentileOf (sandboxMedians replicates) (1 / 2))) := by
  cases replicates with
  | nil => exact Or.inl ⟨rfl, rfl⟩
  | cons first rest => exact Or.inr ⟨List.cons_ne_nil _ _, rfl⟩

/-- A candidate is refused only for a breakdown without sandboxes. -/
lemma candidateOf_error {provider : ProviderRun} {error : String}
    (h : candidateOf stats run metric provider = .error error) :
    error = "sandboxMedianOf() requires at least one replicate" := by
  unfold candidateOf at h
  split at h
  · cases h
  · rename_i result _
    cases broken : result.replicates with
    | none =>
      simp only [reportedMedianOf, broken] at h
      cases h
    | some replicates =>
      simp only [reportedMedianOf, broken] at h
      rcases sandboxMedianOf_cases (replicates.map (·.samples)) with ⟨_, fails⟩ | ⟨_, returns⟩
      · rw [fails, error_bind] at h
        exact (Except.error.inj h).symm
      · rw [returns, ok_bind] at h
        cases h

lemma candidateOf_some {provider : ProviderRun} {candidate : Candidate}
    (h : candidateOf stats run metric provider = .ok (some candidate)) :
    candidate.row.tiedWithAbove = none ∧ candidate.replicates ≠ some [] := by
  unfold candidateOf at h
  split at h
  · cases h
  · rename_i result _
    cases broken : result.replicates with
    | none =>
      simp only [reportedMedianOf, broken] at h
      cases h
      exact ⟨rfl, nofun⟩
    | some replicates =>
      simp only [reportedMedianOf, broken] at h
      rcases sandboxMedianOf_cases (replicates.map (·.samples)) with ⟨_, fails⟩ | ⟨several, returns⟩
      · rw [fails, error_bind] at h
        cases h
      · rw [returns, ok_bind] at h
        cases h
        exact ⟨rfl, fun empty => several (Option.some.inj empty)⟩

/-- The same candidates in some order, or the same error. -/
theorem candidatesOf_perm (stats : Statistics) (metric : MetricDef) {providers : List ProviderRun} (h : run.providers.Perm providers) :
    (∃ error, candidatesOf stats run metric = .error error ∧
      candidatesOf stats (run.withProviders providers) metric = .error error) ∨
    ∃ candidates candidates', candidatesOf stats run metric = .ok candidates ∧
      candidatesOf stats (run.withProviders providers) metric = .ok candidates' ∧
      candidates.Perm candidates' := by
  have given : (run.withProviders providers).providers = providers := by cases run <;> rfl
  simp only [candidatesOf, candidateOf_withProviders, given]
  cases found : run.providers.mapM (candidateOf stats run metric) with
  | error e =>
    left
    obtain ⟨provider, hprovider, failed⟩ := mapM_eq_error found
    cases found' : providers.mapM (candidateOf stats run metric) with
    | error e' =>
      obtain ⟨provider', _, failed'⟩ := mapM_eq_error found'
      rw [candidateOf_error failed, candidateOf_error failed']
      exact ⟨_, rfl, rfl⟩
    | ok candidates =>
      obtain ⟨candidate, _, made⟩ := mapM_mem found' (h.mem_iff.mp hprovider)
      cases failed.symm.trans made
  | ok candidates =>
    obtain ⟨candidates', found', perm⟩ := mapM_perm h found
    rw [found']
    exact Or.inr ⟨_, _, rfl, rfl, perm.filterMap id⟩

/-! ### Every comparison returns -/

lemma mannWhitneyU_returns (tail : NormalTail) {a b : List ℚ} (ha : a ≠ []) (hb : b ≠ []) :
    ∃ test, mannWhitneyU tail a b = .ok test := by
  have nonempty : ¬ (a.length = 0 ∨ b.length = 0) := by
    simp [List.length_eq_zero_iff, ha, hb]
  unfold mannWhitneyU
  rw [if_neg nonempty]
  dsimp only
  split
  · exact ⟨_, rfl⟩
  · split
    · exact ⟨_, rfl⟩
    · exact ⟨_, rfl⟩

lemma clusterSeparation_returns (tail : NormalTail) {a b : List Samples} (ha : a ≠ []) (hb : b ≠ []) :
    ∃ cluster, clusterSeparation tail a b = .ok cluster := by
  have medians : ∀ {l : List Samples}, l ≠ [] → sandboxMedians l ≠ [] :=
    fun h => mt List.map_eq_nil_iff.mp h
  obtain ⟨test, ran⟩ := mannWhitneyU_returns tail (medians ha) (medians hb)
  simp only [clusterSeparation, bind_eq_ok, throwIf_eq_ok, pure_eq_ok]
  exact ⟨_, (), mt List.length_eq_zero_iff.mp ha, (), mt List.length_eq_zero_iff.mp hb, test, ran, rfl⟩

lemma clusters_nonempty {candidate : Candidate} (h : candidate.replicates ≠ some []) :
    candidate.replicates.getD [candidate.samples] ≠ [] := by
  cases replicates : candidate.replicates with
  | none => exact List.cons_ne_nil _ _
  | some clusters => exact fun empty => h (replicates.trans (congrArg some empty))

lemma rankAgainst_returns (stats : Statistics) (i : ℕ) {previous candidate : Candidate}
    (hprevious : previous.replicates ≠ some []) (hcandidate : candidate.replicates ≠ some []) :
    ∃ row, rankAgainst stats i previous candidate = .ok row := by
  obtain ⟨mw, ran⟩ :=
    mannWhitneyU_returns stats.tail previous.samples.nonempty candidate.samples.nonempty
  obtain ⟨cluster, separation⟩ := clusterSeparation_returns stats.tail
    (clusters_nonempty hprevious) (clusters_nonempty hcandidate)
  unfold rankAgainst
  simp only [ran, separation, ok_bind]
  split_ifs
  all_goals exact ⟨_, rfl⟩

lemma rankBelow_returns (stats : Statistics) (i : ℕ) {previous : Candidate} {rest : List Candidate}
    (hprevious : previous.replicates ≠ some []) (hrest : ∀ c ∈ rest, c.replicates ≠ some []) :
    ∃ rows, rankBelow stats i previous rest = .ok rows := by
  induction rest generalizing i previous with
  | nil => exact ⟨[], rfl⟩
  | cons candidate rest ih =>
    have here := hrest candidate List.mem_cons_self
    obtain ⟨row, ranked⟩ := rankAgainst_returns stats i hprevious here
    have later : ∀ c ∈ rest, c.replicates ≠ some [] := fun c hc => hrest c (List.mem_cons_of_mem _ hc)
    have settled : ({ candidate with row } : Candidate).replicates ≠ some [] := here
    obtain ⟨rows, below⟩ := ih (i + 1) settled later
    rw [rankBelow, ranked, ok_bind, below]
    exact ⟨_, rfl⟩

lemma rankRows_returns (stats : Statistics) {sorted : List Candidate} (h : ∀ c ∈ sorted, c.replicates ≠ some []) :
    ∃ rows, rankRows stats sorted = .ok rows := by
  cases sorted with
  | nil => exact ⟨[], rfl⟩
  | cons first rest =>
    have top : ({ first with row := { first.row with rank := 1 } } : Candidate).replicates ≠ some [] :=
      h first List.mem_cons_self
    obtain ⟨rows, below⟩ := rankBelow_returns stats 1 top (fun c hc => h c (List.mem_cons_of_mem _ hc))
    rw [rankRows, below]
    exact ⟨_, rfl⟩

/-! ### The table of a metric -/

lemma candidatesOf_fresh {candidates : List Candidate}
    (collected : candidatesOf stats run metric = .ok candidates) {c : Candidate} (hc : c ∈ candidates) :
    c.row.tiedWithAbove = none ∧ c.replicates ≠ some [] := by
  simp only [candidatesOf, bind_eq_ok, pure_eq_ok] at collected
  obtain ⟨found, each, rfl⟩ := collected
  rw [List.reduceOption_mem_iff] at hc
  obtain ⟨provider, _, made⟩ := mem_mapM each hc
  exact candidateOf_some made

theorem rankMetric_table {rows : List LeaderboardRow}
    (h : rankMetric runtime stats run metric = .ok rows) :
    ∃ candidates, candidatesOf stats run metric = .ok candidates ∧
      Table stats.tail (sortCandidates runtime metric candidates) rows := by
  obtain ⟨candidates, collected, ranked⟩ := bind_eq_ok.mp h
  refine ⟨candidates, collected, rankRows_table ?_ ranked⟩
  intro c hc
  exact (candidatesOf_fresh collected (mem_sortCandidates.mp hc)).1

/-- A metric whose candidates are collected is ranked. -/
lemma rankMetric_of_collected (runtime : Runtime) {candidates : List Candidate}
    (collected : candidatesOf stats run metric = .ok candidates) :
    ∃ rows, rankMetric runtime stats run metric = .ok rows := by
  have complete : ∀ c ∈ sortCandidates runtime metric candidates, c.replicates ≠ some [] :=
    fun c hc => (candidatesOf_fresh collected (mem_sortCandidates.mp hc)).2
  obtain ⟨rows, ranked⟩ := rankRows_returns stats complete
  exact ⟨rows, by rw [rankMetric, collected, ok_bind, ranked]⟩

lemma Table.values {tail : NormalTail} {sorted : List Candidate} {rows : List LeaderboardRow}
    (table : Table tail sorted rows) : rows.map (·.value) = sorted.map (·.row.value) := by
  have ordered := congrArg (List.map Prod.fst) table.ordered
  simpa [Function.comp_def, standing] using ordered

/-- Two candidates are told apart by value or by name. -/
def NamesDecide (runtime : Runtime) (stats : Statistics) (run : LeaderboardDataset)
    (metric : MetricDef) : Prop :=
  ∀ candidates, candidatesOf stats run metric = .ok candidates →
    ∀ a ∈ candidates, ∀ b ∈ candidates, a.row.value = b.row.value →
      runtime.localeCompareEn a.row.providerId b.row.providerId = .eq → a = b

theorem sortCandidates_eq {candidates candidates' : List Candidate}
    (perm : candidates.Perm candidates')
    (decide : ∀ a ∈ candidates, ∀ b ∈ candidates, a.row.value = b.row.value →
      runtime.localeCompareEn a.row.providerId b.row.providerId = .eq → a = b) :
    sortCandidates runtime metric candidates = sortCandidates runtime metric candidates' := by
  refine Sorting.sort_eq_of_perm perm ?_
  intro a ha b hb same
  rw [compareStanding, Ordering.then_eq_eq] at same
  exact decide a ha b hb (compareValues_eq.mp same.1) same.2

/-- A table of the metric does not show the order of the providers, except where two rows
have one value and one name. -/
theorem rankMetric_perm {providers : List ProviderRun} (perm : run.providers.Perm providers) :
    (rankMetric runtime stats (run.withProviders providers) metric).map (·.map (·.value)) =
      (rankMetric runtime stats run metric).map (·.map (·.value)) ∧
    (NamesDecide runtime stats run metric →
      rankMetric runtime stats (run.withProviders providers) metric =
        rankMetric runtime stats run metric) := by
  rcases candidatesOf_perm stats metric perm with
    ⟨error, refused, refused'⟩ | ⟨candidates, candidates', collected, collected', permuted⟩
  · have fails : rankMetric runtime stats run metric = .error error := by
      rw [rankMetric, refused, error_bind]
    have fails' : rankMetric runtime stats (run.withProviders providers) metric = .error error := by
      rw [rankMetric, refused', error_bind]
    rw [fails, fails']
    exact ⟨rfl, fun _ => rfl⟩
  · constructor
    · obtain ⟨rows, ranked⟩ := rankMetric_of_collected runtime collected
      obtain ⟨rows', ranked'⟩ := rankMetric_of_collected runtime collected'
      obtain ⟨_, same, table⟩ := rankMetric_table ranked
      obtain ⟨_, same', table'⟩ := rankMetric_table ranked'
      obtain rfl := Except.ok.inj (collected.symm.trans same)
      obtain rfl := Except.ok.inj (collected'.symm.trans same')
      rw [ranked, ranked']
      refine congrArg Except.ok (table'.values.trans (Eq.trans ?_ table.values.symm))
      exact (sortCandidates_values permuted).symm
    · intro decide
      rw [rankMetric, rankMetric, collected, collected', ok_bind, ok_bind,
        sortCandidates_eq permuted (decide candidates collected)]

/-! ### Verdicts within reach -/

/-- What the table of a metric promises its readers. -/
structure Faithful (runtime : Runtime) (stats : Statistics) (run : LeaderboardDataset)
    (metric : MetricDef) : Prop where
  orderFree : ∀ providers, run.providers.Perm providers →
    (rankMetric runtime stats (run.withProviders providers) metric).map (·.map (·.value)) =
      (rankMetric runtime stats run metric).map (·.map (·.value)) ∧
    (NamesDecide runtime stats run metric →
      rankMetric runtime stats (run.withProviders providers) metric =
        rankMetric runtime stats run metric)
  ranked : ∀ rows, rankMetric runtime stats run metric = .ok rows →
    (rows.map (·.rank)).Pairwise (· ≤ ·) ∧
    (∀ row, rows.head? = some row → row.rank = 1 ∧ row.tiedWithAbove = none) ∧
    ∀ i above row, rows[i]? = some above → rows[i + 1]? = some row →
      (row.rank = above.rank ↔ row.tiedWithAbove ≠ none) ∧
      (row.tiedWithAbove = none → row.rank = i + 2)
  reachable : ∀ rows, rankMetric runtime stats run metric = .ok rows →
    ∀ candidates, candidatesOf stats run metric = .ok candidates →
    ∀ i a b row, (sortCandidates runtime metric candidates)[i]? = some a →
      (sortCandidates runtime metric candidates)[i + 1]? = some b → rows[i + 1]? = some row →
      row.providerId = b.row.providerId ∧
      (row.verdict = some .separated ∨ row.verdict = some .tied →
        CouldReach stats.tail defaultAlpha (unitsOf b a) (unitsOf a b))

/-- Neighbours in the table whose reported floor stands for a relabelling of their values. -/
def FloorsAttained (runtime : Runtime) (stats : Statistics) (run : LeaderboardDataset)
    (metric : MetricDef) : Prop :=
  ∀ candidates, candidatesOf stats run metric = .ok candidates →
    ∀ i a b, (sortCandidates runtime metric candidates)[i]? = some a →
      (sortCandidates runtime metric candidates)[i + 1]? = some b →
      2 ≤ a.samples.values.length → 2 ≤ b.samples.values.length →
      FloorAttained stats.tail defaultAlpha (unitsOf b a) (unitsOf a b)

/-- A verdict between two rows is within reach exactly when a floor below the level is. -/
lemma Outcome.reachable_iff {tail : NormalTail} (cdf : Monotone tail.normalCdf)
    (sqrt : ∀ v, 0 < v → 0 ≤ tail.sqrt v) {a b : Candidate} {verdict : ComparisonVerdict}
    {basis : Option TieBasis} (outcome : Outcome tail a b verdict basis) :
    (verdict = .separated ∨ verdict = .tied →
        CouldReach tail defaultAlpha (unitsOf b a) (unitsOf a b)) ↔
      (Several a b → FloorAttained tail defaultAlpha (unitsOf b a) (unitsOf a b)) := by
  have level : defaultAlpha ≤ 1 := by norm_num [defaultAlpha]
  cases outcome with
  | untested few =>
    constructor
    · intro _ several
      unfold Several at several
      omega
    · intro _ decided
      simp at decided
  | underpowered several test ran powerless =>
    have iff := couldReach_iff cdf sqrt level ran
    constructor
    · intro _ _
      exact iff.mp fun able => absurd able (not_lt.mpr powerless)
    · intro _ decided
      simp at decided
  | separated several test ran able below =>
    have iff := couldReach_iff cdf sqrt level ran
    exact ⟨fun reach _ => iff.mp fun _ => reach (Or.inl rfl),
      fun attained _ => iff.mpr (attained several) able⟩
  | tied several test ran able above =>
    have iff := couldReach_iff cdf sqrt level ran
    exact ⟨fun reach _ => iff.mp fun _ => reach (Or.inr rfl),
      fun attained _ => iff.mpr (attained several) able⟩

lemma Table.length_eq {tail : NormalTail} {sorted : List Candidate} {rows : List LeaderboardRow}
    (table : Table tail sorted rows) : rows.length = sorted.length := by
  simpa using congrArg List.length table.ordered

lemma Table.providerId {tail : NormalTail} {sorted : List Candidate} {rows : List LeaderboardRow}
    (table : Table tail sorted rows) {i : ℕ} {b : Candidate} {row : LeaderboardRow}
    (hb : sorted[i]? = some b) (hrow : rows[i]? = some row) :
    row.value = b.row.value ∧ row.providerId = b.row.providerId := by
  have same := congrArg (·[i]?) table.ordered
  simp only [List.getElem?_map, hb, hrow, Option.map_some, Option.some.injEq, standing,
    Prod.mk.injEq] at same
  exact same

/-- The rows of a table, with the row above each. -/
lemma Table.above {tail : NormalTail} {sorted : List Candidate} {rows : List LeaderboardRow}
    (table : Table tail sorted rows) {i : ℕ} {a b : Candidate} (ha : sorted[i]? = some a)
    (hb : sorted[i + 1]? = some b) :
    ∃ above row, rows[i]? = some above ∧ rows[i + 1]? = some row ∧
      Adjacent tail (i + 2) a b above row := by
  obtain ⟨bound, _⟩ := List.getElem?_eq_some_iff.mp hb
  have length := table.length_eq
  have lower : i < rows.length := by omega
  have upper : i + 1 < rows.length := by omega
  exact ⟨rows[i], rows[i + 1], List.getElem?_eq_getElem lower, List.getElem?_eq_getElem upper,
    table.adjacent i a b _ _ ha hb (List.getElem?_eq_getElem lower)
      (List.getElem?_eq_getElem upper)⟩

/-- The candidates behind two neighbouring rows. -/
lemma Table.behind {tail : NormalTail} {sorted : List Candidate} {rows : List LeaderboardRow}
    (table : Table tail sorted rows) {i : ℕ} {above row : LeaderboardRow}
    (habove : rows[i]? = some above) (hrow : rows[i + 1]? = some row) :
    ∃ a b, sorted[i]? = some a ∧ sorted[i + 1]? = some b ∧
      Adjacent tail (i + 2) a b above row := by
  obtain ⟨bound, _⟩ := List.getElem?_eq_some_iff.mp hrow
  have length := table.length_eq
  have lower : i < sorted.length := by omega
  have upper : i + 1 < sorted.length := by omega
  exact ⟨sorted[i], sorted[i + 1], List.getElem?_eq_getElem lower, List.getElem?_eq_getElem upper,
    table.adjacent i _ _ above row (List.getElem?_eq_getElem lower)
      (List.getElem?_eq_getElem upper) habove hrow⟩

/-- A faithful table has every floor attained. -/
lemma Faithful.floorsAttained (cdf : Monotone stats.tail.normalCdf)
    (sqrt : ∀ v, 0 < v → 0 ≤ stats.tail.sqrt v) (faithful : Faithful runtime stats run metric) :
    FloorsAttained runtime stats run metric := by
  intro candidates collected i a b ha hb several several'
  obtain ⟨rows, ranked⟩ := rankMetric_of_collected runtime collected
  obtain ⟨_, same, table⟩ := rankMetric_table ranked
  obtain rfl := Except.ok.inj (collected.symm.trans same)
  obtain ⟨above, row, _, hrow, adjacent⟩ := table.above ha hb
  obtain ⟨verdict, here, outcome⟩ := adjacent.outcome
  obtain ⟨_, reach⟩ := faithful.reachable rows ranked candidates collected i a b row ha hb hrow
  refine (outcome.reachable_iff cdf sqrt).mp ?_ ⟨several, several'⟩
  rintro (rfl | rfl)
  · exact reach (Or.inl here)
  · exact reach (Or.inr here)

lemma FloorsAttained.faithful (cdf : Monotone stats.tail.normalCdf)
    (sqrt : ∀ v, 0 < v → 0 ≤ stats.tail.sqrt v)
    (attained : FloorsAttained runtime stats run metric) : Faithful runtime stats run metric := by
  refine ⟨fun _ perm => rankMetric_perm perm, ?_, ?_⟩
  · intro rows ranked
    obtain ⟨_, _, table⟩ := rankMetric_table ranked
    refine ⟨table.monotone, table.first, ?_⟩
    intro i above row habove hrow
    obtain ⟨a, b, _, _, adjacent⟩ := table.behind habove hrow
    exact ⟨adjacent.shared, adjacent.position⟩
  · intro rows ranked candidates collected i a b row ha hb hrow
    obtain ⟨_, same, table⟩ := rankMetric_table ranked
    obtain rfl := Except.ok.inj (collected.symm.trans same)
    obtain ⟨above, row', _, hrow', adjacent⟩ := table.above ha hb
    obtain rfl := Option.some.inj (hrow'.symm.trans hrow)
    obtain ⟨verdict, here, outcome⟩ := adjacent.outcome
    refine ⟨(table.providerId hb hrow).2, ?_⟩
    intro decided
    refine (outcome.reachable_iff cdf sqrt).mpr ?_ ?_
    · intro several
      exact attained candidates collected i a b ha hb several.1 several.2
    · simpa only [here, Option.some.injEq] using decided

/-- The table keeps its promises exactly when its floors are attained. -/
theorem rankMetric_faithful_iff (runtime : Runtime) (stats : Statistics) (run : LeaderboardDataset)
    (metric : MetricDef) (cdf : Monotone stats.tail.normalCdf)
    (sqrt : ∀ v, 0 < v → 0 ≤ stats.tail.sqrt v) :
    Faithful runtime stats run metric ↔ FloorsAttained runtime stats run metric :=
  ⟨fun faithful => faithful.floorsAttained cdf sqrt, fun attained => attained.faithful cdf sqrt⟩

/-! ### Samples -/

/-- The normal tail to six digits of the root, at the three points the samples below reach. -/
def sampleTail : NormalTail where
  sqrt v := (Nat.sqrt (⌊v * 10 ^ 12⌋).toNat : ℚ) / 10 ^ 6
  normalCdf z :=
    if z < 9 / 10 then 1 / 2 else if z < 3 then 8328 / 10000 else if z < 6 then 9991 / 10000 else 1

lemma sampleTail_monotone : Monotone sampleTail.normalCdf := by
  intro z z' h
  simp only [sampleTail]
  split_ifs
  all_goals linarith

lemma sampleTail_sqrt (v : ℚ) (_ : 0 < v) : 0 ≤ sampleTail.sqrt v := by
  unfold sampleTail
  positivity

def sampleStatistics : Statistics where
  tail := sampleTail
  clusterMedianInterval _ _ := ⟨0, 0, 0, defaultLevel, 10000⟩
  bootstrapMedianInterval _ _ := ⟨0, 0, 0, defaultLevel, 10000⟩
  kolmogorovSmirnov _ _ := 1
  displayName _ := none

def sampleProvider (providerId : String) (samples : Samples) : ProviderRun where
  providerId := providerId
  costEvidence := some []
  artifactEvidence := none
  validationStatus := .validated
  specMatched := some true
  observedSpecs := []
  observedMixtures := none
  hostMetadata := none
  metrics := [{
    metricId := "boot"
    samples := samples
    aggregates := aggregate samples
    sourceFile := none
    appVersion := none
    arguments := none
    ptsSampleSource := none
    replicates := none
    ids := ⟨none, none⟩
    derived := false }]
  suitesCovered := ["boot"]
  gaps := []
  uncatalogued := []

def sampleRun (a b : Samples) : LeaderboardDataset := .published {
  schemaVersion := 5
  runId := "7"
  sha := "a"
  generatedAt := "2026-01-31T00:00:00.000Z"
  sourceRunUrl := none
  replicateIndex := none
  experiment := none
  targetSpec := ⟨2, 4, none⟩
  providers := [sampleProvider "e2b" a, sampleProvider "modal" b] }

def sampleCandidate (providerId : String) (samples : Samples) : Candidate where
  samples := samples
  replicates := none
  row := {
    providerId := providerId
    displayName := providerId
    value := percentileOf samples.values (1 / 2)
    rank := 0
    interval := ⟨0, 0, 0, defaultLevel, 10000⟩
    n := samples.values.length
    sandboxes := none
    pVsPrevious := none
    verdict := none
    tiedWithAbove := none }

lemma sampleRun_candidates (a b : Samples) (direction : Direction) :
    candidatesOf sampleStatistics (sampleRun a b) ⟨"boot", direction⟩ =
      .ok [sampleCandidate "e2b" a, sampleCandidate "modal" b] := rfl

lemma sampleRun_sorted {a b : Samples}
    (h : percentileOf a.values (1 / 2) ≤ percentileOf b.values (1 / 2)) :
    sortCandidates plainRuntime ⟨"boot", .LIB⟩ [sampleCandidate "e2b" a, sampleCandidate "modal" b] =
      [sampleCandidate "e2b" a, sampleCandidate "modal" b] := by
  have names : byCodeUnits "e2b" "modal" = .lt := by decide
  have upTo : Sorting.upTo (compareStanding plainRuntime ⟨"boot", .LIB⟩) standing
      (sampleCandidate "e2b" a) (sampleCandidate "modal" b) := by
    intro above
    have byName : (compare (percentileOf a.values (1 / 2)) (percentileOf b.values (1 / 2))).then
        (byCodeUnits "e2b" "modal") = .gt := above
    rw [names] at byName
    rcases h.lt_or_eq with less | same
    · rw [compare_lt_iff_lt.mpr less] at byName
      cases byName
    · rw [compare_eq_iff_eq.mpr same] at byName
      cases byName
  rw [sortCandidates, List.insertionSort_cons, List.insertionSort_cons, List.insertionSort_nil]
  exact List.orderedInsert_cons_of_le _ _ upTo

lemma sampleRun_ranked {a b : Samples}
    (h : percentileOf a.values (1 / 2) ≤ percentileOf b.values (1 / 2)) :
    rankMetric plainRuntime sampleStatistics (sampleRun a b) ⟨"boot", .LIB⟩ =
      rankRows sampleStatistics [sampleCandidate "e2b" a, sampleCandidate "modal" b] := by
  rw [rankMetric, sampleRun_candidates, ok_bind, sampleRun_sorted h]

def fastTrials : Samples := ⟨[1, 2, 3, 4, 5], by decide⟩

def slowTrials : Samples := ⟨[6, 7, 8, 9, 10], by decide⟩

theorem fastTrials_faithful :
    Faithful plainRuntime sampleStatistics (sampleRun fastTrials slowTrials) ⟨"boot", .LIB⟩ := by
  refine (rankMetric_faithful_iff plainRuntime sampleStatistics _ _ sampleTail_monotone
    sampleTail_sqrt).mpr ?_
  have medians : percentileOf fastTrials.values (1 / 2) ≤ percentileOf slowTrials.values (1 / 2) := by
    decide +kernel
  intro candidates collected i a b ha hb _ _ many
  obtain rfl := Except.ok.inj ((sampleRun_candidates _ _ _).symm.trans collected)
  rw [sampleRun_sorted medians] at ha hb
  cases i with
  | zero =>
    obtain rfl := Option.some.inj ha
    obtain rfl := Option.some.inj hb
    exact absurd many (by decide)
  | succ i =>
    cases hb

/-- Twenty-nine trials a side that agree in all but one. -/
def constantTrials : Samples := ⟨List.replicate 29 5, by decide⟩

def nearlyConstantTrials : Samples := ⟨List.replicate 28 5 ++ [6], by decide⟩

/-- A statistical tie between trials of which no relabelling tests below one third. -/
theorem nearlyConstant_unreachable :
    (rankMetric plainRuntime sampleStatistics (sampleRun constantTrials nearlyConstantTrials)
      ⟨"boot", .LIB⟩).toOption.map (fun rows => rows.map (fun row => (row.rank, row.verdict))) =
        some [(1, none), (1, some .tied)] ∧
    ¬ Faithful plainRuntime sampleStatistics (sampleRun constantTrials nearlyConstantTrials)
      ⟨"boot", .LIB⟩ := by
  have medians : percentileOf constantTrials.values (1 / 2) ≤
      percentileOf nearlyConstantTrials.values (1 / 2) := by decide +kernel
  rw [sampleRun_ranked medians]
  refine ⟨by decide +kernel, ?_⟩
  intro faithful
  have floors : FloorsAttained plainRuntime sampleStatistics
      (sampleRun constantTrials nearlyConstantTrials) ⟨"boot", .LIB⟩ :=
    faithful.floorsAttained sampleTail_monotone sampleTail_sqrt
  have attained := floors _ (sampleRun_candidates _ _ _) 0
    (sampleCandidate "e2b" constantTrials) (sampleCandidate "modal" nearlyConstantTrials)
  rw [sampleRun_sorted medians] at attained
  have variance : varianceOf constantTrials.values nearlyConstantTrials.values = 841 / 4 := by
    decide +kernel
  -- wherever the odd trial stands, `U` is half a row away from its mean
  have furthest : furthestDeviation constantTrials.values nearlyConstantTrials.values = 29 / 2 := by
    decide +kernel
  have below := attained rfl rfl (by decide) (by decide) (by decide)
  simp only [unitsOf, sampleCandidate, Option.isSome_none, Bool.false_eq_true, or_self,
    if_false, variance, furthest] at below
  exact absurd (below (by norm_num) (by decide +kernel)) (by decide +kernel)

end Leaderboard
