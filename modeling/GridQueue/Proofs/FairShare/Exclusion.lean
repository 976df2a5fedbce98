/-
# `GridQueue.Proofs.FairShare.Exclusion` — whom the batches leave excluded

A batch rates the records its scope visits and leaves the others as they
are.  So after batches in one scope, with any change of the base fields
before each, the weight of a record is that of the last usage a batch
rated:

| the usage at the last batch | the user is excluded                      |
| :-------------------------- | :---------------------------------------- |
| rated                       | if and only if it is over a quota         |
| not rated                   | if and only if the last rated one was     |

Batches of all users rate every usage.  Batches of the active users do not
rate a user who uses nothing, who is within any quota.  Such a user should
not be excluded, and is so nevertheless if the last usage before was over
a quota (`Stranded`).  No further batch changes this before the user has
some usage again, which an excluded user gets no job for.
-/
import GridQueue.Proofs.Execution
import GridQueue.Proofs.FairShare.Positive
import GridQueue.Proofs.Store.Search

namespace GridQueue

open FairShare Program

/-! ## What a batch does to a record -/

/-- Batches of the scope rate users with this usage. -/
def Scope.rates : Scope → Usage Float → Bool
  | .all, _ => true
  | .activeOnly, u => decide (0 < u.running) || decide (0 < u.last24h)

theorem Scope.idle_of_not_rates {scope : Scope} {u : Usage Float} (h : scope.rates u = false) :
    scope = .activeOnly ∧ u.running ≤ 0 ∧ u.last24h ≤ 0 := by
  cases scope with
  | all => cases h
  | activeOnly => simpa [rates] using h

namespace FairShare.Record

def rated (r : Record) : Record :=
  { r with userload := r.usage.share.userload, weight := r.usage.share.weight }

/-- What a batch of the scope makes of a record. -/
def ratedIn (scope : Scope) (r : Record) : Record :=
  if scope.rates r.usage then r.rated else r

variable {scope : Scope} {r : Record}

theorem ratedIn_eq_rated (h : scope.rates r.usage = true) : r.ratedIn scope = r.rated :=
  if_pos h

theorem ratedIn_eq_self (h : scope.rates r.usage = false) : r.ratedIn scope = r :=
  if_neg (by rw [h]; exact Bool.false_ne_true)

theorem usage_ratedIn : (r.ratedIn scope).usage = r.usage := by
  unfold ratedIn
  split <;> rfl

theorem weight_ratedIn : (r.ratedIn scope).weight =
    if scope.rates r.usage then r.usage.share.weight else r.weight := by
  unfold ratedIn
  split <;> rfl

end FairShare.Record

theorem Store.mem_priorityRecords {s : Store} {scope : Scope} {r : Record} :
    r ∈ s.priorityRecords scope ↔
      s.records.get? r.user = some r ∧ scope.rates r.usage = true := by
  cases scope with
  | all => exact s.recordsKeyed.mem_values.trans (and_iff_left rfl).symm
  | activeOnly => exact List.mem_filter.trans (and_congr_left' s.recordsKeyed.mem_values)

theorem Store.pairwise_priorityRecords (s : Store) (scope : Scope) :
    (s.priorityRecords scope).Pairwise (·.user ≠ ·.user) := by
  have hvalues : s.records.values.Pairwise (·.user ≠ ·.user) :=
    s.recordsKeyed.pairwise_values.imp fun hlt heq => by
      rw [heq, Std.ReflOrd.compare_self] at hlt
      cases hlt
  cases scope with
  | all => exact hvalues
  | activeOnly => exact hvalues.filter _

/-! ## A batch -/

namespace FairShare

/-- The calls of a batch.  Once it has read the records, the mode has
those it still has to write. -/
inductive Rating (scope : Scope) : Protocol Call Call.Answer (Option (List Record))
  | stopwatch {todo time} : Rating scope todo .stopwatch time todo
  | note {todo event answer} : Rating scope todo (.note event) answer todo
  | read {records} :
      Rating scope none (.store (.priorityRecords scope)) (.ok records) (some records)
  | unreadable {e} : Rating scope none (.store (.priorityRecords scope)) (.error e) (some [])
  | write {r rest answer} :
      Rating scope (some (r :: rest))
        (.store (.updatePriority r.user r.usage.share.userload r.usage.share.weight)) answer
        (some rest)

variable {scope : Scope}

theorem writeWeight_follows (report : BatchReport) (r : Record) (rest : List Record) :
    (writeWeight report r).Follows (Rating scope) (fun todo _ => todo = some rest)
      (some (r :: rest)) := by
  intro _
  refine ⟨_, .stopwatch, fun result => ⟨_, .write, fun _ => ⟨_, .stopwatch, ?_⟩⟩⟩
  cases result with
  | ok _ => exact fun _ => ⟨_, .note, rfl⟩
  | error _ => exact fun _ => ⟨_, .note, rfl⟩

theorem writeWeights_follows : ∀ (report : BatchReport) (records : List Record),
    (writeWeights report records).Follows (Rating scope) (fun todo _ => todo = some [])
      (some records)
  | _, [] => rfl
  | report, r :: rest => by
      refine follows_bind.mpr ((writeWeight_follows report r rest).mono ?_)
      rintro _ report rfl
      exact writeWeights_follows report rest

theorem batch_follows (scope : Scope) :
    (batch scope).Follows (Rating scope) (fun todo _ => todo = some []) none := by
  intro _
  refine ⟨_, .stopwatch, ?_⟩
  intro answer
  cases answer with
  | error e => exact ⟨_, .unreadable, rfl⟩
  | ok records =>
      refine ⟨_, .read, ?_⟩
      show ((writeWeights { rows := records.length } records).bind _).Follows _ _ _
      refine follows_bind.mpr ((writeWeights_follows _ records).mono ?_)
      rintro _ report rfl
      exact fun _ => ⟨_, .stopwatch, fun _ => ⟨_, .note, rfl⟩⟩

/-- A batch has read the records, and those it still has to write are as
they were; all others are what a batch makes of them. -/
structure Halfway (scope : Scope) (s₀ : Store) (todo : List Record) (s : Store) : Prop where
  distinct : todo.Pairwise (·.user ≠ ·.user)
  read : ∀ r ∈ todo, r ∈ s₀.priorityRecords scope
  pending : ∀ r ∈ todo, s.records.get? r.user = some r
  written : ∀ user, (∀ r ∈ todo, r.user ≠ user) →
    s.records.get? user = (s₀.records.get? user).map (·.ratedIn scope)

namespace Halfway

variable {s₀ s : Store} {r : Record} {rest : List Record}

theorem start (hs : s.records = s₀.records) :
    Halfway scope s₀ (s₀.priorityRecords scope) s where
  distinct := s₀.pairwise_priorityRecords scope
  read _ hr := hr
  pending r hr := by rw [hs]; exact (Store.mem_priorityRecords.mp hr).1
  written user hnone := by
    rw [hs]
    cases hr : s₀.records.get? user with
    | none => rfl
    | some r =>
      have huser : r.user = user := s₀.recordsKeyed _ _ hr
      have hunrated : scope.rates r.usage = false := by
        rw [Bool.eq_false_iff]
        exact fun hrates => hnone r (Store.mem_priorityRecords.mpr ⟨huser ▸ hr, hrates⟩) huser
      rw [Option.map_some, Record.ratedIn_eq_self hunrated]

theorem write (h : Halfway scope s₀ (r :: rest) s) :
    Halfway scope s₀ rest (s.insertRecord r.rated) := by
  obtain ⟨hne, hdistinct⟩ := List.pairwise_cons.mp h.distinct
  obtain ⟨hbefore, hrates⟩ := Store.mem_priorityRecords.mp (h.read r (List.mem_cons_self ..))
  have hget : ∀ user, (s.insertRecord r.rated).records.get? user =
      if user = r.user then some r.rated else s.records.get? user := fun _ => Table.get?_insert
  refine ⟨hdistinct, fun t ht => h.read t (List.mem_cons_of_mem _ ht), ?_, ?_⟩
  · -- no record to come is of the same user
    intro t ht
    rw [hget, if_neg (hne t ht).symm]
    exact h.pending t (List.mem_cons_of_mem _ ht)
  · intro user hnone
    rw [hget]
    split
    · next heq => rw [heq, hbefore, Option.map_some, Record.ratedIn_eq_rated hrates]
    · next hother =>
      refine h.written user fun t ht => ?_
      rcases List.mem_cons.mp ht with rfl | ht
      · exact Ne.symm hother
      · exact hnone t ht

end Halfway

/-- What a batch did to the records by the time of a mode. -/
def Rated (scope : Scope) (s₀ : Store) : Option (List Record) → Store → Prop
  | none, s => s.records = s₀.records
  | some todo, s => Halfway scope s₀ todo s

theorem Rated.step {s₀ s s' : Store} {todo todo' : Option (List Record)} {c : Call} {a : c.Answer}
    (h : Rated scope s₀ todo s) (hm : Rating scope todo c a todo')
    (hW : Surroundings.steady.world c s a s') : Rated scope s₀ todo' s' := by
  cases hm with
  | stopwatch | note => rwa [show s' = s from hW]
  | read =>
    obtain ⟨now, hperform⟩ := Surroundings.steady_store hW
    have hrecords : s.priorityRecords scope = s₀.priorityRecords scope := by
      cases scope <;> simp only [Store.priorityRecords, show s.records = s₀.records from h]
    cases hperform
    exact hrecords ▸ Halfway.start h
  | unreadable =>
    obtain ⟨now, hperform⟩ := Surroundings.steady_store hW
    cases hperform
  | @write r rest =>
    obtain ⟨now, hperform⟩ := Surroundings.steady_store hW
    have hhalf : Halfway scope s₀ (r :: rest) s := h
    have hwrite : s.updatePriority r.user r.usage.share.userload r.usage.share.weight =
        .ok (s.insertRecord r.rated) := by
      rw [Store.updatePriority, hhalf.pending r (List.mem_cons_self ..)]
      rfl
    simp only [Store.perform, hwrite] at hperform
    cases hperform
    exact hhalf.write

/-- A batch that is executed alone rates the records of its scope, and no
others. -/
theorem batch_records {s s' : Store} {result : (Task.batch scope).Result}
    (h : (Task.batch scope).Executes s result s') (user : String) :
    s'.records.get? user = (s.records.get? user).map (·.ratedIn scope) := by
  have hstart : Rated scope s none s := rfl
  obtain ⟨_, hrated, rfl⟩ := h.invariant (batch_follows scope) (Rated scope s) hstart
    fun _ _ _ _ _ _ hrated hm hW => hrated.step hm hW
  exact hrated.written user fun _ hr => nomatch hr

end FairShare

/-! ## Batches in turn with changes -/

/-- The administration set the base fields of the records to these, and
changed nothing else in them. -/
def Store.Adjusted (usage : String → Usage Float) (s s' : Store) : Prop :=
  ∀ user, s'.records.get? user =
    (s.records.get? user).map fun r => { r with usage := usage user }

/-- Batches of a scope, before each of which the base fields were changed.
The list has what they were changed to, the last change first. -/
inductive Rounds (scope : Scope) (s : Store) : List (String → Usage Float) → Store → Prop
  | start : Rounds scope s [] s
  | round {usage earlier s₁ s₂ result s₃} :
      Rounds scope s earlier s₁ → s₁.Adjusted usage s₂ →
      (Task.batch scope).Executes s₂ result s₃ → Rounds scope s (usage :: earlier) s₃

/-- The store with the base fields of its records changed. -/
def Store.adjust (s : Store) (usage : String → Usage Float) : Store :=
  { s with
    records := s.records.mapValues fun r => { r with usage := usage r.user }
    recordsKeyed := s.recordsKeyed.mapValues fun _ => rfl }

theorem Store.adjusted_adjust (s : Store) (usage : String → Usage Float) :
    s.Adjusted usage (s.adjust usage) := by
  intro user
  refine Table.get?_mapValues.trans ?_
  cases hr : s.records.get? user with
  | none => rfl
  | some r =>
    have huser : r.user = user := s.recordsKeyed user r hr
    simp only [Option.map_some, huser]

namespace Rounds

variable {scope : Scope} {s s' : Store} {usage : String → Usage Float}
  {rounds earlier : List (String → Usage Float)} {user : String} {r : Record}

/-- Batches come to their ends, whatever the base fields are changed to. -/
theorem exists_of_changes (scope : Scope) (s : Store) :
    ∀ rounds : List (String → Usage Float), ∃ s', Rounds scope s rounds s'
  | [] => ⟨s, .start⟩
  | usage :: earlier => by
      obtain ⟨s₁, h⟩ := exists_of_changes scope s earlier
      exact ⟨_, h.round (s₁.adjusted_adjust usage)
        (Task.executes_serve generousPartners (.batch scope) (s₁.adjust usage))⟩

/-- The weight in a record is that of the last usage a batch rated, if
any did. -/
theorem weight (h : Rounds scope s rounds s') (hr : s.records.get? user = some r) :
    ∃ r', s'.records.get? user = some r' ∧
      r'.weight =
        (((rounds.map (· user)).find? scope.rates).map (·.share.weight)).getD r.weight := by
  induction h with
  | start => exact ⟨r, hr, rfl⟩
  | @round usage earlier s₁ s₂ result s₃ _ hadjusted hbatch ih =>
      obtain ⟨r₁, hr₁, hweight⟩ := ih
      refine ⟨_, by rw [batch_records hbatch, hadjusted, hr₁]; rfl, ?_⟩
      rw [Record.weight_ratedIn, List.map_cons, List.find?_cons]
      cases scope.rates (usage user) with
      | true => rfl
      | false => exact hweight

theorem usage_eq (h : Rounds scope s (usage :: earlier) s') (hr : s'.records.get? user = some r) :
    r.usage = usage user := by
  cases h with
  | @round _ _ s₁ s₂ _ _ _ hadjusted hbatch =>
      rw [batch_records hbatch, hadjusted, Option.map_map] at hr
      obtain ⟨r₁, -, rfl⟩ := Option.map_eq_some_iff.mp hr
      exact Record.usage_ratedIn

end Rounds

/-! ## Who is excluded -/

/-- The batches do not rate the usage, and the last one they did rate was
over a quota.  The earlier usages come with the last one first. -/
def Stranded (scope : Scope) (usage : Usage Float) (earlier : List (Usage Float)) : Prop :=
  scope.rates usage = false ∧ ∃ u, earlier.find? scope.rates = some u ∧ u.OverQuota

/-- Whatever the base fields are changed to before each batch of a scope:
after the last one a user who was not excluded at first is excluded just
if over a quota or stranded.  The latter happens only to a user who uses
nothing and is within the quotas, and only where the batches are of the
active users. -/
theorem exclusion_follows_last_rating {scope : Scope} {s s' : Store}
    {usage : String → Usage Float} {earlier : List (String → Usage Float)} {user : String}
    {r : Record} (h : Rounds scope s (usage :: earlier) s')
    (hr : s.records.get? user = some r) (hincluded : r.isExcluded = false)
    (hparallel : 0 ≤ (usage user).maxParallel) (htotal : 0 ≤ (usage user).maxTotal) :
    ∃ r', s'.records.get? user = some r' ∧ r'.usage = usage user ∧
      (r'.isExcluded = true ↔
        (usage user).OverQuota ∨ Stranded scope (usage user) (earlier.map (· user))) ∧
      (∀ a : Aggregate, a.user = user →
        (Matching.effectiveWeight a (s'.records.get? a.user) = none ↔ r'.isExcluded = true)) ∧
      (Stranded scope (usage user) (earlier.map (· user)) →
        scope = .activeOnly ∧ ¬ (usage user).OverQuota) := by
  obtain ⟨r', hr', hweight⟩ := h.weight hr
  have hexcluded : r'.isExcluded = true ↔ r'.weight ≤ 0.0 := decide_eq_true_iff
  have hidle (hrates : scope.rates (usage user) = false) :
      scope = .activeOnly ∧ ¬ (usage user).OverQuota := by
    obtain ⟨hscope, hrunning, htime⟩ := Scope.idle_of_not_rates hrates
    refine ⟨hscope, ?_⟩
    rintro (hover | hover) <;> omega
  refine ⟨r', hr', h.usage_eq hr', ?_, ?_, fun hstranded => hidle hstranded.1⟩
  · rw [hexcluded, hweight, List.map_cons, List.find?_cons]
    cases hrates : scope.rates (usage user) with
    | true =>
      have hrated : ¬ Stranded scope (usage user) (earlier.map (· user)) := by
        intro hstranded
        rw [hstranded.1] at hrates
        cases hrates
      rw [or_iff_left hrated]
      exact Usage.weight_le_zero_iff _
    | false =>
      -- the weight is an old one, or still that of the start
      rw [or_iff_right (hidle hrates).2, Stranded, and_iff_right hrates]
      cases (earlier.map (· user)).find? scope.rates with
      | none =>
        refine iff_of_false (of_decide_eq_false hincluded) ?_
        rintro ⟨u, hu, -⟩
        cases hu
      | some u =>
        refine u.weight_le_zero_iff.trans ⟨fun hover => ⟨u, rfl, hover⟩, ?_⟩
        rintro ⟨_, hu, hover⟩
        cases hu
        exact hover
  · rintro a rfl
    simp only [Matching.effectiveWeight, hr']
    cases r'.isExcluded <;> simp

/-- A user who may use ten cores uses so many. -/
def usingCores (cores : Int) : Usage Float := ⟨1.0, cores, 10, 0, 1000000⟩

/-- A waiting job, and the record of its owner. -/
def storeOfRecord : Store :=
  (storeOfOne 7 1).insertRecord ⟨"alice", usingCores 0, 0.0, 1.0⟩

/-- With usage left, a user who was over a quota is served again. -/
theorem exclusion_follows_last_rating_of_active_user :
    ∃ s' r', Rounds .activeOnly storeOfRecord [fun _ => usingCores 2, fun _ => usingCores 11] s' ∧
      s'.records.get? "alice" = some r' ∧ r'.isExcluded = false := by
  obtain ⟨s', h⟩ := Rounds.exists_of_changes .activeOnly storeOfRecord
    [fun _ => usingCores 2, fun _ => usingCores 11]
  have hr : storeOfRecord.records.get? "alice" = some ⟨"alice", usingCores 0, 0.0, 1.0⟩ := rfl
  obtain ⟨r', hr', -, hexcluded, -⟩ :=
    exclusion_follows_last_rating h hr (by decide) (by decide) (by decide)
  refine ⟨s', r', h, hr', Bool.eq_false_iff.mpr fun he => ?_⟩
  rcases hexcluded.mp he with hover | ⟨hidle, -⟩
  · exact absurd hover (by decide)
  · exact absurd hidle (by decide)

/-- With no usage left, the user stays excluded though within the quotas. -/
theorem idle_user_stays_excluded :
    (∀ user, ¬ storeOfRecord.Excludes user) ∧
      ∃ s' r',
        Rounds .activeOnly storeOfRecord [fun _ => usingCores 0, fun _ => usingCores 11] s' ∧
        s'.records.get? "alice" = some r' ∧ r'.isExcluded = true ∧
        r'.usage = usingCores 0 ∧ ¬ r'.usage.OverQuota := by
  constructor
  · rintro user ⟨r, hr, hexcluded⟩
    rw [storeOfRecord, Store.insertRecord, Table.get?_insert] at hr
    split at hr
    · cases hr
      exact absurd hexcluded (by decide)
    · cases hr
  · obtain ⟨s', h⟩ := Rounds.exists_of_changes .activeOnly storeOfRecord
      [fun _ => usingCores 0, fun _ => usingCores 11]
    have hr : storeOfRecord.records.get? "alice" = some ⟨"alice", usingCores 0, 0.0, 1.0⟩ := rfl
    obtain ⟨r', hr', hweight⟩ := h.weight hr
    have husage : r'.usage = usingCores 0 := h.usage_eq hr'
    have hexcluded : r'.weight ≤ 0.0 := by
      rw [hweight]
      exact (Usage.weight_le_zero_iff (usingCores 11)).mpr (by decide)
    exact ⟨s', r', h, hr', decide_eq_true hexcluded, husage, by rw [husage]; decide⟩

end GridQueue
