/-
# `GridQueue.Proofs.Liveness.Heard` — when a job was last heard from

A job is heard from when it is claimed, when a report on it applies and
when a heartbeat of its present hand-out arrives:

| the call         | its answer    | the job          |
| :--------------- | :------------ | :--------------- |
| `claimWaiting`   | a claimed job | the one claimed  |
| `updateStatus`   | applied       | the one reported |
| `touchHeartbeat` | true          | the one alive    |

Nothing else writes when a job was last heard from, neither what an
operator forces nor what a sweep gives up.  So the row of a job says what
can be read off the log (`LastHeard`).

Both lemmas at the end are about one more event: `exists_lastHeard` is for
the job that it hears from, and `lastHeartbeat_of_lastHeard` carries what
the row says over to the longer log.
-/
import GridQueue.Proofs.Surroundings

namespace GridQueue

/-- The job that is heard from in a call: claimed, reported on or alive. -/
def heardBy : (c : Call) → c.Answer → Option Int
  | .store (.claimWaiting _ _), .ok (some job) => some job.jobId
  | .store (.updateStatus change), .ok (.applied _) => some change.jobId
  | .store (.touchHeartbeat jobId _), .ok true => some jobId
  | _, _ => none

variable {ι : Type} {id : Int} {time : Instant} {s s' : Store}

/-- The store answered the call, when the clock showed the time. -/
def Event.PerformedAt (time : Instant) : Event ι Call Call.Answer Store → Prop
  | ⟨_, .store c, a, s, s'⟩ => s.perform time c = (a, s')
  | _ => False

/-- The job was last heard from at a time. -/
def LastHeard (id : Int) (time : Instant) (es : List (Event ι Call Call.Answer Store)) : Prop :=
  ∃ earlier e later, es = earlier ++ e :: later ∧ heardBy e.call e.answer = some id ∧
    e.PerformedAt time ∧ ∀ e ∈ later, heardBy e.call e.answer ≠ some id

theorem lastHeard_append {es : List (Event ι Call Call.Answer Store)}
    {e : Event ι Call Call.Answer Store} (h : LastHeard id time (es ++ [e])) :
    (heardBy e.call e.answer = some id ∧ e.PerformedAt time) ∨
      (heardBy e.call e.answer ≠ some id ∧ LastHeard id time es) := by
  obtain ⟨earlier, d, later, hes, hd, htime, hlater⟩ := h
  rcases split_append hes with ⟨rfl, rfl, rfl⟩ | ⟨between, rfl, rfl⟩
  · exact .inl ⟨hd, htime⟩
  · exact .inr ⟨hlater e (by simp), earlier, d, between, rfl, hd, htime,
      fun b hb => hlater b (List.mem_append_left _ hb)⟩

theorem LastHeard.append {es : List (Event ι Call Call.Answer Store)}
    {e : Event ι Call Call.Answer Store} (h : LastHeard id time es)
    (he : heardBy e.call e.answer ≠ some id) : LastHeard id time (es ++ [e]) := by
  obtain ⟨earlier, d, later, rfl, hd, htime, hlater⟩ := h
  refine ⟨earlier, d, later ++ [e], by simp, hd, htime, ?_⟩
  intro b hb
  rcases List.mem_append.mp hb with hb | hb
  · exact hlater b hb
  · cases List.mem_singleton.mp hb
    exact he

/-- A call hears from one job and writes the time in its row, or it hears
from none and keeps the time in every row. -/
inductive Hearing (time : Instant) (s s' : Store) : Option Int → Prop
  | heard {id : Int} {j : Job} : s' = s.insertJob j → j.id = id → j.lastHeartbeat = some time →
      Hearing time s s' (some id)
  | unheard : (∀ id, (s'.jobs.get? id).map (·.lastHeartbeat) =
      (s.jobs.get? id).map (·.lastHeartbeat)) → Hearing time s s' none

namespace Hearing

theorem claimWaiting (s : Store) (time : Instant) (aggregateId : Int) (target : ClaimTarget) :
    Hearing time s (s.claimWaiting aggregateId target time).2
      ((s.claimWaiting aggregateId target time).1.map (·.jobId)) := by
  unfold Store.claimWaiting
  split
  · exact .unheard fun _ => rfl
  · exact .heard rfl rfl rfl

theorem updateStatus (s : Store) (time : Instant) (change : StatusChange) :
    Hearing time s (s.updateStatus change time).2
      (heardBy (.store (.updateStatus change)) (.ok (s.updateStatus change time).1)) := by
  unfold Store.updateStatus
  split
  · exact .unheard fun _ => rfl
  · next j hj =>
    have hid : j.id = change.jobId := Store.id_of_get? hj
    repeat' split
    · exact .unheard fun _ => rfl
    · exact .heard rfl hid rfl
    · exact .unheard fun _ => rfl

theorem touchHeartbeat (s : Store) (time : Instant) (jobId n : Int) :
    Hearing time s (s.touchHeartbeat jobId n time).2
      (heardBy (.store (.touchHeartbeat jobId n)) (.ok (s.touchHeartbeat jobId n time).1)) := by
  unfold Store.touchHeartbeat
  split
  · exact .unheard fun _ => rfl
  · next j hj =>
    have hid : j.id = jobId := Store.id_of_get? hj
    repeat' split
    · exact .unheard fun _ => rfl
    · exact .heard rfl hid rfl
    · exact .heard rfl hid rfl
    · exact .unheard fun _ => rfl

theorem of_jobChange {c : StoreCall} (hchange : ∀ id, Store.JobAfter time c s s' id)
    (hkeep : ∀ j j', Store.JobChange time c j j' → j'.lastHeartbeat = j.lastHeartbeat) :
    Hearing time s s' none := by
  refine .unheard fun id => ?_
  rcases hchange id with hsame | ⟨j, j', hj, hj', hc⟩
  · rw [hsame]
  · rw [hj, hj', Option.map_some, Option.map_some, hkeep j j' hc]

theorem perform (s : Store) (time : Instant) (c : StoreCall) :
    Hearing time s (s.perform time c).2 (heardBy (.store c) (s.perform time c).1) := by
  have hchange := s.perform_job time c
  cases c with
  | claimWaiting aggregateId target =>
      have h := claimWaiting s time aggregateId target
      simp only [Store.perform]
      cases hclaim : s.claimWaiting aggregateId target time with
      | mk found s' =>
        rw [hclaim] at h
        cases found <;> exact h
  | updateStatus change => exact updateStatus s time change
  | touchHeartbeat jobId n => exact touchHeartbeat s time jobId n
  | forceStatus | transitionIfStale =>
      exact of_jobChange hchange fun _ _ hc => by cases hc; rfl
  | _ => exact of_jobChange hchange fun _ _ hc => by cases hc

theorem lastHeartbeat {id : Int} {heard : Option Int} (h : Hearing time s s' heard)
    (hid : heard = some id) : ∃ j, s'.jobs.get? id = some j ∧ j.lastHeartbeat = some time := by
  cases h with
  | @heard _ j hs hj htime =>
    cases hid
    exact ⟨j, by rw [hs, Store.get?_insertJob, if_pos hj.symm], htime⟩
  | unheard => cases hid

theorem keeps {id : Int} {heard : Option Int} (h : Hearing time s s' heard)
    (hid : heard ≠ some id) : (s'.jobs.get? id).map (·.lastHeartbeat) =
      (s.jobs.get? id).map (·.lastHeartbeat) := by
  cases h with
  | @heard _ j hs hj htime =>
    rw [hs, Store.get?_insertJob, if_neg fun heq => hid (congrArg some (heq.trans hj).symm)]
  | unheard hkeep => exact hkeep id

end Hearing

variable {w : Surroundings} {c : Call} {a : c.Answer}

/-- Whatever is called, a job that is not heard from keeps the time in its
row. -/
theorem Surroundings.lastHeartbeat_of_unheard (hW : w.world c s a s')
    (hid : heardBy c a ≠ some id) :
    (s'.jobs.get? id).map (·.lastHeartbeat) = (s.jobs.get? id).map (·.lastHeartbeat) := by
  cases c with
  | store c =>
      rcases hW with ⟨now, h⟩ | ⟨-, -, rfl⟩ | ⟨-, -, traces, rfl⟩
      · have hhearing := Hearing.perform s now c
        rw [h] at hhearing
        exact hhearing.keeps hid
      · rfl
      · rfl
  | lookup | issue | revoke => rw [hW.2]
  | now | stopwatch | note => rw [show s' = s from hW]

theorem Surroundings.exists_lastHeard {i : ι} {es : List (Event ι Call Call.Answer Store)}
    (hW : w.world c s a s') (hid : heardBy c a = some id) :
    ∃ time, LastHeard id time (es ++ [⟨i, c, a, s, s'⟩]) := by
  have hperformed : ∃ time, Event.PerformedAt time (⟨i, c, a, s, s'⟩ : Event ι _ _ _) := by
    cases c with
    | store c =>
      rcases hW with hperform | ⟨-, ⟨e, rfl⟩, -⟩ | ⟨-, hc, -⟩
      · exact hperform
      · cases c <;> cases hid
      · cases c <;> cases hc
        cases hid
    | _ => cases hid
  obtain ⟨time, htime⟩ := hperformed
  exact ⟨time, es, _, [], rfl, hid, htime, fun _ hb => nomatch hb⟩

theorem Surroundings.lastHeartbeat_of_lastHeard {i : ι}
    {es : List (Event ι Call Call.Answer Store)} (hW : w.world c s a s')
    (hbefore : ∀ id time, LastHeard id time es →
      (s.jobs.get? id).map (·.lastHeartbeat) = some (some time))
    (h : LastHeard id time (es ++ [⟨i, c, a, s, s'⟩])) :
    (s'.jobs.get? id).map (·.lastHeartbeat) = some (some time) := by
  rcases lastHeard_append h with ⟨hid, htime⟩ | ⟨hid, h⟩
  · cases c with
    | store c =>
      have hhearing := Hearing.perform s time c
      rw [show s.perform time c = (a, s') from htime] at hhearing
      obtain ⟨j, hj, hlast⟩ := hhearing.lastHeartbeat hid
      rw [hj, Option.map_some, hlast]
    | _ => exact htime.elim
  · rw [lastHeartbeat_of_unheard hW hid, hbefore id time h]

end GridQueue
