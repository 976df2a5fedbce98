/-
# `GridQueue.Proofs.Turns` — taking turns by markers

Instances that share a store bid for a marker before they do the work it
is named for.  A `Bid` is read off the log with the answer it got, so that
all that is said of markers is said of logs:

    answered   a bid is won if the marker is old enough for it, measured
               from the last bid that was won, and only then
    spaced     from one bid that is won to the next one, the clocks go on
               by the age that the next one asks for
    last_eq    the store keeps nothing of the log but its last winner

Clocks are not compared with one another: each reading is the bidder's
own, and nothing is assumed of their order.

A cycle of sweeps, and a batch that runs if it is due, make one bid each,
at the reading of their clock (`finished_turn`).  One that completes has
won it, and one that is skipped has lost it.
-/
import GridQueue.Proofs.Surroundings
import Mathlib.Data.List.Pairwise

namespace GridQueue

/-! ## Bids -/

/-- A bid for a marker, and the answer to it. -/
structure Bid where
  owner : String
  /-- The age the marker must have. -/
  age : Span
  /-- What the clock of the bidder shows. -/
  now : Instant
  answer : Except StoreError Bool
  deriving DecidableEq

namespace Bid

def won (b : Bid) : Bool :=
  match b.answer with
  | .ok granted => granted
  | .error _ => false

theorem won_iff {b : Bid} : b.won = true ↔ b.answer = .ok true := by
  unfold won
  cases b.answer with
  | ok granted => simp
  | error e => simp

/-- A marker that was last taken at a time, if it ever was, is old enough
for the bid. -/
def IsDue (last : Option Instant) (b : Bid) : Prop :=
  ∀ taken ∈ last, taken.nanos ≤ b.now.nanos - b.age.nanos

/-- The clock reading of the last of some bids, or else an earlier one. -/
def lastReading (earlier : Option Instant) (bs : List Bid) : Option Instant :=
  (bs.getLast?.map (·.now)).or earlier

@[simp] theorem lastReading_concat {earlier : Option Instant} {bs : List Bid} {b : Bid} :
    lastReading earlier (bs ++ [b]) = some b.now := by
  simp [lastReading]

/-- Each bid waits until the age it asks for has passed since the one
before. -/
def Spaced : Option Instant → List Bid → Prop
  | _, [] => True
  | last, b :: rest => (b.age.isCountable = true ∧ b.IsDue last) ∧ Spaced (some b.now) rest

end Bid

/-- The bid for the marker of this name that a call makes. -/
def Call.bid? (name : String) : (c : Call) → c.Answer → Option Bid
  | .store (.acquireMarker other owner age time), a =>
      if other = name then some ⟨owner, age, time, a⟩ else none
  | _, _ => none

/-- The clock reading a call asks for. -/
def Call.reading? : (c : Call) → c.Answer → Option Instant
  | .now, time => some time
  | _, _ => none

/-- The bids for a marker, oldest first. -/
def bids {ι : Type} (name : String) (es : List (Event ι Call Call.Answer Store)) : List Bid :=
  es.filterMap fun e => e.call.bid? name e.answer

theorem bids_append {ι : Type} {name : String} {es : List (Event ι Call Call.Answer Store)} {i : ι}
    {c : Call} {a : c.Answer} {s s' : Store} :
    bids name (es ++ [⟨i, c, a, s, s'⟩]) = bids name es ++ (c.bid? name a).toList := by
  rw [bids, List.filterMap_append]
  cases hb : c.bid? name a <;> simp [hb, bids]

/-! ## What the store makes of a bid -/

namespace Store

variable {s s' : Store} {name other owner : String} {age : Span} {now : Instant}

/-- When a marker was last taken, if it ever was. -/
def takenAt (s : Store) (name : String) : Option Instant :=
  (s.markers.get? name).map (·.takenAt)

/-- The store after a bid that was won. -/
def withMarker (s : Store) (name : String) (m : Marker) : Store :=
  { s with markers := s.markers.insert name m }

theorem takenAt_withMarker {m : Marker} :
    (s.withMarker name m).takenAt other =
      if other = name then some m.takenAt else s.takenAt other := by
  unfold takenAt withMarker
  rw [Table.get?_insert]
  split <;> rfl

theorem acquireMarker_of_not_countable (h : age.isCountable = false) :
    ∃ e, s.acquireMarker name owner age now = (.error e, s) := by
  simp [acquireMarker, isDue, Instant.back?, h]

/-- A bid is won if the marker is old enough, and else changes nothing. -/
theorem acquireMarker_of_countable (h : age.isCountable = true) (a : Except StoreError Bool) :
    Bid.IsDue (s.takenAt name) ⟨owner, age, now, a⟩ ∧
        s.acquireMarker name owner age now = (.ok true, s.withMarker name ⟨now, owner⟩) ∨
      ¬ Bid.IsDue (s.takenAt name) ⟨owner, age, now, a⟩ ∧
        s.acquireMarker name owner age now = (.ok false, s) := by
  have hback : now.back? age = some (now.back age) := if_pos h
  unfold acquireMarker isDue takenAt Bid.IsDue
  rw [hback]
  cases s.markers.get? name with
  | none => exact .inl ⟨nofun, rfl⟩
  | some m =>
      dsimp only
      by_cases hdue : m.takenAt.nanos ≤ (now.back age).nanos
      · refine .inl ⟨?_, by rw [decide_eq_true hdue]; rfl⟩
        rintro _ ⟨⟩
        exact hdue
      · exact .inr ⟨fun hall => hdue (hall _ rfl), by rw [decide_eq_false hdue]⟩

theorem acquireMarker_effect {a : Except StoreError Bool}
    (h : s.acquireMarker name owner age now = (a, s')) :
    (a = .ok true → s' = s.withMarker name ⟨now, owner⟩) ∧ (a ≠ .ok true → s' = s) := by
  cases hage : age.isCountable with
  | true =>
      rcases acquireMarker_of_countable hage a with ⟨-, heq⟩ | ⟨-, heq⟩
      · cases heq.symm.trans h
        exact ⟨fun _ => rfl, fun hne => absurd rfl hne⟩
      · cases heq.symm.trans h
        exact ⟨nofun, fun _ => rfl⟩
  | false =>
      obtain ⟨e, heq⟩ := acquireMarker_of_not_countable hage
      cases heq.symm.trans h
      exact ⟨nofun, fun _ => rfl⟩

end Store

section World

variable {s s' : Store} {name : String} {b : Bid} {c : Call} {a : c.Answer}

theorem world_bid (h : Surroundings.steady.world c s a s') (hb : c.bid? name a = some b) :
    s.acquireMarker name b.owner b.age b.now = (b.answer, s') := by
  unfold Call.bid? at hb
  split at hb
  · split at hb
    · next hname =>
      cases hb
      cases hname
      obtain ⟨_, hperform⟩ := Surroundings.steady_store h
      exact hperform
    · cases hb
  · cases hb

/-- Without a bid for it a marker stays as it is, whatever is called. -/
theorem takenAt_of_world (h : Surroundings.steady.world c s a s') (hb : c.bid? name a = none) :
    s'.takenAt name = s.takenAt name := by
  by_cases hwrites : c.writes = some .markers
  · cases c with
    | store c =>
        cases c with
        | acquireMarker other owner age now =>
            have hother : name ≠ other := by
              rintro rfl
              simp [Call.bid?] at hb
            obtain ⟨_, hperform⟩ := Surroundings.steady_store h
            obtain ⟨hwon, hlost⟩ := Store.acquireMarker_effect hperform
            by_cases ha : a = .ok true
            · rw [hwon ha, Store.takenAt_withMarker, if_neg hother]
            · rw [hlost ha]
        | _ => cases hwrites
    | _ => cases hwrites
  · have hsame : s'.markers = s.markers := Surroundings.world_same (q := .markers) h hwrites
    rw [Store.takenAt, hsame, Store.takenAt]

end World

/-! ## Logs of bids -/

/-- What is known of the bids for a marker between the time it was taken
first and the time it was taken last. -/
structure BidLog (first : Option Instant) (bs : List Bid) (last : Option Instant) : Prop where
  last_eq : last = Bid.lastReading first (bs.filter (·.won))
  answered : ∀ before b after, bs = before ++ b :: after → b.age.isCountable = true →
    ∃ granted, b.answer = .ok granted ∧
      (granted = true ↔ b.IsDue (Bid.lastReading first (before.filter (·.won))))
  spaced : (bs.filter (·.won)).Pairwise fun b b' : Bid => b.now.nanos + b'.age.nanos ≤ b'.now.nanos

namespace BidLog

variable {first last : Option Instant} {bs : List Bid} {b : Bid}

theorem nil : BidLog first [] first :=
  ⟨rfl, fun _ _ _ h => (by simp at h), .nil⟩

theorem le_last (h : BidLog first bs last) (hb : b ∈ bs.filter (·.won)) :
    ∃ taken ∈ last, b.now.nanos ≤ taken.nanos := by
  have hspaced := h.spaced
  rw [h.last_eq]
  generalize bs.filter (·.won) = winners at hb hspaced ⊢
  rcases List.eq_nil_or_concat winners with rfl | ⟨init, winner, rfl⟩
  · cases hb
  · rw [List.concat_eq_append] at hb hspaced ⊢
    refine ⟨winner.now, Bid.lastReading_concat, ?_⟩
    rcases List.mem_append.mp hb with hb | hb
    · have hgap := (List.pairwise_append.mp hspaced).2.2 b hb winner (List.mem_singleton_self _)
      omega
    · rw [List.mem_singleton.mp hb]

section Step

variable {s s' : Store} {name : String}

theorem append (h : BidLog first bs (s.takenAt name))
    (heq : s.acquireMarker name b.owner b.age b.now = (b.answer, s')) :
    BidLog first (bs ++ [b]) (s'.takenAt name) := by
  have hanswer : b.age.isCountable = true →
      b.IsDue (s.takenAt name) ∧ b.won = true ∧ b.answer = .ok true ∨
        ¬ b.IsDue (s.takenAt name) ∧ b.won = false ∧ b.answer = .ok false := by
    intro hage
    rcases Store.acquireMarker_of_countable hage b.answer with ⟨hdue, hok⟩ | ⟨hdue, hok⟩
    · have ha : b.answer = .ok true := congrArg Prod.fst (heq.symm.trans hok)
      exact .inl ⟨hdue, Bid.won_iff.mpr ha, ha⟩
    · have ha : b.answer = .ok false := congrArg Prod.fst (heq.symm.trans hok)
      exact .inr ⟨hdue, by rw [Bid.won, ha], ha⟩
  obtain ⟨hwins, hloses⟩ := Store.acquireMarker_effect heq
  refine ⟨?last_eq, ?answered, ?spaced⟩
  case last_eq =>
    rw [List.filter_append]
    by_cases hwon : b.won = true
    · rw [hwins (Bid.won_iff.mp hwon), Store.takenAt_withMarker, if_pos rfl]
      simp [hwon]
    · rw [hloses (mt Bid.won_iff.mpr hwon), h.last_eq]
      simp [hwon]
  case answered =>
    intro before b' after hbs hage
    rcases split_append hbs with ⟨rfl, rfl, rfl⟩ | ⟨between, rfl, hmid⟩
    · rw [← h.last_eq]
      rcases hanswer hage with ⟨hdue, -, ha⟩ | ⟨hdue, -, ha⟩
      · exact ⟨true, ha, iff_of_true rfl hdue⟩
      · exact ⟨false, ha, iff_of_false nofun hdue⟩
    · exact h.answered before b' between hmid hage
  case spaced =>
    rw [List.filter_append]
    refine List.pairwise_append.mpr
      ⟨h.spaced, List.Pairwise.filter _ (List.pairwise_singleton ..), ?_⟩
    intro winner hwinner b' hb'
    obtain ⟨hb', hwon⟩ := List.mem_filter.mp hb'
    obtain rfl := List.mem_singleton.mp hb'
    obtain ⟨taken, htaken, hle⟩ := h.le_last hwinner
    -- an age that cannot be counted back is refused
    have hage : b'.age.isCountable = true := by
      by_contra hage
      obtain ⟨e, hrefused⟩ :=
        Store.acquireMarker_of_not_countable (Bool.eq_false_of_not_eq_true hage)
      have ha : b'.answer = .error e := congrArg Prod.fst (heq.symm.trans hrefused)
      cases ha.symm.trans (Bid.won_iff.mp hwon)
    rcases hanswer hage with ⟨hdue, -⟩ | ⟨-, hlost, -⟩
    · have := hdue taken htaken
      omega
    · cases hlost.symm.trans hwon

end Step

theorem won_of_spaced (h : BidLog first bs last) (hspaced : Bid.Spaced first bs) :
    ∀ b ∈ bs, b.answer = .ok true := by
  -- so far all bids are won, and those to come are spaced from the last one on
  suffices hall : ∀ after before, bs = before ++ after → (∀ b ∈ before, b.answer = .ok true) →
      Bid.Spaced (Bid.lastReading first before) after → ∀ b ∈ after, b.answer = .ok true from
    hall bs [] rfl (List.forall_mem_nil _) hspaced
  intro after
  induction after with
  | nil => exact fun _ _ _ _ => List.forall_mem_nil _
  | cons b rest ih =>
      rintro before hbs hbefore ⟨⟨hage, hdue⟩, hrest⟩
      have hwinners : before.filter (·.won) = before :=
        List.filter_eq_self.mpr fun b hb => Bid.won_iff.mpr (hbefore b hb)
      obtain ⟨granted, ha, hgranted⟩ := h.answered before b rest hbs hage
      rw [hwinners] at hgranted
      have hb : b.answer = .ok true := by rw [ha, hgranted.mpr hdue]
      refine List.forall_mem_cons.mpr ⟨hb, ih (before ++ [b]) (by simp [hbs]) ?_ ?_⟩
      · exact List.forall_mem_append.mpr ⟨hbefore, List.forall_mem_singleton.mpr hb⟩
      · rw [Bid.lastReading_concat]
        exact hrest

end BidLog

section Runs

variable {ι : Type} [DecidableEq ι] {α : ι → Type} {start t : Threads ι Call Call.Answer α Store}
  {es : List (Event ι Call Call.Answer Store)}

theorem bidLog_of_run (h : Run Surroundings.steady.world start es t) (name : String) :
    BidLog (start.state.takenAt name) (bids name es) (t.state.takenAt name) := by
  refine h.invariant_of_world
    (fun es s => BidLog (start.state.takenAt name) (bids name es) (s.takenAt name)) .nil ?_
  intro es s i c a s' hlog hW
  rw [bids_append]
  cases hb : c.bid? name a with
  | none =>
      rw [takenAt_of_world hW hb, Option.toList_none, List.append_nil]
      exact hlog
  | some b => exact hlog.append (world_bid hW hb)

end Runs

/-! ## How old a marker must be -/

namespace Marker

/-- The slack of an interval, which the age of a marker may lack. -/
theorem minAge_add_slack (interval : Span) :
    (minAge interval).nanos + min (interval.nanos / 10) maxSlack.nanos = interval.nanos := by
  unfold minAge
  dsimp only
  omega

theorem minAge_bounds (interval : Span) :
    interval.nanos ≤ (minAge interval).nanos + maxSlack.nanos ∧
      (minAge interval).nanos ≤ interval.nanos ∧
      9 * interval.nanos ≤ 10 * (minAge interval).nanos := by
  have := minAge_add_slack interval
  omega

theorem minAge_mono {interval longer : Span} (h : interval.nanos ≤ longer.nanos) :
    (minAge interval).nanos ≤ (minAge longer).nanos := by
  have := minAge_add_slack interval
  have := minAge_add_slack longer
  omega

end Marker

/-! ## Tasks that take turns -/

/-- What a task bids for before it works. -/
structure Turn where
  name : String
  owner : String
  age : Span

/-- Where a task stands that takes turns. -/
inductive TurnStage
  | idle
  /-- it read its clock -/
  | awake (now : Instant)
  /-- its bid was answered -/
  | told (now : Instant) (answer : Except StoreError Bool)

namespace TurnStage

def readings : TurnStage → List Instant
  | idle => []
  | awake now | told now _ => [now]

def bids (turn : Turn) : TurnStage → List Bid
  | idle | awake _ => []
  | told now answer => [⟨turn.owner, turn.age, now, answer⟩]

end TurnStage

/-- Calls that neither bid for a marker nor read a clock. -/
def Call.IsWork (c : Call) : Prop :=
  ∀ a, (∀ name, c.bid? name a = none) ∧ c.reading? a = none

/-- A task reads its clock, bids at this reading, and works if it may. -/
inductive Turn.Moves (turn : Turn) : Protocol Call Call.Answer TurnStage
  | clock {now} : Turn.Moves turn .idle .now now (.awake now)
  | bid {now answer} : Turn.Moves turn (.awake now)
      (.store (.acquireMarker turn.name turn.owner turn.age now)) answer (.told now answer)
  | work {now answer c a} : c.IsWork → Turn.Moves turn (.told now answer) c a (.told now answer)

namespace Liveness

theorem Calls.isWork {settings : LivenessSettings} {now : Instant} {c : Call}
    (h : Calls settings now c) : c.IsWork := by
  intro a
  cases h <;> exact ⟨fun _ => rfl, rfl⟩

theorem sweep_turn {turn : Turn} {settings : LivenessSettings} {now taken : Instant}
    {answer : Except StoreError Bool} :
    (sweep settings now).Follows turn.Moves
      (fun m result => m = .told taken answer ∧ result ≠ .ok .skipped) (.told taken answer) := by
  have hwork : ∀ c a, Calls settings now c →
      turn.Moves (.told taken answer) c a (.told taken answer) := fun _ _ h => .work h.isWork
  unfold sweep
  refine fun started => ⟨_, hwork _ _ .stopwatch, ?_⟩
  dsimp only
  split
  · exact ⟨rfl, nofun⟩
  · next cutoff expiry h =>
    refine (Program.follows_bind (p := passes cutoff expiry)).mpr
      (((passes_only h).stays hwork).mono ?_)
    rintro _ result rfl
    cases result with
    | error e => exact ⟨rfl, nofun⟩
    | ok counts =>
        exact fun _ => ⟨_, hwork _ _ .stopwatch, fun _ => ⟨_, hwork _ _ .note, rfl, nofun⟩⟩

end Liveness

namespace Task

/-- The turn a task waits for, if it takes turns. -/
def turn? : Task → Option Turn
  | cycle settings owner => some ⟨Liveness.markerName, owner, Marker.minAge settings.interval⟩
  | batchIfDue _ owner interval => some ⟨FairShare.markerName, owner, Marker.minAge interval⟩
  | request _ _ | command _ _ | sweep _ _ | batch _ => none

/-- The task did its work in its turn. -/
def Completes : (t : Task) → t.Result → Prop
  | cycle _ _, .ok (.completed _ _ _) => True
  | batchIfDue _ _ _, .ok (some _) => True
  | _, _ => False

/-- It was not the turn of the task. -/
def Skips : (t : Task) → t.Result → Prop
  | cycle _ _, .ok .skipped => True
  | batchIfDue _ _ _, .ok none => True
  | _, _ => False

/-- A task that takes turns ends after its bid: it completes only if the
bid was won, and is skipped only if it was lost. -/
def EndsTurn (t : Task) (m : TurnStage) (result : t.Result) : Prop :=
  ∃ now answer, m = .told now answer ∧ (t.Completes result → answer = .ok true) ∧
    (t.Skips result → answer = .ok false)

theorem follows_turn {t : Task} {turn : Turn} (h : t.turn? = some turn) :
    t.program.Follows turn.Moves t.EndsTurn .idle := by
  cases t with
  | cycle settings owner =>
      cases h
      refine fun now => ⟨_, .clock, fun answer => ⟨_, .bid, ?_⟩⟩
      match answer with
      | .error e => exact ⟨now, _, rfl, nofun, nofun⟩
      | .ok false => exact ⟨now, _, rfl, nofun, fun _ => rfl⟩
      | .ok true =>
          refine Liveness.sweep_turn.mono ?_
          rintro _ result ⟨rfl, hresult⟩
          refine ⟨now, _, rfl, fun _ => rfl, fun hskips => ?_⟩
          match result, hskips with
          | .ok .skipped, _ => exact absurd rfl hresult
  | batchIfDue scope owner interval =>
      cases h
      refine fun now => ⟨_, .clock, fun answer => ⟨_, .bid, ?_⟩⟩
      match answer with
      | .error e => exact ⟨now, _, rfl, nofun, nofun⟩
      | .ok false => exact ⟨now, _, rfl, nofun, fun _ => rfl⟩
      | .ok true =>
          have hbatch : (FairShare.batch scope).Only Call.IsWork :=
            FairShare.only_batch (fun _ => ⟨fun _ => rfl, rfl⟩) (fun _ _ => ⟨fun _ => rfl, rfl⟩)
              (fun _ _ => ⟨fun _ => rfl, rfl⟩) (fun _ _ _ _ => ⟨fun _ => rfl, rfl⟩) scope
          refine (Program.follows_bind (p := FairShare.batch scope)).mpr
            ((hbatch.stays fun _ _ h => Turn.Moves.work h).mono ?_)
          rintro _ report rfl
          cases report with
          | error e => exact ⟨now, _, rfl, nofun, nofun⟩
          | ok report => exact ⟨now, _, rfl, fun _ => rfl, nofun⟩
  | _ => cases h

end Task

section Tasks

variable {ι : Type} [DecidableEq ι] {tasks : ι → Task} {s : Store}
  {es : List (Event ι Call Call.Answer Store)}
  {t : Threads ι Call Call.Answer (fun i => (tasks i).Result) Store} {i j : ι} {turn : Turn}

/-- A task that takes turns reads its clock once and makes one bid, at this
reading. -/
theorem finished_turn {W : World Call Call.Answer Store} (h : Run W (Task.threads tasks s) es t)
    (hturn : (tasks i).turn? = some turn) {result : (tasks i).Result}
    (hresult : t.Finished i result) :
    ∃ now answer, Event.gather Call.reading? i es = [now] ∧
      Event.gather (Call.bid? turn.name) i es = [⟨turn.owner, turn.age, now, answer⟩] ∧
      ((tasks i).Completes result → answer = .ok true) ∧
      ((tasks i).Skips result → answer = .ok false) := by
  let I : List (Event ι Call Call.Answer Store) → TurnStage → Store → Prop := fun es m _ =>
    Event.gather Call.reading? i es = m.readings ∧
      Event.gather (Call.bid? turn.name) i es = m.bids turn
  have hown : ∀ es m s c a s' m', I es m s → turn.Moves m c a m' → W c s a s' →
      I (es ++ [⟨i, c, a, s, s'⟩]) m' s' := by
    rintro es m s c a s' m' ⟨hreadings, hbids⟩ hm -
    simp only [I, Event.gather_own, hreadings, hbids]
    cases hm with
    | clock => exact ⟨rfl, rfl⟩
    | bid => exact ⟨rfl, by simp [Call.bid?, TurnStage.bids]⟩
    | work hwork =>
        rw [(hwork a).1, (hwork a).2]
        exact ⟨List.append_nil _, List.append_nil _⟩
  have hother : ∀ es m s j c a s', j ≠ i → I es m s → W c s a s' →
      I (es ++ [⟨j, c, a, s, s'⟩]) m s' := by
    rintro es m s j c a s' hj ⟨hreadings, hbids⟩ -
    exact ⟨(Event.gather_other hj).trans hreadings, (Event.gather_other hj).trans hbids⟩
  obtain ⟨m, ⟨hreadings, hbids⟩, hends⟩ :=
    h.invariant_of_one i (Task.follows_turn hturn) I ⟨rfl, rfl⟩ hown hother
  rw [show t.rest i = .done result from hresult] at hends
  obtain ⟨now, answer, rfl, hcompletes, hskips⟩ := hends
  exact ⟨now, answer, hreadings, hbids, hcompletes, hskips⟩

theorem mem_bids_of_gather {name : String} {b : Bid}
    (h : Event.gather (Call.bid? name) i es = [b]) :
    ∃ e ∈ es, e.thread = i ∧ e.call.bid? name e.answer = some b :=
  Event.exists_of_mem_gather (h ▸ List.mem_singleton_self b)

/-- Two bids for a marker that were won are apart by the age of the later
one. -/
theorem spaced_of_won {α : ι → Type} {start t : Threads ι Call Call.Answer α Store}
    (h : Run Surroundings.steady.world start es t) {name : String}
    {e e' : Event ι Call Call.Answer Store} (he : e ∈ es) (he' : e' ∈ es) (hne : e ≠ e')
    {b b' : Bid} (hb : e.call.bid? name e.answer = some b)
    (hb' : e'.call.bid? name e'.answer = some b') (hwon : b.won = true) (hwon' : b'.won = true) :
    b.now.nanos + b'.age.nanos ≤ b'.now.nanos ∨ b'.now.nanos + b.age.nanos ≤ b.now.nanos := by
  have hspaced := (bidLog_of_run h name).spaced
  rw [List.pairwise_filter, bids, List.pairwise_filterMap] at hspaced
  let R : Event ι Call Call.Answer Store → Event ι Call Call.Answer Store → Prop := fun e e' =>
    ∀ b, e.call.bid? name e.answer = some b → ∀ b', e'.call.bid? name e'.answer = some b' →
      b.won = true → b'.won = true → b.now.nanos + b'.age.nanos ≤ b'.now.nanos
  have : Std.Symm fun e e' => R e e' ∨ R e' e := ⟨fun _ _ h => h.symm⟩
  have hboth : es.Pairwise fun e e' => R e e' ∨ R e' e := hspaced.imp .inl
  rcases hboth.forall he he' hne with hR | hR
  · exact .inl (hR b hb b' hb' hwon hwon')
  · exact .inr (hR b' hb' b hb hwon' hwon)

end Tasks

/-! ## Turns -/

/-- Markers keep instances out of each other's turns, and let everyone in
whose turn it is.

Over any run of any programs, a bid for a marker is won if the marker was
never taken, or was last taken longer ago than the age that is asked for,
on the clock of the bidder; otherwise it is lost.  A bid that is won
writes its own marker and nothing else, and one that is not changes
nothing.  Between two bids that are won the clocks go on by the age.

The age for a task that comes at an interval is the interval but for a
slack of at most a tenth and at most thirty seconds, and grows with the
interval.

So two tasks that complete in turns of one name have clocks that are this
far apart; and where all bids come this far apart, as those of a single
instance may, each is won and no task is skipped. -/
theorem turns_exclude_others_and_never_starve :
    (∀ {ι : Type} [DecidableEq ι] {α : ι → Type} {start t : Threads ι Call Call.Answer α Store}
        {es : List (Event ι Call Call.Answer Store)},
      Run Surroundings.steady.world start es t → ∀ name,
        (∀ before b after, bids name es = before ++ b :: after → b.age.isCountable = true →
          ∃ granted, b.answer = .ok granted ∧
            (granted = true ↔
              ∀ taken ∈ Bid.lastReading (start.state.takenAt name) (before.filter (·.won)),
                taken.nanos ≤ b.now.nanos - b.age.nanos)) ∧
        (∀ i owner age now a s s',
          ⟨i, .store (.acquireMarker name owner age now), a, s, s'⟩ ∈ es →
          (a = .ok true → s' = { s with markers := s.markers.insert name ⟨now, owner⟩ }) ∧
            (a ≠ .ok true → s' = s)) ∧
        ((bids name es).filter (·.won)).Pairwise fun b b' : Bid =>
          b.now.nanos + b'.age.nanos ≤ b'.now.nanos) ∧
    (∀ interval : Span,
      (Marker.minAge interval).nanos + min (interval.nanos / 10) Marker.maxSlack.nanos =
          interval.nanos ∧
        interval.nanos ≤ (Marker.minAge interval).nanos + (Span.ofSeconds 30).nanos ∧
        (Marker.minAge interval).nanos ≤ interval.nanos ∧
        9 * interval.nanos ≤ 10 * (Marker.minAge interval).nanos ∧
        ∀ longer : Span, interval.nanos ≤ longer.nanos →
          (Marker.minAge interval).nanos ≤ (Marker.minAge longer).nanos) ∧
    (∀ {ι : Type} [DecidableEq ι] {tasks : ι → Task} {s : Store}
        {es : List (Event ι Call Call.Answer Store)}
        {t : Threads ι Call Call.Answer (fun i => (tasks i).Result) Store},
      Run Surroundings.steady.world (Task.threads tasks s) es t →
        (∀ i j turn turn' result result', i ≠ j →
          (tasks i).turn? = some turn → (tasks j).turn? = some turn' → turn.name = turn'.name →
          t.Finished i result → t.Finished j result' →
          (tasks i).Completes result → (tasks j).Completes result' →
          ∃ now now', Event.gather Call.reading? i es = [now] ∧
            Event.gather Call.reading? j es = [now'] ∧
            (now.nanos + turn'.age.nanos ≤ now'.nanos ∨
              now'.nanos + turn.age.nanos ≤ now.nanos)) ∧
        (∀ name, Bid.Spaced (s.takenAt name) (bids name es) →
          (∀ b ∈ bids name es, b.answer = .ok true) ∧
            ∀ i turn result, (tasks i).turn? = some turn → turn.name = name →
              t.Finished i result → ¬ (tasks i).Skips result)) := by
  refine ⟨?runs, ?age, ?tasks⟩
  case runs =>
    intro ι _ α start t es h name
    have hlog := bidLog_of_run h name
    refine ⟨hlog.answered, ?_, hlog.spaced⟩
    intro i owner age now a s s' he
    obtain ⟨_, hperform⟩ := Surroundings.steady_store (h.answered _ he)
    exact Store.acquireMarker_effect hperform
  case age =>
    intro interval
    obtain ⟨hslack, hle, htenths⟩ := Marker.minAge_bounds interval
    exact ⟨Marker.minAge_add_slack interval, hslack, hle, htenths,
      fun longer => Marker.minAge_mono⟩
  case tasks =>
    intro ι _ tasks s es t h
    constructor
    · intro i j turn turn' result result' hij hturn hturn' hname hresult hresult' hdone hdone'
      obtain ⟨now, answer, hnow, hbid, hwon, -⟩ := finished_turn h hturn hresult
      obtain ⟨now', answer', hnow', hbid', hwon', -⟩ := finished_turn h hturn' hresult'
      obtain ⟨e, he, rfl, hb⟩ := mem_bids_of_gather hbid
      obtain ⟨e', he', rfl, hb'⟩ := mem_bids_of_gather hbid'
      rw [← hname] at hb'
      exact ⟨now, now', hnow, hnow', spaced_of_won h he he' (fun heq => hij (heq ▸ rfl)) hb hb'
        (Bid.won_iff.mpr (hwon hdone)) (Bid.won_iff.mpr (hwon' hdone'))⟩
    · intro name hspaced
      have hall := (bidLog_of_run h name).won_of_spaced hspaced
      refine ⟨hall, ?_⟩
      rintro i turn result hturn rfl hresult hskips
      obtain ⟨now, answer, -, hbid, -, hlost⟩ := finished_turn h hturn hresult
      obtain ⟨e, he, rfl, hb⟩ := mem_bids_of_gather hbid
      have hwon := hall _ (List.mem_filterMap.mpr ⟨e, he, hb⟩)
      cases (hlost hskips).symm.trans hwon

instance (settings : LivenessSettings) (owner : String) :
    DecidableEq (Task.cycle settings owner).Result :=
  inferInstanceAs (DecidableEq (Except StoreError Liveness.Report))

/-- Cycles that come every hour, the second one in another instance. -/
abbrev hourlyCycles (i : Fin 3) : Task :=
  .cycle { interval := .ofSeconds 3600 } (if i = 1 then "west" else "east")

/-- Partners whose clock shows so many seconds. -/
def partnersAt (seconds : Int) : Partners :=
  { generousPartners with now := ⟨seconds * 1000000000, false⟩ }

/-- A cycle completes.  One that comes after half an hour in the other
instance is skipped, and one that comes ten seconds early completes, also
if the other instance is gone. -/
theorem turns_of_hourly_cycles :
    let t := Task.threads hourlyCycles {}
    let first := t.play (partnersAt 0).reply (List.replicate 9 0)
    let other := first.play (partnersAt 1800).reply [1, 1]
    let both := other.play (partnersAt 3590).reply (List.replicate 9 2)
    let alone := first.play (partnersAt 3590).reply (List.replicate 9 2)
    let firstLog := t.log (partnersAt 0).reply (List.replicate 9 0)
    let bothLog := firstLog ++ first.log (partnersAt 1800).reply [1, 1] ++
      other.log (partnersAt 3590).reply (List.replicate 9 2)
    let aloneLog := firstLog ++ first.log (partnersAt 3590).reply (List.replicate 9 2)
    both.Finished 0 (.ok (.completed {} {} ⟨0⟩)) ∧ both.Finished 1 (.ok .skipped) ∧
      both.Finished 2 (.ok (.completed {} {} ⟨0⟩)) ∧
      (∃ now now', Event.gather Call.reading? 0 bothLog = [now] ∧
        Event.gather Call.reading? 2 bothLog = [now'] ∧
        (now.nanos + 3570000000000 ≤ now'.nanos ∨ now'.nanos + 3570000000000 ≤ now.nanos)) ∧
      (∀ b ∈ bids Liveness.markerName aloneLog, b.answer = .ok true) ∧
      ∀ i result, alone.Finished i result → ¬ (hourlyCycles i).Skips result := by
  intro t first other both alone firstLog bothLog aloneLog
  have hsteady := fun seconds => Surroundings.steady_reply (partnersAt seconds)
  have hfirst := Run.play (hsteady 0) t (List.replicate 9 0)
  have hboth : Run Surroundings.steady.world t bothLog both :=
    (hfirst.trans (Run.play (hsteady 1800) first [1, 1])).trans (Run.play (hsteady 3590) other _)
  have halone : Run Surroundings.steady.world t aloneLog alone :=
    hfirst.trans (Run.play (hsteady 3590) first _)
  have hdone : both.Finished 0 (.ok (.completed {} {} ⟨0⟩)) ∧
      both.Finished 1 (.ok .skipped) ∧ both.Finished 2 (.ok (.completed {} {} ⟨0⟩)) :=
    ⟨Threads.finished_of_result? (by decide +kernel),
      Threads.finished_of_result? (by decide +kernel),
      Threads.finished_of_result? (by decide +kernel)⟩
  have hspaced : Bid.Spaced none (bids Liveness.markerName aloneLog) := by
    have hbids : bids Liveness.markerName aloneLog =
        [⟨"east", ⟨3570000000000⟩, ⟨0, false⟩, .ok true⟩,
          ⟨"east", ⟨3570000000000⟩, ⟨3590000000000, false⟩, .ok true⟩] := by decide +kernel
    rw [hbids]
    refine ⟨⟨rfl, nofun⟩, ⟨rfl, ?_⟩, trivial⟩
    rintro _ ⟨⟩
    decide
  obtain ⟨-, -, hturns⟩ := @turns_exclude_others_and_never_starve
  have hapart := (hturns hboth).1 0 2 _ _ _ _ (by decide) rfl rfl rfl hdone.1 hdone.2.2
  have hone := (hturns halone).2 Liveness.markerName hspaced
  exact ⟨hdone.1, hdone.2.1, hdone.2.2, hapart trivial trivial, hone.1,
    fun i result => hone.2 i _ result rfl rfl⟩

end GridQueue
