/-
# `GridQueue.Proofs.FrontDoor.Pairing` — which line a reply is to

A line that can be read gets a ticket, and the request in it, `id`
included, goes to the pool with the ticket.  A line that cannot be read
has its reply at once.  The caller sees no tickets: a reply is known by
its `id`, and it is one to a line (`Reply.Answers`) as follows:

| the line           | its reply                                     |
| :----------------- | :-------------------------------------------- |
| can be read        | has the `id` of the line, whatever the result |
| cannot be read     | has no `id`: the code `invalid`, and words    |

`Reached` has the sessions that there can be, together with the requests
that have tickets, in their order, and the lines whose replies are still
to be collected.  `Paired` is what all steps of a session keep.

In the second case the `id` is lost even where the line is an object that
has one, and only its command means nothing.
-/
import GridQueue.Proofs.FrontDoor.Crew
import GridQueue.Proofs.Wire.Record
import GridQueue.Simulation.Session

namespace GridQueue

open Simulation

/-! ## Lines -/

namespace FrontDoor

/-- The reply is one to the line, where this is said of lines that cannot be
read. -/
def Reply.Answers (complaint : String → String) (reply : Reply) (line : String) : Prop :=
  match Request.ofText? line with
  | some r => ∃ result, reply = .ofResult r.id result
  | none => reply = .unparseable (complaint line)

@[simp] theorem Reply.id_ofResult {id : Json} {result : Except CommandError Response} :
    (Reply.ofResult id result).id = id := by
  cases result <;> rfl

/-- A line that can be read is an object, and has its `id` from there. -/
theorem Request.id_of_ofText? {line : String} {r : Request} (h : ofText? line = some r) :
    ∃ members, Json.ofText? line = some (.obj members) ∧
      ∀ id, Json.Carries members [("id", id)] → r.id = id.ordered := by
  obtain ⟨j, hj, hr⟩ := Option.bind_eq_some_iff.mp h
  cases j with
  | obj members =>
    refine ⟨members, hj, fun id hid => ?_⟩
    obtain ⟨⟨taken, rest⟩, htake, hrest⟩ := Option.bind_eq_some_iff.mp hr
    obtain ⟨command, -, hr⟩ := Option.bind_eq_some_iff.mp hrest
    cases hr
    rw [takeId?, hid.member? (List.mem_singleton_self _)] at htake
    split at htake
    · dsimp only [Option.getD_some] at htake
      split at htake
      · cases htake
        rfl
      · cases htake
    · cases htake
  | _ => cases hr

end FrontDoor

namespace Simulation

open FrontDoor (Request Reply)

/-! ## Sessions -/

variable {complaint : String → String}

/-- What is expected for a line: the ticket of the request in it, or the
reply itself. -/
def Expects (complaint : String → String) (asked : List Request) (line : String) :
    ℕ ⊕ Reply → Prop
  | .inl ticket => ∃ r, Request.ofText? line = some r ∧ asked[ticket]? = some r
  | .inr reply => Request.ofText? line = none ∧ reply = .unparseable (complaint line)

theorem Expects.more {asked : List Request} {line : String} {e : ℕ ⊕ Reply}
    (h : Expects complaint asked line e) (later : List Request) :
    Expects complaint (asked ++ later) line e := by
  cases e with
  | inl ticket =>
    obtain ⟨r, hread, hr⟩ := h
    refine ⟨r, hread, ?_⟩
    rw [List.getElem?_append_left (List.getElem?_eq_some_iff.mp hr).1, hr]
  | inr reply => exact h

namespace Session

/-- Tickets were given to these requests, in this order, and these lines
have replies that are still to be collected.  The session says this of lines
that it cannot read. -/
structure Paired (complaint : String → String) (asked : List Request) (pending : List String)
    (s : Session) : Prop where
  tickets : s.nextTicket = asked.length
  desk : ∀ pool replies, s.desk = some (pool, replies) → Kept asked pool replies
  expected : List.Forall₂ (Expects complaint asked) pending s.expected
  words : s.complaint = complaint

namespace Paired

variable {asked : List Request} {pending : List String} {s : Session} {c : Crew} {line : String}

theorem outside (h : Paired complaint asked pending s) (env : Environment) :
    Paired complaint asked pending { s with env } :=
  ⟨h.tickets, h.desk, h.expected, h.words⟩

theorem withCrew (h : Paired complaint asked pending s) (hc : Kept asked c.pool c.replies) :
    Paired complaint asked pending (s.withCrew c) := by
  refine ⟨h.tickets, fun pool replies hdesk => ?_, h.expected, h.words⟩
  cases hdesk
  exact hc

theorem crew? (h : Paired complaint asked pending s) (hc : s.crew? = some c) :
    Kept asked c.pool c.replies := by
  obtain ⟨⟨pool, replies⟩, hdesk, rfl⟩ := Option.map_eq_some_iff.mp hc
  exact h.desk pool replies hdesk

theorem crew (h : Paired complaint asked pending s) : Kept asked s.crew.pool s.crew.replies := by
  unfold Session.crew
  split
  · next c hc => exact h.crew? hc
  · dsimp only
    split
    · next c hstart => exact Kept.start Kept.nothing hstart
    · exact Kept.nothing

theorem settle (h : Paired complaint asked pending s) : Paired complaint asked pending s.settle := by
  unfold Session.settle
  split
  · exact h
  · next c hc => exact h.withCrew (h.crew? hc).settle

theorem collect? {e : ℕ ⊕ Reply} (h : Paired complaint asked pending s) (he : Expects complaint asked line e)
    {reply : Reply} (hreply : s.collect? e = some reply) : reply.Answers complaint line := by
  unfold FrontDoor.Reply.Answers
  cases e with
  | inr r =>
    obtain ⟨hread, rfl⟩ := he
    cases hreply
    rw [hread]
  | inl ticket =>
    obtain ⟨r, hread, hr⟩ := he
    obtain ⟨⟨pool, replies⟩, hdesk, hlookup⟩ := Option.bind_eq_some_iff.mp hreply
    obtain ⟨before, after, rfl, -⟩ := List.lookup_eq_some_iff.mp hlookup
    obtain ⟨r', result, hr', rfl⟩ := (h.desk pool _ hdesk).replied (ticket, reply)
      (List.mem_append_right _ (List.mem_cons_self ..))
    rw [hr] at hr'
    cases hr'
    rw [hread]
    exact ⟨result, rfl⟩

theorem more (h : Paired complaint asked pending s) (later : List Request) (n : ℕ)
    (hn : n = asked.length + later.length) :
    Paired complaint (asked ++ later) pending { s with nextTicket := n } :=
  ⟨by rw [List.length_append, ← hn],
    fun pool replies hdesk => (h.desk pool replies hdesk).more later,
    h.expected.imp fun _ _ he => he.more later, h.words⟩

/-- Another session gave out tickets in between, in the same environment. -/
theorem after {later : List Request} {pending' : List String} {s' : Session}
    (h : Paired complaint asked pending s) (h' : Paired complaint (asked ++ later) pending' s') :
    Paired complaint (asked ++ later) pending { s with env := s'.env, nextTicket := s'.nextTicket } :=
  (h.outside s'.env).more later s'.nextTicket (h'.tickets.trans List.length_append)

theorem submitLine (h : Paired complaint asked pending s) (line : String) :
    let later := asked ++ (Request.ofText? line).toList
    Paired complaint later pending (s.submitLine line).2 ∧ Expects complaint later line (s.submitLine line).1 := by
  intro later
  have hcrew := h.withCrew h.crew
  unfold Session.submitLine
  cases hread : Request.ofText? line with
  | none =>
    have hlater : later = asked := by simp [later, hread]
    rw [hlater]
    refine ⟨hcrew, hread, ?_⟩
    rw [← h.words]
    rfl
  | some r =>
    have hlater : later = asked ++ [r] := by simp [later, hread]
    have hticket : later[s.nextTicket]? = some r := by
      rw [hlater, h.tickets, List.getElem?_concat_length]
    have hmore : Paired complaint later pending { s.withCrew s.crew with nextTicket := s.nextTicket + 1 } :=
      hlater ▸ hcrew.more [r] (s.nextTicket + 1) (by rw [h.tickets]; rfl)
    exact ⟨hmore.withCrew (Kept.submit hmore.crew hticket), r, hread, hticket⟩

theorem answerLine (h : Paired complaint asked pending s) (line : String) :
    Paired complaint (asked ++ (Request.ofText? line).toList) pending (s.answerLine line).2 ∧
      ∀ reply, (s.answerLine line).1 = some reply → reply.Answers complaint line := by
  obtain ⟨hsubmitted, hexpects⟩ := h.submitLine line
  exact ⟨hsubmitted.settle, fun reply hreply => hsubmitted.settle.collect? hexpects hreply⟩

theorem lineLater (h : Paired complaint asked pending s) (line : String) :
    Paired complaint (asked ++ (Request.ofText? line).toList) (pending ++ [line]) (s.lineLater line) := by
  obtain ⟨hsubmitted, hexpects⟩ := h.submitLine line
  exact ⟨hsubmitted.tickets, hsubmitted.desk,
    List.rel_append hsubmitted.expected (.cons hexpects .nil), hsubmitted.words⟩

theorem lineAbandoned (h : Paired complaint asked pending s) (line : String) :
    Paired complaint (asked ++ (Request.ofText? line).toList) pending (s.lineAbandoned line) := by
  obtain ⟨hsubmitted, -⟩ := h.submitLine line
  unfold Session.lineAbandoned
  dsimp only
  split
  · next ticket pool replies _ hdesk =>
    refine ⟨hsubmitted.tickets, fun pool' replies' hdesk' => ?_, hsubmitted.expected,
      hsubmitted.words⟩
    cases hdesk'
    refine (hsubmitted.desk pool replies hdesk).fewer fun e he => ?_
    rcases List.mem_append.mp he with he | he
    · exact List.mem_append_left _ he
    · exact List.mem_append_right _ (List.mem_of_mem_filter he)
  · exact hsubmitted

theorem collectReplies (h : Paired complaint asked pending s) :
    Paired complaint asked [] s.collectReplies.2 ∧
      ∃ answers, s.collectReplies.1 = answers.filterMap id ∧
        List.Forall₂ (fun line answer => ∀ reply, answer = some reply → reply.Answers complaint line)
          pending answers := by
  refine ⟨⟨h.settle.tickets, h.settle.desk, .nil, h.settle.words⟩, s.settle.expected.map s.settle.collect?, ?_, ?_⟩
  · rw [List.filterMap_map]
    rfl
  · rw [List.forall₂_map_right_iff]
    exact h.settle.expected.imp fun line e he reply hreply => h.settle.collect? he hreply

theorem startPool (h : Paired complaint asked pending s) {s' : Session} (hstart : s.startPool = .ok s') :
    Paired complaint asked pending s' := by
  unfold Session.startPool at hstart
  split at hstart
  · cases hstart
  · next c hc =>
    cases hcrew : c.start with
    | error e =>
      rw [hcrew] at hstart
      cases hstart
    | ok c' =>
      rw [hcrew] at hstart
      cases hstart
      exact h.withCrew ((h.crew? hc).start hcrew)

theorem startedAtBest (h : Paired complaint asked pending s) :
    Paired complaint asked pending (match s.startPool with
      | .ok started => started
      | .error _ => s) := by
  split
  · next started hstart => exact h.startPool hstart
  · exact h

theorem newPool (h : Paired complaint asked pending s) {settings : PoolSettings} {s' : Session}
    (hnew : s.newPool settings = .ok s') : Paired complaint asked pending s' := by
  unfold Session.newPool at hnew
  cases hchecked : settings.checked with
  | error e =>
    rw [hchecked] at hnew
    cases hnew
  | ok checked =>
    rw [hchecked] at hnew
    cases hnew
    refine ⟨h.tickets, fun pool replies hdesk => ?_, h.expected, h.words⟩
    cases hdesk
    refine ⟨nofun, ?_⟩
    split
    · next c hc => exact (h.crew? hc).refuse.replied
    · exact nofun

theorem shutdownPool (h : Paired complaint asked pending s) : Paired complaint asked pending s.shutdownPool.2 := by
  unfold Session.shutdownPool
  split
  · exact h
  · next c hc => exact h.withCrew (h.crew? hc).shutdown

theorem lines (h : Paired complaint asked pending s) (lines : List String) :
    Paired complaint (asked ++ lines.filterMap Request.ofText?) (pending ++ lines)
      (lines.foldl Session.lineLater s) := by
  induction lines generalizing asked pending s with
  | nil => simpa using h
  | cons line rest ih =>
    have hrest := ih (h.lineLater line)
    have hasked : (line :: rest).filterMap Request.ofText? =
        (Request.ofText? line).toList ++ rest.filterMap Request.ofText? := by
      cases hread : Request.ofText? line <;> simp [hread]
    rw [hasked, ← List.append_assoc]
    rwa [List.append_assoc pending] at hrest

theorem run {α : Type} (h : Paired complaint asked pending s) (p : Action α) :
    Paired complaint asked pending (s.run p).2 :=
  h.outside (s.env.run p).2

theorem runTasks (h : Paired complaint asked pending s) : Paired complaint asked pending s.runTasks :=
  (h.run _).run _

/-- What is served to the end leaves the session with the tickets that
were given on the way, and the replies are to the lines, in some order. -/
theorem serve (h : Paired complaint asked pending s) (input : String) :
    Paired complaint (asked ++ (FrontDoor.requestLines input).filterMap Request.ofText?) pending
        (s.serve input).2 ∧
      ∃ answers, (s.serve input).1.Perm (answers.filterMap id) ∧
        List.Forall₂ (fun line answer => ∀ reply, answer = some reply → reply.Answers complaint line)
          (FrontDoor.requestLines input) answers := by
  let inner : Session :=
    { s.settle with desk := some ({ settings := s.settle.config.pool }, []), expected := [] }
  have hinner : Paired complaint asked [] inner := by
    refine ⟨h.settle.tickets, fun pool replies hdesk => ?_, .nil, h.settle.words⟩
    cases hdesk
    exact .nothing
  have hlines := hinner.startedAtBest.runTasks.lines (FrontDoor.requestLines input)
  obtain ⟨hcollected, answers, hanswers, hline⟩ := hlines.collectReplies
  exact ⟨h.settle.after hcollected.shutdownPool, answers, hanswers ▸ List.mergeSort_perm _ _, hline⟩

end Paired

/-! ## Sessions as they come about -/

/-- What a session can come to from its start, with the requests that have
tickets and the lines whose replies are still to be collected.  Anything
may happen to its environment at any time. -/
inductive Reached (complaint : String → String) :
    List Request → List String → Session → Prop
  | start (config : Config) (env : Environment) :
      Reached complaint [] [] { config, env, complaint }
  | outside {asked pending s} (env : Environment) : Reached complaint asked pending s →
      Reached complaint asked pending { s with env }
  | answered {asked pending s} (line : String) : Reached complaint asked pending s →
      Reached complaint (asked ++ (Request.ofText? line).toList) pending (s.answerLine line).2
  | handedIn {asked pending s} (line : String) : Reached complaint asked pending s →
      Reached complaint (asked ++ (Request.ofText? line).toList) (pending ++ [line]) (s.lineLater line)
  | abandoned {asked pending s} (line : String) : Reached complaint asked pending s →
      Reached complaint (asked ++ (Request.ofText? line).toList) pending (s.lineAbandoned line)
  | collected {asked pending s} : Reached complaint asked pending s →
      Reached complaint asked [] s.collectReplies.2
  | settled {asked pending s} : Reached complaint asked pending s → Reached complaint asked pending s.settle
  | renewed {asked pending s s'} (settings : PoolSettings) : Reached complaint asked pending s →
      s.newPool settings = .ok s' → Reached complaint asked pending s'
  | started {asked pending s s'} : Reached complaint asked pending s → s.startPool = .ok s' →
      Reached complaint asked pending s'
  | shutDown {asked pending s} : Reached complaint asked pending s →
      Reached complaint asked pending s.shutdownPool.2
  | served {asked pending s} (input : String) : Reached complaint asked pending s →
      Reached complaint (asked ++ (FrontDoor.requestLines input).filterMap Request.ofText?) pending
        (s.serve input).2

variable {asked : List Request} {pending : List String} {s : Session} {line : String} {r : Request}

theorem Reached.paired (h : Reached complaint asked pending s) : Paired complaint asked pending s := by
  induction h with
  | start => exact ⟨rfl, nofun, .nil, rfl⟩
  | outside env _ ih => exact ih.outside env
  | answered line _ ih => exact (ih.answerLine line).1
  | handedIn line _ ih => exact ih.lineLater line
  | abandoned line _ ih => exact ih.lineAbandoned line
  | collected _ ih => exact ih.collectReplies.1
  | settled _ ih => exact ih.settle
  | renewed _ _ hnew ih => exact ih.newPool hnew
  | started _ hstart ih => exact ih.startPool hstart
  | shutDown _ ih => exact ih.shutdownPool
  | served input _ ih => exact (ih.serve input).1

/-! ## Replies -/

/-- The reply to a line that can be read is found under its ticket. -/
theorem answerLine_of_ofText? (hread : Request.ofText? line = some r) :
    (s.answerLine line).1 =
      ((s.crew.submit s.nextTicket r).settle s.config.broker).replies.lookup s.nextTicket := by
  rw [Session.answerLine, Session.submitLine, hread]
  rfl

theorem Paired.answerLine_of_closed (h : Paired complaint asked pending s)
    (hclosed : s.crew.pool.phase = .closed) (hread : Request.ofText? line = some r) :
    (s.answerLine line).1 = some (.ofResult r.id (.error .shuttingDown)) := by
  have hrefused : s.crew.submit s.nextTicket r =
      s.crew.reply s.nextTicket (.ofResult r.id (.error .shuttingDown)) := by
    rw [Crew.submit, Pool.isOpen_eq_false.mpr hclosed]
    rfl
  have hnew : s.crew.replies.lookup s.nextTicket = none := by
    refine List.lookup_eq_none_iff.mpr fun e he => ?_
    rw [bne_iff_ne]
    rintro heq
    exact h.crew.not_replied (Nat.le_of_eq (heq ▸ h.tickets.symm)) he
  rw [answerLine_of_ofText? hread, hrefused, Crew.settle_of_not_running]
  · rw [Crew.reply, List.lookup_append, hnew, Option.none_or, List.lookup_cons, beq_self_eq_true]
  · rw [Crew.reply, hclosed]
    exact nofun

theorem answerLine_of_attentive (hcrew : Attentive s.crew)
    (hread : Request.ofText? line = some r) : ∃ reply, (s.answerLine line).1 = some reply := by
  obtain ⟨hsubmitted, hwaits⟩ := hcrew.submit s.nextTicket r
  obtain ⟨reply, hreply⟩ := hsubmitted.settle s.config.broker _ hwaits
  rw [answerLine_of_ofText? hread]
  refine Option.isSome_iff_exists.mp (Option.isSome_iff_ne_none.mpr fun hnone => ?_)
  exact bne_iff_ne.mp (List.lookup_eq_none_iff.mp hnone _ hreply) rfl

theorem env_crew (s : Session) : ∃ metrics, s.crew.env = { s.env with metrics } := by
  unfold Session.crew
  split
  · next c hc =>
    obtain ⟨d, -, rfl⟩ := Option.map_eq_some_iff.mp hc
    exact ⟨s.env.metrics, rfl⟩
  · exact ⟨_, rfl⟩

theorem submitLine_of_unreadable (hread : Request.ofText? line = none) :
    s.submitLine line = (.inr (.unparseable (s.complaint line)), s.withCrew s.crew) := by
  rw [Session.submitLine, hread]
  rfl

/-- Whatever a session has come to, the reply to a line that can be read
has the `id` of the line, however the command ends; a closed pool refuses
it, and an attentive crew replies.  A line that cannot be read has a reply
without `id`, nothing is called for it, and the pool goes on as without it.
And so it is with the replies that are collected later, and with those
that come in another order than their lines. -/
theorem readable_lines_keep_their_id (h : Reached complaint asked pending s) :
    (∀ line r, Request.ofText? line = some r →
      (∃ members, Json.ofText? line = some (.obj members) ∧
        ∀ id, Json.Carries members [("id", id)] → r.id = id.ordered) ∧
      (∀ reply, (s.answerLine line).1 = some reply →
        reply.id = r.id ∧ ∃ result, reply = .ofResult r.id result) ∧
      (s.crew.pool.phase = .closed →
        (s.answerLine line).1 = some (.ofResult r.id (.error .shuttingDown))) ∧
      (Attentive s.crew → ∃ reply, (s.answerLine line).1 = some reply)) ∧
    (∀ line, Request.ofText? line = none →
      (s.answerLine line).1 =
        some ⟨.null, .error "invalid" ("unparseable command" ++ complaint line)⟩ ∧
      s.submitLine line = (.inr (.unparseable (complaint line)), s.withCrew s.crew) ∧
      (s.answerLine line).2 = (s.withCrew s.crew).settle ∧
      ∃ metrics, s.crew.env = { s.env with metrics }) ∧
    (∃ answers, s.collectReplies.1 = answers.filterMap id ∧
      List.Forall₂ (fun line answer => ∀ reply, answer = some reply → reply.Answers complaint line)
        pending answers) ∧
    ∀ input, ∃ answers, (s.serve input).1.Perm (answers.filterMap id) ∧
      List.Forall₂ (fun line answer => ∀ reply, answer = some reply → reply.Answers complaint line)
        (FrontDoor.requestLines input) answers := by
  refine ⟨fun line r hread => ?_, fun line hread => ?_, h.paired.collectReplies.2,
    fun input => (h.paired.serve input).2⟩
  · refine ⟨Request.id_of_ofText? hread, fun reply hreply => ?_,
      fun hclosed => h.paired.answerLine_of_closed hclosed hread,
      fun hcrew => answerLine_of_attentive hcrew hread⟩
    have hanswers := (h.paired.answerLine line).2 reply hreply
    rw [Reply.Answers, hread] at hanswers
    obtain ⟨result, rfl⟩ := hanswers
    exact ⟨Reply.id_ofResult, result, rfl⟩
  · have hsubmit := submitLine_of_unreadable (s := s) hread
    rw [h.paired.words] at hsubmit
    refine ⟨?_, hsubmit, ?_, s.env_crew⟩
    · rw [Session.answerLine, hsubmit]
      rfl
    · rw [Session.answerLine, hsubmit]

/-- The first line of a session. -/
theorem readable_lines_keep_their_id_of_first_line :
    let s : Session := { config := { instanceName := "broker" }, env := { clock := ⟨0, false⟩ } }
    let line := "\x7b\"id\":\"r1\",\"command\":\"get_jobs\",\"queue_ids\":[5]\x7d"
    ∃ reply, (s.answerLine line).1 = some reply ∧ reply.id = .str "r1" := by
  intro s line
  have hread : Request.ofText? line = some ⟨.str "r1", .getJobs [5]⟩ := by
    simp only [line, Request.ofText?, Json.ofText?, Json.Token.ofText?, String.reduceToList]
    rfl
  have hattentive : Attentive s.crew :=
    ⟨rfl, by decide, fun _ => by decide, by decide, fun h => absurd rfl h, nofun⟩
  obtain ⟨-, hkeep, -, hreplies⟩ :=
    (readable_lines_keep_their_id (.start { instanceName := "broker" } { clock := ⟨0, false⟩ })).1
      line _ hread
  obtain ⟨reply, hreply⟩ := hreplies hattentive
  exact ⟨reply, hreply, (hkeep reply hreply).1⟩

/-- A line with a command that means nothing is an object with an `id`,
which its reply lacks. -/
theorem unknown_command_loses_its_id :
    let line := "\x7b\"id\":\"r1\",\"command\":\"sleep\"\x7d"
    let members := [("id", .str "r1"), ("command", Json.str "sleep")]
    Json.ofText? line = some (.obj members) ∧ Json.Carries members [("id", .str "r1")] ∧
      ∀ s : Session, ∃ reply, (s.answerLine line).1 = some reply ∧ reply.id ≠ .str "r1" := by
  intro line members
  have hread : Request.ofText? line = none :=
    Option.isNone_iff_eq_none.mp (by decide +kernel)
  refine ⟨?_, fun f hf => ?_, fun s => ⟨.unparseable (s.complaint line), ?_, nofun⟩⟩
  · simp only [line, Json.ofText?, Json.Token.ofText?, String.reduceToList]
    rfl
  · rw [List.mem_singleton.mp hf]
    rfl
  · rw [Session.answerLine, submitLine_of_unreadable hread]
    rfl

end Session

end Simulation

end GridQueue
