/-
# `GridQueue.Proofs.Wire.RoundTrip` — what is written is read back

Three shapes are read at the front door:

| the shape                       | what has it                              |
| :------------------------------ | :--------------------------------------- |
| a record                        | tokens and requests for them, sites, requests for work |
| a record with a tag             | commands, answers, outcomes              |
| a tag and its content apart     | inventories                              |

For each record there is one lemma, that it is read from any members that
carry its own (`ofJson?_of_carries`); that it is read back from what is
written of it is the case in which there are no others.  The tag is taken
by `read_kind`, and an `id` beside a command by
`FrontDoor.Request.ofJson?_of_perm`.

Numbers are read within their bounds only, so all is said of values whose
numbers fit.
-/
import GridQueue.FrontDoor.Line
import GridQueue.Proofs.NameSet
import GridQueue.Proofs.Wire.Record

namespace GridQueue

open Json

variable {members : List (String × Json)}

/-! ## Names -/

theorem Matching.Tier.ofName?_name (t : Matching.Tier) : ofName? t.name = some t := by
  cases t <;> decide

theorem Matching.Reason.ofName?_name (r : Matching.Reason) : ofName? r.name = some r := by
  cases r <;> decide

theorem StatusResult.ofName?_name (r : StatusResult) : ofName? r.name = some r := by
  cases r <;> decide

/-! ## Tokens -/

theorem Token.ofJson?_of_carries {t : Token} (h : Carries members t.toJson.members) :
    ofJson? (obj members) = some t := by
  have found := h.found
  simp only [toJson, Json.members, List.forall_mem_cons] at found
  obtain ⟨hcertificate, hkey, hserial, -⟩ := found
  rw [ofJson?, bind_of_read (h.record? ?_),
    bind_of_read (Record.required_eq_some hcertificate (str?_str _)),
    bind_of_read (Record.required_eq_some hkey (str?_str _)),
    bind_of_read (Record.defaulted_eq_some hserial (nullable_opt_str _))]
  exact List.Subset.refl _

def TokenRequest.Fits (r : TokenRequest) : Prop := r.validitySeconds < 0x10000000000000000

theorem TokenRequest.ofJson?_of_carries {r : TokenRequest} (hr : r.Fits)
    (h : Carries members r.toJson.members) : ofJson? (obj members) = some r := by
  have found := h.found
  simp only [toJson, Json.members, List.forall_mem_cons] at found
  obtain ⟨hprincipal, husername, hkind, hextension, hvalidity, -⟩ := found
  rw [ofJson?, bind_of_read (h.record? ?_),
    bind_of_read (Record.required_eq_some hprincipal (str?_str _)),
    bind_of_read (Record.required_eq_some husername (str?_str _)),
    bind_of_read (Record.required_eq_some hkind ((choice?_str _).trans (if_pos rfl))),
    bind_of_read (Record.required_eq_some hextension (str?_str _)),
    bind_of_read (Record.required_eq_some hvalidity (uint64?_int hr))]
  exact List.Subset.refl _

/-! ## Sites and requests for work -/

theorem Site.Requirements.ofJson?_of_carries {r : Site.Requirements}
    (h : Carries members r.toJson.members) : ofJson? (obj members) = some r := by
  have found := h.found
  simp only [toJson, Json.members, List.forall_mem_cons] at found
  obtain ⟨hallowed, hdenied, hpartition, hrequirements, -⟩ := found
  rw [ofJson?, bind_of_read (h.record? ?_),
    bind_of_read (Record.defaulted_eq_some hallowed (list?_strs _)),
    bind_of_read (Record.defaulted_eq_some hdenied (list?_strs _)),
    bind_of_read (Record.defaulted_eq_some hpartition (nullable_opt_str _)),
    bind_of_read (Record.defaulted_eq_some hrequirements (nullable_opt_str _))]
  exact List.Subset.refl _

namespace Matching.Request

/-- The numbers fit 64 bits. -/
structure Fits (r : Request) : Prop where
  ttl : FitsInt64 r.ttl
  disk : FitsInt64 r.disk

theorem nodup_names (r : Request) : (r.toJson.members.map (·.1)).Nodup :=
  (by decide : ["ce", "site", "host", "extra_sites", "ttl", "disk", "partition",
    "installed_packages", "packages_out_of_band", "accepts_remote"].Nodup)

/-- What must be there is kept, and what is left out has its default. -/
structure LeavesOut (kept : String → Bool) (r : Request) : Prop where
  ce : kept "ce" = true
  site : kept "site" = true
  host : kept "host" = true
  ttl : kept "ttl" = true
  extraSites : kept "extra_sites" = false → r.extraSites = []
  disk : kept "disk" = false → r.disk = 0
  partition : kept "partition" = false → r.partition = none
  installedPackages : kept "installed_packages" = false → r.installedPackages = none
  packagesOutOfBand : kept "packages_out_of_band" = false → r.packagesOutOfBand = false
  acceptsRemote : kept "accepts_remote" = false → r.acceptsRemote = true

/-- A request is read back if and only if nothing is left out but
defaults. -/
theorem ofJson?_eq_some_iff {r : Request} {kept : String → Bool} (hr : r.Fits)
    (honce : namesOnce (r.toJson.members.map (·.1)) members = true)
    (hfound : ∀ f ∈ r.toJson.members,
      member? f.1 members = if kept f.1 then some f.2 else none) :
    ofJson? (obj members) = some r ↔ r.LeavesOut kept := by
  simp only [toJson, Json.members, List.forall_mem_cons] at hfound
  obtain ⟨hce, hsite, hhost, hextra, httl, hdisk, hpartition, hinstalled, hout, hremote, -⟩ :=
    hfound
  rw [ofJson?, bind_of_read (record?_obj ?once),
    bind_of_filter (Record.required_of_filter hce (str?_str _)),
    bind_of_filter (Record.required_of_filter hsite (str?_str _)),
    bind_of_filter (Record.required_of_filter hhost (str?_str _)),
    bind_of_read (Record.defaulted_of_filter hextra (list?_strs _)),
    bind_of_filter (Record.required_of_filter httl (int64?_int hr.ttl)),
    bind_of_read (Record.defaulted_of_filter hdisk (int64?_int hr.disk)),
    bind_of_read (Record.defaulted_of_filter hpartition (nullable_opt_str _)),
    bind_of_read (Record.defaulted_of_filter hinstalled (nullable_opt_str _)),
    bind_of_read (Record.defaulted_of_filter hout (bool?_bool _)),
    bind_of_read (Record.defaulted_of_filter hremote (bool?_bool _))]
  case once => exact honce
  cases r
  simp only [Option.ite_none_right_eq_some, Option.some.injEq, mk.injEq, true_and, ite_eq_left_iff,
    Bool.not_eq_true]
  constructor
  · rintro ⟨hce, hsite, hhost, httl, hextra, hdisk, hpartition, hinstalled, hout, hremote⟩
    exact ⟨hce, hsite, hhost, httl, fun h => (hextra h).symm, fun h => (hdisk h).symm,
      fun h => (hpartition h).symm, fun h => (hinstalled h).symm, fun h => (hout h).symm,
      fun h => (hremote h).symm⟩
  · intro h
    exact ⟨h.ce, h.site, h.host, h.ttl, fun hk => (h.extraSites hk).symm,
      fun hk => (h.disk hk).symm, fun hk => (h.partition hk).symm,
      fun hk => (h.installedPackages hk).symm, fun hk => (h.packagesOutOfBand hk).symm,
      fun hk => (h.acceptsRemote hk).symm⟩

theorem ofJson?_of_carries {r : Request} (hr : r.Fits) (h : Carries members r.toJson.members) :
    ofJson? (obj members) = some r := by
  have hiff : ofJson? (obj members) = some r ↔ r.LeavesOut fun _ => true :=
    ofJson?_eq_some_iff hr (h.namesOnce (List.Subset.refl _)) h.found
  exact hiff.mpr ⟨rfl, rfl, rfl, rfl, nofun, nofun, nofun, nofun, nofun, nofun⟩

/-- The members that an agent leaves out must have their defaults. -/
theorem ofJson?_filter_iff {r : Request} (hr : r.Fits) (kept : String → Bool) :
    ofJson? (obj (r.toJson.members.filter fun m => kept m.1)) = some r ↔ r.LeavesOut kept := by
  have h := carries_self r.nodup_names
  refine ofJson?_eq_some_iff hr (namesOnce_filter (h.namesOnce (List.Subset.refl _))) ?_
  intro f hf
  rw [member?_filter, h.found f hf]

end Matching.Request

/-! ## Inventories -/

theorem Inventory.ofJson?_toJson (i : Inventory) : ofJson? i.toJson = some i := by
  cases i with
  | sharedFilesystem => rfl
  | installed packages =>
      have hnames : list? str? (strs packages.names) = some packages.names := list?_strs _
      rw [toJson, ofJson?]
      simp [namesOnce, member?, ofParts?, hnames, NameSet.ofNames_names]

/-! ## Outcomes -/

theorem Owner.ofJson?_toJson (o : Owner) : ofJson? o.toJson = some o := rfl

theorem Token.ofJson?_toJson (t : Token) : ofJson? t.toJson = some t :=
  ofJson?_of_carries (carries_self (by decide : ["certificate", "private_key", "serial"].Nodup))

namespace Matching

/-- The numbers fit 64 and 32 bits. -/
structure AssignedJob.Fits (a : AssignedJob) : Prop where
  jobId : FitsInt64 a.jobId
  resubmission : FitsInt32 a.resubmission

theorem AssignedJob.ofJson?_of_carries {a : AssignedJob} (ha : a.Fits)
    (h : Carries members a.members) : ofJson? (obj members) = some a := by
  have found := h.found
  simp only [AssignedJob.members, List.forall_mem_cons] at found
  obtain ⟨hid, hnumber, hjdl, howner, htoken, htier, -⟩ := found
  rw [ofJson?, bind_of_read (h.record? ?_),
    bind_of_read (Record.required_eq_some hid (int64?_int ha.jobId)),
    bind_of_read (Record.required_eq_some hnumber (int32?_int ha.resubmission)),
    bind_of_read (Record.required_eq_some hjdl (str?_str _)),
    bind_of_read (Record.required_eq_some howner (Owner.ofJson?_toJson _)),
    bind_of_read (Record.required_eq_some htoken (Token.ofJson?_toJson _)),
    bind_of_read (Record.required_eq_some htier (Tier.ofName?_name _))]
  exact List.Subset.refl _

namespace Outcome

/-- The numbers of a job that is handed out fit. -/
def Fits : Outcome → Prop
  | assigned job => job.Fits
  | installPackages _ _ | nothingToRun _ => True

theorem readInstall_of_carries {packages : List String} {tier : Tier}
    (h : Carries members [("packages", strs packages), ("tier", tier.toJson)]) :
    readInstall (obj members) = some (.installPackages packages tier) := by
  have found := h.found
  simp only [List.forall_mem_cons] at found
  obtain ⟨hpackages, htier, -⟩ := found
  rw [readInstall, bind_of_read (h.record? ?_),
    bind_of_read (Record.required_eq_some hpackages (list?_strs _)),
    bind_of_read (Record.required_eq_some htier (Tier.ofName?_name _))]
  exact List.Subset.refl _

theorem readNothing_of_carries {reason : Reason}
    (h : Carries members [("reason", reason.toJson)]) :
    readNothing (obj members) = some (.nothingToRun reason) := by
  have found := h.found
  simp only [List.forall_mem_cons] at found
  obtain ⟨hreason, -⟩ := found
  rw [readNothing, bind_of_read (h.record? ?_),
    bind_of_read (Record.required_eq_some hreason (Reason.ofName?_name _))]
  exact List.Subset.refl _

theorem isReadable_toJson (o : Outcome) : o.toJson.isReadable = true := by
  cases o with
  | assigned job =>
      simp [toJson, AssignedJob.members, isReadable, allMembersReadable, Owner.toJson, Token.toJson,
        Tier.toJson]
  | installPackages packages tier => simp [toJson, isReadable, allMembersReadable, Tier.toJson]
  | nothingToRun reason => simp [toJson, isReadable, allMembersReadable, Reason.toJson]

theorem ofJson?_toJson {o : Outcome} (ho : o.Fits) (withinTagged : Bool) :
    ofJson? withinTagged o.toJson = some o := by
  have hreadable := o.isReadable_toJson
  cases o with
  | assigned job =>
      have hnames :
          ["outcome", "queue_id", "resubmission", "jdl", "owner", "token", "tier"].Nodup := by
        decide
      refine read_kind rfl (carries_self hnames) hnames hreadable ?_
      intro rest h
      rw [readAssigned, AssignedJob.ofJson?_of_carries ho h, Option.map_some]
  | installPackages packages tier =>
      have hnames : ["outcome", "packages", "tier"].Nodup := by decide
      exact read_kind rfl (carries_self hnames) hnames hreadable
        fun rest h => readInstall_of_carries h
  | nothingToRun reason =>
      have hnames : ["outcome", "reason"].Nodup := by decide
      exact read_kind rfl (carries_self hnames) hnames hreadable
        fun rest h => readNothing_of_carries h

end Outcome

end Matching

/-! ## Answers -/

namespace Response

/-- It is not a list of jobs, and its numbers fit 64 and 32 bits. -/
def Fits : Response → Prop
  | jobs _ => False
  | status jobId _ | heartbeat jobId _ | traceAppended jobId => FitsInt64 jobId
  | matched code _ outcome => FitsInt32 code ∧ outcome.Fits

theorem ofJson?_toJson {r : Response} (hr : r.Fits) : ofJson? r.toJson = some r := by
  cases r with
  | jobs => exact hr.elim
  | status jobId result =>
      have hnames : ["response", "queue_id", "result"].Nodup := by decide
      refine read_kind rfl (carries_self hnames) hnames rfl ?_
      intro rest h
      have found := h.found
      simp only [List.forall_mem_cons] at found
      obtain ⟨hid, hresult, -⟩ := found
      rw [bind_of_read (h.record? ?_),
        bind_of_read (Record.required_eq_some hid (int64?_int hr)),
        bind_of_read (Record.required_eq_some hresult (StatusResult.ofName?_name _))]
      exact List.Subset.refl _
  | heartbeat jobId accepted =>
      have hnames : ["response", "queue_id", "accepted"].Nodup := by decide
      refine read_kind rfl (carries_self hnames) hnames rfl ?_
      intro rest h
      have found := h.found
      simp only [List.forall_mem_cons] at found
      obtain ⟨hid, haccepted, -⟩ := found
      rw [bind_of_read (h.record? ?_),
        bind_of_read (Record.required_eq_some hid (int64?_int hr)),
        bind_of_read (Record.required_eq_some haccepted (bool?_bool _))]
      exact List.Subset.refl _
  | traceAppended jobId =>
      have hnames : ["response", "queue_id"].Nodup := by decide
      refine read_kind rfl (carries_self hnames) hnames rfl ?_
      intro rest h
      have found := h.found
      simp only [List.forall_mem_cons] at found
      obtain ⟨hid, -⟩ := found
      rw [bind_of_read (h.record? ?_),
        bind_of_read (Record.required_eq_some hid (int64?_int hr))]
      exact List.Subset.refl _
  | matched code message outcome =>
      have hnames : ["response", "code", "message", "outcome"].Nodup := by decide
      have hreadable :
          allMembersReadable (toJson (matched code message outcome)).members = true := by
        simp [toJson, Json.members, allMembersReadable, isReadable, outcome.isReadable_toJson]
      refine read_kind rfl (carries_self hnames) hnames hreadable ?_
      intro rest h
      have found := h.found
      simp only [List.forall_mem_cons] at found
      obtain ⟨hcode, hmessage, houtcome, -⟩ := found
      rw [bind_of_read (h.record? ?_),
        bind_of_read (Record.required_eq_some hcode (int32?_int hr.1)),
        bind_of_read (Record.required_eq_some hmessage (str?_str _)),
        bind_of_read (Record.required_eq_some houtcome (Matching.Outcome.ofJson?_toJson hr.2 true))]
      exact List.Subset.refl _

end Response

/-! ## Commands -/

namespace Command

/-- The numbers of a command fit 64 and 32 bits. -/
def Fits : Command → Prop
  | getJobs ids => ∀ id ∈ ids, FitsInt64 id
  | setJobStatus jobId resubmission _ | heartbeat jobId resubmission =>
      FitsInt64 jobId ∧ FitsInt32 resubmission
  | appendTrace jobId _ _ | forceJobStatus jobId _ => FitsInt64 jobId
  | matchJob request => request.Fits

/-- No two members have one name, and none is called `id`. -/
theorem nodup_names (c : Command) : ("id" :: c.members.map (·.1)).Nodup := by
  cases c with
  | getJobs => exact (by decide : ["id", "command", "queue_ids"].Nodup)
  | setJobStatus =>
      exact (by decide : ["id", "command", "queue_id", "resubmission", "status"].Nodup)
  | heartbeat => exact (by decide : ["id", "command", "queue_id", "resubmission"].Nodup)
  | appendTrace => exact (by decide : ["id", "command", "queue_id", "tag", "message"].Nodup)
  | matchJob =>
      exact (by decide : ["id", "command", "ce", "site", "host", "extra_sites", "ttl", "disk",
        "partition", "installed_packages", "packages_out_of_band", "accepts_remote"].Nodup)
  | forceJobStatus => exact (by decide : ["id", "command", "queue_id", "status"].Nodup)

theorem readable_members (c : Command) : allMembersReadable c.members = true := by
  cases c with
  | getJobs ids =>
      have hids : allReadable (ids.map .int) = true := by simp [allReadable_iff, isReadable]
      simp [members, allMembersReadable, isReadable, hids]
  | matchJob request =>
      simp [members, Matching.Request.toJson, allMembersReadable, isReadable]
  | _ => rfl

/-- A command is read from its members, in any order and among others. -/
theorem ofJson?_of_carries {c : Command} (hc : c.Fits) (h : Carries members c.members)
    (hreadable : allMembersReadable members = true) (positions : Bool) :
    ofJson? positions (obj members) = some c := by
  have hnames := c.nodup_names.of_cons
  cases c with
  | matchJob request =>
      refine read_kind rfl h hnames hreadable ?_
      intro rest h
      rw [Matching.Request.ofJson?_of_carries hc h, Option.map_some]
  | getJobs ids =>
      refine read_kind rfl h hnames hreadable ?_
      intro rest h
      have found := h.found
      simp only [List.forall_mem_cons] at found
      obtain ⟨hids, -⟩ := found
      rw [bind_of_read (h.record? ?_),
        bind_of_read
          (Record.required_eq_some hids (list?_map fun id hid => int64?_int (hc id hid)))]
      exact List.Subset.refl _
  | setJobStatus jobId resubmission status =>
      refine read_kind rfl h hnames hreadable ?_
      intro rest h
      have found := h.found
      simp only [List.forall_mem_cons] at found
      obtain ⟨hid, hnumber, hstatus, -⟩ := found
      rw [bind_of_read (h.record? ?_),
        bind_of_read (Record.required_eq_some hid (int64?_int hc.1)),
        bind_of_read (Record.required_eq_some hnumber (int32?_int hc.2)),
        bind_of_read (Record.required_eq_some hstatus (Status.ofName?_name _))]
      exact List.Subset.refl _
  | heartbeat jobId resubmission =>
      refine read_kind rfl h hnames hreadable ?_
      intro rest h
      have found := h.found
      simp only [List.forall_mem_cons] at found
      obtain ⟨hid, hnumber, -⟩ := found
      rw [bind_of_read (h.record? ?_),
        bind_of_read (Record.required_eq_some hid (int64?_int hc.1)),
        bind_of_read (Record.required_eq_some hnumber (int32?_int hc.2))]
      exact List.Subset.refl _
  | appendTrace jobId tag message =>
      refine read_kind rfl h hnames hreadable ?_
      intro rest h
      have found := h.found
      simp only [List.forall_mem_cons] at found
      obtain ⟨hid, htag, hmessage, -⟩ := found
      rw [bind_of_read (h.record? ?_),
        bind_of_read (Record.required_eq_some hid (int64?_int hc)),
        bind_of_read (Record.required_eq_some htag (str?_str _)),
        bind_of_read (Record.required_eq_some hmessage (str?_str _))]
      exact List.Subset.refl _
  | forceJobStatus jobId status =>
      refine read_kind rfl h hnames hreadable ?_
      intro rest h
      have found := h.found
      simp only [List.forall_mem_cons] at found
      obtain ⟨hid, hstatus, -⟩ := found
      rw [bind_of_read (h.record? ?_),
        bind_of_read (Record.required_eq_some hid (int64?_int hc)),
        bind_of_read (Record.required_eq_some hstatus (Status.ofName?_name _))]
      exact List.Subset.refl _

end Command

/-! ## Lines -/

/-- A line with a command and an `id`, in any order and with members that
nobody asks for, is a request of this command with this `id`. -/
theorem FrontDoor.Request.ofJson?_of_perm {c : Command} {id : Json}
    {extra line : List (String × Json)} (hc : c.Fits) (hid : id.isReadable = true)
    (hreadable : ∀ m ∈ extra, m.2.isReadable = true)
    (hextra : ∀ m ∈ extra, m.1 ≠ "id" ∧ m.1 ∉ c.members.map (·.1))
    (hline : line.Perm (("id", id) :: c.members ++ extra)) :
    FrontDoor.Request.ofJson? (obj line) = some ⟨id.ordered, c⟩ := by
  have h : Carries line (("id", id) :: c.members) := by
    refine carries_of_perm hline c.nodup_names fun m hm hname => ?_
    rcases List.mem_cons.mp hname with heq | hmem
    · exact (hextra m hm).1 heq
    · exact (hextra m hm).2 hmem
  have htake : takeId? line = some (id.ordered, line.filter fun m => m.1 != "id") := by
    have honce : namesOnce ["id"] line = true := h.namesOnce (by simp)
    rw [takeId?, if_pos honce, h.member? (List.mem_cons_self ..), Option.getD_some, if_pos hid]
  have hrest : allMembersReadable (line.filter fun m => m.1 != "id") = true := by
    refine allMembersReadable_iff.mpr fun m hm => ?_
    rcases List.mem_append.mp (hline.mem_iff.mp (List.mem_of_mem_filter hm)) with hm | hm
    · rcases List.mem_cons.mp hm with rfl | hm
      · exact hid
      · exact allMembersReadable_iff.mp c.readable_members m hm
    · exact hreadable m hm
  have hcarries : Carries (line.filter fun m => m.1 != "id") c.members :=
    (h.subset (List.subset_cons_self ..)).without (List.nodup_cons.mp c.nodup_names).1
  rw [Request.ofJson?, bind_of_read htake]
  exact bind_of_read (Command.ofJson?_of_carries hc hcarries hrest true) _

/-! ## The format as a whole -/

/-- A value that fits is read back from what is written of it, and no other
value that fits is written in the same way. -/
structure RoundTrips {α : Type} (fits : α → Prop) (write : α → Json) (read : Json → Option α) :
    Prop where
  read_write : ∀ a, fits a → read (write a) = some a
  distinct : ∀ a b, fits a → fits b → write a = write b → a = b

theorem roundTrips_of_read {α : Type} {fits : α → Prop} {write : α → Json}
    {read : Json → Option α} (h : ∀ a, fits a → read (write a) = some a) :
    RoundTrips fits write read where
  read_write := h
  distinct a b ha hb heq := by
    have hread := h a ha
    rw [heq, h b hb] at hread
    exact (Option.some.inj hread).symm

/-- Commands are read from lines in which their members stand in any order
and beside others, with the `id` of the line, which is kept as it is up to
the order of the names in it.  The other records are read back from what is
written of them; and a request for work is so if nothing was left out of it
but what has its default. -/
theorem front_door_format_round_trips :
    (∀ (c : Command) (id : Json) (extra line : List (String × Json)), c.Fits →
      id.isReadable = true → (∀ m ∈ extra, m.2.isReadable = true) →
      (∀ m ∈ extra, m.1 ≠ "id" ∧ m.1 ∉ c.members.map (·.1)) →
      line.Perm (("id", id) :: c.members ++ extra) →
      FrontDoor.Request.ofJson? (.obj line) = some ⟨id.ordered, c⟩) ∧
    (∀ id : Json, id.IsOrdered → id.ordered = id) ∧
    (∀ withinTagged, RoundTrips Matching.Outcome.Fits Matching.Outcome.toJson
      (Matching.Outcome.ofJson? withinTagged)) ∧
    RoundTrips TokenRequest.Fits TokenRequest.toJson TokenRequest.ofJson? ∧
    RoundTrips (fun _ => True) Token.toJson Token.ofJson? ∧
    RoundTrips (fun _ => True) Inventory.toJson Inventory.ofJson? ∧
    RoundTrips (fun _ => True) Site.Requirements.toJson Site.Requirements.ofJson? ∧
    RoundTrips Matching.Request.Fits Matching.Request.toJson Matching.Request.ofJson? ∧
    RoundTrips Response.Fits Response.toJson Response.ofJson? ∧
    RoundTrips Command.Fits Command.toJson (Command.ofJson? true) ∧
    ∀ (r : Matching.Request) (kept : String → Bool), r.Fits →
      (Matching.Request.ofJson? (.obj (r.toJson.members.filter fun m => kept m.1)) = some r ↔
        r.LeavesOut kept) := by
  refine ⟨?_, fun id h => ordered_of_isOrdered h, ?_, ?_, ?_, ?_, ?_, ?_, ?_, ?_, ?_⟩
  · intro c id extra line hc hid hreadable hextra hline
    exact FrontDoor.Request.ofJson?_of_perm hc hid hreadable hextra hline
  · exact fun b => roundTrips_of_read fun o ho => Matching.Outcome.ofJson?_toJson ho b
  · exact roundTrips_of_read fun r hr => TokenRequest.ofJson?_of_carries hr (carries_self
      (by decide : ["principal", "username", "kind", "extension", "validity_secs"].Nodup))
  · exact roundTrips_of_read fun t _ => t.ofJson?_toJson
  · exact roundTrips_of_read fun i _ => i.ofJson?_toJson
  · exact roundTrips_of_read fun r _ => Site.Requirements.ofJson?_of_carries (carries_self
      (by decide : ["allowed_users", "denied_users", "partition", "requirements"].Nodup))
  · exact roundTrips_of_read fun r hr =>
      Matching.Request.ofJson?_of_carries hr (carries_self r.nodup_names)
  · exact roundTrips_of_read fun r hr => Response.ofJson?_toJson hr
  · exact roundTrips_of_read fun c hc =>
      Command.ofJson?_of_carries hc (carries_self c.nodup_names.of_cons) c.readable_members true
  · exact fun r kept hr => Matching.Request.ofJson?_filter_iff hr kept

/-- A heartbeat in a line that is written backwards, with a remark; and a
request for work of which only what must be there is written. -/
theorem front_door_format_round_trips_of_shuffled_line :
    let r : Matching.Request := { ce := "ce", site := "site", host := "host", ttl := 7200 }
    let short (name : String) : Bool := ["ce", "site", "host", "ttl"].contains name
    FrontDoor.Request.ofJson? (.obj [("remark", .null), ("resubmission", .int 1),
        ("queue_id", .int 7), ("command", .str "heartbeat"), ("id", .str "a")]) =
      some ⟨.str "a", .heartbeat 7 1⟩ ∧
    r.Fits ∧ r.LeavesOut short ∧
    Matching.Request.ofJson? (.obj (r.toJson.members.filter fun m => short m.1)) = some r := by
  intro r short
  have hr : r.Fits := ⟨by decide, by decide⟩
  have hshort : r.LeavesOut short :=
    ⟨by decide, by decide, by decide, by decide, fun _ => rfl, fun _ => rfl, fun _ => rfl,
      fun _ => rfl, fun _ => rfl, fun _ => rfl⟩
  obtain ⟨hline, -, -, -, -, -, -, -, -, -, hkept⟩ := front_door_format_round_trips
  have hbackwards := List.reverse_perm
    (("id", .str "a") :: (Command.heartbeat 7 1).members ++ [("remark", Json.null)])
  refine ⟨?_, hr, hshort, (hkept r short hr).mpr hshort⟩
  exact hline (.heartbeat 7 1) (.str "a") [("remark", .null)] _ ⟨by decide, by decide⟩ rfl
    (by simp [isReadable]) (by simp [Command.members]) hbackwards

end GridQueue
