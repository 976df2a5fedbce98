/-
# `GridQueue.Proofs.Lookup.Binding` — conditions and their parameters

The conditions of a look-up count their parameters on, and the parameters
are listed apart.  A clause puts together what belongs together, a
condition and the values it is about, and the clauses of a filter say
which these are:

    numbered     the conditions, each from the number on that follows the
                 values of the clauses before
    flatMap      the values, clause by clause

Both the conditions and the parameters of a filter are those of its
clauses, so every condition finds the values of its own clause, and of the
numbers none is left out or used without a value (`binds_clauses`).

The query goes to the database as a text.  Each of its expressions has the
brackets that it needs, so the database reads from the text what is meant
here (`select_is_read`).
-/
import GridQueue.Proofs.Sql.Reading
import GridQueue.Store.Lookup

namespace GridQueue.Lookup

open Sql

/-- A condition, given the number of its first parameter, and the values
it is about. -/
structure Clause where
  values : List Value
  condition : Nat → Expr

/-- The conditions of clauses, each after the parameters of those before. -/
def numbered : Nat → List Clause → List Expr
  | _, [] => []
  | n, c :: rest => c.condition n :: numbered (n + c.values.length) rest

variable {α : Type} {cs ds : List Clause}

theorem numbered_append (n : Nat) : numbered n (cs ++ ds) =
    numbered n cs ++ numbered (n + (cs.flatMap (·.values)).length) ds := by
  induction cs generalizing n with
  | nil => rfl
  | cons c rest ih =>
    rw [List.cons_append, numbered, ih, numbered, List.cons_append, List.flatMap_cons,
      List.length_append, Nat.add_assoc]

theorem length_values_append : ((cs ++ ds).flatMap (·.values)).length =
    (cs.flatMap (·.values)).length + (ds.flatMap (·.values)).length := by
  rw [List.flatMap_append, List.length_append]

/-! ## The clauses of a filter -/

/-- The clause of a part that may be absent. -/
def optional (part : Option α) (values : α → List Value) (condition : Nat → Expr) : List Clause :=
  part.toList.map fun a => ⟨values a, condition⟩

/-- A list that constrains only if it is not empty. -/
def listed? (l : List String) : Option (List String) := if l.isEmpty then none else some l

/-- The packages that are there, if they are checked. -/
def installed? : Matching.PackageCheck → Option NameSet
  | .ignore => none
  | .installed packages => some packages

def fixedClauses (f : Matching.Filter) : List Clause :=
  [⟨[], fun _ => hasWork⟩, ⟨[.int f.ttl], atMost "ttl"⟩, ⟨[.int f.disk], atMost "disk"⟩,
   ⟨[], fun _ => ownerAdmitted⟩]

def clauses (f : Matching.Filter) : List Clause :=
  fixedClauses f
    ++ optional f.ce (fun ce => [.text ce]) acceptsCe
    ++ optional f.site (fun site => [.texts (site :: f.extraSites)]) acceptsSites
    ++ optional f.partitions (fun l => [.texts l]) acceptsPartitions
    ++ optional (listed? f.allowedUsers) (fun l => [.texts l]) ownerAmong
    ++ optional (listed? f.deniedUsers) (fun l => [.texts l]) ownerNotAmong
    ++ optional (installed? f.packages) (fun packages => [.texts packages.names]) packagesAmong
    ++ optional f.remote (fun r => [.time r.now, .int r.defaultTimeout]) openToRemote

/-! ## Conditions -/

/-- The conditions so far are those of clauses, and the next number follows
their values. -/
structure Draft.Holds (d : Draft) (cs : List Clause) : Prop where
  conditions : d.conditions = numbered 1 cs
  next : d.next = 1 + (cs.flatMap (·.values)).length

theorem Draft.Holds.optional {d : Draft} (h : d.Holds cs) (part : Option α)
    (values : α → List Value) (condition : Nat → Expr) (width : Nat) {wanted : Bool}
    (hwanted : wanted = part.isSome) (hwidth : ∀ a, (values a).length = width) :
    (d.add wanted width condition).Holds (cs ++ Lookup.optional part values condition) := by
  subst hwanted
  cases part with
  | none =>
    rw [Lookup.optional, Option.toList_none, List.map_nil, List.append_nil]
    exact h
  | some a =>
    constructor
    · rw [numbered_append, ← h.conditions, ← h.next]
      rfl
    · rw [length_values_append, ← Nat.add_assoc, ← h.next, ← hwidth a]
      exact congrArg (d.next + ·) (congrArg List.length (List.append_nil _)).symm

theorem isSome_listed? (l : List String) : (!l.isEmpty) = (listed? l).isSome := by
  cases l <;> rfl

theorem isSome_installed? (c : Matching.PackageCheck) : c.isChecked = (installed? c).isSome := by
  cases c <;> rfl

theorem conditions_eq (f : Matching.Filter) : conditions f = numbered 1 (clauses f) := by
  have hstart : Draft.start.Holds (fixedClauses f) := ⟨rfl, rfl⟩
  have hce := hstart.optional f.ce (fun ce => [.text ce]) acceptsCe 1 rfl fun _ => rfl
  have hsite := hce.optional f.site (fun site => [.texts (site :: f.extraSites)]) acceptsSites 1 rfl
    fun _ => rfl
  have hpartitions := hsite.optional f.partitions (fun l => [.texts l]) acceptsPartitions 1 rfl
    fun _ => rfl
  have hallowed := hpartitions.optional (listed? f.allowedUsers) (fun l => [.texts l]) ownerAmong 1
    (isSome_listed? _) fun _ => rfl
  have hdenied := hallowed.optional (listed? f.deniedUsers) (fun l => [.texts l]) ownerNotAmong 1
    (isSome_listed? _) fun _ => rfl
  have hpackages := hdenied.optional (installed? f.packages)
    (fun packages => [.texts packages.names]) packagesAmong 1 (isSome_installed? _) fun _ => rfl
  have hremote := hpackages.optional f.remote (fun r => [.time r.now, .int r.defaultTimeout])
    openToRemote 2 rfl fun _ => rfl
  exact hremote.conditions

/-! ## Parameters -/

theorem values_optional {part : Option α} {value : α → Value} {condition : Nat → Expr} :
    (optional part (fun a => [value a]) condition).flatMap (·.values) =
      (part.map value).toList := by
  cases part <;> rfl

theorem values_listed {l : List String} {condition : Nat → Expr} :
    (optional (listed? l) (fun l => [.texts l]) condition).flatMap (·.values) =
      if l.isEmpty then [] else [.texts l] := by
  cases l <;> rfl

theorem params_eq (f : Matching.Filter) : params f = (clauses f).flatMap (·.values) := by
  simp only [params, clauses, List.flatMap_append, values_listed]
  simp only [values_optional]
  cases f.packages <;> cases f.remote <;> rfl

/-! ## Placeholders -/

/-- The condition asks for the values of its clause, all of them and no
others. -/
def Clause.Uses (c : Clause) : Prop :=
  ∀ n k, k ∈ (c.condition n).placeholders ↔ n ≤ k ∧ k < n + c.values.length

theorem mem_placeholders_numbered (h : ∀ c ∈ cs, c.Uses) (n k : Nat) :
    k ∈ (numbered n cs).flatMap Expr.placeholders ↔
      n ≤ k ∧ k < n + (cs.flatMap (·.values)).length := by
  induction cs generalizing n with
  | nil =>
    simp only [numbered, List.flatMap_nil, List.not_mem_nil, List.length_nil, false_iff]
    omega
  | cons c rest ih =>
    have hc : c.Uses := h c (List.mem_cons_self ..)
    have hrest : ∀ c ∈ rest, c.Uses := fun c hmem => h c (List.mem_cons_of_mem _ hmem)
    rw [numbered, List.flatMap_cons, List.mem_append, hc n k, ih hrest, List.flatMap_cons,
      List.length_append]
    omega

theorem Clause.uses_of_one {v : Value} {condition : Nat → Expr} (m : Nat)
    (h : ∀ n, (condition n).placeholders = List.replicate (m + 1) n) :
    Clause.Uses ⟨[v], condition⟩ := by
  intro n k
  rw [h n, List.mem_replicate, List.length_singleton]
  omega

theorem forall_mem_optional {P : Clause → Prop} {part : Option α} {values : α → List Value}
    {condition : Nat → Expr} (h : ∀ a, P ⟨values a, condition⟩) :
    ∀ c ∈ optional part values condition, P c := by
  intro c hc
  obtain ⟨a, -, rfl⟩ := List.mem_map.mp hc
  exact h a

theorem uses_clauses (f : Matching.Filter) : ∀ c ∈ clauses f, c.Uses := by
  have hfixed : ∀ c ∈ fixedClauses f, c.Uses := by
    intro c hc
    simp only [fixedClauses, List.mem_cons, List.not_mem_nil, or_false] at hc
    rcases hc with rfl | rfl | rfl | rfl
    · exact fun n k => by simp [hasWork, agg, Expr.placeholders]
    · exact Clause.uses_of_one 0 fun _ => rfl
    · exact Clause.uses_of_one 0 fun _ => rfl
    · exact fun n k => by simp [ownerAdmitted, share, Expr.placeholders]
  simp only [clauses, List.forall_mem_append]
  refine ⟨⟨⟨⟨⟨⟨⟨hfixed, ?_⟩, ?_⟩, ?_⟩, ?_⟩, ?_⟩, ?_⟩, ?_⟩
  · exact forall_mem_optional fun _ => Clause.uses_of_one 1 fun _ => rfl
  · exact forall_mem_optional fun _ => Clause.uses_of_one 0 fun _ => rfl
  · exact forall_mem_optional fun _ => Clause.uses_of_one 1 fun _ => rfl
  · exact forall_mem_optional fun _ => Clause.uses_of_one 0 fun _ => rfl
  · exact forall_mem_optional fun _ => Clause.uses_of_one 0 fun _ => rfl
  · exact forall_mem_optional fun _ => Clause.uses_of_one 0 fun _ => rfl
  · refine forall_mem_optional fun r n k => ?_
    simp only [openToRemote, agg, Expr.placeholders, List.nil_append, List.mem_append,
      List.mem_singleton, List.length_cons, List.length_nil]
    omega

theorem placeholders_conj : ∀ l : List Expr,
    (Expr.conj l).placeholders = l.flatMap Expr.placeholders
  | [] => rfl
  | [e] => (List.flatMap_singleton ..).symm
  | e :: f :: rest => by
      rw [List.flatMap_cons, ← placeholders_conj (f :: rest)]
      rfl

/-- The numbers of the parameters a query asks for, in the order of its
text. -/
def placeholders (q : Select) : List Nat :=
  q.outputs.flatMap (·.value.placeholders)
    ++ (q.join.map fun j => j.2.placeholders).getD []
    ++ (q.condition.map Expr.placeholders).getD []
    ++ q.order.flatMap (·.1.placeholders)

/-- A query goes together with its parameters as clauses do: a condition is
numbered by where the values of its clause are, and the parameters are the
ones the query asks for. -/
structure Binds (q : Select) (params : List Value) (cs : List Clause) : Prop where
  condition : q.condition = some (Expr.conj (numbered 1 cs))
  values : params = cs.flatMap (·.values)
  used : ∀ k, k ∈ placeholders q ↔ 1 ≤ k ∧ k ≤ params.length

theorem binds_clauses (f : Matching.Filter) : Binds (select f) (params f) (clauses f) := by
  have hcondition : (select f).condition = some (Expr.conj (numbered 1 (clauses f))) := by
    rw [← conditions_eq]
    rfl
  -- only the condition has parameters
  have hplaceholders : placeholders (select f) =
      (numbered 1 (clauses f)).flatMap Expr.placeholders := by
    rw [placeholders, hcondition, Option.map_some, Option.getD_some, placeholders_conj]
    exact List.append_nil _
  refine ⟨hcondition, params_eq f, fun k => ?_⟩
  rw [hplaceholders, params_eq, mem_placeholders_numbered (uses_clauses f)]
  omega

/-! ## The text -/

theorem isConjunct_of_mem_numbered (h : ∀ c ∈ cs, ∀ n, (c.condition n).isConjunct = true) (n : Nat) :
    ∀ e ∈ numbered n cs, e.isConjunct = true := by
  induction cs generalizing n with
  | nil => exact List.forall_mem_nil _
  | cons c rest ih =>
    obtain ⟨hc, hrest⟩ := List.forall_mem_cons.mp h
    exact List.forall_mem_cons.mpr ⟨hc n, ih hrest _⟩

/-- A condition of a filter can be one of several, whatever its numbers
are. -/
theorem isConjunct_clauses (f : Matching.Filter) :
    ∀ c ∈ clauses f, ∀ n, (c.condition n).isConjunct = true := by
  have hfixed : ∀ c ∈ fixedClauses f, ∀ n, (c.condition n).isConjunct = true := by
    intro c hc n
    simp only [fixedClauses, List.mem_cons, List.not_mem_nil, or_false] at hc
    rcases hc with rfl | rfl | rfl | rfl <;> rfl
  simp only [clauses, List.forall_mem_append]
  refine ⟨⟨⟨⟨⟨⟨⟨hfixed, ?_⟩, ?_⟩, ?_⟩, ?_⟩, ?_⟩, ?_⟩, ?_⟩ <;>
    exact forall_mem_optional fun _ _ => rfl

def expressions (q : Select) : List Expr :=
  q.outputs.map (·.value) ++ (q.join.map (·.2)).toList ++ q.condition.toList ++ q.order.map (·.1)

/-- Each expression of the query for a filter has a text that is read as this
expression, and as nothing else. -/
theorem select_is_read (f : Matching.Filter) : ∀ e ∈ expressions (select f),
    e.toText = Expr.spaced e.pieces ∧ ∀ x, Reads e.pieces x ↔ x = some e := by
  have hconditions : ∀ e ∈ conditions f, e.isConjunct = true := by
    rw [conditions_eq]
    exact isConjunct_of_mem_numbered (isConjunct_clauses f) 1
  have hbracketed : ∀ e ∈ expressions (select f), e.isBracketed = true := by
    simp only [expressions, List.forall_mem_append]
    refine ⟨⟨⟨?outputs, ?join⟩, ?condition⟩, ?order⟩
    case outputs => exact List.forall_mem_map.mpr (List.forall_mem_map.mpr fun _ _ => rfl)
    case join => exact List.forall_mem_singleton.mpr rfl
    case condition => exact List.forall_mem_singleton.mpr (Expr.isBracketed_conj hconditions)
    case order =>
      refine List.forall_mem_map.mpr fun e he => ?_
      simp only [select, ranking, List.mem_cons, List.not_mem_nil, or_false] at he
      rcases he with rfl | rfl | rfl <;> rfl
  exact fun e he => ⟨e.toText_eq, fun x => Expr.reads_pieces_iff (hbracketed e he)⟩

end GridQueue.Lookup
