/-
# `GridQueue.Store.Lookup` — the aggregate look-up as a query

A filter becomes the conditions of a query and, apart from them, the
values of its parameters.  Both go through what a filter may constrain in
the same order:

| part         | parameters             |
| :----------- | :--------------------- |
| always       | lifetime, scratch disk |
| element      | its name               |
| site         | all sites together     |
| partitions   | the partitions         |
| users        | accepted ones, if any  |
| users        | denied ones, if any    |
| packages     | the installed ones     |
| remote tier  | now, default timeout   |

A condition is given the number of its first parameter, which is counted
on from one condition to the next.
-/
import GridQueue.Matching.Filter
import GridQueue.Sql.Statement

namespace GridQueue.Lookup

open Sql

/-! ## Conditions -/

def agg (name : String) : Expr := .column "a" name

/-- A column of the fair shares of the aggregates' owners. -/
def share (name : String) : Expr := .column "p" name

/-- An array that constrains only if it is not empty. -/
def emptyOr (array condition : Expr) : Expr :=
  .paren (.or (.compare .eq (.cardinality array) (.int 0)) condition)

def hasWork : Expr := .compare .gt (agg "counter") (.int 0)

/-- A number is at most a parameter. -/
def atMost (column : String) (n : Nat) : Expr := .compare .le (agg column) (.param n)

def ownerAdmitted : Expr :=
  .paren (.or (.isNull (share "user_name")) (.compare .gt (share "computed_priority") (.int 0)))

def acceptsCe (n : Nat) : Expr :=
  .paren (.and (emptyOr (agg "ces") (.anyOf (.param n) (agg "ces")))
    (.not (.paren (.anyOf (.param n) (agg "excluded_ces")))))

def acceptsSites (n : Nat) : Expr :=
  emptyOr (agg "sites") (.overlaps (agg "sites") (.param n))

def acceptsPartitions (n : Nat) : Expr :=
  .paren (.and (emptyOr (agg "partitions") (.overlaps (agg "partitions") (.param n)))
    (.not (.paren (.overlaps (agg "excluded_partitions") (.param n)))))

def ownerAmong (n : Nat) : Expr := .anyOf (agg "user_name") (.param n)

def ownerNotAmong (n : Nat) : Expr := .not (.paren (.anyOf (agg "user_name") (.param n)))

def packagesAmong (n : Nat) : Expr := .within (agg "packages") (.param n)

/-- Remote agents may come, and the aggregate waited long enough. -/
def openToRemote (n : Nat) : Expr :=
  .paren (.and (agg "remote_allowed")
    (.compare .le (agg "idle_since")
      (.sub (.param n) (.seconds (.coalesce (agg "remote_timeout_secs") (.param (n + 1)))))))

/-! ## Numbering -/

/-- Conditions so far, and the number of the next parameter. -/
structure Draft where
  conditions : List Expr
  next : Nat

/-- Adds a condition with so many parameters, if it is wanted. -/
def Draft.add (d : Draft) (wanted : Bool) (width : Nat) (condition : Nat → Expr) : Draft :=
  if wanted then ⟨d.conditions ++ [condition d.next], d.next + width⟩ else d

def Draft.start : Draft := ⟨[hasWork, atMost "ttl" 1, atMost "disk" 2, ownerAdmitted], 3⟩

def conditions (f : Matching.Filter) : List Expr :=
  let d := Draft.start
  let d := d.add f.ce.isSome 1 acceptsCe
  let d := d.add f.site.isSome 1 acceptsSites
  let d := d.add f.partitions.isSome 1 acceptsPartitions
  let d := d.add (!f.allowedUsers.isEmpty) 1 ownerAmong
  let d := d.add (!f.deniedUsers.isEmpty) 1 ownerNotAmong
  let d := d.add f.packages.isChecked 1 packagesAmong
  let d := d.add f.remote.isSome 2 openToRemote
  d.conditions

/-- The parameters of the query, in the order of their numbers. -/
def params (f : Matching.Filter) : List Value :=
  [.int f.ttl, .int f.disk]
    ++ (f.ce.map Value.text).toList
    ++ (f.site.map fun site => Value.texts (site :: f.extraSites)).toList
    ++ (f.partitions.map Value.texts).toList
    ++ (if f.allowedUsers.isEmpty then [] else [.texts f.allowedUsers])
    ++ (if f.deniedUsers.isEmpty then [] else [.texts f.deniedUsers])
    ++ (match f.packages with
        | .ignore => []
        | .installed packages => [.texts packages.names])
    ++ (match f.remote with
        | some r => [.time r.now, .int r.defaultTimeout]
        | none => [])

/-! ## The query -/

def columns : List String :=
  ["entry_id", "counter", "user_name", "sites", "ces", "excluded_ces", "packages", "partitions",
   "excluded_partitions", "ttl", "disk", "priority", "price", "oldest_queue_id",
   "remote_allowed", "remote_timeout_secs", "idle_since"]

/-- The order of aggregates: by weight, price and age. -/
def ranking : List (Expr × Direction) :=
  [(.coalesce (share "computed_priority") (agg "priority"), .desc), (agg "price", .desc),
   (agg "oldest_queue_id", .asc)]

def select (f : Matching.Filter) : Select :=
  { outputs := columns.map fun c => ⟨agg c, ""⟩
    source := ⟨"waiting_aggregate", "a"⟩
    join := some (⟨"priority_quota", "p"⟩, .compare .eq (share "user_name") (agg "user_name"))
    condition := some (Expr.conj (conditions f))
    order := ranking
    limit := some 1 }

end GridQueue.Lookup
