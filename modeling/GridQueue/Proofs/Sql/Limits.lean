/-
# `GridQueue.Proofs.Sql.Limits` — what columns store as it is

A column changes or refuses what does not fit it, and leaves the rest
alone.  What fits is said by its type:

| type               | fits                                                   |
| :----------------- | :----------------------------------------------------- |
| `varchar n`        | texts of at most `n` characters, none of them zero     |
| `text`, `texts`    | texts without the character zero                       |
| `integer`          | integers of 32 bits                                    |
| `bigint`, `serial` | integers of 64 bits                                    |
| `timestamp`        | whole microseconds, from 4714 BC to 294276             |
| others             | everything                                             |

and null fits a column that may be null.  Values that fit their columns are
written as they are, in a new row (`Layout.store?_of_fits`) and in one that
is changed (`Assignments.applied?_of_fits`).
-/
import GridQueue.Sql.Execute

namespace GridQueue

def Instant.IsTimestamp (t : Instant) : Prop :=
  t.inMicros = t ∧ -210866803200 * 1000000000 ≤ t.nanos ∧ t.nanos < 9224318016000 * 1000000000

instance (t : Instant) : Decidable t.IsTimestamp := inferInstanceAs (Decidable (_ ∧ _))

namespace Sql

/-- A step of a list that never fails gives the list of its results. -/
theorem mapM_map_ok {ε α β γ : Type} {f : α → β} {g : β → Except ε γ} {h : α → γ} :
    ∀ {l : List α}, (∀ x ∈ l, g (f x) = .ok (h x)) → (l.map f).mapM g = .ok (l.map h)
  | [], _ => rfl
  | x :: rest, hok => by
      have hrest : (rest.map f).mapM g = .ok (rest.map h) :=
        mapM_map_ok fun y hy => hok y (List.mem_cons_of_mem _ hy)
      rw [List.map_cons, List.mapM_cons, hok x (List.mem_cons_self ..), hrest]
      rfl

/-- A step that fails for one element, and in no other way for others. -/
theorem mapM_map_error {ε α β γ : Type} {f : α → β} {g : β → Except ε γ} {e : ε} :
    ∀ {l : List α} {x : α}, x ∈ l → g (f x) = .error e →
      (∀ y ∈ l, g (f y) = .error e ∨ ∃ c, g (f y) = .ok c) → (l.map f).mapM g = .error e
  | y :: rest, x, hx, herror, hall => by
      obtain ⟨hy, hrest⟩ := List.forall_mem_cons.mp hall
      rw [List.map_cons, List.mapM_cons]
      rcases hy with hy | ⟨c, hy⟩
      · rw [hy]
        rfl
      · have hx' : x ∈ rest := by
          rcases List.mem_cons.mp hx with rfl | hx'
          · rw [hy] at herror
            cases herror
          · exact hx'
        rw [hy, mapM_map_error hx' herror hrest]
        rfl

/-! ## Columns -/

/-- A column of the type stores the value as it is. -/
def Kind.Fits : Kind → Value → Prop
  | varchar n, .text s => s.toList.length ≤ n ∧ isText s = true
  | text, .text s => isText s = true
  | texts, .texts l => l.all isText = true
  | integer, .int n => FitsInt32 n
  | serial, .int n | bigint, .int n => FitsInt64 n
  | timestamp, .time t => t.IsTimestamp
  | _, _ => True

theorem Kind.store?_of_fits {k : Kind} {v : Value} (h : k.Fits v) : k.store? v = .ok v := by
  unfold store?
  split
  · obtain ⟨hlength, htext⟩ := h
    rw [htext, List.drop_eq_nil_of_le hlength, List.take_of_length_le hlength]
    simp only [Bool.not_true, Bool.false_eq_true, if_false, List.all_nil, if_true,
      String.ofList_toList]
  · exact if_pos h
  · exact if_pos h
  · exact if_pos h
  · exact if_pos h
  · exact if_pos h
  · exact congrArg (fun t => Except.ok (Value.time t)) h.1
  · rfl

/-- The column stores the value as it is. -/
def Column.Fits (c : Column) : Value → Prop
  | .null => (c.isKey || c.notNull) = false
  | v => c.kind.Fits v

theorem Column.store?_of_fits {c : Column} {v : Value} (h : c.Fits v) (table : String) :
    c.store? table v = .ok v := by
  cases v with
  | null => rw [store?, if_neg (Bool.not_eq_true _ ▸ h)]
  | _ => exact Kind.store?_of_fits h

/-- A text that is too long, but for spaces, is refused. -/
theorem Kind.store?_of_long {n : Nat} {s : String} (htext : isText s = true)
    (hlong : (s.toList.drop n).all (· == ' ') = false) :
    (varchar n).store? (.text s) =
      .error (.refused ("value too long for type character varying(" ++ toString n ++ ")")) := by
  simp only [store?, htext, hlong, Bool.not_true, Bool.false_eq_true, if_false]

/-! ## Rows -/

/-- The column with a name stores the value as it is. -/
def Layout.FitsIn (l : Layout) (name : String) (v : Value) : Prop :=
  match l.column? name with
  | some c => c.Fits v
  | none => False

/-- Each of the columns stores its value as it is. -/
def Layout.Fits (l : Layout) (r : Row) : Prop := ∀ p ∈ r, l.FitsIn p.1 p.2

namespace Layout

variable {l : Layout} {r : Row}

theorem Fits.nil : l.Fits [] := List.forall_mem_nil _

theorem Fits.cons {name : String} {v : Value} (hv : l.FitsIn name v) (hr : l.Fits r) :
    l.Fits ((name, v) :: r) :=
  List.forall_mem_cons.mpr ⟨hv, hr⟩

theorem storeIn?_of_fits {name : String} {v : Value} (h : l.FitsIn name v) :
    l.storeIn? name v = .ok v := by
  unfold FitsIn at h
  unfold storeIn?
  split
  · next c hc =>
    rw [hc] at h
    exact Column.store?_of_fits h _
  · next hc =>
    rw [hc] at h
    exact h.elim

theorem store?_cons {name : String} {v v' : Value} {r' : Row}
    (hv : l.storeIn? name v = .ok v') (hr : l.store? r = .ok r') :
    l.store? ((name, v) :: r) = .ok ((name, v') :: r') := by
  unfold store? at hr ⊢
  rw [List.mapM_cons, hr]
  simp only [hv]
  rfl

/-- What one column refuses is refused, if those before it take theirs. -/
theorem store?_of_refused {before after : Row} {name : String} {v : Value} {e : DatabaseError}
    (hbefore : l.Fits before) (h : l.storeIn? name v = .error e) :
    l.store? (before ++ (name, v) :: after) = .error e := by
  unfold store?
  induction before with
  | nil =>
    rw [List.nil_append, List.mapM_cons]
    simp only [h]
    rfl
  | cons p rest ih =>
    obtain ⟨hp, hrest⟩ := List.forall_mem_cons.mp hbefore
    rw [List.cons_append, List.mapM_cons, ih hrest]
    simp only [storeIn?_of_fits hp]
    rfl

theorem store?_of_fits (h : l.Fits r) : l.store? r = .ok r := by
  induction r with
  | nil => rfl
  | cons p rest ih =>
    obtain ⟨hp, hrest⟩ := List.forall_mem_cons.mp h
    exact store?_cons (storeIn?_of_fits hp) (ih hrest)

end Layout

theorem Assignments.applied?_of_fits {set : Assignments} {l : Layout} {w : Surroundings}
    {b : Bindings} {r values : Row} (hvalues : set.values w b = values) (h : l.Fits values) :
    set.applied? l w b r = .ok (r.setAll values) := by
  rw [applied?, hvalues, Layout.store?_of_fits h]
  rfl

end Sql

end GridQueue
