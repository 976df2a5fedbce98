/-
# `GridQueue.Proofs.Sql.Reading` — the text of an expression is read in one way

An operator stands between its operands, so what a text says depends on how
tightly its operators bind:

    1  OR         3  NOT        5  =  <>  <  <=  >  = ANY(..)     7  +  -
    2  AND        4  IS NULL    6  &&  <@

Names, numbers, calls and whatever stands in brackets bind most tightly.
The text of an expression is a row of such pieces, with blanks between them
(`toText_eq`).  The database takes a row apart at the piece that binds
least, and both sides in the same way (`Reads`).  So a row is read in one
way at most (`Reads.unique`), and an expression is read from its own text if
each of its operands binds more tightly than the operator at its side
(`reads_pieces`).  Where an operand does not, the expression has to have
brackets around it, and these have no value of their own.

A chain of conditions is taken apart at its first `AND` here and at its last
one by the database, which comes to the same value (`eval_and_and`).  No
other operator is chained.
-/
import GridQueue.Sql.Expression

namespace GridQueue.Sql

/-! ## Pieces -/

/-- What stands between two operands. -/
inductive Operator
  | or
  | and
  | compare (c : Comparison)
  | overlaps
  | within
  | add
  | sub
  deriving DecidableEq

namespace Operator

def text : Operator → String
  | or => "OR"
  | and => "AND"
  | compare c => c.text
  | overlaps => "&&"
  | within => "<@"
  | add => "+"
  | sub => "-"

def level : Operator → Nat
  | or => 1
  | and => 2
  | compare _ => 5
  | overlaps | within => 6
  | add | sub => 7

/-- Several of them can follow one another without brackets. -/
def isChained : Operator → Bool
  | and => true
  | or | compare _ | overlaps | within | add | sub => false

def apply : Operator → Expr → Expr → Expr
  | or => .or
  | and => .and
  | compare c => .compare c
  | overlaps => .overlaps
  | within => .within
  | add => .add
  | sub => .sub

end Operator

/-- A piece of the text of an expression. -/
inductive Piece
  | between (o : Operator)
  | not
  | isNull
  | anyOf (array : Expr)
  | whole (e : Expr)

namespace Expr

/-- Nothing in the expression stands outside of brackets of its own. -/
def isWhole : Expr → Bool
  | column _ _ | param _ | text _ | int _ | bool _ | now | seconds _ | greatest _ _ | coalesce _ _
  | cases _ _ _ | cardinality _ | paren _ | first _ _ _ _ => true
  | add _ _ | sub _ _ | compare _ _ _ | anyOf _ _ | overlaps _ _ | within _ _ | and _ _ | or _ _
  | not _ | isNull _ => false

/-- The expressions in the brackets of a whole one. -/
def arguments : Expr → List Expr
  | seconds e | cardinality e | paren e => [e]
  | greatest a b | coalesce a b => [a, b]
  | cases condition yes no => [condition, yes, no]
  | first value _ _ condition => [value, condition]
  | column _ _ | param _ | text _ | int _ | bool _ | now => []
  | add _ _ | sub _ _ | compare _ _ _ | anyOf _ _ | overlaps _ _ | within _ _ | and _ _ | or _ _
  | not _ | isNull _ => []

/-- The pieces of the text of an expression. -/
def pieces : Expr → List Piece
  | or a b => a.pieces ++ .between .or :: b.pieces
  | and a b => a.pieces ++ .between .and :: b.pieces
  | compare c a b => a.pieces ++ .between (.compare c) :: b.pieces
  | overlaps a b => a.pieces ++ .between .overlaps :: b.pieces
  | within a b => a.pieces ++ .between .within :: b.pieces
  | add a b => a.pieces ++ .between .add :: b.pieces
  | sub a b => a.pieces ++ .between .sub :: b.pieces
  | not e => .not :: e.pieces
  | isNull e => e.pieces ++ [.isNull]
  | anyOf a array => a.pieces ++ [.anyOf array]
  | e => [.whole e]

theorem pieces_of_isWhole {e : Expr} (h : e.isWhole = true) : e.pieces = [.whole e] := by
  cases e <;> first | rfl | cases h

theorem pieces_ne_nil (e : Expr) : e.pieces ≠ [] := by
  cases e <;> simp [pieces]

end Expr

namespace Piece

def text : Piece → String
  | between o => o.text
  | not => "NOT"
  | isNull => "IS NULL"
  | anyOf array => "= ANY(" ++ array.toText ++ ")"
  | whole e => e.toText

def level : Piece → Nat
  | between o => o.level
  | not => 3
  | isNull => 4
  | anyOf _ => 5
  | whole _ => 8

def isChained : Piece → Bool
  | between o => o.isChained
  | not => true
  | isNull | anyOf _ | whole _ => false

def inside : Piece → List Expr
  | anyOf array => [array]
  | whole e => e.arguments
  | between _ | not | isNull => []

/-- What a piece makes of the expressions before and after it. -/
def make : Piece → Option Expr → Option Expr → Option Expr
  | between o, some a, some b => some (o.apply a b)
  | not, none, some e => some (.not e)
  | isNull, some e, none => some (.isNull e)
  | anyOf array, some a, none => some (.anyOf a array)
  | whole e, none, none => if e.isWhole then some e else none
  | _, _, _ => none

/-- A piece binds less tightly than another one that comes later, or begins
a chain with it. -/
def Admits (p q : Piece) : Prop := p.level < q.level ∨ p.isChained = true ∧ p.level = q.level

instance (p q : Piece) : Decidable (p.Admits q) := inferInstanceAs (Decidable (_ ∨ _))

/-- A piece is the first of those that bind least. -/
def divides (p : Piece) (before after : List Piece) : Bool :=
  before.all (fun q => decide (p.level < q.level)) && after.all fun q => decide (p.Admits q)

theorem divides_iff {p : Piece} {before after : List Piece} : p.divides before after = true ↔
    (∀ q ∈ before, p.level < q.level) ∧ ∀ q ∈ after, p.Admits q := by
  simp only [divides, Bool.and_eq_true, List.all_eq_true, decide_eq_true_eq]

theorem Admits.level_le {p q : Piece} (h : p.Admits q) : p.level ≤ q.level :=
  h.elim Nat.le_of_lt fun h => Nat.le_of_eq h.2

theorem divides_unique {p p' : Piece} {l l' r r' : List Piece} (hrow : l ++ p :: r = l' ++ p' :: r')
    (h : p.divides l r = true) (h' : p'.divides l' r' = true) : l = l' ∧ p = p' ∧ r = r' := by
  obtain ⟨hl, hr⟩ := divides_iff.mp h
  obtain ⟨hl', hr'⟩ := divides_iff.mp h'
  rcases List.append_eq_append_iff.mp hrow with ⟨_ | ⟨q, between⟩, hleft, hright⟩ |
    ⟨_ | ⟨q, between⟩, hleft, hright⟩
  · cases hright
    exact ⟨by rw [hleft, List.append_nil], rfl, rfl⟩
  · -- the first piece stands before the second one, and after it there is the second one
    cases hright
    have hlow := hl' p (hleft ▸ List.mem_append_right _ (List.mem_cons_self ..))
    have hhigh := (hr p' (List.mem_append_right _ (List.mem_cons_self ..))).level_le
    exact absurd hlow (Nat.not_lt.mpr hhigh)
  · cases hright
    exact ⟨by rw [hleft, List.append_nil], rfl, rfl⟩
  · cases hright
    have hlow := hl p' (hleft ▸ List.mem_append_right _ (List.mem_cons_self ..))
    have hhigh := (hr' p (List.mem_append_right _ (List.mem_cons_self ..))).level_le
    exact absurd hlow (Nat.not_lt.mpr hhigh)

end Piece

/-! ## Reading -/

/-- What is read from a row of pieces.  Between brackets there is a row
again, which is read by itself. -/
inductive Reads : List Piece → Option Expr → Prop
  | nothing : Reads [] none
  | divided {l r : List Piece} {a b : Option Expr} {p : Piece} {e : Expr} (row : Expr → List Piece) :
      p.divides l r = true → Reads l a → Reads r b → (∀ x ∈ p.inside, Reads (row x) (some x)) →
      p.make a b = some e → Reads (l ++ p :: r) (some e)

theorem Reads.unique {l : List Piece} {x y : Option Expr} (hx : Reads l x) (hy : Reads l y) :
    x = y := by
  induction hx generalizing y with
  | nothing =>
      generalize hl : [] = l at hy
      cases hy with
      | nothing => rfl
      | divided => simp at hl
  | @divided l r a b p e row hdivides _ _ _ hmake iha ihb =>
      generalize hrow : l ++ p :: r = whole at hy
      cases hy with
      | nothing => simp at hrow
      | divided _ hdivides' ha' hb' _ hmake' =>
          obtain ⟨rfl, rfl, rfl⟩ := Piece.divides_unique hrow hdivides hdivides'
          rw [← hmake, iha ha', ihb hb', hmake']

namespace Expr

/-- Each operand binds more tightly than the operator at its side. -/
def isBracketed : Expr → Bool
  | column _ _ | param _ | text _ | int _ | bool _ | now => true
  | seconds e | cardinality e | paren e => e.isBracketed
  | greatest a b | coalesce a b => a.isBracketed && b.isBracketed
  | cases condition yes no => condition.isBracketed && yes.isBracketed && no.isBracketed
  | first value _ _ condition => value.isBracketed && condition.isBracketed
  | or a b => a.isBracketed && b.isBracketed && (Piece.between .or).divides a.pieces b.pieces
  | and a b => a.isBracketed && b.isBracketed && (Piece.between .and).divides a.pieces b.pieces
  | compare c a b =>
      a.isBracketed && b.isBracketed && (Piece.between (.compare c)).divides a.pieces b.pieces
  | overlaps a b =>
      a.isBracketed && b.isBracketed && (Piece.between .overlaps).divides a.pieces b.pieces
  | within a b =>
      a.isBracketed && b.isBracketed && (Piece.between .within).divides a.pieces b.pieces
  | add a b => a.isBracketed && b.isBracketed && (Piece.between .add).divides a.pieces b.pieces
  | sub a b => a.isBracketed && b.isBracketed && (Piece.between .sub).divides a.pieces b.pieces
  | not e => e.isBracketed && Piece.not.divides [] e.pieces
  | isNull e => e.isBracketed && Piece.isNull.divides e.pieces []
  | anyOf a array =>
      a.isBracketed && array.isBracketed && (Piece.anyOf array).divides a.pieces []

variable {e a b : Expr}

theorem reads_between (o : Operator) (ha : Reads a.pieces (some a)) (hb : Reads b.pieces (some b))
    (hdivides : (Piece.between o).divides a.pieces b.pieces = true) :
    Reads (a.pieces ++ .between o :: b.pieces) (some (o.apply a b)) :=
  .divided pieces hdivides ha hb (List.forall_mem_nil _) rfl

theorem reads_whole (he : e.isWhole = true) (h : ∀ x ∈ e.arguments, Reads x.pieces (some x)) :
    Reads [.whole e] (some e) :=
  .divided (l := []) (r := []) pieces rfl .nothing .nothing h (if_pos he)

/-- An expression with brackets where they are needed is read from its own
pieces. -/
theorem reads_pieces (h : e.isBracketed = true) : Reads e.pieces (some e) := by
  induction e with
  | column | param | text | int | bool | now => exact reads_whole rfl (List.forall_mem_nil _)
  | seconds e ih | cardinality e ih | paren e ih =>
      exact reads_whole rfl (List.forall_mem_singleton.mpr (ih h))
  | greatest a b iha ihb | coalesce a b iha ihb | first a _ _ b iha ihb =>
      obtain ⟨ha, hb⟩ := Bool.and_eq_true_iff.mp h
      exact reads_whole rfl (List.forall_mem_cons.mpr ⟨iha ha, List.forall_mem_singleton.mpr (ihb hb)⟩)
  | cases c a b ihc iha ihb =>
      obtain ⟨hca, hb⟩ := Bool.and_eq_true_iff.mp h
      obtain ⟨hc, ha⟩ := Bool.and_eq_true_iff.mp hca
      exact reads_whole rfl (List.forall_mem_cons.mpr ⟨ihc hc,
        List.forall_mem_cons.mpr ⟨iha ha, List.forall_mem_singleton.mpr (ihb hb)⟩⟩)
  | or a b iha ihb | and a b iha ihb | compare c a b iha ihb | overlaps a b iha ihb
  | within a b iha ihb | add a b iha ihb | sub a b iha ihb =>
      obtain ⟨hab, hdivides⟩ := Bool.and_eq_true_iff.mp h
      obtain ⟨ha, hb⟩ := Bool.and_eq_true_iff.mp hab
      exact reads_between _ (iha ha) (ihb hb) hdivides
  | not e ih =>
      obtain ⟨he, hdivides⟩ := Bool.and_eq_true_iff.mp h
      exact .divided (l := []) pieces hdivides .nothing (ih he) (List.forall_mem_nil _) rfl
  | isNull e ih =>
      obtain ⟨he, hdivides⟩ := Bool.and_eq_true_iff.mp h
      exact .divided pieces hdivides (ih he) .nothing (List.forall_mem_nil _) rfl
  | anyOf a array iha iharray =>
      obtain ⟨hab, hdivides⟩ := Bool.and_eq_true_iff.mp h
      obtain ⟨ha, harray⟩ := Bool.and_eq_true_iff.mp hab
      exact .divided pieces hdivides (iha ha) .nothing
        (List.forall_mem_singleton.mpr (iharray harray)) rfl

theorem reads_pieces_iff (h : e.isBracketed = true) {x : Option Expr} :
    Reads e.pieces x ↔ x = some e :=
  ⟨fun hx => hx.unique (reads_pieces h), fun hx => hx ▸ reads_pieces h⟩

/-- An expression that can be one of several conditions without brackets
around it. -/
def isConjunct (e : Expr) : Bool :=
  e.isBracketed && e.pieces.all fun q => decide (Operator.and.level < q.level)

theorem isConjunct_iff : e.isConjunct = true ↔
    e.isBracketed = true ∧ ∀ q ∈ e.pieces, Operator.and.level < q.level := by
  simp only [isConjunct, Bool.and_eq_true, List.all_eq_true, decide_eq_true_eq]

/-- Nothing in a chain of such conditions binds less tightly than it. -/
theorem admits_of_mem_pieces_conj : ∀ {l : List Expr}, (∀ e ∈ l, e.isConjunct = true) →
    ∀ q ∈ (conj l).pieces, (Piece.between .and).Admits q
  | [], _, q, hq => .inl (List.mem_singleton.mp hq ▸ by decide)
  | [e], h, q, hq => .inl ((isConjunct_iff.mp (h e (List.mem_cons_self ..))).2 q hq)
  | e :: e' :: rest, h, q, hq => by
      obtain ⟨he, hrest⟩ := List.forall_mem_cons.mp h
      rcases List.mem_append.mp hq with hq | hq
      · exact .inl ((isConjunct_iff.mp he).2 q hq)
      · rcases List.mem_cons.mp hq with rfl | hq
        · exact .inr ⟨rfl, rfl⟩
        · exact admits_of_mem_pieces_conj hrest q hq

theorem isBracketed_conj : ∀ {l : List Expr}, (∀ e ∈ l, e.isConjunct = true) →
    (conj l).isBracketed = true
  | [], _ => rfl
  | [e], h => (isConjunct_iff.mp (h e (List.mem_cons_self ..))).1
  | e :: e' :: rest, h => by
      obtain ⟨he, hrest⟩ := List.forall_mem_cons.mp h
      obtain ⟨hbracketed, hlevel⟩ := isConjunct_iff.mp he
      have hdivides : (Piece.between .and).divides e.pieces (conj (e' :: rest)).pieces = true :=
        Piece.divides_iff.mpr ⟨hlevel, admits_of_mem_pieces_conj hrest⟩
      show (e.isBracketed && (conj (e' :: rest)).isBracketed && _) = true
      rw [hbracketed, isBracketed_conj hrest, hdivides]
      rfl

/-! ## Texts -/

theorem toText_apply (o : Operator) (a b : Expr) :
    (o.apply a b).toText = a.toText ++ " " ++ (o.text ++ " " ++ b.toText) := by
  cases o with
  | compare c =>
      simp only [Operator.apply, Operator.text, toText, String.append_assoc]
  | or | and | overlaps | within | add | sub =>
      simp only [Operator.apply, Operator.text, toText, String.append_assoc]
      rfl

def spaced (row : List Piece) : String := String.intercalate " " (row.map Piece.text)

theorem spaced_append {l r : List Piece} (hl : l ≠ []) (hr : r ≠ []) :
    spaced (l ++ r) = spaced l ++ " " ++ spaced r := by
  rw [spaced, List.map_append, String.intercalate_append_of_ne_nil]
  · rfl
  · exact mt List.map_eq_nil_iff.mp hl
  · exact mt List.map_eq_nil_iff.mp hr

theorem spaced_singleton (p : Piece) : spaced [p] = p.text := String.intercalate_singleton

theorem spaced_cons (p : Piece) {r : List Piece} (hr : r ≠ []) :
    spaced (p :: r) = p.text ++ " " ++ spaced r := by
  rw [← List.singleton_append, spaced_append (List.cons_ne_nil p []) hr, spaced_singleton]

theorem toText_between (o : Operator) (ha : a.toText = spaced a.pieces)
    (hb : b.toText = spaced b.pieces) :
    (o.apply a b).toText = spaced (a.pieces ++ .between o :: b.pieces) := by
  rw [spaced_append a.pieces_ne_nil (List.cons_ne_nil _ _), spaced_cons _ b.pieces_ne_nil, ← ha, ← hb,
    toText_apply, Piece.text, String.append_assoc]

theorem toText_eq (e : Expr) : e.toText = spaced e.pieces := by
  induction e with
  | column | param | text | int | bool | now | seconds | greatest | coalesce | cases | cardinality
  | paren | first => rw [pieces_of_isWhole rfl, spaced_singleton, Piece.text]
  | or a b iha ihb => exact toText_between .or iha ihb
  | and a b iha ihb => exact toText_between .and iha ihb
  | compare c a b iha ihb => exact toText_between (.compare c) iha ihb
  | overlaps a b iha ihb => exact toText_between .overlaps iha ihb
  | within a b iha ihb => exact toText_between .within iha ihb
  | add a b iha ihb => exact toText_between .add iha ihb
  | sub a b iha ihb => exact toText_between .sub iha ihb
  | not e ih =>
      rw [pieces, spaced_cons _ e.pieces_ne_nil, ← ih, toText, Piece.text]
      rfl
  | isNull e ih =>
      rw [pieces, spaced_append e.pieces_ne_nil (List.cons_ne_nil _ _), spaced_singleton, ← ih, toText,
        Piece.text, String.append_assoc]
      rfl
  | anyOf a array iha _ =>
      rw [pieces, spaced_append a.pieces_ne_nil (List.cons_ne_nil _ _), spaced_singleton, ← iha, toText,
        Piece.text]
      simp only [String.append_assoc]
      rfl

/-! ## Chains -/

theorem eval_and_and {w : Surroundings} {bindings : Bindings} (x y z : Expr) :
    (and (and x y) z).eval w bindings = (and x (and y z)).eval w bindings := by
  simp only [eval, Value.conj]
  rcases (x.eval w bindings).truth? with _ | _ | _ <;>
    rcases (y.eval w bindings).truth? with _ | _ | _ <;>
    rcases (z.eval w bindings).truth? with _ | _ | _ <;> rfl

end Expr

end GridQueue.Sql
