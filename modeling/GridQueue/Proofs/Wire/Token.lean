/-
# `GridQueue.Proofs.Wire.Token` — which bodies are tokens

A token is read from an object that names its fields, each at most once,
or from an array that has them in their order:

    {"certificate": text, "private_key": text, "serial": text or null}
    [text, text, text or null]

The serial may be left out of either, and of an object the members that
nobody asks for do not matter.  No other value is a token
(`ofJson?_eq_some_iff`).

Reading goes through a `Record`, the fields of a value by name, whichever
of the two forms it came in; `ReadFrom` is what a record has to have.  The
two forms are then compared with `Spelled` one by one.  At the end stands
the token service: a reply gives a token if and only if its status says
so, its body is JSON that spells the token, and neither the certificate nor
the key is empty (`Grants`).
-/
import GridQueue.Credential.Service
import GridQueue.Proofs.Wire.Record

namespace GridQueue

namespace Json

variable {members : List (String × Json)} {name : String} {j : Json}

theorem namesOnce_iff {names : List String} :
    namesOnce names members = true ↔ ∀ n ∈ names, (members.map (·.1)).count n ≤ 1 := by
  have hcount (n : String) :
      (members.filter fun m => m.1 == n).length = (members.map (·.1)).count n := by
    rw [List.count, List.countP_map, List.countP_eq_length_filter]
    rfl
  simp only [namesOnce, List.all_eq_true, decide_eq_true_iff, hcount]

theorem member?_eq_some_iff (h : (members.map (·.1)).count name ≤ 1) :
    member? name members = some j ↔ (name, j) ∈ members := by
  induction members with
  | nil => simp [member?]
  | cons m rest ih =>
    obtain ⟨k, v⟩ := m
    by_cases hk : k = name
    · subst hk
      have hrest : (k, j) ∉ rest := fun hmem => by
        have : 0 < (rest.map (·.1)).count k :=
          List.count_pos_iff.mpr (List.mem_map.mpr ⟨_, hmem, rfl⟩)
        rw [List.map_cons, List.count_cons_self] at h
        omega
      simp [member?, hrest, eq_comm]
    · rw [List.map_cons, List.count_cons_of_ne hk] at h
      simp [member?, hk, ih h, Ne.symm hk]

theorem member?_eq_none_iff : member? name members = none ↔ name ∉ members.map (·.1) := by
  induction members with
  | nil => simp [member?]
  | cons m rest ih =>
    by_cases hk : m.1 = name
    · simp [member?, hk]
    · simp only [member?, if_neg hk, ih, List.map_cons, List.mem_cons, not_or]
      exact ⟨fun h => ⟨Ne.symm hk, h⟩, fun h => h.2⟩

/-- The fields of a list, by the places of their names. -/
def Record.placed (names : List String) (items : List Json) : Record :=
  ⟨true, fun n => items[names.idxOf n]?⟩

theorem record?_obj_eq_some_iff {names : List String} {r : Record} :
    (obj members).record? names = some r ↔
      (∀ n ∈ names, (members.map (·.1)).count n ≤ 1) ∧ r = .named members := by
  show (if namesOnce names members = true then some (Record.named members) else none) = some r ↔ _
  rw [Option.ite_none_right_eq_some, namesOnce_iff, Option.some_inj, eq_comm (a := r)]

theorem record?_arr_eq_some_iff {names : List String} {items : List Json} {r : Record} :
    (arr items).record? names = some r ↔
      items.length ≤ names.length ∧ r = .placed names items := by
  show (if items.length ≤ names.length then some (Record.placed names items) else none) =
    some r ↔ _
  rw [Option.ite_none_right_eq_some, Option.some_inj, eq_comm (a := r)]

theorem str?_eq_some_iff {s : String} : str? j = some s ↔ j = .str s := by
  cases j <;> simp [str?]

/-- A text, or null for none. -/
inductive IsTextOrNull : Json → Option String → Prop
  | null : IsTextOrNull .null none
  | text {s} : IsTextOrNull (.str s) (some s)

theorem nullable_str?_iff {s : Option String} :
    Record.nullable str? j = some s ↔ j.IsTextOrNull s := by
  constructor
  · intro h
    cases j with
    | null => cases h; exact .null
    | str => cases h; exact .text
    | _ => cases h
  · rintro (_ | _) <;> rfl

namespace Record

variable {r : Record} {s : String}

theorem required_str?_iff : r.required name str? = some s ↔ r.value? name = some (.str s) := by
  simp only [required, Option.bind_eq_some_iff, str?_eq_some_iff, exists_eq_right]

theorem defaulted_text_iff {s : Option String} :
    r.defaulted name none (nullable str?) = some s ↔
      (r.value? name = none ∧ s = none) ∨ ∃ j, r.value? name = some j ∧ j.IsTextOrNull s := by
  unfold defaulted
  split
  · next h => simp [h, eq_comm]
  · next j h => simp [h, nullable_str?_iff]

end Record

end Json

namespace Token

open Json

/-- How a token may be written. -/
inductive Spelled : Json → Token → Prop
  | named {members certificate privateKey j serial} :
      (∀ n ∈ ["certificate", "private_key", "serial"], (members.map (·.1)).count n ≤ 1) →
      ("certificate", .str certificate) ∈ members → ("private_key", .str privateKey) ∈ members →
      ("serial", j) ∈ members → j.IsTextOrNull serial →
      Spelled (.obj members) ⟨certificate, privateKey, serial⟩
  | namedShort {members certificate privateKey} :
      (∀ n ∈ ["certificate", "private_key", "serial"], (members.map (·.1)).count n ≤ 1) →
      ("certificate", .str certificate) ∈ members → ("private_key", .str privateKey) ∈ members →
      "serial" ∉ members.map (·.1) → Spelled (.obj members) ⟨certificate, privateKey, none⟩
  | listed {certificate privateKey j serial} : j.IsTextOrNull serial →
      Spelled (.arr [.str certificate, .str privateKey, j]) ⟨certificate, privateKey, serial⟩
  | listedShort {certificate privateKey} :
      Spelled (.arr [.str certificate, .str privateKey]) ⟨certificate, privateKey, none⟩

variable {r : Record} {t : Token}

/-- The fields of a token are in a record. -/
def ReadFrom (r : Record) (t : Token) : Prop :=
  r.value? "certificate" = some (.str t.certificate) ∧
    r.value? "private_key" = some (.str t.privateKey) ∧
    ((r.value? "serial" = none ∧ t.serial = none) ∨
      ∃ j, r.value? "serial" = some j ∧ j.IsTextOrNull t.serial)

theorem ofJson?_eq_some_iff_readFrom {j : Json} : ofJson? j = some t ↔
    ∃ r, j.record? ["certificate", "private_key", "serial"] = some r ∧ ReadFrom r t := by
  simp only [ofJson?, Option.bind_eq_bind, Option.bind_eq_some_iff, Record.required_str?_iff,
    Record.defaulted_text_iff, Option.some.injEq]
  refine exists_congr fun r => and_congr_right fun _ => ?_
  constructor
  · rintro ⟨certificate, hc, privateKey, hk, serial, hs, rfl⟩
    exact ⟨hc, hk, hs⟩
  · rintro ⟨hc, hk, hs⟩
    exact ⟨_, hc, _, hk, _, hs, rfl⟩

theorem spelled_obj_iff {members : List (String × Json)} : Spelled (.obj members) t ↔
    ∃ r, (obj members).record? ["certificate", "private_key", "serial"] = some r ∧
      ReadFrom r t := by
  simp only [record?_obj_eq_some_iff, ReadFrom]
  constructor
  · intro h
    cases h with
    | @named _ _ _ j _ honce hc hk hj hs =>
      refine ⟨_, ⟨honce, rfl⟩, ?_, ?_, .inr ⟨j, ?_, hs⟩⟩
      · exact (member?_eq_some_iff (honce _ (by simp))).mpr hc
      · exact (member?_eq_some_iff (honce _ (by simp))).mpr hk
      · exact (member?_eq_some_iff (honce _ (by simp))).mpr hj
    | namedShort honce hc hk hs =>
      refine ⟨_, ⟨honce, rfl⟩, ?_, ?_, .inl ⟨member?_eq_none_iff.mpr hs, rfl⟩⟩
      · exact (member?_eq_some_iff (honce _ (by simp))).mpr hc
      · exact (member?_eq_some_iff (honce _ (by simp))).mpr hk
  · rintro ⟨_, ⟨honce, rfl⟩, hc, hk, hs⟩
    have hc' := (member?_eq_some_iff (honce _ (by simp))).mp hc
    have hk' := (member?_eq_some_iff (honce _ (by simp))).mp hk
    obtain ⟨certificate, privateKey, serial⟩ := t
    rcases hs with ⟨hnone, rfl⟩ | ⟨j, hj, hs⟩
    · exact .namedShort honce hc' hk' (member?_eq_none_iff.mp hnone)
    · exact .named honce hc' hk' ((member?_eq_some_iff (honce _ (by simp))).mp hj) hs

theorem spelled_arr_iff {items : List Json} : Spelled (.arr items) t ↔
    ∃ r, (arr items).record? ["certificate", "private_key", "serial"] = some r ∧
      ReadFrom r t := by
  simp only [record?_arr_eq_some_iff, ReadFrom]
  constructor
  · intro h
    cases h with
    | listed hs => exact ⟨_, ⟨Nat.le_refl 3, rfl⟩, rfl, rfl, .inr ⟨_, rfl, hs⟩⟩
    | listedShort => exact ⟨_, ⟨Nat.le_succ 2, rfl⟩, rfl, rfl, .inl ⟨rfl, rfl⟩⟩
  · obtain ⟨certificate, privateKey, serial⟩ := t
    rintro ⟨_, ⟨hlength, rfl⟩, hc, hk, hs⟩
    rcases items with _ | ⟨_, _ | ⟨_, _ | ⟨_, _ | ⟨_, rest⟩⟩⟩⟩
    · cases hc
    · cases hk
    · obtain rfl := Option.some.inj hc
      obtain rfl := Option.some.inj hk
      obtain ⟨-, rfl⟩ | ⟨_, hj, -⟩ := hs
      · exact .listedShort
      · cases hj
    · obtain rfl := Option.some.inj hc
      obtain rfl := Option.some.inj hk
      obtain ⟨hnone, -⟩ | ⟨_, hj, hs⟩ := hs
      · cases hnone
      · cases hj
        exact .listed hs
    · simp only [List.length_cons, List.length_nil] at hlength
      omega

/-- The tokens of an object and of an array, and of nothing else. -/
theorem ofJson?_eq_some_iff {j : Json} : ofJson? j = some t ↔ Spelled j t := by
  rw [ofJson?_eq_some_iff_readFrom]
  cases j with
  | obj members => exact spelled_obj_iff.symm
  | arr items => exact spelled_arr_iff.symm
  | _ =>
    refine iff_of_false ?_ nofun
    rintro ⟨r, hr, -⟩
    cases hr

end Token

namespace TokenService

/-- A reply from which a token is taken. -/
inductive Grants : Except String PostReply → Token → Prop
  | fulfilled {r : PostReply} {j : Json} {t : Token} : 200 ≤ r.status → r.status < 300 →
      Json.ofText? r.body = some j → t.Spelled j → t.certificate ≠ "" → t.privateKey ≠ "" →
      Grants (.ok r) t

theorem tokenOf_eq_ok_iff {body : String} {t : Token} : tokenOf body = .ok t ↔
    ∃ j, Json.ofText? body = some j ∧ t.Spelled j ∧ t.certificate ≠ "" ∧ t.privateKey ≠ "" := by
  have hread {t : Token} : (Json.ofText? body).bind Token.ofJson? = some t ↔
      ∃ j, Json.ofText? body = some j ∧ Token.Spelled j t := by
    rw [Option.bind_eq_some_iff]
    exact exists_congr fun j => and_congr_right fun _ => Token.ofJson?_eq_some_iff
  have hempty {s : String} : s.isEmpty = false ↔ s ≠ "" := by
    rw [← Bool.not_eq_true, String.isEmpty_iff]
  unfold tokenOf
  split
  · next hnone =>
    refine iff_of_false nofun ?_
    rintro ⟨j, hj, hspelled, -⟩
    cases hnone.symm.trans (hread.mpr ⟨j, hj, hspelled⟩)
  · next u hu =>
    have hunique (h : ∃ j, Json.ofText? body = some j ∧ t.Spelled j) : u = t :=
      Option.some.inj (hu.symm.trans (hread.mpr h))
    split
    · next hfield =>
      refine iff_of_false nofun ?_
      rintro ⟨j, hj, hspelled, hc, hk⟩
      obtain rfl := hunique ⟨j, hj, hspelled⟩
      rw [hempty.mpr hc, hempty.mpr hk] at hfield
      cases hfield
    · next hfields =>
      obtain ⟨hc, hk⟩ := Bool.or_eq_false_iff.mp (Bool.eq_false_iff.mpr hfields)
      constructor
      · rintro ⟨⟩
        obtain ⟨j, hj, hspelled⟩ := hread.mp hu
        exact ⟨j, hj, hspelled, hempty.mp hc, hempty.mp hk⟩
      · rintro ⟨j, hj, hspelled, -⟩
        rw [hunique ⟨j, hj, hspelled⟩]

theorem token_eq_ok_iff {reply : Except String PostReply} {t : Token} :
    (bodyOf reply >>= tokenOf) = .ok t ↔ Grants reply t := by
  cases reply with
  | error e => exact iff_of_false nofun nofun
  | ok r =>
    have hsuccess : r.isSuccess = true ↔ 200 ≤ r.status ∧ r.status < 300 := by
      rw [PostReply.isSuccess, Bool.and_eq_true, decide_eq_true_iff, decide_eq_true_iff]
    have hgrants : Grants (.ok r) t ↔ r.isSuccess = true ∧ tokenOf r.body = .ok t := by
      rw [hsuccess, tokenOf_eq_ok_iff]
      constructor
      · rintro ⟨hlow, hhigh, hj, hspelled, hc, hk⟩
        exact ⟨⟨hlow, hhigh⟩, _, hj, hspelled, hc, hk⟩
      · rintro ⟨⟨hlow, hhigh⟩, j, hj, hspelled, hc, hk⟩
        exact .fulfilled hlow hhigh hj hspelled hc hk
    rw [hgrants, bodyOf]
    split
    · next h => exact ⟨fun htoken => ⟨h, htoken⟩, fun htoken => htoken.2⟩
    · next h => exact iff_of_false nofun fun htoken => h htoken.1

end TokenService

end GridQueue
