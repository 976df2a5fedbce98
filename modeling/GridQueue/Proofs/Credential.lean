/-
# `GridQueue.Proofs.Credential` — an extension names one hand-out

The extension of a token request is the numeral of the job, a slash, and
the numeral of the hand-out.  Numerals hold digits and perhaps a sign, so
the slash tells where the first one ends.

So two requests with one extension are for one hand-out of one job
(`extensionOf_inj`), whatever integers the two numbers are.  Nothing is
asked of their widths or signs: a number that started over still spells
itself only.
-/
import GridQueue.Credential
import Mathlib

namespace GridQueue

theorem slash_notMem_repr_nat (n : ℕ) : '/' ∉ n.repr.toList := by
  rw [Nat.toList_repr]
  intro h
  have hdigit := Nat.isDigit_of_mem_toDigits (by decide) (by decide) h
  revert hdigit
  decide

theorem slash_notMem_repr (n : Int) : '/' ∉ n.repr.toList := by
  cases n with
  | ofNat n => exact slash_notMem_repr_nat n
  | negSucc n =>
      show '/' ∉ ("-" ++ (n + 1).repr).toList
      rw [String.toList_append, List.mem_append]
      rintro (h | h)
      · revert h
        decide
      · exact slash_notMem_repr_nat _ h

namespace TokenRequest

/-- The extension for a hand-out of a job. -/
def extensionOf (jobId resubmission : Int) : String :=
  toString jobId ++ "/" ++ toString resubmission

theorem toList_extensionOf (jobId n : Int) :
    (extensionOf jobId n).toList = jobId.repr.toList ++ '/' :: n.repr.toList := by
  simp only [extensionOf, Int.toString_eq_repr, String.toList_append, List.append_assoc]
  rfl

theorem extensionOf_inj {jobId jobId' n n' : Int} :
    extensionOf jobId n = extensionOf jobId' n' ↔ jobId = jobId' ∧ n = n' := by
  rw [← String.toList_inj, toList_extensionOf, toList_extensionOf,
    List.append_cons_inj_of_notMem (slash_notMem_repr _) (slash_notMem_repr _)]
  simp only [String.toList_inj, Int.repr_inj, true_and]

end TokenRequest

end GridQueue
