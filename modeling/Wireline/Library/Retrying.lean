import Mathlib.Data.List.Count
import Mathlib.Tactic.Common

namespace Retrying

/-!
# Attempts until a success

A loop makes an attempt, and another one after each failure, up to a limit.
Its history is the list of what the attempts came to.
-/

universe u

variable {α : Type u}

/-- The histories of a loop that ends with its first success, and that gives
up after `limit` attempts more than the first. -/
inductive Tries (success : α -> Bool) : Nat -> List α -> Prop
  | succeeded {limit : Nat} {outcome : α} (good : success outcome = true) :
      Tries success limit [outcome]
  | exhausted {outcome : α} (bad : success outcome = false) : Tries success 0 [outcome]
  | again {limit : Nat} {outcome : α} {outcomes : List α} (bad : success outcome = false)
      (rest : Tries success limit outcomes) : Tries success (limit + 1) (outcome :: outcomes)

namespace Tries

variable {success : α -> Bool} {limit : Nat} {outcomes : List α}

theorem length_pos (tries : Tries success limit outcomes) : 0 < outcomes.length := by
  cases tries with
  | succeeded good | exhausted bad => exact Nat.one_pos
  | again bad rest => exact Nat.succ_pos _

/-- A loop that never succeeds makes all its attempts. -/
theorem length_of_failed (tries : Tries success limit outcomes)
    (failed : outcomes.any success = false) : outcomes.length = limit + 1 := by
  induction tries with
  | succeeded good =>
      rw [List.any_cons, good] at failed
      cases failed
  | exhausted bad => rfl
  | again bad rest ih =>
      rw [List.any_cons, bad, Bool.false_or] at failed
      rw [List.length_cons, ih failed]

/-- Every attempt is a failure but the last of a loop that succeeds. -/
theorem count_failures (tries : Tries success limit outcomes) :
    outcomes.countP (fun outcome => !success outcome) + (if outcomes.any success then 1 else 0) =
      outcomes.length := by
  induction tries with
  | succeeded good => simp [good]
  | exhausted bad => simp [bad]
  | again bad rest ih =>
      rw [List.countP_cons_of_pos (by rw [bad]; rfl), List.any_cons, bad, Bool.false_or,
        List.length_cons, ← ih]
      omega

end Tries
end Retrying
