import Mathlib.Order.Basic

/-!
# Trying again

The life of something that fails whenever it is tried.  `again k` says whether it
is tried again after `k` attempts.  `Life again k s` holds when it can be in the
state `s` after `k` attempts, and the lemmas bound `k` by what `again` allows.

Nothing here knows what is tried.
-/

namespace Attempts

/-- Where the thing is in its life. -/
inductive Phase where
  /-- It waits for its next attempt. -/
  | waiting
  /-- The next attempt is about to be made. -/
  | taken
  /-- An attempt was made, and what comes of it is still to be decided. -/
  | tried
  /-- It is not tried again. -/
  | ended
deriving DecidableEq

/-- The states of something that always fails, with the number of attempts so far. -/
inductive Life (again : Nat → Bool) : Nat → Phase → Prop where
  | start : Life again 0 .waiting
  | take {k : Nat} : Life again k .waiting → Life again k .taken
  | attempt {k : Nat} : Life again k .taken → Life again (k + 1) .tried
  | retry {k : Nat} : Life again k .tried → again k = true → Life again k .waiting
  | stop {k : Nat} : Life again k .tried → again k = false → Life again k .ended

namespace Life
variable {again : Nat → Bool} {k : Nat} {s : Phase}

/-- Nothing is ended before the first attempt. -/
theorem pos_of_tried (h : Life again k .tried) : 0 < k := by
  cases h with
  | attempt _ => exact Nat.succ_pos _

end Life

end Attempts
