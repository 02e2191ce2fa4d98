import Kagzi.Sdk.Errors
import Kagzi.Sdk.Worker
import Mathlib.Data.List.Induction

/-!
# The delay after a failed poll

`poll_and_execute` of the SDK's `worker.rs` counts the polls that have failed in a row, and
sleeps after each of them.  The counter is right (`pollLoop_counter`), but nothing reads it:
the builder of the delays is made anew for each failure, and only the first delay is taken
from it (`pollLoop_delays`).  So the delays grow as they should only where no poll fails twice
before one succeeds (`backs_off_iff`).

`backon` is a parameter, without its jitter.
-/

namespace Kagzi

namespace Sdk

/-- What `poll_task` gives. -/
abbrev PollResult := Except Wire.Status Response

/-- The iterator that an `ExponentialBuilder` builds from a minimal and a maximal delay, as
the delays that it yields. -/
structure Backon where
  delays : Duration → Duration → List Duration
  /-- The first one is the minimal delay. -/
  head?_delays : ∀ minDelay maxDelay, (delays minDelay maxDelay).head? = some minDelay

/-- `poll_and_execute` after the response, with the counter of the failures before and after
it, and how long the worker sleeps.  What it does with a task is `PollCall.accept`. -/
def pollAndExecute (backon : Backon) (consecutivePollFailures : UInt32) :
    PollResult → UInt32 × Option Duration
  | .ok _ => (0, none)
  | .error e =>
      if e.code ≠ .deadlineExceeded then
        let backoff := backon.delays (.fromMillis 100) (.fromSecs 30)
        (consecutivePollFailures + 1, some (backoff.head?.getD (.fromSecs 30)))
      else (consecutivePollFailures, none)

/-- The polls of the main loop one after the other, with the delay after each. -/
def pollLoop (backon : Backon) (consecutivePollFailures : UInt32) :
    List PollResult → UInt32 × List (Option Duration)
  | [] => (consecutivePollFailures, [])
  | result :: results =>
      let (failures, delay) := pollAndExecute backon consecutivePollFailures result
      let (failures, delays) := pollLoop backon failures results
      (failures, delay :: delays)

end Sdk

namespace PollBackoff

open Sdk

/-! ## What is claimed -/

/-- A failed poll that counts. -/
def Counted : PollResult → Prop
  | .ok _ => False
  | .error e => e.code ≠ .deadlineExceeded

instance (result : PollResult) : Decidable (Counted result) :=
  match result with
  | .ok _ => inferInstanceAs (Decidable False)
  | .error e => inferInstanceAs (Decidable (e.code ≠ .deadlineExceeded))

/-- A poll that succeeded. -/
def Succeeded (result : PollResult) : Prop := result.isOk = true

/-- One more poll. -/
def count (k : Nat) (result : PollResult) : Nat :=
  if result.isOk then 0 else if Counted result then k + 1 else k

/-- How many polls have failed since the last one that succeeded. -/
def failures (results : List PollResult) : Nat := results.foldl count 0

/-- The delay after the `k`-th failure, in milliseconds. -/
def backoffMs (k : Nat) : Nat := min (100 * 2 ^ (k - 1)) 30000

/-- After every poll that fails the worker sleeps as long as the number of failures asks
for. -/
def BacksOff (backon : Backon) (results : List PollResult) : Prop :=
  ∀ before result after, results = before ++ result :: after → Counted result →
    (pollLoop backon 0 results).2[before.length]? =
      some (some (.fromMillis (backoffMs (failures (before ++ [result])))))

/-- Between two failures there is a poll that succeeds. -/
def Spaced (results : List PollResult) : Prop :=
  ∀ before first between second after, results = before ++ first :: between ++ second :: after →
    Counted first → Counted second → ∃ result ∈ between, Succeeded result

/-! ## The counter -/

theorem failures_concat (results : List PollResult) (result : PollResult) :
    failures (results ++ [result]) = count (failures results) result := by
  simp [failures]

/-- The first failure counts as one. -/
theorem failures_counted {result : PollResult} (results : List PollResult) (h : Counted result) :
    failures (results ++ [result]) = failures results + 1 := by
  rw [failures_concat]
  cases result with
  | ok response => exact h.elim
  | error e => simp [count, h, Except.isOk, Except.toBool]

/-- An element of a list with a last one is that, or is one of the others. -/
theorem concat_eq_iff {α : Type} {xs before after : List α} {last x : α} :
    xs ++ [last] = before ++ x :: after ↔ (xs = before ∧ last = x ∧ after = []) ∨
      ∃ rest, after = rest ++ [last] ∧ xs = before ++ x :: rest := by
  rcases after.eq_nil_or_concat with rfl | ⟨rest, final, rfl⟩
  · rw [List.append_singleton_inj]
    simp
  · rw [List.concat_eq_append, ← List.cons_append, ← List.append_assoc, List.append_singleton_inj]
    constructor
    · rintro ⟨hxs, rfl⟩
      exact .inr ⟨rest, rfl, hxs⟩
    · rintro (⟨-, -, hnil⟩ | ⟨rest', hrest, hxs⟩)
      · simp at hnil
      · obtain ⟨rfl, rfl⟩ := List.append_singleton_inj.mp hrest
        exact ⟨hxs, rfl⟩

/-- Some failure counts exactly if one came after the last success. -/
theorem failures_pos_iff (results : List PollResult) : 0 < failures results ↔
    ∃ before result after, results = before ++ result :: after ∧ Counted result ∧
      ∀ later ∈ after, ¬ Succeeded later := by
  induction results using List.reverseRecOn with
  | nil => simp [failures]
  | append_singleton results last ih =>
      rw [failures_concat]
      constructor
      · intro hpos
        by_cases hcounted : Counted last
        · exact ⟨results, last, [], rfl, hcounted, by simp⟩
        · have hfailed : ¬ Succeeded last := fun h => by simp [count, show last.isOk = true from h] at hpos
          have hbefore : 0 < failures results := by
            simpa [count, show ¬ last.isOk = true from hfailed, hcounted] using hpos
          obtain ⟨before, result, after, rfl, hresult, hafter⟩ := ih.mp hbefore
          refine ⟨before, result, after ++ [last], by simp, hresult, ?_⟩
          intro later hlater
          rcases List.mem_append.mp hlater with h | h
          · exact hafter later h
          · exact List.mem_singleton.mp h ▸ hfailed
      · rintro ⟨before, result, after, heq, hresult, hafter⟩
        rcases concat_eq_iff.mp heq with ⟨-, rfl, -⟩ | ⟨rest, rfl, rfl⟩
        · rw [← failures_concat, failures_counted _ hresult]
          exact Nat.succ_pos _
        · have hfailed : ¬ last.isOk = true := hafter last (by simp)
          have hbefore := ih.mpr
            ⟨before, result, rest, rfl, hresult, fun later h => hafter later (by simp [h])⟩
          unfold count
          rw [if_neg hfailed]
          split
          · exact Nat.succ_pos _
          · exact hbefore

/-- The counter of the worker is the number of failures, as far as it has room. -/
theorem pollLoop_counter (backon : Backon) (results : List PollResult) :
    (pollLoop backon 0 results).1 = .ofNat (failures results) := by
  have hstep : ∀ (k : Nat) (result : PollResult),
      (pollAndExecute backon (.ofNat k) result).1 = .ofNat (count k result) := by
    rintro k (e | response)
    · by_cases h : e.code = .deadlineExceeded
      · simp [pollAndExecute, count, Counted, h, Except.isOk, Except.toBool]
      · simp [pollAndExecute, count, Counted, h, Except.isOk, Except.toBool]
    · rfl
  suffices hrun : ∀ k, (pollLoop backon (.ofNat k) results).1 = .ofNat (results.foldl count k) from hrun 0
  induction results with
  | nil => exact fun k => rfl
  | cons result results ih =>
      intro k
      simp only [pollLoop, hstep, List.foldl_cons]
      exact ih (count k result)

/-! ## The delays -/

/-- The worker sleeps as long after one failure as after another. -/
def delay : PollResult → Option Duration := fun result =>
  if Counted result then some (.fromMillis 100) else none

theorem pollAndExecute_delay (backon : Backon) (k : UInt32) (result : PollResult) :
    (pollAndExecute backon k result).2 = delay result := by
  cases result with
  | ok response => rfl
  | error e =>
      by_cases h : e.code = .deadlineExceeded
      · simp [pollAndExecute, delay, Counted, h]
      · simp [pollAndExecute, delay, Counted, h, backon.head?_delays]

/-- The delays do not depend on the counter. -/
theorem pollLoop_delays (backon : Backon) (k : UInt32) (results : List PollResult) :
    (pollLoop backon k results).2 = results.map delay := by
  induction results generalizing k with
  | nil => rfl
  | cons result results ih =>
      simp only [pollLoop, List.map_cons, ih, pollAndExecute_delay]

theorem fromMillis_inj {a b : Nat} : Duration.fromMillis a = .fromMillis b ↔ a = b := by
  constructor
  · intro h
    simpa using congrArg Duration.asMillis h
  · rintro rfl
    rfl

/-- Only the first failure asks for the shortest delay. -/
theorem backoffMs_eq_iff {k : Nat} (hk : 0 < k) : 100 = backoffMs k ↔ k = 1 := by
  obtain ⟨n, rfl⟩ := Nat.exists_eq_succ_of_ne_zero hk.ne'
  cases n with
  | zero => simp [backoffMs]
  | succ n =>
      have hpow : 2 ≤ 2 ^ (n + 1) := by
        rw [Nat.pow_succ]
        have := Nat.one_le_two_pow (n := n)
        omega
      simp only [backoffMs, Nat.succ_eq_add_one, Nat.add_sub_cancel]
      omega

/-! ## The result -/

/-- The delays back off exactly if no poll fails twice before one succeeds. -/
theorem backs_off_iff (backon : Backon) (results : List PollResult) :
    BacksOff backon results ↔ Spaced results := by
  have hdelay : ∀ before result after, results = before ++ result :: after → Counted result →
      ((pollLoop backon 0 results).2[before.length]? =
        some (some (.fromMillis (backoffMs (failures (before ++ [result]))))) ↔ failures before = 0) := by
    rintro before result after rfl hresult
    rw [pollLoop_delays, failures_counted _ hresult]
    have hat : ((before ++ result :: after).map delay)[before.length]? = some (some (.fromMillis 100)) := by
      simp [delay, hresult]
    rw [hat, Option.some_inj, Option.some_inj, fromMillis_inj, backoffMs_eq_iff (Nat.succ_pos _)]
    omega
  constructor
  · intro h before first between second after heq hfirst hsecond
    have hzero := (hdelay (before ++ first :: between) second after (by simpa using heq) hsecond).mp
      (h _ second after (by simpa using heq) hsecond)
    by_contra hnone
    have hpos := (failures_pos_iff (before ++ first :: between)).mpr
      ⟨before, first, between, rfl, hfirst, fun later hlater hok => hnone ⟨later, hlater, hok⟩⟩
    omega
  · intro h before result after heq hresult
    refine (hdelay before result after heq hresult).mpr (Nat.eq_zero_of_not_pos ?_)
    intro hpos
    obtain ⟨before, first, between, rfl, hfirst, hfailed⟩ := (failures_pos_iff before).mp hpos
    obtain ⟨later, hlater, hok⟩ := h before first between result after (by simpa using heq) hfirst hresult
    exact hfailed later hlater hok

/-! ## Two failures -/

/-- A poll that the server does not answer. -/
def unavailable : PollResult := .error ⟨.unavailable, "unavailable", []⟩

/-- Up to three delays, each twice the one before. -/
def doubling : Backon where
  delays minDelay maxDelay :=
    [minDelay, .fromMillis (min (2 * minDelay.asMillis) maxDelay.asMillis),
      .fromMillis (min (4 * minDelay.asMillis) maxDelay.asMillis)]
  head?_delays _ _ := rfl

/-- After the second failure in a row the worker sleeps no longer than after the first. -/
theorem second_delay_is_the_first : ¬ ∀ results, BacksOff doubling results := by
  intro h
  have hsecond := h [unavailable, unavailable] [unavailable] unavailable [] rfl (by decide)
  revert hsecond
  decide

end PollBackoff

end Kagzi
