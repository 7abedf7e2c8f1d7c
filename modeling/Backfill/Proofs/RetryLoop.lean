import Mathlib.Order.Bounds.Basic
import Backfill.Proofs.WriteOrder

/-!
# The loop over attempts

A write is a loop with a counter in a word. Each round makes an attempt; after a failure the counter
is compared with the limit, and if it is below, the loop sleeps and raises it. Here the rounds are
told apart from what they leave behind: the loop ends, its counter never passes the limit, and so it
never wraps around.
-/

namespace Backfill

lemma RetryPolicy.toNat_attempts (p : RetryPolicy) :
    p.attempts.toNat = max p.maxAttempts.toNat 1 :=
  UInt32.toNat_max p.maxAttempts 1

namespace Sync

variable {σ : Type}

/-! ### Answers without a limit -/

section

variable (w : Writer σ) (d : Descriptor) (row : Row)

/-- The answer to the attempt at the given position, counted from 1, where attempts go on for as
long as it takes. -/
def answerAt (s : σ) (position : Nat) : Except Failure Int :=
  (w d row (afterAttempts w d row (position - 1) s)).1

lemma answerAt_one (s : σ) : answerAt w d row s 1 = (w d row s).1 := rfl

lemma answerAt_succ (s : σ) {position : Nat} (h : 1 ≤ position) :
    answerAt w d row s (position + 1) = answerAt w d row (w d row s).2 position := by
  obtain ⟨i, rfl⟩ := Nat.exists_eq_add_of_le' h
  rfl

end

variable {w : Writer σ} {d : Descriptor} {row : Row}

lemma one_le_attemptsMade {n : Nat} (hn : 1 ≤ n) (s : σ) : 1 ≤ attemptsMade w d row n s :=
  Nat.le_min.mpr ⟨hn, Nat.le_add_left 1 _⟩

/-- Of `n` attempts those are made that come up to the first success, if it is among them. -/
lemma isLeast_attemptsMade {n : Nat} (hn : 1 ≤ n) (s : σ) :
    IsLeast {j | j = n ∨ 1 ≤ j ∧ (answerAt w d row s j).isOk} (attemptsMade w d row n s) := by
  induction n, hn using Nat.le_induction generalizing s with
  | base =>
    have hone : attemptsMade w d row 1 s = 1 :=
      Nat.le_antisymm (Nat.min_le_left _ _) (one_le_attemptsMade (Nat.le_refl 1) s)
    rw [hone]
    refine ⟨Or.inl rfl, ?_⟩
    rintro j (rfl | ⟨hj, -⟩)
    · exact Nat.le_refl 1
    · exact hj
  | succ n hn ih =>
    rcases h : w d row s with ⟨e | matched, s'⟩
    · -- a failure in front moves all positions on by one
      obtain ⟨hmem, hle⟩ := ih s'
      have hnext {j : Nat} (hj : 1 ≤ j) : answerAt w d row s (j + 1) = answerAt w d row s' j := by
        rw [answerAt_succ w d row s hj, h]
      rw [attemptsMade_of_error h]
      constructor
      · rcases hmem with hlast | ⟨hpos, hok⟩
        · exact Or.inl (by rw [hlast])
        · exact Or.inr ⟨Nat.le_add_left 1 _, by rwa [hnext hpos]⟩
      · rintro j (rfl | ⟨hpos, hok⟩)
        · exact Nat.succ_le_succ (hle (Or.inl rfl))
        · obtain ⟨i, rfl⟩ := Nat.exists_eq_add_of_le' hpos
          rcases Nat.eq_zero_or_pos i with rfl | hi
          · rw [Nat.zero_add, answerAt_one, h] at hok
            cases hok
          · rw [hnext hi] at hok
            exact Nat.succ_le_succ (hle (Or.inr ⟨hi, hok⟩))
    · rw [attemptsMade_of_ok h]
      refine ⟨Or.inr ⟨Nat.le_refl 1, ?_⟩, ?_⟩
      · rw [answerAt_one, h]
        rfl
      · rintro j (rfl | ⟨hpos, -⟩)
        · exact Nat.le_add_left 1 n
        · exact hpos

/-- The last attempt that is made decides. -/
lemma attemptFrom_result (w : Writer σ) (d : Descriptor) (row : Row) (p : RetryPolicy) (left : Nat)
    (attempt : UInt32) (time : Nat) (s : σ) :
    (attemptFrom w d row p left attempt time s).result =
      (answerAt w d row s (attemptsMade w d row (left + 1) s)).mapError (gaveUp p.attempts) := by
  apply attemptFrom_induction (P := fun left _ _ s a =>
    a.result =
      (answerAt w d row s (attemptsMade w d row (left + 1) s)).mapError (gaveUp p.attempts))
  · intro left _ _ s s' matched h
    rw [attemptsMade_of_ok h, answerAt_one, h]
    rfl
  · intro _ _ s s' e h
    rw [attemptsMade_of_error h, attemptsMade_zero, Nat.zero_add, answerAt_one, h]
    rfl
  · intro left _ _ s s' e h _ later ih
    rw [attemptsMade_of_error h,
      answerAt_succ w d row s (one_le_attemptsMade (Nat.le_add_left 1 left) s'), h]
    exact ih

/-! ### Rounds -/

/-- What the loop over attempts does. -/
inductive Move where
  /-- An attempt, with the value of the counter. -/
  | attempt (counter : UInt32)
  | sleep (delay : UInt64)
deriving DecidableEq

/-- The value of the counter at an attempt. -/
def Move.counter? : Move → Option UInt32
  | attempt counter => some counter
  | sleep _ => none

/-- The loop over the attempts at a row, from a value of its counter on: what it does, and what is
left behind when it ends. -/
inductive Loop (w : Writer σ) (d : Descriptor) (row : Row) (p : RetryPolicy) :
    UInt32 → Nat → σ → List Move → Attempts σ → Prop
  | succeeded {counter : UInt32} {time : Nat} {s s' : σ} {matched : Int}
      (h : w d row s = (.ok matched, s')) :
      Loop w d row p counter time s [.attempt counter]
        ⟨.ok matched, s', time, [⟨time, row⟩], []⟩
  | exhausted {counter : UInt32} {time : Nat} {s s' : σ} {e : Failure}
      (h : w d row s = (.error e, s')) (hlimit : ¬ counter < p.attempts) :
      Loop w d row p counter time s [.attempt counter]
        ⟨.error (gaveUp p.attempts e), s', time, [⟨time, row⟩], []⟩
  | retried {counter : UInt32} {time : Nat} {s s' : σ} {e : Failure} {moves : List Move}
      {later : Attempts σ} (h : w d row s = (.error e, s')) (hlimit : counter < p.attempts)
      (hlater : Loop w d row p (counter + 1) (time + pause (p.backoff counter)) s' moves later) :
      Loop w d row p counter time s (.attempt counter :: .sleep (p.backoff counter) :: moves)
        { later with
          calls := ⟨time, row⟩ :: later.calls
          events := .retrying row.key counter p.attempts (p.backoff counter) e.text ::
            later.events }

/-- The writer leaves the loop no choice. -/
lemma Loop.unique {p : RetryPolicy} {counter : UInt32} {time : Nat} {s : σ}
    {moves moves' : List Move} {a a' : Attempts σ} (h : Loop w d row p counter time s moves a)
    (h' : Loop w d row p counter time s moves' a') : moves' = moves ∧ a' = a := by
  induction h generalizing moves' a' with
  | succeeded hw =>
    cases h' with
    | succeeded hw' =>
      cases hw.symm.trans hw'
      exact ⟨rfl, rfl⟩
    | exhausted hw' => cases hw.symm.trans hw'
    | retried hw' => cases hw.symm.trans hw'
  -- after a failure the guard decides, and both have the same counter
  | exhausted hw hlimit =>
    cases h' with
    | succeeded hw' => cases hw.symm.trans hw'
    | exhausted hw' =>
      cases hw.symm.trans hw'
      exact ⟨rfl, rfl⟩
    | retried hw' hlimit' => exact absurd hlimit' hlimit
  | retried hw hlimit _ ih =>
    cases h' with
    | succeeded hw' => cases hw.symm.trans hw'
    | exhausted hw' hlimit' => exact absurd hlimit hlimit'
    | retried hw' _ hlater' =>
      cases hw.symm.trans hw'
      obtain ⟨rfl, rfl⟩ := ih hlater'
      exact ⟨rfl, rfl⟩

/-- An attempt and so many retries, each after its sleep, from a value of the counter on. -/
def rounds (p : RetryPolicy) (counter retries : Nat) : List Move :=
  .attempt (.ofNat counter) :: (List.range' counter retries).flatMap fun i =>
    [.sleep (p.backoff (.ofNat i)), .attempt (.ofNat (i + 1))]

lemma rounds_succ (p : RetryPolicy) (counter retries : Nat) :
    rounds p counter (retries + 1) =
      .attempt (.ofNat counter) :: .sleep (p.backoff (.ofNat counter)) ::
        rounds p (counter + 1) retries := by
  rw [rounds, List.range'_succ, List.flatMap_cons]
  rfl

example : rounds {} 1 2 = [.attempt 1, .sleep 200, .attempt 2, .sleep 400, .attempt 3] := by
  decide

lemma counters_rounds (p : RetryPolicy) (counter retries : Nat) :
    (rounds p counter retries).filterMap Move.counter? =
      (List.range' counter (retries + 1)).map UInt32.ofNat := by
  induction retries generalizing counter with
  | zero => rfl
  | succ retries ih =>
    rw [rounds_succ, List.range'_succ, List.map_cons, ← ih]
    rfl

/-- As long as the counter is below the limit it is raised without wrapping around, so the attempts
that are left are those up to the limit. -/
lemma loop_attemptFrom (w : Writer σ) (d : Descriptor) (row : Row) (p : RetryPolicy) (left : Nat)
    (counter : UInt32) (time : Nat) (s : σ) (h : left + counter.toNat = p.attempts.toNat) :
    Loop w d row p counter time s
      (rounds p counter.toNat (attemptsMade w d row (left + 1) s - 1))
      (attemptFrom w d row p left counter time s) := by
  revert h
  apply attemptFrom_induction (P := fun left counter time s a =>
    left + counter.toNat = p.attempts.toNat →
      Loop w d row p counter time s
        (rounds p counter.toNat (attemptsMade w d row (left + 1) s - 1)) a)
  · intro left counter time s s' matched hw _
    rw [attemptsMade_of_ok hw, rounds, UInt32.ofNat_toNat]
    exact .succeeded hw
  · intro counter time s s' e hw hcounter
    have hlimit : ¬ counter < p.attempts := by
      rw [UInt32.lt_iff_toNat_lt]
      omega
    rw [attemptsMade_of_error hw, attemptsMade_zero, rounds, UInt32.ofNat_toNat]
    exact .exhausted hw hlimit
  · intro left counter time s s' e hw delay later ih hcounter
    have hlimit : counter < p.attempts := by
      rw [UInt32.lt_iff_toNat_lt]
      omega
    -- below the limit the counter does not wrap around
    have hraised : (counter + 1).toNat = counter.toNat + 1 :=
      toNat_next_attempt (UInt32.lt_iff_toNat_lt.mp hlimit)
    have hmade : 1 ≤ attemptsMade w d row (left + 1) s' :=
      one_le_attemptsMade (Nat.le_add_left 1 left) s'
    have hretries : attemptsMade w d row (left + 1 + 1) s - 1 =
        attemptsMade w d row (left + 1) s' - 1 + 1 := by
      rw [attemptsMade_of_error hw]
      omega
    rw [hretries, rounds_succ, UInt32.ofNat_toNat, ← hraised]
    exact .retried hw hlimit (ih (by omega))

/-! ### The whole write -/

lemma slept_toNat_le (p : RetryPolicy) (retries : Nat) :
    slept UInt64.toNat p retries ≤ retries * p.maxBackoff.toNat := by
  induction retries with
  | zero => exact Nat.zero_le _
  | succ retries ih =>
    rw [slept_succ, Nat.succ_mul]
    exact Nat.add_le_add ih (UInt64.le_iff_toNat_le.mp (p.backoff_le_maxBackoff _))

/-- A write, for any writer, state and policy. With `n` attempts granted, and at least one, it makes
`k` of them, where `k` is the position of the first success or `n`, whichever is less. Before each
retry there is one sleep, the one that the policy has for this retry, and after the last attempt
there is none; an attempt is made when the sleeps before it are over, which take their delays to the
millisecond if the cap is within the longest pause, and these delays add up to no more than `k - 1`
times the cap. The result is the answer to attempt `k`, and if that is a failure, the number of
attempts granted is its outermost context. All this is done by a loop with a counter in a word: it
ends in this one way, and its counter goes from 1 to `k` and never wraps around. -/
theorem write_attempts_until_success_or_limit (w : Writer σ) (d : Descriptor) (row : Row)
    (p : RetryPolicy) (time : Nat) (s : σ) :
    let a := write w d row p time s
    let n := max p.maxAttempts.toNat 1
    ∃ k : Nat,
      IsLeast {j | j = n ∨ 1 ≤ j ∧ (answerAt w d row s j).isOk} k ∧
        a.calls = (List.range k).map (fun i => ⟨time + slept pause p i, row⟩) ∧
        a.time = time + slept pause p (k - 1) ∧ a.state = afterAttempts w d row k s ∧
        (p.maxBackoff.toNat ≤ longestPause →
          a.calls = (List.range k).map (fun i => ⟨time + slept UInt64.toNat p i, row⟩) ∧
            a.time = time + slept UInt64.toNat p (k - 1)) ∧
        (∀ moves a', Loop w d row p 1 time s moves a' ↔ moves = rounds p 1 (k - 1) ∧ a' = a) ∧
        ((rounds p 1 (k - 1)).filterMap Move.counter?).map UInt32.toNat = List.range' 1 k ∧
        k ≤ n ∧ slept UInt64.toNat p (k - 1) ≤ (k - 1) * p.maxBackoff.toNat ∧
        a.result = (answerAt w d row s k).mapError fun e =>
          e.within ("gave up after " ++ Text.nat n ++ " attempt(s)") := by
  intro a n
  -- the recursion counts the attempts that are left, the statement those that are granted
  have hn : p.attempts.toNat = n := p.toNat_attempts
  have hpos : 1 ≤ n := hn ▸ one_le_toNat_attempts p
  have hword : n < UInt32.size := hn ▸ p.attempts.toNat_lt
  have hgranted : p.attempts.toNat - 1 + 1 = n := by omega
  have hleast : IsLeast {j | j = n ∨ 1 ≤ j ∧ (answerAt w d row s j).isOk}
      (attemptsMade w d row n s) := isLeast_attemptsMade hpos s
  have hfollow : a.Follow w d row p n s := hn ▸ write_follow w d row p time s
  have hloop : Loop w d row p 1 time s (rounds p 1 (attemptsMade w d row n s - 1)) a := by
    have h := loop_attemptFrom w d row p (p.attempts.toNat - 1) 1 time s (by
      rw [UInt32.toNat_one]
      omega)
    rwa [hgranted] at h
  have hmade : 1 ≤ attemptsMade w d row n s := one_le_attemptsMade hpos s
  have hle : attemptsMade w d row n s ≤ n := hleast.2 (Or.inl rfl)
  have hcalls : a.calls = (List.range (attemptsMade w d row n s)).map
      (fun i => ⟨time + slept pause p i, row⟩) := by
    rw [← hfollow.length_calls]
    exact write_times w d row p time s
  have htime : a.time = time + slept pause p (attemptsMade w d row n s - 1) := by
    rw [← hfollow.length_calls]
    exact write_time w d row p time s
  refine ⟨attemptsMade w d row n s, hleast, hcalls, htime, hfollow.state, ?_, ?_, ?_, hle,
    slept_toNat_le p _, ?_⟩
  · intro hcap
    simp only [slept_pause hcap] at hcalls htime
    exact ⟨hcalls, htime⟩
  · -- the loop leaves no choice, so that the moves of the one run that is known are its only ones
    intro moves a'
    constructor
    · exact hloop.unique
    · rintro ⟨rfl, rfl⟩
      exact hloop
  · -- the counter is at most `n`, which is a word
    rw [counters_rounds, Nat.sub_add_cancel hmade, List.map_map]
    refine (List.map_congr_left fun i hi => ?_).trans (List.map_id _)
    rw [List.mem_range'_1] at hi
    exact UInt32.toNat_ofNat_of_lt' (by omega)
  · have hcontext : gaveUp p.attempts =
        fun e => e.within ("gave up after " ++ Text.nat n ++ " attempt(s)") := by
      funext e
      rw [gaveUp, hn]
    have h := attemptFrom_result w d row p (p.attempts.toNat - 1) 1 time s
    rwa [hgranted, hcontext] at h

end Sync

end Backfill
