import Mathlib.Tactic.Lemma
import Backfill.Sync.Attempt

/-!
# How a write ends

A write is some failing attempts and then a last one, which decides: it succeeds, or it was the last
that the policy grants.
-/

namespace Backfill.Sync

variable {σ : Type} {w : Writer σ} {d : Descriptor} {row : Row}

/-! ### One attempt -/

lemma attemptFrom_of_ok {s s' : σ} {matched : Int} (h : w d row s = (.ok matched, s'))
    (p : RetryPolicy) (left : Nat) (attempt : UInt32) (time : Nat) :
    attemptFrom w d row p left attempt time s = ⟨.ok matched, s', time, [⟨time, row⟩], []⟩ := by
  unfold attemptFrom
  simp [h]

lemma attemptFrom_of_last {s s' : σ} {e : Failure} (h : w d row s = (.error e, s'))
    (p : RetryPolicy) (attempt : UInt32) (time : Nat) :
    attemptFrom w d row p 0 attempt time s =
      ⟨.error (gaveUp p.attempts e), s', time, [⟨time, row⟩], []⟩ := by
  unfold attemptFrom
  simp [h]

lemma attemptFrom_of_retry {s s' : σ} {e : Failure} (h : w d row s = (.error e, s'))
    (p : RetryPolicy) (left : Nat) (attempt : UInt32) (time : Nat) :
    attemptFrom w d row p (left + 1) attempt time s =
      let delay := p.backoff attempt
      let later := attemptFrom w d row p left (attempt + 1) (time + pause delay) s'
      { later with
        calls := ⟨time, row⟩ :: later.calls
        events := .retrying row.key attempt p.attempts delay e.text :: later.events } := by
  rw [attemptFrom.eq_def]
  simp [h]

/-- Induction over the attempts at a write: one succeeds, or it was the last and fails, or it fails
and others follow. -/
lemma attemptFrom_induction {P : Nat → UInt32 → Nat → σ → Attempts σ → Prop} {p : RetryPolicy}
    (success : ∀ left attempt time s s' matched, w d row s = (.ok matched, s') →
      P left attempt time s ⟨.ok matched, s', time, [⟨time, row⟩], []⟩)
    (last : ∀ attempt time s s' e, w d row s = (.error e, s') →
      P 0 attempt time s ⟨.error (gaveUp p.attempts e), s', time, [⟨time, row⟩], []⟩)
    (retry : ∀ left attempt time s s' e, w d row s = (.error e, s') →
      let delay := p.backoff attempt
      let later := attemptFrom w d row p left (attempt + 1) (time + pause delay) s'
      P left (attempt + 1) (time + pause delay) s' later →
      P (left + 1) attempt time s
        { later with
          calls := ⟨time, row⟩ :: later.calls
          events := .retrying row.key attempt p.attempts delay e.text :: later.events })
    (left : Nat) (attempt : UInt32) (time : Nat) (s : σ) :
    P left attempt time s (attemptFrom w d row p left attempt time s) := by
  induction left generalizing attempt time s with
  | zero =>
    rcases h : w d row s with ⟨e | matched, s'⟩
    · rw [attemptFrom_of_last h]
      exact last attempt time s s' e h
    · rw [attemptFrom_of_ok h]
      exact success 0 attempt time s s' matched h
  | succ left ih =>
    rcases h : w d row s with ⟨e | matched, s'⟩
    · rw [attemptFrom_of_retry h]
      exact retry left attempt time s s' e h (ih _ _ s')
    · rw [attemptFrom_of_ok h]
      exact success (left + 1) attempt time s s' matched h

/-! ### All attempts -/

/-- Attempts that fail one after the other, with their failures and the state after them. -/
inductive FailedAttempts (w : Writer σ) (d : Descriptor) (row : Row) : σ → List Failure → σ → Prop
  | none (s : σ) : FailedAttempts w d row s [] s
  | next {s s' s'' : σ} {e : Failure} {es : List Failure} (h : w d row s = (.error e, s'))
      (later : FailedAttempts w d row s' es s'') : FailedAttempts w d row s (e :: es) s''

/-- What every failing attempt keeps is kept by all of them. -/
lemma FailedAttempts.preserves {P : σ → Prop} {s s' : σ} {es : List Failure}
    (h : FailedAttempts w d row s es s')
    (hstep : ∀ s s' e, w d row s = (.error e, s') → P s → P s') (hs : P s) : P s' := by
  induction h with
  | none s => exact hs
  | next h later ih => exact ih (hstep _ _ _ h hs)

/-- Attempts end with one that succeeds, after failures for which there was another attempt, or with
the failure of the last one. -/
lemma attemptFrom_ends (w : Writer σ) (d : Descriptor) (row : Row) (p : RetryPolicy) (left : Nat)
    (attempt : UInt32) (time : Nat) (s : σ) :
    let a := attemptFrom w d row p left attempt time s
    (∃ es s' matched, FailedAttempts w d row s es s' ∧ es.length ≤ left ∧
        w d row s' = (.ok matched, a.state) ∧ a.result = .ok matched) ∨
      ∃ es e, FailedAttempts w d row s (es ++ [e]) a.state ∧ es.length = left ∧
        a.result = .error (gaveUp p.attempts e) := by
  apply attemptFrom_induction (P := fun left _ _ s a =>
    (∃ es s' matched, FailedAttempts w d row s es s' ∧ es.length ≤ left ∧
        w d row s' = (.ok matched, a.state) ∧ a.result = .ok matched) ∨
      ∃ (es : List Failure) (e : Failure), FailedAttempts w d row s (es ++ [e]) a.state ∧
        es.length = left ∧ a.result = .error (gaveUp p.attempts e))
  · intro left _ _ s s' matched h
    exact Or.inl ⟨[], s, matched, .none s, Nat.zero_le left, h, rfl⟩
  · intro _ _ s s' e h
    exact Or.inr ⟨[], e, .next h (.none s'), rfl, rfl⟩
  · -- the attempt fails, and those that follow it decide
    intro left attempt time s s₁ e h delay later ih
    rcases ih with ⟨es, s', matched, hes, hlen, hw, hres⟩ | ⟨es, e', hes, hlen, hres⟩
    · exact Or.inl ⟨e :: es, s', matched, .next h hes, Nat.succ_le_succ hlen, hw, hres⟩
    · exact Or.inr ⟨e :: es, e', .next h hes, congrArg Nat.succ hlen, hres⟩

lemma attemptFrom_calls (w : Writer σ) (d : Descriptor) (row : Row) (p : RetryPolicy) (left : Nat)
    (attempt : UInt32) (time : Nat) (s : σ) :
    ∃ times, times ≠ [] ∧
      (attemptFrom w d row p left attempt time s).calls = times.map fun t => ⟨t, row⟩ := by
  apply attemptFrom_induction (P := fun _ _ _ _ a =>
    ∃ times, times ≠ [] ∧ a.calls = times.map fun t => ⟨t, row⟩)
  · intro _ _ time _ _ _ _
    exact ⟨[time], by simp, rfl⟩
  · intro _ time _ _ _ _
    exact ⟨[time], by simp, rfl⟩
  · intro _ _ time _ _ _ _ _ later ih
    obtain ⟨times, -, hcalls⟩ := ih
    exact ⟨time :: times, by simp, congrArg (⟨time, row⟩ :: ·) hcalls⟩

/-- All attempts at a write are for its row, and there is one at least. -/
lemma write_calls (w : Writer σ) (d : Descriptor) (row : Row) (p : RetryPolicy) (time : Nat)
    (s : σ) :
    ∃ times, times ≠ [] ∧ (write w d row p time s).calls = times.map fun t => ⟨t, row⟩ :=
  attemptFrom_calls w d row p _ 1 time s

lemma one_le_toNat_attempts (p : RetryPolicy) : 1 ≤ p.attempts.toNat := by
  simp only [RetryPolicy.attempts, max]
  split
  · exact Nat.le_refl 1
  · next h =>
    rw [UInt32.le_iff_toNat_le] at h
    exact Nat.le_of_lt (Nat.lt_of_not_le h)

/-- The number of an attempt after which another one is granted does not wrap around. -/
lemma toNat_next_attempt {p : RetryPolicy} {attempt : UInt32}
    (h : attempt.toNat < p.attempts.toNat) : (attempt + 1).toNat = attempt.toNat + 1 := by
  have hword := p.attempts.toNat_lt
  rw [UInt32.toNat_add, UInt32.toNat_one, Nat.mod_eq_of_lt (by omega)]

section

variable {p : RetryPolicy} {time : Nat} {s : σ}

/-- An acknowledged write: some attempts fail and the next one succeeds. -/
lemma write_of_ok {matched : Int} (h : (write w d row p time s).result = .ok matched) :
    ∃ es s', FailedAttempts w d row s es s' ∧ es.length < p.attempts.toNat ∧
      w d row s' = (.ok matched, (write w d row p time s).state) := by
  have hpos := one_le_toNat_attempts p
  rcases attemptFrom_ends w d row p (p.attempts.toNat - 1) 1 time s with
    ⟨es, s', matched', hes, hlen, hw, hres⟩ | ⟨es, e, -, -, hres⟩
  · cases h.symm.trans hres
    exact ⟨es, s', hes, by omega, hw⟩
  · cases h.symm.trans hres

/-- A failed write: all attempts fail, and the failure is that of the last one. -/
lemma write_of_error {last : Failure} (h : (write w d row p time s).result = .error last) :
    ∃ es e, FailedAttempts w d row s (es ++ [e]) (write w d row p time s).state ∧
      es.length + 1 = p.attempts.toNat ∧ last = gaveUp p.attempts e := by
  have hpos := one_le_toNat_attempts p
  rcases attemptFrom_ends w d row p (p.attempts.toNat - 1) 1 time s with
    ⟨es, s', matched, -, -, -, hres⟩ | ⟨es, e, hes, hlen, hres⟩
  · cases h.symm.trans hres
  · cases h.symm.trans hres
    exact ⟨es, e, hes, by omega, rfl⟩

end

end Backfill.Sync
