import Backfill.Proofs.Attempts
import Backfill.Proofs.Legs

/-!
# Turns

What becomes of a row depends on the writer alone, on the state that it is in when it is the row's
turn and on the number of attempts that are granted. Here this is said from the answers that the
writer would give to so many attempts in a row: attempts are made up to the first success, and the
row is given up if there is none. A run deals with its items accordingly, one turn after the other.
-/

namespace Backfill.Sync

open Source (Item)

variable {σ : Type} {w : Writer σ} {d : Descriptor} {row : Row}

/-! ### Answers -/

section

variable (w : Writer σ) (d : Descriptor) (row : Row)

/-- The answers to so many attempts at a row, one after the other. -/
def answers : Nat → σ → List (Except Failure Int)
  | 0, _ => []
  | n + 1, s => (w d row s).1 :: answers n (w d row s).2

/-- The state of the writer after so many attempts at a row. -/
def afterAttempts : Nat → σ → σ
  | 0, s => s
  | n + 1, s => afterAttempts n (w d row s).2

/-- How many of `n` attempts are made: all up to the first success. -/
def attemptsMade (n : Nat) (s : σ) : Nat :=
  min n ((answers w d row n s).findIdx Except.isOk + 1)

/-- The number of nodes matched by the first of `n` attempts that succeeds. -/
def matched? (n : Nat) (s : σ) : Option Int :=
  (answers w d row n s).findSome? Except.toOption

/-- Whether a row is given up: all of `n` attempts fail. -/
def isGivenUp (n : Nat) (s : σ) : Bool :=
  (answers w d row n s).all fun answer => !answer.isOk

end

lemma isGivenUp_iff {n : Nat} {s : σ} :
    isGivenUp w d row n s = true ↔ matched? w d row n s = none := by
  rw [isGivenUp, matched?, List.all_eq_true, List.findSome?_eq_none_iff]
  refine forall₂_congr fun answer _ => ?_
  cases answer <;> simp [Except.isOk, Except.toBool, Except.toOption]

section

variable {s s' : σ}

@[simp] lemma attemptsMade_zero : attemptsMade w d row 0 s = 0 :=
  Nat.zero_min _

lemma attemptsMade_of_ok {matched : Int} (h : w d row s = (.ok matched, s')) (n : Nat) :
    attemptsMade w d row (n + 1) s = 1 := by
  simp [attemptsMade, answers, h, List.findIdx_cons, Except.isOk, Except.toBool]

lemma attemptsMade_of_error {e : Failure} (h : w d row s = (.error e, s')) (n : Nat) :
    attemptsMade w d row (n + 1) s = attemptsMade w d row n s' + 1 := by
  simp [attemptsMade, answers, h, List.findIdx_cons, Except.isOk, Except.toBool,
    Nat.add_min_add_right]

@[simp] lemma matched?_zero : matched? w d row 0 s = none := rfl

lemma matched?_of_ok {matched : Int} (h : w d row s = (.ok matched, s')) (n : Nat) :
    matched? w d row (n + 1) s = some matched := by
  simp only [matched?, answers, h]
  rfl

lemma matched?_of_error {e : Failure} (h : w d row s = (.error e, s')) (n : Nat) :
    matched? w d row (n + 1) s = matched? w d row n s' := by
  simp only [matched?, answers, h]
  rfl

end

/-! ### Attempts and answers -/

/-- Attempts at a row as the answers of the writer have them: how many there are, the state that
they leave and how they end. -/
structure Attempts.Follow (w : Writer σ) (d : Descriptor) (row : Row) (p : RetryPolicy) (n : Nat)
    (s : σ) (a : Attempts σ) : Prop where
  rows : a.calls.map Call.row = List.replicate (attemptsMade w d row n s) row
  state : a.state = afterAttempts w d row (attemptsMade w d row n s) s
  acknowledged : ∀ matched, matched? w d row n s = some matched → a.result = .ok matched
  givenUp : matched? w d row n s = none →
    ∃ last, (answers w d row n s).getLast? = some (.error last) ∧
      a.result = .error (gaveUp p.attempts last)

lemma attemptFrom_follow (w : Writer σ) (d : Descriptor) (row : Row) (p : RetryPolicy) (left : Nat)
    (attempt : UInt32) (time : Nat) (s : σ) :
    (attemptFrom w d row p left attempt time s).Follow w d row p (left + 1) s := by
  apply attemptFrom_induction (P := fun left _ _ s a => a.Follow w d row p (left + 1) s)
  · intro left attempt time s s' matched h
    refine ⟨?_, ?_, ?_, ?_⟩
    · rw [attemptsMade_of_ok h]
      rfl
    · simp only [attemptsMade_of_ok h, afterAttempts, h]
    · intro matched' hmatched
      rw [matched?_of_ok h, Option.some.injEq] at hmatched
      rw [hmatched]
    · intro hnone
      rw [matched?_of_ok h] at hnone
      cases hnone
  · intro attempt time s s' e h
    refine ⟨?_, ?_, ?_, fun _ => ⟨e, ?_, rfl⟩⟩
    · rw [attemptsMade_of_error h, attemptsMade_zero]
      rfl
    · simp only [attemptsMade_of_error h, attemptsMade_zero, afterAttempts, h]
    · intro matched hmatched
      rw [matched?_of_error h, matched?_zero] at hmatched
      cases hmatched
    · simp [answers, h]
  · -- one more failure in front: all else is as the later attempts have it
    intro left attempt time s s' e h delay later ih
    refine ⟨?_, ?_, ?_, ?_⟩
    · rw [attemptsMade_of_error h, List.replicate_succ, ← ih.rows]
      rfl
    · rw [ih.state, attemptsMade_of_error h]
      simp only [afterAttempts, h]
    · intro matched hmatched
      rw [matched?_of_error h] at hmatched
      exact ih.acknowledged matched hmatched
    · intro hnone
      rw [matched?_of_error h] at hnone
      obtain ⟨last, hlast, hresult⟩ := ih.givenUp hnone
      refine ⟨last, ?_, hresult⟩
      rw [answers, h, List.getLast?_cons, hlast, Option.getD_some]

lemma write_follow (w : Writer σ) (d : Descriptor) (row : Row) (p : RetryPolicy) (time : Nat)
    (s : σ) : (write w d row p time s).Follow w d row p p.attempts.toNat s := by
  have h := attemptFrom_follow w d row p (p.attempts.toNat - 1) 1 time s
  rwa [Nat.sub_add_cancel (one_le_toNat_attempts p)] at h

section

variable {p : RetryPolicy} {n : Nat} {s : σ} {a : Attempts σ}

lemma Attempts.Follow.length_calls (h : a.Follow w d row p n s) :
    a.calls.length = attemptsMade w d row n s := by
  simpa using congrArg List.length h.rows

lemma Attempts.Follow.of_ok (h : a.Follow w d row p n s) {matched : Int}
    (hres : a.result = .ok matched) : matched? w d row n s = some matched := by
  cases hmatched : matched? w d row n s with
  | some matched' =>
    cases hres.symm.trans (h.acknowledged matched' hmatched)
    rfl
  | none =>
    obtain ⟨last, -, hresult⟩ := h.givenUp hmatched
    cases hres.symm.trans hresult

lemma Attempts.Follow.of_error (h : a.Follow w d row p n s) {e : Failure}
    (hres : a.result = .error e) :
    matched? w d row n s = none ∧
      ∃ last, (answers w d row n s).getLast? = some (.error last) ∧ e = gaveUp p.attempts last := by
  cases hmatched : matched? w d row n s with
  | some matched => cases hres.symm.trans (h.acknowledged matched hmatched)
  | none =>
    obtain ⟨last, hlast, hresult⟩ := h.givenUp hmatched
    cases hres.symm.trans hresult
    exact ⟨rfl, last, hlast, rfl⟩

end

/-! ### Turns -/

/-- An item of the source, and the state of the writer when it is its turn. -/
structure Turn (σ : Type) where
  item : Item
  state : σ

namespace Turn

variable (w : Writer σ) (d : Descriptor) (n : Nat)

/-- The state that a turn leaves, with `n` attempts granted. -/
def leave : Turn σ → σ
  | ⟨.error _, s⟩ => s
  | ⟨.ok row, s⟩ => afterAttempts w d row (attemptsMade w d row n s) s

/-- The row of a turn, once for each attempt that is made. -/
def attempted : Turn σ → List Row
  | ⟨.error _, _⟩ => []
  | ⟨.ok row, s⟩ => List.replicate (attemptsMade w d row n s) row

/-- The row of a turn with the number of nodes that it matches, if it is acknowledged. -/
def acknowledged : Turn σ → List (Row × Int)
  | ⟨.error _, _⟩ => []
  | ⟨.ok row, s⟩ => ((matched? w d row n s).map fun matched => (row, matched)).toList

/-- Whether a turn is that of a row which is given up. -/
def isGivenUp : Turn σ → Bool
  | ⟨.error _, _⟩ => false
  | ⟨.ok row, s⟩ => Sync.isGivenUp w d row n s

end Turn

/-- The turns of some items from a state on, when no row stops them: each begins in the state that
the one before it leaves. -/
def turns (w : Writer σ) (d : Descriptor) (n : Nat) : σ → List Item → List (Turn σ)
  | _, [] => []
  | s, item :: items => ⟨item, s⟩ :: turns w d n (Turn.leave w d n ⟨item, s⟩) items

/-- The attempts that a run grants to each row. A dry run grants none. -/
def Options.granted (o : Options) : Nat :=
  if o.dryRun then 0 else o.retry.attempts.toNat

variable {o : Options} {kind : Kind}

lemma Options.granted_of_dryRun (h : o.dryRun = true) : o.granted = 0 := if_pos h

lemma Options.granted_of_writing (h : o.dryRun = false) : o.granted = o.retry.attempts.toNat :=
  if_neg (by simp [h])

/-- What a run does at one turn: the attempts, the acknowledgement and the state that it leaves. -/
lemma StepRule.turn {st : Standing σ} {item : Item} {leg : Leg σ}
    (h : StepRule w o kind st item leg) :
    leg.trace.calls.map Call.row =
        Turn.attempted w kind.descriptor o.granted ⟨item, st.state⟩ ∧
      leg.trace.written = Turn.acknowledged w kind.descriptor o.granted ⟨item, st.state⟩ ∧
      leg.standing.state = Turn.leave w kind.descriptor o.granted ⟨item, st.state⟩ := by
  cases h with
  | unreadable => exact ⟨rfl, rfl, rfl⟩
  | omitted row hdry =>
    -- a dry run grants no attempt, so its turn does nothing
    rw [Options.granted_of_dryRun hdry]
    simp [Turn.attempted, Turn.acknowledged, Turn.leave, afterAttempts]
  | @acknowledged row a matched hdry ha hres =>
    have hfollow := ha ▸ write_follow w kind.descriptor row o.retry st.time st.state
    rw [Options.granted_of_writing hdry]
    refine ⟨hfollow.rows, ?_, hfollow.state⟩
    rw [Turn.acknowledged, hfollow.of_ok hres]
    rfl
  | @aborted row a _ hdry ha hres | @skipped row a _ hdry ha hres =>
    have hfollow := ha ▸ write_follow w kind.descriptor row o.retry st.time st.state
    rw [Options.granted_of_writing hdry]
    refine ⟨hfollow.rows, ?_, hfollow.state⟩
    rw [Turn.acknowledged, (hfollow.of_error hres).1]
    rfl

end Backfill.Sync
