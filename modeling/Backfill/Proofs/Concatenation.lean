import Backfill.Proofs.Attempts
import Backfill.Proofs.Legs

/-!
# Runs over two streams

A run over one stream and then another is the run over the first and, if this returns, the run over
the second from the state that it leaves. The second run goes on where the first one stands: its
counts come on top of the first report, its rows are numbered on, and its attempts are made later by
the time that has passed.
-/

namespace Backfill.Sync

open Source (Item)

variable {σ : Type} {w : Writer σ} {o : Options} {kind : Kind}

/-! ### What came before -/

/-- Two reports taken together. They count rows of one kind, that of the first. -/
def Report.add (a b : Report) : Report :=
  { kind := a.kind
    rowsRead := a.rowsRead + b.rowsRead
    writes := a.writes + b.writes
    nodesUpdated := a.nodesUpdated + b.nodesUpdated
    missing := a.missing + b.missing
    duplicates := a.duplicates + b.duplicates
    skipped := a.skipped ++ b.skipped }

instance : Add Report := ⟨Report.add⟩

namespace Report

lemma add_def (a b : Report) : a + b = a.add b := rfl

lemma add_countRow (a b : Report) : a + b.countRow = (a + b).countRow := rfl

lemma add_countWrite (a b : Report) (matched : Int) :
    a + b.countWrite matched = (a + b).countWrite matched := by
  simp [add_def, Report.add, countWrite, Nat.add_assoc]

lemma add_skip (a b : Report) (row : SkippedRow) : a + b.skip row = (a + b).skip row := by
  simp [add_def, Report.add, skip]

lemma add_empty (a : Report) (kind : Kind) : a + { kind := kind } = a := by
  simp [add_def, Report.add]

end Report

/-- The same attempt, made later. -/
def Call.delay (t : Nat) (c : Call) : Call :=
  { c with time := t + c.time }

/-- The same attempts at a write, made later. -/
def Attempts.delay (t : Nat) (a : Attempts σ) : Attempts σ :=
  { a with time := t + a.time, calls := a.calls.map (Call.delay t) }

/-- The same trace with all its attempts made later. -/
def Trace.delay (t : Nat) (trace : Trace) : Trace :=
  { trace with calls := trace.calls.map (Call.delay t) }

lemma Trace.delay_append (t : Nat) (a b : Trace) : (a ++ b).delay t = a.delay t ++ b.delay t := by
  show Trace.mk _ _ _ = Trace.mk _ _ _
  simp [Trace.delay]

/-- The same error after so many other rows: a row that cannot be read has a higher position. -/
def RunError.raise (n : Nat) : RunError → RunError
  | read kind position fault => read kind (n + position) fault
  | write kind key last => write kind key last

/-- The same standing after a run with the given report, which took the given time. -/
def Standing.after (r : Report) (t : Nat) (st : Standing σ) : Standing σ :=
  ⟨st.state, t + st.time, r + st.report⟩

/-- The same part of a run after a run with the given report, which took the given time. -/
def Leg.after (r : Report) (t : Nat) (leg : Leg σ) : Leg σ :=
  { stop := leg.stop.map (RunError.raise r.rowsRead)
    standing := leg.standing.after r t
    trace := leg.trace.delay t }

/-! ### One item later -/

lemma attemptFrom_delay (w : Writer σ) (d : Descriptor) (row : Row) (p : RetryPolicy) (left : Nat)
    (attempt : UInt32) (t time : Nat) (s : σ) :
    attemptFrom w d row p left attempt (t + time) s =
      (attemptFrom w d row p left attempt time s).delay t := by
  apply attemptFrom_induction (P := fun left attempt time s a =>
    attemptFrom w d row p left attempt (t + time) s = a.delay t)
  · intro left attempt time s s' matched h
    rw [attemptFrom_of_ok h]
    rfl
  · intro attempt time s s' e h
    rw [attemptFrom_of_last h]
    rfl
  · intro left attempt time s s' e h delay later ih
    -- the pause is the same, so what follows is later by the same time
    have hlater :
        attemptFrom w d row p left (attempt + 1) (t + time + pause (p.backoff attempt)) s' =
          later.delay t := by
      rw [Nat.add_assoc]
      exact ih
    simp only [attemptFrom_of_retry h, hlater]
    rfl

lemma write_delay (w : Writer σ) (d : Descriptor) (row : Row) (p : RetryPolicy) (t time : Nat)
    (s : σ) : write w d row p (t + time) s = (write w d row p time s).delay t :=
  attemptFrom_delay w d row p _ 1 t time s

lemma step_after (w : Writer σ) (o : Options) (kind : Kind) (r : Report) (t : Nat)
    (st : Standing σ) (item : Item) :
    step w o kind (st.after r t) item = (step w o kind st item).after r t := by
  cases item with
  | error fault => rfl
  | ok row =>
    simp only [step, rowLeg, Standing.after, write_delay, ← Report.add_countRow]
    cases o.dryRun with
    | true => rfl
    | false =>
      cases hres : (write w kind.descriptor row o.retry st.time st.state).result with
      | ok matched =>
        simp [Attempts.delay, hres, Leg.after, Standing.after, Trace.delay, Report.add_countWrite]
      | error last =>
        cases hmode : o.failureMode with
        | abort =>
          simp [Attempts.delay, hres, Leg.after, Standing.after, Trace.delay, RunError.raise]
        | skip =>
          simp [Attempts.delay, hres, Leg.after, Standing.after, Trace.delay, Report.add_skip]

/-! ### All items later -/

/-- A run that begins after another one does what it would have done at first, with the counts, the
positions and the times raised. -/
lemma steps_after (w : Writer σ) (o : Options) (kind : Kind) (r : Report) (t : Nat)
    (st : Standing σ) (items : List Item) :
    steps w o kind (st.after r t) items = (steps w o kind st items).after r t := by
  induction items generalizing st with
  | nil => rfl
  | cons item items ih =>
    have hstep := step_after w o kind r t st item
    cases hstop : (step w o kind st item).stop with
    | some e =>
      rw [steps_cons_of_stop items hstop]
      -- a stop stays a stop, with the position in its error raised
      have hstop' : (step w o kind (st.after r t) item).stop = some (e.raise r.rowsRead) := by
        rw [hstep, Leg.after, hstop, Option.map_some]
      rw [steps_cons_of_stop items hstop', hstep]
    | none =>
      rw [steps_cons_of_none items hstop]
      have hstop' : (step w o kind (st.after r t) item).stop = none := by
        rw [hstep, Leg.after, hstop, Option.map_none]
      have hlater := ih (step w o kind st item).standing
      rw [steps_cons_of_none items hstop', hstep]
      simp only [Leg.after, hlater, Trace.delay_append]

lemma steps_append_of_stop {st : Standing σ} {xs : List Item} {e : RunError}
    (h : (steps w o kind st xs).stop = some e) (ys : List Item) :
    steps w o kind st (xs ++ ys) = steps w o kind st xs := by
  induction xs generalizing st with
  | nil => cases h
  | cons item xs ih =>
    rw [List.cons_append]
    cases hstop : (step w o kind st item).stop with
    | some e' => rw [steps_cons_of_stop _ hstop, steps_cons_of_stop _ hstop]
    | none =>
      rw [steps_cons_of_none _ hstop] at h
      rw [steps_cons_of_none _ hstop, steps_cons_of_none _ hstop, ih h]

lemma steps_append_of_none {st : Standing σ} {xs : List Item}
    (h : (steps w o kind st xs).stop = none) (ys : List Item) :
    steps w o kind st (xs ++ ys) =
      let later := steps w o kind (steps w o kind st xs).standing ys
      { later with trace := (steps w o kind st xs).trace ++ later.trace } := by
  induction xs generalizing st with
  | nil => rfl
  | cons item xs ih =>
    rw [List.cons_append]
    cases hstop : (step w o kind st item).stop with
    | some e =>
      rw [steps_cons_of_stop _ hstop, hstop] at h
      cases h
    | none =>
      rw [steps_cons_of_none _ hstop] at h
      rw [steps_cons_of_none _ hstop, steps_cons_of_none _ hstop, ih h]
      simp only [Trace.append_assoc]

/-! ### The time that has passed -/

lemma attemptFrom_last_call (w : Writer σ) (d : Descriptor) (row : Row) (p : RetryPolicy)
    (left : Nat) (attempt : UInt32) (time : Nat) (s : σ) :
    let a := attemptFrom w d row p left attempt time s
    a.calls.getLast? = some ⟨a.time, row⟩ := by
  apply attemptFrom_induction (P := fun _ _ _ _ a => a.calls.getLast? = some ⟨a.time, row⟩)
  · intro left attempt time s s' matched h
    rfl
  · intro attempt time s s' e h
    rfl
  · intro left attempt time s s' e h delay later ih
    simp only [List.getLast?_cons, ih, Option.getD_some]

/-- The time of the last attempt, or the given time if there was none. -/
def Trace.endTime (trace : Trace) (start : Nat) : Nat :=
  (trace.calls.getLast?.map Call.time).getD start

lemma Trace.endTime_append (a b : Trace) (start : Nat) :
    (a ++ b).endTime start = b.endTime (a.endTime start) := by
  unfold Trace.endTime
  rw [Trace.calls_append, List.getLast?_append]
  cases b.calls.getLast? <;> rfl

lemma StepRule.time {st : Standing σ} {item : Item} {leg : Leg σ}
    (h : StepRule w o kind st item leg) : leg.standing.time = leg.trace.endTime st.time := by
  cases h with
  | unreadable => rfl
  | omitted => rfl
  | acknowledged _ ha | aborted _ ha | skipped _ ha =>
    subst ha
    simp only [Trace.endTime, write, attemptFrom_last_call, Option.map_some, Option.getD_some]

/-- A run stands at the time of its last attempt. -/
lemma steps_time (st : Standing σ) (items : List Item) :
    (steps w o kind st items).standing.time = (steps w o kind st items).trace.endTime st.time := by
  apply steps_induction (P := fun st _ leg => leg.standing.time = leg.trace.endTime st.time)
  · intro st
    rfl
  · intro st item items leg e hrule _
    exact hrule.time
  · intro st item items leg hrule _ later ih
    rw [Trace.endTime_append, ← hrule.time]
    exact ih

/-! ### Two runs as one -/

/-- After a run that returns, the run goes on like a new one from the state that was left, with the
report and the time on top. -/
lemma steps_append_start {s : σ} {xs : List Item}
    (h : (steps w o kind (.start kind s) xs).stop = none) (ys : List Item) :
    let first := steps w o kind (.start kind s) xs
    let later := (steps w o kind (.start kind first.standing.state) ys).after first.standing.report
      (first.trace.endTime 0)
    steps w o kind (.start kind s) (xs ++ ys) =
      { later with trace := first.trace ++ later.trace } := by
  intro first later
  have htime : first.trace.endTime 0 = first.standing.time := (steps_time (.start kind s) xs).symm
  -- where the first run ends is a fresh start, seen after its report and its time
  have hstart : (Standing.start kind first.standing.state).after first.standing.report
      (first.trace.endTime 0) = first.standing := by
    simp only [Standing.after, Standing.start, Report.add_empty, Nat.add_zero, htime]
  have hlater : steps w o kind first.standing ys = later := by
    rw [← hstart, steps_after]
  rw [steps_append_of_none h]
  simp only [first, hlater]

/-- Runs compose over streams, for any writer. A run that stops does not see what follows. A run
that returns is followed by the run over the other stream from the state that it leaves: the
attempts of both are made, those of the second later by the time that the first took, the
acknowledged rows are those of both, and the state is that of the second. If the second returns as
well, the reports are added up; if a write stops it, the error is the same; and if a row cannot be
read, its position is raised by the rows of the first. -/
theorem run_append (w : Writer σ) (o : Options) (kind : Kind) (s : σ) (xs ys : List Item) :
    let first := run w o kind s xs
    let second := run w o kind first.state ys
    let both := run w o kind s (xs ++ ys)
    (∀ e, first.result = .error e → both = first) ∧
      ∀ r₁, first.result = .ok r₁ →
        both.trace.calls =
            first.trace.calls ++ second.trace.calls.map (Call.delay (first.trace.endTime 0)) ∧
          both.trace.written = first.trace.written ++ second.trace.written ∧
          both.state = second.state ∧
          (∀ r₂, second.result = .ok r₂ → both.result = .ok (r₁ + r₂)) ∧
          (∀ k key last, second.result = .error (.write k key last) →
            both.result = .error (.write k key last)) ∧
          ∀ k position fault, second.result = .error (.read k position fault) →
            both.result = .error (.read k (r₁.rowsRead + position) fault) := by
  intro first second both
  refine ⟨?_, ?_⟩
  · intro e herror
    have hstop := (run_result_eq_error_iff w o kind s xs e).mp herror
    simp only [both, first, run, steps_append_of_stop hstop ys]
  · intro r₁ hok
    obtain ⟨hstop, rfl⟩ := (run_result_eq_ok_iff w o kind s xs r₁).mp hok
    have hboth := steps_append_start hstop ys
    have hsecond : second = run w o kind (steps w o kind (.start kind s) xs).standing.state ys := by
      simp only [second, first, run_state]
    simp only [hsecond, both, first, Trace.endTime, run_calls, run_written, run_state,
      run_result_eq_ok_iff, run_result_eq_error_iff, hboth]
    refine ⟨rfl, rfl, rfl, ?_, ?_, ?_⟩
    · rintro r₂ ⟨hstop₂, rfl⟩
      simp [Leg.after, hstop₂, Standing.after]
    · intro k key last hstop₂
      simp [Leg.after, hstop₂, RunError.raise]
    · intro k position fault hstop₂
      simp [Leg.after, hstop₂, RunError.raise]

end Backfill.Sync
