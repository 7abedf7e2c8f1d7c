import Backfill.Proofs.Stops

/-!
# Dry runs

A dry run reads the stream and does nothing else, so it ends in the same way for every writer. What
it finds is what a run that skips failing rows finds: both stop at the first row that cannot be
read, and else they have read all rows.
-/

namespace Backfill.Sync

open Source (Item)

variable {σ : Type} {w : Writer σ} {o : Options} {kind : Kind}

/-! ### Reading a stream -/

/-- What reading a stream comes to after `n` rows: the number of rows at its end, or the first row
that cannot be read. -/
def reading (kind : Kind) : Nat → List Item → Except RunError Nat
  | n, [] => .ok n
  | n, .error fault :: _ => .error (.read kind (n + 1) fault)
  | n, .ok _ :: items => reading kind (n + 1) items

/-- A stream is read to its end if all of it can be read, and then all of it is counted. -/
lemma reading_eq_ok_iff {n m : Nat} {items : List Item} :
    reading kind n items = .ok m ↔
      (∀ fault, Except.error fault ∉ items) ∧ m = n + items.length := by
  induction items generalizing n with
  | nil => simp [reading, eq_comm]
  | cons item items ih =>
    cases item with
    | error fault =>
      simp only [reading, reduceCtorEq, false_iff, not_and]
      intro h
      exact absurd List.mem_cons_self (h fault)
    | ok row =>
      rw [reading, ih, List.length_cons, Nat.add_right_comm, Nat.add_assoc]
      simp

/-- A run that does not stop at rows that are given up ends as reading its stream does. -/
lemma steps_reading (ho : ¬ o.StopsAtFailure) (w : Writer σ) (kind : Kind) (st : Standing σ)
    (items : List Item) :
    let leg := steps w o kind st items
    reading kind st.report.rowsRead items =
      leg.stop.elim (.ok leg.standing.report.rowsRead) .error := by
  apply steps_induction (P := fun st items leg => reading kind st.report.rowsRead items =
    leg.stop.elim (.ok leg.standing.report.rowsRead) .error)
  · intro st
    rfl
  · intro st item items leg e hrule hstop
    rcases hrule.stop_cases with ⟨fault, rfl, h⟩ | ⟨_, _, _, habsurd, _⟩ | ⟨_, _, _, h, _⟩
    · rw [h]
      rfl
    · -- rows that are given up do not stop such a run, so only a fault does
      exact absurd habsurd ho
    · cases hstop.symm.trans h
  · intro st item items leg hrule hstop later ih
    rcases hrule.stop_cases with ⟨_, _, h⟩ | ⟨_, _, _, habsurd, _⟩ | ⟨row, rfl, _, _, hread⟩
    · cases hstop.symm.trans h
    · exact absurd habsurd ho
    · rw [reading, ← hread]
      exact ih

lemma run_reading (ho : ¬ o.StopsAtFailure) (w : Writer σ) (kind : Kind) (s : σ)
    (items : List Item) :
    (run w o kind s items).result.map Report.rowsRead = reading kind 0 items := by
  have h := steps_reading ho w kind (.start kind s) items
  rw [show (Standing.start kind s).report.rowsRead = 0 from rfl] at h
  rw [h]
  cases hstop : (steps w o kind (.start kind s) items).stop with
  | none =>
    rw [(run_result_eq_ok_iff w o kind s items _).mpr ⟨hstop, rfl⟩]
    rfl
  | some e =>
    rw [(run_result_eq_error_iff w o kind s items e).mpr hstop]
    rfl

/-! ### Doing nothing else -/

/-- What a dry run leaves as it was: everything but the number of rows read. -/
structure Leg.OnlyReads (st : Standing σ) (leg : Leg σ) : Prop where
  calls : leg.trace.calls = []
  written : leg.trace.written = []
  state : leg.standing.state = st.state
  report : leg.standing.report = { st.report with rowsRead := leg.standing.report.rowsRead }

lemma StepRule.onlyReads {st : Standing σ} {item : Item} {leg : Leg σ}
    (h : StepRule w o kind st item leg) (hdry : o.dryRun = true) : leg.OnlyReads st := by
  cases h with
  | unreadable | omitted => exact ⟨rfl, rfl, rfl, rfl⟩
  | acknowledged h | aborted h | skipped h => cases hdry.symm.trans h

lemma steps_onlyReads (hdry : o.dryRun = true) (w : Writer σ) (kind : Kind) (st : Standing σ)
    (items : List Item) :
    (steps w o kind st items).OnlyReads st := by
  apply steps_induction (P := fun st _ leg => leg.OnlyReads st)
  · intro st
    exact ⟨rfl, rfl, rfl, rfl⟩
  · intro st item items leg e hrule _
    exact hrule.onlyReads hdry
  · intro st item items leg hrule _ later ih
    have hleg := hrule.onlyReads hdry
    constructor
    · rw [Trace.calls_append, hleg.calls, ih.calls]
      rfl
    · rw [Trace.written_append, hleg.written, ih.written]
      rfl
    · rw [ih.state, hleg.state]
    · rw [ih.report, hleg.report]

lemma run_result_of_dryRun (hdry : o.dryRun = true) (w : Writer σ) (kind : Kind) (s : σ)
    (items : List Item) :
    (run w o kind s items).result =
      (reading kind 0 items).map fun n => { kind := kind, rowsRead := n } := by
  have ho : ¬ o.StopsAtFailure := fun h => by cases hdry.symm.trans h.1
  rw [← run_reading ho w kind s]
  cases hres : (run w o kind s items).result with
  | error e => rfl
  | ok report =>
    obtain ⟨-, rfl⟩ := (run_result_eq_ok_iff w o kind s items report).mp hres
    exact congrArg _ (steps_onlyReads hdry w kind (.start kind s) items).report

/-- A dry run returns if and only if every row can be read, and then it has counted them. -/
lemma run_eq_ok_iff_of_dryRun (hdry : o.dryRun = true) (w : Writer σ) (kind : Kind) (s : σ)
    (items : List Item) (report : Report) :
    (run w o kind s items).result = .ok report ↔
      (∀ fault, Except.error fault ∉ items) ∧
        report = { kind := kind, rowsRead := items.length } := by
  rw [run_result_of_dryRun hdry]
  cases hreading : reading kind 0 items with
  | error e =>
    simp only [Except.map, reduceCtorEq, false_iff, not_and]
    intro h
    cases hreading.symm.trans (reading_eq_ok_iff.mpr ⟨h, rfl⟩)
  | ok n =>
    obtain ⟨h, rfl⟩ := reading_eq_ok_iff.mp hreading
    simp [Except.map, h, eq_comm]

/-- A dry run, for any writer. It makes no attempt, has nothing acknowledged, leaves the state as it
was and gives a result that does not depend on the writer and its state. It returns if and only if
every row can be read, and then its report counts the rows and nothing else. A run over the same
stream that writes and skips failing rows, from any state of any writer and with any policy, returns
if and only if the dry run does, with the same number of rows read, and else has the same error. -/
theorem dry_run_only_reads (w : Writer σ) (s : σ) (kind : Kind) (retry : RetryPolicy)
    (mode : FailureMode) (items : List Item) :
    let o : Options := { retry := retry, failureMode := mode, dryRun := true }
    let dry := run w o kind s items
    dry.trace.calls = [] ∧ dry.trace.written = [] ∧ dry.state = s ∧
      (∀ (τ : Type) (w' : Writer τ) (s' : τ), (run w' o kind s' items).result = dry.result) ∧
      ((∃ report, dry.result = .ok report) ↔ ∀ fault, Except.error fault ∉ items) ∧
      (∀ report, dry.result = .ok report → report = { kind := kind, rowsRead := items.length }) ∧
      ∀ (τ : Type) (w' : Writer τ) (s' : τ) (retry' : RetryPolicy),
        let o' : Options := { retry := retry', failureMode := .skip, dryRun := false }
        let skipping := run w' o' kind s' items
        ((∃ report, skipping.result = .ok report) ↔ ∃ report, dry.result = .ok report) ∧
          (∀ r r', skipping.result = .ok r → dry.result = .ok r' → r.rowsRead = r'.rowsRead) ∧
          ∀ e, skipping.result = .error e ↔ dry.result = .error e := by
  intro o dry
  have ho : o.dryRun = true := rfl
  have hreads := steps_onlyReads ho w kind (.start kind s) items
  have hresult : dry.result = _ := run_result_of_dryRun ho w kind s items
  have hok := run_eq_ok_iff_of_dryRun ho w kind s items
  refine ⟨?_, ?_, ?_, ?_, ?_, ?_, ?_⟩
  · exact (run_calls w o kind s items).trans hreads.calls
  · exact (run_written w o kind s items).trans hreads.written
  · exact (run_state w o kind s items).trans hreads.state
  · intro τ w' s'
    rw [hresult]
    exact run_result_of_dryRun ho w' kind s' items
  · simp only [dry, hok]
    exact ⟨fun ⟨_, h, _⟩ => h, fun h => ⟨_, h, rfl⟩⟩
  · intro report h
    exact ((hok report).mp h).2
  · intro τ w' s' retry' o' skipping
    -- how a run that skips ends is told by its reading alone, which is that of the dry run
    have hskip : skipping.result.map Report.rowsRead = reading kind 0 items :=
      run_reading (o := o') (by simp [o', Options.StopsAtFailure]) w' kind s' items
    rw [hresult, ← hskip]
    cases skipping.result <;> simp [Except.map]

end Backfill.Sync
