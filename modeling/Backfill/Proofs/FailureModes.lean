import Backfill.Proofs.Attempts
import Backfill.Proofs.Legs

/-!
# The two failure modes

A run that stops at the first row whose write fails to the last attempt and a run that skips such
rows are one and the same up to this row. If there is none, they are the same to their end.
-/

namespace Backfill.Sync

open Source (Item)

variable {σ : Type} {w : Writer σ} {kind : Kind} {retry : RetryPolicy}

/-- Whether a run was stopped by a fault of reading. -/
def RunError.IsRead (e : RunError) : Prop :=
  ∃ kind position fault, e = .read kind position fault

/-- Parts of two runs from one standing, the first of which stops where the second skips a row.
They are the same, with no row skipped, or the first stops at a row that is the first to be skipped
by the second. -/
inductive GoTogether (kind : Kind) (st : Standing σ) : Leg σ → Leg σ → Prop
  | same {leg : Leg σ} (hskipped : leg.standing.report.skipped = st.report.skipped)
      (hread : ∀ e, leg.stop = some e → e.IsRead) : GoTogether kind st leg leg
  | apart {a b : Leg σ} {key : Key} {last : Failure} (hstop : a.stop = some (.write kind key last))
      (hlast : ∃ call, a.trace.calls.getLast? = some call ∧ call.row.key = key)
      (hcalls : a.trace.calls <+: b.trace.calls) (hwritten : a.trace.written <+: b.trace.written)
      (hskipped : st.report.skipped ++ [⟨key, (writeFailure kind.descriptor key last).inline⟩] <+:
        b.standing.report.skipped)
      (hread : ∀ e, b.stop = some e → e.IsRead) : GoTogether kind st a b

/-- What both runs have done before does not part them. -/
lemma GoTogether.after {st : Standing σ} {leg a b : Leg σ} (h : GoTogether kind leg.standing a b)
    (hskipped : leg.standing.report.skipped = st.report.skipped) :
    GoTogether kind st { a with trace := leg.trace ++ a.trace }
      { b with trace := leg.trace ++ b.trace } := by
  cases h with
  | same h hread => exact .same (h.trans hskipped) hread
  | apart hstop hlast hcalls hwritten hprefix hread =>
    obtain ⟨call, hcall, hkey⟩ := hlast
    refine .apart hstop ⟨call, ?_, hkey⟩ ?_ ?_ (hskipped ▸ hprefix) hread
    · rw [Trace.calls_append, List.getLast?_append, hcall, Option.some_or]
    · exact (List.prefix_append_right_inj _).mpr hcalls
    · exact (List.prefix_append_right_inj _).mpr hwritten

/-- A run that skips rows is stopped by nothing but a fault of reading. -/
lemma isRead_of_skip {o : Options} (hmode : o.failureMode = .skip) (st : Standing σ)
    (items : List Item) : ∀ e, (steps w o kind st items).stop = some e → e.IsRead := by
  apply steps_induction (P := fun _ _ leg => ∀ e, leg.stop = some e → e.IsRead)
  · intro st e h
    cases h
  · intro st item items leg e hrule hstop e' he'
    cases hrule with
    | unreadable fault =>
      cases he'
      exact ⟨_, _, _, rfl⟩
    | aborted _ _ _ habort => cases hmode.symm.trans habort
    | omitted | acknowledged | skipped => cases hstop
  · intro st item items leg _ _ later ih
    exact ih

section

variable {st : Standing σ} {row : Row}

lemma step_of_acknowledged {matched : Int}
    (h : (write w kind.descriptor row retry st.time st.state).result = .ok matched) :
    step w { retry := retry, failureMode := .abort } kind st (.ok row) =
        step w { retry := retry, failureMode := .skip } kind st (.ok row) ∧
      (step w { retry := retry, failureMode := .skip } kind st (.ok row)).stop = none ∧
      (step w { retry := retry, failureMode := .skip } kind st (.ok row)).standing.report.skipped =
        st.report.skipped := by
  simp [step, rowLeg, h, Report.countRow, Report.countWrite]

lemma step_abort_of_failed {last : Failure}
    (h : (write w kind.descriptor row retry st.time st.state).result = .error last) :
    (step w { retry := retry, failureMode := .abort } kind st (.ok row)).stop =
        some (.write kind row.key last) ∧
      (step w { retry := retry, failureMode := .abort } kind st (.ok row)).trace.calls =
        (write w kind.descriptor row retry st.time st.state).calls ∧
      (step w { retry := retry, failureMode := .abort } kind st (.ok row)).trace.written = [] := by
  simp [step, rowLeg, h]

lemma step_skip_of_failed {last : Failure}
    (h : (write w kind.descriptor row retry st.time st.state).result = .error last) :
    (step w { retry := retry, failureMode := .skip } kind st (.ok row)).stop = none ∧
      (step w { retry := retry, failureMode := .skip } kind st (.ok row)).trace.calls =
        (write w kind.descriptor row retry st.time st.state).calls ∧
      (step w { retry := retry, failureMode := .skip } kind st (.ok row)).standing.report.skipped =
        st.report.skipped ++ [⟨row.key, (writeFailure kind.descriptor row.key last).inline⟩] := by
  simp [step, rowLeg, h, Report.countRow, Report.skip]

end

/-- The two runs, row by row. -/
lemma steps_goTogether (w : Writer σ) (kind : Kind) (retry : RetryPolicy) (st : Standing σ)
    (items : List Item) :
    GoTogether kind st (steps w { retry := retry, failureMode := .abort } kind st items)
      (steps w { retry := retry, failureMode := .skip } kind st items) := by
  induction items generalizing st with
  | nil => exact .same rfl (by simp)
  | cons item items ih =>
    cases item with
    | error fault => exact .same rfl fun e he => ⟨_, _, _, (Option.some.inj he).symm⟩
    | ok row =>
      cases hres : (write w kind.descriptor row retry st.time st.state).result with
      | ok matched =>
        obtain ⟨hsame, hstop, hskipped⟩ := step_of_acknowledged hres
        rw [steps_cons_of_none items hstop, steps_cons_of_none items (hsame ▸ hstop), hsame]
        exact (ih _).after hskipped
      | error last =>
        -- here the runs part: one stops, and what the other does later comes on top
        obtain ⟨hstopA, hcallsA, hwrittenA⟩ := step_abort_of_failed hres
        obtain ⟨hstopB, hcallsB, hskippedB⟩ := step_skip_of_failed hres
        rw [steps_cons_of_stop items hstopA, steps_cons_of_none items hstopB]
        refine .apart hstopA ?_ ?_ ?_ ?_ ?_
        · obtain ⟨times, hne, hcalls⟩ :=
            write_calls w kind.descriptor row retry st.time st.state
          refine ⟨⟨times.getLast hne, row⟩, ?_, rfl⟩
          rw [hcallsA, hcalls, List.getLast?_map, List.getLast?_eq_some_getLast hne,
            Option.map_some]
        · rw [hcallsA, Trace.calls_append, hcallsB]
          exact List.prefix_append _ _
        · rw [hwrittenA]
          exact List.nil_prefix
        · rw [← hskippedB]
          exact skipped_prefix _ items
        · exact isRead_of_skip rfl _ items

/-- The two runs as wholes: they are the same, or the first stops at the row that the second is the
first to skip. -/
lemma runs_goTogether (w : Writer σ) (s : σ) (kind : Kind) (retry : RetryPolicy)
    (items : List Item) :
    let a := run w { retry := retry, failureMode := .abort } kind s items
    let b := run w { retry := retry, failureMode := .skip } kind s items
    (a = b ∧ (∀ report, b.result = .ok report → report.skipped = []) ∧
        ∀ e, a.result = .error e → e.IsRead) ∨
      ∃ key last, a.result = .error (.write kind key last) ∧
        (∃ call, a.trace.calls.getLast? = some call ∧ call.row.key = key) ∧
        a.trace.calls <+: b.trace.calls ∧ a.trace.written <+: b.trace.written ∧
        (∀ report, b.result = .ok report →
          [⟨key, (writeFailure kind.descriptor key last).inline⟩] <+: report.skipped) ∧
        ∀ e, b.result = .error e → e.IsRead := by
  have htogether := steps_goTogether w kind retry (.start kind s) items
  simp only [run_result_eq_ok_iff, run_result_eq_error_iff, run_calls, run_written]
  generalize ha : steps w { retry := retry, failureMode := .abort } kind (.start kind s) items = a
    at htogether ⊢
  generalize hb : steps w { retry := retry, failureMode := .skip } kind (.start kind s) items = b
    at htogether ⊢
  cases htogether with
  | same hskipped hread =>
    refine Or.inl ⟨?_, ?_, hread⟩
    · simp only [run, ha, hb]
    · rintro report ⟨-, rfl⟩
      exact hskipped
  | apart hstop hlast hcalls hwritten hskipped hread =>
    refine Or.inr ⟨_, _, hstop, hlast, hcalls, hwritten, ?_, hread⟩
    rintro report ⟨-, rfl⟩
    exact hskipped

/-- The run that stops and the run that skips, for any writer. One returns if and only if the other
returns with no row skipped, and then they are the same. If the first stops at a row whose write
failed, its attempts and acknowledged rows begin those of the second, which skips this row first,
with the same failure, or is stopped by a fault of reading before it can report. If the first stops
at a fault of reading, they are the same again. -/
theorem abort_skip_agree (w : Writer σ) (s : σ) (kind : Kind) (retry : RetryPolicy)
    (items : List Item) :
    let aborting := run w { retry := retry, failureMode := .abort } kind s items
    let skipping := run w { retry := retry, failureMode := .skip } kind s items
    ((∃ report, aborting.result = .ok report) ↔
        ∃ report, skipping.result = .ok report ∧ report.skipped = []) ∧
      (∀ report, aborting.result = .ok report → aborting = skipping) ∧
      (∀ k key last, aborting.result = .error (.write k key last) →
        (∃ call, aborting.trace.calls.getLast? = some call ∧ call.row.key = key) ∧
        aborting.trace.calls <+: skipping.trace.calls ∧
        aborting.trace.written <+: skipping.trace.written ∧
        (∀ report, skipping.result = .ok report → report.skipped.head? =
          some ⟨key, ": ".intercalate (RunError.write k key last).failure.chain⟩) ∧
        ∀ e, skipping.result = .error e → ∃ k position fault, e = .read k position fault) ∧
      ∀ k position fault, aborting.result = .error (.read k position fault) →
        aborting = skipping := by
  intro aborting skipping
  rcases runs_goTogether w s kind retry items with
    ⟨hsame, hskipped, hread⟩ | ⟨key, last, hstop, hlast, hcalls, hwritten, hskipped, hread⟩
  · -- no row is given up, and the modes make no difference
    have hresult : aborting.result = skipping.result := congrArg Outcome.result hsame
    refine ⟨⟨?_, ?_⟩, fun _ _ => hsame, ?_, fun _ _ _ _ => hsame⟩
    · rintro ⟨report, hok⟩
      rw [hresult] at hok
      exact ⟨report, hok, hskipped report hok⟩
    · rintro ⟨report, hok, -⟩
      exact ⟨report, hresult.trans hok⟩
    · intro k key last herror
      obtain ⟨_, _, _, h⟩ := hread _ herror
      cases h
  · -- one run stops at the row that the other skips first
    refine ⟨⟨?_, ?_⟩, ?_, ?_, ?_⟩
    · rintro ⟨report, hok⟩
      cases hok.symm.trans hstop
    · rintro ⟨report, hok, hempty⟩
      have hprefix := hskipped report hok
      simp [hempty] at hprefix
    · intro report hok
      cases hok.symm.trans hstop
    · intro k key' last' herror
      cases herror.symm.trans hstop
      refine ⟨hlast, hcalls, hwritten, ?_, hread⟩
      intro report hok
      obtain ⟨later, hlater⟩ := hskipped report hok
      rw [← hlater]
      rfl
    · intro k position fault herror
      cases herror.symm.trans hstop

end Backfill.Sync
