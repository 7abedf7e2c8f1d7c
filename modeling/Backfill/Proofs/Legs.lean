import Mathlib.Data.List.Basic
import Backfill.Sync.Run

/-!
# Runs, item by item

`StepRule` lists all that a run can do with one item of the source, and `steps_induction` is the
induction over the items of a run. For any writer, the acknowledged rows are rows of the source in
their order, and a run that stops at nothing and skips nothing has every row acknowledged.
-/

namespace Backfill.Sync

open Source (Item)

variable {σ : Type} {w : Writer σ} {o : Options} {kind : Kind}

/-! ### One item -/

/-- The ways in which a run deals with one item. -/
inductive StepRule (w : Writer σ) (o : Options) (kind : Kind) (st : Standing σ) :
    Item → Leg σ → Prop
  | unreadable (fault : Source.Fault) :
      StepRule w o kind st (.error fault)
        { stop := some (.read kind (st.report.rowsRead + 1) fault), standing := st }
  | omitted (row : Row) (hdry : o.dryRun = true) :
      StepRule w o kind st (.ok row)
        { standing := { st with report := st.report.countRow }
          trace := { events := [.writeOmitted row] } }
  | acknowledged {row : Row} {a : Attempts σ} {matched : Int} (hdry : o.dryRun = false)
      (ha : write w kind.descriptor row o.retry st.time st.state = a)
      (hres : a.result = .ok matched) :
      StepRule w o kind st (.ok row)
        { standing := ⟨a.state, a.time, st.report.countRow.countWrite matched⟩
          trace := ⟨a.calls, [(row, matched)],
            a.events ++ [matchEvent kind.descriptor row.key matched]⟩ }
  | aborted {row : Row} {a : Attempts σ} {last : Failure} (hdry : o.dryRun = false)
      (ha : write w kind.descriptor row o.retry st.time st.state = a)
      (hres : a.result = .error last) (hmode : o.failureMode = .abort) :
      StepRule w o kind st (.ok row)
        { stop := some (.write kind row.key last)
          standing := ⟨a.state, a.time, st.report.countRow⟩
          trace := ⟨a.calls, [], a.events⟩ }
  | skipped {row : Row} {a : Attempts σ} {last : Failure} (hdry : o.dryRun = false)
      (ha : write w kind.descriptor row o.retry st.time st.state = a)
      (hres : a.result = .error last) (hmode : o.failureMode = .skip) :
      StepRule w o kind st (.ok row)
        { standing := ⟨a.state, a.time, st.report.countRow.skip
            ⟨row.key, (writeFailure kind.descriptor row.key last).inline⟩⟩
          trace := ⟨a.calls, [], a.events ++
            [.rowSkipped ⟨row.key, (writeFailure kind.descriptor row.key last).inline⟩]⟩ }

lemma StepRule.of_step (w : Writer σ) (o : Options) (kind : Kind) (st : Standing σ) (item : Item) :
    StepRule w o kind st item (step w o kind st item) := by
  cases item with
  | error fault => exact .unreadable fault
  | ok row =>
    simp only [step, rowLeg]
    cases hdry : o.dryRun with
    | true => exact .omitted row hdry
    | false =>
      cases hres : (write w kind.descriptor row o.retry st.time st.state).result with
      | ok matched => exact .acknowledged hdry rfl hres
      | error last =>
        cases hmode : o.failureMode with
        | abort => exact .aborted hdry rfl hres hmode
        | skip => exact .skipped hdry rfl hres hmode

/-! ### All items -/

/-- Induction over a run: it is at its end, or an item stops it, or it goes on after an item. -/
lemma steps_induction {P : Standing σ → List Item → Leg σ → Prop}
    (nil : ∀ st, P st [] { standing := st })
    (stop : ∀ st item items leg e, StepRule w o kind st item leg → leg.stop = some e →
      P st (item :: items) leg)
    (cons : ∀ st item items leg, StepRule w o kind st item leg → leg.stop = none →
      let later := steps w o kind leg.standing items
      P leg.standing items later →
      P st (item :: items) { later with trace := leg.trace ++ later.trace })
    (st : Standing σ) (items : List Item) : P st items (steps w o kind st items) := by
  induction items generalizing st with
  | nil => exact nil st
  | cons item items ih =>
    have hrule := StepRule.of_step w o kind st item
    cases h : (step w o kind st item).stop with
    | some e =>
      rw [steps_cons_of_stop items h]
      exact stop st item items _ e hrule h
    | none =>
      rw [steps_cons_of_none items h]
      exact cons st item items _ hrule h (ih _)

/-! ### The whole run -/

section

variable (w : Writer σ) (o : Options) (kind : Kind) (s : σ) (items : List Item)

lemma run_state :
    (run w o kind s items).state = (steps w o kind (.start kind s) items).standing.state := by
  simp only [run]
  split <;> rfl

lemma run_written :
    (run w o kind s items).trace.written =
      (steps w o kind (.start kind s) items).trace.written := by
  simp only [run]
  split <;> simp

lemma run_calls :
    (run w o kind s items).trace.calls = (steps w o kind (.start kind s) items).trace.calls := by
  simp only [run]
  split <;> simp

lemma run_result_eq_error_iff (e : RunError) :
    (run w o kind s items).result = .error e ↔
      (steps w o kind (.start kind s) items).stop = some e := by
  simp only [run]
  split <;> simp_all

lemma run_result_eq_ok_iff (report : Report) :
    (run w o kind s items).result = .ok report ↔
      (steps w o kind (.start kind s) items).stop = none ∧
        (steps w o kind (.start kind s) items).standing.report = report := by
  simp only [run]
  split <;> simp_all

end

/-! ### Acknowledged rows -/

lemma StepRule.written_sublist {st : Standing σ} {item : Item} {leg : Leg σ}
    (h : StepRule w o kind st item leg) :
    (leg.trace.written.map Prod.fst).Sublist ([item].filterMap Except.toOption) := by
  cases h <;> simp [Except.toOption]

/-- The acknowledged rows are rows of the source, in their order. -/
lemma written_sublist (st : Standing σ) (items : List Item) :
    ((steps w o kind st items).trace.written.map Prod.fst).Sublist
      (items.filterMap Except.toOption) := by
  apply steps_induction (P := fun _ items leg =>
    (leg.trace.written.map Prod.fst).Sublist (items.filterMap Except.toOption))
  · intro st
    simp
  · intro st item items leg e hrule _
    rw [← List.singleton_append, List.filterMap_append]
    exact hrule.written_sublist.trans (List.sublist_append_left _ _)
  · intro st item items leg hrule _ later ih
    rw [Trace.written_append, List.map_append, ← List.singleton_append, List.filterMap_append]
    exact hrule.written_sublist.append ih

/-! ### Skipped rows -/

lemma StepRule.skipped_prefix {st : Standing σ} {item : Item} {leg : Leg σ}
    (h : StepRule w o kind st item leg) : st.report.skipped <+: leg.standing.report.skipped := by
  cases h <;> simp [Report.countRow, Report.countWrite, Report.skip]

/-- A run forgets no row that it has skipped. -/
lemma skipped_prefix (st : Standing σ) (items : List Item) :
    st.report.skipped <+: (steps w o kind st items).standing.report.skipped := by
  apply steps_induction (P := fun st _ leg => st.report.skipped <+: leg.standing.report.skipped)
  · intro st
    exact List.prefix_rfl
  · intro st item items leg e hrule _
    exact hrule.skipped_prefix
  · intro st item items leg hrule _ later ih
    exact hrule.skipped_prefix.trans ih

/-- An item that neither stops a run nor is skipped is a row whose write is acknowledged. -/
lemma StepRule.of_unskipped {st : Standing σ} {item : Item} {leg : Leg σ}
    (h : StepRule w o kind st item leg) (hdry : o.dryRun = false) (hstop : leg.stop = none)
    (hskipped : leg.standing.report.skipped = []) :
    ∃ row matched, item = .ok row ∧
      (write w kind.descriptor row o.retry st.time st.state).result = .ok matched ∧
      leg.standing.state = (write w kind.descriptor row o.retry st.time st.state).state ∧
      leg.standing.report = st.report.countRow.countWrite matched ∧
      leg.trace.written = [(row, matched)] := by
  cases h with
  | unreadable fault => cases hstop
  | omitted row h => simp [h] at hdry
  | acknowledged _ ha hres =>
    subst ha
    exact ⟨_, _, rfl, hres, rfl, rfl, rfl⟩
  | aborted => cases hstop
  | skipped => simp [Report.skip] at hskipped

/-- Induction over a run that stops at nothing and skips nothing: each item is a row whose write is
acknowledged. -/
lemma unskipped_induction {P : Standing σ → List Item → Leg σ → Prop} (hdry : o.dryRun = false)
    (nil : ∀ st, P st [] { standing := st })
    (cons : ∀ st row matched items (leg : Leg σ),
      (write w kind.descriptor row o.retry st.time st.state).result = .ok matched →
      leg.standing.state = (write w kind.descriptor row o.retry st.time st.state).state →
      leg.standing.report = st.report.countRow.countWrite matched →
      leg.trace.written = [(row, matched)] →
      let later := steps w o kind leg.standing items
      P leg.standing items later →
      P st (.ok row :: items) { later with trace := leg.trace ++ later.trace })
    (st : Standing σ) (items : List Item) (hstop : (steps w o kind st items).stop = none)
    (hskipped : (steps w o kind st items).standing.report.skipped = []) :
    P st items (steps w o kind st items) := by
  revert hstop hskipped
  apply steps_induction (P := fun st items leg => leg.stop = none →
    leg.standing.report.skipped = [] → P st items leg)
  · intro st _ _
    exact nil st
  · intro st item items leg e _ hstop hnone
    simp [hstop] at hnone
  · intro st item items leg hrule hstop later ih hnone hskipped
    -- the item itself was not skipped, since later items do not take that back
    have hempty : leg.standing.report.skipped = [] :=
      List.prefix_nil.mp (hskipped ▸ skipped_prefix leg.standing items)
    obtain ⟨row, matched, rfl, hres, hstate, hreport, hwritten⟩ :=
      hrule.of_unskipped hdry hstop hempty
    exact cons st row matched items leg hres hstate hreport hwritten (ih hnone hskipped)

/-- The report after some more rows, all of them acknowledged. -/
def Report.countAll (r : Report) (written : List (Row × Int)) : Report :=
  written.foldl (fun r p => r.countRow.countWrite p.2) r

/-- A run that returns and skips nothing has all rows acknowledged, and counts them. -/
lemma run_of_unskipped (hdry : o.dryRun = false) {s : σ} {items : List Item} {report : Report}
    (hok : (run w o kind s items).result = .ok report) (hskipped : report.skipped = []) :
    ((run w o kind s items).trace.written.map Prod.fst).map Except.ok = items ∧
      report = Report.countAll { kind := kind } (run w o kind s items).trace.written := by
  obtain ⟨hstop, rfl⟩ := (run_result_eq_ok_iff w o kind s items report).mp hok
  rw [run_written]
  refine unskipped_induction (P := fun st items leg =>
    (leg.trace.written.map Prod.fst).map Except.ok = items ∧
      leg.standing.report = st.report.countAll leg.trace.written) hdry ?_ ?_ _ items hstop hskipped
  · intro st
    exact ⟨rfl, rfl⟩
  · intro st row matched items leg _ _ hreport hwritten later ih
    simp only [Trace.written_append, hwritten, List.map_append, ih.1]
    refine ⟨rfl, ?_⟩
    rw [ih.2, hreport]
    rfl

lemma rows_of_unskipped (hdry : o.dryRun = false) {s : σ} {rows : List Row} {report : Report}
    (hok : (run w o kind s (rows.map .ok)).result = .ok report) (hskipped : report.skipped = []) :
    (run w o kind s (rows.map .ok)).trace.written.map Prod.fst = rows := by
  have hinj : Function.Injective (Except.ok : Row → Item) := fun _ _ => Except.ok.inj
  exact hinj.list_map (run_of_unskipped hdry hok hskipped).1

end Backfill.Sync
