import Backfill.Proofs.LastWrite

/-!
# Runs converge

A run that meets no failure leaves the nodes as its rows make them, whatever earlier runs over the
same rows have done, completed or not.
-/

namespace Backfill.Graph.Memory

open Sync
open Source (Item)

variable {o : Options} {kind : Kind}

/-! ### Runs without failures -/

lemma writer_undisturbed (d : Descriptor) (row : Row) (nodes : List Node) :
    writer d row { nodes := nodes } =
      (.ok (countAgreeing d row nodes), { nodes := nodes.map (Node.write d · row) }) := by
  simp [writer, fail?, writeRow_eq]

lemma write_undisturbed (d : Descriptor) (row : Row) (p : RetryPolicy) (time : Nat)
    (nodes : List Node) :
    write writer d row p time { nodes := nodes } =
      ⟨.ok (countAgreeing d row nodes), { nodes := nodes.map (Node.write d · row) }, time,
        [⟨time, row⟩], []⟩ :=
  attemptFrom_of_ok (writer_undisturbed d row nodes) p _ 1 time

/-- No row stops a run that meets no failure, or is skipped by it. -/
lemma stepRule_undisturbed (hdry : o.dryRun = false) {st : Standing Memory} {nodes : List Node}
    (hst : st.state = { nodes := nodes }) {row : Row} {leg : Leg Memory}
    (h : StepRule writer o kind st (.ok row) leg) :
    leg.stop = none ∧ leg.standing.report.skipped = st.report.skipped ∧
      ∃ nodes, leg.standing.state = { nodes := nodes } := by
  cases h with
  | omitted _ h => simp [h] at hdry
  | acknowledged _ ha _ =>
    rw [hst, write_undisturbed] at ha
    exact ⟨rfl, rfl, _, congrArg Attempts.state ha.symm⟩
  | aborted _ ha hres _ | skipped _ ha hres _ =>
    rw [hst, write_undisturbed] at ha
    rw [← ha] at hres
    cases hres

lemma steps_undisturbed (hdry : o.dryRun = false) (rows : List Row) (st : Standing Memory)
    (nodes : List Node) (hst : st.state = { nodes := nodes }) :
    (steps writer o kind st (rows.map .ok)).stop = none ∧
      (steps writer o kind st (rows.map .ok)).standing.report.skipped = st.report.skipped ∧
      ∃ nodes, (steps writer o kind st (rows.map .ok)).standing.state = { nodes := nodes } := by
  induction rows generalizing st nodes with
  | nil => exact ⟨rfl, rfl, nodes, hst⟩
  | cons row rows ih =>
    obtain ⟨hstop, hskipped, nodes', hstate⟩ :=
      stepRule_undisturbed hdry hst (StepRule.of_step writer o kind st (.ok row))
    rw [List.map_cons, steps_cons_of_none _ hstop, ← hskipped]
    exact ih _ nodes' hstate

/-- A run that meets no failure has all its rows acknowledged. -/
lemma run_undisturbed (hdry : o.dryRun = false) (kind : Kind) (nodes : List Node)
    (rows : List Row) :
    let out := run writer o kind { nodes := nodes } (rows.map .ok)
    out.state = { nodes := nodes.map (Node.writeAll kind.descriptor · rows) } ∧
      out.trace.written =
        rows.map (fun row => (row, (countAgreeing kind.descriptor row nodes : Int))) ∧
      out.result = .ok (Report.countAll { kind := kind } out.trace.written) := by
  intro out
  obtain ⟨hstop, hskipped, nodes', hstate⟩ :=
    steps_undisturbed (o := o) hdry rows (.start kind { nodes := nodes }) nodes rfl
  have hok := (run_result_eq_ok_iff writer o kind { nodes := nodes } (rows.map .ok) _).mpr
    ⟨hstop, rfl⟩
  obtain ⟨-, hreport⟩ := run_of_unskipped hdry hok hskipped
  have hrows := rows_of_unskipped hdry hok hskipped
  have hack := run_acknowledged o kind (m := { nodes := nodes }) rfl (rows.map .ok)
  rw [← run_state] at hstate
  have hnodes : nodes' = nodes.map (Node.writeAll kind.descriptor · rows) := by
    rw [← hrows, ← hack.nodes, hstate]
  refine ⟨?_, ?_, hreport ▸ hok⟩
  · rw [← hnodes]
    exact hstate
  · rw [hack.written_eq, hrows]

/-! ### Earlier runs -/

/-- An earlier run: with its options, the failures to come at its beginning, and what it read. -/
structure PastRun where
  options : Options
  disturbances : List (String × Disturbance)
  items : List Item

/-- The nodes that a run of a kind leaves. -/
def PastRun.leave (kind : Kind) (nodes : List Node) (past : PastRun) : List Node :=
  (run writer past.options kind { nodes := nodes, disturbances := past.disturbances }
    past.items).state.nodes

/-- All rows that a run has read are among the given ones. -/
def PastRun.ReadsFrom (rows : List Row) (past : PastRun) : Prop :=
  ∀ row, Except.ok row ∈ past.items → row ∈ rows

/-- The nodes after some runs of a kind, one after the other. -/
def afterRuns (kind : Kind) (runs : List PastRun) (nodes : List Node) : List Node :=
  runs.foldl (PastRun.leave kind) nodes

/-- A run has written some of the rows that it has read. -/
lemma PastRun.leave_eq (kind : Kind) (nodes : List Node) {past : PastRun} {rows : List Row}
    (h : past.ReadsFrom rows) :
    ∃ written ⊆ rows,
      past.leave kind nodes = nodes.map (Node.writeAll kind.descriptor · written) := by
  have hack :=
    run_acknowledged past.options kind (m := ⟨nodes, past.disturbances, []⟩) rfl past.items
  refine ⟨_, ?_, hack.nodes⟩
  intro row hrow
  rw [run_written] at hrow
  obtain ⟨item, hitem, hok⟩ := List.mem_filterMap.mp ((written_sublist _ _).subset hrow)
  cases item with
  | error fault => cases hok
  | ok row' =>
    cases hok
    exact h row hitem

lemma afterRuns_eq (kind : Kind) (nodes : List Node) {runs : List PastRun} {rows : List Row}
    (h : ∀ past ∈ runs, past.ReadsFrom rows) :
    ∃ written ⊆ rows,
      afterRuns kind runs nodes = nodes.map (Node.writeAll kind.descriptor · written) := by
  induction runs generalizing nodes with
  | nil => exact ⟨[], List.nil_subset _, by simp [afterRuns]⟩
  | cons past runs ih =>
    rw [List.forall_mem_cons] at h
    obtain ⟨first, hfirst, hleave⟩ := past.leave_eq kind nodes h.1
    obtain ⟨later, hlater, hafter⟩ := ih (past.leave kind nodes) h.2
    refine ⟨first ++ later, List.append_subset.mpr ⟨hfirst, hlater⟩, ?_⟩
    rw [afterRuns, List.foldl_cons, ← afterRuns, hafter, hleave, List.map_map]
    exact List.map_congr_left fun n _ => (Node.writeAll_append _ n _ _).symm

/-- Earlier runs over the same rows leave no trace, whatever failures and faults they met and
however they ended: a run that meets no failure ends with the nodes, the acknowledged rows and the
report of such a run over the nodes at first, and each node has the stamp of the last row that
agrees with it. So it does when it is repeated, and when it is the repetition of one that broke
off. -/
theorem rerun_converges (nodes : List Node) (kind : Kind) (rows : List Row) (runs : List PastRun)
    (hruns : ∀ past ∈ runs, past.ReadsFrom rows) (o o' : Options) (ho : o.dryRun = false)
    (ho' : o'.dryRun = false) :
    let once := run writer o kind { nodes := nodes } (rows.map .ok)
    let again := run writer o' kind { nodes := afterRuns kind runs nodes } (rows.map .ok)
    again.state = once.state ∧ again.trace.written = once.trace.written ∧
      (∃ report, once.result = .ok report ∧ again.result = .ok report) ∧
      List.Forall₂ (Node.Updated kind.descriptor rows) nodes once.state.nodes := by
  intro once again
  obtain ⟨written, hsubset, hafter⟩ := afterRuns_eq kind nodes hruns
  obtain ⟨hstate, hwritten, hresult⟩ := run_undisturbed ho kind nodes rows
  obtain ⟨hstate', hwritten', hresult'⟩ := run_undisturbed ho' kind (afterRuns kind runs nodes) rows
  have hd := kind.property_notMem_keyFields
  have hsame : again.trace.written = once.trace.written := by
    rw [hwritten, hwritten', hafter]
    exact List.map_congr_left fun row _ => by rw [countAgreeing_map_writeAll hd]
  refine ⟨?_, hsame, ⟨_, hresult, hsame ▸ hresult'⟩, ?_⟩
  · -- node by node, the rows overwrite whatever the earlier runs have written
    rw [hstate, hstate', hafter, List.map_map]
    congr 1
    exact List.map_congr_left fun n _ => Node.writeAll_writeAll_of_subset hd n hsubset
  · rw [hstate]
    exact Node.forall₂_updated_map hd rows nodes

/-- Of two rows for one crate the first is written, at the second attempt, before reading breaks
off. -/
theorem rerun_converges_after_fault :
    let january : Row := ⟨.ofCrate "serde", ⟨1577836800, 0, by decide, by decide⟩⟩
    let february : Row := ⟨.ofCrate "serde", ⟨1580515200, 0, by decide, by decide⟩⟩
    let rows := [february, january]
    let past : PastRun :=
      { options := {}
        disturbances := [("name=serde", ⟨some 1, { text := "connection reset by peer" }⟩)]
        items := [.ok february, .error (.driver .rowNotFound)] }
    let nodes : List Node := [⟨"Crate", [("name", "serde")]⟩]
    let once := run writer {} .crate { nodes := nodes } (rows.map .ok)
    let again := run writer {} .crate { nodes := afterRuns .crate [past] nodes } (rows.map .ok)
    past.ReadsFrom rows ∧ afterRuns .crate [past] nodes ≠ nodes ∧
      again.state = once.state ∧ again.trace.written = once.trace.written ∧
      (∃ report, once.result = .ok report ∧ again.result = .ok report) ∧
      List.Forall₂ (Node.Updated Kind.crate.descriptor rows) nodes once.state.nodes := by
  intro january february rows past nodes once again
  have hpast : past.ReadsFrom rows := by
    simp [PastRun.ReadsFrom, past, rows]
  refine ⟨hpast, by decide +kernel, ?_⟩
  exact rerun_converges nodes .crate rows [past] (List.forall_mem_singleton.mpr hpast) {} {} rfl rfl

end Backfill.Graph.Memory
