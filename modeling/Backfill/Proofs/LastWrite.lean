import Backfill.Graph.Memory
import Backfill.Proofs.Attempts
import Backfill.Proofs.Legs
import Backfill.Proofs.Nodes

/-!
# The last acknowledged row wins

However a run over a graph in memory ends, each node carries the date of the last row that agrees
with it among those whose write was acknowledged, and nothing else has changed. Failing attempts
leave no mark, and no write changes what a later row matches.
-/

namespace Backfill.Graph

open Sync
open Source (Item)

/-! ### Attempts on a graph in memory -/

namespace Memory

/-- No number of matches is prescribed, so attempts report the matches there are. -/
def IsPlain (m : Memory) : Prop :=
  m.counts = []

lemma of_fail? {m m' : Memory} {key : String} {e : Failure} (h : m.fail? key = some (e, m')) :
    m'.nodes = m.nodes ∧ m'.counts = m.counts := by
  unfold fail? at h
  split at h <;> simp only [Option.some.injEq, Prod.mk.injEq, reduceCtorEq] at h
  · exact h.2 ▸ ⟨rfl, rfl⟩
  · exact h.2 ▸ ⟨rfl, rfl⟩

variable {d : Descriptor} {row : Row} {m m' : Memory}

/-- A failing attempt leaves the nodes as they are. -/
lemma writer_of_error {e : Failure} (h : writer d row m = (.error e, m')) :
    m'.nodes = m.nodes ∧ m'.counts = m.counts := by
  unfold writer at h
  split at h
  · next e' m'' hfail =>
    cases h
    exact of_fail? hfail
  · split at h <;> cases h

lemma writer_of_ok (hm : m.IsPlain) {matched : Int} (h : writer d row m = (.ok matched, m')) :
    m'.IsPlain ∧ matched = countAgreeing d row m.nodes ∧
      m'.nodes = m.nodes.map (Node.write d · row) := by
  unfold IsPlain at hm ⊢
  unfold writer at h
  split at h
  · cases h
  · simp only [hm, List.lookup_nil, writeRow_eq] at h
    cases h
    exact ⟨rfl, rfl, rfl⟩

lemma of_failedAttempts (hm : m.IsPlain) {es : List Failure}
    (h : FailedAttempts writer d row m es m') : m'.IsPlain ∧ m'.nodes = m.nodes := by
  refine h.preserves (P := fun m' => m'.IsPlain ∧ m'.nodes = m.nodes) ?_ ⟨hm, rfl⟩
  intro m₁ m₂ e h₁ hm₁
  obtain ⟨hnodes, hcounts⟩ := writer_of_error h₁
  exact ⟨hcounts.trans hm₁.1, hnodes.trans hm₁.2⟩

/-! ### Runs over a graph in memory -/

variable {o : Options} {kind : Kind}

/-- A step writes a row and has it acknowledged with the matches there are, or leaves the nodes as
they are. -/
lemma acknowledged_of_stepRule {st : Standing Memory} {item : Item} {leg : Leg Memory}
    (hm : st.state.IsPlain) (h : StepRule writer o kind st item leg) :
    leg.standing.state.IsPlain ∧
      Acknowledged kind.descriptor leg.trace.written st.state.nodes leg.standing.state.nodes := by
  cases h with
  | unreadable fault => exact ⟨hm, .none _ _⟩
  | omitted row _ => exact ⟨hm, .none _ _⟩
  | acknowledged _ ha hres =>
    subst ha
    obtain ⟨es, m₁, hes, -, hw⟩ := write_of_ok hres
    obtain ⟨hm₁, hnodes₁⟩ := of_failedAttempts hm hes
    obtain ⟨hplain, rfl, hnodes⟩ := writer_of_ok hm₁ hw
    refine ⟨hplain, ?_⟩
    -- the failed attempts changed no node, so the last one counts those at first
    rw [hnodes₁] at hnodes ⊢
    exact hnodes ▸ .row _ _ _
  | aborted _ ha hres _ | skipped _ ha hres _ =>
    subst ha
    obtain ⟨es, e, hes, -⟩ := write_of_error hres
    obtain ⟨hplain, hnodes⟩ := of_failedAttempts hm hes
    exact ⟨hplain, hnodes ▸ .none _ _⟩

lemma steps_acknowledged (st : Standing Memory) (hm : st.state.IsPlain) (items : List Item) :
    (steps writer o kind st items).standing.state.IsPlain ∧
      Acknowledged kind.descriptor (steps writer o kind st items).trace.written st.state.nodes
        (steps writer o kind st items).standing.state.nodes := by
  revert hm
  apply steps_induction (P := fun (st : Standing Memory) _ leg => st.state.IsPlain →
    leg.standing.state.IsPlain ∧
      Acknowledged kind.descriptor leg.trace.written st.state.nodes leg.standing.state.nodes)
  · intro st hm
    exact ⟨hm, .none _ _⟩
  · intro st item items leg e hrule _ hm
    exact acknowledged_of_stepRule hm hrule
  · intro st item items leg hrule _ later ih hm
    obtain ⟨hleg, hfirst⟩ := acknowledged_of_stepRule hm hrule
    obtain ⟨hlater, hrest⟩ := ih hleg
    exact ⟨hlater, hfirst.append kind.property_notMem_keyFields hrest⟩

lemma run_acknowledged (o : Options) (kind : Kind) {m : Memory} (hm : m.IsPlain)
    (items : List Item) :
    Acknowledged kind.descriptor (run writer o kind m items).trace.written m.nodes
      (run writer o kind m items).state.nodes := by
  rw [run_written, run_state]
  exact (steps_acknowledged (.start kind m) hm items).2

/-- Whatever failures and faults a run meets and however it ends, it leaves the nodes in their
places with their labels and all properties but the one of its kind, and this one has the stamp of
the last acknowledged row that agrees with the node. The acknowledged rows are rows of the source in
their order, each with the number of nodes that it agreed with from the start, and they are all rows
if the run writes, returns and skips none. -/
theorem run_last_write_wins (nodes : List Node) (disturbances : List (String × Disturbance))
    (kind : Kind) (o : Options) (items : List Item) :
    let out := run writer o kind { nodes := nodes, disturbances := disturbances } items
    let acknowledged := out.trace.written.map Prod.fst
    List.Forall₂ (Node.Updated kind.descriptor acknowledged) nodes out.state.nodes ∧
      acknowledged.Sublist (items.filterMap Except.toOption) ∧
      (∀ p ∈ out.trace.written, p.2 = countAgreeing kind.descriptor p.1 nodes) ∧
      ∀ report, o.dryRun = false → out.result = .ok report → report.skipped = [] →
        acknowledged.map Except.ok = items := by
  intro out acknowledged
  have hack := run_acknowledged o kind (m := ⟨nodes, disturbances, []⟩) rfl items
  refine ⟨hack.updated kind.property_notMem_keyFields, ?_, hack.counts, ?_⟩
  · show (out.trace.written.map Prod.fst).Sublist _
    rw [run_written]
    exact written_sublist _ items
  · intro report hdry hok hskipped
    exact (run_of_unskipped hdry hok hskipped).1

end Memory

end Backfill.Graph
