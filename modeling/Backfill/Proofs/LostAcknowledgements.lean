import Backfill.Proofs.Convergence

/-!
# Lost acknowledgements

A write may have happened although its attempt failed, and then it is made again. Writing a row
twice is the same as writing it once, so a run over such a graph in which no row is given up ends
like a run over a graph that acknowledges every attempt.
-/

namespace Backfill.Graph

open Sync
open Source (Item)

/-- What an attempt may do: it writes the row and acknowledges it, or it fails, with the row written
or not. -/
inductive Delivery (d : Descriptor) (row : Row) (nodes : List Node) :
    Except Failure Int → List Node → Prop
  | acknowledged : Delivery d row nodes (.ok (writeRow d row nodes).1) (writeRow d row nodes).2
  | unacknowledged (e : Failure) : Delivery d row nodes (.error e) (writeRow d row nodes).2
  | refused (e : Failure) : Delivery d row nodes (.error e) nodes

variable {σ : Type} {w : Writer σ} {d : Descriptor} {view : σ → List Node}

/-- Every attempt of a writer is one of these, in any of its states, on the nodes that it shows. -/
def Delivers (w : Writer σ) (d : Descriptor) (view : σ → List Node) : Prop :=
  ∀ row s, Delivery d row (view s) (w d row s).1 (view (w d row s).2)

/-! ### One row -/

lemma Delivers.of_ok (hw : Delivers w d view) {row : Row} {s s' : σ} {matched : Int}
    (h : w d row s = (.ok matched, s')) :
    matched = countAgreeing d row (view s) ∧ view s' = (view s).map (Node.write d · row) := by
  have hrow := hw row s
  rw [h] at hrow
  generalize view s' = nodes at hrow ⊢
  cases hrow
  rw [writeRow_eq]
  exact ⟨rfl, rfl⟩

lemma Delivers.of_error (hw : Delivers w d view) {row : Row} {s s' : σ} {e : Failure}
    (h : w d row s = (.error e, s')) :
    view s' = (view s).map (Node.write d · row) ∨ view s' = view s := by
  have hrow := hw row s
  rw [h] at hrow
  generalize view s' = nodes at hrow ⊢
  cases hrow with
  | unacknowledged => exact Or.inl (by rw [writeRow_eq])
  | refused => exact Or.inr rfl

section

variable (hd : d.property ∉ d.keyFields)
include hd

/-- To write a row twice is to write it once. -/
lemma map_write_write (row : Row) (nodes : List Node) :
    (nodes.map (Node.write d · row)).map (Node.write d · row) = nodes.map (Node.write d · row) := by
  rw [List.map_map]
  exact List.map_congr_left fun n _ =>
    Node.writeAll_writeAll_of_subset hd n (List.Subset.refl [row])

/-- Failing attempts have written the row, however often, or they have not. -/
lemma Delivers.of_failedAttempts (hw : Delivers w d view) {row : Row} {s s' : σ} {es : List Failure}
    (h : FailedAttempts w d row s es s') :
    view s' = (view s).map (Node.write d · row) ∨ view s' = view s := by
  refine h.preserves (P := fun s' => view s' = (view s).map (Node.write d · row) ∨
    view s' = view s) ?_ (Or.inr rfl)
  intro s₁ s₂ e h₁ hs₁
  rcases hw.of_error h₁ with h₂ | h₂ <;> rcases hs₁ with hs₁ | hs₁ <;> rw [hs₁] at h₂
  · exact Or.inl (h₂.trans (map_write_write hd row _))
  · exact Or.inl h₂
  · exact Or.inl h₂
  · exact Or.inr h₂

/-- A write that is acknowledged in the end has happened, with the matches there were at first. -/
lemma Delivers.write_of_ok (hw : Delivers w d view) {row : Row} {p : RetryPolicy} {time : Nat}
    {s : σ} {matched : Int} (h : (write w d row p time s).result = .ok matched) :
    matched = countAgreeing d row (view s) ∧
      view (write w d row p time s).state = (view s).map (Node.write d · row) := by
  obtain ⟨es, s', hes, -, hlast⟩ := Sync.write_of_ok h
  obtain ⟨hmatched, hview⟩ := hw.of_ok hlast
  rcases hw.of_failedAttempts hd hes with hs' | hs' <;> rw [hs'] at hmatched hview
  · refine ⟨hmatched.trans ?_, hview.trans (map_write_write hd row _)⟩
    exact congrArg _ (countAgreeing_map_writeAll hd [row] row (view s))
  · exact ⟨hmatched, hview⟩

end

/-! ### All rows -/

lemma Delivers.run_acknowledged {kind : Kind} (hw : Delivers w kind.descriptor view) {o : Options}
    (hdry : o.dryRun = false) {s : σ} {items : List Item} {report : Report}
    (hok : (run w o kind s items).result = .ok report) (hskipped : report.skipped = []) :
    Acknowledged kind.descriptor (run w o kind s items).trace.written (view s)
      (view (run w o kind s items).state) := by
  have hd := kind.property_notMem_keyFields
  obtain ⟨hstop, rfl⟩ := (run_result_eq_ok_iff w o kind s items report).mp hok
  rw [run_written, run_state]
  refine unskipped_induction (P := fun (st : Standing σ) _ leg =>
    Acknowledged kind.descriptor leg.trace.written (view st.state) (view leg.standing.state))
    hdry ?_ ?_ (.start kind s) items hstop hskipped
  · intro st
    exact .none _ _
  · intro st row matched items leg hres hstate _ hwritten later ih
    obtain ⟨rfl, hview⟩ := hw.write_of_ok hd hres
    have hrow : Acknowledged kind.descriptor leg.trace.written (view st.state)
        (view leg.standing.state) := by
      rw [hwritten, hstate, hview]
      exact .row _ _ _
    exact hrow.append hd ih

/-- However many acknowledgements are lost, by whatever choice of the writer, a run that returns and
has skipped no row leaves the nodes, the acknowledged rows with their numbers and the report of the
run over a graph with the same nodes that acknowledges every attempt. Each node has the date of the
last row that agrees with it, and is otherwise as it was. -/
theorem lost_acknowledgements_harmless {kind : Kind} (hw : Delivers w kind.descriptor view)
    (o : Options) (hdry : o.dryRun = false) (s : σ) (rows : List Row) {report : Report}
    (hok : (run w o kind s (rows.map .ok)).result = .ok report) (hskipped : report.skipped = []) :
    let out := run w o kind s (rows.map .ok)
    let reliable := run Memory.writer o kind { nodes := view s } (rows.map .ok)
    view out.state = reliable.state.nodes ∧ out.trace.written = reliable.trace.written ∧
      reliable.result = .ok report ∧
      List.Forall₂ (Node.Updated kind.descriptor rows) (view s) (view out.state) := by
  intro out reliable
  have hack := hw.run_acknowledged hdry hok hskipped
  have hrows := rows_of_unskipped hdry hok hskipped
  obtain ⟨-, hreport⟩ := run_of_unskipped hdry hok hskipped
  obtain ⟨hstate, hwritten, hresult⟩ := Memory.run_undisturbed hdry kind (view s) rows
  -- both acknowledge all rows, each with the count of the nodes at first
  have hsame : out.trace.written = reliable.trace.written := by
    rw [hwritten, hack.written_eq, hrows]
  have hupdated := hack.updated kind.property_notMem_keyFields
  rw [hrows] at hupdated
  refine ⟨?_, hsame, ?_, hupdated⟩
  · rw [hack.nodes, hrows, hstate]
  · rw [hreport, hsame]
    exact hresult

/-- A graph that writes every row, but whose next so many attempts fail after the write. -/
def silentWriter : Writer (Nat × List Node) := fun d row s =>
  let (matched, nodes) := writeRow d row s.2
  match s.1 with
  | 0 => (.ok matched, 0, nodes)
  | left + 1 => (.error { text := "connection reset by peer" }, left, nodes)

lemma delivers_silentWriter (d : Descriptor) : Delivers silentWriter d Prod.snd := by
  rintro row ⟨left, nodes⟩
  cases left with
  | zero => exact .acknowledged
  | succ left => exact .unacknowledged _

/-- Two of three attempts at a row with two nodes are not acknowledged, and all is as if the first
had been. -/
theorem lost_acknowledgements_harmless_twice :
    let row : Row := ⟨.ofCrate "serde", ⟨1577836800, 0, by decide, by decide⟩⟩
    let node : Node := ⟨"Crate", [("name", "serde")]⟩
    let report : Report :=
      { kind := .crate, rowsRead := 1, writes := 1, nodesUpdated := 2, duplicates := 1 }
    let out := run silentWriter {} .crate (2, [node, node]) ([row].map .ok)
    let reliable := run Memory.writer {} .crate { nodes := [node, node] } ([row].map .ok)
    Delivers silentWriter Kind.crate.descriptor Prod.snd ∧ out.result = .ok report ∧
      report.skipped = [] ∧ out.trace.calls.length = 3 ∧
      out.state.2 = reliable.state.nodes ∧ out.trace.written = reliable.trace.written ∧
      reliable.result = .ok report ∧
      List.Forall₂ (Node.Updated Kind.crate.descriptor [row]) [node, node] out.state.2 := by
  intro row node report out reliable
  have hw := delivers_silentWriter Kind.crate.descriptor
  have hok : out.result = .ok report := by decide +kernel
  exact ⟨hw, hok, rfl, by decide +kernel,
    lost_acknowledgements_harmless hw {} rfl (2, [node, node]) [row] hok rfl⟩

end Backfill.Graph
