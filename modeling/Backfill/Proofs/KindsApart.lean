import Backfill.Proofs.Convergence
import Backfill.Proofs.DryRun

/-!
# The kinds do not interfere

Both kinds set the same property, and the key of a crate is part of the key of a version. Only the
label keeps their nodes apart: a run touches no node with another label than that of its kind, and
it matches none. So runs of the two kinds may change places.
-/

namespace Backfill

lemma Kind.label_crate_ne_version :
    Kind.crate.descriptor.label ≠ Kind.version.descriptor.label := by
  decide

namespace Graph

/-! ### Nodes with another label -/

namespace Node

variable {d d' : Descriptor} {n : Node}

lemma writeAll_of_label_ne (h : n.label ≠ d.label) (rows : List Row) : n.writeAll d rows = n := by
  induction rows with
  | nil => rfl
  | cons row rows ih =>
    have hrow : ¬ n.Agrees d row := fun hagrees => h hagrees.1
    rw [writeAll_cons, write, if_neg hrow, ih]

lemma label_write (d : Descriptor) (n : Node) (row : Row) : (n.write d row).label = n.label := by
  unfold write
  split <;> rfl

lemma label_writeAll (d : Descriptor) (n : Node) (rows : List Row) :
    (n.writeAll d rows).label = n.label := by
  induction rows generalizing n with
  | nil => rfl
  | cons row rows ih => rw [writeAll_cons, ih, label_write]

section

variable (h : d.label ≠ d'.label)
include h

/-- A node has at most one of two labels, so the rows for one of them leave it as it is. -/
lemma writeAll_comm (n : Node) (rows rows' : List Row) :
    (n.writeAll d rows).writeAll d' rows' = (n.writeAll d' rows').writeAll d rows := by
  by_cases hn : n.label = d.label
  · have hn' : n.label ≠ d'.label := hn ▸ h
    rw [writeAll_of_label_ne hn' rows', writeAll_of_label_ne]
    rwa [label_writeAll]
  · rw [writeAll_of_label_ne hn rows, writeAll_of_label_ne (d := d)]
    rwa [label_writeAll]

lemma agrees_writeAll_iff_of_label_ne (n : Node) (rows : List Row) (row : Row) :
    (n.writeAll d rows).Agrees d' row ↔ n.Agrees d' row := by
  by_cases hn : n.label = d.label
  · -- neither has the label of the row
    have hn' : n.label ≠ d'.label := hn ▸ h
    simp only [Agrees, label_writeAll, hn', false_and]
  · rw [writeAll_of_label_ne hn]

end

/-- What rows of both kinds make of a node depends on its label: only those of its kind count. -/
lemma writeAll_kinds (n : Node) (crates versions : List Row) :
    let n' := (n.writeAll Kind.crate.descriptor crates).writeAll Kind.version.descriptor versions
    (n.label = "Crate" → Updated Kind.crate.descriptor crates n n') ∧
      (n.label = "Version" → Updated Kind.version.descriptor versions n n') ∧
      (n.label ≠ "Crate" → n.label ≠ "Version" → n' = n) := by
  intro n'
  refine ⟨?_, ?_, ?_⟩
  · intro hn
    have hn' : n' = n.writeAll Kind.crate.descriptor crates := by
      apply writeAll_of_label_ne
      rw [label_writeAll, hn]
      decide
    rw [hn']
    exact updated_writeAll Kind.crate.property_notMem_keyFields crates n
  · intro hn
    have hn' : n.writeAll Kind.crate.descriptor crates = n := by
      apply writeAll_of_label_ne
      rw [hn]
      decide
    simp only [n', hn']
    exact updated_writeAll Kind.version.property_notMem_keyFields versions n
  · intro hcrate hversion
    simp only [n', writeAll_of_label_ne (d := Kind.crate.descriptor) hcrate,
      writeAll_of_label_ne (d := Kind.version.descriptor) hversion]

end Node

lemma countAgreeing_map_writeAll_of_label_ne {d d' : Descriptor} (h : d.label ≠ d'.label)
    (rows : List Row) (row : Row) (nodes : List Node) :
    countAgreeing d' row (nodes.map (Node.writeAll d · rows)) = countAgreeing d' row nodes := by
  simp only [countAgreeing, List.countP_map, Function.comp_def,
    Node.agrees_writeAll_iff_of_label_ne h]

end Graph

/-! ### Runs without failures -/

/-- The rows that a run writes if nothing fails. A dry run writes none. -/
def Sync.Options.written (o : Sync.Options) (rows : List Row) : List Row :=
  if o.dryRun then [] else rows

namespace Graph.Memory

open Sync

/-- A run that meets no failure, dry or not, over some nodes. -/
lemma run_failureFree (o : Options) (kind : Kind) (nodes : List Node) (rows : List Row) :
    let out := run writer o kind { nodes := nodes } (rows.map .ok)
    out.state = { nodes := nodes.map (Node.writeAll kind.descriptor · (o.written rows)) } ∧
      out.trace.written = (o.written rows).map
        (fun row => (row, (countAgreeing kind.descriptor row nodes : Int))) ∧
      out.result = .ok (if o.dryRun then { kind := kind, rowsRead := rows.length }
        else Report.countAll { kind := kind } out.trace.written) := by
  intro out
  cases hdry : o.dryRun with
  | false => simpa [Options.written, hdry] using run_undisturbed hdry kind nodes rows
  | true =>
    have hreads :=
      steps_onlyReads hdry writer kind (.start kind { nodes := nodes }) (rows.map .ok)
    simp only [Options.written, hdry, if_true, List.map_nil, Node.writeAll_nil, List.map_id']
    refine ⟨?_, ?_, ?_⟩
    · exact (run_state ..).trans hreads.state
    · exact (run_written ..).trans hreads.written
    · rw [run_eq_ok_iff_of_dryRun hdry]
      simp

/-- A run leaves nodes with another label than that of its kind as they were. -/
lemma run_leaves_other_labels (o : Options) (kind : Kind) (nodes : List Node) (rows : List Row) :
    List.Forall₂ (fun n n' => n.label ≠ kind.descriptor.label → n' = n) nodes
      (run writer o kind { nodes := nodes } (rows.map .ok)).state.nodes := by
  obtain ⟨hstate, -, -⟩ := run_failureFree o kind nodes rows
  rw [hstate, List.forall₂_map_right_iff, List.forall₂_same]
  exact fun n _ hn => Node.writeAll_of_label_ne hn _

/-- A run after one of a kind with another label acknowledges and reports what it would have without
that one, and both have written their rows to each node. -/
lemma run_after_other {kind kind' : Kind} (h : kind.descriptor.label ≠ kind'.descriptor.label)
    (o o' : Options) (nodes : List Node) (rows rows' : List Row) :
    let first := run writer o kind { nodes := nodes } (rows.map .ok)
    let second := run writer o' kind' first.state (rows'.map .ok)
    let alone := run writer o' kind' { nodes := nodes } (rows'.map .ok)
    second.trace.written = alone.trace.written ∧ second.result = alone.result ∧
      second.state = {
        nodes := nodes.map fun n =>
          (n.writeAll kind.descriptor (o.written rows)).writeAll kind'.descriptor
            (o'.written rows') } := by
  intro first second alone
  obtain ⟨hfirst, -, -⟩ := run_failureFree o kind nodes rows
  obtain ⟨-, hwritten, hresult⟩ := run_failureFree o' kind' nodes rows'
  have hsecond := run_failureFree o' kind'
    (nodes.map (Node.writeAll kind.descriptor · (o.written rows))) rows'
  rw [← hfirst] at hsecond
  obtain ⟨hstate', hwritten', hresult'⟩ := hsecond
  -- the first run changes no node of the second kind, so as many agree as before
  have hsame : second.trace.written = alone.trace.written := by
    rw [hwritten, hwritten']
    exact List.map_congr_left fun row _ => by rw [countAgreeing_map_writeAll_of_label_ne h]
  refine ⟨hsame, ?_, ?_⟩
  · rw [hresult, hresult', hsame]
  · rw [hstate', List.map_map]
    rfl

/-- Runs of the two kinds that meet no failure may change places, whatever the nodes, the rows with
their keys and the options, dry or not. The nodes are the same in the end, and each run has the same
report and the same rows acknowledged with the same numbers as it has alone. In the end, nodes with
the label of a kind are as the rows of this kind make them, and all others are as they were; and
neither run touches a node with another label than its own. -/
theorem kinds_do_not_interfere (nodes : List Node) (crates versions : List Row) (o o' : Options) :
    let crate := run writer o .crate { nodes := nodes } (crates.map .ok)
    let version := run writer o' .version { nodes := nodes } (versions.map .ok)
    let versionAfter := run writer o' .version crate.state (versions.map .ok)
    let crateAfter := run writer o .crate version.state (crates.map .ok)
    versionAfter.state = crateAfter.state ∧
      (∃ report, crate.result = .ok report ∧ crateAfter.result = .ok report) ∧
      (∃ report, version.result = .ok report ∧ versionAfter.result = .ok report) ∧
      crateAfter.trace.written = crate.trace.written ∧
      versionAfter.trace.written = version.trace.written ∧
      List.Forall₂ (fun n n' =>
          (n.label = "Crate" → Node.Updated Kind.crate.descriptor (o.written crates) n n') ∧
          (n.label = "Version" → Node.Updated Kind.version.descriptor (o'.written versions) n n') ∧
          (n.label ≠ "Crate" → n.label ≠ "Version" → n' = n))
        nodes versionAfter.state.nodes ∧
      List.Forall₂ (fun n n' => n.label ≠ "Crate" → n' = n) nodes crate.state.nodes ∧
      List.Forall₂ (fun n n' => n.label ≠ "Version" → n' = n) nodes version.state.nodes := by
  intro crate version versionAfter crateAfter
  have hlabel := Kind.label_crate_ne_version
  obtain ⟨-, -, hcrate⟩ := run_failureFree o .crate nodes crates
  obtain ⟨-, -, hversion⟩ := run_failureFree o' .version nodes versions
  obtain ⟨hwritten, hresult, hstate⟩ := run_after_other hlabel o o' nodes crates versions
  obtain ⟨hwritten', hresult', hstate'⟩ := run_after_other hlabel.symm o' o nodes versions crates
  refine ⟨?_, ⟨_, hcrate, hresult'.trans hcrate⟩, ⟨_, hversion, hresult.trans hversion⟩, hwritten',
    hwritten, ?_, run_leaves_other_labels o .crate nodes crates,
    run_leaves_other_labels o' .version nodes versions⟩
  · rw [hstate, hstate']
    congr 1
    exact List.map_congr_left fun n _ => Node.writeAll_comm hlabel n _ _
  · rw [hstate, List.forall₂_map_right_iff, List.forall₂_same]
    exact fun n _ => Node.writeAll_kinds n (o.written crates) (o'.written versions)

end Graph.Memory

end Backfill
