import Mathlib.Data.List.Perm.Basic
import Backfill.Proofs.Convergence

/-!
# The order of rows

The source gives its rows in any order. As long as rows for one and the same key have one and the
same date, a run that meets no failure ends alike for all of these orders: a node takes the date of
the last row that agrees with it, every row that does has this date, and no write changes what
another one matches.
-/

namespace Backfill

/-- Two rows that have the same values in all key fields. -/
def Row.SameKey (d : Descriptor) (a b : Row) : Prop :=
  ∀ field ∈ d.keyFields, a.key.get? field = b.key.get? field

instance (d : Descriptor) (a b : Row) : Decidable (a.SameKey d b) :=
  inferInstanceAs (Decidable (∀ field ∈ d.keyFields, a.key.get? field = b.key.get? field))

/-- All rows for one key have one date, as it is stored. -/
def OneDatePerKey (d : Descriptor) (rows : List Row) : Prop :=
  ∀ a ∈ rows, ∀ b ∈ rows, a.SameKey d b → a.stamp = b.stamp

instance (d : Descriptor) (rows : List Row) : Decidable (OneDatePerKey d rows) :=
  inferInstanceAs (Decidable (∀ a ∈ rows, ∀ b ∈ rows, a.SameKey d b → a.stamp = b.stamp))

namespace Graph

/-! ### A node under rows in another order -/

namespace Node

variable {d : Descriptor} {n : Node} {rows rows' : List Row}

lemma Agrees.sameKey {a b : Row} (ha : n.Agrees d a) (hb : n.Agrees d b) : a.SameKey d b := by
  intro field hfield
  rw [← ha.2 field hfield, ← hb.2 field hfield]

lemma of_lastAgreeing? {row : Row} (h : n.lastAgreeing? d rows = some row) :
    row ∈ rows ∧ n.Agrees d row := by
  simpa using List.mem_filter.mp (List.mem_of_getLast? h)

/-- The rows that agree with a node may change places, since all of them set the same date. -/
lemma writeAll_perm (hd : d.property ∉ d.keyFields) (hperm : rows.Perm rows')
    (hdate : OneDatePerKey d rows) (n : Node) : n.writeAll d rows = n.writeAll d rows' := by
  rw [writeAll_eq hd, writeAll_eq hd]
  cases h : n.lastAgreeing? d rows with
  | none =>
    have h' : n.lastAgreeing? d rows' = none :=
      lastAgreeing?_eq_none_iff.mpr fun row hrow =>
        lastAgreeing?_eq_none_iff.mp h row (hperm.mem_iff.mpr hrow)
    rw [h']
  | some row =>
    obtain ⟨hrow, hagrees⟩ := of_lastAgreeing? h
    cases h' : n.lastAgreeing? d rows' with
    | none => exact absurd hagrees (lastAgreeing?_eq_none_iff.mp h' row (hperm.mem_iff.mp hrow))
    | some row' =>
      obtain ⟨hrow', hagrees'⟩ := of_lastAgreeing? h'
      -- the last rows may differ, but both agree with the node and so have one key
      have hstamp : row.stamp = row'.stamp :=
        hdate row hrow row' (hperm.mem_iff.mpr hrow') (hagrees.sameKey hagrees')
      simp only [Option.elim_some, hstamp]

end Node

end Graph

/-! ### A report over rows in another order -/

/-- The counts of acknowledged writes do not depend on their order. -/
lemma Sync.Report.countAll_perm (r : Report) {written written' : List (Row × Int)}
    (h : written.Perm written') : r.countAll written = r.countAll written' := by
  have : RightCommutative fun (r : Report) (p : Row × Int) => r.countRow.countWrite p.2 := by
    constructor
    intro r a b
    simp [countRow, countWrite, Nat.add_right_comm]
  exact h.foldl_eq r

namespace Graph.Memory

open Sync

/-- Two runs over the same rows in two orders, where rows for one key have one date, end with the
same nodes and the same report if they meet no failure, whatever their options. The nodes are as
either list of rows makes them, and the acknowledged rows with their numbers are the same up to
order. -/
theorem row_order_irrelevant (nodes : List Node) (kind : Kind) {rows rows' : List Row}
    (hperm : rows.Perm rows') (hdate : OneDatePerKey kind.descriptor rows) (o o' : Options)
    (ho : o.dryRun = false) (ho' : o'.dryRun = false) :
    let out := run writer o kind { nodes := nodes } (rows.map .ok)
    let out' := run writer o' kind { nodes := nodes } (rows'.map .ok)
    out'.state = out.state ∧ (∃ report, out.result = .ok report ∧ out'.result = .ok report) ∧
      out'.trace.written.Perm out.trace.written ∧
      List.Forall₂ (Node.Updated kind.descriptor rows) nodes out.state.nodes ∧
      List.Forall₂ (Node.Updated kind.descriptor rows') nodes out.state.nodes := by
  intro out out'
  have hd := kind.property_notMem_keyFields
  obtain ⟨hstate, hwritten, hresult⟩ := run_undisturbed ho kind nodes rows
  obtain ⟨hstate', hwritten', hresult'⟩ := run_undisturbed ho' kind nodes rows'
  have hnodes : nodes.map (Node.writeAll kind.descriptor · rows') =
      nodes.map (Node.writeAll kind.descriptor · rows) :=
    List.map_congr_left fun n _ => (Node.writeAll_perm hd hperm hdate n).symm
  have hsame : out'.trace.written.Perm out.trace.written := by
    rw [hwritten, hwritten']
    exact (hperm.map _).symm
  refine ⟨?_, ⟨_, hresult, ?_⟩, hsame, ?_, ?_⟩
  · rw [hstate, hstate', hnodes]
  · rw [hresult', Report.countAll_perm _ hsame]
  · rw [hstate]
    exact Node.forall₂_updated_map hd rows nodes
  · rw [hstate, ← hnodes]
    exact Node.forall₂_updated_map hd rows' nodes

/-- Two rows for one crate differ in less than what is stored. One label has two nodes for them, and
another crate has no node. -/
theorem row_order_irrelevant_reversed :
    let early : Row := ⟨.ofCrate "serde", ⟨1577836800, 0, by decide, by decide⟩⟩
    let late : Row := ⟨.ofCrate "serde", ⟨1577836800, 999, by decide, by decide⟩⟩
    let other : Row := ⟨.ofCrate "tokio", ⟨1467331200, 0, by decide, by decide⟩⟩
    let rows := [early, late, other]
    let rows' := rows.reverse
    let nodes : List Node :=
      [⟨"Crate", [("name", "serde")]⟩, ⟨"Crate", [("name", "serde")]⟩,
        ⟨"Version", [("name", "serde")]⟩]
    let out := run writer {} .crate { nodes := nodes } (rows.map .ok)
    let out' := run writer {} .crate { nodes := nodes } (rows'.map .ok)
    early ≠ late ∧ rows.Perm rows' ∧ OneDatePerKey Kind.crate.descriptor rows ∧
      out'.state = out.state ∧ (∃ report, out.result = .ok report ∧ out'.result = .ok report) ∧
      out'.trace.written.Perm out.trace.written ∧
      List.Forall₂ (Node.Updated Kind.crate.descriptor rows) nodes out.state.nodes ∧
      List.Forall₂ (Node.Updated Kind.crate.descriptor rows') nodes out.state.nodes := by
  intro early late other rows rows' nodes out out'
  have hperm : rows.Perm rows' := (List.reverse_perm rows).symm
  have hdate : OneDatePerKey Kind.crate.descriptor rows := by decide +kernel
  exact ⟨by decide, hperm, hdate, row_order_irrelevant nodes .crate hperm hdate {} {} rfl rfl⟩

end Graph.Memory

end Backfill
