import Mathlib.Data.List.Forall2
import Mathlib.Data.List.Induction
import Backfill.Graph.Node

/-!
# What writes do to nodes

The property that a kind sets is none of its key fields. So a write never changes which rows match
a node, and of all rows that are written to a node the last one that matches decides.
-/

namespace Backfill

/-- The property of a kind is none of its key fields. -/
lemma Kind.property_notMem_keyFields (kind : Kind) :
    kind.descriptor.property ∉ kind.descriptor.keyFields := by
  cases kind <;> decide

namespace Graph

/-! ### Named values -/

lemma lookup_assign_self (name value : String) (ps : List (String × String)) :
    (assign name value ps).lookup name = some value := by
  induction ps with
  | nil => simp [assign]
  | cons p ps ih =>
    obtain ⟨n, v⟩ := p
    by_cases h : n = name
    · simp [assign, h]
    · simpa [assign, h, List.lookup_cons, beq_false_of_ne (Ne.symm h)] using ih

lemma lookup_assign_of_ne {name other : String} (h : other ≠ name) (value : String)
    (ps : List (String × String)) : (assign name value ps).lookup other = ps.lookup other := by
  induction ps with
  | nil => simp [assign, List.lookup_cons, beq_false_of_ne h]
  | cons p ps ih =>
    obtain ⟨n, v⟩ := p
    by_cases hn : n = name
    · subst hn
      simp [assign, List.lookup_cons, beq_false_of_ne h]
    · simp only [assign, if_neg hn, List.lookup_cons, ih]

/-- Of two values given to one name the later stays, in the place of the first. -/
lemma assign_assign (name v w : String) (ps : List (String × String)) :
    assign name w (assign name v ps) = assign name w ps := by
  induction ps with
  | nil => simp [assign]
  | cons p ps ih =>
    obtain ⟨n, u⟩ := p
    by_cases h : n = name
    · simp [assign, h]
    · simp [assign, h, ih]

namespace Node

/-! ### Properties of a node -/

@[simp] lemma label_set (n : Node) (prop value : String) : (n.set prop value).label = n.label := rfl

@[simp] lemma get?_set_self (n : Node) (prop value : String) :
    (n.set prop value).get? prop = some value :=
  lookup_assign_self prop value n.props

lemma get?_set_of_ne {prop other : String} (h : other ≠ prop) (n : Node) (value : String) :
    (n.set prop value).get? other = n.get? other :=
  lookup_assign_of_ne h value n.props

@[simp] lemma set_set (n : Node) (prop v w : String) :
    (n.set prop v).set prop w = n.set prop w := by
  simp [Node.set, assign_assign]

/-! ### Agreement of a row with a node -/

/-- A row agrees with a node of its kind's label if each key field has one value in both, or none
in either. -/
def Agrees (d : Descriptor) (row : Row) (n : Node) : Prop :=
  n.label = d.label ∧ ∀ field ∈ d.keyFields, n.get? field = row.key.get? field

instance (d : Descriptor) (row : Row) (n : Node) : Decidable (n.Agrees d row) :=
  inferInstanceAs (Decidable (_ ∧ _))

lemma matchesRow_eq_decide (d : Descriptor) (row : Row) (n : Node) :
    n.matchesRow d row = decide (n.Agrees d row) := by
  rw [Bool.eq_iff_iff, decide_eq_true_iff]
  simp [matchesRow, isMatch, Agrees]

/-- A node after the write of a row. -/
def write (d : Descriptor) (n : Node) (row : Row) : Node :=
  if n.Agrees d row then n.set d.property row.stamp else n

/-- A node after the writes of some rows, in order. -/
def writeAll (d : Descriptor) (n : Node) (rows : List Row) : Node :=
  rows.foldl (write d) n

/-- The last of some rows that agrees with a node. -/
def lastAgreeing? (d : Descriptor) (rows : List Row) (n : Node) : Option Row :=
  (rows.filter (n.Agrees d ·)).getLast?

@[simp] lemma writeAll_nil (d : Descriptor) (n : Node) : n.writeAll d [] = n := rfl

@[simp] lemma writeAll_cons (d : Descriptor) (n : Node) (row : Row) (rows : List Row) :
    n.writeAll d (row :: rows) = (n.write d row).writeAll d rows := rfl

lemma writeAll_append (d : Descriptor) (n : Node) (rows later : List Row) :
    n.writeAll d (rows ++ later) = (n.writeAll d rows).writeAll d later :=
  List.foldl_append

lemma lastAgreeing?_concat (d : Descriptor) (rows : List Row) (row : Row) (n : Node) :
    n.lastAgreeing? d (rows ++ [row]) =
      if n.Agrees d row then some row else n.lastAgreeing? d rows := by
  by_cases h : n.Agrees d row <;> simp [lastAgreeing?, h]

lemma lastAgreeing?_eq_none_iff {d : Descriptor} {rows : List Row} {n : Node} :
    n.lastAgreeing? d rows = none ↔ ∀ row ∈ rows, ¬ n.Agrees d row := by
  simp [lastAgreeing?]

section

variable {d : Descriptor} (hd : d.property ∉ d.keyFields)
include hd

/-- A write does not touch the key fields, so it does not change which rows agree with a node. -/
lemma agrees_set_iff (n : Node) (value : String) (row : Row) :
    (n.set d.property value).Agrees d row ↔ n.Agrees d row := by
  simp only [Agrees, label_set]
  refine and_congr_right fun _ => forall₂_congr fun field hfield => ?_
  have hne : field ≠ d.property := by
    rintro rfl
    exact hd hfield
  rw [get?_set_of_ne hne]

lemma agrees_write_iff (n : Node) (row other : Row) :
    (n.write d row).Agrees d other ↔ n.Agrees d other := by
  unfold write
  split
  · exact agrees_set_iff hd n row.stamp other
  · rfl

lemma agrees_writeAll_iff (n : Node) (rows : List Row) (other : Row) :
    (n.writeAll d rows).Agrees d other ↔ n.Agrees d other := by
  induction rows generalizing n with
  | nil => rfl
  | cons row rows ih => rw [writeAll_cons, ih, agrees_write_iff hd]

/-- Of the rows written to a node the last that agrees with it decides. -/
lemma writeAll_eq (n : Node) (rows : List Row) :
    n.writeAll d rows =
      (n.lastAgreeing? d rows).elim n fun row => n.set d.property row.stamp := by
  induction rows using List.reverseRecOn with
  | nil => rfl
  | append_singleton rows row ih =>
    rw [writeAll_append, writeAll_cons, writeAll_nil, write, lastAgreeing?_concat]
    by_cases h : n.Agrees d row
    · rw [if_pos ((agrees_writeAll_iff hd n rows row).mpr h), if_pos h, ih]
      -- whatever an earlier row has set is set again
      cases n.lastAgreeing? d rows <;> simp
    · rw [if_neg (mt (agrees_writeAll_iff hd n rows row).mp h), if_neg h, ih]

/-- Rows that are all written again later leave nothing behind. -/
lemma writeAll_writeAll_of_subset (n : Node) {earlier rows : List Row} (h : earlier ⊆ rows) :
    (n.writeAll d earlier).writeAll d rows = n.writeAll d rows := by
  rw [← writeAll_append, writeAll_eq hd, writeAll_eq hd]
  have hlast : n.lastAgreeing? d (earlier ++ rows) =
      (n.lastAgreeing? d rows).or (n.lastAgreeing? d earlier) := by
    simp [lastAgreeing?, List.filter_append]
  cases hrows : n.lastAgreeing? d rows with
  | some row => simp [hlast, hrows]
  | none =>
    -- no row agrees with the node, so no earlier one does
    have hnone : n.lastAgreeing? d earlier = none :=
      lastAgreeing?_eq_none_iff.mpr fun row hrow =>
        lastAgreeing?_eq_none_iff.mp hrows row (h hrow)
    simp [hlast, hrows, hnone]

end

/-- What some rows, written in order, make of a node: the last of them that agrees with the node
gives the property, and all else stays as it was. -/
structure Updated (d : Descriptor) (rows : List Row) (before after : Node) : Prop where
  label : after.label = before.label
  others : ∀ prop, prop ≠ d.property → after.get? prop = before.get? prop
  property : after.get? d.property =
    ((before.lastAgreeing? d rows).map Row.stamp).or (before.get? d.property)

lemma updated_writeAll {d : Descriptor} (hd : d.property ∉ d.keyFields) (rows : List Row)
    (n : Node) : Updated d rows n (n.writeAll d rows) := by
  rw [writeAll_eq hd]
  cases h : n.lastAgreeing? d rows with
  | none => exact ⟨rfl, fun _ _ => rfl, by rw [h]; rfl⟩
  | some row =>
    refine ⟨rfl, fun _ hprop => get?_set_of_ne hprop n row.stamp, ?_⟩
    rw [h]
    exact get?_set_self n d.property row.stamp

lemma forall₂_updated_map {d : Descriptor} (hd : d.property ∉ d.keyFields) (rows : List Row)
    (nodes : List Node) :
    List.Forall₂ (Updated d rows) nodes (nodes.map (writeAll d · rows)) := by
  rw [List.forall₂_map_right_iff, List.forall₂_same]
  exact fun n _ => updated_writeAll hd rows n

end Node

/-! ### Lists of nodes -/

/-- The number of nodes that a row agrees with. -/
def countAgreeing (d : Descriptor) (row : Row) (nodes : List Node) : Nat :=
  nodes.countP (Node.Agrees d row ·)

lemma writeRow_eq (d : Descriptor) (row : Row) (nodes : List Node) :
    writeRow d row nodes = (countAgreeing d row nodes, nodes.map (Node.write d · row)) := by
  have htest : Node.matchesRow d row = fun n => decide (n.Agrees d row) :=
    funext (Node.matchesRow_eq_decide d row)
  simp [writeRow, setWhere, countAgreeing, htest, Node.write]

lemma countAgreeing_map_writeAll {d : Descriptor} (hd : d.property ∉ d.keyFields) (rows : List Row)
    (row : Row) (nodes : List Node) :
    countAgreeing d row (nodes.map (Node.writeAll d · rows)) = countAgreeing d row nodes := by
  simp [countAgreeing, List.countP_map, Function.comp_def, Node.agrees_writeAll_iff hd]

/-- What writes that were acknowledged, each with the number of nodes it matched, have made of a
list of nodes. -/
structure Acknowledged (d : Descriptor) (written : List (Row × Int)) (before after : List Node) :
    Prop where
  nodes : after = before.map (Node.writeAll d · (written.map Prod.fst))
  counts : ∀ p ∈ written, p.2 = countAgreeing d p.1 before

namespace Acknowledged

lemma none (d : Descriptor) (nodes : List Node) : Acknowledged d [] nodes nodes :=
  ⟨by simp, by simp⟩

lemma row (d : Descriptor) (row : Row) (nodes : List Node) :
    Acknowledged d [(row, countAgreeing d row nodes)] nodes (nodes.map (Node.write d · row)) :=
  ⟨by simp, by simp⟩

variable {d : Descriptor} {xs ys : List (Row × Int)} {before middle after : List Node}

/-- Later writes match what they would have matched at first. -/
lemma append (hd : d.property ∉ d.keyFields) (hxs : Acknowledged d xs before middle)
    (hys : Acknowledged d ys middle after) : Acknowledged d (xs ++ ys) before after := by
  constructor
  · rw [hys.nodes, hxs.nodes, List.map_append, List.map_map]
    exact List.map_congr_left fun n _ => (Node.writeAll_append d n _ _).symm
  · intro p hp
    rcases List.mem_append.mp hp with hp | hp
    · exact hxs.counts p hp
    · rw [hys.counts p hp, hxs.nodes, countAgreeing_map_writeAll hd]

/-- The numbers are determined by the rows. -/
lemma written_eq (h : Acknowledged d xs before after) :
    xs = (xs.map Prod.fst).map fun row => (row, (countAgreeing d row before : Int)) := by
  rw [List.map_map]
  conv_lhs => rw [← List.map_id xs]
  exact List.map_congr_left fun p hp => Prod.ext rfl (h.counts p hp)

lemma updated (hd : d.property ∉ d.keyFields) (h : Acknowledged d xs before after) :
    List.Forall₂ (Node.Updated d (xs.map Prod.fst)) before after := by
  rw [h.nodes]
  exact Node.forall₂_updated_map hd _ before

end Acknowledged

end Graph

end Backfill
