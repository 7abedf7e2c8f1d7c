import Mathlib.Algebra.BigOperators.Ring.Finset
import Mathlib.Algebra.Ring.Int.Defs
import Backfill.Graph.Memory
import Backfill.Proofs.Concatenation

/-!
# Every row is accounted for

A run that writes and returns has dealt with every row of the stream: the rows acknowledged and the
rows skipped, merged in their order, are the rows of the stream. The report counts them, and it
sorts the acknowledged ones by the number of nodes matched.
-/

namespace Backfill.Sync

open Source (Item)

/-! ### Merging -/

/-- The third list is the first two, merged: each of its elements is the next of one of them. -/
inductive Merge {α : Type} : List α → List α → List α → Prop
  | nil : Merge [] [] []
  | left (a : α) {xs ys zs : List α} (h : Merge xs ys zs) : Merge (a :: xs) ys (a :: zs)
  | right (a : α) {xs ys zs : List α} (h : Merge xs ys zs) : Merge xs (a :: ys) (a :: zs)

namespace Merge

variable {α : Type} {xs ys zs xs' ys' zs' : List α}

lemma append (h : Merge xs ys zs) (h' : Merge xs' ys' zs') :
    Merge (xs ++ xs') (ys ++ ys') (zs ++ zs') := by
  induction h with
  | nil => exact h'
  | left a _ ih => exact ih.left a
  | right a _ ih => exact ih.right a

lemma length_eq (h : Merge xs ys zs) : zs.length = xs.length + ys.length := by
  induction h with
  | nil => rfl
  | left a _ ih => rw [List.length_cons, List.length_cons, ih, Nat.add_right_comm]
  | right a _ ih => rw [List.length_cons, List.length_cons, ih, Nat.add_assoc]

end Merge

/-! ### Counting -/

namespace Report

/-- The report of so many rows, of which some were acknowledged, each with the number of nodes that
it matched, and some were skipped. -/
def tally (kind : Kind) (rows : Nat) (written : List (Row × Int)) (skipped : List SkippedRow) :
    Report :=
  { kind := kind
    rowsRead := rows
    writes := written.length
    nodesUpdated := (written.map fun p => p.2.toNat).sum
    missing := (written.map Prod.snd).count 0
    duplicates := (written.map Prod.snd).countP fun n => n ≠ 0 ∧ n ≠ 1
    skipped := skipped }

lemma tally_append (kind : Kind) (m n : Nat) (xs ys : List (Row × Int)) (ss ts : List SkippedRow) :
    tally kind m xs ss + tally kind n ys ts = tally kind (m + n) (xs ++ ys) (ss ++ ts) := by
  simp [add_def, Report.add, tally]

lemma empty_add (a : Report) : { kind := a.kind } + a = a := by
  simp [add_def, Report.add]

lemma add_assoc (a b c : Report) : a + b + c = a + (b + c) := by
  simp [add_def, Report.add, Nat.add_assoc]

lemma countRow_countWrite_eq (r : Report) (row : Row) (matched : Int) :
    r.countRow.countWrite matched = r + tally r.kind 1 [(row, matched)] [] := by
  by_cases h0 : matched = 0 <;> by_cases h1 : matched = 1 <;>
    simp [countRow, countWrite, add_def, Report.add, tally, h0, h1]

lemma countRow_skip_eq (r : Report) (s : SkippedRow) :
    r.countRow.skip s = r + tally r.kind 1 [] [s] := by
  simp [countRow, skip, add_def, Report.add, tally]

end Report

/-! ### Accounts -/

/-- Some rows are accounted for between two reports: each of them was acknowledged or skipped, and
the later report has them counted on top of the earlier one. -/
def AccountedFor (rows : List Row) (written : List (Row × Int)) (before after : Report) : Prop :=
  ∃ failed skipped, Merge (written.map Prod.fst) failed rows ∧
    skipped.map SkippedRow.key = failed.map Row.key ∧
    after = before + .tally before.kind rows.length written skipped

lemma AccountedFor.append {rows rows' : List Row} {xs ys : List (Row × Int)} {a b c : Report}
    (h : AccountedFor rows xs a b) (h' : AccountedFor rows' ys b c) :
    AccountedFor (rows ++ rows') (xs ++ ys) a c := by
  obtain ⟨failed, skipped, hmerge, hkeys, rfl⟩ := h
  obtain ⟨failed', skipped', hmerge', hkeys', rfl⟩ := h'
  refine ⟨failed ++ failed', skipped ++ skipped', ?_, ?_, ?_⟩
  · rw [List.map_append]
    exact hmerge.append hmerge'
  · rw [List.map_append, List.map_append, hkeys, hkeys']
  · rw [Report.add_assoc, List.length_append, ← Report.tally_append]
    rfl

variable {σ : Type} {w : Writer σ} {o : Options} {kind : Kind}

/-- An item that does not stop a run that writes is a row, which is acknowledged or skipped. -/
lemma StepRule.accountedFor {st : Standing σ} {item : Item} {leg : Leg σ}
    (h : StepRule w o kind st item leg) (hdry : o.dryRun = false) (hstop : leg.stop = none) :
    ∃ row, item = .ok row ∧
      AccountedFor [row] leg.trace.written st.report leg.standing.report := by
  cases h with
  | unreadable | aborted => cases hstop
  | omitted _ h => cases hdry.symm.trans h
  | @acknowledged row _ matched =>
    refine ⟨row, rfl, [], [], .left row .nil, rfl, ?_⟩
    exact st.report.countRow_countWrite_eq row matched
  | @skipped row =>
    exact ⟨row, rfl, [row], [_], .right row .nil, rfl, st.report.countRow_skip_eq _⟩

lemma steps_accountedFor (hdry : o.dryRun = false) (st : Standing σ) (items : List Item)
    (hstop : (steps w o kind st items).stop = none) :
    ∃ rows : List Row, items = rows.map .ok ∧
      AccountedFor rows (steps w o kind st items).trace.written st.report
        (steps w o kind st items).standing.report := by
  revert hstop
  apply steps_induction (P := fun st items leg => leg.stop = none →
    ∃ rows : List Row, items = rows.map .ok ∧
      AccountedFor rows leg.trace.written st.report leg.standing.report)
  · intro st _
    refine ⟨[], rfl, [], [], .nil, rfl, ?_⟩
    exact (st.report.add_empty _).symm
  · intro st item items leg e _ hstop hnone
    cases hstop.symm.trans hnone
  · intro st item items leg hrule hstop later ih hnone
    obtain ⟨row, rfl, hrow⟩ := hrule.accountedFor hdry hstop
    obtain ⟨rows, rfl, hrows⟩ := ih hnone
    exact ⟨row :: rows, rfl, hrow.append hrows⟩

/-- A run that writes and returns loses no row and counts none twice, for any writer. The rows of
the stream are the acknowledged rows and the rows that were skipped, merged in their order. All of
them are counted as read, the acknowledged ones as writes; of the numbers of nodes matched, those
that are zero count as missing and those that are neither zero nor one as duplicates, and the nodes
updated are their sum, where a negative number counts as zero. -/
theorem every_row_accounted_for (w : Writer σ) (s : σ) (kind : Kind) (o : Options)
    (hdry : o.dryRun = false) (items : List Item) {report : Report}
    (hok : (run w o kind s items).result = .ok report) :
    let written := (run w o kind s items).trace.written
    let counts := written.map Prod.snd
    (∃ rows failed : List Row, items = rows.map .ok ∧ Merge (written.map Prod.fst) failed rows ∧
        report.skipped.map SkippedRow.key = failed.map Row.key) ∧
      report.rowsRead = report.writes + report.skipped.length ∧ report.rowsRead = items.length ∧
      report.writes = written.length ∧ report.missing = counts.count 0 ∧
      report.duplicates = counts.countP (fun n => n ≠ 0 ∧ n ≠ 1) ∧
      (report.nodesUpdated : Int) = (counts.map (max · 0)).sum := by
  intro written counts
  obtain ⟨hstop, hreport⟩ := (run_result_eq_ok_iff w o kind s items report).mp hok
  obtain ⟨rows, hitems, failed, skipped, hmerge, hkeys, htally⟩ :=
    steps_accountedFor hdry (.start kind s) items hstop
  rw [← run_written] at hmerge htally
  -- the report at the start is empty, so the tally of the rows is all of the report
  have htallied : report = .tally kind rows.length written skipped := by
    rw [← hreport, htally]
    exact (Report.tally kind rows.length written skipped).empty_add
  subst htallied
  have hlength : rows.length = written.length + failed.length := by
    simpa using hmerge.length_eq
  have hskipped : skipped.length = failed.length := by
    simpa using congrArg List.length hkeys
  refine ⟨⟨rows, failed, hitems, hmerge, hkeys⟩, ?_, ?_, rfl, rfl, rfl, ?_⟩
  · show rows.length = written.length + skipped.length
    rw [hlength, hskipped]
  · rw [hitems, List.length_map]
    rfl
  · -- negative counts of nodes add nothing
    show (((written.map fun p => p.2.toNat).sum : Nat) : Int) = _
    rw [Nat.cast_list_sum, List.map_map, List.map_map]
    simp only [Function.comp_def, Int.ofNat_toNat]

/-- Of five rows one is skipped after two attempts, and the others match no node, three nodes, one
node and, as the graph has it, less than none. -/
theorem every_row_accounted_for_with_skip :
    let row (name : String) : Row := ⟨.ofCrate name, ⟨1577836800, 0, by decide, by decide⟩⟩
    let rows := ["rand", "serde", "tokio", "libc", "syn"].map row
    let graph : Graph.Memory :=
      { nodes := []
        disturbances := [("name=serde", ⟨none, { text := "connection reset by peer" }⟩)]
        counts := [("name=rand", 0), ("name=tokio", 3), ("name=libc", 1), ("name=syn", -2)] }
    let o : Options := { retry := ⟨2, 0, 0⟩, failureMode := .skip }
    let report : Report :=
      { kind := .crate, rowsRead := 5, writes := 4, nodesUpdated := 4, missing := 1, duplicates := 2
        skipped := [⟨.ofCrate "serde", "Failed to set created_at on Crate \x7bname=serde\x7d: " ++
          "gave up after 2 attempt(s): connection reset by peer"⟩] }
    let items : List Item := rows.map .ok
    (run Graph.Memory.writer o .crate graph items).result = .ok report ∧
      let written := (run Graph.Memory.writer o .crate graph items).trace.written
      let counts := written.map Prod.snd
      (∃ rows failed : List Row, items = rows.map .ok ∧ Merge (written.map Prod.fst) failed rows ∧
          report.skipped.map SkippedRow.key = failed.map Row.key) ∧
        report.rowsRead = report.writes + report.skipped.length ∧ report.rowsRead = items.length ∧
        report.writes = written.length ∧ report.missing = counts.count 0 ∧
        report.duplicates = counts.countP (fun n => n ≠ 0 ∧ n ≠ 1) ∧
        (report.nodesUpdated : Int) = (counts.map (max · 0)).sum := by
  intro row rows graph o report items
  have hok : (run Graph.Memory.writer o .crate graph items).result = .ok report := by
    decide +kernel
  exact ⟨hok, every_row_accounted_for Graph.Memory.writer graph .crate o rfl items hok⟩

end Backfill.Sync
