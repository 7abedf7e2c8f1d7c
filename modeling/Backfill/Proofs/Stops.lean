import Mathlib.Data.ENat.Basic
import Backfill.Proofs.Turns

/-!
# Where a run stops

A run stops at the first row that cannot be read or, if it writes and does not skip failing rows, at
the first row that is given up, whichever comes first; else it returns. Up to there every row has
had its turn, and nothing after it is touched.
-/

namespace Backfill.Sync

open Source (Item)

/-! ### Positions -/

/-- The position, counted from 1, of the first element that satisfies a test; infinite if none
does. -/
def firstPosition {α : Type} (test : α → Bool) (xs : List α) : ℕ∞ :=
  (xs.findIdx? test).elim ⊤ fun i => (i + 1 : ℕ)

section

variable {α : Type} {test : α → Bool} {x : α}

lemma firstPosition_pos (test : α → Bool) (xs : List α) : 0 < firstPosition test xs := by
  cases h : xs.findIdx? test <;> simp [firstPosition, h]

lemma firstPosition_cons_of_pos (h : test x = true) (xs : List α) :
    firstPosition test (x :: xs) = 1 := by
  simp [firstPosition, List.findIdx?_cons, h]

lemma firstPosition_cons_of_neg (h : test x = false) (xs : List α) :
    firstPosition test (x :: xs) = firstPosition test xs + 1 := by
  cases hidx : xs.findIdx? test <;> simp [firstPosition, List.findIdx?_cons, h, hidx]

end

/-- The position of the first item that is no row. -/
def faultPosition (items : List Item) : ℕ∞ :=
  firstPosition (fun item => !item.isOk) items

/-- Whether a run stops at a row that is given up: it writes, and such rows are not skipped. -/
def Options.StopsAtFailure (o : Options) : Prop :=
  o.dryRun = false ∧ o.failureMode = .abort

instance (o : Options) : Decidable o.StopsAtFailure :=
  inferInstanceAs (Decidable (_ ∧ _))

variable {σ : Type}

/-- The position of the first row that is given up, from the state that the rows before it leave;
infinite also if the run does not stop at such rows. -/
def givenUpPosition (w : Writer σ) (o : Options) (kind : Kind) (s : σ) (items : List Item) : ℕ∞ :=
  if o.StopsAtFailure then
    firstPosition (Turn.isGivenUp w kind.descriptor o.granted)
      (turns w kind.descriptor o.granted s items)
  else ⊤

section

variable {w : Writer σ} {o : Options} {kind : Kind}

lemma faultPosition_pos (items : List Item) : 0 < faultPosition items :=
  firstPosition_pos _ items

lemma faultPosition_error (fault : Source.Fault) (items : List Item) :
    faultPosition (.error fault :: items) = 1 :=
  firstPosition_cons_of_pos rfl items

lemma faultPosition_ok (row : Row) (items : List Item) :
    faultPosition (.ok row :: items) = faultPosition items + 1 :=
  firstPosition_cons_of_neg rfl items

lemma givenUpPosition_nil (s : σ) : givenUpPosition w o kind s [] = ⊤ :=
  ite_self ⊤

lemma givenUpPosition_pos (s : σ) (items : List Item) : 0 < givenUpPosition w o kind s items := by
  unfold givenUpPosition
  split
  · exact firstPosition_pos _ _
  · exact ENat.top_pos

lemma givenUpPosition_cons_of_pos {s : σ} {item : Item} (ho : o.StopsAtFailure)
    (h : Turn.isGivenUp w kind.descriptor o.granted ⟨item, s⟩ = true) (items : List Item) :
    givenUpPosition w o kind s (item :: items) = 1 := by
  rw [givenUpPosition, if_pos ho]
  exact firstPosition_cons_of_pos h _

lemma givenUpPosition_cons_of_neg {s : σ} {item : Item}
    (h : o.StopsAtFailure → Turn.isGivenUp w kind.descriptor o.granted ⟨item, s⟩ = false)
    (items : List Item) :
    givenUpPosition w o kind s (item :: items) =
      givenUpPosition w o kind (Turn.leave w kind.descriptor o.granted ⟨item, s⟩) items + 1 := by
  by_cases ho : o.StopsAtFailure
  · rw [givenUpPosition, givenUpPosition, if_pos ho, if_pos ho]
    exact firstPosition_cons_of_neg (h ho) _
  · rw [givenUpPosition, givenUpPosition, if_neg ho, if_neg ho]
    rfl

/-! ### One item -/

/-- Why an item stops a run, or that it does not. -/
lemma StepRule.stop_cases {st : Standing σ} {item : Item} {leg : Leg σ}
    (h : StepRule w o kind st item leg) :
    (∃ fault, item = .error fault ∧
        leg.stop = some (.read kind (st.report.rowsRead + 1) fault)) ∨
      (∃ row last, item = .ok row ∧ o.StopsAtFailure ∧
        Turn.isGivenUp w kind.descriptor o.granted ⟨.ok row, st.state⟩ = true ∧
        (answers w kind.descriptor row o.granted st.state).getLast? = some (.error last) ∧
        leg.stop = some (.write kind row.key (gaveUp o.retry.attempts last))) ∨
      ∃ row, item = .ok row ∧
        (o.StopsAtFailure →
          Turn.isGivenUp w kind.descriptor o.granted ⟨.ok row, st.state⟩ = false) ∧
        leg.stop = none ∧ leg.standing.report.rowsRead = st.report.rowsRead + 1 := by
  cases h with
  | unreadable fault => exact Or.inl ⟨fault, rfl, rfl⟩
  | omitted row hdry =>
    refine Or.inr (Or.inr ⟨row, rfl, fun ho => ?_, rfl, rfl⟩)
    -- a dry run does not stop at failures
    cases hdry.symm.trans ho.1
  | @acknowledged row a matched hdry ha hres =>
    have hfollow := ha ▸ write_follow w kind.descriptor row o.retry st.time st.state
    rw [Options.granted_of_writing hdry]
    refine Or.inr (Or.inr ⟨row, rfl, fun _ => ?_, rfl, rfl⟩)
    rw [Turn.isGivenUp, ← Bool.not_eq_true, isGivenUp_iff, hfollow.of_ok hres]
    exact Option.some_ne_none matched
  | @aborted row a e hdry ha hres hmode =>
    have hfollow := ha ▸ write_follow w kind.descriptor row o.retry st.time st.state
    rw [Options.granted_of_writing hdry]
    obtain ⟨hnone, last, hlast, rfl⟩ := hfollow.of_error hres
    exact Or.inr (Or.inl ⟨row, last, rfl, ⟨hdry, hmode⟩, isGivenUp_iff.mpr hnone, hlast, rfl⟩)
  | @skipped row _ _ _ _ _ hmode =>
    refine Or.inr (Or.inr ⟨row, rfl, fun ho => ?_, rfl, rfl⟩)
    cases hmode.symm.trans ho.2

/-! ### All items -/

/-- A trace holds the attempts of some turns and the acknowledgements of some, and no others. -/
structure Trace.Covers (w : Writer σ) (d : Descriptor) (n : Nat) (trace : Trace)
    (tried told : List (Turn σ)) : Prop where
  calls : trace.calls.map Call.row = tried.flatMap (Turn.attempted w d n)
  written : trace.written = told.flatMap (Turn.acknowledged w d n)

lemma Trace.Covers.after {st : Standing σ} {item : Item} {leg : Leg σ} {trace : Trace}
    {tried told : List (Turn σ)} (h : trace.Covers w kind.descriptor o.granted tried told)
    (hrule : StepRule w o kind st item leg) :
    (leg.trace ++ trace).Covers w kind.descriptor o.granted (⟨item, st.state⟩ :: tried)
      (⟨item, st.state⟩ :: told) := by
  obtain ⟨hcalls, hwritten, -⟩ := hrule.turn
  constructor
  · rw [Trace.calls_append, List.map_append, hcalls, h.calls, List.flatMap_cons]
  · rw [Trace.written_append, hwritten, h.written, List.flatMap_cons]

/-- How a run ends: at a row that cannot be read, at a row that is given up, or not before the end
of the stream. In the first two cases the turns up to there have been taken, and no others. -/
inductive Ending (w : Writer σ) (o : Options) (kind : Kind) (st : Standing σ) (items : List Item)
    (leg : Leg σ) : Prop
  | unreadable (i : Nat) (fault : Source.Fault) (hp : faultPosition items = (i + 1 : ℕ))
      (hlt : faultPosition items < givenUpPosition w o kind st.state items)
      (hitem : items[i]? = some (.error fault))
      (hstop : leg.stop = some (.read kind (st.report.rowsRead + (i + 1)) fault))
      (hcovers : leg.trace.Covers w kind.descriptor o.granted
        ((turns w kind.descriptor o.granted st.state items).take i)
        ((turns w kind.descriptor o.granted st.state items).take i))
  | givenUp (i : Nat) (row : Row) (s : σ) (last : Failure) (ho : o.StopsAtFailure)
      (hq : givenUpPosition w o kind st.state items = (i + 1 : ℕ))
      (hlt : givenUpPosition w o kind st.state items < faultPosition items)
      (hturn : (turns w kind.descriptor o.granted st.state items)[i]? = some ⟨.ok row, s⟩)
      (hlast : (answers w kind.descriptor row o.granted s).getLast? = some (.error last))
      (hstop : leg.stop = some (.write kind row.key (gaveUp o.retry.attempts last)))
      (hcovers : leg.trace.Covers w kind.descriptor o.granted
        ((turns w kind.descriptor o.granted st.state items).take (i + 1))
        ((turns w kind.descriptor o.granted st.state items).take i))
  | completed (hp : faultPosition items = ⊤) (hq : givenUpPosition w o kind st.state items = ⊤)
      (hstop : leg.stop = none)

/-- An item that stops a run is where it ends. -/
lemma Ending.of_stop {st : Standing σ} {item : Item} {leg : Leg σ} {e : RunError}
    (hrule : StepRule w o kind st item leg) (hstop : leg.stop = some e) (items : List Item) :
    Ending w o kind st (item :: items) leg := by
  obtain ⟨hcalls, hwritten, -⟩ := hrule.turn
  -- the other position is beyond the first item
  have hone {a : ℕ∞} (h : 0 < a) : 1 < a + 1 := by
    simpa using (ENat.add_lt_add_iff_right ENat.one_ne_top).mpr h
  rcases hrule.stop_cases with
    ⟨fault, rfl, h⟩ | ⟨row, last, rfl, ho, hgiven, hlast, h⟩ | ⟨_, _, _, hnone, _⟩
  · refine .unreadable 0 fault ?_ ?_ rfl h ⟨hcalls, hwritten⟩
    · rw [faultPosition_error]
      rfl
    · rw [faultPosition_error, givenUpPosition_cons_of_neg fun _ => rfl]
      exact hone (givenUpPosition_pos _ _)
  · have hq := givenUpPosition_cons_of_pos ho hgiven items
    refine .givenUp 0 row st.state last ho hq ?_ rfl hlast h ⟨?_, ?_⟩
    · rw [hq, faultPosition_ok]
      exact hone (faultPosition_pos items)
    · rw [hcalls, turns, List.take_succ_cons, List.take_zero, List.flatMap_singleton]
    · rw [hwritten, Turn.acknowledged, isGivenUp_iff.mp hgiven]
      rfl
  · cases hstop.symm.trans hnone

/-- A turn that does not stop a run puts off the end of what follows by one. -/
lemma Ending.after {st : Standing σ} {item : Item} {items : List Item} {leg later : Leg σ}
    (h : Ending w o kind leg.standing items later) (hrule : StepRule w o kind st item leg)
    (hnone : leg.stop = none) :
    Ending w o kind st (item :: items) { later with trace := leg.trace ++ later.trace } := by
  rcases hrule.stop_cases with
    ⟨_, _, hstop⟩ | ⟨_, _, _, _, _, _, hstop⟩ | ⟨row, rfl, hgiven, _, hread⟩
  · cases hnone.symm.trans hstop
  · cases hnone.symm.trans hstop
  · obtain ⟨-, -, hstate⟩ := hrule.turn
    -- both positions are one further than in what follows
    have hp₁ := faultPosition_ok row items
    have hq₁ := givenUpPosition_cons_of_neg hgiven items
    have hlt_iff {a b : ℕ∞} : a + 1 < b + 1 ↔ a < b := ENat.add_lt_add_iff_right ENat.one_ne_top
    rw [← hstate] at hq₁
    cases h with
    | unreadable i fault hp hlt hitem hstop hcovers =>
      refine .unreadable (i + 1) fault ?_ ?_ hitem ?_ ?_
      · rw [hp₁, hp, ← Nat.cast_succ]
      · rwa [hp₁, hq₁, hlt_iff]
      · rwa [hread, Nat.add_assoc, Nat.add_comm 1] at hstop
      · rw [hstate] at hcovers
        exact hcovers.after hrule
    | givenUp i row' s last ho hq hlt hturn hlast hstop hcovers =>
      rw [hstate] at hturn hcovers
      refine .givenUp (i + 1) row' s last ho ?_ ?_ hturn hlast hstop (hcovers.after hrule)
      · rw [hq₁, hq, ← Nat.cast_succ]
      · rwa [hp₁, hq₁, hlt_iff]
    | completed hp hq hstop =>
      refine .completed ?_ ?_ hstop
      · rw [hp₁, hp, top_add]
      · rw [hq₁, hq, top_add]

lemma steps_ending (w : Writer σ) (o : Options) (kind : Kind) (st : Standing σ)
    (items : List Item) : Ending w o kind st items (steps w o kind st items) := by
  apply steps_induction (P := Ending w o kind)
  · intro st
    exact .completed rfl (givenUpPosition_nil st.state) rfl
  · intro st item items leg e hrule hstop
    exact .of_stop hrule hstop items
  · intro st item items leg hrule hstop later ih
    exact ih.after hrule hstop

end

/-! ### The whole run -/

/-- Why a run fails, for any writer. Let `p` be the position of the first row that cannot be read
and `q` that of the first row that is given up, where only a run that writes and does not skip rows
gives up any. The run fails if and only if one of them is finite, and then one comes first. If it is
`p`, the error names it and tells the fault, whatever the options and however many rows failed
before. If it is `q`, the error names the row and the number of attempts, and tells the failure of
the last one. Attempts have been made at the rows up to there and at no others, and the acknowledged
rows are those among them that had a success. -/
theorem run_fails_at_first_obstacle (w : Writer σ) (s : σ) (kind : Kind) (o : Options)
    (items : List Item) :
    let out := run w o kind s items
    let d := kind.descriptor
    let queue := turns w d o.granted s items
    let p := faultPosition items
    let q := givenUpPosition w o kind s items
    ((∃ e, out.result = .error e) ↔ p ≠ ⊤ ∨ q ≠ ⊤) ∧
      (p = q → p = ⊤) ∧
      (p < q → ∃ i fault e, p = (i + 1 : ℕ) ∧ items[i]? = some (.error fault) ∧
        out.result = .error e ∧
        e.failure.chain = ("Failed to read " ++ kind.name ++ " row " ++ Text.nat (i + 1) ++
          " from PostgreSQL") :: fault.failure.chain ∧
        out.trace.calls.map Call.row = (queue.take i).flatMap (Turn.attempted w d o.granted) ∧
        out.trace.written = (queue.take i).flatMap (Turn.acknowledged w d o.granted)) ∧
      (q < p → ∃ i row s' last e, q = (i + 1 : ℕ) ∧ queue[i]? = some ⟨.ok row, s'⟩ ∧
        (answers w d row o.retry.attempts.toNat s').getLast? = some (.error last) ∧
        out.result = .error e ∧
        e.failure.chain =
          ("Failed to set " ++ d.property ++ " on " ++ d.label ++ " \x7b" ++ row.key.text ++
            "\x7d") ::
            ("gave up after " ++ Text.nat o.retry.attempts.toNat ++ " attempt(s)") :: last.chain ∧
        out.trace.calls.map Call.row =
          (queue.take (i + 1)).flatMap (Turn.attempted w d o.granted) ∧
        out.trace.written = (queue.take i).flatMap (Turn.acknowledged w d o.granted)) := by
  intro out d queue p q
  have hending := steps_ending w o kind (.start kind s) items
  simp only [out, run_result_eq_error_iff, run_calls, run_written]
  -- the ending tells which position comes first; the other order is then impossible
  cases hending with
  | unreadable i fault hp hlt hitem hstop hcovers =>
    -- a run starts with no rows read, so the position in the error is that in the stream
    rw [show (Standing.start kind s).report.rowsRead = 0 from rfl, Nat.zero_add] at hstop
    refine ⟨⟨fun _ => Or.inl ?_, fun _ => ⟨_, hstop⟩⟩, fun h => ?_, fun _ => ?_, fun h => ?_⟩
    · exact ne_top_of_lt hlt
    · exact absurd h hlt.ne
    · exact ⟨i, fault, _, hp, hitem, hstop, rfl, hcovers.calls, hcovers.written⟩
    · exact absurd hlt h.not_gt
  | givenUp i row s' last ho hq hlt hturn hlast hstop hcovers =>
    -- a run that gives up a row is not dry, so it has all attempts of its policy
    rw [Options.granted_of_writing ho.1] at hlast
    refine ⟨⟨fun _ => Or.inr ?_, fun _ => ⟨_, hstop⟩⟩, fun h => ?_, fun h => ?_, fun _ => ?_⟩
    · exact ne_top_of_lt hlt
    · exact absurd h hlt.ne'
    · exact absurd hlt h.not_gt
    · exact ⟨i, row, s', last, _, hq, hturn, hlast, hstop, rfl, hcovers.calls, hcovers.written⟩
  | completed hp hq hstop =>
    -- neither position is finite, and none comes before the other
    refine ⟨⟨?_, ?_⟩, fun _ => hp, fun h => ?_, fun h => ?_⟩
    · rintro ⟨e, herror⟩
      cases hstop.symm.trans herror
    · rintro (h | h)
      · exact absurd hp h
      · exact absurd hq h
    · exact absurd hp (ne_top_of_lt h)
    · exact absurd hq (ne_top_of_lt h)

end Backfill.Sync
