import Mathlib.Data.List.Forall2
import Backfill.Proofs.DryRun

/-!
# Runs that leave nothing behind

Nothing of a kind is left behind if all of its rows can be read and decoded and, unless the run is
dry, each of them is acknowledged within the attempts that are granted. This is said of the source
and the writer alone, and it is what a run that returns and skips no row comes to.
-/

namespace Backfill

/-! ### Rows that can all be read -/

namespace Source

/-- A feed has nothing but rows, and does not break off, if all of its results have been fetched and
decoded. -/
lemma Feed.ofStream_eq_iff {d : Descriptor} {stream : List (Except DriverError ResultRow)}
    {rows : List Row} :
    Feed.ofStream d stream = ⟨rows.map .ok, false⟩ ↔
      List.Forall₂ (fun fetched row => ∃ result, fetched = .ok result ∧
        decodeRow d result = .ok (some row)) stream rows := by
  induction stream generalizing rows with
  | nil => cases rows <;> simp [Feed.ofStream]
  | cons fetched stream ih =>
    cases fetched with
    -- each case but the last leaves something that is no row, or a feed that is broken off
    | error e => cases rows <;> simp [Feed.ofStream, Feed.cons]
    | ok result =>
      cases hdecode : decodeRow d result with
      | error fault => cases rows <;> simp [Feed.ofStream, Feed.cons, hdecode]
      | ok decoded =>
        cases decoded with
        | none => cases rows <;> simp [Feed.ofStream, hdecode]
        | some row =>
          cases rows with
          | nil => simp [Feed.ofStream, Feed.cons, hdecode]
          | cons row' rows =>
            rw [List.forall₂_cons, ← ih]
            rcases hfeed : ofStream d stream with ⟨items, broken⟩
            simp [Feed.ofStream, Feed.cons, hdecode, hfeed, and_assoc]

lemma error_notMem_of_decoded {d : Descriptor} {stream : List (Except DriverError ResultRow)}
    {rows : List Row}
    (h : List.Forall₂ (fun fetched row => ∃ result, fetched = .ok result ∧
      decodeRow d result = .ok (some row)) stream rows) (e : DriverError) :
    .error e ∉ stream := by
  induction h with
  | nil => simp
  | cons hrow _ ih =>
    obtain ⟨result, rfl, -⟩ := hrow
    simpa using ih

/-- The rows of a kind can all be read, and they decode to the given ones. -/
structure Content.Gives (c : Content) (kind : Kind) (rows : List Row) : Prop where
  uncut : (c.readResult kind).error = none
  decoded : List.Forall₂ (fun data row =>
    decodeRow kind.descriptor (pair (c.readResult kind).columns data) = .ok (some row))
    (c.readResult kind).rows rows

/-- A result that is cut off by an error has this error in its stream. -/
lemma QueryResult.stream_of_error {r : QueryResult} {place : ErrorPlace} {e : DriverError}
    (h : r.error = some (place, e)) : .error e ∈ r.stream := by
  cases place <;> simp [QueryResult.stream, h]

lemma Content.feed_eq_iff {c : Content} {kind : Kind} {rows : List Row} :
    c.feed kind = ⟨rows.map .ok, false⟩ ↔ c.Gives kind rows := by
  rw [Content.feed, Feed.ofStream_eq_iff]
  cases herror : (c.readResult kind).error with
  | none =>
    have hstream : (c.readResult kind).stream =
        (c.readResult kind).rows.map fun data => .ok (pair (c.readResult kind).columns data) := by
      simp [QueryResult.stream, herror]
    rw [hstream, List.forall₂_map_left_iff]
    constructor
    · intro h
      refine ⟨herror, h.imp ?_⟩
      rintro data row ⟨_, ⟨⟩, hdecode⟩
      exact hdecode
    · intro h
      exact h.decoded.imp fun data row hdecode => ⟨_, rfl, hdecode⟩
  -- the stream of a result with an error has that error in it, wherever it is
  | some error =>
    constructor
    · intro h
      exact absurd (QueryResult.stream_of_error herror) (error_notMem_of_decoded h _)
    · intro h
      cases herror.symm.trans h.uncut

end Source

/-! ### Rows that are all acknowledged -/

namespace Sync

open Source (Item)

variable {σ : Type} {w : Writer σ} {d : Descriptor} {row : Row}

/-- Rows that are acknowledged one after the other, with `n` attempts granted to each: fewer fail,
and the next one succeeds. -/
inductive AllAcknowledged (w : Writer σ) (d : Descriptor) (n : Nat) : σ → List Row → σ → Prop
  | nil (s : σ) : AllAcknowledged w d n s [] s
  | cons {s s₁ s₂ s' : σ} {row : Row} {rows : List Row} {es : List Failure} {matched : Int}
      (hfailed : FailedAttempts w d row s es s₁) (hlt : es.length < n)
      (hok : w d row s₁ = (.ok matched, s₂)) (later : AllAcknowledged w d n s₂ rows s') :
      AllAcknowledged w d n s (row :: rows) s'

/-- Failing attempts are followed by others as long as any are left. -/
lemma FailedAttempts.attemptFrom_of_ok {s s₁ s₂ : σ} {es : List Failure} {matched : Int}
    (h : FailedAttempts w d row s es s₁) (hok : w d row s₁ = (.ok matched, s₂)) (p : RetryPolicy)
    {left : Nat} (hle : es.length ≤ left) (attempt : UInt32) (time : Nat) :
    (attemptFrom w d row p left attempt time s).result = .ok matched ∧
      (attemptFrom w d row p left attempt time s).state = s₂ := by
  induction h generalizing left attempt time with
  | none s =>
    rw [Sync.attemptFrom_of_ok hok]
    exact ⟨rfl, rfl⟩
  | next h later ih =>
    cases left with
    | zero => cases hle
    | succ left =>
      rw [attemptFrom_of_retry h]
      exact ih hok (Nat.le_of_succ_le_succ hle) _ _

variable {o : Options} {kind : Kind}

/-- A row that is acknowledged within the attempts granted neither stops a run nor is skipped. -/
lemma StepRule.of_acknowledged {st : Standing σ} {leg : Leg σ} {s₁ s₂ : σ} {es : List Failure}
    {matched : Int} (h : StepRule w o kind st (.ok row) leg) (hdry : o.dryRun = false)
    (hfailed : FailedAttempts w kind.descriptor row st.state es s₁)
    (hlt : es.length < o.retry.attempts.toNat)
    (hok : w kind.descriptor row s₁ = (.ok matched, s₂)) :
    leg.stop = none ∧ leg.standing.report.skipped = st.report.skipped ∧
      leg.standing.state = s₂ := by
  obtain ⟨hresult, hstate⟩ :
      (write w kind.descriptor row o.retry st.time st.state).result = .ok matched ∧
        (write w kind.descriptor row o.retry st.time st.state).state = s₂ :=
    hfailed.attemptFrom_of_ok hok o.retry (Nat.le_pred_of_lt hlt) 1 st.time
  cases h with
  | omitted _ h => cases hdry.symm.trans h
  | acknowledged _ ha _ =>
    subst ha
    exact ⟨rfl, rfl, hstate⟩
  | aborted _ ha hres | skipped _ ha hres =>
    subst ha
    cases hres.symm.trans hresult

lemma steps_of_allAcknowledged (hdry : o.dryRun = false) {s s' : σ} {rows : List Row}
    (h : AllAcknowledged w kind.descriptor o.retry.attempts.toNat s rows s') (st : Standing σ)
    (hst : st.state = s) :
    let leg := steps w o kind st (rows.map .ok)
    leg.stop = none ∧ leg.standing.report.skipped = st.report.skipped ∧
      leg.standing.state = s' := by
  induction h generalizing st with
  | nil s => exact ⟨rfl, rfl, hst⟩
  | cons hfailed hlt hok later ih =>
    subst hst
    obtain ⟨hstop, hskipped, hstate⟩ :=
      (StepRule.of_step w o kind st (.ok _)).of_acknowledged hdry hfailed hlt hok
    rw [List.map_cons, steps_cons_of_none _ hstop, ← hskipped]
    exact ih _ hstate

/-- A run that writes returns and skips no row if and only if the stream has nothing but rows, which
are all acknowledged. -/
lemma run_unskipped_iff (hdry : o.dryRun = false) (s s' : σ) (items : List Item) :
    (∃ report, (run w o kind s items).result = .ok report ∧ report.skipped = []) ∧
        (run w o kind s items).state = s' ↔
      ∃ rows : List Row, items = rows.map .ok ∧
        AllAcknowledged w kind.descriptor o.retry.attempts.toNat s rows s' := by
  simp only [run_result_eq_ok_iff, run_state]
  constructor
  · rintro ⟨⟨report, ⟨hstop, rfl⟩, hskipped⟩, rfl⟩
    refine unskipped_induction (P := fun (st : Standing σ) items leg => ∃ rows : List Row,
      items = rows.map .ok ∧ AllAcknowledged w kind.descriptor o.retry.attempts.toNat st.state rows
        leg.standing.state) hdry ?_ ?_ (.start kind s) items hstop hskipped
    · intro st
      exact ⟨[], rfl, .nil st.state⟩
    · intro st row matched items leg hres hstate _ _ later ih
      obtain ⟨es, s₁, hfailed, hlt, hok⟩ := write_of_ok hres
      obtain ⟨rows, rfl, hrows⟩ := ih
      rw [hstate] at hrows
      exact ⟨row :: rows, rfl, .cons hfailed hlt hok hrows⟩
  · rintro ⟨rows, rfl, hrows⟩
    obtain ⟨hstop, hskipped, hstate⟩ := steps_of_allAcknowledged hdry hrows (.start kind s) rfl
    exact ⟨⟨_, ⟨hstop, rfl⟩, hskipped⟩, hstate⟩

/-- A stream without faults has nothing but rows. -/
lemma exists_rows_iff {items : List Item} :
    (∃ rows : List Row, items = rows.map .ok) ↔ ∀ fault, Except.error fault ∉ items := by
  constructor
  · rintro ⟨rows, rfl⟩
    simp
  · intro h
    induction items with
    | nil => exact ⟨[], rfl⟩
    | cons item items ih =>
      obtain ⟨rows, rfl⟩ := ih fun fault hfault => h fault (List.mem_cons_of_mem item hfault)
      cases item with
      | error fault => exact absurd List.mem_cons_self (h fault)
      | ok row => exact ⟨row :: rows, rfl⟩

/-- A run deals with some rows and leaves none of them behind: a dry run does nothing to them, and
any other has all of them acknowledged. -/
def DealsWith (w : Writer σ) (o : Options) (kind : Kind) (s : σ) (rows : List Row) (s' : σ) :
    Prop :=
  if o.dryRun then s' = s
  else AllAcknowledged w kind.descriptor o.retry.attempts.toNat s rows s'

lemma run_dealsWith_iff (s s' : σ) (items : List Item) :
    (∃ report, (run w o kind s items).result = .ok report ∧ report.skipped = []) ∧
        (run w o kind s items).state = s' ↔
      ∃ rows : List Row, items = rows.map .ok ∧ DealsWith w o kind s rows s' := by
  cases hdry : o.dryRun with
  | false =>
    simp only [DealsWith, hdry]
    exact run_unskipped_iff hdry s s' items
  | true =>
    -- a dry run leaves the state and skips nothing, so only the reading is left
    have hstate : (run w o kind s items).state = s :=
      (run_state w o kind s items).trans (steps_onlyReads hdry w kind (.start kind s) items).state
    simp only [DealsWith, hdry, if_true, hstate, exists_and_right, exists_rows_iff,
      run_eq_ok_iff_of_dryRun hdry]
    constructor
    · rintro ⟨⟨_, ⟨h, -⟩, -⟩, rfl⟩
      exact ⟨h, rfl⟩
    · rintro ⟨h, rfl⟩
      exact ⟨⟨_, ⟨h, rfl⟩, rfl⟩, rfl⟩

end Sync

end Backfill
