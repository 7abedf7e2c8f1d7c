import Mathlib.Algebra.BigOperators.Ring.Finset
import Backfill.Graph.Memory
import Backfill.Proofs.Backoff
import Backfill.Proofs.Concatenation
import Backfill.Proofs.Turns

/-!
# The order and the times of attempts

The attempts of a run come in blocks, one for each row that has its turn, in the order of the
stream. A block goes on to the first success, or to the last attempt that is granted. Time passes
only within blocks, by the pauses of the policy.
-/

namespace Backfill.Sync

open Source (Item)

/-! ### Pauses -/

/-- A policy whose longest delay is kept to the millisecond keeps all of its delays so. -/
lemma pause_backoff {p : RetryPolicy} (h : p.maxBackoff.toNat ≤ longestPause) (retry : UInt32) :
    pause (p.backoff retry) = (p.backoff retry).toNat :=
  pause_eq_toNat (Nat.le_trans (p.backoff_le_maxBackoff retry) h)

/-- The time that the pauses before so many retries take, where `sleep` says how long a delay
lasts. -/
def slept (sleep : UInt64 → Nat) (p : RetryPolicy) (retries : Nat) : Nat :=
  ((List.range retries).map fun i => sleep (p.backoff (.ofNat (i + 1)))).sum

lemma slept_succ (sleep : UInt64 → Nat) (p : RetryPolicy) (n : Nat) :
    slept sleep p (n + 1) = slept sleep p n + sleep (p.backoff (.ofNat (n + 1))) := by
  simp [slept, List.range_succ]

lemma slept_pause {p : RetryPolicy} (h : p.maxBackoff.toNat ≤ longestPause) (retries : Nat) :
    slept pause p retries = slept UInt64.toNat p retries := by
  simp only [slept, pause_backoff h]

/-! ### Blocks -/

/-- Attempts at one row, one after the other, by the answers to them. -/
structure Block where
  row : Row
  answers : List (Except Failure Int)

namespace Block

/-- A block where `n` attempts are granted. There is one attempt at least, and all but the last
fail; if the block is shorter than granted, the last one succeeds. -/
structure IsComplete (n : Nat) (b : Block) : Prop where
  nonempty : b.answers ≠ []
  length_le : b.answers.length ≤ n
  failed : ∀ answer ∈ b.answers.dropLast, ∃ e, answer = .error e
  succeeded : b.answers.length < n → ∃ matched, b.answers.getLast? = some (.ok matched)

/-- A failure in front of a block makes use of one more attempt. -/
lemma IsComplete.cons {n : Nat} {row : Row} {answers : List (Except Failure Int)}
    (h : IsComplete n ⟨row, answers⟩) (e : Failure) :
    IsComplete (n + 1) ⟨row, .error e :: answers⟩ := by
  obtain ⟨hne, hlen, hfailed, hsucceeded⟩ := h
  refine ⟨List.cons_ne_nil _ _, Nat.succ_le_succ hlen, ?_, ?_⟩
  · intro answer hanswer
    rw [List.dropLast_cons_of_ne_nil hne, List.mem_cons] at hanswer
    rcases hanswer with rfl | hanswer
    · exact ⟨e, rfl⟩
    · exact hfailed answer hanswer
  · intro hlt
    obtain ⟨matched, hlast⟩ := hsucceeded (Nat.lt_of_succ_lt_succ hlt)
    exact ⟨matched, by simp only [List.getLast?_cons, hlast, Option.getD_some]⟩

/-- The attempts of a block that begins at the given time. -/
def calls (sleep : UInt64 → Nat) (p : RetryPolicy) (start : Nat) (b : Block) : List Call :=
  (List.range b.answers.length).map fun i => ⟨start + slept sleep p i, b.row⟩

/-- The time from the first attempt of a block to its last. -/
def duration (sleep : UInt64 → Nat) (p : RetryPolicy) (b : Block) : Nat :=
  slept sleep p (b.answers.length - 1)

end Block

/-- The time that some blocks take. -/
def elapsed (sleep : UInt64 → Nat) (p : RetryPolicy) (blocks : List Block) : Nat :=
  (blocks.map (Block.duration sleep p)).sum

/-- The attempts of some blocks from the given time on: each block begins when those before it have
taken their time. -/
def schedule (sleep : UInt64 → Nat) (p : RetryPolicy) (start : Nat) (blocks : List Block) :
    List Call :=
  (blocks.mapIdx fun i b => b.calls sleep p (start + elapsed sleep p (blocks.take i))).flatten

section

variable (sleep : UInt64 → Nat) (p : RetryPolicy)

lemma elapsed_cons (b : Block) (blocks : List Block) :
    elapsed sleep p (b :: blocks) = b.duration sleep p + elapsed sleep p blocks :=
  List.sum_cons

lemma schedule_cons (start : Nat) (b : Block) (blocks : List Block) :
    schedule sleep p start (b :: blocks) =
      b.calls sleep p start ++ schedule sleep p (start + b.duration sleep p) blocks := by
  simp [schedule, List.mapIdx_cons, elapsed, Nat.add_assoc]

lemma elapsed_singleton (b : Block) : elapsed sleep p [b] = b.duration sleep p :=
  Nat.add_zero _

lemma schedule_singleton (start : Nat) (b : Block) :
    schedule sleep p start [b] = b.calls sleep p start := by
  rw [schedule_cons]
  exact List.append_nil _

end

section

variable {sleep sleep' : UInt64 → Nat} {p : RetryPolicy} {n : Nat}
  (h : ∀ retry, 0 < retry → retry < n →
    sleep (p.backoff (.ofNat retry)) = sleep' (p.backoff (.ofNat retry)))
include h

lemma slept_congr {m : Nat} (hm : m < n) : slept sleep p m = slept sleep' p m := by
  refine congrArg _ (List.map_congr_left fun i hi => h (i + 1) i.succ_pos ?_)
  rw [List.mem_range] at hi
  omega

/-- The schedule depends only on how long the delays before retries last. -/
lemma schedule_congr {blocks : List Block} (hblocks : ∀ b ∈ blocks, b.IsComplete n) (start : Nat) :
    schedule sleep p start blocks = schedule sleep' p start blocks := by
  induction blocks generalizing start with
  | nil => rfl
  | cons b blocks ih =>
    rw [List.forall_mem_cons] at hblocks
    obtain ⟨hb, hblocks⟩ := hblocks
    have hpos := List.length_pos_iff.mpr hb.nonempty
    have hlen := hb.length_le
    have hcalls : b.calls sleep p start = b.calls sleep' p start := by
      refine List.map_congr_left fun i hi => ?_
      rw [List.mem_range] at hi
      rw [slept_congr h (by omega)]
    have hduration : b.duration sleep p = b.duration sleep' p := slept_congr h (by omega)
    rw [schedule_cons, schedule_cons, hcalls, hduration, ih hblocks]

end

/-! ### Replies to attempts -/

variable {σ : Type}

section

variable (w : Writer σ) (d : Descriptor)

/-- The answers of a writer to attempts at some rows, one after the other. -/
def replies : σ → List Row → List (Except Failure Int)
  | _, [] => []
  | s, row :: rows => (w d row s).1 :: replies (w d row s).2 rows

/-- The state of a writer after attempts at some rows. -/
def afterReplies : σ → List Row → σ
  | s, [] => s
  | s, row :: rows => afterReplies (w d row s).2 rows

lemma replies_append (s : σ) (rows rows' : List Row) :
    replies w d s (rows ++ rows') =
      replies w d s rows ++ replies w d (afterReplies w d s rows) rows' := by
  induction rows generalizing s with
  | nil => rfl
  | cons row rows ih => simp only [List.cons_append, replies, afterReplies, ih]

lemma afterReplies_append (s : σ) (rows rows' : List Row) :
    afterReplies w d s (rows ++ rows') = afterReplies w d (afterReplies w d s rows) rows' := by
  induction rows generalizing s with
  | nil => rfl
  | cons row rows ih => simp only [List.cons_append, afterReplies, ih]

lemma replies_replicate (row : Row) (n : Nat) (s : σ) :
    replies w d s (List.replicate n row) = answers w d row n s := by
  induction n generalizing s with
  | zero => rfl
  | succ n ih => simp only [List.replicate_succ, replies, answers, ih]

lemma afterReplies_replicate (row : Row) (n : Nat) (s : σ) :
    afterReplies w d s (List.replicate n row) = afterAttempts w d row n s := by
  induction n generalizing s with
  | zero => rfl
  | succ n ih => simp only [List.replicate_succ, afterReplies, afterAttempts, ih]

end

/-! ### The block of a row -/

section

variable {w : Writer σ} {d : Descriptor} {row : Row}

/-- The attempts that are made, out of the ones granted, are a block. -/
lemma isComplete_answers (w : Writer σ) (d : Descriptor) (row : Row) {n : Nat} (hn : 0 < n)
    (s : σ) : Block.IsComplete n ⟨row, answers w d row (attemptsMade w d row n s) s⟩ := by
  induction n generalizing s with
  | zero => cases hn
  | succ n ih =>
    rcases h : w d row s with ⟨e | matched, s'⟩
    · simp only [attemptsMade_of_error h, answers, h]
      cases n with
      | zero => exact ⟨by simp, by simp [answers], by simp [answers], by simp [answers]⟩
      | succ n => exact (ih n.succ_pos s').cons e
    · simp only [attemptsMade_of_ok h, answers, h]
      exact ⟨by simp, by simp, by simp, fun _ => ⟨matched, rfl⟩⟩

lemma length_answers (w : Writer σ) (d : Descriptor) (row : Row) (n : Nat) (s : σ) :
    (answers w d row n s).length = n := by
  induction n generalizing s with
  | zero => rfl
  | succ n ih => rw [answers, List.length_cons, ih]

/-- A row that is given up has all attempts made that are granted. -/
lemma attemptsMade_of_givenUp {n : Nat} {s : σ} (h : matched? w d row n s = none) :
    attemptsMade w d row n s = n := by
  induction n generalizing s with
  | zero => exact attemptsMade_zero
  | succ n ih =>
    rcases hw : w d row s with ⟨e | matched, s'⟩
    · rw [matched?_of_error hw] at h
      rw [attemptsMade_of_error hw, ih h]
    · rw [matched?_of_ok hw] at h
      cases h

/-- After `k` retries, each attempt is made when the pauses before it are over. -/
lemma attemptFrom_times (w : Writer σ) (d : Descriptor) (row : Row) (p : RetryPolicy)
    (left start k : Nat) (s : σ) :
    let calls := (attemptFrom w d row p left (.ofNat (k + 1)) (start + slept pause p k) s).calls
    calls = (List.range calls.length).map fun i => ⟨start + slept pause p (k + i), row⟩ := by
  induction left generalizing k s with
  | zero =>
    rcases h : w d row s with ⟨e | matched, s'⟩
    · simp [attemptFrom_of_last h]
    · simp [attemptFrom_of_ok h]
  | succ left ih =>
    rcases h : w d row s with ⟨e | matched, s'⟩
    · -- the pause after this attempt brings the clock to where the next one is due
      have hattempt : UInt32.ofNat (k + 1) + 1 = .ofNat (k + 1 + 1) :=
        (UInt32.ofNat_add (k + 1) 1).symm
      have hlater := ih (k + 1) s'
      simp only [attemptFrom_of_retry h, hattempt, Nat.add_assoc start, ← slept_succ]
      rw [List.length_cons, List.range_succ_eq_map, List.map_cons, List.map_map]
      refine congrArg _ (hlater.trans (List.map_congr_left fun i _ => ?_))
      simp only [Function.comp_apply, Nat.succ_eq_add_one, Nat.add_assoc, Nat.add_comm 1 i]
    · simp [attemptFrom_of_ok h]

lemma write_times (w : Writer σ) (d : Descriptor) (row : Row) (p : RetryPolicy) (time : Nat)
    (s : σ) :
    let calls := (write w d row p time s).calls
    calls = (List.range calls.length).map fun i => ⟨time + slept pause p i, row⟩ := by
  have h := attemptFrom_times w d row p (p.attempts.toNat - 1) time 0 s
  simp only [Nat.zero_add] at h
  exact h

/-- A write ends at its last attempt. -/
lemma write_time (w : Writer σ) (d : Descriptor) (row : Row) (p : RetryPolicy) (time : Nat)
    (s : σ) :
    let a := write w d row p time s
    a.time = time + slept pause p (a.calls.length - 1) := by
  intro a
  have hlast : a.calls.getLast? = some ⟨a.time, row⟩ :=
    attemptFrom_last_call w d row p (p.attempts.toNat - 1) 1 time s
  rw [write_times w d row p time s, List.getLast?_map, List.getLast?_range] at hlast
  split at hlast
  · cases hlast
  · simp only [Option.map_some, Option.some.injEq, Call.mk.injEq] at hlast
    exact hlast.1.symm

/-- Attempts that a writer has answered, from a time and a state to another time and state, are
made in blocks. -/
structure InBlocks (w : Writer σ) (d : Descriptor) (p : RetryPolicy) (time : Nat) (s : σ)
    (calls : List Call) (blocks : List Block) (time' : Nat) (s' : σ) : Prop where
  complete : ∀ b ∈ blocks, b.IsComplete p.attempts.toNat
  calls_eq : calls = schedule pause p time blocks
  answers_eq : replies w d s (calls.map Call.row) = blocks.flatMap Block.answers
  time_eq : time' = time + elapsed pause p blocks
  state_eq : s' = afterReplies w d s (calls.map Call.row)

namespace InBlocks

variable {p : RetryPolicy}

lemma nil (time : Nat) (s : σ) : InBlocks w d p time s [] [] time s :=
  ⟨by simp, rfl, rfl, rfl, rfl⟩

lemma cons {time time' time'' : Nat} {s s' s'' : σ} {calls calls' : List Call} {b : Block}
    {blocks : List Block} (hb : InBlocks w d p time s calls [b] time' s')
    (h : InBlocks w d p time' s' calls' blocks time'' s'') :
    InBlocks w d p time s (calls ++ calls') (b :: blocks) time'' s'' := by
  have htime : time' = time + b.duration pause p := by
    rw [hb.time_eq, elapsed_singleton]
  constructor
  · exact List.forall_mem_cons.mpr ⟨hb.complete b (List.mem_singleton_self b), h.complete⟩
  · rw [schedule_cons, hb.calls_eq, schedule_singleton, h.calls_eq, htime]
  · rw [List.map_append, replies_append, hb.answers_eq, ← hb.state_eq, h.answers_eq,
      List.flatMap_singleton, List.flatMap_cons]
  · rw [h.time_eq, htime, elapsed_cons, Nat.add_assoc]
  · rw [List.map_append, afterReplies_append, ← hb.state_eq]
    exact h.state_eq

end InBlocks

/-- The attempts at a write are a block. If it fails, it has the failure of the last of them. -/
lemma write_block (w : Writer σ) (d : Descriptor) (row : Row) (p : RetryPolicy) (time : Nat)
    (s : σ) :
    let a := write w d row p time s
    ∃ b : Block, b.row = row ∧ InBlocks w d p time s a.calls [b] a.time a.state ∧
      ∀ last, a.result = .error last →
        ∃ e, b.answers.getLast? = some (.error e) ∧ last = gaveUp p.attempts e := by
  intro a
  have hfollow := write_follow w d row p time s
  have hlength : (answers w d row (attemptsMade w d row p.attempts.toNat s) s).length =
      a.calls.length := by
    rw [length_answers, hfollow.length_calls]
  have hcalls : a.calls = (List.range a.calls.length).map fun i => ⟨time + slept pause p i, row⟩ :=
    write_times w d row p time s
  refine ⟨⟨row, answers w d row (attemptsMade w d row p.attempts.toNat s) s⟩, rfl, ?_, ?_⟩
  · constructor
    · rw [List.forall_mem_singleton]
      exact isComplete_answers w d row (one_le_toNat_attempts p) s
    · rw [schedule_singleton, Block.calls, hlength]
      exact hcalls
    · rw [hfollow.rows, replies_replicate, List.flatMap_singleton]
    · rw [elapsed_singleton, Block.duration, hlength]
      exact write_time w d row p time s
    · rw [hfollow.rows, afterReplies_replicate]
      exact hfollow.state
  · intro last hres
    obtain ⟨hnone, e, he, rfl⟩ := hfollow.of_error hres
    exact ⟨e, by rw [attemptsMade_of_givenUp hnone, he], rfl⟩

/-! ### The blocks of a run -/

variable {o : Options} {kind : Kind}

/-- A run that writes deals with a row in one block, and if that stops it, all of the block has
failed. -/
lemma StepRule.block {st : Standing σ} {leg : Leg σ} (h : StepRule w o kind st (.ok row) leg)
    (hdry : o.dryRun = false) :
    ∃ b : Block, b.row = row ∧
      InBlocks w kind.descriptor o.retry st.time st.state leg.trace.calls [b] leg.standing.time
        leg.standing.state ∧
      ∀ stop, leg.stop = some stop → ∃ e, b.answers.getLast? = some (.error e) ∧
        stop = .write kind row.key (gaveUp o.retry.attempts e) := by
  obtain ⟨b, hrow, hblock, hlast⟩ := write_block w kind.descriptor row o.retry st.time st.state
  cases h with
  | omitted _ h => cases hdry.symm.trans h
  | acknowledged _ ha | skipped _ ha =>
    subst ha
    exact ⟨b, hrow, hblock, by simp⟩
  | aborted _ ha hres =>
    subst ha
    refine ⟨b, hrow, hblock, ?_⟩
    rintro stop ⟨⟩
    obtain ⟨e, he, rfl⟩ := hlast _ hres
    exact ⟨e, he, rfl⟩

/-- How far the blocks of a run reach in its stream: to its end, to a row that cannot be read or, as
the last of them, to a row whose attempts all failed. -/
inductive Reach (p : RetryPolicy) (kind : Kind) :
    List Item → List Block → Option RunError → Prop
  | completed (blocks : List Block) : Reach p kind (blocks.map fun b => .ok b.row) blocks none
  | unreadable (blocks : List Block) (position : Nat) (fault : Source.Fault) (later : List Item) :
      Reach p kind ((blocks.map fun b => .ok b.row) ++ .error fault :: later) blocks
        (some (.read kind position fault))
  | givenUp (blocks : List Block) (b : Block) {e : Failure}
      (hlast : b.answers.getLast? = some (.error e)) (later : List Item) :
      Reach p kind (((blocks ++ [b]).map fun b => .ok b.row) ++ later) (blocks ++ [b])
        (some (.write kind b.row.key (gaveUp p.attempts e)))

lemma Reach.cons {p : RetryPolicy} {items : List Item} {blocks : List Block}
    {stop : Option RunError} (h : Reach p kind items blocks stop) (b : Block) :
    Reach p kind (.ok b.row :: items) (b :: blocks) stop := by
  cases h with
  | completed => exact .completed (b :: blocks)
  | unreadable _ position fault later => exact .unreadable (b :: blocks) position fault later
  | givenUp blocks b' hlast later => exact .givenUp (b :: blocks) b' hlast later

/-- A run that writes goes through its stream block by block. -/
lemma steps_inBlocks (hdry : o.dryRun = false) (w : Writer σ) (kind : Kind) (st : Standing σ)
    (items : List Item) :
    let leg := steps w o kind st items
    ∃ blocks, Reach o.retry kind items blocks leg.stop ∧
      InBlocks w kind.descriptor o.retry st.time st.state leg.trace.calls blocks leg.standing.time
        leg.standing.state := by
  apply steps_induction (P := fun st items leg => ∃ blocks,
    Reach o.retry kind items blocks leg.stop ∧
      InBlocks w kind.descriptor o.retry st.time st.state leg.trace.calls blocks leg.standing.time
        leg.standing.state)
  · intro st
    exact ⟨[], .completed [], .nil _ _⟩
  · intro st item items leg stop hrule hstop
    cases item with
    | error fault =>
      cases hrule
      exact ⟨[], .unreadable [] _ fault items, .nil _ _⟩
    | ok row =>
      obtain ⟨b, rfl, hblock, hlast⟩ := hrule.block hdry
      obtain ⟨e, he, rfl⟩ := hlast stop hstop
      rw [hstop]
      exact ⟨[b], .givenUp [] b he items, hblock⟩
  · intro st item items leg hrule hstop later ih
    cases item with
    | error fault =>
      cases hrule
      cases hstop
    | ok row =>
      obtain ⟨b, rfl, hblock, -⟩ := hrule.block hdry
      obtain ⟨blocks, hreach, hblocks⟩ := ih
      exact ⟨b :: blocks, hreach.cons b, hblock.cons hblocks⟩

end

/-- The attempts of a run that writes, for any writer and however it ends. They are one block after
the other, in the order of the rows. A block has at least one attempt and at most as many as are
granted; all of its answers but the last are failures, and if it is shorter than granted the last is
a success. The answers are those that the writer gives to these attempts and to no others. Each
attempt is made when the pauses in the earlier blocks and those before it in its own block are over,
and if pauses last as long as their delays, these are the sums of the delays. No row is passed over:
there is a block for each row up to the end of the stream, or before the first row that cannot be
read, or up to the row at which the run gives up. -/
theorem writes_in_row_order (w : Writer σ) (s : σ) (kind : Kind) (o : Options)
    (hdry : o.dryRun = false) (items : List Item) :
    let out := run w o kind s items
    let d := kind.descriptor
    let p := o.retry
    let rows := out.trace.calls.map Call.row
    ∃ blocks : List Block,
      (∀ b ∈ blocks, b.IsComplete p.attempts.toNat) ∧
        out.trace.calls = schedule pause p 0 blocks ∧
        ((∀ retry, 0 < retry → retry < p.attempts.toNat →
            pause (p.backoff (.ofNat retry)) = (p.backoff (.ofNat retry)).toNat) →
          out.trace.calls = schedule UInt64.toNat p 0 blocks) ∧
        replies w d s rows = blocks.flatMap Block.answers ∧ out.state = afterReplies w d s rows ∧
        (∀ report, out.result = .ok report → items = blocks.map fun b => .ok b.row) ∧
        (∀ k position fault, out.result = .error (.read k position fault) →
          ∃ later, items = (blocks.map fun b => .ok b.row) ++ .error fault :: later) ∧
        ∀ k key last, out.result = .error (.write k key last) →
          ∃ earlier b e later, blocks = earlier ++ [b] ∧ b.row.key = key ∧
            b.answers.getLast? = some (.error e) ∧ last = gaveUp p.attempts e ∧
            items = (blocks.map fun b => .ok b.row) ++ later := by
  intro out d p rows
  obtain ⟨blocks, hreach, hblocks⟩ := steps_inBlocks hdry w kind (.start kind s) items
  rw [← run_calls, ← run_state] at hblocks
  refine ⟨blocks, hblocks.complete, hblocks.calls_eq, ?_, hblocks.answers_eq, hblocks.state_eq, ?_⟩
  · intro hsleep
    rw [← schedule_congr hsleep hblocks.complete]
    exact hblocks.calls_eq
  · simp only [out, run_result_eq_ok_iff, run_result_eq_error_iff]
    -- the error tells how far the blocks reach
    generalize (steps w o kind (.start kind s) items).stop = stop at hreach ⊢
    cases hreach with
    | completed => exact ⟨by simp, by simp, by simp⟩
    | unreadable _ position fault later =>
      refine ⟨by simp, ?_, by simp⟩
      rintro k position' fault' ⟨⟩
      exact ⟨later, rfl⟩
    | givenUp earlier b hlast later =>
      refine ⟨by simp, by simp, ?_⟩
      rintro k key last ⟨⟩
      exact ⟨earlier, b, _, later, rfl, rfl, hlast, rfl, rfl⟩

/-- One row is acknowledged at the second attempt, the next one is skipped after three, and the last
one has its turn when their pauses are over. -/
theorem writes_in_row_order_with_skip :
    let row (name : String) : Row := ⟨.ofCrate name, ⟨1577836800, 0, by decide, by decide⟩⟩
    let items : List Item := [.ok (row "rand"), .ok (row "serde"), .ok (row "libc")]
    let reset : Failure := { text := "connection reset by peer" }
    let graph : Graph.Memory :=
      { nodes := []
        disturbances := [("name=rand", ⟨some 1, reset⟩), ("name=serde", ⟨none, reset⟩)] }
    let o : Options := { failureMode := .skip }
    o.dryRun = false ∧
      (run Graph.Memory.writer o .crate graph items).trace.calls =
        [⟨0, row "rand"⟩, ⟨200, row "rand"⟩, ⟨200, row "serde"⟩, ⟨400, row "serde"⟩,
          ⟨800, row "serde"⟩, ⟨800, row "libc"⟩] ∧
      (∀ retry, 0 < retry → retry < o.retry.attempts.toNat →
        pause (o.retry.backoff (.ofNat retry)) = (o.retry.backoff (.ofNat retry)).toNat) ∧
      let out := run Graph.Memory.writer o .crate graph items
      let d := Kind.crate.descriptor
      let p := o.retry
      let rows := out.trace.calls.map Call.row
      ∃ blocks : List Block,
        (∀ b ∈ blocks, b.IsComplete p.attempts.toNat) ∧
          out.trace.calls = schedule pause p 0 blocks ∧
          ((∀ retry, 0 < retry → retry < p.attempts.toNat →
              pause (p.backoff (.ofNat retry)) = (p.backoff (.ofNat retry)).toNat) →
            out.trace.calls = schedule UInt64.toNat p 0 blocks) ∧
          replies Graph.Memory.writer d graph rows = blocks.flatMap Block.answers ∧
          out.state = afterReplies Graph.Memory.writer d graph rows ∧
          (∀ report, out.result = .ok report → items = blocks.map fun b => .ok b.row) ∧
          (∀ k position fault, out.result = .error (.read k position fault) →
            ∃ later, items = (blocks.map fun b => .ok b.row) ++ .error fault :: later) ∧
          ∀ k key last, out.result = .error (.write k key last) →
            ∃ earlier b e later, blocks = earlier ++ [b] ∧ b.row.key = key ∧
              b.answers.getLast? = some (.error e) ∧ last = gaveUp p.attempts e ∧
              items = (blocks.map fun b => .ok b.row) ++ later := by
  intro row items reset graph o
  have hcalls : (run Graph.Memory.writer o .crate graph items).trace.calls =
      [⟨0, row "rand"⟩, ⟨200, row "rand"⟩, ⟨200, row "serde"⟩, ⟨400, row "serde"⟩,
        ⟨800, row "serde"⟩, ⟨800, row "libc"⟩] := by
    decide +kernel
  refine ⟨rfl, hcalls, ?_, ?_⟩
  · intro retry _ _
    exact pause_backoff (by decide) _
  · exact writes_in_row_order Graph.Memory.writer graph .crate o rfl items

end Backfill.Sync
