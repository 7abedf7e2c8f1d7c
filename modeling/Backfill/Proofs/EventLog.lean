import Mathlib.Data.List.Infix
import Backfill.Graph.Memory
import Backfill.Proofs.Attempts
import Backfill.Proofs.Legs

/-!
# The log of a run

Events and report are made apart from each other, from the same answers of the writer. Here they
are compared: a run that writes leaves in its log what its report counts, row by row, and each row
has its retries, numbered from 1, before its outcome.
-/

namespace Backfill.Sync

open Source (Item)

variable {σ : Type} {w : Writer σ} {o : Options} {kind : Kind}

/-! ### Messages -/

/-- How many events have the given message. -/
def told (events : List Event) (message : String) : Nat :=
  events.countP (·.message = message)

@[simp] lemma told_nil (message : String) : told [] message = 0 := rfl

@[simp] lemma told_append (events later : List Event) (message : String) :
    told (events ++ later) message = told events message + told later message :=
  List.countP_append

@[simp] lemma told_cons (e : Event) (events : List Event) (message : String) :
    told (e :: events) message = told events message + if e.message = message then 1 else 0 := by
  simp [told, List.countP_cons]

lemma told_of_forall {events : List Event} {message : String}
    (h : ∀ e ∈ events, e.message = message) : told events message = events.length := by
  simpa [told, List.countP_eq_length] using h

lemma told_eq_zero {events : List Event} {message : String}
    (h : ∀ e ∈ events, e.message ≠ message) : told events message = 0 := by
  simpa [told, List.countP_eq_zero] using h

lemma filter_message_eq_nil_iff {events : List Event} {message : String} :
    events.filter (·.message = message) = [] ↔ told events message = 0 := by
  rw [told, List.countP_eq_length_filter, List.length_eq_zero_iff]

/-! ### Retries -/

/-- The event of a retry: which attempt failed, and for how long the next one has to wait. -/
structure IsRetry (p : RetryPolicy) (key : Key) (attempt : Nat) (e : Event) : Prop where
  lt : attempt < p.attempts.toNat
  message : e.message = "Graph write failed, retrying"
  fields : ∃ error, e.fields =
    [("key", .shown key.text), ("attempt", .number attempt),
      ("max_attempts", .number p.attempts.toNat),
      ("delay_ms", .number (p.backoff (.ofNat attempt)).toNat), ("error", .shown error)]

lemma attemptFrom_events (w : Writer σ) (d : Descriptor) (row : Row) (p : RetryPolicy) (left : Nat)
    (attempt : UInt32) (time : Nat) (s : σ) (h : left + attempt.toNat = p.attempts.toNat) :
    let a := attemptFrom w d row p left attempt time s
    (∀ i e, a.events[i]? = some e → IsRetry p row.key (attempt.toNat + i) e) ∧
      a.calls.map Call.row = List.replicate (a.events.length + 1) row := by
  revert h
  apply attemptFrom_induction (P := fun left attempt _ _ a =>
    left + attempt.toNat = p.attempts.toNat →
      (∀ i e, a.events[i]? = some e → IsRetry p row.key (attempt.toNat + i) e) ∧
        a.calls.map Call.row = List.replicate (a.events.length + 1) row)
  · intro _ _ _ _ _ _ _ _
    exact ⟨by simp, rfl⟩
  · intro _ _ _ _ _ _ _
    exact ⟨by simp, rfl⟩
  · intro left attempt time s s' e _ delay later ih hleft
    -- another attempt is granted, so its number is one that the counter can hold
    have hlt : attempt.toNat < p.attempts.toNat := by omega
    have hnext : (attempt + 1).toNat = attempt.toNat + 1 := toNat_next_attempt hlt
    obtain ⟨hevents, hcalls⟩ := ih (by omega)
    refine ⟨?_, ?_⟩
    · intro i event hevent
      cases i with
      | zero =>
        cases hevent
        refine ⟨hlt, rfl, e.text, ?_⟩
        rw [Nat.add_zero, UInt32.ofNat_toNat]
        rfl
      | succ i =>
        rw [← Nat.add_assoc, Nat.add_right_comm, ← hnext]
        exact hevents i event hevent
    · rw [List.map_cons, hcalls]
      rfl

/-- All attempts at a row but the last are retried, and the log has them in order. -/
lemma write_events (w : Writer σ) (d : Descriptor) (row : Row) (p : RetryPolicy) (time : Nat)
    (s : σ) :
    let a := write w d row p time s
    (∀ i e, a.events[i]? = some e → IsRetry p row.key (i + 1) e) ∧
      a.calls.map Call.row = List.replicate (a.events.length + 1) row := by
  intro a
  have hpos := one_le_toNat_attempts p
  obtain ⟨hevents, hcalls⟩ := attemptFrom_events w d row p (p.attempts.toNat - 1) 1 time s (by
    rw [UInt32.toNat_one]
    omega)
  refine ⟨fun i e h => ?_, hcalls⟩
  rw [Nat.add_comm]
  exact hevents i e h

lemma told_write_events (w : Writer σ) (d : Descriptor) (row : Row) (p : RetryPolicy) (time : Nat)
    (s : σ) (message : String) :
    told (write w d row p time s).events message =
      if message = "Graph write failed, retrying" then (write w d row p time s).events.length
      else 0 := by
  have hretry : ∀ e ∈ (write w d row p time s).events,
      e.message = "Graph write failed, retrying" := by
    intro e he
    obtain ⟨i, hi⟩ := List.getElem?_of_mem he
    exact ((write_events w d row p time s).1 i e hi).message
  split_ifs with h
  · subst h
    exact told_of_forall hretry
  · exact told_eq_zero fun e he hmessage => h (hmessage.symm.trans (hretry e he))

lemma length_write_calls (w : Writer σ) (d : Descriptor) (row : Row) (p : RetryPolicy) (time : Nat)
    (s : σ) :
    (write w d row p time s).calls.length = (write w d row p time s).events.length + 1 := by
  simpa using congrArg List.length (write_events w d row p time s).2

/-! ### Rows in the log -/

/-- What the log has on one row: its retries and, unless the run stops at it, its outcome. -/
structure RowLog where
  row : Row
  retries : List Event
  outcome : Option Event

namespace RowLog

def events (l : RowLog) : List Event :=
  l.retries ++ l.outcome.toList

/-- The messages of an outcome. -/
def outcomes : List String :=
  ["No node matched", "Synced created_at", "Duplicate natural key in graph", "Skipping row"]

/-- The retries of a row are numbered from 1, and its outcome names its key. -/
structure Tells (p : RetryPolicy) (l : RowLog) : Prop where
  retries : ∀ i e, l.retries[i]? = some e → IsRetry p l.row.key (i + 1) e
  outcome : ∀ e ∈ l.outcome, e.message ∈ outcomes ∧ ("key", .shown l.row.key.text) ∈ e.fields

lemma Tells.message {p : RetryPolicy} {l : RowLog} (h : l.Tells p) {e : Event} (he : e ∈ l.events) :
    e.message ∈ "Graph write failed, retrying" :: outcomes := by
  rcases List.mem_append.mp he with hretry | houtcome
  · obtain ⟨i, hi⟩ := List.getElem?_of_mem hretry
    rw [(h.retries i e hi).message]
    exact List.mem_cons_self
  · exact List.mem_cons_of_mem _ (h.outcome e (Option.mem_toList.mp houtcome)).1

end RowLog

/-- The log of some items, row by row: each attempt at a row is a retry or its last. Only the row
at which a run stops has no outcome. -/
structure Logged (p : RetryPolicy) (items : List Item) (ended : Bool) (calls : List Call)
    (logs : List RowLog) : Prop where
  tells : ∀ l ∈ logs, l.Tells p
  calls : calls.map Call.row = logs.flatMap fun l => List.replicate (l.retries.length + 1) l.row
  rows : logs.map (fun l => .ok l.row) <+: items
  settled : ∀ l ∈ logs.dropLast, l.outcome.isSome
  ended : ended = true → logs.map (fun l => .ok l.row) = items ∧ ∀ l ∈ logs, l.outcome.isSome

lemma Logged.cons {p : RetryPolicy} {item : Item} {items : List Item} {ended : Bool}
    {calls later : List Call} {logs rest : List RowLog} (h : Logged p [item] true calls logs)
    (hrest : Logged p items ended later rest) :
    Logged p (item :: items) ended (calls ++ later) (logs ++ rest) := by
  obtain ⟨hrow, hsettled⟩ := h.ended rfl
  refine ⟨?_, ?_, ?_, ?_, ?_⟩
  · exact List.forall_mem_append.mpr ⟨h.tells, hrest.tells⟩
  · rw [List.map_append, List.flatMap_append, h.calls, hrest.calls]
  · rw [List.map_append, hrow]
    exact (List.prefix_append_right_inj [item]).mpr hrest.rows
  · intro l hl
    -- only the very last row may lack an outcome; that of the first item has one
    by_cases hnil : rest = []
    · subst hnil
      rw [List.append_nil] at hl
      exact hsettled l (List.mem_of_mem_dropLast hl)
    · rw [List.dropLast_append_of_ne_nil hnil] at hl
      exact List.forall_mem_append.mpr ⟨hsettled, hrest.settled⟩ l hl
  · intro hended
    obtain ⟨hrows, hall⟩ := hrest.ended hended
    rw [List.map_append, hrow, hrows]
    exact ⟨rfl, List.forall_mem_append.mpr ⟨hsettled, hall⟩⟩

lemma logged_of_write {p : RetryPolicy} {row : Row} {a : Attempts σ} {d : Descriptor} {time : Nat}
    {s : σ} (ha : write w d row p time s = a) {ended : Bool} (outcome : Option Event)
    (houtcome : ∀ e ∈ outcome, e.message ∈ RowLog.outcomes ∧
      ("key", .shown row.key.text) ∈ e.fields)
    (hended : ended = true → outcome.isSome) :
    Logged p [.ok row] ended a.calls [⟨row, a.events, outcome⟩] := by
  subst ha
  obtain ⟨hevents, hcalls⟩ := write_events w d row p time s
  refine ⟨?_, ?_, ?_, ?_, ?_⟩
  · exact List.forall_mem_singleton.mpr ⟨hevents, houtcome⟩
  · simpa using hcalls
  · exact List.prefix_rfl
  · simp
  · intro h
    simpa using hended h

lemma message_matchEvent (d : Descriptor) (key : Key) (matched : Int) :
    (matchEvent d key matched).message =
      if matched = 0 then "No node matched"
      else if matched = 1 then "Synced created_at"
      else "Duplicate natural key in graph" := by
  unfold matchEvent
  split_ifs <;> rfl

lemma key_mem_fields_matchEvent (d : Descriptor) (key : Key) (matched : Int) :
    ("key", .shown key.text) ∈ (matchEvent d key matched).fields := by
  unfold matchEvent
  split_ifs <;> simp [Event.fields]

/-- What a run that writes leaves in the log for one item. -/
lemma StepRule.exists_logged {st : Standing σ} {item : Item} {leg : Leg σ}
    (h : StepRule w o kind st item leg) (hdry : o.dryRun = false) :
    ∃ logs, Logged o.retry [item] leg.stop.isNone leg.trace.calls logs ∧
      leg.trace.events = logs.flatMap RowLog.events := by
  cases h with
  | unreadable fault => exact ⟨[], ⟨by simp, rfl, by simp, by simp, by simp⟩, rfl⟩
  | omitted _ hdry' => cases hdry.symm.trans hdry'
  | @acknowledged row a matched _ ha =>
    refine ⟨_, logged_of_write ha (some (matchEvent kind.descriptor row.key matched)) ?_
      fun _ => rfl, by simp [RowLog.events]⟩
    intro e he
    cases he
    refine ⟨?_, key_mem_fields_matchEvent kind.descriptor row.key matched⟩
    rw [message_matchEvent]
    split_ifs <;> simp [RowLog.outcomes]
  -- the row that stops the run has its retries in the log but no outcome
  | aborted _ ha =>
    exact ⟨_, logged_of_write ha none (by simp) (by simp), by simp [RowLog.events]⟩
  | @skipped row a last _ ha =>
    refine ⟨_, logged_of_write ha
      (some (.rowSkipped ⟨row.key, (writeFailure kind.descriptor row.key last).inline⟩)) ?_
      fun _ => rfl, by simp [RowLog.events]⟩
    intro e he
    cases he
    refine ⟨?_, List.mem_cons_self⟩
    show "Skipping row" ∈ RowLog.outcomes
    simp [RowLog.outcomes]

lemma steps_logged (w : Writer σ) (kind : Kind) (hdry : o.dryRun = false) (st : Standing σ)
    (items : List Item) :
    ∃ logs, Logged o.retry items (steps w o kind st items).stop.isNone
        (steps w o kind st items).trace.calls logs ∧
      (steps w o kind st items).trace.events = logs.flatMap RowLog.events := by
  apply steps_induction (P := fun _ items leg =>
    ∃ logs, Logged o.retry items leg.stop.isNone leg.trace.calls logs ∧
      leg.trace.events = logs.flatMap RowLog.events)
  · intro st
    exact ⟨[], ⟨by simp, rfl, by simp, by simp, by simp⟩, rfl⟩
  · intro st item items leg e hrule hstop
    obtain ⟨logs, hlogged, hevents⟩ := hrule.exists_logged hdry
    refine ⟨logs, ⟨hlogged.tells, hlogged.calls, ?_, hlogged.settled, ?_⟩, hevents⟩
    · exact hlogged.rows.trans (List.prefix_append [item] items)
    · simp [hstop]
  · intro st item items leg hrule hstop later ih
    obtain ⟨logs, hlogged, hevents⟩ := hrule.exists_logged hdry
    obtain ⟨rest, hrest, hlater⟩ := ih
    rw [hstop] at hlogged
    refine ⟨logs ++ rest, hlogged.cons hrest, ?_⟩
    rw [Trace.events_append, hevents, hlater, List.flatMap_append]

/-! ### The report -/

/-- The fields under which the log has a skipped row. -/
def SkippedRow.fields (row : SkippedRow) : List (String × FieldValue) :=
  [("key", .shown row.key.text), ("error", .shown row.error)]

/-- From one report to a later one, the counters go up by the events and attempts in between. -/
structure Counts (before after : Report) (calls : List Call) (events : List Event) : Prop where
  missing : after.missing = before.missing + told events "No node matched"
  duplicates : after.duplicates = before.duplicates + told events "Duplicate natural key in graph"
  writes : after.writes = before.writes + told events "Synced created_at" +
    told events "No node matched" + told events "Duplicate natural key in graph"
  skipped : after.skipped.map SkippedRow.fields = before.skipped.map SkippedRow.fields ++
    (events.filter (·.message = "Skipping row")).map Event.fields
  attempts : after.rowsRead + told events "Graph write failed, retrying" =
    before.rowsRead + calls.length

lemma Counts.refl (report : Report) : Counts report report [] [] :=
  ⟨rfl, rfl, rfl, by simp, rfl⟩

lemma Counts.trans {a b c : Report} {calls later : List Call} {events events' : List Event}
    (h : Counts a b calls events) (h' : Counts b c later events') :
    Counts a c (calls ++ later) (events ++ events') := by
  obtain ⟨hmissing, hduplicates, hwrites, hskipped, hattempts⟩ := h
  obtain ⟨hmissing', hduplicates', hwrites', hskipped', hattempts'⟩ := h'
  refine ⟨?_, ?_, ?_, ?_, ?_⟩
  · rw [told_append]
    omega
  · rw [told_append]
    omega
  · simp only [told_append]
    omega
  · rw [hskipped', hskipped, List.filter_append, List.map_append, List.append_assoc]
  · rw [told_append, List.length_append]
    omega

/-- The attempts at a row are its retries and one more. -/
lemma counts_write (w : Writer σ) (d : Descriptor) (row : Row) (p : RetryPolicy) (time : Nat)
    (s : σ) (report : Report) :
    Counts report report.countRow (write w d row p time s).calls
      (write w d row p time s).events := by
  have htold := told_write_events w d row p time s
  refine ⟨?_, ?_, ?_, ?_, ?_⟩
  · rw [htold]
    rfl
  · rw [htold]
    rfl
  · rw [htold, htold, htold]
    rfl
  · rw [filter_message_eq_nil_iff.mpr (htold "Skipping row"), List.map_nil, List.append_nil]
    rfl
  · rw [htold, if_pos rfl, length_write_calls]
    simp only [Report.countRow]
    omega

/-- The number of nodes is classified for the report as it is for the log. -/
lemma counts_matchEvent (d : Descriptor) (key : Key) (matched : Int) (report : Report) :
    Counts report (report.countWrite matched) [] [matchEvent d key matched] := by
  by_cases h0 : matched = 0
  · constructor <;> simp [message_matchEvent, Report.countWrite, h0]
  · by_cases h1 : matched = 1
    · constructor <;> simp [message_matchEvent, Report.countWrite, h1]
    · constructor <;> simp [message_matchEvent, Report.countWrite, h0, h1]

lemma counts_rowSkipped (row : SkippedRow) (report : Report) :
    Counts report (report.skip row) [] [.rowSkipped row] := by
  have hmessage : (Event.rowSkipped row).message = "Skipping row" := rfl
  constructor <;> simp [hmessage, Report.skip, SkippedRow.fields, Event.fields]

lemma StepRule.counts {st : Standing σ} {item : Item} {leg : Leg σ}
    (h : StepRule w o kind st item leg) (hdry : o.dryRun = false) :
    Counts st.report leg.standing.report leg.trace.calls leg.trace.events := by
  cases h with
  | unreadable fault => exact .refl st.report
  | omitted _ hdry' => cases hdry.symm.trans hdry'
  | @acknowledged row _ matched _ ha =>
    subst ha
    simpa using (counts_write w kind.descriptor row o.retry st.time st.state st.report).trans
      (counts_matchEvent kind.descriptor row.key matched st.report.countRow)
  | @aborted row _ _ _ ha =>
    subst ha
    exact counts_write w kind.descriptor row o.retry st.time st.state st.report
  | @skipped row _ last _ ha =>
    subst ha
    simpa using (counts_write w kind.descriptor row o.retry st.time st.state st.report).trans
      (counts_rowSkipped ⟨row.key, (writeFailure kind.descriptor row.key last).inline⟩
        st.report.countRow)

lemma steps_counts (w : Writer σ) (kind : Kind) (hdry : o.dryRun = false) (st : Standing σ)
    (items : List Item) :
    Counts st.report (steps w o kind st items).standing.report
      (steps w o kind st items).trace.calls (steps w o kind st items).trace.events := by
  apply steps_induction (P := fun st _ leg =>
    Counts st.report leg.standing.report leg.trace.calls leg.trace.events)
  · intro st
    exact .refl st.report
  · intro st item items leg e hrule _
    exact hrule.counts hdry
  · intro st item items leg hrule _ later ih
    exact (hrule.counts hdry).trans ih

/-! ### The whole log -/

/-- A log that tells what the report of a run counts. -/
structure AgreesWith (report : Report) (calls : List Call) (events : List Event) : Prop where
  completed : told events "Property sync complete" = 1
  last : events.getLast?.map (fun e => (e.message, e.fields)) =
    some ("Property sync complete",
      [("kind", .shown report.kind.name), ("rows", .number report.rowsRead),
        ("nodes_updated", .number report.nodesUpdated), ("missing", .number report.missing),
        ("duplicates", .number report.duplicates), ("failed", .number report.skipped.length)])
  missing : told events "No node matched" = report.missing
  duplicates : told events "Duplicate natural key in graph" = report.duplicates
  synced : told events "Synced created_at" + report.missing + report.duplicates = report.writes
  failed : told events "Skipping row" = report.skipped.length
  skipped : (events.filter (·.message = "Skipping row")).map Event.fields =
    report.skipped.map SkippedRow.fields
  retries : told events "Graph write failed, retrying" + report.rowsRead = calls.length

/-- In the events of rows, a run neither starts nor ends. -/
lemma Logged.told_eq_zero {p : RetryPolicy} {items : List Item} {ended : Bool} {calls : List Call}
    {logs : List RowLog} (h : Logged p items ended calls logs) {message : String}
    (hmessage : message ∉ "Graph write failed, retrying" :: RowLog.outcomes) :
    told (logs.flatMap RowLog.events) message = 0 := by
  apply Sync.told_eq_zero
  rintro e he rfl
  obtain ⟨l, hl, hel⟩ := List.mem_flatMap.mp he
  exact hmessage ((h.tells l hl).message hel)

/-- How the log of a run ends. -/
def closing : Except RunError Report → List Event
  | .ok report => [.runCompleted report]
  | .error _ => []

lemma told_started_closing (result : Except RunError Report) :
    told (closing result) "Starting property sync" = 0 := by
  cases result <;> rfl

section

variable (w : Writer σ) (o : Options) (kind : Kind) (s : σ) (items : List Item)

lemma run_events :
    (run w o kind s items).trace.events = .runStarted kind o.dryRun ::
      ((steps w o kind (.start kind s) items).trace.events ++
        closing (run w o kind s items).result) := by
  simp only [run]
  split <;> simp [closing]

lemma run_isOk :
    (run w o kind s items).result.isOk =
      (steps w o kind (.start kind s) items).stop.isNone := by
  simp only [run]
  split <;> simp_all [Except.isOk, Except.toBool]

end

/-- The counters and the log of a run that returns. -/
lemma Counts.agreesWith {kind : Kind} {report : Report} {calls : List Call} {events : List Event}
    (h : Counts { kind := kind } report calls events)
    (hended : told events "Property sync complete" = 0) :
    AgreesWith report calls
      (.runStarted kind false :: (events ++ [.runCompleted report])) := by
  have hstarted : (Event.runStarted kind false).message = "Starting property sync" := rfl
  have hcompleted : (Event.runCompleted report).message = "Property sync complete" := rfl
  obtain ⟨hmissing, hduplicates, hwrites, hskipped, hattempts⟩ := h
  dsimp only at hmissing hduplicates hwrites hattempts
  have hfailed := congrArg List.length hskipped
  simp only [List.length_map, List.map_nil, List.nil_append, ← List.countP_eq_length_filter]
    at hfailed
  refine ⟨?_, ?_, ?_, ?_, ?_, ?_, ?_, ?_⟩
  · simp [hstarted, hcompleted, hended]
  · rw [← List.cons_append, List.getLast?_concat]
    rfl
  · simp [hstarted, hcompleted, hmissing]
  · simp [hstarted, hcompleted, hduplicates]
  · simp [hstarted, hcompleted]
    omega
  · simp [hstarted, hcompleted, hfailed, told]
  · simp [hstarted, hcompleted, hskipped]
  · simp [hstarted, hcompleted]
    omega

/-- A run that writes, for any writer and stream, begins its log with its start and has it nowhere
else. It goes on row by row, in the order of the stream: first the retries of the row, one for each
of its attempts but the last, numbered from 1 and with the pause that the policy has for that
number, then its outcome. If the run returns, its log ends with the numbers of the report, and
messages occur as often as the report counts what they tell; the rows skipped have the key and the
failure that they have in the report, in its order. If the run stops, the log does not say that it
is complete. -/
theorem log_agrees_with_report (w : Writer σ) (s : σ) (kind : Kind) (o : Options)
    (hdry : o.dryRun = false) (items : List Item) :
    let out := run w o kind s items
    let events := out.trace.events
    events.head?.map Event.message = some "Starting property sync" ∧
      told events "Starting property sync" = 1 ∧
      (∃ logs, Logged o.retry items out.result.isOk out.trace.calls logs ∧
        events = .runStarted kind false :: (logs.flatMap RowLog.events ++ closing out.result)) ∧
      (∀ report, out.result = .ok report → AgreesWith report out.trace.calls events) ∧
      ∀ e, out.result = .error e → told events "Property sync complete" = 0 := by
  intro out events
  obtain ⟨logs, hlogged, hrows⟩ := steps_logged w kind hdry (.start kind s) items
  have hcounts := steps_counts w kind hdry (.start kind s) items
  rw [hrows] at hcounts
  rw [← run_calls] at hlogged hcounts
  rw [← run_isOk] at hlogged
  have hevents : events =
      .runStarted kind false :: (logs.flatMap RowLog.events ++ closing out.result) := by
    rw [← hrows, ← hdry]
    exact run_events w o kind s items
  have hstarted : (Event.runStarted kind false).message = "Starting property sync" := rfl
  -- what a row leaves in the log is neither the first message of a run nor the last
  have hstart := hlogged.told_eq_zero (show "Starting property sync" ∉ _ by decide)
  have hend := hlogged.told_eq_zero (show "Property sync complete" ∉ _ by decide)
  refine ⟨?_, ?_, ⟨logs, hlogged, hevents⟩, ?_, ?_⟩
  · rw [hevents]
    rfl
  · simp [hevents, hstarted, hstart, told_started_closing]
  · intro report hok
    obtain ⟨-, hreport⟩ := (run_result_eq_ok_iff w o kind s items report).mp hok
    rw [hreport] at hcounts
    rw [hevents, hok]
    exact hcounts.agreesWith hend
  · intro e herror
    simp [hevents, hstarted, hend, herror, closing]

/-- Of five rows one is skipped after two attempts, one succeeds with the second attempt, and the
others match no node, one node and, as the graph has it, less than none. -/
theorem log_agrees_with_report_after_retries :
    let row (name : String) : Row := ⟨.ofCrate name, ⟨1577836800, 0, by decide, by decide⟩⟩
    let graph : Graph.Memory :=
      { nodes := []
        disturbances := [("name=serde", ⟨none, { text := "connection reset by peer" }⟩),
          ("name=tokio", ⟨some 1, { text := "timed out" }⟩)]
        counts := [("name=rand", 0), ("name=tokio", 3), ("name=libc", 1), ("name=syn", -2)] }
    let o : Options := { retry := ⟨2, 100, 5000⟩, failureMode := .skip }
    let items : List Item :=
      ["rand", "serde", "tokio", "libc", "syn"].map fun name => .ok (row name)
    let report : Report :=
      { kind := .crate, rowsRead := 5, writes := 4, nodesUpdated := 4, missing := 1, duplicates := 2
        skipped := [⟨.ofCrate "serde", "Failed to set created_at on Crate \x7bname=serde\x7d: " ++
          "gave up after 2 attempt(s): connection reset by peer"⟩] }
    o.dryRun = false ∧ (run Graph.Memory.writer o .crate graph items).result = .ok report ∧
      told (run Graph.Memory.writer o .crate graph items).trace.events
        "Graph write failed, retrying" = 2 ∧
      (∃ logs, Logged o.retry items (run Graph.Memory.writer o .crate graph items).result.isOk
          (run Graph.Memory.writer o .crate graph items).trace.calls logs ∧
        (run Graph.Memory.writer o .crate graph items).trace.events =
          .runStarted .crate false :: (logs.flatMap RowLog.events ++
            closing (run Graph.Memory.writer o .crate graph items).result)) ∧
      AgreesWith report (run Graph.Memory.writer o .crate graph items).trace.calls
        (run Graph.Memory.writer o .crate graph items).trace.events := by
  intro row graph o items report
  have hok : (run Graph.Memory.writer o .crate graph items).result = .ok report := by
    decide +kernel
  obtain ⟨-, -, hlogs, hagrees, -⟩ :=
    log_agrees_with_report Graph.Memory.writer graph .crate o rfl items
  exact ⟨rfl, hok, by decide +kernel, hlogs, hagrees report hok⟩

end Backfill.Sync
