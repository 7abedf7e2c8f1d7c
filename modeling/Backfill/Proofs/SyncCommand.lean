import Mathlib.Algebra.BigOperators.Ring.Finset
import Backfill.Command
import Backfill.Graph.Memory
import Backfill.Proofs.Completion

/-!
# When the command succeeds

The command that copies creation dates runs the kinds of its target one after the other. It succeeds
if and only if nothing of any kind is left behind. A run that stops ends it, with nothing asked of
the source and nothing written for later kinds; rows that were skipped do not, and only make it fail
in the end, when all reports are printed.
-/

namespace Backfill.Command

open CommandLine (SyncArguments)

variable {σ : Type} {w : Sync.Writer σ} {o : Sync.Options} {c : Source.Content}

/-! ### One kind -/

/-- A run of a kind that has returned: its report, and the rows that were acknowledged. -/
structure CompletedRun where
  kind : Kind
  report : Sync.Report
  written : List (Row × Int)

/-- What is printed for a run: a heading, a line for each write if that is asked for, the report. -/
def CompletedRun.lines (colour echo : Bool) (r : CompletedRun) : List String :=
  (Text.Paint.bold.apply colour "Syncing" ++ " " ++ Text.Paint.cyan.apply colour r.kind.label) ::
    (if echo then r.written.map fun (row, n) => Terminal.writeLine colour row n else []) ++
    Terminal.reportLines colour r.report

section

variable (colour echo : Bool) {kind : Kind} {feed : Source.Feed} {s : σ}

lemma runFeed_of_ok {report : Sync.Report} (hbroken : feed.broken = false)
    (hok : (Sync.run w o kind s feed.items).result = .ok report) :
    runFeed colour echo w o kind feed s =
      { result := .ok report
        state := (Sync.run w o kind s feed.items).state
        journal := traceJournal colour echo (Sync.run w o kind s feed.items).trace } := by
  simp [runFeed, hbroken, hok, Except.mapError]

/-- A run that stops does so before its feed could break off. -/
lemma runFeed_of_error {e : Sync.RunError}
    (herror : (Sync.run w o kind s feed.items).result = .error e) :
    (runFeed colour echo w o kind feed s).result = .error (.failure e.failure) ∧
      (runFeed colour echo w o kind feed s).state = (Sync.run w o kind s feed.items).state ∧
      (runFeed colour echo w o kind feed s).journal.requests = [] := by
  have hstop := (Sync.run_result_eq_error_iff w o kind s feed.items e).mp herror
  cases hbroken : feed.broken with
  | false => simp [runFeed, hbroken, herror, Except.mapError, traceJournal]
  | true => simp [runFeed, hbroken, hstop, traceJournal, Sync.run_state]

lemma of_runFeed_ok {colour echo : Bool} {report : Sync.Report}
    (h : (runFeed colour echo w o kind feed s).result = .ok report) :
    feed.broken = false ∧ (Sync.run w o kind s feed.items).result = .ok report := by
  cases hbroken : feed.broken with
  | false =>
    cases hres : (Sync.run w o kind s feed.items).result with
    | error e => simp [runFeed, hbroken, hres, Except.mapError] at h
    | ok report' => simpa [runFeed, hbroken, hres, Except.mapError] using h
  | true => simp [runFeed, hbroken] at h

/-- The heading is printed, the rows are asked for, and the run goes over them. A run that returns
has its report printed. -/
lemma syncKind_eq (c : Source.Content) (w : Sync.Writer σ) (o : Sync.Options) (kind : Kind)
    (s : σ) :
    let fed := runFeed colour echo w o kind (c.feed kind) s
    let done := syncKind colour echo { content := c } w o kind s
    done.result = fed.result ∧ done.state = fed.state ∧
      done.journal.requests = .query kind.descriptor.readQuery :: fed.journal.requests ∧
      ∀ report, fed.result = .ok report → done.journal.lines =
        (Text.Paint.bold.apply colour "Syncing" ++ " " ++
          Text.Paint.cyan.apply colour kind.label) ::
          fed.journal.lines ++ Terminal.reportLines colour report := by
  have hrows : Source.readRows { content := c } kind s =
      { result := .ok (c.feed kind), state := s
        journal := { requests := [.query kind.descriptor.readQuery] } } := rfl
  simp only [syncKind, bind, pure, Work.print, Work.note, hrows]
  generalize runFeed colour echo w o kind (c.feed kind) s = fed
  cases hres : fed.result <;> simp

lemma syncKind_of_ok {report : Sync.Report} (hbroken : (c.feed kind).broken = false)
    (hok : (Sync.run w o kind s (c.feed kind).items).result = .ok report) :
    let out := Sync.run w o kind s (c.feed kind).items
    let done := syncKind colour echo { content := c } w o kind s
    done.result = .ok report ∧ done.state = out.state ∧
      done.journal.requests = [.query kind.descriptor.readQuery] ∧
      done.journal.lines = CompletedRun.lines colour echo ⟨kind, report, out.trace.written⟩ := by
  obtain ⟨hresult, hstate, hrequests, hlines⟩ := syncKind_eq colour echo c w o kind s
  rw [runFeed_of_ok colour echo hbroken hok] at hresult hstate hrequests hlines
  exact ⟨hresult, hstate, hrequests, hlines report rfl⟩

lemma syncKind_of_error {e : Sync.RunError}
    (herror : (Sync.run w o kind s (c.feed kind).items).result = .error e) :
    let done := syncKind colour echo { content := c } w o kind s
    done.result = .error (.failure e.failure) ∧
      done.state = (Sync.run w o kind s (c.feed kind).items).state ∧
      done.journal.requests = [.query kind.descriptor.readQuery] := by
  obtain ⟨hresult, hstate, hrequests, -⟩ := syncKind_eq colour echo c w o kind s
  obtain ⟨hresult', hstate', hrequests'⟩ := runFeed_of_error colour echo herror
  exact ⟨hresult.trans hresult', hstate.trans hstate', by rw [hrequests, hrequests']⟩

end

/-! ### All kinds -/

/-- Runs of some kinds over what a source holds, one after the other, that all return. Each of them
goes on from the state that the one before it leaves. -/
inductive Completed (c : Source.Content) (w : Sync.Writer σ) (o : Sync.Options) :
    σ → List CompletedRun → σ → Prop
  | nil (s : σ) : Completed c w o s [] s
  | cons {s s' : σ} {kind : Kind} {report : Sync.Report} {runs : List CompletedRun}
      (hbroken : (c.feed kind).broken = false)
      (hok : (Sync.run w o kind s (c.feed kind).items).result = .ok report)
      (later : Completed c w o (Sync.run w o kind s (c.feed kind).items).state runs s') :
      Completed c w o s
        (⟨kind, report, (Sync.run w o kind s (c.feed kind).items).trace.written⟩ :: runs) s'

/-- The number of rows that some runs have skipped. -/
def skippedBy (runs : List CompletedRun) : Nat :=
  (runs.map fun r => r.report.skipped.length).sum

section

variable (colour echo : Bool) {s s' : σ} {runs : List CompletedRun}

/-- Kinds whose runs all return are all asked for, and their reports are printed. -/
lemma syncKinds_of_completed (h : Completed c w o s runs s') :
    let done := syncKinds colour echo { content := c } w o (runs.map CompletedRun.kind) s
    done.result = .ok (skippedBy runs) ∧ done.state = s' ∧
      done.journal.requests = runs.map (fun r => .query r.kind.descriptor.readQuery) ∧
      done.journal.lines = runs.flatMap (CompletedRun.lines colour echo) := by
  induction h with
  | nil s => exact ⟨rfl, rfl, rfl, rfl⟩
  | cons hbroken hok later ih =>
    obtain ⟨hresult, hstate, hrequests, hlines⟩ := syncKind_of_ok colour echo hbroken hok
    obtain ⟨hresult', hstate', hrequests', hlines'⟩ := ih
    rw [List.map_cons, syncKinds, Work.bind_of_ok _ hresult, hstate, Work.bind_of_ok _ hresult']
    refine ⟨rfl, hstate', ?_, ?_⟩
    · simp [pure, hrequests, hrequests']
    · simp [pure, hlines, hlines']

/-- A run that stops is the last: no later kind is asked for, and nothing is written for it. -/
lemma syncKinds_of_stop (h : Completed c w o s runs s') {kind : Kind} {e : Sync.RunError}
    (herror : (Sync.run w o kind s' (c.feed kind).items).result = .error e) (later : List Kind) :
    let done :=
      syncKinds colour echo { content := c } w o (runs.map CompletedRun.kind ++ kind :: later) s
    done.result = .error (.failure e.failure) ∧
      done.state = (Sync.run w o kind s' (c.feed kind).items).state ∧
      done.journal.requests =
        (runs.map CompletedRun.kind ++ [kind]).map (fun k => .query k.descriptor.readQuery) := by
  induction h with
  | nil s =>
    obtain ⟨hresult, hstate, hrequests⟩ := syncKind_of_error colour echo herror
    rw [List.map_nil, List.nil_append, syncKinds, Work.bind_of_error _ hresult]
    exact ⟨rfl, hstate, hrequests⟩
  | cons hbroken hok _ ih =>
    obtain ⟨hresult, hstate, hrequests, -⟩ := syncKind_of_ok colour echo hbroken hok
    obtain ⟨hresult', hstate', hrequests'⟩ := ih herror
    rw [List.map_cons, List.cons_append, syncKinds, Work.bind_of_ok _ hresult, hstate,
      Work.bind_of_error _ hresult']
    refine ⟨rfl, hstate', ?_⟩
    simp [hrequests, hrequests']

/-- Only if all runs return do the kinds come to an end. -/
lemma completed_of_syncKinds {colour echo : Bool} {kinds : List Kind} {n : Nat}
    (h : (syncKinds colour echo { content := c } w o kinds s).result = .ok n) :
    ∃ runs s', runs.map CompletedRun.kind = kinds ∧ Completed c w o s runs s' := by
  induction kinds generalizing s n with
  | nil => exact ⟨[], s, rfl, .nil s⟩
  | cons kind kinds ih =>
    obtain ⟨hresult, hstate, -, -⟩ := syncKind_eq colour echo c w o kind s
    cases hkind : (syncKind colour echo { content := c } w o kind s).result with
    | error e =>
      rw [syncKinds, Work.bind_of_error _ hkind] at h
      cases h
    | ok report =>
      obtain ⟨hbroken, hok⟩ := of_runFeed_ok (hresult.symm.trans hkind)
      rw [syncKinds, Work.bind_of_ok _ hkind, hstate, runFeed_of_ok colour echo hbroken hok] at h
      -- the kind has returned; the others start from the state that it left
      cases hlater : (syncKinds colour echo { content := c } w o kinds
          (Sync.run w o kind s (c.feed kind).items).state).result with
      | error e =>
        rw [Work.bind_of_error _ hlater] at h
        cases h
      | ok m =>
        obtain ⟨runs, s', rfl, hruns⟩ := ih hlater
        exact ⟨_ :: runs, s', rfl, .cons hbroken hok hruns⟩

end

/-! ### Nothing left behind -/

/-- Nothing of some kinds is left behind, one after the other: all rows that the source holds are
read and decoded and, unless the run is dry, acknowledged within the attempts granted. -/
inductive NothingLeftBehind (c : Source.Content) (w : Sync.Writer σ) (o : Sync.Options) :
    σ → List Kind → σ → Prop
  | nil (s : σ) : NothingLeftBehind c w o s [] s
  | cons {s s₁ s' : σ} {kind : Kind} {kinds : List Kind} {rows : List Row}
      (hrows : c.Gives kind rows) (hdealt : Sync.DealsWith w o kind s rows s₁)
      (later : NothingLeftBehind c w o s₁ kinds s') : NothingLeftBehind c w o s (kind :: kinds) s'

lemma skippedBy_eq_zero_iff {runs : List CompletedRun} :
    skippedBy runs = 0 ↔ ∀ r ∈ runs, r.report.skipped = [] := by
  simp [skippedBy, List.sum_eq_zero_iff_forall_eq_nat]

/-- Nothing is left behind if and only if all runs return and skip no row. -/
lemma nothingLeftBehind_iff {s s' : σ} {kinds : List Kind} :
    NothingLeftBehind c w o s kinds s' ↔
      ∃ runs, runs.map CompletedRun.kind = kinds ∧ Completed c w o s runs s' ∧
        skippedBy runs = 0 := by
  simp only [skippedBy_eq_zero_iff]
  constructor
  · intro h
    induction h with
    | nil s => exact ⟨[], rfl, .nil s, by simp⟩
    | @cons s s₁ s' kind kinds rows hrows hdealt later ih =>
      obtain ⟨runs, rfl, hruns, hskipped⟩ := ih
      have hfeed := Source.Content.feed_eq_iff.mpr hrows
      obtain ⟨⟨report, hok, hnone⟩, rfl⟩ :=
        (Sync.run_dealsWith_iff s s₁ (c.feed kind).items).mpr ⟨rows, by rw [hfeed], hdealt⟩
      have hbroken : (c.feed kind).broken = false := by rw [hfeed]
      exact ⟨_ :: runs, rfl, .cons hbroken hok hruns, List.forall_mem_cons.mpr ⟨hnone, hskipped⟩⟩
  · rintro ⟨runs, rfl, hruns, hskipped⟩
    induction hruns with
    | nil s => exact .nil s
    | @cons s s' kind report runs hbroken hok later ih =>
      rw [List.forall_mem_cons] at hskipped
      obtain ⟨rows, hitems, hdealt⟩ := (Sync.run_dealsWith_iff s _ (c.feed kind).items).mp
        ⟨⟨report, hok, hskipped.1⟩, rfl⟩
      have hfeed : c.feed kind = ⟨rows.map .ok, false⟩ := by
        rw [← hitems, ← hbroken]
      exact .cons (Source.Content.feed_eq_iff.mp hfeed) hdealt (ih hskipped.2)

/-! ### The whole command -/

/-- What is printed before the first kind. -/
def banner (colour : Bool) (o : Sync.Options) : List String :=
  if o.dryRun then [Text.Paint.yellow.apply colour "Dry run: no graph writes will be issued."]
  else []

/-- The kinds, and what follows them: the source is left, and skipped rows make the command fail. -/
def closing (kinds : Work σ Nat) : Work σ Unit := do
  let skipped ← kinds
  Source.closeSession
  if skipped > 0 then
    Work.fail { text := Text.nat skipped ++ " row(s) failed to sync" }

lemma closing_of_error {kinds : Work σ Nat} {s : σ} {e : Interruption}
    (h : (kinds s).result = .error e) :
    closing kinds s = ⟨.error e, (kinds s).state, (kinds s).journal⟩ :=
  Work.bind_of_error _ h

lemma closing_of_ok {kinds : Work σ Nat} {s : σ} {n : Nat} (h : (kinds s).result = .ok n) :
    let done := closing kinds s
    done.result = (if n = 0 then .ok ()
        else .error (.failure { text := Text.nat n ++ " row(s) failed to sync" })) ∧
      done.state = (kinds s).state ∧
      done.journal.requests = (kinds s).journal.requests ++ [.terminate] ∧
      done.journal.lines = (kinds s).journal.lines := by
  have hclose : Source.closeSession (kinds s).state =
      { result := .ok (), state := (kinds s).state
        journal := { requests := [.terminate], events := [.sourceClosed] } } := rfl
  rw [closing, Work.bind_of_ok _ h]
  simp only [bind, hclose]
  cases n with
  | zero => simp [pure]
  | succ n => simp [Work.fail, Work.stop]

section

variable (colour : Bool) (settings : Settings) (arguments : SyncArguments) {server : Source.Server}
  {graph : Graph.Store σ} {s s₁ : σ} (hsource : server.connect = .ok c)
  (haddress : graph.address = .ok ()) (hgraph : graph.connect s = (.ok (), s₁))
include hsource haddress hgraph

lemma openStores_of_connected :
    let done := openStores settings server graph s
    done.result = .ok { content := c } ∧ done.state = s₁ ∧
      done.journal.requests =
        [.connect settings.source.user settings.source.database settings.source.password] ∧
      done.journal.lines = [] := by
  cases server with
  | down => cases hsource
  | up content =>
    have hopen : Source.openSession settings.source (.up content) s =
        { result := .ok (.ok { content := c }), state := s
          journal :=
            { requests :=
                [.connect settings.source.user settings.source.database settings.source.password]
              events := [.sourceConnected settings.source.host settings.source.port
                settings.source.database] } } := by
      simp only [Source.openSession, hsource]
      rfl
    have hsession : ofSource "Failed to connect to PostgreSQL"
          (.ok { content := c } : Except Source.Fault Source.Session) s =
        { result := .ok { content := c }, state := s } := rfl
    have hconnect : (connectGraph graph).within "Failed to connect to Neo4j" s =
        { result := .ok (), state := s₁
          journal := { events := [.poolCreated 1, .connectionOpening] } } := by
      simp only [connectGraph, haddress, bind, Work.ofExcept, pure, Work.report, Work.note,
        Work.perform, Work.within, hgraph]
      rfl
    simp only [openStores, bind, hopen, hsession, hconnect]
    exact ⟨rfl, rfl, rfl, rfl⟩

/-- When both stores are open, the command is what its kinds come to. -/
lemma sync_of_connected :
    let o := arguments.options settings.sync
    let closed := closing (syncKinds colour arguments.echo { content := c } graph.write o
      arguments.target.kinds) s₁
    let done := sync colour settings arguments server graph s
    done.result = closed.result ∧ done.state = closed.state ∧
      done.journal.requests =
        .connect settings.source.user settings.source.database settings.source.password ::
          closed.journal.requests ∧
      done.journal.lines = banner colour o ++ closed.journal.lines := by
  intro o closed done
  obtain ⟨hopen, hstate, hrequests, hlines⟩ :=
    openStores_of_connected settings hsource haddress hgraph
  have hdone : done = { closed with
      journal := (openStores settings server graph s).journal ++
        ({ lines := banner colour o } ++ closed.journal) } := by
    simp only [done, sync, banner]
    rw [Work.bind_of_ok _ hopen, hstate]
    cases hdry : o.dryRun <;> rfl
  rw [hdone]
  simp [hrequests, hlines]

lemma sync_of_completed {runs : List CompletedRun} {s' : σ}
    (hkinds : arguments.target.kinds = runs.map CompletedRun.kind)
    (h : Completed c graph.write (arguments.options settings.sync) s₁ runs s') :
    let done := sync colour settings arguments server graph s
    done.result = (if skippedBy runs = 0 then .ok () else .error (.failure
        { text := Text.nat (skippedBy runs) ++ " row(s) failed to sync" })) ∧
      done.state = s' ∧
      done.journal.requests =
        .connect settings.source.user settings.source.database settings.source.password ::
          arguments.target.kinds.map (fun k => .query k.descriptor.readQuery) ++ [.terminate] ∧
      done.journal.lines = banner colour (arguments.options settings.sync) ++
        runs.flatMap (CompletedRun.lines colour arguments.echo) := by
  intro done
  obtain ⟨hresult, hstate, hrequests, hlines⟩ :=
    sync_of_connected colour settings arguments hsource haddress hgraph
  obtain ⟨hran, hstate', hrequests', hlines'⟩ := syncKinds_of_completed colour arguments.echo h
  rw [← hkinds] at hran hstate' hrequests' hlines'
  obtain ⟨hclosed, hstate'', hrequests'', hlines''⟩ := closing_of_ok hran
  refine ⟨hresult.trans hclosed, hstate.trans (hstate''.trans hstate'), ?_, ?_⟩
  · rw [hrequests, hrequests'', hrequests', hkinds, List.map_map]
    rfl
  · rw [hlines, hlines'', hlines']

lemma sync_of_stop {runs : List CompletedRun} {s' : σ} {kind : Kind} {later : List Kind}
    {e : Sync.RunError}
    (hkinds : arguments.target.kinds = runs.map CompletedRun.kind ++ kind :: later)
    (h : Completed c graph.write (arguments.options settings.sync) s₁ runs s')
    (herror : (Sync.run graph.write (arguments.options settings.sync) kind s'
      (c.feed kind).items).result = .error e) :
    let done := sync colour settings arguments server graph s
    done.result = .error (.failure e.failure) ∧
      done.state = (Sync.run graph.write (arguments.options settings.sync) kind s'
        (c.feed kind).items).state ∧
      done.journal.requests =
        .connect settings.source.user settings.source.database settings.source.password ::
          (runs.map CompletedRun.kind ++ [kind]).map fun k => .query k.descriptor.readQuery := by
  intro done
  obtain ⟨hresult, hstate, hrequests, -⟩ :=
    sync_of_connected colour settings arguments hsource haddress hgraph
  obtain ⟨hran, hstate', hrequests'⟩ := syncKinds_of_stop colour arguments.echo h herror later
  rw [← hkinds] at hran hstate' hrequests'
  rw [closing_of_error hran] at hresult hstate hrequests
  exact ⟨hresult, hstate.trans hstate', by rw [hrequests, hrequests']⟩

lemma completed_of_sync (hok : (sync colour settings arguments server graph s).result = .ok ()) :
    ∃ runs s', arguments.target.kinds = runs.map CompletedRun.kind ∧
      Completed c graph.write (arguments.options settings.sync) s₁ runs s' := by
  obtain ⟨hresult, -, -, -⟩ :=
    sync_of_connected colour settings arguments hsource haddress hgraph
  cases hran : (syncKinds colour arguments.echo { content := c } graph.write
      (arguments.options settings.sync) arguments.target.kinds s₁).result with
  | error e =>
    rw [closing_of_error hran, hok] at hresult
    cases hresult
  | ok n =>
    obtain ⟨runs, s', hkinds, hruns⟩ := completed_of_syncKinds hran
    exact ⟨runs, s', hkinds.symm, hruns⟩

end

/-- The command, for any target, options and settings, any content of the source and any behaviour
of the graph, once both are connected. It succeeds if and only if, kind by kind, every row that the
source holds is read and decoded and, unless the run is dry, acknowledged within the attempts
granted. The first run that stops ends the command with its error: the source has been asked for the
kinds up to this one and no others, and the graph is as this run leaves it. If all runs return,
skipped rows or not, all kinds have been asked for and the report of each is printed; and if they
have skipped any rows, the command fails with the number of these. -/
theorem sync_succeeds_iff_nothing_left_behind (colour : Bool) (settings : Settings)
    (arguments : SyncArguments) {server : Source.Server} {c : Source.Content}
    {graph : Graph.Store σ} {s s₁ : σ} (hsource : server.connect = .ok c)
    (haddress : graph.address = .ok ()) (hgraph : graph.connect s = (.ok (), s₁)) :
    let o := arguments.options settings.sync
    let kinds := arguments.target.kinds
    let hello : Source.Request :=
      .connect settings.source.user settings.source.database settings.source.password
    let query (k : Kind) : Source.Request := .query k.descriptor.readQuery
    let done := sync colour settings arguments server graph s
    (done.result = .ok () ↔ ∃ s', NothingLeftBehind c graph.write o s₁ kinds s') ∧
      (∀ runs s' kind later e, kinds = runs.map CompletedRun.kind ++ kind :: later →
        Completed c graph.write o s₁ runs s' →
        (Sync.run graph.write o kind s' (c.feed kind).items).result = .error e →
        done.result = .error (.failure e.failure) ∧
          done.state = (Sync.run graph.write o kind s' (c.feed kind).items).state ∧
          done.journal.requests = hello :: (runs.map CompletedRun.kind ++ [kind]).map query) ∧
      ∀ runs s', kinds = runs.map CompletedRun.kind → Completed c graph.write o s₁ runs s' →
        done.state = s' ∧ done.journal.requests = hello :: kinds.map query ++ [.terminate] ∧
          done.journal.lines =
            banner colour o ++ runs.flatMap (CompletedRun.lines colour arguments.echo) ∧
          (0 < skippedBy runs → done.result = .error (.failure
            { text := Text.nat (skippedBy runs) ++ " row(s) failed to sync" })) := by
  intro o kinds hello query done
  have hcompleted {runs : List CompletedRun} {s' : σ}
      (hkinds : kinds = runs.map CompletedRun.kind)
      (hruns : Completed c graph.write o s₁ runs s') :=
    sync_of_completed colour settings arguments hsource haddress hgraph hkinds hruns
  refine ⟨?_, ?_, ?_⟩
  · simp only [nothingLeftBehind_iff]
    constructor
    · intro hok
      obtain ⟨runs, s', hkinds, hruns⟩ :=
        completed_of_sync colour settings arguments hsource haddress hgraph hok
      refine ⟨s', runs, hkinds.symm, hruns, ?_⟩
      by_contra hne
      have hresult := (hcompleted hkinds hruns).1
      rw [if_neg hne] at hresult
      cases hok.symm.trans hresult
    · rintro ⟨s', runs, hkinds, hruns, hzero⟩
      have hresult := (hcompleted hkinds.symm hruns).1
      rwa [if_pos hzero] at hresult
  · intro runs s' kind later e hkinds hruns herror
    exact sync_of_stop colour settings arguments hsource haddress hgraph hkinds hruns herror
  · intro runs s' hkinds hruns
    obtain ⟨hresult, hstate, hrequests, hlines⟩ := hcompleted hkinds hruns
    refine ⟨hstate, hrequests, hlines, fun hpos => ?_⟩
    rwa [if_neg (Nat.ne_of_gt hpos)] at hresult

/-- One of two crates is skipped after three attempts. The versions are run all the same, and the
command fails when both reports are printed. -/
theorem sync_fails_after_skipped_row :
    let c : Source.Content :=
      { read := fun
          | .crate => { rows := some [[.text "serde", .integer 0], [.text "tokio", .integer 1]] }
          | .version => { rows := some [[.text "serde", .text "1.0.0", .integer 2]] } }
    let reset : Failure := { text := "connection reset by peer" }
    let m : Graph.Memory :=
      { nodes := [⟨"Crate", [("name", "serde")]⟩, ⟨"Crate", [("name", "tokio")]⟩]
        disturbances := [("name=serde", ⟨none, reset⟩)] }
    let graph : Graph.Store Graph.Memory :=
      { address := .ok ()
        connect := fun m => (.ok (), m)
        write := Graph.Memory.writer
        coverage := fun kind m => (.ok ⟨kind, 0, 0⟩, m) }
    let arguments : SyncArguments := { target := .all, skipFailed := true }
    let done := sync false {} arguments (.up c) graph m
    (Source.Server.up c).connect = .ok c ∧ graph.address = .ok () ∧ graph.connect m = (.ok (), m) ∧
      done.result = .error (.failure { text := "1 row(s) failed to sync" }) ∧
      done.journal.requests =
        [.connect "postgres" "crates" "", .query Kind.crate.descriptor.readQuery,
          .query Kind.version.descriptor.readQuery, .terminate] ∧
      done.journal.lines =
        ["Syncing Crate", "  Rows read:      2", "  Writes:         1", "  Nodes updated:  1",
          "  Failed:         1",
          "    name=serde Failed to set created_at on Crate \x7bname=serde\x7d: " ++
            "gave up after 3 attempt(s): connection reset by peer", "",
          "Syncing Version", "  Rows read:      1", "  Writes:         1", "  Nodes updated:  0",
          "  No match:       1", ""] := by
  intro c reset m graph arguments done
  let o := arguments.options {}
  have hcrate : (Sync.run graph.write o .crate m (c.feed .crate).items).result =
      .ok { kind := .crate, rowsRead := 2, writes := 1, nodesUpdated := 1
            skipped := [⟨.ofCrate "serde",
              "Failed to set created_at on Crate \x7bname=serde\x7d: " ++
                "gave up after 3 attempt(s): connection reset by peer"⟩] } := by
    decide +kernel
  have hversion : (Sync.run graph.write o .version
      (Sync.run graph.write o .crate m (c.feed .crate).items).state
        (c.feed .version).items).result =
      .ok { kind := .version, rowsRead := 1, writes := 1, missing := 1 } := by
    decide +kernel
  have hruns := Completed.cons rfl hcrate (.cons rfl hversion (.nil _))
  obtain ⟨-, -, hall⟩ := sync_succeeds_iff_nothing_left_behind false {} arguments
    (show (Source.Server.up c).connect = .ok c from rfl) (show graph.address = .ok () from rfl)
    (show graph.connect m = (.ok (), m) from rfl)
  obtain ⟨-, hrequests, hlines, hresult⟩ := hall _ _ rfl hruns
  have htext : Text.nat 1 ++ " row(s) failed to sync" = "1 row(s) failed to sync" := by decide
  rw [← htext]
  exact ⟨rfl, rfl, rfl, hresult Nat.one_pos, hrequests, hlines.trans (by decide +kernel)⟩

end Backfill.Command
