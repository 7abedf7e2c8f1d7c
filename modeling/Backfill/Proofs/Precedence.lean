import Backfill.Proofs.CommandLineGrammar
import Backfill.Proofs.SettingsReading

/-!
# Where settings come from

A setting is what the command line gives, or else its environment variable, or else the settings
file, or else its default. An option counts the same before and after the command, and each setting
has an option and a variable of its own.
-/

namespace Backfill.CommandLine

open Settings (Field SettingValue Sets documentSites)
open Toml (Entries parse?)

/-! ### Texts of options -/

/-- The variable of an option has its name in capitals, after that of the program. -/
def environmentName (o : Opt) : String :=
  "CRATEGRAPH_" ++ o.valueName

/-- The text that gives an option its value: what stands after the command, before it, or in the
environment. -/
def Line.text? (l : Line) (env : Environment) (o : Opt) : Option String :=
  l.after.lookup o <|> l.before.lookup o <|> env.lookup (environmentName o)

/-- The option gets the value of the text, and none if there is no text. -/
def HasValue (o : Opt) : Option String → Option OptValue → Prop :=
  Option.Rel fun text v => readValue o text = .ok v

lemma Reads.lookup {given : List (Opt × String)} {values : List (Opt × OptValue)}
    (h : Reads given values) (o : Opt) : HasValue o (given.lookup o) (values.lookup o) := by
  induction h with
  | nil => exact .none
  | @cons x y _ _ hxy _ ih =>
    obtain ⟨o', text⟩ := x
    obtain ⟨o'', v⟩ := y
    obtain ⟨rfl, hv⟩ := hxy
    rw [List.lookup_cons, List.lookup_cons]
    cases ho : o == o'' with
    | true =>
      rw [beq_iff_eq.mp ho]
      exact .some hv
    | false => exact ih

/-! ### The environment -/

/-- What the environment says about an option. -/
def environmentText? (env : Environment) (o : Opt) : Option String :=
  o.envName?.bind (env.lookup ·)

lemma environmentText?_eq (env : Environment) {o : Opt} (ho : o ∈ .config :: Opt.connection) :
    environmentText? env o = env.lookup (environmentName o) := by
  have hname : ∀ o ∈ .config :: Opt.connection, o.envName? = some (environmentName o) := by
    decide +kernel
  rw [environmentText?, hname o ho, Option.bind_some]

/-- The environment counts only where the command line says nothing. -/
def fallback? (env : Environment) (r : Reading) (o : Opt) : Option String :=
  if (r.given.lookup o).isSome then none else environmentText? env o

lemma hasValue_of_filterMapM {g : Opt → Except Stop (Option (Opt × OptValue))}
    (text? : Opt → Option String)
    (hnone : ∀ o, text? o = none → g o = .ok none)
    (hsome : ∀ o text, text? o = some text → g o = (fun v => some (o, v)) <$> readValue o text)
    {os : List Opt} (hos : os.Nodup) {values : List (Opt × OptValue)}
    (h : os.filterMapM g = .ok values) (o : Opt) :
    HasValue o (if o ∈ os then text? o else none) (values.lookup o) := by
  induction os generalizing values with
  | nil =>
    cases h
    exact .none
  | cons o' os ih =>
    obtain ⟨ho', hos⟩ := List.nodup_cons.mp hos
    rw [List.filterMapM_cons] at h
    cases htext : text? o' with
    | none =>
      rw [hnone o' htext] at h
      have hrest := ih hos h
      by_cases ho : o = o'
      · -- the option does not come again, so that later ones have no part in its value
        subst ho
        simpa [ho', htext] using hrest
      · simpa [ho] using hrest
    | some text =>
      rw [hsome o' text htext] at h
      obtain ⟨x, hx, h⟩ := bind_eq_ok.mp h
      obtain ⟨v, hv, hx⟩ := bind_eq_ok.mp hx
      cases hx
      obtain ⟨rest, hrest, h⟩ := bind_eq_ok.mp h
      cases h
      rw [List.lookup_cons]
      by_cases ho : o = o'
      · subst ho
        have hvalue : HasValue o (some text) (some v) := .some hv
        simpa [htext] using hvalue
      · have hne : (o == o') = false := by simpa using ho
        simpa [ho, hne] using ih hos hrest

lemma of_readEnvironment {scope : Scope} {env : Environment} {r : Reading}
    {values : List (Opt × OptValue)} (h : readEnvironment scope env r = .ok values) {o : Opt}
    (ho : o ∈ scope.options) : HasValue o (fallback? env r o) (values.lookup o) := by
  have hnodup : scope.options.Nodup := by cases scope <;> decide
  have hvalue := hasValue_of_filterMapM (fallback? env r) ?_ ?_ hnodup h o
  · simpa [ho] using hvalue
  · intro o htext
    unfold fallback? at htext
    -- the environment is asked only for options that the command line does not give
    cases hgiven : r.given.lookup o with
    | some v => rfl
    | none =>
      rw [hgiven] at htext
      have hnone : o.envName?.bind (env.lookup ·) = none := htext
      simp only [hnone]
      rfl
  · intro o text htext
    unfold fallback? at htext
    cases hgiven : r.given.lookup o with
    | some v => simp [hgiven] at htext
    | none =>
      rw [hgiven] at htext
      have hsome : o.envName?.bind (env.lookup ·) = some text := htext
      simp only [hsome]
      rfl

/-! ### Both parts of the command line -/

lemma of_finish {scope : Scope} {env : Environment} {r : Reading} {f : Finished}
    (h : finish scope env r = .ok f) :
    r.settle scope = .ok f.reading ∧
      readEnvironment scope env f.reading = .ok f.fromEnvironment := by
  obtain ⟨r', hsettle, h⟩ := bind_eq_ok.mp h
  obtain ⟨values, henvironment, h⟩ := bind_eq_ok.mp h
  cases h
  exact ⟨hsettle, henvironment⟩

/-- What is known of a part of the command line that has been read. -/
structure Done (scope : Scope) (env : Environment) (given : List (Opt × String)) (f : Finished) :
    Prop where
  reads : Reads given f.reading.given
  fromEnvironment : ∀ o ∈ scope.options,
    HasValue o (fallback? env f.reading o) (f.fromEnvironment.lookup o)

lemma Represents.finish {scope : Scope} {env : Environment} {r : Reading}
    {given : List (Opt × String)} {f : Finished} (h : Represents r given)
    (hf : finish scope env r = .ok f) : Done scope env given f := by
  obtain ⟨hsettle, henvironment⟩ := of_finish hf
  exact ⟨(h.settle hsettle).2, fun o ho => of_readEnvironment henvironment ho⟩

/-- A part of the command line that says nothing about an option leaves it to the environment. -/
lemma Done.hasValue_environment {scope : Scope} {env : Environment} {given : List (Opt × String)}
    {f : Finished} (h : Done scope env given f) {o : Opt} (ho : o ∈ scope.options)
    (hnone : f.reading.given.lookup o = none) :
    HasValue o (environmentText? env o) (f.fromEnvironment.lookup o) := by
  have hvalue := h.fromEnvironment o ho
  rw [fallback?, hnone] at hvalue
  exact hvalue

/-- How the stores are reached and where the settings are may be said before the command and after
it. -/
lemma mem_options {scope : Scope} (hscope : scope ≠ .help) {o : Opt}
    (ho : o ∈ .config :: Opt.connection) : o ∈ scope.options := by
  revert o
  cases scope with
  | help => contradiction
  | _ => decide

/-- The command wins over what stands before it, and both over the environment. -/
lemma hasValue_valueOf {env : Environment} {l : Line} {root command : Finished} {o : Opt}
    (hroot : Done .root env l.before root) (hcommand : Done l.command env l.after command)
    (hhelp : l.command ≠ .help) (ho : o ∈ .config :: Opt.connection) :
    HasValue o (l.text? env o) (valueOf root command o) := by
  have hafter := hcommand.reads.lookup o
  have hbefore := hroot.reads.lookup o
  have henv := hcommand.hasValue_environment (mem_options hhelp ho)
  have henv' := hroot.hasValue_environment (mem_options (by decide) ho)
  unfold Line.text? valueOf
  rw [environmentText?_eq env ho] at henv henv'
  -- both sides look in the same places and in the same order
  generalize l.after.lookup o = after, command.reading.given.lookup o = v at hafter henv ⊢
  generalize l.before.lookup o = before, root.reading.given.lookup o = v' at hbefore henv' ⊢
  cases hafter with
  | some hv => exact .some hv
  | none =>
    cases hbefore with
    | some hv => exact .some hv
    | none =>
      have henv := henv rfl
      have henv' := henv' rfl
      generalize env.lookup (environmentName o) = text, command.fromEnvironment.lookup o = w,
        root.fromEnvironment.lookup o = w' at henv henv' ⊢
      cases henv with
      | some hv => exact .some hv
      | none =>
        cases henv'
        exact .none

/-! ### What texts denote -/

/-- The value that a text denotes where an argument of some kind is taken. A number is decimal, with
a sign or without. -/
inductive Denotes : Argument → String → SettingValue → Prop
  | text (t : String) : Denotes .text t (.text t)
  | number {max n : Nat} {sign ds : List Char}
      (hsign : sign = [] ∨ sign = ['+'] ∨ sign = ['-'] ∧ n = 0) (hne : ds ≠ [])
      (hds : ∀ c ∈ ds, c.isDigit) (hn : Text.ofDigits ds = n) (hmax : n ≤ max) :
      Denotes (.number max) (String.ofList (sign ++ ds)) (.number n)

lemma of_readDigits {limit : Nat} {beyond : NumberFault} {n m : Nat} {cs : List Char}
    (h : readDigits limit beyond n cs = .ok m) :
    (∀ c ∈ cs, c.isDigit) ∧ Nat.ofDigitChars 10 cs n = m := by
  induction cs generalizing n with
  | nil =>
    cases h
    exact ⟨List.forall_mem_nil _, rfl⟩
  | cons c cs ih =>
    simp only [readDigits] at h
    split_ifs at h with hdigit
    obtain ⟨hcs, hm⟩ := ih h
    refine ⟨List.forall_mem_cons.mpr ⟨by simpa using hdigit, hcs⟩, ?_⟩
    rw [Nat.ofDigitChars_cons]
    exact hm

/-- A signed number: its sign, its digits, and what they denote. -/
lemma of_readInt64 {text : String} {m : Int} (h : readInt64 text = .ok m) :
    ∃ sign ds, text.toList = sign ++ ds ∧ ds ≠ [] ∧ (∀ c ∈ ds, c.isDigit) ∧
      ((sign = [] ∨ sign = ['+']) ∧ m = Text.ofDigits ds ∨
        sign = ['-'] ∧ m = -(Text.ofDigits ds : Int)) := by
  unfold readInt64 at h
  split at h
  · -- nothing at all, or a sign alone, is no number
    cases h
  · cases h
  · cases h
  · rename_i cs hne hlist
    obtain ⟨n, hn, h⟩ := bind_eq_ok.mp h
    cases h
    obtain ⟨hds, rfl⟩ := of_readDigits hn
    exact ⟨['+'], cs, hlist, by rintro rfl; exact hne rfl, hds, .inl ⟨.inr rfl, rfl⟩⟩
  · rename_i cs hne hlist
    obtain ⟨n, hn, h⟩ := bind_eq_ok.mp h
    cases h
    obtain ⟨hds, rfl⟩ := of_readDigits hn
    exact ⟨['-'], cs, hlist, by rintro rfl; exact hne rfl, hds, .inr ⟨rfl, rfl⟩⟩
  · rename_i cs hne _ _ _ _
    obtain ⟨n, hn, h⟩ := bind_eq_ok.mp h
    cases h
    obtain ⟨hds, rfl⟩ := of_readDigits hn
    exact ⟨[], _, rfl, hne, hds, .inl ⟨.inl rfl, rfl⟩⟩

lemma of_readNumber {max n : Nat} {text : String} (h : readNumber max text = .ok n) :
    Denotes (.number max) text (.number n) := by
  obtain ⟨m, hm, h⟩ := bind_eq_ok.mp h
  split_ifs at h with hrange
  cases h
  obtain ⟨sign, ds, htext, hne, hds, hvalue⟩ := of_readInt64 hm
  obtain rfl : text = String.ofList (sign ++ ds) := String.toList_inj.mp (by simpa using htext)
  rcases hvalue with ⟨hsign, rfl⟩ | ⟨rfl, rfl⟩
  · exact .number (by tauto) hne hds (by simp) (by omega)
  · exact .number (.inr (.inr ⟨rfl, by omega⟩)) hne hds (by omega) (by omega)

/-! ### Settings -/

/-- The option that gives a setting, if there is one. -/
def option? : Field → Option Opt
  | .sourceHost => some .sourceHost
  | .sourcePort => some .sourcePort
  | .sourceDatabase => some .sourceDatabase
  | .sourceUser => some .sourceUser
  | .sourcePassword => some .sourcePassword
  | .graphUri => some .graphUri
  | .graphUser => some .graphUser
  | .graphPassword => some .graphPassword
  | .graphDatabase => some .graphDatabase
  | .maxAttempts | .initialBackoff | .maxBackoff | .failureMode => none

/-- A value is what the text denotes, and stays as it was if there is no text. -/
structure Overridden (text? : Option String) (a : Argument) (x y : SettingValue) : Prop where
  given : ∀ text, text? = some text → Denotes a text y
  kept : text? = none → y = x

section

variable {o : Opt} {text? : Option String} {v? : Option OptValue}

lemma HasValue.isSome_eq (h : HasValue o text? v?) : v?.isSome = text?.isSome := by
  cases h <;> rfl

lemma HasValue.text?_eq (h : HasValue o text? v?) (harg : o.argument = .text ∨ o.argument = .path) :
    v?.bind OptValue.text? = text? := by
  cases h with
  | none => rfl
  | some hv =>
    unfold readValue at hv
    rcases harg with harg | harg
    · rw [harg] at hv
      cases hv
      rfl
    · simp only [harg] at hv
      split_ifs at hv
      cases hv
      rfl

lemma HasValue.number? {max : Nat} (h : HasValue o text? v?) (harg : o.argument = .number max) :
    Option.Rel (fun text n => Denotes (.number max) text (.number n)) text?
      (v?.bind OptValue.number?) := by
  cases h with
  | none => exact .none
  | some hv =>
    rename_i text v
    simp only [readValue, harg] at hv
    cases hnumber : readNumber max text with
    | ok n =>
      rw [hnumber] at hv
      cases hv
      exact .some (of_readNumber hnumber)
    | error fault =>
      rw [hnumber] at hv
      cases hv

lemma overridden_text (text? : Option String) (d : String) :
    Overridden text? .text (.text d) (.text (text?.getD d)) := by
  constructor
  · rintro text rfl
    exact .text text
  · rintro rfl
    rfl

/-- A number that a word can hold is not changed by it. -/
lemma overridden_number {max : Nat} {n? : Option Nat}
    (h : Option.Rel (fun text n => Denotes (.number max) text (.number n)) text? n?) {α : Type}
    {toWord : Nat → α} {toNat : α → Nat} (hword : ∀ n ≤ max, toNat (toWord n) = n) (d : α) :
    Overridden text? (.number max) (.number (toNat d))
      (.number (toNat ((n?.map toWord).getD d))) := by
  cases h with
  | none => exact ⟨by rintro _ ⟨⟩, fun _ => rfl⟩
  | some hn =>
    refine ⟨?_, by rintro ⟨⟩⟩
    rintro text ⟨⟩
    rename_i n
    have hmax : n ≤ max := by
      cases hn
      assumption
    rw [Option.map_some, Option.getD_some, hword n hmax]
    exact hn

end

/-- The settings of an invocation are those of the file and what the options say beyond them. -/
lemma overridden_apply {value : Opt → Option OptValue} {text? : Opt → Option String}
    (hvalue : ∀ o ∈ Opt.connection, HasValue o (text? o) (value o)) (command : Command)
    (file : Settings) {f : Field} {o : Opt} (hf : option? f = some o) :
    Overridden (text? o) o.argument (file.get f)
      (((invocation value command).overrides.apply file).get f) := by
  have htext (o : Opt) (ho : o ∈ Opt.connection) (harg : o.argument = .text) (d : String) :
      Overridden (text? o) o.argument (.text d)
        (.text (((value o).bind OptValue.text?).getD d)) := by
    rw [(hvalue o ho).text?_eq (.inl harg), harg]
    exact overridden_text (text? o) d
  cases f <;> cases hf
  -- the port is the only one that is not a text
  case sourcePort =>
    have hport := (hvalue .sourcePort (by decide)).number? rfl
    exact overridden_number hport (fun n hn => UInt16.toNat_ofNat_of_lt (Nat.lt_succ_of_le hn))
      file.source.port
  all_goals exact htext _ (by decide) rfl _

lemma get_overrides {f : Field} (hf : option? f = none) (o : Overrides) (s : Settings) :
    (o.apply s).get f = s.get f := by
  cases f with
  | maxAttempts => rfl
  | initialBackoff => rfl
  | maxBackoff => rfl
  | failureMode => rfl
  | _ => cases hf

/-- The document that a settings file holds. There is an empty one if no file is named. -/
def Holds (fs : Files) : Option String → Entries → Prop
  | none, es => es = []
  | some path, es => ∃ text, fs.readText path = .ok text ∧ parse? text = some es

lemma of_mapError {ε ε' α : Type} {x : Except ε α} {g : ε → ε'} {a : α}
    (h : x.mapError g = .ok a) : x = .ok a := by
  cases x with
  | error e => cases h
  | ok a' =>
    cases h
    rfl

lemma holds_of_load {fs : Files} {config : Option String} {file : Settings}
    (h : Settings.load fs config = .ok file) :
    ∃ es, Holds fs config es ∧ ∀ f, Sets (documentSites es) {} file f := by
  cases config with
  | none =>
    cases h
    exact ⟨[], rfl, ((Settings.ofEntries_ok_iff Entries.distinct_nil {}).mp rfl).2⟩
  | some path =>
    obtain ⟨text, htext, h⟩ := bind_eq_ok.mp h
    have hfile := of_mapError h
    unfold Settings.ofText at hfile
    cases hparse : parse? text with
    | none =>
      rw [hparse] at hfile
      cases hfile
    | some es =>
      rw [hparse] at hfile
      have hdistinct := Toml.parse?_distinct hparse
      have hsets := (Settings.ofEntries_ok_iff hdistinct file).mp (of_mapError hfile)
      exact ⟨es, ⟨text, of_mapError htext, hparse⟩, hsets.2⟩

/-- Where each setting comes from: the text of its option, or else the document of the file, or else
its default. -/
structure Resolves (l : Line) (env : Environment) (es : Entries) (s : Settings) : Prop where
  given : ∀ f o text, option? f = some o → l.text? env o = some text →
    Denotes o.argument text (s.get f)
  file : ∀ f, (∀ o, option? f = some o → l.text? env o = none) → Sets (documentSites es) {} s f

lemma resolves_of_load {fs : Files} {config : Option String} {file : Settings} {l : Line}
    {env : Environment} {value : Opt → Option OptValue}
    (hvalue : ∀ o ∈ Opt.connection, HasValue o (l.text? env o) (value o)) (command : Command)
    (h : Settings.load fs config = .ok file) :
    ∃ es, Holds fs config es ∧
      Resolves l env es ((invocation value command).overrides.apply file) := by
  obtain ⟨es, hes, hsets⟩ := holds_of_load h
  refine ⟨es, hes, ⟨?_, ?_⟩⟩
  · intro f o text hf htext
    exact (overridden_apply hvalue command file hf).given text htext
  · intro f hnone
    have hkept : ((invocation value command).overrides.apply file).get f = file.get f := by
      cases hf : option? f with
      | none => exact get_overrides hf _ file
      | some o => exact (overridden_apply hvalue command file hf).kept (hnone o hf)
    exact ⟨fun v hv => hkept ▸ (hsets f).given v hv, fun hv => hkept.trans ((hsets f).kept hv)⟩

/-! ### Options of a run -/

/-- The options of a run: what the command itself is given, and else the settings. -/
structure RunsWith (l : Line) (s : SyncSettings) (o : Sync.Options) : Prop where
  initialBackoff : o.retry.initialBackoff = s.retry.initialBackoff
  maxBackoff : o.retry.maxBackoff = s.retry.maxBackoff
  maxAttempts : Overridden (l.after.lookup .maxAttempts) Opt.maxAttempts.argument
    (.number s.retry.maxAttempts.toNat) (.number o.retry.maxAttempts.toNat)
  failureMode : o.failureMode = .skip ↔
    (l.after.lookup .skipFailed).isSome ∨ s.failureMode = .skip
  dryRun : o.dryRun ↔ (l.after.lookup .dryRun).isSome

lemma runsWith_of_commandOf {scope : Scope} {l : Line} {f : Finished}
    (hreads : Reads l.after f.reading.given) {a : SyncArguments}
    (h : commandOf scope f = .ok (.sync a)) (s : SyncSettings) : RunsWith l s (a.options s) := by
  cases scope with
  | sync =>
    unfold commandOf at h
    cases htarget : f.reading.target with
    | none => simp [htarget] at h
    | some target =>
      rw [htarget] at h
      cases h
      have hattempts := (hreads.lookup .maxAttempts).number? rfl
      have hskip := (hreads.lookup .skipFailed).isSome_eq
      have hdry := (hreads.lookup .dryRun).isSome_eq
      exact {
        initialBackoff := rfl
        maxBackoff := rfl
        maxAttempts := overridden_number hattempts
          (fun n hn => UInt32.toNat_ofNat_of_lt (Nat.lt_succ_of_le hn)) s.retry.maxAttempts
        failureMode := by
          -- the option only turns skipping on, so without it the settings decide
          rw [← hskip, SyncArguments.options, SyncSettings.options]
          cases (f.reading.given.lookup Opt.skipFailed).isSome <;> simp
        dryRun := by
          rw [← hdry, SyncArguments.options] }
  | _ => cases h

/-! ### The whole command line -/

lemma of_read {env : Environment} {args : List String} {i : Invocation}
    (h : read env args = .ok i) :
    ∃ rootReading scope rest reading next finished command root,
      readScope .root false {} args = .ok (rootReading, some (scope, rest)) ∧
      readScope scope false {} rest = .ok (reading, next) ∧
      finish scope env reading = .ok finished ∧ commandOf scope finished = .ok command ∧
      finish .root env rootReading = .ok root ∧ i = invocation (valueOf root finished) command := by
  obtain ⟨⟨rootReading, next⟩, hroot, h⟩ := bind_eq_ok.mp h
  cases next with
  | none =>
    obtain ⟨root, -, h⟩ := bind_eq_ok.mp h
    cases h
  | some x =>
    obtain ⟨scope, rest⟩ := x
    obtain ⟨⟨reading, next⟩, hscope, h⟩ := bind_eq_ok.mp h
    obtain ⟨finished, hfinished, h⟩ := bind_eq_ok.mp h
    obtain ⟨command, hcommand, h⟩ := bind_eq_ok.mp h
    obtain ⟨root, hfinish, h⟩ := bind_eq_ok.mp h
    cases h
    exact ⟨rootReading, scope, rest, reading, next, finished, command, root, hroot, hscope,
      hfinished, hcommand, hfinish, rfl⟩

/-- No command follows on a command. -/
lemma Arguments.next_eq_none {scope : Scope} (hscope : scope.commands = []) {args : List String}
    {os : List (Opt × String)} {next : Option (Scope × List String)}
    (h : Arguments scope args os next) : next = none := by
  induction h with
  | nil => rfl
  | command h _ _ => simp [Scope.command?, hscope] at h
  | option _ _ ih => exact ih
  | plain _ _ _ ih => exact ih
  | divider rest => rfl

lemma Arguments.command_mem {args rest : List String} {os : List (Opt × String)} {command : Scope}
    (h : Arguments .root args os (some (command, rest))) : command = .sync ∨ command = .status := by
  generalize hnext : some (command, rest) = next at h
  induction h with
  | nil => cases hnext
  | command h hhelp _ =>
    cases hnext
    have hmem := List.mem_of_find?_eq_some h
    simp only [Scope.commands, List.mem_cons, List.not_mem_nil, or_false] at hmem
    tauto
  | option _ _ ih => exact ih hnext
  | plain _ _ _ ih => exact ih hnext
  | divider rest => cases hnext

/-- Whatever command line is read, each setting of a run is what its own option says, before or
after the command, or else its own environment variable, or else the file that is named, or else its
default. -/
theorem settings_precedence {env : Environment} {args : List String} {i : Invocation}
    (h : read env args = .ok i) :
    (∃ l : Line, l.Spells args) ∧ ∀ l : Line, l.Spells args →
      i.config = l.text? env .config ∧
      ∀ fs file, Settings.load fs i.config = .ok file →
        ∃ s es, i.settings fs = .ok s ∧ Holds fs i.config es ∧ Resolves l env es s ∧
          ∀ a, i.command = .sync a → RunsWith l s.sync (a.options s.sync) := by
  obtain ⟨rootReading, scope, rest, reading, next, finished, command, root, hroot, hscope,
    hfinished, hcommand, hfinish, rfl⟩ := of_read h
  obtain ⟨hsettle, -⟩ := of_finish hfinish
  obtain ⟨hsettle', -⟩ := of_finish hfinished
  have hempty : Represents {} [] := represents_of_reads rfl .nil
  constructor
  · -- what was read is spelled by some line, as no option was left waiting
    obtain ⟨before, hbefore⟩ := (inGrammar_of_readScope hroot (of_settle hsettle).1).1 rfl
    obtain ⟨after, hafter⟩ := (inGrammar_of_readScope hscope (of_settle hsettle').1).1 rfl
    have hcommands : scope.commands = [] := by
      rcases hbefore.command_mem with rfl | rfl <;> rfl
    obtain rfl := hafter.next_eq_none hcommands
    exact ⟨⟨before, scope, after⟩, rest, hbefore, hafter⟩
  · -- any line that spells the arguments gives the options that were read
    rintro l ⟨rest', hbefore, hafter⟩
    obtain ⟨hrootReading, heq⟩ := hempty.readScope hbefore hroot
    cases heq
    obtain ⟨hreading, rfl⟩ := hempty.readScope hafter hscope
    have hdone := hrootReading.finish hfinish
    have hdone' := hreading.finish hfinished
    have hvalue (o : Opt) (ho : o ∈ .config :: Opt.connection) :
        HasValue o (l.text? env o) (valueOf root finished o) := by
      refine hasValue_valueOf hdone hdone' ?_ ho
      rcases hbefore.command_mem with hcommand | hcommand <;> simp [hcommand]
    refine ⟨(hvalue .config (by decide)).text?_eq (.inr rfl), fun fs file hload => ?_⟩
    obtain ⟨es, hes, hresolves⟩ := resolves_of_load
      (fun o ho => hvalue o (List.mem_cons_of_mem _ ho)) command hload
    refine ⟨_, es, ?_, hes, hresolves, fun a ha => ?_⟩
    · rw [Invocation.settings, hload]
    · cases ha
      exact runsWith_of_commandOf hdone'.reads hcommand _

/-- The port is given by an option and by a variable, the host by a variable alone. -/
def mixedEnvironment : Environment :=
  [("CRATEGRAPH_PG_PORT", "6000"), ("CRATEGRAPH_PG_HOST", "db")]

def mixedArguments : List String :=
  ["--pg-port=5433", "sync", "--neo4j-user", "admin", "all", "--skip-failed"]

def mixedLine : Line where
  before := [(.sourcePort, "5433")]
  command := .sync
  after := [(.graphUser, "admin"), (.skipFailed, "")]

def mixedInvocation : Invocation where
  verbose := false
  config := none
  logFile := none
  overrides := { sourceHost := some "db", sourcePort := some 5433, graphUser := some "admin" }
  command := .sync { target := .all, skipFailed := true }

/-- The port of the option before the command wins over that of the variable, and the host comes
from a variable alone; the options after the command are read as well. -/
theorem settings_precedence_around_command :
    read mixedEnvironment mixedArguments = .ok mixedInvocation ∧ mixedLine.Spells mixedArguments ∧
      mixedLine.text? mixedEnvironment .sourcePort = some "5433" ∧
      mixedLine.text? mixedEnvironment .sourceHost = some "db" ∧
      ∃ s es, mixedInvocation.settings {} = .ok s ∧ Holds {} none es ∧
        Resolves mixedLine mixedEnvironment es s := by
  have hread : read mixedEnvironment mixedArguments = .ok mixedInvocation := by decide +kernel
  have hspells : mixedLine.Spells mixedArguments := by
    refine ⟨["--neo4j-user", "admin", "all", "--skip-failed"], ?_, ?_⟩
    · have hport : Opt.sourcePort ∈ Scope.root.options := by decide
      exact .option (.equals (.long hport) (by decide) ['5', '4', '3', '3'])
        (.command rfl (by decide) _)
    · have huser : Opt.graphUser ∈ Scope.sync.options := by decide
      have hskip : Opt.skipFailed ∈ Scope.sync.options := by decide
      have hvalue {arg : String} (h : arg.toList.head? ≠ some '-') : IsValue arg := by
        rintro c cs heq
        simp [heq] at h
      refine .option (.apart (.long huser) (by decide) (hvalue ?_)) ?_
      · decide
      · exact .plain (hvalue (by decide)) rfl (.option (.flag (.long hskip) rfl) .nil)
  obtain ⟨-, hsettings⟩ := (settings_precedence hread).2 mixedLine hspells
  obtain ⟨s, es, hs, hes, hresolves, -⟩ := hsettings {} {} rfl
  exact ⟨hread, hspells, rfl, by decide +kernel, s, es, hs, hes, hresolves⟩

end Backfill.CommandLine
