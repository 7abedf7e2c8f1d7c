import Mathlib.Data.List.Forall2
import Mathlib.Data.List.TakeWhile
import Backfill.CommandLine.Reading

/-!
# The grammar of command lines

What a command line says, apart from how it is read: the options that stand before and after the
command, each with the text of its value. A command line that is read follows the grammar, and then
what has been taken of each of its parts is what the grammar says.
-/

namespace Backfill.CommandLine

/-! ### The grammar -/

/-- An argument that does not look like an option. -/
def IsValue (arg : String) : Prop :=
  ∀ c cs, arg.toList ≠ '-' :: c :: cs

/-- Options that take nothing, and their letters. -/
def Letters (scope : Scope) : List Opt → List Char → Prop :=
  List.Forall₂ fun o c => o ∈ scope.options ∧ o.argument = .nothing ∧ o.short? = some c

/-- The beginning of an argument up to the name of an option, with the options before it. -/
inductive Head (scope : Scope) : List Char → List (Opt × String) → Opt → Prop
  | long {o : Opt} (ho : o ∈ scope.options) : Head scope ('-' :: '-' :: o.long.toList) [] o
  | short {os : List Opt} {cs : List Char} {o : Opt} {c : Char} (hos : Letters scope os cs)
      (ho : o ∈ scope.options) (hc : o.short? = some c) :
      Head scope ('-' :: (cs ++ [c])) (os.map fun o => (o, "")) o

/-- One or two arguments that give options. -/
inductive Spelling (scope : Scope) : List String → List (Opt × String) → Prop
  /-- The option takes nothing. -/
  | flag {word : List Char} {os : List (Opt × String)} {o : Opt} (h : Head scope word os o)
      (harg : o.argument = .nothing) : Spelling scope [String.ofList word] (os ++ [(o, "")])
  /-- The value follows an equals sign. -/
  | equals {word : List Char} {os : List (Opt × String)} {o : Opt} (h : Head scope word os o)
      (harg : o.argument ≠ .nothing) (text : List Char) :
      Spelling scope [String.ofList (word ++ '=' :: text)] (os ++ [(o, String.ofList text)])
  /-- The value is an argument of its own. -/
  | apart {word : List Char} {os : List (Opt × String)} {o : Opt} (h : Head scope word os o)
      (harg : o.argument ≠ .nothing) {text : String} (htext : IsValue text) :
      Spelling scope [String.ofList word, text] (os ++ [(o, text)])
  /-- The value follows a letter. -/
  | joined {os : List Opt} {cs : List Char} {o : Opt} {c d : Char} (hos : Letters scope os cs)
      (ho : o ∈ scope.options) (hc : o.short? = some c) (harg : o.argument ≠ .nothing)
      (hd : d ≠ '=') (text : List Char) :
      Spelling scope [String.ofList ('-' :: (cs ++ c :: d :: text))]
        (os.map (fun o => (o, "")) ++ [(o, String.ofList (d :: text))])

/-- The arguments of a scope, the options that they give, and the command that ends them with what
comes after it. -/
inductive Arguments (scope : Scope) :
    List String → List (Opt × String) → Option (Scope × List String) → Prop
  | nil : Arguments scope [] [] none
  | command {name : String} {command : Scope} (h : scope.command? name = some command)
      (hhelp : command ≠ .help) (rest : List String) :
      Arguments scope (name :: rest) [] (some (command, rest))
  | option {words rest : List String} {os os' : List (Opt × String)}
      {next : Option (Scope × List String)} (h : Spelling scope words os)
      (hrest : Arguments scope rest os' next) : Arguments scope (words ++ rest) (os ++ os') next
  | plain {arg : String} {rest : List String} {os : List (Opt × String)}
      {next : Option (Scope × List String)} (h : IsValue arg) (hcommand : scope.command? arg = none)
      (hrest : Arguments scope rest os next) : Arguments scope (arg :: rest) os next
  /-- After two hyphens there are no options. -/
  | divider (rest : List String) : Arguments scope ("--" :: rest) [] none

/-- What a command line gives before and after its command. -/
structure Line where
  before : List (Opt × String)
  command : Scope
  after : List (Opt × String)

def Line.Spells (l : Line) (args : List String) : Prop :=
  ∃ rest, Arguments .root args l.before (some (l.command, rest)) ∧
    Arguments l.command rest l.after none

/-! ### Shapes of arguments -/

section

variable {scope : Scope} {o : Opt} {c : Char}

lemma long?_long (ho : o ∈ scope.options) : scope.long? o.long = some o := by
  revert o
  cases scope <;> decide

lemma short?_of_mem (ho : o ∈ scope.options) (hc : o.short? = some c) :
    scope.short? c = some o := by
  have hall : ∀ o ∈ scope.options, o.short?.bind scope.short? = o.short?.map fun _ => o := by
    cases scope <;> decide
  simpa [hc] using hall o ho

lemma short?_ne_hyphen (hc : o.short? = some c) : c ≠ '-' := by
  rintro rfl
  cases o <;> cases hc

lemma command?_of_hyphen (scope : Scope) {arg : String} {cs : List Char}
    (h : arg.toList = '-' :: cs) : scope.command? arg = none := by
  have hname (command : Scope) : command.name ≠ arg := by
    rintro rfl
    cases command <;> cases h
  exact List.find?_eq_none.mpr fun command _ => by simp [hname]

end

section

variable {arg name : String} {value : Option String}

lemma long?_ofList {name : List Char} (hne : name ≠ []) (h : '=' ∉ name) :
    long? (String.ofList ('-' :: '-' :: name)) = some (String.ofList name, none) := by
  have hall : ∀ c ∈ name, decide (c ≠ '=') = true := by
    intro c hc
    simpa using ne_of_mem_of_not_mem hc h
  simp only [long?, String.toList_ofList, List.takeWhile_eq_self_iff.mpr hall,
    List.dropWhile_eq_nil_iff.mpr hall]
  simp [hne]

lemma long?_ofList_equals {name : List Char} (h : '=' ∉ name) (text : List Char) :
    long? (String.ofList ('-' :: '-' :: (name ++ '=' :: text))) =
      some (String.ofList name, some (String.ofList text)) := by
  have hall : ∀ c ∈ name, decide (c ≠ '=') = true := by
    intro c hc
    simpa using ne_of_mem_of_not_mem hc h
  simp only [long?, String.toList_ofList, List.takeWhile_append_of_pos hall,
    List.dropWhile_append_of_pos hall]
  simp

lemma of_long? (h : long? arg = some (name, value)) :
    ∃ cs, cs ≠ [] ∧ arg.toList = '-' :: '-' :: cs ∧
      (value = none ∧ cs = name.toList ∨
        ∃ text, value = some text ∧ cs = name.toList ++ '=' :: text.toList) := by
  unfold long? at h
  split at h
  · rename_i cs hlist
    split_ifs at h with hempty
    refine ⟨cs, by simpa using hempty, hlist, ?_⟩
    -- the name ends at the first equals sign, if there is one
    have hsplit := cs.takeWhile_append_dropWhile (p := fun c => decide (c ≠ '='))
    dsimp only at h
    split at h
    · rename_i d text hdrop
      cases h
      have hd : d = '=' := by
        have hhead := List.head?_dropWhile_not (fun c => decide (c ≠ '=')) cs
        rw [hdrop] at hhead
        simpa using hhead
      right
      refine ⟨_, rfl, ?_⟩
      rw [hdrop, hd] at hsplit
      simpa using hsplit.symm
    · rename_i hdrop
      cases h
      left
      rw [hdrop] at hsplit
      simpa using hsplit.symm
  · cases h

lemma cluster?_ofList {c : Char} (hc : c ≠ '-') (cs : List Char) :
    cluster? (String.ofList ('-' :: c :: cs)) = some (c :: cs) := by
  simp [cluster?, hc]

lemma of_cluster? {letters : List Char} (h : cluster? arg = some letters) :
    ∃ c cs, letters = c :: cs ∧ c ≠ '-' ∧ arg.toList = '-' :: c :: cs := by
  unfold cluster? at h
  split at h
  · rename_i c cs hlist
    split_ifs at h with hc
    cases h
    exact ⟨c, cs, rfl, hc, hlist⟩
  · cases h

lemma IsValue.long? (h : IsValue arg) : long? arg = none := by
  cases hlong : CommandLine.long? arg with
  | none => rfl
  | some x =>
    obtain ⟨cs, -, hlist, -⟩ := of_long? hlong
    exact absurd hlist (h _ _)

lemma IsValue.cluster? (h : IsValue arg) : cluster? arg = none := by
  cases hcluster : CommandLine.cluster? arg with
  | none => rfl
  | some letters =>
    obtain ⟨c, cs, -, -, hlist⟩ := of_cluster? hcluster
    exact absurd hlist (h _ _)

lemma IsValue.ne_divider (h : IsValue arg) : arg ≠ "--" := by
  rintro rfl
  exact h '-' [] rfl

end

/-- The four shapes of an argument. -/
inductive Shape (arg : String) : Prop
  | divider (h : arg = "--")
  | long {name : String} {value : Option String} (h : long? arg = some (name, value))
  | cluster {letters : List Char} (h : cluster? arg = some letters)
  | value (h : IsValue arg)

lemma shape (arg : String) : Shape arg := by
  by_cases hvalue : IsValue arg
  · exact .value hvalue
  · -- what is no value has a hyphen with something after it; the next character decides
    obtain ⟨c, cs, hlist⟩ : ∃ c cs, arg.toList = '-' :: c :: cs := by
      simpa [IsValue] using hvalue
    have harg : arg = String.ofList ('-' :: c :: cs) := String.toList_inj.mp (by simpa using hlist)
    by_cases hc : c = '-'
    · subst hc
      cases cs with
      | nil => exact .divider (String.toList_inj.mp hlist)
      | cons d ds =>
        have hsome : (long? arg).isSome := by
          simp only [long?, hlist]
          split
          · contradiction
          · split <;> rfl
        obtain ⟨⟨name, value⟩, hlong⟩ := Option.isSome_iff_exists.mp hsome
        exact .long hlong
    · rw [harg]
      exact .cluster (cluster?_ofList hc cs)

/-! ### One argument at a time -/

section

variable {scope : Scope} {r : Reading} {arg : String} (args : List String)

lemma readScope_divider :
    readScope scope false r ("--" :: args) = readScope scope true r args := by
  have hcommand : scope.command? "--" = none := command?_of_hyphen scope rfl
  simp [readScope, hcommand]

lemma readScope_long {name : String} {value : Option String} (h : long? arg = some (name, value)) :
    readScope scope false r (arg :: args) =
      readLong scope r name value >>= fun r => readScope scope false r args := by
  obtain ⟨cs, hne, hlist, -⟩ := of_long? h
  have hcommand : scope.command? arg = none := command?_of_hyphen scope hlist
  have hdivider : arg ≠ "--" := by
    rintro rfl
    cases hlist
    exact hne rfl
  simp [readScope, hcommand, hdivider, h]

lemma readScope_cluster {letters : List Char} (h : cluster? arg = some letters) :
    readScope scope false r (arg :: args) =
      readCluster scope r letters >>= fun r => readScope scope false r args := by
  obtain ⟨c, cs, -, hc, hlist⟩ := of_cluster? h
  have hcommand : scope.command? arg = none := command?_of_hyphen scope hlist
  have hdivider : arg ≠ "--" := by
    rintro rfl
    cases hlist
    exact hc rfl
  have hlong : long? arg = none := by
    simp [long?, hlist, hc]
  simp [readScope, hcommand, hdivider, h, hlong]

lemma readScope_value {o : Opt} (hr : r.pending = some (.awaiting o)) (h : IsValue arg) :
    readScope scope false r (arg :: args) =
      readScope scope false { r with pending := some (.value o arg) } args := by
  have hawaiting : r.isAwaiting = true := by simp [Reading.isAwaiting, hr]
  simp [readScope, hawaiting, h.ne_divider, h.long?, h.cluster?, hr]

lemma readScope_command (hr : r.isAwaiting = false) {command : Scope}
    (h : scope.command? arg = some command) (hhelp : command ≠ .help) :
    readScope scope false r (arg :: args) = .ok (r, some (command, args)) := by
  simp [readScope, hr, h]

lemma readScope_plain (hr : r.isAwaiting = false) (hcommand : scope.command? arg = none)
    (h : IsValue arg) :
    readScope scope false r (arg :: args) =
      readPlain scope false r arg >>= fun r => readScope scope false r args := by
  have hpending : ∀ o, r.pending ≠ some (.awaiting o) := by
    intro o hpending
    simp [Reading.isAwaiting, hpending] at hr
  simp [readScope, hr, hcommand, h.ne_divider, h.long?, h.cluster?]

end

/-! ### What has been taken -/

lemma bind_eq_ok {ε α β : Type} {x : Except ε α} {f : α → Except ε β} {b : β} :
    x >>= f = .ok b ↔ ∃ a, x = .ok a ∧ f a = .ok b := by
  cases x with
  | error e => simp [bind, Except.bind]
  | ok a => simp [bind, Except.bind]

/-- Options with the values that their texts give them. -/
def Reads : List (Opt × String) → List (Opt × OptValue) → Prop :=
  List.Forall₂ fun x y => y.1 = x.1 ∧ readValue x.1 x.2 = .ok y.2

/-- The option of which the value is there and has still to be checked. -/
def Reading.unchecked (r : Reading) : List (Opt × String) :=
  match r.pending with
  | some (.value o text) => [(o, text)]
  | _ => []

/-- The options that have been taken, checked or not. -/
structure Represents (r : Reading) (given : List (Opt × String)) : Prop where
  isAwaiting : r.isAwaiting = false
  reads : ∃ checked, given = checked ++ r.unchecked ∧ Reads checked r.given

lemma Reads.concat {given : List (Opt × String)} {values : List (Opt × OptValue)}
    (h : Reads given values) {o : Opt} {text : String} {v : OptValue}
    (hv : readValue o text = .ok v) :
    Reads (given ++ [(o, text)]) (values ++ [(o, v)]) :=
  List.rel_append h (.cons ⟨rfl, hv⟩ .nil)

section

variable {scope : Scope} {r r' : Reading} {given : List (Opt × String)} {o : Opt} {text : String}

lemma represents_of_reads (hpending : r.pending = none) (h : Reads given r.given) :
    Represents r given where
  isAwaiting := by simp [Reading.isAwaiting, hpending]
  reads := ⟨given, by simp [Reading.unchecked, hpending], h⟩

lemma take_eq (scope : Scope) (o : Opt) (text : String) (r : Reading) :
    r.take scope o text =
      if o = .help then .error (.help scope)
      else if o = .version then .error (.version scope)
      else if (r.given.lookup o).isSome then .error (.repeated o)
      else (fun v => { r with given := r.given ++ [(o, v)] }) <$> readValue o text := by
  unfold Reading.take
  split_ifs <;> rfl

lemma of_take (h : r.take scope o text = .ok r') :
    ∃ v, readValue o text = .ok v ∧ r' = { r with given := r.given ++ [(o, v)] } := by
  rw [take_eq] at h
  split_ifs at h
  obtain ⟨v, hv, h⟩ := bind_eq_ok.mp h
  cases h
  exact ⟨v, hv, rfl⟩

lemma of_settle (h : r.settle scope = .ok r') :
    r.isAwaiting = false ∧ r'.pending = none ∧
      ∀ checked, Reads checked r.given → Reads (checked ++ r.unchecked) r'.given := by
  unfold Reading.settle at h
  unfold Reading.unchecked Reading.isAwaiting
  cases hpending : r.pending with
  | none =>
    rw [hpending] at h
    cases h
    exact ⟨rfl, hpending, fun checked hchecked => by simpa using hchecked⟩
  | some p =>
    rw [hpending] at h
    cases p with
    | awaiting o => cases h
    | value o text =>
      obtain ⟨v, hv, rfl⟩ := of_take h
      exact ⟨rfl, rfl, fun checked hchecked => hchecked.concat hv⟩
    | target text =>
      obtain ⟨target, -, h⟩ := bind_eq_ok.mp h
      cases h
      exact ⟨rfl, rfl, fun checked hchecked => by simpa using hchecked⟩

lemma Represents.settle (h : Represents r given) (hs : r.settle scope = .ok r') :
    r'.pending = none ∧ Reads given r'.given := by
  obtain ⟨-, checked, rfl, hchecked⟩ := h
  obtain ⟨-, hpending, hreads⟩ := of_settle hs
  exact ⟨hpending, hreads checked hchecked⟩

lemma Represents.takeNow (h : Represents r given) (ht : r.takeNow scope o text = .ok r') :
    Represents r' (given ++ [(o, text)]) := by
  obtain ⟨r₁, hsettle, htake⟩ := bind_eq_ok.mp ht
  obtain ⟨hpending, hreads⟩ := h.settle hsettle
  obtain ⟨v, hv, rfl⟩ := of_take htake
  exact represents_of_reads hpending (hreads.concat hv)

lemma Represents.await (h : Represents r given) (ha : r.await scope o = .ok r') :
    r'.pending = some (.awaiting o) ∧
      Represents { r' with pending := some (.value o text) } (given ++ [(o, text)]) := by
  obtain ⟨r₁, hsettle, hr'⟩ := bind_eq_ok.mp ha
  obtain ⟨hpending, hreads⟩ := h.settle hsettle
  cases hr'
  exact ⟨rfl, rfl, given, rfl, hreads⟩

/-- Only one of the commands takes an argument that is no option. -/
lemma of_readPlain {trailing : Bool} {arg : String} (h : readPlain scope trailing r arg = .ok r') :
    ∃ r₁, r.settle scope = .ok r₁ ∧ r' = { r₁ with pending := some (.target arg) } := by
  unfold readPlain at h
  cases scope with
  | sync =>
    dsimp only at h
    split_ifs at h
    · cases h
    · obtain ⟨r₁, hsettle, hr'⟩ := bind_eq_ok.mp h
      cases hr'
      exact ⟨r₁, hsettle, rfl⟩
  | root =>
    dsimp only at h
    split_ifs at h
    cases h
  | status => cases h
  | help => cases h

lemma Represents.readPlain {trailing : Bool} {arg : String} (h : Represents r given)
    (hp : readPlain scope trailing r arg = .ok r') : Represents r' given := by
  obtain ⟨r₁, hsettle, rfl⟩ := of_readPlain hp
  exact ⟨rfl, given, by simp [Reading.unchecked], (h.settle hsettle).2⟩

/-- After two hyphens no option is taken. -/
lemma Represents.readScope_trailing {args : List String} {next : Option (Scope × List String)}
    (h : Represents r given) (hread : readScope scope true r args = .ok (r', next)) :
    Represents r' given ∧ next = none := by
  induction args generalizing r with
  | nil =>
    cases hread
    exact ⟨h, rfl⟩
  | cons arg args ih =>
    obtain ⟨r₁, hplain, hread⟩ := bind_eq_ok.mp hread
    exact ih (h.readPlain hplain) hread

end

/-! ### Arguments that follow the grammar -/

section

variable {scope : Scope} {r r' : Reading} {given os : List (Opt × String)} {o : Opt}

lemma readLong_flag (ho : o ∈ scope.options) (harg : o.argument = .nothing) :
    readLong scope r o.long none = r.takeNow scope o "" := by
  simp [readLong, long?_long ho, harg]

lemma readLong_equals (ho : o ∈ scope.options) (harg : o.argument ≠ .nothing) (text : String) :
    readLong scope r o.long (some text) = r.takeNow scope o text := by
  simp [readLong, long?_long ho, harg]

lemma readLong_apart (ho : o ∈ scope.options) (harg : o.argument ≠ .nothing) :
    readLong scope r o.long none = r.await scope o := by
  simp [readLong, long?_long ho, harg]

lemma readCluster_flag {c : Char} (ho : o ∈ scope.options) (hc : o.short? = some c)
    (harg : o.argument = .nothing) (cs : List Char) :
    readCluster scope r (c :: cs) = r.takeNow scope o "" >>= fun r => readCluster scope r cs := by
  simp [readCluster, short?_of_mem ho hc, harg]

lemma readCluster_apart {c : Char} (ho : o ∈ scope.options) (hc : o.short? = some c)
    (harg : o.argument ≠ .nothing) : readCluster scope r [c] = r.await scope o := by
  simp [readCluster, short?_of_mem ho hc, harg]

lemma readCluster_equals {c : Char} (ho : o ∈ scope.options) (hc : o.short? = some c)
    (harg : o.argument ≠ .nothing) (text : List Char) :
    readCluster scope r (c :: '=' :: text) = r.takeNow scope o (String.ofList text) := by
  simp [readCluster, short?_of_mem ho hc, harg]

lemma readCluster_joined {c d : Char} (ho : o ∈ scope.options) (hc : o.short? = some c)
    (harg : o.argument ≠ .nothing) (hd : d ≠ '=') (text : List Char) :
    readCluster scope r (c :: d :: text) = r.takeNow scope o (String.ofList (d :: text)) := by
  simp [readCluster, short?_of_mem ho hc, harg, hd]

/-- Letters of options that take nothing come before the rest of a cluster. -/
lemma Represents.readCluster_letters {os : List Opt} {cs : List Char} (hos : Letters scope os cs)
    (h : Represents r given) {rest : List Char}
    (hread : readCluster scope r (cs ++ rest) = .ok r') :
    ∃ r₁, Represents r₁ (given ++ os.map fun o => (o, "")) ∧
      readCluster scope r₁ rest = .ok r' := by
  induction hos generalizing r given with
  | nil => exact ⟨r, by simpa using h, hread⟩
  | cons ho _ ih =>
    obtain ⟨ho, harg, hc⟩ := ho
    rw [List.cons_append, readCluster_flag ho hc harg] at hread
    obtain ⟨r₁, htake, hread⟩ := bind_eq_ok.mp hread
    obtain ⟨r₂, hr₂, hread⟩ := ih (h.takeNow htake) hread
    exact ⟨r₂, by simpa using hr₂, hread⟩

lemma long_ne (o : Opt) : o.long.toList ≠ [] ∧ '=' ∉ o.long.toList := by
  cases o <;> decide

/-- A cluster begins with a letter. -/
lemma cluster?_letters {os : List Opt} {cs : List Char} (hos : Letters scope os cs) {c : Char}
    (hc : c ≠ '-') (rest : List Char) :
    cluster? (String.ofList ('-' :: (cs ++ c :: rest))) = some (cs ++ c :: rest) := by
  cases hos with
  | nil => exact cluster?_ofList hc rest
  | cons ho _ => exact cluster?_ofList (short?_ne_hyphen ho.2.2) _

/-- The letters of a cluster before the last one are taken first. -/
lemma Represents.readScope_cluster {os : List Opt} {cs : List Char} (hos : Letters scope os cs)
    {c : Char} (hc : c ≠ '-') (h : Represents r given) {letters : List Char} {rest : List String}
    {out : Reading × Option (Scope × List String)}
    (hread : readScope scope false r (String.ofList ('-' :: (cs ++ c :: letters)) :: rest) =
      .ok out) :
    ∃ r₁ r₂, Represents r₁ (given ++ os.map fun o => (o, "")) ∧
      readCluster scope r₁ (c :: letters) = .ok r₂ ∧ readScope scope false r₂ rest = .ok out := by
  rw [CommandLine.readScope_cluster rest (cluster?_letters hos hc letters)] at hread
  obtain ⟨r₂, hcluster, hread⟩ := bind_eq_ok.mp hread
  obtain ⟨r₁, hr₁, hcluster⟩ := h.readCluster_letters hos hcluster
  exact ⟨r₁, r₂, hr₁, hcluster, hread⟩

lemma Represents.readScope_spelling {words rest : List String} (hs : Spelling scope words os)
    (h : Represents r given) {out : Reading × Option (Scope × List String)}
    (hread : readScope scope false r (words ++ rest) = .ok out) :
    ∃ r', Represents r' (given ++ os) ∧ readScope scope false r' rest = .ok out := by
  cases hs with
  | flag hhead harg =>
    cases hhead with
    | long ho =>
      rw [List.singleton_append, readScope_long rest (long?_ofList (long_ne _).1 (long_ne _).2),
        String.ofList_toList, readLong_flag ho harg] at hread
      obtain ⟨r₁, htake, hread⟩ := bind_eq_ok.mp hread
      exact ⟨r₁, h.takeNow htake, hread⟩
    -- the letters before the last one in a cluster are flags, which are taken first
    | short hos ho hc =>
      obtain ⟨r₁, r₂, hr₁, hcluster, hread⟩ :=
        h.readScope_cluster hos (short?_ne_hyphen hc) hread
      rw [readCluster_flag ho hc harg] at hcluster
      obtain ⟨r₃, htake, hend⟩ := bind_eq_ok.mp hcluster
      cases hend
      rw [← List.append_assoc]
      exact ⟨r₂, hr₁.takeNow htake, hread⟩
  | equals hhead harg text =>
    cases hhead with
    | long ho =>
      rw [List.singleton_append, List.cons_append, List.cons_append,
        readScope_long rest (long?_ofList_equals (long_ne _).2 text), String.ofList_toList,
        readLong_equals ho harg] at hread
      obtain ⟨r₁, htake, hread⟩ := bind_eq_ok.mp hread
      exact ⟨r₁, h.takeNow htake, hread⟩
    | short hos ho hc =>
      rw [List.singleton_append, List.cons_append, List.append_assoc,
        List.singleton_append] at hread
      obtain ⟨r₁, r₂, hr₁, hcluster, hread⟩ :=
        h.readScope_cluster hos (short?_ne_hyphen hc) hread
      rw [readCluster_equals ho hc harg] at hcluster
      rw [← List.append_assoc]
      exact ⟨r₂, hr₁.takeNow hcluster, hread⟩
  | apart hhead harg htext =>
    cases hhead with
    | long ho =>
      rw [List.cons_append, List.singleton_append,
        readScope_long _ (long?_ofList (long_ne _).1 (long_ne _).2), String.ofList_toList,
        readLong_apart ho harg] at hread
      -- the option waits, and the next word is its value
      obtain ⟨r₁, hawait, hread⟩ := bind_eq_ok.mp hread
      obtain ⟨hpending, hr₁⟩ := h.await hawait
      rw [readScope_value rest hpending htext] at hread
      exact ⟨_, hr₁, hread⟩
    | short hos ho hc =>
      rw [List.cons_append, List.singleton_append] at hread
      obtain ⟨r₁, r₂, hr₁, hcluster, hread⟩ :=
        h.readScope_cluster hos (short?_ne_hyphen hc) hread
      rw [readCluster_apart ho hc harg] at hcluster
      obtain ⟨hpending, hr₂⟩ := hr₁.await hcluster
      rw [readScope_value rest hpending htext] at hread
      rw [← List.append_assoc]
      exact ⟨_, hr₂, hread⟩
  | joined hos ho hc harg hd text =>
    obtain ⟨r₁, r₂, hr₁, hcluster, hread⟩ :=
      h.readScope_cluster hos (short?_ne_hyphen hc) hread
    rw [readCluster_joined ho hc harg hd] at hcluster
    rw [← List.append_assoc]
    exact ⟨r₂, hr₁.takeNow hcluster, hread⟩

/-- Reading arguments takes the options that they give, and stops at their command. -/
lemma Represents.readScope {args : List String} {next next' : Option (Scope × List String)}
    (ha : Arguments scope args os next) (h : Represents r given)
    (hread : readScope scope false r args = .ok (r', next')) :
    Represents r' (given ++ os) ∧ next' = next := by
  induction ha generalizing r given with
  | nil =>
    cases hread
    exact ⟨by simpa using h, rfl⟩
  | command hcommand hhelp rest =>
    rw [readScope_command rest h.isAwaiting hcommand hhelp] at hread
    cases hread
    exact ⟨by simpa using h, rfl⟩
  | option hs _ ih =>
    obtain ⟨r₁, hr₁, hread⟩ := h.readScope_spelling hs hread
    rw [← List.append_assoc]
    exact ih hr₁ hread
  | plain hvalue hcommand _ ih =>
    rw [readScope_plain _ h.isAwaiting hcommand hvalue] at hread
    obtain ⟨r₁, hplain, hread⟩ := bind_eq_ok.mp hread
    exact ih (h.readPlain hplain) hread
  | divider rest =>
    rw [readScope_divider] at hread
    rw [List.append_nil]
    exact h.readScope_trailing hread

end

/-! ### Arguments that are read -/

/-- An argument gives options, together with the next one if a value has still to come. -/
inductive Taken (scope : Scope) (arg : String) (r : Reading) : Prop
  | now {os : List (Opt × String)} (h : Spelling scope [arg] os) (hr : r.isAwaiting = false)
  | awaiting {o : Opt} (h : ∀ text, IsValue text → ∃ os, Spelling scope [arg, text] os)
      (hr : r.pending = some (.awaiting o))

section

variable {scope : Scope} {r r' : Reading} {o : Opt} {text arg : String}

lemma isAwaiting_of_takeNow (h : r.takeNow scope o text = .ok r') :
    r.isAwaiting = false ∧ r'.isAwaiting = false := by
  obtain ⟨r₁, hsettle, htake⟩ := bind_eq_ok.mp h
  obtain ⟨hr, hr₁, -⟩ := of_settle hsettle
  obtain ⟨v, -, rfl⟩ := of_take htake
  exact ⟨hr, by simp [Reading.isAwaiting, hr₁]⟩

lemma isAwaiting_of_await (h : r.await scope o = .ok r') :
    r.isAwaiting = false ∧ r'.pending = some (.awaiting o) := by
  obtain ⟨r₁, hsettle, hr'⟩ := bind_eq_ok.mp h
  cases hr'
  exact ⟨(of_settle hsettle).1, rfl⟩

lemma isAwaiting_of_readPlain {trailing : Bool} (h : readPlain scope trailing r arg = .ok r') :
    r.isAwaiting = false ∧ r'.isAwaiting = false := by
  obtain ⟨r₁, hsettle, rfl⟩ := of_readPlain h
  exact ⟨(of_settle hsettle).1, rfl⟩

lemma taken_of_readLong {name : String} {value : Option String}
    (harg : long? arg = some (name, value)) (hread : readLong scope r name value = .ok r') :
    r.isAwaiting = false ∧ Taken scope arg r' := by
  obtain ⟨cs, -, hlist, hcs⟩ := of_long? harg
  unfold readLong at hread
  split at hread
  · cases hread
  rename_i o hlong
  have ho : o ∈ scope.options := List.mem_of_find?_eq_some hlong
  obtain rfl : o.long = name := by simpa using List.find?_some hlong
  have hword : arg = String.ofList ('-' :: '-' :: cs) := String.toList_inj.mp (by simpa using hlist)
  rw [hword]
  rcases hcs with ⟨rfl, rfl⟩ | ⟨text, rfl, rfl⟩
  · by_cases harg : o.argument = .nothing
    · simp only [harg, decide_true] at hread
      obtain ⟨hr, hr'⟩ := isAwaiting_of_takeNow hread
      exact ⟨hr, .now (.flag (.long ho) harg) hr'⟩
    · simp only [harg, decide_false] at hread
      obtain ⟨hr, hr'⟩ := isAwaiting_of_await hread
      exact ⟨hr, .awaiting (fun text htext => ⟨_, .apart (.long ho) harg htext⟩) hr'⟩
  · by_cases harg : o.argument = .nothing
    · simp only [harg, decide_true] at hread
      cases hread
    · simp only [harg, decide_false] at hread
      obtain ⟨hr, hr'⟩ := isAwaiting_of_takeNow hread
      exact ⟨hr, .now (.equals (.long ho) harg text.toList) hr'⟩

/-- The letters that have been read are those of options that take nothing. -/
lemma taken_of_letters {os : List Opt} {cs letters : List Char} (hos : Letters scope os cs)
    (hne : letters ≠ []) (hread : readCluster scope r letters = .ok r') :
    r.isAwaiting = false ∧ Taken scope (String.ofList ('-' :: (cs ++ letters))) r' := by
  induction letters generalizing os cs r with
  | nil => contradiction
  | cons c rest ih =>
    cases hshort : scope.short? c with
    | none => simp [readCluster, hshort] at hread
    | some o =>
      have ho : o ∈ scope.options := List.mem_of_find?_eq_some hshort
      have hc : o.short? = some c := by simpa using List.find?_some hshort
      by_cases harg : o.argument = .nothing
      · rw [readCluster_flag ho hc harg] at hread
        obtain ⟨r₁, htake, hread⟩ := bind_eq_ok.mp hread
        obtain ⟨hr, hr₁⟩ := isAwaiting_of_takeNow htake
        refine ⟨hr, ?_⟩
        cases rest with
        | nil =>
          cases hread
          exact .now (.flag (.short hos ho hc) harg) hr₁
        | cons d rest =>
          -- the argument is spelled from its beginning, so that the letter joins those before it
          have hos' : Letters scope (os ++ [o]) (cs ++ [c]) :=
            List.rel_append hos (.cons ⟨ho, harg, hc⟩ .nil)
          have htaken := (ih hos' (List.cons_ne_nil _ _) hread).2
          rwa [List.append_assoc, List.singleton_append] at htaken
      · cases rest with
        | nil =>
          rw [readCluster_apart ho hc harg] at hread
          obtain ⟨hr, hr'⟩ := isAwaiting_of_await hread
          exact ⟨hr, .awaiting (fun text htext => ⟨_, .apart (.short hos ho hc) harg htext⟩) hr'⟩
        | cons d text =>
          by_cases hd : d = '='
          · subst hd
            rw [readCluster_equals ho hc harg] at hread
            obtain ⟨hr, hr'⟩ := isAwaiting_of_takeNow hread
            have hspelling := Spelling.equals (.short hos ho hc) harg text
            simp only [List.cons_append, List.append_assoc, List.nil_append] at hspelling
            exact ⟨hr, .now hspelling hr'⟩
          · rw [readCluster_joined ho hc harg hd] at hread
            obtain ⟨hr, hr'⟩ := isAwaiting_of_takeNow hread
            exact ⟨hr, .now (.joined hos ho hc harg hd text) hr'⟩

lemma taken_of_readCluster {letters : List Char} (harg : cluster? arg = some letters)
    (hread : readCluster scope r letters = .ok r') : r.isAwaiting = false ∧ Taken scope arg r' := by
  obtain ⟨c, cs, rfl, -, hlist⟩ := of_cluster? harg
  have harg : arg = String.ofList ('-' :: c :: cs) := String.toList_inj.mp (by simpa using hlist)
  rw [harg]
  exact taken_of_letters .nil (List.cons_ne_nil _ _) hread

lemma readScope_trailing {args : List String} {next : Option (Scope × List String)}
    (hread : readScope scope true r args = .ok (r', next)) :
    next = none ∧ (r'.isAwaiting = false → r.isAwaiting = false) := by
  induction args generalizing r with
  | nil =>
    cases hread
    exact ⟨rfl, id⟩
  | cons arg args ih =>
    obtain ⟨r₁, hplain, hread⟩ := bind_eq_ok.mp hread
    exact ⟨(ih hread).1, fun _ => (isAwaiting_of_readPlain hplain).1⟩

/-- The arguments follow the grammar. Where a value has still to come, they begin with it. -/
def InGrammar (scope : Scope) (r : Reading) (args : List String)
    (next : Option (Scope × List String)) : Prop :=
  (r.isAwaiting = false → ∃ os, Arguments scope args os next) ∧
    ∀ o, r.pending = some (.awaiting o) →
      ∃ text rest os, args = text :: rest ∧ IsValue text ∧ Arguments scope rest os next

lemma Taken.arguments {args : List String} {next : Option (Scope × List String)}
    (h : Taken scope arg r) (hargs : InGrammar scope r args next) :
    ∃ os, Arguments scope (arg :: args) os next := by
  cases h with
  | now h hr =>
    obtain ⟨os, hos⟩ := hargs.1 hr
    exact ⟨_, .option h hos⟩
  | awaiting h hr =>
    obtain ⟨text, rest, os, rfl, hvalue, hos⟩ := hargs.2 _ hr
    obtain ⟨os', hos'⟩ := h text hvalue
    exact ⟨_, .option hos' hos⟩

lemma inGrammar_of_readScope {args : List String} {next : Option (Scope × List String)}
    (hread : readScope scope false r args = .ok (r', next)) (hend : r'.isAwaiting = false) :
    InGrammar scope r args next := by
  have hawaiting {r : Reading} {o : Opt} (h : r.pending = some (.awaiting o)) :
      r.isAwaiting = true := by
    simp [Reading.isAwaiting, h]
  induction args generalizing r with
  | nil =>
    cases hread
    exact ⟨fun _ => ⟨[], .nil⟩, fun o ho => absurd (hawaiting ho) (by simp [hend])⟩
  | cons arg args ih =>
    cases shape arg with
    | divider h =>
      subst h
      rw [readScope_divider] at hread
      obtain ⟨rfl, hr⟩ := readScope_trailing hread
      exact ⟨fun _ => ⟨[], .divider args⟩, fun o ho => absurd (hawaiting ho) (by simp [hr hend])⟩
    | long h =>
      rw [readScope_long args h] at hread
      obtain ⟨r₁, hlong, hread⟩ := bind_eq_ok.mp hread
      obtain ⟨hr, htaken⟩ := taken_of_readLong h hlong
      exact ⟨fun _ => htaken.arguments (ih hread), fun o ho => absurd (hawaiting ho) (by simp [hr])⟩
    | cluster h =>
      rw [readScope_cluster args h] at hread
      obtain ⟨r₁, hcluster, hread⟩ := bind_eq_ok.mp hread
      obtain ⟨hr, htaken⟩ := taken_of_readCluster h hcluster
      exact ⟨fun _ => htaken.arguments (ih hread), fun o ho => absurd (hawaiting ho) (by simp [hr])⟩
    | value h =>
      constructor
      · intro hr
        cases hcommand : scope.command? arg with
        | none =>
          rw [readScope_plain args hr hcommand h] at hread
          obtain ⟨r₁, hplain, hread⟩ := bind_eq_ok.mp hread
          obtain ⟨os, hos⟩ := (ih hread).1 (isAwaiting_of_readPlain hplain).2
          exact ⟨os, .plain h hcommand hos⟩
        | some command =>
          have hhelp : command ≠ .help := by
            rintro rfl
            simp only [readScope, hr, hcommand, Bool.false_eq_true, if_false] at hread
            obtain ⟨_, -, hread⟩ := bind_eq_ok.mp hread
            cases hread
          rw [readScope_command args hr hcommand hhelp] at hread
          cases hread
          exact ⟨[], .command hcommand hhelp args⟩
      · -- even the name of a command is a value here
        intro o ho
        rw [readScope_value args ho h] at hread
        obtain ⟨os, hos⟩ := (ih hread).1 rfl
        exact ⟨arg, args, os, rfl, h, hos⟩

end

end Backfill.CommandLine
