import Mathlib.Data.List.Forall2
import Mathlib.Logic.Relation
import Backfill.Proofs.DistinctKeys
import Backfill.Proofs.SettingsPlaces

/-!
# Reading settings

Settings are read from a document if and only if all of its sites fit. Then each of them is what the
value in its place gives, or its default, and else the fault is that of the first site that does not
fit. So neither the order of members nor members that no record knows make a difference.
-/

namespace Backfill.Settings

open Toml

/-! ### Single values -/

section

variable {β γ : Type}

/-- A reader gives what a value stands for, or says what is wrong with it. -/
def ReadsContent (c : Content) (read : Value → Except SchemaFault β) (wrap : β → SettingValue) :
    Prop :=
  ∀ v, (∃ b, read v = .ok b ∧ Gives c v (wrap b)) ∨
    read v = .error (c.fault v) ∧ ∀ x, ¬ Gives c v x

lemma ReadsContent.map {c : Content} {read : Value → Except SchemaFault β} {wrap : β → SettingValue}
    {wrap' : γ → SettingValue} (h : ReadsContent c read wrap) (g : β → γ)
    (hg : ∀ v b, Gives c v (wrap b) → wrap' (g b) = wrap b) :
    ReadsContent c (fun v => g <$> read v) wrap' := by
  intro v
  rcases h v with ⟨b, hread, hb⟩ | ⟨hread, hnone⟩
  · left
    refine ⟨g b, by simp [hread], ?_⟩
    rw [hg v b hb]
    exact hb
  · right
    exact ⟨by simp [hread], hnone⟩

end

lemma readsContent_string : ReadsContent .text readString .text := by
  intro v
  cases v with
  | string s => exact .inl ⟨s, rfl, .text s⟩
  | _ => exact .inr ⟨rfl, by rintro x ⟨⟩⟩

lemma readsContent_word (expected : Expected) (bound : Nat) :
    ReadsContent (.word expected bound) (readWord expected bound) .number := by
  intro v
  cases v with
  | integer n =>
    by_cases h : 0 ≤ n ∧ n < bound
    · left
      obtain ⟨m, rfl⟩ := Int.eq_ofNat_of_zero_le h.1
      exact ⟨m, by simp [readWord, h], .word expected (by omega)⟩
    · right
      refine ⟨by simp only [readWord, if_neg h, Content.fault], ?_⟩
      rintro x ⟨⟩
      omega
  | _ => exact .inr ⟨rfl, by rintro x ⟨⟩⟩

/-- A word keeps a number below its bound. -/
lemma readsContent_toWord {γ : Type} {expected : Expected} {bound : Nat} {toWord : Nat → γ}
    {toNat : γ → Nat} (h : ∀ n < bound, toNat (toWord n) = n) :
    ReadsContent (.word expected bound) (fun v => toWord <$> readWord expected bound v)
      fun w => .number (toNat w) := by
  refine (readsContent_word expected bound).map toWord fun v n hn => ?_
  rcases hn with _ | ⟨hlt⟩
  rw [h n (by assumption)]

lemma modeOfName_modeName (m : Sync.FailureMode) : modeOfName (modeName m) = .ok m := by
  cases m <;> rfl

lemma modeOfName_of_ne {name : String} (h : ¬ ∃ m, name = modeName m) :
    modeOfName name = .error (.unknownMode name) := by
  have habort : name ≠ "abort" := fun hname => h ⟨.abort, hname⟩
  have hskip : name ≠ "skip" := fun hname => h ⟨.skip, hname⟩
  rw [modeOfName, if_neg habort, if_neg hskip]

lemma checkContent_of_isEmpty {v : Value} (h : IsEmpty v) : checkContent v = .ok () := by
  cases v <;> simp_all [IsEmpty, checkContent]

lemma checkContent_of_not_isEmpty {v : Value} (h : ¬ IsEmpty v) :
    checkContent v = .error (contentFault v) := by
  cases v <;> simp_all [IsEmpty, checkContent, contentFault]

lemma modeFault_table_modeName (origin : Origin) (m : Sync.FailureMode) (v : Value) :
    modeFault (.table origin [(modeName m, v)]) = contentFault v := by
  cases m <;> rfl

lemma modeFault_table_of_ne {name : String} (h : ¬ ∃ m, name = modeName m) (origin : Origin)
    (v : Value) : modeFault (.table origin [(name, v)]) = .unknownMode name := by
  rw [modeFault, if_neg]
  rintro (hname | hname)
  · exact h ⟨.abort, hname⟩
  · exact h ⟨.skip, hname⟩

lemma Gives.of_table {origin : Origin} {es : Entries} {x : SettingValue}
    (h : Gives .mode (.table origin es) x) : ∃ m v, es = [(modeName m, v)] ∧ IsEmpty v := by
  cases h
  exact ⟨_, _, rfl, ‹_›⟩

lemma readMode_table (origin : Origin) (name : String) (v : Value) :
    readMode (.table origin [(name, v)]) =
      modeOfName name >>= fun m => checkContent v >>= fun _ => .ok m :=
  rfl

lemma readsContent_mode : ReadsContent .mode readMode .mode := by
  intro v
  cases v with
  | string name =>
    by_cases h : ∃ m, name = modeName m
    · obtain ⟨m, rfl⟩ := h
      exact .inl ⟨m, modeOfName_modeName m, .mode m⟩
    · exact .inr ⟨modeOfName_of_ne h, by rintro _ ⟨⟩; exact h ⟨_, rfl⟩⟩
  | table origin es =>
    match es with
    | [] => exact .inr ⟨rfl, by rintro _ ⟨⟩⟩
    | [(name, content)] =>
      rw [readMode_table]
      by_cases h : ∃ m, name = modeName m
      · obtain ⟨m, rfl⟩ := h
        rw [modeOfName_modeName]
        -- a mode written as a table has its name as the only key, and nothing under it
        by_cases hempty : IsEmpty content
        · rw [checkContent_of_isEmpty hempty]
          exact .inl ⟨m, rfl, .modeTable origin m hempty⟩
        · rw [checkContent_of_not_isEmpty hempty, Content.fault, modeFault_table_modeName]
          refine .inr ⟨rfl, fun x hx => ?_⟩
          obtain ⟨m', v, hes, hv⟩ := hx.of_table
          simp only [List.cons.injEq, Prod.mk.injEq, and_true] at hes
          exact hempty (hes.2 ▸ hv)
      · rw [modeOfName_of_ne h, Content.fault, modeFault_table_of_ne h]
        refine .inr ⟨rfl, fun x hx => ?_⟩
        obtain ⟨m, v, hes, -⟩ := hx.of_table
        cases hes
        exact h ⟨m, rfl⟩
    | _ :: _ :: _ => exact .inr ⟨rfl, by rintro _ ⟨⟩⟩
  | _ => exact .inr ⟨rfl, by rintro _ ⟨⟩⟩

/-! ### Settings that sites set -/

section

variable {l l' : List (Place × Value)} {s s' s'' : Settings} {f : Field}

lemma Sets.refl (s : Settings) (f : Field) : Sets [] s s f :=
  ⟨by simp, fun _ => rfl⟩

lemma Sets.append (h : Sets l s s' f) (h' : Sets l' s' s'' f)
    (honce : (∃ v, (.field f, v) ∈ l) → ∀ v, (.field f, v) ∉ l') : Sets (l ++ l') s s'' f := by
  constructor
  · intro v hv
    rcases List.mem_append.mp hv with hv | hv
    · rw [h'.kept (honce ⟨v, hv⟩)]
      exact h.given v hv
    · exact h'.given v hv
  · intro hnone
    simp only [List.mem_append, not_or] at hnone
    rw [h'.kept fun v => (hnone v).2, h.kept fun v => (hnone v).1]

end

section

variable {α β : Type}

/-- How reading ends that goes over some sites: with something, if they all fit, and else with the
fault of the first that does not. -/
inductive Settled (l : List (Place × Value)) (P : α → Prop) : Except SchemaFault α → Prop
  | ok {a : α} (hfit : AllFit l) (h : P a) : Settled l P (.ok a)
  | error {fault : SchemaFault} (h : FirstMisfit l fault) : Settled l P (.error fault)

lemma Settled.imp {l : List (Place × Value)} {P Q : α → Prop} {x : Except SchemaFault α}
    (hx : Settled l P x) (h : ∀ a, P a → Q a) : Settled l Q x := by
  cases hx with
  | ok hfit ha => exact .ok hfit (h _ ha)
  | error h => exact .error h

lemma Settled.map {l : List (Place × Value)} {P : α → Prop} {Q : β → Prop}
    {x : Except SchemaFault α} (hx : Settled l P x) (g : α → β) (h : ∀ a, P a → Q (g a)) :
    Settled l Q (g <$> x) := by
  cases hx with
  | ok hfit ha => exact .ok hfit (h _ ha)
  | error h => exact .error h

lemma Settled.bind {l l' : List (Place × Value)} {P : α → Prop} {Q : β → Prop}
    {x : Except SchemaFault α} {g : α → Except SchemaFault β} (hx : Settled l P x)
    (hg : ∀ a, P a → Settled l' Q (g a)) : Settled (l ++ l') Q (x >>= g) := by
  cases hx with
  | ok hfit h =>
    rename_i a
    show Settled (l ++ l') Q (g a)
    have hga := hg a h
    generalize g a = y at hga ⊢
    cases hga with
    | ok hfit' h' => exact .ok (allFit_append.mpr ⟨hfit, hfit'⟩) h'
    | error h' => exact .error (h'.after hfit)
  | error h => exact .error (h.append l')

/-- A reader of a member of a record sets what lies in and below a place and leaves the rest, if the
record has the defaults there. Records are seen as settings with nothing else in them. -/
def Puts (view : α → Settings) (q : Place) (read : Value → α → Except SchemaFault α) : Prop :=
  ∀ v a, Settled (q.sites v) (fun a' => v.Distinct →
    (∀ f ∈ q.fields, (view a).get f = ({} : Settings).get f) →
      ∀ f, Sets (q.sites v) (view a) (view a') f) (read v a)

lemma puts_field {view : α → Settings} {f : Field} {name : String}
    {read : Value → Except SchemaFault β} {set : α → β → α} {wrap : β → SettingValue}
    (hread : ReadsContent f.content read wrap)
    (hset : ∀ a b f', (view (set a b)).get f' = if f' = f then wrap b else (view a).get f') :
    Puts view (.field f) (Schema.member name read set).2 := by
  intro v a
  rw [Place.sites_field]
  show Settled _ _ (set a <$> read v)
  rcases hread v with ⟨b, hok, hb⟩ | ⟨herror, hnone⟩
  · rw [hok]
    refine .ok ?_ fun _ _ f' => ⟨fun w hw => ?_, fun hw => ?_⟩
    · exact List.forall_mem_singleton.mpr ⟨_, hb⟩
    · cases List.mem_singleton.mp hw
      rw [hset, if_pos rfl]
      exact hb
    · have hne : f' ≠ f := fun h => hw v (by simp [h])
      rw [hset, if_neg hne]
  · rw [herror]
    exact .error ⟨[], .field f, v, [], rfl, by simp [AllFit], fun ⟨x, hx⟩ => hnone x hx, rfl⟩

/-! ### Records -/

lemma nodup_keys_zip {names : List String} (h : names.Nodup) (vs : List Value) :
    ((names.zip vs).map Prod.fst).Nodup := by
  rw [List.zip_eq_zip_take_min, List.map_fst_zip (by simp)]
  exact h.sublist (List.take_sublist _ _)

lemma Place.distinct_entries? {p : Place} {v : Value} {es : Entries} (h : v.Distinct)
    (hes : p.entries? v = some es) : es.Distinct := by
  unfold Place.entries? at hes
  split_ifs at hes
  cases h with
  | table origin hkeys hvalues =>
    cases hes
    exact ⟨hkeys, hvalues⟩
  -- an array is read by position, under the names of the place
  | array hitems =>
    cases hes
    exact ⟨nodup_keys_zip p.nodup_names _, fun e he => hitems e.2 (List.of_mem_zip he).2⟩
  | tables hkeys hvalues =>
    cases hes
    refine ⟨nodup_keys_zip p.nodup_names _, fun e he => ?_⟩
    obtain ⟨members, hmem, hmembers⟩ := List.mem_map.mp (List.of_mem_zip he).2
    rw [← hmembers]
    exact .table .header (hkeys members hmem) (hvalues members hmem)
  | dateTime text =>
    cases hes
    exact Entries.distinct_nil
  | _ => cases hes

lemma lookup_of_mem {γ : Type} {ms : List (String × γ)} (h : (ms.map Prod.fst).Nodup)
    {name : String} {x : γ} (hm : (name, x) ∈ ms) : ms.lookup name = some x := by
  induction ms with
  | nil => cases hm
  | cons m ms ih =>
    obtain ⟨hnot, hms⟩ := List.nodup_cons.mp h
    rcases List.mem_cons.mp hm with rfl | hm
    · exact List.lookup_cons_self
    · have hne : (name == m.1) = false := by
        refine beq_eq_false_iff_ne.mpr fun heq => hnot ?_
        exact List.mem_map.mpr ⟨(name, x), hm, heq⟩
      rw [List.lookup_cons, hne]
      exact ih hms hm

namespace Schema

variable {s : Schema α}

/-- Some members of a record, read by position and by name. -/
lemma foldlM_zip {ms : List (String × (Value → α → Except SchemaFault α))}
    (h : ∀ m ∈ ms, s.members.lookup m.1 = some m.2) (a : α) (vs : List Value) :
    (ms.zip vs).foldlM (fun a ((_, read), v) => read v a) a =
      s.readEntries a ((ms.map Prod.fst).zip vs) := by
  induction ms generalizing a vs with
  | nil => rfl
  | cons m ms ih =>
    cases vs with
    | nil => rfl
    | cons v vs =>
      obtain ⟨hm, hms⟩ := List.forall_mem_cons.mp h
      simp only [List.zip_cons_cons, List.map_cons, readEntries, List.foldlM_cons, hm]
      exact bind_congr fun a' => ih hms a' vs

/-- Reading by position is reading by name, where the names are those of the members in order. -/
lemma readItems_eq {names : List String} (hnames : s.members.map Prod.fst = names)
    (h : names.Nodup) (a : α) (vs : List Value) :
    s.readItems a vs = s.readEntries a (names.zip vs) := by
  subst hnames
  exact foldlM_zip (fun m hm => lookup_of_mem h hm) a vs

end Schema

/-- A schema reads the record in a place. -/
structure Describes (s : Schema α) (p : Place) (view : α → Settings) : Prop where
  isRecord : p.isRecord
  name : s.name = p.recordName
  members : List.Forall₂ (fun m n => m.1 = n.1 ∧ Puts view n.2 m.2) s.members p.members

namespace Describes

variable {s : Schema α} {p : Place} {view : α → Settings}

lemma lookup (h : Describes s p view) (key : String) :
    s.members.lookup key = none ∧ p.members.lookup key = none ∨
      ∃ read q, s.members.lookup key = some read ∧ p.members.lookup key = some q ∧
        Puts view q read := by
  obtain ⟨-, -, hmembers⟩ := h
  generalize s.members = ms, p.members = ns at hmembers ⊢
  induction hmembers with
  | nil => exact .inl ⟨rfl, rfl⟩
  | @cons m n ms ns hmn _ ih =>
    obtain ⟨name, read⟩ := m
    obtain ⟨name', q⟩ := n
    obtain ⟨rfl, hputs⟩ := hmn
    by_cases hkey : key = name
    · subst hkey
      exact .inr ⟨read, q, by simp, by simp, hputs⟩
    · have hne : (key == name) = false := beq_eq_false_iff_ne.mpr hkey
      rw [List.lookup_cons, List.lookup_cons, hne]
      exact ih

lemma readEntries_settled (h : Describes s p view) (es : Entries) (a : α) :
    Settled (es.flatMap p.entrySites) (fun a' => es.Distinct →
      (∀ e ∈ es, ∀ q, p.members.lookup e.1 = some q →
        ∀ f ∈ q.fields, (view a).get f = ({} : Settings).get f) →
      ∀ f, Sets (es.flatMap p.entrySites) (view a) (view a') f) (s.readEntries a es) := by
  induction es generalizing a with
  | nil => exact .ok (by simp [AllFit]) fun _ _ f => Sets.refl _ f
  | cons e es ih =>
    obtain ⟨key, v⟩ := e
    rw [Schema.readEntries, List.foldlM_cons, List.flatMap_cons]
    rcases h.lookup key with ⟨hs, hp⟩ | ⟨read, q, hs, hp, hputs⟩
    · simp only [hs]
      rw [Place.entrySites_of_none hp]
      refine (ih a).imp fun a' ha' hd hdefault f => ?_
      exact ha' ⟨hd.keys.of_cons, fun e he => hd.values e (List.mem_cons_of_mem _ he)⟩
        (fun e he => hdefault e (List.mem_cons_of_mem _ he)) f
    · simp only [hs]
      rw [Place.entrySites_of_some hp]
      refine (hputs v a).bind fun a₁ ha₁ => (ih a₁).imp fun a' ha' hd hdefault f => ?_
      obtain ⟨hkey, hkeys⟩ := List.nodup_cons.mp hd.keys
      obtain ⟨hv, hvalues⟩ := List.forall_mem_cons.mp hd.values
      obtain ⟨hdefault, hlater⟩ := List.forall_mem_cons.mp hdefault
      -- the key does not come again, so no later entry has to do with the same settings
      have hother (e) (he : e ∈ es) (q') (hq' : p.members.lookup e.1 = some q') :
          q.fields.Disjoint q'.fields := by
        refine Place.fields_disjoint_of_lookup hp hq' ?_
        rintro rfl
        exact hkey (List.mem_map.mpr ⟨e, he, rfl⟩)
      have hfirst := ha₁ hv (hdefault q hp)
      refine (hfirst f).append (ha' ⟨hkeys, hvalues⟩ ?_ f) ?_
      · intro e he q' hq' f' hf'
        rw [(hfirst f').kept fun w hw => hother e he q' hq' (Place.mem_fields_of_mem_sites hw) hf']
        exact hlater e he q' hq' f' hf'
      · rintro ⟨w, hw⟩ w' hw'
        obtain ⟨e, he, hw'⟩ := List.mem_flatMap.mp hw'
        obtain ⟨q', hq', hf⟩ := Place.of_mem_entrySites hw'
        exact hother e he q' hq' (Place.mem_fields_of_mem_sites hw) hf

lemma names (h : Describes s p view) : s.members.map Prod.fst = p.names := by
  obtain ⟨-, -, hmembers⟩ := h
  unfold Place.names
  generalize s.members = ms, p.members = ns at hmembers ⊢
  induction hmembers with
  | nil => rfl
  | cons hmn _ ih => rw [List.map_cons, List.map_cons, hmn.1, ih]

lemma read_eq (h : Describes s p view) (a : α) (v : Value) :
    s.read a v = match p.entries? v with
      | some es => s.readEntries a es
      | none => .error (.wrongType v (.record p.recordName)) := by
  unfold Place.entries?
  rw [if_pos h.isRecord]
  cases v with
  | array vs => exact Schema.readItems_eq h.names p.nodup_names a vs
  | tables elements => exact Schema.readItems_eq h.names p.nodup_names a _
  | table origin es => rfl
  | dateTime text => rfl
  | _ => rw [← h.name]; rfl

lemma read_settled (h : Describes s p view) {init : α} (hinit : view init = {}) (v : Value) :
    Settled (p.sites v) (fun a => v.Distinct → ∀ f, Sets (p.sites v) {} (view a) f)
      (s.read init v) := by
  rw [h.read_eq]
  cases hes : p.entries? v with
  | none =>
    rw [Place.sites_of_none hes]
    refine .error ⟨[], p, v, [], rfl, by simp [AllFit], ?_, Place.fault_of_isRecord h.isRecord v⟩
    rw [Place.fits_iff_of_isRecord h.isRecord, hes]
    exact Bool.false_ne_true
  | some es =>
    rw [Place.sites_of_some hes, ← hinit]
    refine (h.readEntries_settled es init).imp fun a ha hd => ha (Place.distinct_entries? hd hes) ?_
    intro _ _ _ _ f _
    rw [hinit]

/-- A record as a member of another one. -/
lemma puts (h : Describes s p view) {init : α} (hinit : view init = {}) {name : String}
    {outer : β → Settings} {set : β → α → β}
    (hset : ∀ b a f, (outer (set b a)).get f =
      if f ∈ p.fields then (view a).get f else (outer b).get f) :
    Puts outer p (Schema.member name (s.read init) set).2 := by
  intro v b
  refine (h.read_settled hinit v).map (set b) fun a ha hd hdefault f => ?_
  obtain ⟨hgiven, hkept⟩ := ha hd f
  by_cases hf : f ∈ p.fields
  · constructor
    · intro w hw
      rw [hset, if_pos hf]
      exact hgiven w hw
    · intro hnone
      rw [hset, if_pos hf, hkept hnone, hdefault f hf]
  · constructor
    · intro w hw
      exact absurd (Place.mem_fields_of_mem_sites hw) hf
    · intro _
      rw [hset, if_neg hf]

end Describes

end

/-! ### The settings -/

lemma readsContent_word16 :
    ReadsContent (.word .word16 UInt16.size) readWord16 fun w => .number w.toNat :=
  readsContent_toWord fun _ h => UInt16.toNat_ofNat_of_lt h

lemma readsContent_word32 :
    ReadsContent (.word .word32 UInt32.size) readWord32 fun w => .number w.toNat :=
  readsContent_toWord fun _ h => UInt32.toNat_ofNat_of_lt h

lemma readsContent_word64 :
    ReadsContent (.word .word64 UInt64.size) readWord64 fun w => .number w.toNat :=
  readsContent_toWord fun _ h => UInt64.toNat_ofNat_of_lt h

lemma describes_source : Describes sourceSchema .source fun s => { source := s } where
  isRecord := rfl
  name := rfl
  members :=
    .cons ⟨rfl, puts_field readsContent_string (by rintro _ _ ⟨⟩ <;> rfl)⟩ <|
    .cons ⟨rfl, puts_field readsContent_word16 (by rintro _ _ ⟨⟩ <;> rfl)⟩ <|
    .cons ⟨rfl, puts_field readsContent_string (by rintro _ _ ⟨⟩ <;> rfl)⟩ <|
    .cons ⟨rfl, puts_field readsContent_string (by rintro _ _ ⟨⟩ <;> rfl)⟩ <|
    .cons ⟨rfl, puts_field readsContent_string (by rintro _ _ ⟨⟩ <;> rfl)⟩ .nil

lemma describes_graph : Describes graphSchema .graph fun s => { graph := s } where
  isRecord := rfl
  name := rfl
  members :=
    .cons ⟨rfl, puts_field readsContent_string (by rintro _ _ ⟨⟩ <;> rfl)⟩ <|
    .cons ⟨rfl, puts_field readsContent_string (by rintro _ _ ⟨⟩ <;> rfl)⟩ <|
    .cons ⟨rfl, puts_field readsContent_string (by rintro _ _ ⟨⟩ <;> rfl)⟩ <|
    .cons ⟨rfl, puts_field readsContent_string (by rintro _ _ ⟨⟩ <;> rfl)⟩ .nil

lemma describes_retry : Describes retrySchema .retry fun p => { sync := { retry := p } } where
  isRecord := rfl
  name := rfl
  members :=
    .cons ⟨rfl, puts_field readsContent_word32 (by rintro _ _ ⟨⟩ <;> rfl)⟩ <|
    .cons ⟨rfl, puts_field readsContent_word64 (by rintro _ _ ⟨⟩ <;> rfl)⟩ <|
    .cons ⟨rfl, puts_field readsContent_word64 (by rintro _ _ ⟨⟩ <;> rfl)⟩ .nil

lemma describes_sync : Describes syncSchema .sync fun s => { sync := s } where
  isRecord := rfl
  name := rfl
  members :=
    .cons ⟨rfl, describes_retry.puts rfl (by rintro _ _ ⟨⟩ <;> rfl)⟩ <|
    .cons ⟨rfl, puts_field readsContent_mode (by rintro _ _ ⟨⟩ <;> rfl)⟩ .nil

lemma describes_document : Describes schema .document id where
  isRecord := rfl
  name := rfl
  members :=
    .cons ⟨rfl, describes_source.puts rfl (by rintro _ _ ⟨⟩ <;> rfl)⟩ <|
    .cons ⟨rfl, describes_graph.puts rfl (by rintro _ _ ⟨⟩ <;> rfl)⟩ <|
    .cons ⟨rfl, describes_sync.puts rfl (by rintro _ _ ⟨⟩ <;> rfl)⟩ .nil

lemma ofEntries_settled (es : Entries) :
    Settled (documentSites es) (fun s => es.Distinct → ∀ f, Sets (documentSites es) {} s f)
      (ofEntries es) :=
  (describes_document.read_settled rfl (.table .header es)).imp fun _ h hd =>
    h (Value.distinct_table.mpr hd)

lemma ofEntries_ok_iff {es : Entries} (hd : es.Distinct) (s : Settings) :
    ofEntries es = .ok s ↔ AllFit (documentSites es) ∧ ∀ f, Sets (documentSites es) {} s f := by
  have h := ofEntries_settled es
  generalize ofEntries es = x at h ⊢
  cases h with
  | ok hfit ha =>
    rename_i a
    constructor
    · intro heq
      cases heq
      exact ⟨hfit, ha hd⟩
    · rintro ⟨-, hs⟩
      rw [ext_get fun f => (ha hd f).unique (hs f) fun _ => Iff.rfl]
  | error h => exact ⟨by simp, fun hs => absurd hs.1 h.not_allFit⟩

lemma ofEntries_error_iff (es : Entries) (fault : SchemaFault) :
    ofEntries es = .error fault ↔ FirstMisfit (documentSites es) fault := by
  have h := ofEntries_settled es
  generalize ofEntries es = x at h ⊢
  cases h with
  | ok hfit ha => exact ⟨by simp, fun hfault => absurd hfit hfault.not_allFit⟩
  | error h =>
    constructor
    · intro heq
      cases heq
      exact h
    · intro h'
      rw [h.unique h']

lemma exists_ofEntries_iff (es : Entries) :
    (∃ s, ofEntries es = .ok s) ↔ AllFit (documentSites es) := by
  have h := ofEntries_settled es
  generalize ofEntries es = x at h ⊢
  cases h with
  | ok hfit _ => exact ⟨fun _ => hfit, fun _ => ⟨_, rfl⟩⟩
  | error h => exact ⟨by simp, fun hfit => absurd hfit h.not_allFit⟩

/-! ### Documents that say the same -/

/-- A change to the members of one record in a document. -/
inductive Changed (change : Place → Entries → Entries → Prop) : Place → Value → Value → Prop
  | here {p : Place} {v v' : Value} {es es' : Entries} (hv : p.entries? v = some es)
      (hv' : p.entries? v' = some es') (h : change p es es') : Changed change p v v'
  | inside {p q : Place} {v v' w w' : Value} (before after : Entries) {key : String}
      (hv : p.entries? v = some (before ++ (key, w) :: after))
      (hv' : p.entries? v' = some (before ++ (key, w') :: after))
      (hq : p.members.lookup key = some q) (h : Changed change q w w') : Changed change p v v'

/-- One document is had from another by changes to the members of its records. -/
def Rearranged (change : Place → Entries → Entries → Prop) : Entries → Entries → Prop :=
  Relation.ReflTransGen fun es es' =>
    Changed change .document (.table .header es) (.table .header es')

/-- A member that the record does not know is put among the others. -/
inductive AddsUnknown (p : Place) : Entries → Entries → Prop
  | mk (before after : Entries) (v : Value) {key : String} (h : p.members.lookup key = none) :
      AddsUnknown p (before ++ after) (before ++ (key, v) :: after)

/-- What a change to the members of a record does to the sites, it does to those of the document. -/
lemma Changed.sites {change : Place → Entries → Entries → Prop}
    {R : List (Place × Value) → List (Place × Value) → Prop}
    (hR : ∀ a b l l', R l l' → R (a ++ (l ++ b)) (a ++ (l' ++ b)))
    (hchange : ∀ p es es', change p es es' → R (es.flatMap p.entrySites) (es'.flatMap p.entrySites))
    {p : Place} {v v' : Value} (h : Changed change p v v') : R (p.sites v) (p.sites v') := by
  induction h with
  | here hv hv' h =>
    rw [Place.sites_of_some hv, Place.sites_of_some hv']
    exact hchange _ _ _ h
  | inside _ _ hv hv' hq _ ih =>
    rw [Place.sites_of_some hv, Place.sites_of_some hv']
    simp only [List.flatMap_append, List.flatMap_cons, Place.entrySites_of_some hq]
    exact hR _ _ _ _ ih

lemma AddsUnknown.entrySites_eq {p : Place} {es es' : Entries} (h : AddsUnknown p es es') :
    es.flatMap p.entrySites = es'.flatMap p.entrySites := by
  obtain ⟨before, after, v, h⟩ := h
  rw [List.flatMap_append, List.flatMap_append, List.flatMap_cons, Place.entrySites_of_none h,
    List.nil_append]

lemma Rearranged.documentSites_eq {es es' : Entries} (h : Rearranged AddsUnknown es es') :
    documentSites es = documentSites es' := by
  induction h with
  | refl => rfl
  | tail _ hlast ih =>
    refine ih.trans (hlast.sites (R := Eq) ?_ fun p _ _ h => h.entrySites_eq)
    rintro a b l _ rfl
    rfl

lemma Rearranged.documentSites_perm {es es' : Entries}
    (h : Rearranged (fun p es es' => AddsUnknown p es es' ∨ es.Perm es') es es') :
    (documentSites es).Perm (documentSites es') := by
  induction h with
  | refl => exact .refl _
  | tail _ hlast ih =>
    refine ih.trans (hlast.sites (R := List.Perm) ?_ ?_)
    · intro a b l l' hl
      exact (hl.append_right b).append_left a
    · rintro p es es' (h | h)
      · rw [h.entrySites_eq]
      · exact h.flatMap_right _

/-- All that counts for the settings is the sites. -/
lemma ofEntries_congr {es es' : Entries} (hd : es.Distinct) (hd' : es'.Distinct)
    (h : documentSites es = documentSites es') : ofEntries es = ofEntries es' := by
  cases hes : ofEntries es with
  | ok s =>
    rw [ofEntries_ok_iff hd, h] at hes
    exact ((ofEntries_ok_iff hd' s).mpr hes).symm
  | error fault =>
    rw [ofEntries_error_iff, h] at hes
    exact ((ofEntries_error_iff es' fault).mpr hes).symm

/-- Where there is no fault, the order of the sites does not count. -/
lemma ofEntries_ok_of_perm {es es' : Entries} (hd : es.Distinct) (hd' : es'.Distinct)
    (h : (documentSites es).Perm (documentSites es')) {s : Settings} (hs : ofEntries es = .ok s) :
    ofEntries es' = .ok s := by
  obtain ⟨hfit, hsets⟩ := (ofEntries_ok_iff hd s).mp hs
  refine (ofEntries_ok_iff hd' s).mpr ⟨fun x hx => hfit x (h.mem_iff.mpr hx), fun f => ?_⟩
  exact ⟨fun v hv => (hsets f).given v (h.mem_iff.mpr hv),
    fun hnone => (hsets f).kept fun v hv => hnone v (h.mem_iff.mp hv)⟩

/-- Settings are read from a document if and only if each value in a known place fits there. Each
setting is then what the value in its place gives or its default, and else the fault is that of the
first value that does not fit. Members that no record knows change nothing, nor does the order of
members unless there is a fault. -/
theorem ofEntries_follows_schema (es : Entries) :
    ((∃ s, ofEntries es = .ok s) ↔ AllFit (documentSites es)) ∧
    (∀ fault, ofEntries es = .error fault ↔ FirstMisfit (documentSites es) fault) ∧
    (es.Distinct →
      (∀ s, ofEntries es = .ok s → ∀ f, Sets (documentSites es) {} s f) ∧
      ∀ es', es'.Distinct →
        (Rearranged AddsUnknown es es' → ofEntries es' = ofEntries es) ∧
        (Rearranged (fun p es es' => AddsUnknown p es es' ∨ es.Perm es') es es' →
          ∀ s, ofEntries es' = .ok s ↔ ofEntries es = .ok s)) ∧
    ∀ text, parse? text = some es →
      es.Distinct ∧ ofText text = (ofEntries es).mapError .schema := by
  refine ⟨exists_ofEntries_iff es, ofEntries_error_iff es, fun hd => ⟨?_, fun es' hd' => ⟨?_, ?_⟩⟩,
    ?_⟩
  · intro s hs
    exact ((ofEntries_ok_iff hd s).mp hs).2
  · intro h
    exact ofEntries_congr hd' hd h.documentSites_eq.symm
  · intro h s
    have hperm := h.documentSites_perm
    exact ⟨ofEntries_ok_of_perm hd' hd hperm.symm, ofEntries_ok_of_perm hd hd' hperm⟩
  · intro text htext
    exact ⟨parse?_distinct htext, by rw [ofText, htext]⟩

/-- The retry policy as the first item of an array, the failure mode as a table. -/
def positionalSync : Entries :=
  [("sync", .array [.table .inline [("max_attempts", .integer 7)],
    .table .inline [("skip", .array [])]])]

/-- The same with a member that the retry policy does not know. -/
def annotatedSync : Entries :=
  [("sync", .array [.table .inline [("max_attempts", .integer 7), ("jitter", .boolean true)],
    .table .inline [("skip", .array [])]])]

/-- A member that the retry policy does not know changes nothing of what is read, in an array that
gives the section by position as in a table. -/
theorem ofEntries_follows_schema_in_array :
    positionalSync.Distinct ∧ annotatedSync.Distinct ∧
      Rearranged AddsUnknown positionalSync annotatedSync ∧
      ofEntries annotatedSync =
        .ok { sync := { retry := { maxAttempts := 7 }, failureMode := .skip } } := by
  have hmode : (Value.table .inline [("skip", .array [])]).Distinct :=
    Value.distinct_table.mpr (Entries.distinct_nil.concat rfl (.array (List.forall_mem_nil _)))
  have hsync {es : Entries} (hes : es.Distinct) : Entries.Distinct
      [("sync", .array [.table .inline es, .table .inline [("skip", .array [])]])] :=
    Entries.distinct_nil.concat rfl
      (.array (List.forall_mem_cons.mpr
        ⟨Value.distinct_table.mpr hes, List.forall_mem_singleton.mpr hmode⟩))
  have hretry : Entries.Distinct [("max_attempts", .integer 7)] :=
    Entries.distinct_nil.concat rfl (.integer 7)
  have hd : positionalSync.Distinct := hsync hretry
  have hd' : annotatedSync.Distinct := hsync (hretry.concat rfl (.boolean true))
  have hadds : Rearranged AddsUnknown positionalSync annotatedSync := by
    have hjitter : Place.retry.members.lookup "jitter" = none := rfl
    refine .single (.inside [] [] rfl rfl rfl (.inside [] _ rfl rfl rfl (.here rfl rfl ?_)))
    exact .mk [("max_attempts", .integer 7)] [] (.boolean true) hjitter
  refine ⟨hd, hd', hadds, ?_⟩
  rw [(((ofEntries_follows_schema positionalSync).2.2.1 hd).2 annotatedSync hd').1 hadds]
  rfl

end Backfill.Settings
