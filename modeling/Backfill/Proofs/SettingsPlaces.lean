import Mathlib.Data.List.Nodup
import Backfill.Settings.Schema

/-!
# Places of the settings

What a document says about the settings, apart from how it is read. Each setting has a place in the
document: a member of a record, which is itself a member of a record or the document. The sites of a
document are the values that stand in such places, in the order of the document, where a value that
stands for a record is looked through.
-/

namespace Backfill.Settings

open Toml

/-! ### Settings one by one -/

inductive Field where
  | sourceHost
  | sourcePort
  | sourceDatabase
  | sourceUser
  | sourcePassword
  | graphUri
  | graphUser
  | graphPassword
  | graphDatabase
  | maxAttempts
  | initialBackoff
  | maxBackoff
  | failureMode
deriving DecidableEq, Repr

inductive SettingValue where
  | text (value : String)
  | number (value : Nat)
  | mode (value : Sync.FailureMode)
deriving DecidableEq, Repr

def get (s : Settings) : Field → SettingValue
  | .sourceHost => .text s.source.host
  | .sourcePort => .number s.source.port.toNat
  | .sourceDatabase => .text s.source.database
  | .sourceUser => .text s.source.user
  | .sourcePassword => .text s.source.password
  | .graphUri => .text s.graph.uri
  | .graphUser => .text s.graph.user
  | .graphPassword => .text s.graph.password
  | .graphDatabase => .text s.graph.database
  | .maxAttempts => .number s.sync.retry.maxAttempts.toNat
  | .initialBackoff => .number s.sync.retry.initialBackoff.toNat
  | .maxBackoff => .number s.sync.retry.maxBackoff.toNat
  | .failureMode => .mode s.sync.failureMode

attribute [ext] SourceSettings GraphSettings RetryPolicy SyncSettings Settings

/-- Settings are the same if they are so one by one. -/
lemma ext_get {s s' : Settings} (h : ∀ f, s.get f = s'.get f) : s = s' := by
  ext1
  · ext1
    · exact SettingValue.text.inj (h .sourceHost)
    · exact UInt16.toNat_inj.mp (SettingValue.number.inj (h .sourcePort))
    · exact SettingValue.text.inj (h .sourceDatabase)
    · exact SettingValue.text.inj (h .sourceUser)
    · exact SettingValue.text.inj (h .sourcePassword)
  · ext1
    · exact SettingValue.text.inj (h .graphUri)
    · exact SettingValue.text.inj (h .graphUser)
    · exact SettingValue.text.inj (h .graphPassword)
    · exact SettingValue.text.inj (h .graphDatabase)
  · ext1
    · ext1
      · exact UInt32.toNat_inj.mp (SettingValue.number.inj (h .maxAttempts))
      · exact UInt64.toNat_inj.mp (SettingValue.number.inj (h .initialBackoff))
      · exact UInt64.toNat_inj.mp (SettingValue.number.inj (h .maxBackoff))
    · exact SettingValue.mode.inj (h .failureMode)

/-- What a setting takes: a text, a number below a bound, or the name of a failure mode. -/
inductive Content where
  | text
  | word (expected : Expected) (bound : Nat)
  | mode

def Field.content : Field → Content
  | sourcePort => .word .word16 UInt16.size
  | maxAttempts => .word .word32 UInt32.size
  | initialBackoff | maxBackoff => .word .word64 UInt64.size
  | failureMode => .mode
  | _ => .text

def modeName : Sync.FailureMode → String
  | .abort => "abort"
  | .skip => "skip"

def IsEmpty : Value → Prop
  | .table _ es => es = []
  | .array vs => vs = []
  | .tables elements => elements = []
  | _ => False

/-- The value that stands for a setting, and what it sets it to. -/
inductive Gives : Content → Value → SettingValue → Prop
  | text (s : String) : Gives .text (.string s) (.text s)
  | word (expected : Expected) {bound n : Nat} (h : n < bound) :
      Gives (.word expected bound) (.integer n) (.number n)
  | mode (m : Sync.FailureMode) : Gives .mode (.string (modeName m)) (.mode m)
  | modeTable (origin : Origin) (m : Sync.FailureMode) {v : Value} (h : IsEmpty v) :
      Gives .mode (.table origin [(modeName m, v)]) (.mode m)

lemma modeName_injective : Function.Injective modeName := by
  intro m m' h
  cases m <;> cases m' <;> simp_all [modeName]

lemma Gives.unique {c : Content} {v : Value} {x y : SettingValue} (hx : Gives c v x)
    (hy : Gives c v y) : x = y := by
  generalize hv : v = v' at hy
  cases hx with
  | text s =>
    cases hy
    cases hv
    rfl
  | word expected h =>
    cases hy
    rw [Int.ofNat.inj (Value.integer.inj hv)]
  | mode m =>
    cases hy with
    | mode m' => rw [modeName_injective (Value.string.inj hv)]
    | modeTable => cases hv
  | modeTable origin m h =>
    cases hy with
    | mode m' => cases hv
    | modeTable origin' m' h' =>
      have hname : modeName m = modeName m' := by
        simp only [Value.table.injEq, List.cons.injEq, Prod.mk.injEq] at hv
        exact hv.2.1.1
      rw [modeName_injective hname]

/-! ### Places -/

inductive Place where
  | document
  | source
  | graph
  | sync
  | retry
  | field (f : Field)
deriving DecidableEq, Repr

namespace Place

/-- The members of a record, in the order in which they are declared. -/
def members : Place → List (String × Place)
  | document => [("postgres", source), ("graph", graph), ("sync", sync)]
  | source =>
    [("host", field .sourceHost), ("port", field .sourcePort), ("database", field .sourceDatabase),
      ("user", field .sourceUser), ("password", field .sourcePassword)]
  | graph =>
    [("uri", field .graphUri), ("user", field .graphUser), ("password", field .graphPassword),
      ("database", field .graphDatabase)]
  | sync => [("retry", retry), ("failure_mode", field .failureMode)]
  | retry =>
    [("max_attempts", field .maxAttempts), ("initial_backoff_ms", field .initialBackoff),
      ("max_backoff_ms", field .maxBackoff)]
  | field _ => []

def names (p : Place) : List String :=
  p.members.map Prod.fst

/-- The name of a record. -/
def recordName : Place → String
  | document => "CrategraphConfig"
  | source => "PostgresConfig"
  | graph => "GraphConfig"
  | sync => "SyncSettings"
  | retry => "RetryPolicy"
  | field _ => ""

def isRecord : Place → Bool
  | field _ => false
  | _ => true

/-- The members of a value that stands for a record: those of a table, or the items of an array,
each under the name that comes next. A date or time stands for a record without any. -/
def entries? (p : Place) (v : Value) : Option Entries :=
  if p.isRecord then
    match v with
    | .table _ es => some es
    | .array vs => some (p.names.zip vs)
    | .tables elements => some (p.names.zip (elements.map (.table .header)))
    | .dateTime _ => some []
    | _ => none
  else none

/-- The settings in and below a place. -/
def fields : Place → List Field
  | document =>
    [.sourceHost, .sourcePort, .sourceDatabase, .sourceUser, .sourcePassword, .graphUri, .graphUser,
      .graphPassword, .graphDatabase, .maxAttempts, .initialBackoff, .maxBackoff, .failureMode]
  | source => [.sourceHost, .sourcePort, .sourceDatabase, .sourceUser, .sourcePassword]
  | graph => [.graphUri, .graphUser, .graphPassword, .graphDatabase]
  | sync => [.maxAttempts, .initialBackoff, .maxBackoff, .failureMode]
  | retry => [.maxAttempts, .initialBackoff, .maxBackoff]
  | field f => [f]

/-- How many records a place lies above the settings. -/
def height : Place → Nat
  | document => 3
  | sync => 2
  | source | graph | retry => 1
  | field _ => 0

lemma mem_of_lookup {p q : Place} {key : String} (h : p.members.lookup key = some q) :
    (key, q) ∈ p.members := by
  obtain ⟨_, _, hmembers, -⟩ := List.lookup_eq_some_iff.mp h
  simp [hmembers]

lemma height_lt_of_lookup {p q : Place} {key : String} (h : p.members.lookup key = some q) :
    q.height < p.height := by
  have hall : ∀ m ∈ p.members, m.2.height < p.height := by
    cases p with
    | field f => exact List.forall_mem_nil _
    | _ => decide
  exact hall _ (mem_of_lookup h)

lemma fields_subset_of_lookup {p q : Place} {key : String} (h : p.members.lookup key = some q) :
    q.fields ⊆ p.fields := by
  have hall : ∀ m ∈ p.members, ∀ f ∈ m.2.fields, f ∈ p.fields := by
    cases p with
    | field f => exact List.forall_mem_nil _
    | _ => decide
  exact fun f => hall _ (mem_of_lookup h) f

/-- Members of different names have no setting in common. -/
lemma fields_disjoint_of_lookup {p q q' : Place} {key key' : String}
    (h : p.members.lookup key = some q) (h' : p.members.lookup key' = some q') (hne : key ≠ key') :
    q.fields.Disjoint q'.fields := by
  have hall : ∀ m ∈ p.members, ∀ m' ∈ p.members, m.1 ≠ m'.1 →
      ∀ f ∈ m.2.fields, f ∉ m'.2.fields := by
    cases p with
    | field f => exact List.forall_mem_nil _
    | _ => decide
  exact fun f hf hf' => hall _ (mem_of_lookup h) _ (mem_of_lookup h') hne f hf hf'

lemma nodup_names (p : Place) : p.names.Nodup := by
  cases p with
  | field f => exact List.nodup_nil
  | _ => decide

/-- What stands in and below a place, where a value that stands for a record is looked through. -/
def sites (p : Place) (v : Value) : List (Place × Value) :=
  match p.entries? v with
  | none => [(p, v)]
  | some es => es.flatMap fun e =>
    match _h : p.members.lookup e.1 with
    | none => []
    | some q => q.sites e.2
termination_by p.height
decreasing_by exact height_lt_of_lookup _h

/-- The sites of an entry of a record. -/
def entrySites (p : Place) (e : String × Value) : List (Place × Value) :=
  match p.members.lookup e.1 with
  | none => []
  | some q => q.sites e.2

lemma sites_of_none {p : Place} {v : Value} (h : p.entries? v = none) : p.sites v = [(p, v)] := by
  rw [sites, h]

lemma sites_of_some {p : Place} {v : Value} {es : Entries} (h : p.entries? v = some es) :
    p.sites v = es.flatMap p.entrySites := by
  rw [sites, h]
  refine List.flatMap_congr fun e _ => ?_
  unfold entrySites
  grind

lemma sites_field (f : Field) (v : Value) : (field f).sites v = [(field f, v)] :=
  sites_of_none rfl

lemma entrySites_of_none {p : Place} {key : String} (h : p.members.lookup key = none) (v : Value) :
    p.entrySites (key, v) = [] := by
  simp only [entrySites, h]

lemma entrySites_of_some {p q : Place} {key : String} (h : p.members.lookup key = some q)
    (v : Value) : p.entrySites (key, v) = q.sites v := by
  simp only [entrySites, h]

lemma mem_fields_of_mem_sites {p : Place} {w v : Value} {f : Field}
    (h : (field f, v) ∈ p.sites w) : f ∈ p.fields := by
  induction hn : p.height using Nat.strongRecOn generalizing p w with
  | _ n ih =>
    cases hes : p.entries? w with
    | none =>
      rw [sites_of_none hes, List.mem_singleton] at h
      cases h
      exact List.mem_singleton_self f
    | some es =>
      rw [sites_of_some hes, List.mem_flatMap] at h
      obtain ⟨⟨key, w'⟩, -, h⟩ := h
      cases hq : p.members.lookup key with
      | none => simp [entrySites_of_none hq] at h
      | some q =>
        rw [entrySites_of_some hq] at h
        exact fields_subset_of_lookup hq (ih _ (hn ▸ height_lt_of_lookup hq) h rfl)

lemma of_mem_entrySites {p : Place} {e : String × Value} {v : Value} {f : Field}
    (h : (field f, v) ∈ p.entrySites e) : ∃ q, p.members.lookup e.1 = some q ∧ f ∈ q.fields := by
  cases hq : p.members.lookup e.1 with
  | none => simp [entrySites_of_none hq] at h
  | some q =>
    rw [entrySites_of_some hq] at h
    exact ⟨q, rfl, mem_fields_of_mem_sites h⟩

/-- A value that fits a place: one that gives the setting something, or one that stands for a
record. -/
def Fits : Place → Value → Prop
  | field f, v => ∃ x, Gives f.content v x
  | p, v => (p.entries? v).isSome

lemma fits_iff_of_isRecord {p : Place} (h : p.isRecord) (v : Value) :
    p.Fits v ↔ (p.entries? v).isSome := by
  cases p with
  | field f => cases h
  | _ => rfl

end Place

/-! ### What is wrong with a value that does not fit -/

/-- What should be empty beside the name of a failure mode, and is not. -/
def contentFault : Value → SchemaFault
  | .table .. | .array _ => .modeContent
  | .tables _ => .modeElements
  | v => .modeContentType v

def modeFault : Value → SchemaFault
  | .string name => .unknownMode name
  | .table _ [] => .modeMissing
  | .table _ [(name, v)] =>
    if name = modeName .abort ∨ name = modeName .skip then contentFault v else .unknownMode name
  | .table .. => .modeAmbiguous
  | _ => .modeType

def Content.fault : Content → Value → SchemaFault
  | text, v => .wrongType v .string
  | word expected _, .integer n => .outOfRange n expected
  | word expected _, v => .wrongType v expected
  | mode, v => modeFault v

def Place.fault : Place → Value → SchemaFault
  | field f, v => f.content.fault v
  | p, v => .wrongType v (.record p.recordName)

lemma Place.fault_of_isRecord {p : Place} (h : p.isRecord) (v : Value) :
    p.fault v = .wrongType v (.record p.recordName) := by
  cases p with
  | field f => cases h
  | _ => rfl

/-! ### Sites that fit -/

/-- All values fit their places. -/
def AllFit (l : List (Place × Value)) : Prop :=
  ∀ x ∈ l, x.1.Fits x.2

/-- The first value that does not fit its place has the given fault. -/
def FirstMisfit (l : List (Place × Value)) (fault : SchemaFault) : Prop :=
  ∃ before p v after, l = before ++ (p, v) :: after ∧ AllFit before ∧ ¬ p.Fits v ∧ p.fault v = fault

/-- Some sites turn settings into others, as far as one of them is concerned: it becomes what the
value in its place gives, or stays as it is if there is none. -/
structure Sets (l : List (Place × Value)) (s s' : Settings) (f : Field) : Prop where
  given : ∀ v, (.field f, v) ∈ l → Gives f.content v (s'.get f)
  kept : (∀ v, (.field f, v) ∉ l) → s'.get f = s.get f

/-- The sites of a document. -/
def documentSites (es : Entries) : List (Place × Value) :=
  Place.document.sites (.table .header es)

lemma allFit_append {l l' : List (Place × Value)} : AllFit (l ++ l') ↔ AllFit l ∧ AllFit l' :=
  List.forall_mem_append

lemma FirstMisfit.append {l : List (Place × Value)} {fault : SchemaFault} (h : FirstMisfit l fault)
    (l' : List (Place × Value)) : FirstMisfit (l ++ l') fault := by
  obtain ⟨before, p, v, after, rfl, hbefore, hfits, hfault⟩ := h
  exact ⟨before, p, v, after ++ l', by simp, hbefore, hfits, hfault⟩

lemma FirstMisfit.after {l : List (Place × Value)} {fault : SchemaFault} (h : FirstMisfit l fault)
    {l' : List (Place × Value)} (hl : AllFit l') : FirstMisfit (l' ++ l) fault := by
  obtain ⟨before, p, v, after, rfl, hbefore, hfits, hfault⟩ := h
  exact ⟨l' ++ before, p, v, after, by simp, allFit_append.mpr ⟨hl, hbefore⟩, hfits, hfault⟩

lemma FirstMisfit.not_allFit {l : List (Place × Value)} {fault : SchemaFault}
    (h : FirstMisfit l fault) : ¬ AllFit l := by
  obtain ⟨before, p, v, after, rfl, -, hfits, -⟩ := h
  intro hall
  exact hfits (hall (p, v) (by simp))

lemma FirstMisfit.unique {l : List (Place × Value)} {fault fault' : SchemaFault}
    (h : FirstMisfit l fault) (h' : FirstMisfit l fault') : fault = fault' := by
  obtain ⟨before, p, v, after, rfl, hbefore, hfits, rfl⟩ := h
  obtain ⟨before', p', v', after', heq, hbefore', hfits', rfl⟩ := h'
  rcases List.append_eq_append_iff.mp heq with ⟨more, rfl, hmore⟩ | ⟨more, rfl, hmore⟩
  · cases more with
    | nil =>
      cases hmore
      rfl
    | cons x more =>
      cases hmore
      -- the earlier misfit would be among those that fit
      exact absurd (hbefore' (p, v) (by simp)) hfits
  · cases more with
    | nil =>
      cases hmore
      rfl
    | cons x more =>
      cases hmore
      exact absurd (hbefore (p', v') (by simp)) hfits'

lemma Sets.unique {l l' : List (Place × Value)} {s s₁ s₂ : Settings} {f : Field}
    (h : Sets l s s₁ f) (h' : Sets l' s s₂ f) (hmem : ∀ x, x ∈ l ↔ x ∈ l') :
    s₁.get f = s₂.get f := by
  by_cases hf : ∃ v, (.field f, v) ∈ l
  · obtain ⟨v, hv⟩ := hf
    exact (h.given v hv).unique (h'.given v ((hmem _).mp hv))
  · have hnone := not_exists.mp hf
    rw [h.kept hnone, h'.kept fun v hv => hnone v ((hmem _).mpr hv)]

end Backfill.Settings
