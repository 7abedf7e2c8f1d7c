import Backfill.Proofs.SettingsPlaces
import Backfill.Proofs.WrittenValues

/-!
# Settings written and read back

The text of a settings file is a list of lines, which do to a document what they say. So the
settings that are read from it are those that were written, as long as no number is too great for
TOML.
-/

namespace Backfill.Settings

open Toml

/-! ### Lines of the text -/

namespace SettingValue

def written : SettingValue → List Char
  | text s => textValue s
  | number n => Text.digits n
  | mode m => textValue (modeName m)

/-- The value as which a written setting is read, if there is one. -/
def value? : SettingValue → Option Value
  | text s => some (.string s)
  | number n => (fits? n).map .integer
  | mode m => some (.string (modeName m))

lemma readsAs_written (x : SettingValue) : ReadsAs x.written x.value? := by
  cases x with
  | text s => exact readsAs_textValue s
  | number n => exact readsAs_digits n
  | mode m => exact readsAs_textValue (modeName m)

end SettingValue

inductive Line where
  | blank
  | header (path : List String) (key : String)
  | setting (name : String) (f : Field)

/-- The header of a table and its settings. -/
structure Section where
  path : List String := []
  key : String
  settings : List (String × Field)

def Section.lines (c : Section) : List Line :=
  .header c.path c.key :: c.settings.map fun (name, f) => .setting name f

/-- The members of the table, where the settings have the given values. -/
def Section.members (c : Section) (value : Field → Value) : Entries :=
  c.settings.map fun (name, f) => (name, value f)

def sourceLines : Section where
  key := "postgres"
  settings :=
    [("host", .sourceHost), ("port", .sourcePort), ("database", .sourceDatabase),
      ("user", .sourceUser), ("password", .sourcePassword)]

def graphLines : Section where
  key := "graph"
  settings :=
    [("uri", .graphUri), ("user", .graphUser), ("password", .graphPassword),
      ("database", .graphDatabase)]

def syncLines : Section where
  key := "sync"
  settings := [("failure_mode", .failureMode)]

def retryLines : Section where
  path := ["sync"]
  key := "retry"
  settings :=
    [("max_attempts", .maxAttempts), ("initial_backoff_ms", .initialBackoff),
      ("max_backoff_ms", .maxBackoff)]

/-- The lines of a settings file. -/
def layout : List Line :=
  sourceLines.lines ++ .blank :: graphLines.lines ++ .blank :: syncLines.lines ++
    .blank :: retryLines.lines

namespace Line

def text (s : Settings) : Line → List Char
  | blank => ['\n']
  | header path key => '[' :: (dotted (path ++ [key]) ++ [']', '\n'])
  | setting name f => line name (s.get f).written

/-- What a line does to a document, where the settings have the given values. -/
def enter? (values : Field → Option Value) (d : Draft) : Line → Option Draft
  | blank => some d
  | header path key => d.openTable? path key
  | setting name f => values f >>= d.add? [] name

/-- The keys of a line, none of which is in need of quotes. -/
def Regular : Line → Prop
  | blank => True
  | header path key => (∀ name ∈ path ++ [key], IsBareKey name) ∧ path.length < maxDepth
  | setting name _ => IsBareKey name

instance : DecidablePred Regular
  | blank => inferInstanceAs (Decidable True)
  | header .. => inferInstanceAs (Decidable (_ ∧ _))
  | setting .. => inferInstanceAs (Decidable (IsBareKey _))

lemma lines?_text {l : Line} (h : l.Regular) (s : Settings) (fuel : Nat) (d : Draft)
    (rest : List Char) :
    lines? (fuel + 1) d (l.text s ++ rest) =
      l.enter? (fun f => (s.get f).value?) d >>= fun d => lines? fuel d rest := by
  cases l with
  | blank => rfl
  | header path key =>
    rw [text, List.cons_append, List.append_assoc]
    exact lines?_header fuel d rest h.1 h.2
  | setting name f => exact lines?_pair fuel d rest h (s.get f).readsAs_written

end Line

lemma regular_layout : ∀ l ∈ layout, l.Regular := by
  decide

lemma syncSection_eq (s : SyncSettings) :
    syncSection s = header "sync" ++ line "failure_mode" (textValue (modeName s.failureMode)) := by
  unfold syncSection
  cases s.failureMode <;> rfl

lemma document_eq (s : Settings) : s.document = layout.flatMap (Line.text s) := by
  have hsource : sourceSection s.source = sourceLines.lines.flatMap (Line.text s) := by
    simp [sourceSection, sourceLines, Section.lines, Line.text, header, dotted, get,
      SettingValue.written]
  have hgraph : graphSection s.graph = graphLines.lines.flatMap (Line.text s) := by
    simp [graphSection, graphLines, Section.lines, Line.text, header, dotted, get,
      SettingValue.written]
  have hsync : syncSection s.sync = syncLines.lines.flatMap (Line.text s) := by
    simp [syncSection_eq, syncLines, Section.lines, Line.text, header, dotted, get,
      SettingValue.written]
  have hretry : retrySection s.sync.retry = retryLines.lines.flatMap (Line.text s) := by
    simp [retrySection, retryLines, Section.lines, Line.text, header, dotted, get,
      SettingValue.written]
  simp [document, layout, hsource, hgraph, hsync, hretry, Line.text]

/-! ### Characters of the text -/

/-- No control character. -/
def IsPrinted (c : Char) : Prop :=
  0x20 ≤ c.toNat ∧ c.toNat ≠ 0x7f

instance : DecidablePred IsPrinted := fun _ =>
  inferInstanceAs (Decidable (_ ∧ _))

lemma isPrinted_of_isDigit {c : Char} (h : c.isDigit) : IsPrinted c := by
  have hrange := Char.isDigit_iff_toNat.mp h
  have hzero : '0'.toNat = 48 := rfl
  have hnine : '9'.toNat = 57 := rfl
  exact ⟨by omega, by omega⟩

lemma isPrinted_of_between {c low high : Char} (hge : low.toNat ≤ c.toNat)
    (hle : c.toNat ≤ high.toNat) (hlow : 0x20 ≤ low.toNat) (hhigh : high.toNat < 0x7f) :
    IsPrinted c :=
  ⟨by omega, by omega⟩

lemma isPrinted_of_isAlpha {c : Char} (h : c.isAlpha) : IsPrinted c := by
  rcases (Bool.or_eq_true _ _).mp h with hupper | hlower
  · have hrange : 'A'.toNat ≤ c.toNat ∧ c.toNat ≤ 'Z'.toNat := of_decide_eq_true hupper
    exact isPrinted_of_between hrange.1 hrange.2 (by decide) (by decide)
  · obtain ⟨hge, hle⟩ := (Bool.and_eq_true _ _).mp hlower
    have hge : 'a'.toNat ≤ c.toNat := of_decide_eq_true hge
    have hle : c.toNat ≤ 'z'.toNat := of_decide_eq_true hle
    exact isPrinted_of_between hge hle (by decide) (by decide)

lemma isPrinted_of_isBare {c : Char} (h : isBare c) : IsPrinted c := by
  simp only [isBare, Char.isAlphanum, Bool.or_eq_true, beq_iff_eq] at h
  rcases h with ((halpha | hdigit) | rfl) | rfl
  · exact isPrinted_of_isAlpha halpha
  · exact isPrinted_of_isDigit hdigit
  · decide
  · decide

lemma isPrinted_hexDigit {n : Nat} (h : n < 16) : IsPrinted (hexDigit n) := by
  have hall : ∀ n < 16, IsPrinted (hexDigit n) := by decide
  exact hall n h

lemma isPrinted_of_mem_escaped {c d : Char} (h : d ∈ escaped c) : IsPrinted d := by
  unfold escaped at h
  split_ifs at h with hquote hbackslash hcontrol
  all_goals simp only [List.mem_cons, List.not_mem_nil, or_false] at h
  · rcases h with rfl | rfl
    · decide
    · decide
  · rcases h with rfl | rfl
    · decide
    · decide
  · rcases h with rfl | rfl | rfl | rfl | rfl | rfl
    any_goals decide
    · exact isPrinted_hexDigit (by omega)
    · exact isPrinted_hexDigit (by omega)
  · subst h
    exact ⟨by omega, by omega⟩

lemma isPrinted_of_mem_textValue {s : String} {c : Char} (h : c ∈ textValue s) : IsPrinted c := by
  simp only [textValue, List.cons_append, List.mem_cons, List.mem_append, List.mem_flatMap,
    List.not_mem_nil, or_false] at h
  rcases h with rfl | ⟨d, -, h⟩ | rfl
  · decide
  · exact isPrinted_of_mem_escaped h
  · decide

lemma isPrinted_of_mem_written {x : SettingValue} {c : Char} (h : c ∈ x.written) : IsPrinted c := by
  cases x with
  | number n => exact isPrinted_of_isDigit (Text.isDigit_of_mem_digits h)
  | _ => exact isPrinted_of_mem_textValue h

lemma isPrinted_of_mem_dotted {names : List String} (h : ∀ name ∈ names, IsBareKey name) {c : Char}
    (hc : c ∈ dotted names) : IsPrinted c := by
  induction names with
  | nil => cases hc
  | cons name names ih =>
    obtain ⟨hname, hnames⟩ := List.forall_mem_cons.mp h
    cases names with
    | nil => exact isPrinted_of_isBare (hname.of_mem c hc)
    | cons name' names =>
      rw [dotted_cons_cons, List.mem_append, List.mem_cons] at hc
      rcases hc with hc | rfl | hc
      · exact isPrinted_of_isBare (hname.of_mem c hc)
      · decide
      · exact ih hnames hc

/-- A line ends with its only control character. -/
lemma Line.text_eq {l : Line} (h : l.Regular) (s : Settings) :
    ∃ body, l.text s = body ++ ['\n'] ∧ ∀ c ∈ body, IsPrinted c := by
  cases l with
  | blank => exact ⟨[], rfl, by simp⟩
  | header path key =>
    refine ⟨'[' :: (dotted (path ++ [key]) ++ [']']), by simp [text], ?_⟩
    simp only [List.mem_cons, List.mem_append, List.not_mem_nil, or_false]
    rintro c (rfl | hc | rfl)
    · decide
    · exact isPrinted_of_mem_dotted h.1 hc
    · decide
  | setting name f =>
    have hequals : " = ".toList = [' ', '=', ' '] := rfl
    refine ⟨name.toList ++ " = ".toList ++ (s.get f).written, rfl, ?_⟩
    simp only [hequals, List.mem_append, List.mem_cons, List.not_mem_nil, or_false]
    rintro c ((hc | rfl | rfl | rfl) | hc)
    · exact isPrinted_of_isBare (IsBareKey.of_mem h c hc)
    · decide
    · decide
    · decide
    · exact isPrinted_of_mem_written hc

section

variable {ls : List Line} (h : ∀ l ∈ ls, l.Regular) (s : Settings)

include h

lemma isPrinted_of_mem_flatMap {c : Char} (hc : c ∈ ls.flatMap (Line.text s)) :
    c = '\n' ∨ IsPrinted c := by
  obtain ⟨l, hl, hc⟩ := List.mem_flatMap.mp hc
  obtain ⟨body, htext, hbody⟩ := Line.text_eq (h l hl) s
  rw [htext, List.mem_append, List.mem_singleton] at hc
  rcases hc with hc | hc
  · exact .inr (hbody c hc)
  · exact .inl hc

lemma count_flatMap : (ls.flatMap (Line.text s)).count '\n' = ls.length := by
  induction ls with
  | nil => rfl
  | cons l ls ih =>
    obtain ⟨hl, hls⟩ := List.forall_mem_cons.mp h
    obtain ⟨body, htext, hbody⟩ := Line.text_eq hl s
    have hnone : body.count '\n' = 0 := by
      refine List.count_eq_zero.mpr fun hmem => ?_
      have := hbody _ hmem
      revert this
      decide
    rw [List.flatMap_cons, htext, List.count_append, List.count_append, hnone, ih hls,
      List.length_cons]
    simp [Nat.add_comm]

end

/-! ### Reading the lines -/

lemma lines?_flatMap {ls : List Line} (h : ∀ l ∈ ls, l.Regular) (s : Settings) {fuel : Nat}
    (hfuel : ls.length < fuel) (d : Draft) :
    lines? fuel d (ls.flatMap (Line.text s)) =
      ls.foldlM (Line.enter? fun f => (s.get f).value?) d := by
  induction ls generalizing fuel d with
  | nil =>
    obtain ⟨fuel, rfl⟩ := Nat.exists_eq_add_of_lt hfuel
    rfl
  | cons l ls ih =>
    obtain ⟨fuel, rfl⟩ := Nat.exists_eq_add_of_lt hfuel
    obtain ⟨hl, hls⟩ := List.forall_mem_cons.mp h
    rw [List.flatMap_cons, Line.lines?_text hl, List.foldlM_cons]
    exact bind_congr fun d => ih hls (by rw [List.length_cons]; omega) d

/-! ### The document -/

/-- Going down a path leads to the members of a table in the given surroundings. -/
def Context (path : List String) (around : Entries → Entries) : Prop :=
  ∀ f es, Entries.descend? .parent f path .header (around es) = (f .header es).map around

lemma context_nil : Context [] id := by
  intro f es
  simp [Entries.descend?]

lemma descend?_append (missing : Origin) (f : Origin → Entries → Option Entries)
    (path path' : List String) (origin : Origin) (es : Entries) :
    Entries.descend? missing f (path ++ path') origin es =
      Entries.descend? missing (Entries.descend? missing f path') path origin es := by
  induction path generalizing origin es with
  | nil => rfl
  | cons key path ih => simp only [List.cons_append, Entries.descend?, ih]

section

variable {es : Entries} {key : String}

lemma lookup_concat (h : es.lookup key = none) (v : Value) :
    (es ++ [(key, v)]).lookup key = some v := by
  rw [List.lookup_append, h, List.lookup_cons_self]
  rfl

lemma replace_concat (h : es.lookup key = none) (v w : Value) :
    Entries.replace key w (es ++ [(key, v)]) = es ++ [(key, w)] := by
  have hother : ∀ e ∈ es, (if e.1 = key then (key, w) else e) = e := by
    intro e he
    have hne := List.lookup_eq_none_iff.mp h e he
    rw [if_neg]
    rintro rfl
    simp at hne
  rw [Entries.replace, List.map_append, List.map_congr_left hother]
  simp

end

namespace Context

variable {path : List String} {around : Entries → Entries} {es : Entries} {key : String}

lemma inside (h : Context path around) (hkey : es.lookup key = none) :
    Context (path ++ [key]) fun inner => around (es ++ [(key, .table .header inner)]) := by
  intro f inner
  rw [descend?_append, h]
  simp only [Entries.descend?, lookup_concat hkey, replace_concat hkey]
  cases f .header inner with
  | none => rfl
  | some inner => rfl

lemma add? (h : Context path around) (hkey : es.lookup key = none) (v : Value) :
    Draft.add? ⟨around es, path⟩ [] key v = some ⟨around (es ++ [(key, v)]), path⟩ := by
  have hadd : Entries.insert? [] key v es = some (es ++ [(key, v)]) := by
    simp [Entries.insert?, Entries.descend?, Entries.add?, hkey]
  rw [Draft.add?, h, hadd]
  rfl

lemma openTable? (h : Context path around) (hkey : es.lookup key = none) (current : List String) :
    Draft.openTable? ⟨around es, current⟩ path key =
      some ⟨around (es ++ [(key, .table .header [])]), path ++ [key]⟩ := by
  rw [Draft.openTable?, Entries.openTable?, h]
  simp [hkey]

/-- The settings under a header come one after another to the end of its table. -/
lemma foldlM_settings (h : Context path around) (value : Field → Value)
    {settings : List (String × Field)} (hnew : (es.map Prod.fst ++ settings.map Prod.fst).Nodup) :
    (settings.map fun (name, f) => Line.setting name f).foldlM
        (Line.enter? fun f => some (value f)) ⟨around es, path⟩ =
      some ⟨around (es ++ settings.map fun (name, f) => (name, value f)), path⟩ := by
  induction settings generalizing es with
  | nil => simp
  | cons setting settings ih =>
    obtain ⟨name, f⟩ := setting
    have hname : es.lookup name = none := by
      have hdisjoint := List.disjoint_of_nodup_append hnew
      refine List.lookup_eq_none_iff.mpr fun e he => bne_iff_ne.mpr ?_
      rintro rfl
      exact hdisjoint (List.mem_map_of_mem he) (by simp)
    rw [List.map_cons, List.foldlM_cons]
    show (Draft.add? ⟨around es, path⟩ [] name (value f)).bind _ = _
    rw [h.add? hname]
    show List.foldlM _ _ _ = _
    rw [ih (by simpa using hnew)]
    simp

lemma foldlM_lines (c : Section) (h : Context c.path around) (hkey : es.lookup c.key = none)
    (hnew : (c.settings.map Prod.fst).Nodup) (value : Field → Value) (current : List String) :
    c.lines.foldlM (Line.enter? fun f => some (value f)) ⟨around es, current⟩ =
      some ⟨around (es ++ [(c.key, .table .header (c.members value))]), c.path ++ [c.key]⟩ := by
  rw [Section.lines, List.foldlM_cons]
  show (Draft.openTable? _ _ _).bind _ = _
  rw [h.openTable? hkey]
  show List.foldlM _ _ _ = _
  exact (h.inside hkey).foldlM_settings value hnew

end Context

/-- The document of a settings file, with the given values. -/
def tree (value : Field → Value) : Entries :=
  [("postgres", .table .header (sourceLines.members value)),
    ("graph", .table .header (graphLines.members value)),
    ("sync", .table .header
      (syncLines.members value ++ [("retry", .table .header (retryLines.members value))]))]

lemma foldlM_append_blank {values : Field → Option Value} {ls ls' : List Line} {d d' d'' : Draft}
    (h : ls.foldlM (Line.enter? values) d = some d')
    (h' : ls'.foldlM (Line.enter? values) d' = some d'') :
    (ls ++ .blank :: ls').foldlM (Line.enter? values) d = some d'' := by
  rw [List.foldlM_append, h]
  exact h'

lemma foldlM_layout (value : Field → Value) :
    layout.foldlM (Line.enter? fun f => some (value f)) {} =
      some ⟨tree value, ["sync", "retry"]⟩ := by
  have hnone : List.lookup "postgres" ([] : Entries) = none := rfl
  have hsource : List.lookup "graph"
      [("postgres", Value.table .header (sourceLines.members value))] = none := rfl
  have hstores : List.lookup "sync" [("postgres", Value.table .header (sourceLines.members value)),
      ("graph", .table .header (graphLines.members value))] = none := rfl
  have hmode : (syncLines.members value).lookup "retry" = none := rfl
  have h₁ := context_nil.foldlM_lines sourceLines hnone (by decide) value []
  have h₂ := context_nil.foldlM_lines graphLines hsource (by decide) value ["postgres"]
  have h₃ := context_nil.foldlM_lines syncLines hstores (by decide) value ["graph"]
  have h₄ := (context_nil.inside hstores).foldlM_lines retryLines hmode (by decide) value ["sync"]
  exact foldlM_append_blank (foldlM_append_blank (foldlM_append_blank h₁ h₂) h₃) h₄

lemma foldlM_eq_none {values : Field → Option Value} {ls : List Line} {name : String} {f : Field}
    (hmem : .setting name f ∈ ls) (hf : values f = none) (d : Draft) :
    ls.foldlM (Line.enter? values) d = none := by
  induction ls generalizing d with
  | nil => cases hmem
  | cons l ls ih =>
    rw [List.foldlM_cons]
    rcases List.mem_cons.mp hmem with rfl | hmem
    · rw [Line.enter?, hf]
      rfl
    · cases l.enter? values d with
      | none => rfl
      | some d => exact ih hmem d

/-! ### The settings -/

/-- A setting as a value of a document. -/
def SettingValue.value : SettingValue → Value
  | text s => .string s
  | number n => .integer n
  | mode m => .string (modeName m)

lemma readString_string (s : String) : readString (.string s) = .ok s :=
  rfl

lemma readWord_natCast {bound n : Nat} (h : n < bound) (expected : Expected) :
    readWord expected bound (.integer n) = .ok n := by
  simp [readWord, h]

lemma readWord16_toNat (w : UInt16) : readWord16 (.integer w.toNat) = .ok w := by
  rw [readWord16, readWord_natCast w.toNat_lt]
  exact congrArg Except.ok UInt16.ofNat_toNat

lemma readWord32_toNat (w : UInt32) : readWord32 (.integer w.toNat) = .ok w := by
  rw [readWord32, readWord_natCast w.toNat_lt]
  exact congrArg Except.ok UInt32.ofNat_toNat

lemma readWord64_toNat (w : UInt64) : readWord64 (.integer w.toNat) = .ok w := by
  rw [readWord64, readWord_natCast w.toNat_lt]
  exact congrArg Except.ok UInt64.ofNat_toNat

lemma readMode_modeName (m : Sync.FailureMode) : readMode (.string (modeName m)) = .ok m := by
  cases m <;> rfl

/-- Reading goes over a member that can be read. -/
lemma readEntries_cons {α β : Type} {c : Schema α} {a : α} {key : String} {v : Value} {es : Entries}
    {read : Value → Except SchemaFault β} {set : α → β → α} {b : β}
    (hkey : c.members.lookup key = some fun v a => set a <$> read v) (hv : read v = .ok b) :
    c.readEntries a ((key, v) :: es) = c.readEntries (set a b) es := by
  rw [Schema.readEntries, List.foldlM_cons]
  simp only [hkey, hv]
  rfl

section

variable (s : Settings)

lemma read_sourceLines :
    sourceSchema.read {} (.table .header (sourceLines.members fun f => (s.get f).value)) =
      .ok s.source :=
  (readEntries_cons rfl (readString_string _)).trans <|
  (readEntries_cons rfl (readWord16_toNat _)).trans <|
  (readEntries_cons rfl (readString_string _)).trans <|
  (readEntries_cons rfl (readString_string _)).trans <|
  (readEntries_cons rfl (readString_string _)).trans rfl

lemma read_graphLines :
    graphSchema.read {} (.table .header (graphLines.members fun f => (s.get f).value)) =
      .ok s.graph :=
  (readEntries_cons rfl (readString_string _)).trans <|
  (readEntries_cons rfl (readString_string _)).trans <|
  (readEntries_cons rfl (readString_string _)).trans <|
  (readEntries_cons rfl (readString_string _)).trans rfl

lemma read_retryLines :
    retrySchema.read {} (.table .header (retryLines.members fun f => (s.get f).value)) =
      .ok s.sync.retry :=
  (readEntries_cons rfl (readWord32_toNat _)).trans <|
  (readEntries_cons rfl (readWord64_toNat _)).trans <|
  (readEntries_cons rfl (readWord64_toNat _)).trans rfl

lemma read_syncLines :
    syncSchema.read {} (.table .header (syncLines.members (fun f => (s.get f).value) ++
      [("retry", .table .header (retryLines.members fun f => (s.get f).value))])) = .ok s.sync :=
  (readEntries_cons rfl (readMode_modeName _)).trans <|
  (readEntries_cons rfl (read_retryLines s)).trans rfl

lemma ofEntries_tree : ofEntries (tree fun f => (s.get f).value) = .ok s :=
  (readEntries_cons rfl (read_sourceLines s)).trans <|
  (readEntries_cons rfl (read_graphLines s)).trans <|
  (readEntries_cons rfl (read_syncLines s)).trans rfl

end

lemma fits?_natCast (n : Nat) :
    fits? n = if (n : Int) ≤ Int64.maxValue.toInt then some (n : Int) else none := by
  have hmin : Int64.minValue.toInt = -9223372036854775808 := rfl
  have hiff : (Int64.minValue.toInt ≤ (n : Int) ∧ (n : Int) ≤ Int64.maxValue.toInt) ↔
      (n : Int) ≤ Int64.maxValue.toInt := by omega
  rw [fits?, if_congr hiff rfl rfl]

/-- Numbers other than the backoffs have too few bits to be too great. -/
lemma value?_get {s : Settings}
    (hinitial : s.sync.retry.initialBackoff.toNat ≤ Int64.maxValue.toInt)
    (hmax : s.sync.retry.maxBackoff.toNat ≤ Int64.maxValue.toInt) (f : Field) :
    (s.get f).value? = some (s.get f).value := by
  have hnumber {n : Nat} (h : (n : Int) ≤ Int64.maxValue.toInt) :
      (SettingValue.number n).value? = some (SettingValue.number n).value := by
    rw [SettingValue.value?, fits?_natCast, if_pos h]
    rfl
  have hgreat : Int64.maxValue.toInt = 9223372036854775807 := rfl
  have hport := s.source.port.toNat_lt
  have hattempts := s.sync.retry.maxAttempts.toNat_lt
  cases f with
  | sourcePort => exact hnumber (by omega)
  | maxAttempts => exact hnumber (by omega)
  | initialBackoff => exact hnumber hinitial
  | maxBackoff => exact hnumber hmax
  | _ => rfl

lemma value?_of_gt {n : Nat} (h : Int64.maxValue.toInt < n) :
    (SettingValue.number n).value? = none := by
  rw [SettingValue.value?, fits?_natCast, if_neg (by omega)]
  rfl

lemma parse?_document (s : Settings) :
    parse? (String.ofList s.document) =
      (layout.foldlM (Line.enter? fun f => (s.get f).value?) {}).map (·.entries) := by
  have hmark : dropMark s.document = s.document := rfl
  have hlength : layout.length < s.document.length + 1 := by
    have hcount : s.document.count '\n' ≤ s.document.length := List.count_le_length
    rw [document_eq, count_flatMap regular_layout] at hcount
    rw [document_eq]
    omega
  have hlines := lines?_flatMap regular_layout s hlength {}
  rw [← document_eq] at hlines
  rw [parse?, String.toList_ofList, hmark, hlines]

/-- Settings that are written to a file are read back from it, unless a backoff is greater than any
integer of TOML: then the text is refused. It has a line for each setting, four headers and three
empty lines, and no control character but the ends of its lines. -/
theorem ofText_document (s : Settings) :
    (ofText (String.ofList s.document) =
      if s.sync.retry.initialBackoff.toNat ≤ Int64.maxValue.toInt ∧
          s.sync.retry.maxBackoff.toNat ≤ Int64.maxValue.toInt then .ok s
      else .error .syntaxFault) ∧
    s.document.count '\n' = 20 ∧
    ∀ c ∈ s.document, c = '\n' ∨ 0x20 ≤ c.toNat ∧ c.toNat ≠ 0x7f := by
  refine ⟨?_, ?_, fun c hc => ?_⟩
  · rw [ofText, parse?_document]
    split_ifs with h
    · rw [funext (value?_get h.1 h.2), foldlM_layout, Option.map_some]
      dsimp only
      rw [ofEntries_tree]
      rfl
    · -- reading stops at the line of the number that is too great
      have hnone : layout.foldlM (Line.enter? fun f => (s.get f).value?) {} = none := by
        rcases not_and_or.mp h with h | h
        · have hmem : .setting "initial_backoff_ms" .initialBackoff ∈ layout := by
            simp [layout, retryLines, Section.lines]
          exact foldlM_eq_none hmem (value?_of_gt (Int.not_le.mp h)) _
        · have hmem : .setting "max_backoff_ms" .maxBackoff ∈ layout := by
            simp [layout, retryLines, Section.lines]
          exact foldlM_eq_none hmem (value?_of_gt (Int.not_le.mp h)) _
      rw [hnone]
      rfl
  · rw [document_eq, count_flatMap regular_layout]
    rfl
  · rw [document_eq] at hc
    exact isPrinted_of_mem_flatMap regular_layout s hc

example : String.ofList (retrySection { initialBackoff := 150 }) =
    "[sync.retry]\nmax_attempts = 3\ninitial_backoff_ms = 150\nmax_backoff_ms = 5000\n" := by
  decide +kernel

end Backfill.Settings
