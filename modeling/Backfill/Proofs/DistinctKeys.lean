import Mathlib.Data.List.Nodup
import Backfill.Toml.Document

/-!
# Distinct keys

No table of a document has a key twice, however deep it lies. Whatever adds a member to a table
refuses a key that is there already, so that reading keeps this from one line to the next.
-/

namespace Backfill.Toml

/-- The keys of each table in a value are distinct. -/
inductive Value.Distinct : Value → Prop
  | string (s : String) : Distinct (.string s)
  | integer (n : Int) : Distinct (.integer n)
  | float (x : Decimal.Binary64) : Distinct (.float x)
  | boolean (b : Bool) : Distinct (.boolean b)
  | dateTime (text : String) : Distinct (.dateTime text)
  | array {items : List Value} (h : ∀ v ∈ items, Distinct v) : Distinct (.array items)
  | table (origin : Origin) {entries : List (String × Value)}
      (hkeys : (entries.map Prod.fst).Nodup) (h : ∀ e ∈ entries, Distinct e.2) :
      Distinct (.table origin entries)
  | tables {elements : List (List (String × Value))}
      (hkeys : ∀ es ∈ elements, (es.map Prod.fst).Nodup)
      (h : ∀ es ∈ elements, ∀ e ∈ es, Distinct e.2) : Distinct (.tables elements)

namespace Entries

/-- The keys of a table are distinct, and those of each table in it. -/
structure Distinct (es : Entries) : Prop where
  keys : (es.map Prod.fst).Nodup
  values : ∀ e ∈ es, e.2.Distinct

end Entries

lemma Value.distinct_table {origin : Origin} {es : Entries} :
    (Value.table origin es).Distinct ↔ es.Distinct := by
  constructor
  · rintro ⟨⟩
    exact ⟨‹_›, ‹_›⟩
  · intro h
    exact .table origin h.keys h.values

lemma Value.distinct_tables {elements : List Entries} :
    (Value.tables elements).Distinct ↔ ∀ es ∈ elements, Entries.Distinct es := by
  constructor
  · rintro ⟨⟩ es hes
    rename_i hkeys h
    exact ⟨hkeys es hes, h es hes⟩
  · intro h
    exact .tables (fun es hes => (h es hes).keys) fun es hes => (h es hes).values

/-! ### Changing the members of a table -/

namespace Entries

variable {es es' : Entries} {key : String} {v : Value}

lemma distinct_nil : Distinct [] :=
  ⟨List.nodup_nil, by simp⟩

lemma Distinct.concat (h : es.Distinct) (hkey : es.lookup key = none) (hv : v.Distinct) :
    Distinct (es ++ [(key, v)]) := by
  have hnew : key ∉ es.map Prod.fst := by
    simp only [List.mem_map, not_exists, not_and]
    intro e he hkey'
    have := List.lookup_eq_none_iff.mp hkey e he
    simp [hkey'] at this
  refine ⟨?_, ?_⟩
  · rw [List.map_append]
    exact List.nodup_append.mpr ⟨h.keys, List.nodup_singleton key, by
      rintro a ha b hb rfl
      simp only [List.map_cons, List.map_nil, List.mem_singleton] at hb
      exact hnew (hb ▸ ha)⟩
  · intro e he
    rcases List.mem_append.mp he with he | he
    · exact h.values e he
    · rw [List.mem_singleton.mp he]
      exact hv

lemma map_fst_replace (key : String) (v : Value) (es : Entries) :
    (es.replace key v).map Prod.fst = es.map Prod.fst := by
  simp only [replace, List.map_map]
  refine List.map_congr_left fun e _ => ?_
  by_cases h : e.1 = key <;> simp [h]

lemma Distinct.replace (h : es.Distinct) (hv : v.Distinct) : Distinct (es.replace key v) := by
  refine ⟨(map_fst_replace key v es).symm ▸ h.keys, ?_⟩
  intro e' he'
  obtain ⟨e, he, rfl⟩ := List.mem_map.mp he'
  by_cases hkey : e.1 = key
  · simpa [hkey] using hv
  · simpa [hkey] using h.values e he

lemma Distinct.remove (h : es.Distinct) : Distinct (es.remove key) :=
  ⟨(List.filter_sublist.map Prod.fst).nodup h.keys,
    fun e he => h.values e (List.mem_of_mem_filter he)⟩

lemma lookup_remove_self : (es.remove key).lookup key = none := by
  refine List.lookup_eq_none_iff.mpr fun e he => ?_
  have hne : e.1 ≠ key := of_decide_eq_true (List.mem_filter.mp he).2
  exact bne_iff_ne.mpr hne.symm

lemma Distinct.of_lookup (h : es.Distinct) (hkey : es.lookup key = some v) : v.Distinct := by
  obtain ⟨_, _, rfl, -⟩ := List.lookup_eq_some_iff.mp hkey
  exact h.values (key, v) (by simp)

lemma Distinct.add? (h : es.Distinct) (hv : v.Distinct) (hadd : es.add? key v = some es') :
    es'.Distinct := by
  unfold Entries.add? at hadd
  split_ifs at hadd with hkey
  cases hadd
  exact h.concat (Option.not_isSome_iff_eq_none.mp hkey) hv

/-- A change at the end of a path that keeps keys distinct there keeps them distinct. -/
lemma Distinct.descend? {missing : Origin} {f : Origin → Entries → Option Entries}
    (hf : ∀ origin es es', Distinct es → f origin es = some es' → Distinct es')
    {path : List String} {origin : Origin} (h : es.Distinct)
    (hdescend : descend? missing f path origin es = some es') : es'.Distinct := by
  induction path generalizing origin es es' with
  | nil => exact hf origin es es' h hdescend
  | cons key path ih =>
    rw [Entries.descend?] at hdescend
    split at hdescend
    · rename_i hkey
      obtain ⟨inner, hinner, hes'⟩ := Option.bind_eq_some_iff.mp hdescend
      cases hes'
      exact h.concat hkey (Value.distinct_table.mpr (ih distinct_nil hinner))
    · rename_i origin' inner hkey
      split_ifs at hdescend
      obtain ⟨inner', hinner, hes'⟩ := Option.bind_eq_some_iff.mp hdescend
      cases hes'
      have hd := Value.distinct_table.mp (h.of_lookup hkey)
      exact h.replace (Value.distinct_table.mpr (ih hd hinner))
    · -- in an array of tables the path goes into the last one, and the others stay
      rename_i elements hkey
      split at hdescend
      · cases hdescend
      · rename_i last before hreverse
        obtain ⟨last', hlast, hes'⟩ := Option.bind_eq_some_iff.mp hdescend
        cases hes'
        have hd := Value.distinct_tables.mp (h.of_lookup hkey)
        have hmem (es : Entries) : es ∈ elements ↔ es = last ∨ es ∈ before := by
          rw [← List.mem_reverse, hreverse, List.mem_cons]
        refine h.replace (Value.distinct_tables.mpr fun es hes => ?_)
        rcases List.mem_cons.mp (List.mem_reverse.mp hes) with rfl | hes
        · exact ih (hd last ((hmem last).mpr (.inl rfl))) hlast
        · exact hd es ((hmem es).mpr (.inr hes))
    · cases hdescend

lemma Distinct.insert? {path : List String} (h : es.Distinct) (hv : v.Distinct)
    (hinsert : es.insert? path key v = some es') : es'.Distinct := by
  refine h.descend? (fun origin inner inner' hd hf => ?_) hinsert
  split_ifs at hf
  exact hd.add? hv hf

lemma Distinct.openTable? {path : List String} (h : es.Distinct)
    (hopen : es.openTable? path key = some es') : es'.Distinct := by
  refine h.descend? (fun origin inner inner' hd hf => ?_) hopen
  split at hf
  · rename_i hkey
    cases hf
    exact hd.concat hkey (Value.distinct_table.mpr distinct_nil)
  · rename_i members hkey
    cases hf
    exact hd.remove.concat lookup_remove_self
      (Value.distinct_table.mpr (Value.distinct_table.mp (hd.of_lookup hkey)))
  · cases hf

lemma Distinct.openElement? {path : List String} (h : es.Distinct)
    (hopen : es.openElement? path key = some es') : es'.Distinct := by
  refine h.descend? (fun origin inner inner' hd hf => ?_) hopen
  split at hf
  · rename_i hkey
    cases hf
    exact hd.concat hkey (Value.distinct_tables.mpr (by simp [distinct_nil]))
  · rename_i elements hkey
    cases hf
    have helements := Value.distinct_tables.mp (hd.of_lookup hkey)
    refine hd.replace (Value.distinct_tables.mpr fun es hes => ?_)
    rcases List.mem_append.mp hes with hes | hes
    · exact helements es hes
    · rw [List.mem_singleton.mp hes]
      exact distinct_nil
  · cases hf

end Entries

/-! ### Values -/

lemma scalar?_distinct {cs rest : List Char} {v : Value} (h : scalar? cs = some (v, rest)) :
    v.Distinct := by
  unfold scalar? at h
  split at h
  · cases h
    exact .boolean true
  · cases h
    exact .boolean false
  · simp only [Option.orElse_eq_orElse, Option.orElse_eq_or, Option.or_eq_some_iff,
      Option.map_eq_some_iff, Prod.mk.injEq] at h
    obtain ⟨s, -, rfl, -⟩ | ⟨-, ⟨t, -, rfl, -⟩ | ⟨-, ⟨x, -, rfl, -⟩ | ⟨-, ⟨x, -, rfl, -⟩ |
      ⟨-, n, -, rfl, -⟩⟩⟩⟩ := h
    · exact .string _
    · exact .dateTime _
    · exact .float _
    · exact .float _
    · exact .integer _

lemma elements?_distinct {value? : Reader Value}
    (hvalue : ∀ cs v rest, value? cs = some (v, rest) → v.Distinct) {fuel : Nat}
    {cs rest : List Char} {vs : List Value} (h : elements? value? fuel cs = some (vs, rest)) :
    ∀ v ∈ vs, v.Distinct := by
  induction fuel generalizing cs vs with
  | zero => cases h
  | succ fuel ih =>
    rw [elements?] at h
    obtain ⟨cs', -, h⟩ := Option.bind_eq_some_iff.mp h
    split at h
    · cases h
      simp
    · obtain ⟨⟨v, rest'⟩, hv, h⟩ := Option.bind_eq_some_iff.mp h
      obtain ⟨cs'', -, h⟩ := Option.bind_eq_some_iff.mp h
      split at h
      · obtain ⟨⟨vs', rest''⟩, hvs, h⟩ := Option.bind_eq_some_iff.mp h
        cases h
        exact List.forall_mem_cons.mpr ⟨hvalue _ _ _ hv, ih hvs⟩
      · cases h
        exact List.forall_mem_singleton.mpr (hvalue _ _ _ hv)
      · cases h

lemma of_pair? {value? : Reader Value} {cs rest : List Char} {path : List String} {key : String}
    {v : Value} (h : pair? value? cs = some (((path, key), v), rest)) :
    ∃ cs', value? cs' = some (v, rest) := by
  obtain ⟨⟨key', rest'⟩, -, h⟩ := Option.bind_eq_some_iff.mp h
  obtain ⟨cs', -, h⟩ := Option.bind_eq_some_iff.mp h
  obtain ⟨⟨v', rest''⟩, hv, h⟩ := Option.bind_eq_some_iff.mp h
  cases h
  exact ⟨_, hv⟩

lemma members?_distinct {value? : Reader Value}
    (hvalue : ∀ cs v rest, value? cs = some (v, rest) → v.Distinct) {fuel : Nat} {es es' : Entries}
    (hes : es.Distinct) {cs rest : List Char} (h : members? value? fuel es cs = some (es', rest)) :
    es'.Distinct := by
  induction fuel generalizing es cs with
  | zero => cases h
  | succ fuel ih =>
    rw [members?] at h
    obtain ⟨⟨⟨⟨path, key⟩, v⟩, rest'⟩, hpair, h⟩ := Option.bind_eq_some_iff.mp h
    obtain ⟨es₁, hinsert, h⟩ := Option.bind_eq_some_iff.mp h
    obtain ⟨cs', hv⟩ := of_pair? hpair
    have hes₁ : es₁.Distinct := hes.insert? (hvalue _ _ _ hv) hinsert
    split at h
    · exact ih hes₁ h
    · cases h
      exact hes₁
    · cases h

lemma value?_distinct {depth : Nat} {cs rest : List Char} {v : Value}
    (h : value? depth cs = some (v, rest)) : v.Distinct := by
  induction depth generalizing cs v rest with
  | zero => exact scalar?_distinct h
  | succ depth ih =>
    -- the values inside an array or a table are read one level deeper
    have hvalue : ∀ cs v rest, value? depth cs = some (v, rest) → v.Distinct := fun _ _ _ => ih
    unfold value? at h
    split at h
    · obtain ⟨⟨vs, rest'⟩, hvs, h⟩ := Option.map_eq_some_iff.mp h
      cases h
      exact .array (elements?_distinct hvalue hvs)
    · split at h
      · cases h
        exact Value.distinct_table.mpr Entries.distinct_nil
      · obtain ⟨⟨es, rest'⟩, hes, h⟩ := Option.map_eq_some_iff.mp h
        cases h
        exact Value.distinct_table.mpr (members?_distinct hvalue Entries.distinct_nil hes)
    · exact scalar?_distinct h

/-! ### Documents -/

namespace Draft

variable {d d' : Draft} {path : List String} {key : String} {v : Value}

lemma distinct_add? (hd : d.entries.Distinct) (hv : v.Distinct) (h : d.add? path key v = some d') :
    d'.entries.Distinct := by
  obtain ⟨es, hes, hd'⟩ := Option.bind_eq_some_iff.mp h
  cases hd'
  exact hd.descend? (fun _ _ _ hinner hinsert => hinner.insert? hv hinsert) hes

lemma distinct_openTable? (hd : d.entries.Distinct) (h : d.openTable? path key = some d') :
    d'.entries.Distinct := by
  obtain ⟨es, hes, hd'⟩ := Option.bind_eq_some_iff.mp h
  cases hd'
  exact hd.openTable? hes

lemma distinct_openElement? (hd : d.entries.Distinct) (h : d.openElement? path key = some d') :
    d'.entries.Distinct := by
  obtain ⟨es, hes, hd'⟩ := Option.bind_eq_some_iff.mp h
  cases hd'
  exact hd.openElement? hes

end Draft

lemma lines?_distinct {fuel : Nat} {d d' : Draft} (hd : d.entries.Distinct) {cs : List Char}
    (h : lines? fuel d cs = some d') : d'.entries.Distinct := by
  induction fuel generalizing d cs with
  | zero => cases h
  | succ fuel ih =>
    rw [lines?] at h
    split at h
    · cases h
      exact hd
    · -- the header of an element of an array of tables
      obtain ⟨⟨⟨path, key⟩, rest⟩, -, h⟩ := Option.bind_eq_some_iff.mp h
      obtain ⟨rest₁, -, h⟩ := Option.bind_eq_some_iff.mp h
      obtain ⟨rest₂, -, h⟩ := Option.bind_eq_some_iff.mp h
      obtain ⟨rest₃, -, h⟩ := Option.bind_eq_some_iff.mp h
      obtain ⟨d₁, hopen, h⟩ := Option.bind_eq_some_iff.mp h
      exact ih (Draft.distinct_openElement? hd hopen) h
    · -- the header of a table
      obtain ⟨⟨⟨path, key⟩, rest⟩, -, h⟩ := Option.bind_eq_some_iff.mp h
      obtain ⟨rest₁, -, h⟩ := Option.bind_eq_some_iff.mp h
      obtain ⟨rest₂, -, h⟩ := Option.bind_eq_some_iff.mp h
      obtain ⟨d₁, hopen, h⟩ := Option.bind_eq_some_iff.mp h
      exact ih (Draft.distinct_openTable? hd hopen) h
    · -- a line that is empty or holds a pair
      split_ifs at h
      · obtain ⟨rest₁, -, h⟩ := Option.bind_eq_some_iff.mp h
        exact ih hd h
      · obtain ⟨⟨⟨⟨path, key⟩, v⟩, rest₁⟩, hpair, h⟩ := Option.bind_eq_some_iff.mp h
        obtain ⟨rest₂, -, h⟩ := Option.bind_eq_some_iff.mp h
        obtain ⟨d₁, hadd, h⟩ := Option.bind_eq_some_iff.mp h
        obtain ⟨cs', hv⟩ := of_pair? hpair
        exact ih (Draft.distinct_add? hd (value?_distinct hv) hadd) h

/-- The keys of each table of a document are distinct. -/
theorem parse?_distinct {text : String} {es : Entries} (h : parse? text = some es) :
    es.Distinct := by
  obtain ⟨d, hlines, rfl⟩ := Option.map_eq_some_iff.mp h
  exact lines?_distinct Entries.distinct_nil hlines


end Backfill.Toml
