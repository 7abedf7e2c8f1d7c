import Mathlib.Data.List.Nodup
import Mathlib.Data.List.TakeWhile
import Backfill.Graph.Statement
import Backfill.Source.Decode

/-!
# Parameters of the write statement

The text of a write statement is made from the descriptor, its parameters are bound from the key of
the row. Both name the key fields and the property, and so every parameter that the text mentions is
bound, unless it is the label that mentions one.
-/

namespace Backfill

/-! ### Keys of decoded rows -/

namespace Source

lemma map_fst_of_decodeFields {row : ResultRow} {names : List String}
    {fields : List (String × String)} (h : decodeFields row names = .ok fields) :
    fields.map Prod.fst = names := by
  induction names generalizing fields with
  | nil =>
    cases h
    rfl
  | cons name names ih =>
    rw [decodeFields] at h
    split at h
    · cases h
    · next value hvalue =>
      cases hrest : decodeFields row names with
      | error e =>
        rw [hrest] at h
        cases h
      | ok rest =>
        rw [hrest] at h
        cases h
        rw [List.map_cons, ih hrest]

/-- The key of a decoded row has the key fields of the descriptor, in order. -/
lemma map_fst_of_decodeRow {d : Descriptor} {result : ResultRow} {row : Row}
    (h : decodeRow d result = .ok (some row)) : row.key.fields.map Prod.fst = d.keyFields := by
  cases hfields : decodeFields result d.keyFields with
  | error fault =>
    rw [decodeRow, hfields] at h
    cases h
  | ok fields =>
    rw [decodeRow, hfields] at h
    cases htime : decodeTime result d.property with
    | error fault =>
      rw [htime] at h
      cases h
    | ok micros =>
      rw [htime] at h
      obtain ⟨i, -, rfl⟩ := Option.map_eq_some_iff.mp (Except.ok.inj h)
      exact map_fst_of_decodeFields hfields

end Source

namespace Graph.Statement

/-! ### Names in a text -/

lemma mentioned_cons_of_ne {c : Char} (h : c ≠ '$') (cs : List Char) :
    mentioned (c :: cs) = mentioned cs :=
  if_neg h

/-- A name ends before a character that is in no name. -/
lemma mentioned_append {c : Char} (hc : isNameCharacter c = false) (xs ys : List Char) :
    mentioned (xs ++ c :: ys) = mentioned xs ++ mentioned (c :: ys) := by
  induction xs with
  | nil => rfl
  | cons x xs ih =>
    have hname : (xs ++ c :: ys).takeWhile isNameCharacter = xs.takeWhile isNameCharacter := by
      rw [List.takeWhile_append, List.takeWhile_cons_of_neg (by simp [hc]), List.append_nil]
      split_ifs with hall
      · exact ((List.takeWhile_prefix _).eq_of_length hall).symm
      · rfl
    by_cases hx : x = '$'
    · simp only [List.cons_append, mentioned, if_pos hx, ih, hname]
    · rw [List.cons_append, mentioned_cons_of_ne hx, mentioned_cons_of_ne hx, ih]

lemma mentioned_append_of_notMem {xs : List Char} (h : '$' ∉ xs) (ys : List Char) :
    mentioned (xs ++ ys) = mentioned ys := by
  induction xs with
  | nil => rfl
  | cons x xs ih =>
    rw [List.mem_cons, not_or] at h
    rw [List.cons_append, mentioned_cons_of_ne (Ne.symm h.1), ih h.2]

lemma mentioned_of_notMem {xs : List Char} (h : '$' ∉ xs) : mentioned xs = [] := by
  have hnil := mentioned_append_of_notMem h []
  rwa [List.append_nil] at hnil

/-- Text in front that has no dollar sign mentions nothing. -/
lemma mentioned_skip {s : String} (h : '$' ∉ s.toList) (t : String) :
    mentioned (s ++ t).toList = mentioned t.toList := by
  rw [String.toList_append, mentioned_append_of_notMem h]

/-- A text can be cut where a part begins with a character that is in no name. -/
lemma mentioned_cut (s : String) {t : String} (h : t.toList.head?.any fun c => !isNameCharacter c)
    (u : String) :
    mentioned (s ++ (t ++ u)).toList = mentioned s.toList ++ mentioned (t ++ u).toList := by
  cases ht : t.toList with
  | nil => simp [ht] at h
  | cons c cs =>
    have hc : isNameCharacter c = false := by simpa [ht] using h
    rw [String.toList_append, String.toList_append, ht, List.cons_append, mentioned_append hc]

/-- A text of which all characters can stand in a name. -/
def IsName (name : String) : Prop :=
  name.toList.all isNameCharacter

instance (name : String) : Decidable (IsName name) :=
  inferInstanceAs (Decidable (_ = true))

lemma IsName.dollar_notMem {name : String} (h : IsName name) : '$' ∉ name.toList := by
  intro hmem
  have hdollar : isNameCharacter '$' = false := by decide +kernel
  rw [List.all_eq_true.mp h _ hmem] at hdollar
  cases hdollar

lemma IsName.mentioned_dollar {name : String} (h : IsName name) :
    mentioned ("$" ++ name).toList = [name] := by
  have hall : name.toList.takeWhile isNameCharacter = name.toList :=
    List.takeWhile_eq_self_iff.mpr (List.all_eq_true.mp h)
  have hname : ("$" ++ name).toList = '$' :: name.toList := String.toList_append
  rw [hname, mentioned, if_pos rfl, hall, String.ofList_toList, mentioned_of_notMem h.dollar_notMem]

/-! ### Names in the write statement -/

/-- A key field of the pattern, and its parameter. -/
lemma IsName.mentioned_field {field : String} (h : IsName field) :
    mentioned (field ++ ": $" ++ field).toList = [field] := by
  have hcolon : ": $" = ": " ++ "$" := by decide
  rw [hcolon, String.append_assoc, String.append_assoc, mentioned_skip h.dollar_notMem,
    mentioned_skip (by decide), h.mentioned_dollar]

/-- The pattern of a node mentions its fields, each one once and in order. -/
lemma mentioned_pattern {fields : List String} (h : ∀ field ∈ fields, IsName field) :
    mentioned (", ".intercalate (fields.map fun field => field ++ ": $" ++ field)).toList =
      fields := by
  induction fields with
  | nil => rfl
  | cons field fields ih =>
    rw [List.forall_mem_cons] at h
    cases fields with
    | nil => simpa using h.1.mentioned_field
    | cons field' fields =>
      -- the comma ends the name of the field before it
      have hcomma : (", ".toList.head?.any fun c => !isNameCharacter c) := by decide +kernel
      have hrest := ih h.2
      rw [List.map_cons] at hrest
      rw [List.map_cons, List.map_cons, String.intercalate_cons_cons, String.append_assoc,
        mentioned_cut _ hcomma, h.1.mentioned_field, mentioned_skip (by decide), hrest,
        List.singleton_append]

/-- The write statement mentions the key fields and the property, after what the label mentions. -/
lemma mentioned_writeStatement {d : Descriptor} (hfields : ∀ field ∈ d.keyFields, IsName field)
    (hproperty : IsName d.property) :
    mentioned d.writeStatement.toList =
      mentioned d.label.toList ++ (d.keyFields ++ [d.property]) := by
  have htext : d.writeStatement = "MATCH (n:" ++ (d.label ++ (" \x7b" ++ (", ".intercalate
      (d.keyFields.map fun field => field ++ ": $" ++ field) ++ ("\x7d) SET n." ++ (d.property ++
        (" = datetime($" ++ (d.property ++ ") RETURN count(n) AS matched"))))))) := by
    delta Descriptor.writeStatement
    simp only [String.append_assoc]
  have hvalue : mentioned (" = datetime($" ++ (d.property ++
      ") RETURN count(n) AS matched")).toList = [d.property] := by
    have hdollar : " = datetime($" = " = datetime(" ++ "$" := by decide
    have hcut := mentioned_cut ("$" ++ d.property) (t := ") RETURN count(n) AS matched")
      (by decide +kernel) ""
    rw [String.append_empty, String.append_assoc] at hcut
    rw [hdollar, String.append_assoc, mentioned_skip (by decide), hcut, hproperty.mentioned_dollar,
      mentioned_of_notMem (by decide), List.append_nil]
  -- part by part, each cut where no name can go on
  rw [htext, mentioned_skip (by decide), mentioned_cut _ (by decide +kernel),
    mentioned_skip (by decide), mentioned_cut _ (by decide +kernel), mentioned_pattern hfields,
    mentioned_skip (by decide), mentioned_skip hproperty.dollar_notMem, hvalue]

/-! ### Bound parameters -/

lemma assign_of_notMem {name : String} {params : List (String × String)}
    (h : name ∉ params.map Prod.fst) (value : String) :
    assign name value params = params ++ [(name, value)] := by
  induction params with
  | nil => rfl
  | cons p params ih =>
    rw [List.map_cons, List.mem_cons, not_or] at h
    rw [assign, if_neg (Ne.symm h.1), ih h.2, List.cons_append]

lemma text_foldl_bind (s : Statement) (fields : List (String × String)) :
    (fields.foldl (fun s p => s.bind p.1 p.2) s).text = s.text := by
  induction fields generalizing s with
  | nil => rfl
  | cons p fields ih => exact ih (s.bind p.1 p.2)

/-- Names that differ are bound one after the other, and none is bound again. -/
lemma params_foldl_bind {s : Statement} {fields : List (String × String)}
    (h : ((s.params ++ fields).map Prod.fst).Nodup) :
    (fields.foldl (fun s p => s.bind p.1 p.2) s).params = s.params ++ fields := by
  induction fields generalizing s with
  | nil => rw [List.foldl_nil, List.append_nil]
  | cons p fields ih =>
    have hnew : p.1 ∉ s.params.map Prod.fst := by
      rw [List.map_append, List.map_cons, List.nodup_middle, List.nodup_cons] at h
      exact fun hmem => h.1 (List.mem_append_left _ hmem)
    have hbind : (s.bind p.1 p.2).params = s.params ++ [p] := assign_of_notMem hnew p.2
    have hnext : (((s.bind p.1 p.2).params ++ fields).map Prod.fst).Nodup := by
      rwa [hbind, List.append_assoc, List.singleton_append]
    rw [List.foldl_cons, ih hnext, hbind, List.append_assoc, List.singleton_append]

/-- The property is bound last. -/
lemma ofRow_eq_foldl (d : Descriptor) (row : Row) :
    ofRow d row = (row.key.fields ++ [(d.property, row.stamp)]).foldl (fun s p => s.bind p.1 p.2)
      { text := d.writeStatement } := by
  rw [List.foldl_append]
  rfl

lemma text_ofRow (d : Descriptor) (row : Row) : (ofRow d row).text = d.writeStatement := by
  rw [ofRow_eq_foldl, text_foldl_bind]

lemma binds_iff (s : Statement) (name : String) : s.binds name ↔ name ∈ s.params.map Prod.fst := by
  rw [binds, param?, List.lookup_isSome_iff, List.mem_map]
  constructor
  · rintro ⟨p, hp, heq⟩
    exact ⟨p, hp, (eq_of_beq heq).symm⟩
  · rintro ⟨p, hp, rfl⟩
    exact ⟨p, hp, beq_self_eq_true _⟩

section

variable {d : Descriptor} {row : Row} (hkey : row.key.fields.map Prod.fst = d.keyFields)
  (hdistinct : d.keyFields.Nodup) (hproperty : d.property ∉ d.keyFields)
include hkey hdistinct hproperty

lemma params_ofRow : (ofRow d row).params = row.key.fields ++ [(d.property, row.stamp)] := by
  have hnames := hdistinct.concat hproperty
  rw [List.concat_eq_append, ← hkey] at hnames
  rw [ofRow_eq_foldl, params_foldl_bind]
  · rfl
  · rw [List.nil_append, List.map_append]
    exact hnames

lemma binds_ofRow_iff (name : String) :
    (ofRow d row).binds name ↔ name ∈ d.keyFields ++ [d.property] := by
  rw [binds_iff, params_ofRow hkey hdistinct hproperty, List.map_append, hkey]
  rfl

/-- A key field is bound to its value in the key, since the property does not replace it. -/
lemma param?_ofRow_field {field : String} (h : field ∈ d.keyFields) :
    ∃ value, row.key.get? field = some value ∧ (ofRow d row).param? field = some value := by
  rw [← hkey, List.mem_map] at h
  obtain ⟨p, hp, rfl⟩ := h
  have hsome : (row.key.fields.lookup p.1).isSome :=
    List.lookup_isSome_iff.mpr ⟨p, hp, beq_self_eq_true _⟩
  obtain ⟨value, hvalue⟩ := Option.isSome_iff_exists.mp hsome
  refine ⟨value, hvalue, ?_⟩
  rw [param?, params_ofRow hkey hdistinct hproperty, List.lookup_append, hvalue, Option.some_or]

lemma param?_ofRow_property : (ofRow d row).param? d.property = some row.stamp := by
  have hnone : row.key.fields.lookup d.property = none := by
    rw [List.lookup_eq_none_iff]
    intro p hp
    have hmem : p.1 ∈ d.keyFields := hkey ▸ List.mem_map_of_mem hp
    exact bne_iff_ne.mpr fun heq => hproperty (heq ▸ hmem)
  rw [param?, params_ofRow hkey hdistinct hproperty, List.lookup_append, hnone, Option.none_or]
  exact List.lookup_cons_self

end

/-- A descriptor whose fields and property have names, all of them different, and a row with a value
for each of its key fields in order, as decoding builds it. The statement that writes the row binds
the key fields and the property, and no others: each key field to its value in the key, the property
to the stamp. Its text mentions these and what the label mentions. So, if there is no dollar sign in
the label, it mentions exactly what is bound. -/
theorem ofRow_binds_mentioned {d : Descriptor} {row : Row}
    (hnames : ∀ name ∈ d.keyFields ++ [d.property], IsName name) (hdistinct : d.keyFields.Nodup)
    (hproperty : d.property ∉ d.keyFields) (hkey : row.key.fields.map Prod.fst = d.keyFields) :
    let s := ofRow d row
    ('$' ∉ d.label.toList → ∀ name, name ∈ mentioned s.text.toList ↔ s.binds name) ∧
      (∀ name, name ∈ mentioned s.text.toList ↔ name ∈ mentioned d.label.toList ∨ s.binds name) ∧
      (∀ name, s.binds name ↔ name ∈ d.keyFields ∨ name = d.property) ∧
      (∀ field ∈ d.keyFields, ∃ value,
        row.key.get? field = some value ∧ s.param? field = some value) ∧
      s.param? d.property = some row.stamp ∧
      ∀ result decoded, Source.decodeRow d result = .ok (some decoded) →
        decoded.key.fields.map Prod.fst = d.keyFields := by
  intro s
  have hbinds := binds_ofRow_iff hkey hdistinct hproperty
  have hmentioned : mentioned s.text.toList =
      mentioned d.label.toList ++ (d.keyFields ++ [d.property]) := by
    rw [text_ofRow]
    exact mentioned_writeStatement (fun field h => hnames field (List.mem_append_left _ h))
      (hnames _ List.mem_concat_self)
  refine ⟨?_, ?_, ?_, fun field => param?_ofRow_field hkey hdistinct hproperty,
    param?_ofRow_property hkey hdistinct hproperty, fun _ _ => Source.map_fst_of_decodeRow⟩
  · intro hlabel name
    rw [hmentioned, mentioned_of_notMem hlabel, List.nil_append, hbinds]
  · intro name
    rw [hmentioned, List.mem_append, hbinds]
  · intro name
    rw [hbinds, List.mem_append, List.mem_singleton]

/-- The statement for a version, and what a row of the result decodes to. -/
theorem ofRow_binds_mentioned_version :
    let d := Kind.version.descriptor
    let row : Row := ⟨.ofVersion "serde" "1.0.0", ⟨1580515200, 0, by decide, by decide⟩⟩
    let result : Source.ResultRow :=
      [(⟨"name", .text⟩, .text "serde"), (⟨"version", .text⟩, .text "1.0.0"),
        (⟨"created_at", .timestamptz⟩, .integer 633830400000000)]
    ((∀ name ∈ d.keyFields ++ [d.property], IsName name) ∧ d.keyFields.Nodup ∧
        d.property ∉ d.keyFields ∧ row.key.fields.map Prod.fst = d.keyFields ∧
        '$' ∉ d.label.toList ∧ Source.decodeRow d result = .ok (some row)) ∧
      "version" ∈ mentioned (ofRow d row).text.toList ∧
      (ofRow d row).param? "version" = some "1.0.0" ∧
      (ofRow d row).param? "created_at" = some "2020-02-01T00:00:00.000000Z" := by
  intro d row result
  have hnames : ∀ name ∈ d.keyFields ++ [d.property], IsName name := by decide +kernel
  have hdistinct : d.keyFields.Nodup := by decide
  have hproperty : d.property ∉ d.keyFields := by decide
  have hlabel : '$' ∉ d.label.toList := by decide
  have hdecoded : Source.decodeRow d result = .ok (some row) := by decide +kernel
  obtain ⟨hmentioned, -, hbinds, hfields, hstamp, hkey⟩ :=
    ofRow_binds_mentioned hnames hdistinct hproperty (show row.key.fields.map _ = _ from rfl)
  have hversion : "version" ∈ d.keyFields := by decide
  obtain ⟨value, hvalue, hparam⟩ := hfields "version" hversion
  cases hvalue
  exact ⟨⟨hnames, hdistinct, hproperty, hkey result row hdecoded, hlabel, hdecoded⟩,
    (hmentioned hlabel "version").mpr ((hbinds "version").mpr (.inl hversion)), hparam,
    hstamp.trans (by decide +kernel)⟩

/-- A label can mention a parameter that is not bound. -/
theorem label_mentions_unbound :
    let d : Descriptor :=
      { label := "Crate$x", readQuery := "", countQuery := "", keyFields := ["name"],
        property := "created_at" }
    let row : Row := ⟨.ofCrate "serde", ⟨1580515200, 0, by decide, by decide⟩⟩
    ((∀ name ∈ d.keyFields ++ [d.property], name ≠ "" ∧ IsName name) ∧ d.keyFields.Nodup ∧
        d.property ∉ d.keyFields ∧ row.key.fields.map Prod.fst = d.keyFields) ∧
      "x" ∈ mentioned (ofRow d row).text.toList ∧ (ofRow d row).binds "x" = false ∧
      ¬ ∀ name, name ∈ mentioned (ofRow d row).text.toList ↔ (ofRow d row).binds name := by
  intro d row
  have hmentioned : "x" ∈ mentioned (ofRow d row).text.toList := by decide +kernel
  have hunbound : (ofRow d row).binds "x" = false := by decide +kernel
  refine ⟨⟨by decide +kernel, by decide, by decide, rfl⟩, hmentioned, hunbound, ?_⟩
  intro hall
  have hbound := (hall "x").mp hmentioned
  rw [hunbound] at hbound
  cases hbound

end Graph.Statement

end Backfill
