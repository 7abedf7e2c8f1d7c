import Mathlib.Data.List.Infix
import Backfill.Proofs.Colour
import Backfill.Sync.Run

/-!
# Keys are told apart by their texts

The text of a key quotes nothing: a value is divided from the next field by a comma and a blank, and
nothing keeps a value from having these in it. If none but the last value has, the text can be read
in one way only, even where a value ends with a comma.
-/

namespace Backfill

/-! ### The separator -/

/-- What divides the fields in the text of a key. -/
def separator : List Char :=
  [',', ' ']

/-- The first separator of a text is not found early, although a comma may stand before it. -/
lemma eq_nil_of_separator {vs r r' : List Char} (hvs : ¬ separator <:+: vs)
    (h : separator ++ r = vs ++ (separator ++ r')) : vs = [] := by
  match vs with
  | [] => rfl
  | [c] => simp [separator] at h
  | c :: c' :: vs =>
    have hstart : c = ',' ∧ c' = ' ' := by
      simp only [separator, List.cons_append, List.nil_append, List.cons.injEq] at h
      exact ⟨h.1.symm, h.2.1.symm⟩
    obtain ⟨rfl, rfl⟩ := hstart
    exact absurd (List.prefix_append separator vs).isInfix hvs

/-- A value without separators is followed by the first one. -/
lemma append_separator_inj {v v' r r' : List Char} (hv : ¬ separator <:+: v)
    (hv' : ¬ separator <:+: v') (h : v ++ (separator ++ r) = v' ++ (separator ++ r')) :
    v = v' ∧ r = r' := by
  rcases List.append_eq_append_iff.mp h with ⟨vs, rfl, hrest⟩ | ⟨vs, rfl, hrest⟩
  · obtain rfl := eq_nil_of_separator (fun hvs => hv' (hvs.trans (List.suffix_append v vs).isInfix))
      hrest
    simpa using hrest
  · obtain rfl := eq_nil_of_separator (fun hvs => hv (hvs.trans (List.suffix_append v' vs).isInfix))
      hrest
    simpa using hrest.symm

namespace Key

/-- No value but the last one has a separator in it. -/
def IsDivided (k : Key) : Prop :=
  ∀ p ∈ k.fields.dropLast, ¬ separator <:+: p.2.toList

/-! ### Reading the text of a key -/

lemma toList_text_singleton (p : String × String) :
    (Key.mk [p]).text.toList = p.1.toList ++ '=' :: p.2.toList := by
  simp [text, String.toList_append]

lemma toList_text_cons_cons (p q : String × String) (fields : List (String × String)) :
    (Key.mk (p :: q :: fields)).text.toList =
      p.1.toList ++ '=' :: (p.2.toList ++ (separator ++ (Key.mk (q :: fields)).text.toList)) := by
  simp [text, String.toList_append, String.intercalate_cons_cons, separator]

lemma eq_of_text_eq {fields fields' : List (String × String)}
    (hnames : fields'.map Prod.fst = fields.map Prod.fst) (h : (Key.mk fields).IsDivided)
    (h' : (Key.mk fields').IsDivided) (htext : (Key.mk fields).text = (Key.mk fields').text) :
    fields = fields' := by
  induction fields generalizing fields' with
  | nil => simpa using hnames.symm
  | cons p fields ih =>
    obtain ⟨p', rest', rfl, hname, hrest⟩ := List.map_eq_cons_iff.mp hnames
    have hchars := congrArg String.toList htext
    cases fields with
    | nil =>
      -- the last value takes the rest of the text, whatever it has in it
      obtain rfl : rest' = [] := by simpa using hrest
      simp only [toList_text_singleton, hname, List.append_cancel_left_eq, List.cons.injEq,
        true_and, String.toList_inj] at hchars
      rw [Prod.ext hname.symm hchars]
    | cons q fields =>
      obtain ⟨q', fields', rfl, -, -⟩ := List.map_eq_cons_iff.mp hrest
      simp only [toList_text_cons_cons, hname, List.append_cancel_left_eq, List.cons.injEq,
        true_and] at hchars
      obtain ⟨hp, hdivided⟩ := List.forall_mem_cons.mp h
      obtain ⟨hp', hdivided'⟩ := List.forall_mem_cons.mp h'
      obtain ⟨hvalue, hlater⟩ := append_separator_inj hp hp' hchars
      rw [ih hrest hdivided hdivided' (String.toList_inj.mp hlater),
        Prod.ext hname.symm (String.toList_inj.mp hvalue)]

lemma text_eq_iff {k k' : Key} (hnames : k.fields.map Prod.fst = k'.fields.map Prod.fst)
    (h : k.IsDivided) (h' : k'.IsDivided) : k.text = k'.text ↔ k = k' := by
  constructor
  · intro htext
    exact congrArg Key.mk (eq_of_text_eq hnames.symm h h' htext)
  · rintro rfl
    rfl

end Key

/-! ### Where the text of a key stands -/

/-- The key of the row that an event is about. -/
def Event.key? : Event → Option Key
  | writeOmitted row => some row.key
  | retrying key .. | noMatch _ key | oneMatch _ key | manyMatches _ key _ => some key
  | rowSkipped row => some row.key
  | sourceConnected .. | rowsCounted .. | sourceClosed | poolCreated .. | connectionOpening
  | graphConnected .. | runStarted .. | runCompleted .. => none

lemma Event.lookup_key (e : Event) :
    e.fields.lookup "key" = e.key?.map fun key => .shown key.text := by
  cases e <;> rfl

lemma Sync.text_writeFailure_inj {d : Descriptor} {k k' : Key} {e e' : Failure} :
    (Sync.writeFailure d k e).text = (Sync.writeFailure d k' e').text ↔ k.text = k'.text := by
  simp [Sync.writeFailure, Failure.within, String.append_right_inj, String.append_left_inj]

/-- A text can be cut at its last blank. -/
lemma append_blank_inj {xs xs' ys ys' : List Char} (hys : ' ' ∉ ys) (hys' : ' ' ∉ ys')
    (h : xs ++ ' ' :: ys = xs' ++ ' ' :: ys') : xs = xs' := by
  rcases List.append_eq_append_iff.mp h with ⟨zs, rfl, hrest⟩ | ⟨zs, rfl, hrest⟩
  · cases zs with
    | nil => simp
    | cons z zs =>
      have htail : ys = zs ++ ' ' :: ys' := (List.cons.inj hrest).2
      exact absurd (by simp [htail]) hys
  · cases zs with
    | nil => simp
    | cons z zs =>
      have htail : ys' = zs ++ ' ' :: ys := (List.cons.inj hrest).2
      exact absurd (by simp [htail]) hys'

namespace Text.Paint

lemma mem_of_mem_renew {c : Char} {opening cs : List Char} (h : c ∈ renew opening cs) :
    c ∈ opening ∨ c ∈ cs := by
  fun_induction renew opening cs with
  | case1 rest ih =>
    simp only [reset, List.cons_append, List.nil_append, List.mem_cons, List.mem_append] at h ⊢
    tauto
  | case2 c' rest _ ih =>
    simp only [List.mem_cons] at h ⊢
    tauto
  | case3 => cases h

/-- Paint adds no blanks. -/
lemma blank_notMem_apply (p : Paint) (colour : Bool) {s : String} (h : ' ' ∉ s.toList) :
    ' ' ∉ (p.apply colour s).toList := by
  cases colour with
  | false => exact h
  | true =>
    have hopening : ' ' ∉ sequence p.code := by
      cases p <;> decide
    have hreset : ' ' ∉ reset := by decide
    have hrenew : ' ' ∉ renew (sequence p.code) s.toList := by
      intro hmem
      rcases mem_of_mem_renew hmem with hmem | hmem
      · exact hopening hmem
      · exact h hmem
    simp [apply, hopening, hrenew, hreset]

end Text.Paint

/-- In the line of a write, the text of the key ends at the last blank but one. -/
lemma Terminal.key_text_of_writeLine {colour : Bool} {row row' : Row} {n n' : Int}
    (h : writeLine colour row n = writeLine colour row' n') : row.key.text = row'.key.text := by
  have hblank : ¬ Text.IsFigure ' ' := by decide
  have hdate (row : Row) : ' ' ∉ (Text.Paint.dimmed.apply colour row.stamp).toList :=
    Text.Paint.dimmed.blank_notMem_apply colour
      (Text.notMem_of_isFigure hblank isFigure_of_mem_stamp)
  have hmatched (n : Int) : ' ' ∉ ((matchPaint n).apply colour (Text.int n)).toList :=
    (matchPaint n).blank_notMem_apply colour
      (Text.notMem_of_isFigure hblank Text.isFigure_of_mem_int)
  have hline (row : Row) (n : Int) : (writeLine colour row n).toList =
      ' ' :: ' ' :: row.key.text.toList ++
        ' ' :: (Text.Paint.dimmed.apply colour row.stamp).toList ++
        ' ' :: ((matchPaint n).apply colour (Text.int n)).toList := by
    simp [writeLine, String.toList_append]
  have hchars := congrArg String.toList h
  rw [hline, hline] at hchars
  -- neither the date nor the count has a blank, so the line is divided from its end
  have hkey := append_blank_inj (hdate row) (hdate row')
    (append_blank_inj (hmatched n) (hmatched n') hchars)
  simpa [String.toList_inj] using hkey

/-- Two keys are told apart by their texts, and so by all texts in which these stand: the outermost
text of a failed write, the field of an event that shows the key, and the line of a write, with any
date and any number of matches. -/
structure ToldApart (k k' : Key) : Prop where
  text : k.text = k'.text ↔ k = k'
  failure : ∀ (d : Descriptor) (e e' : Failure),
    (Sync.writeFailure d k e).text = (Sync.writeFailure d k' e').text ↔ k = k'
  event : ∀ e e' : Event, e.key? = some k → e'.key? = some k' →
    (e.fields.lookup "key" = e'.fields.lookup "key" ↔ k = k')
  line : ∀ (colour : Bool) (row row' : Row) (n n' : Int), row.key = k → row'.key = k' →
    Terminal.writeLine colour row n = Terminal.writeLine colour row' n' → k = k'

lemma ToldApart.of_text {k k' : Key} (h : k.text = k'.text ↔ k = k') : ToldApart k k' where
  text := h
  failure d e e' := Sync.text_writeFailure_inj.trans h
  event e e' he he' := by
    rw [e.lookup_key, e'.lookup_key, he, he', ← h]
    simp
  line colour row row' n n' hk hk' hline := by
    subst hk hk'
    exact h.mp (Terminal.key_text_of_writeLine hline)

namespace Key

/-- The text of a key identifies it among all keys with the same fields, in the same order, as long
as no value but the last one has a separator in it. There may be any number of fields, with any
names; the values may have equals signs and commas in them, and the last one may be any text. So the
keys of crates are told apart by their texts, and those of versions if the names of the crates have
no separators in them. -/
theorem text_identifies_key :
    (∀ k k' : Key, k.fields.map Prod.fst = k'.fields.map Prod.fst → k.IsDivided → k'.IsDivided →
      ToldApart k k') ∧
    (∀ name name' : String, ToldApart (ofCrate name) (ofCrate name')) ∧
    ∀ name name' version version' : String, ¬ separator <:+: name.toList →
      ¬ separator <:+: name'.toList →
        ToldApart (ofVersion name version) (ofVersion name' version') := by
  refine ⟨?_, ?_, ?_⟩
  · intro k k' hnames h h'
    exact .of_text (text_eq_iff hnames h h')
  · intro name name'
    have hdivided (name : String) : (ofCrate name).IsDivided := by
      simp [IsDivided, ofCrate]
    exact .of_text (text_eq_iff rfl (hdivided name) (hdivided name'))
  · intro name name' version version' h h'
    have hdivided {name : String} (h : ¬ separator <:+: name.toList) (version : String) :
        (ofVersion name version).IsDivided := by
      simpa [IsDivided, ofVersion] using h
    exact .of_text (text_eq_iff rfl (hdivided h version) (hdivided h' version'))

/-- A comma before the separator, and a version that looks like the rest of another key. -/
theorem text_identifies_key_with_commas :
    let k := ofVersion "serde," "1.0, version=2.0"
    let k' := ofVersion "serde" ", version=1.0, version=2.0"
    ¬ separator <:+: "serde,".toList ∧ ¬ separator <:+: "serde".toList ∧ ToldApart k k' ∧
      k.text ≠ k'.text := by
  intro k k'
  have h : ¬ separator <:+: "serde,".toList := by decide
  have h' : ¬ separator <:+: "serde".toList := by decide
  have htold : ToldApart k k' := text_identifies_key.2.2 _ _ _ _ h h'
  exact ⟨h, h', htold, fun htext => absurd (htold.text.mp htext) (by decide)⟩

end Key

end Backfill
