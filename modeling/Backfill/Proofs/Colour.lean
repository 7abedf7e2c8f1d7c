import Mathlib.Data.List.TakeWhile
import Backfill.Terminal

/-!
# Colour changes nothing that is shown

Taking the sequences out of a text starts afresh at every escape character, and at any other
character that cannot stand inside a sequence. Painted texts begin and end with sequences, and what
is printed around them is divided by blanks and line breaks. So the text that is shown is the same
with colour and without it, whatever sequences, or pieces of sequences, are printed.
-/

namespace Backfill

namespace Text

open Paint (reset renew)

/-! ### Taking sequences out -/

/-- A number as it stands in a sequence. -/
def IsCode (ds : List Char) : Prop :=
  ds ≠ [] ∧ ∀ c ∈ ds, c.isDigit

/-- What `afterSequence?` takes for a sequence. -/
lemma afterSequence?_eq_some_iff {cs rest : List Char} :
    afterSequence? cs = some rest ↔ ∃ ds, IsCode ds ∧ cs = Paint.sequence ds ++ rest := by
  constructor
  · intro h
    unfold afterSequence? at h
    split at h
    · next digit tail =>
      split at h
      · next hdigit =>
        split at h
        · next after hafter =>
          cases h
          have htail := List.takeWhile_append_dropWhile (p := Char.isDigit) (l := tail)
          rw [hafter] at htail
          refine ⟨digit :: tail.takeWhile Char.isDigit, ⟨by simp, ?_⟩, ?_⟩
          · rw [List.forall_mem_cons]
            exact ⟨hdigit, fun c => List.mem_takeWhile_imp⟩
          · simp [Paint.sequence, htail]
        · cases h
      · cases h
    · cases h
  · rintro ⟨ds, ⟨hne, hds⟩, rfl⟩
    obtain ⟨digit, ds, rfl⟩ := List.exists_cons_of_ne_nil hne
    rw [List.forall_mem_cons] at hds
    simp [Paint.sequence, afterSequence?, hds.1, List.dropWhile_append_of_pos hds.2]

@[simp] lemma unpainted_nil : unpainted [] = [] := by
  rw [unpainted]
  simp [afterSequence?]

lemma unpainted_of_some {cs rest : List Char} (h : afterSequence? cs = some rest) :
    unpainted cs = unpainted rest := by
  rw [unpainted]
  split <;> simp_all

lemma unpainted_cons_of_none {c : Char} {cs : List Char} (h : afterSequence? (c :: cs) = none) :
    unpainted (c :: cs) = c :: unpainted cs := by
  rw [unpainted]
  split <;> simp_all

lemma unpainted_sequence {ds : List Char} (h : IsCode ds) (rest : List Char) :
    unpainted (Paint.sequence ds ++ rest) = unpainted rest :=
  unpainted_of_some (afterSequence?_eq_some_iff.mpr ⟨ds, h, rfl⟩)

/-- A sequence begins with the escape character. -/
lemma unpainted_cons_of_ne {c : Char} (h : c ≠ '\x1b') (cs : List Char) :
    unpainted (c :: cs) = c :: unpainted cs := by
  apply unpainted_cons_of_none
  rw [Option.eq_none_iff_forall_ne_some]
  intro rest hrest
  obtain ⟨ds, -, hcs⟩ := afterSequence?_eq_some_iff.mp hrest
  exact h (List.cons.inj hcs).1

lemma unpainted_append_of_notMem {as : List Char} (h : '\x1b' ∉ as) (bs : List Char) :
    unpainted (as ++ bs) = as ++ unpainted bs := by
  induction as with
  | nil => rfl
  | cons a as ih =>
    rw [List.mem_cons, not_or] at h
    rw [List.cons_append, unpainted_cons_of_ne (Ne.symm h.1), ih h.2, List.cons_append]

lemma unpainted_of_notMem {cs : List Char} (h : '\x1b' ∉ cs) : unpainted cs = cs := by
  simpa using unpainted_append_of_notMem h []

/-- A character that cannot continue a sequence. -/
def IsBreak (c : Char) : Prop :=
  c ≠ '[' ∧ c.isDigit = false ∧ c ≠ 'm'

instance (c : Char) : Decidable (IsBreak c) :=
  inferInstanceAs (Decidable (_ ∧ _))

/-- Whether a text begins with a sequence is decided before a character that cannot continue one. -/
lemma afterSequence?_append {as bs : List Char} (hne : as ≠ [])
    (hbreak : ∀ c ∈ bs.head?, IsBreak c) :
    afterSequence? (as ++ bs) = (afterSequence? as).map (· ++ bs) := by
  ext rest
  simp only [Option.map_eq_some_iff, afterSequence?_eq_some_iff]
  constructor
  · rintro ⟨ds, hds, heq⟩
    rcases List.append_eq_append_iff.mp heq with ⟨cs, hseq, rfl⟩ | ⟨as', rfl, rfl⟩
    · cases cs with
      | nil => exact ⟨[], ⟨ds, hds, by simpa using hseq.symm⟩, rfl⟩
      | cons c cs =>
        -- the sequence would have to go on with `c`
        obtain ⟨hbracket, hdigit, hend⟩ := hbreak c rfl
        obtain ⟨a, as, rfl⟩ := List.exists_cons_of_ne_nil hne
        have htail : '[' :: ds ++ ['m'] = as ++ c :: cs := (List.cons.inj hseq).2
        have hmem : c ∈ '[' :: ds ++ ['m'] := by simp [htail]
        simp only [List.cons_append, List.mem_cons, List.mem_append, List.not_mem_nil,
          or_false] at hmem
        rcases hmem with h | h | h
        · exact absurd h hbracket
        · rw [hds.2 c h] at hdigit
          cases hdigit
        · exact absurd h hend
    · exact ⟨as', ⟨ds, hds, rfl⟩, rfl⟩
  · rintro ⟨as', ⟨ds, hds, rfl⟩, rfl⟩
    exact ⟨ds, hds, by simp⟩

/-- A text can be cut before a character that cannot continue a sequence. -/
lemma unpainted_append (as : List Char) {bs : List Char} (hbreak : ∀ c ∈ bs.head?, IsBreak c) :
    unpainted (as ++ bs) = unpainted as ++ unpainted bs := by
  fun_induction unpainted as with
  | case1 as rest h _ ih =>
    have hne : as ≠ [] := by
      rintro rfl
      cases h
    have happend := afterSequence?_append hne hbreak
    rw [h] at happend
    rw [unpainted_of_some happend, ih]
  | case2 h => rfl
  | case3 c as h ih =>
    have happend := afterSequence?_append (List.cons_ne_nil c as) hbreak
    rw [h] at happend
    have hcons : unpainted (c :: as ++ bs) = c :: unpainted (as ++ bs) :=
      unpainted_cons_of_none happend
    rw [hcons, ih, List.cons_append]

/-! ### Painted texts -/

lemma unpainted_append_sequence (as : List Char) {ds : List Char} (h : IsCode ds)
    (rest : List Char) :
    unpainted (as ++ (Paint.sequence ds ++ rest)) = unpainted as ++ unpainted rest := by
  have hbreak : ∀ c ∈ (Paint.sequence ds ++ rest).head?, IsBreak c := by
    rintro c ⟨⟩
    decide
  rw [unpainted_append as hbreak, unpainted_sequence h]

lemma unpainted_append_reset (as rest : List Char) :
    unpainted (as ++ (reset ++ rest)) = unpainted as ++ unpainted rest :=
  unpainted_append_sequence as (show IsCode ['0'] from ⟨by simp, by simp⟩) rest

/-- What is repeated after each reset is taken out again. The text in front may end inside a
sequence that the next characters complete, since none of them is an escape character. -/
lemma unpainted_renew {ds : List Char} (h : IsCode ds) (as cs : List Char) :
    unpainted (as ++ renew (Paint.sequence ds) cs) = unpainted (as ++ cs) := by
  fun_induction renew (Paint.sequence ds) cs generalizing as with
  | case1 rest ih =>
    have hreset : '\x1b' :: '[' :: '0' :: 'm' :: rest = reset ++ rest := rfl
    have hrest : unpainted (renew (Paint.sequence ds) rest) = unpainted rest := ih []
    rw [List.append_assoc, unpainted_append_reset, unpainted_sequence h, hrest, hreset,
      unpainted_append_reset]
  | case2 c rest _ ih =>
    simpa using ih (as ++ [c])
  | case3 => rfl

lemma Paint.isCode_code (p : Paint) : IsCode p.code := by
  cases p <;> simp [IsCode, Paint.code]

/-- Paint adds nothing but sequences. -/
lemma unpainted_apply (p : Paint) (colour : Bool) (s : String) :
    unpainted (p.apply colour s).toList = unpainted s.toList := by
  cases colour with
  | false => rfl
  | true =>
    have hreset := unpainted_append_reset (renew (Paint.sequence p.code) s.toList) []
    have hrenew := unpainted_renew p.isCode_code [] s.toList
    simp only [List.append_nil, unpainted_nil, List.nil_append] at hreset hrenew
    simp only [Paint.apply, if_true, String.toList_ofList, List.append_assoc]
    rw [unpainted_sequence p.isCode_code, hreset, hrenew]

/-! ### Numbers and dates -/

/-- A character of a number or a date. -/
def IsFigure (c : Char) : Prop :=
  c.isDigit ∨ c ∈ ['-', '+', ':', 'T', '.', 'Z']

instance (c : Char) : Decidable (IsFigure c) :=
  inferInstanceAs (Decidable (_ ∨ _))

lemma notMem_of_isFigure {c : Char} (hc : ¬ IsFigure c) {cs : List Char}
    (h : ∀ c ∈ cs, IsFigure c) : c ∉ cs :=
  fun hmem => hc (h c hmem)

lemma isFigure_of_mem_zeroPadded {width n : Nat} : ∀ c ∈ zeroPadded width n, IsFigure c := by
  intro c h
  exact Or.inl (isDigit_of_mem_zeroPadded h)

lemma isFigure_of_mem_nat {n : Nat} : ∀ c ∈ (nat n).toList, IsFigure c := by
  intro c h
  rw [nat, String.toList_ofList] at h
  exact Or.inl (isDigit_of_mem_digits h)

lemma isFigure_of_mem_int {n : Int} : ∀ c ∈ (int n).toList, IsFigure c := by
  intro c h
  unfold int at h
  split_ifs at h
  · rw [String.toList_append, List.mem_append] at h
    rcases h with h | h
    · exact Or.inr (by simp_all)
    · exact isFigure_of_mem_nat c h
  · exact isFigure_of_mem_nat c h

end Text

open Text

lemma isFigure_of_mem_yearText {year : Int} :
    ∀ c ∈ Calendar.yearText year, IsFigure c := by
  unfold Calendar.yearText
  split_ifs
  · exact isFigure_of_mem_zeroPadded
  · exact List.forall_mem_cons.mpr ⟨by decide, isFigure_of_mem_zeroPadded⟩
  · exact List.forall_mem_cons.mpr ⟨by decide, isFigure_of_mem_zeroPadded⟩

lemma isFigure_of_mem_stamp {row : Row} : ∀ c ∈ row.stamp.toList, IsFigure c := by
  have hmarks : ∀ c ∈ ['-', 'T', ':', '.', 'Z'], IsFigure c := by simp [IsFigure]
  simp only [List.forall_mem_cons] at hmarks
  obtain ⟨hhyphen, htime, hcolon, hpoint, hzone, -⟩ := hmarks
  simp only [Row.stamp, Calendar.Instant.stamp, String.toList_ofList, Calendar.Instant.stampChars,
    Calendar.dateText, Calendar.clockText, List.forall_mem_append, List.forall_mem_cons, hhyphen,
    htime, hcolon, hpoint, hzone, true_and, List.not_mem_nil, IsEmpty.forall_iff, implies_true,
    and_true]
  exact ⟨⟨⟨⟨isFigure_of_mem_yearText, isFigure_of_mem_zeroPadded⟩, isFigure_of_mem_zeroPadded⟩,
    ⟨isFigure_of_mem_zeroPadded, isFigure_of_mem_zeroPadded⟩, isFigure_of_mem_zeroPadded⟩,
    isFigure_of_mem_zeroPadded⟩

namespace Terminal

/-! ### Lines -/

/-- What is shown of a line. -/
def shown (line : String) : List Char :=
  unpainted line.toList

lemma shown_append {s : String} (h : '\x1b' ∉ s.toList) (t : String) :
    shown (s ++ t) = s.toList ++ shown t := by
  rw [shown, String.toList_append, unpainted_append_of_notMem h, shown]

/-- Any line can be cut at a blank. -/
lemma shown_blank (s t : String) : shown (s ++ " " ++ t) = shown s ++ ' ' :: shown t := by
  have hblank : (s ++ " " ++ t).toList = s.toList ++ ' ' :: t.toList := by
    simp [String.toList_append]
  rw [shown, hblank, unpainted_append s.toList (by simp [IsBreak]),
    unpainted_cons_of_ne (by decide)]
  rfl

lemma shown_apply (p : Paint) (colour : Bool) (s : String) : shown (p.apply colour s) = shown s :=
  unpainted_apply p colour s

lemma toList_unlines_cons (line : String) (lines : List String) :
    (unlines (line :: lines)).toList = line.toList ++ '\n' :: (unlines lines).toList := by
  simp [unlines, String.join_cons, String.toList_append]

/-- The lines of a text show what they show on their own. -/
lemma unpainted_unlines (lines : List String) :
    unpainted (unlines lines).toList = lines.flatMap fun line => shown line ++ ['\n'] := by
  induction lines with
  | nil => simp [unlines]
  | cons line lines ih =>
    rw [toList_unlines_cons, unpainted_append _ (by simp [IsBreak]),
      unpainted_cons_of_ne (by decide), ih]
    simp [shown]

lemma unpainted_unlines_congr {lines lines' : List String}
    (h : lines.map shown = lines'.map shown) :
    unpainted (unlines lines).toList = unpainted (unlines lines').toList := by
  have hflat (lines : List String) : (lines.flatMap fun line => shown line ++ ['\n']) =
      (lines.map shown).flatMap (· ++ ['\n']) := by
    rw [List.flatMap_map]
  rw [unpainted_unlines, unpainted_unlines, hflat, hflat, h]

lemma shown_writeLine (colour : Bool) (row : Row) (matched : Int) :
    shown (writeLine colour row matched) = shown (writeLine false row matched) := by
  simp only [writeLine, shown_blank, shown_apply]

lemma shown_counterLine (colour : Bool) {title : String} (h : '\x1b' ∉ title.toList) (p : Paint)
    (n : Nat) : shown (counterLine colour title p n) = shown (counterLine false title p n) := by
  have htitle : '\x1b' ∉ ("  " ++ alignLeft 16 title).toList := by
    simp [alignLeft, String.toList_append, h]
  simp only [counterLine, shown_append htitle, shown_apply]

lemma shown_skippedLine (colour : Bool) (key error : String) :
    shown ("    " ++ Paint.bold.apply colour key ++ " " ++ Paint.dimmed.apply colour error) =
      "    ".toList ++ shown key ++ ' ' :: shown error := by
  rw [shown_blank, shown_append (by decide), shown_apply, shown_apply]

lemma map_shown_reportLines (colour : Bool) (r : Sync.Report) :
    (reportLines colour r).map shown = (reportLines false r).map shown := by
  have hcounter {title : String} (h : '\x1b' ∉ title.toList) (p : Paint) (n : Nat) :=
    shown_counterLine colour h p n
  have hnonzero {title : String} (h : '\x1b' ∉ title.toList) (p : Paint) (n : Nat) :
      (if n = 0 then [] else [counterLine colour title p n]).map shown =
        (if n = 0 then [] else [counterLine false title p n]).map shown := by
    split_ifs
    · rfl
    · rw [List.map_singleton, List.map_singleton, hcounter h]
  simp only [reportLines, List.map_append, List.map_cons, List.map_map, Function.comp_def,
    shown_skippedLine, @hcounter "Rows read:" (by decide), @hcounter "Writes:" (by decide),
    @hcounter "Nodes updated:" (by decide), @hnonzero "No match:" (by decide),
    @hnonzero "Duplicate keys:" (by decide), @hnonzero "Failed:" (by decide)]

lemma shown_statusLine (colour : Bool) (l : StatusLine) :
    shown (statusLine colour l) = shown (statusLine false l) := by
  simp only [statusLine, String.intercalate_cons_cons, String.intercalate_singleton, shown_blank,
    shown_apply]

lemma map_shown_statusLines (colour : Bool) (lines : List StatusLine) :
    (statusLines colour lines).map shown = (statusLines false lines).map shown := by
  simp only [statusLines, List.map_append, List.map_cons, List.map_map, Function.comp_def,
    shown_apply, shown_statusLine colour]

/-! ### Texts without the escape character -/

lemma escape_notMem_unlines {lines : List String} (h : ∀ line ∈ lines, '\x1b' ∉ line.toList) :
    '\x1b' ∉ (unlines lines).toList := by
  induction lines with
  | nil => simp [unlines]
  | cons line lines ih =>
    rw [List.forall_mem_cons] at h
    rw [toList_unlines_cons]
    simp [h.1, ih h.2]

lemma escape_notMem_stamp (row : Row) : '\x1b' ∉ row.stamp.toList :=
  notMem_of_isFigure (by decide) isFigure_of_mem_stamp

lemma escape_notMem_nat (n : Nat) : '\x1b' ∉ (nat n).toList :=
  notMem_of_isFigure (by decide) isFigure_of_mem_nat

lemma escape_notMem_int (n : Int) : '\x1b' ∉ (int n).toList :=
  notMem_of_isFigure (by decide) isFigure_of_mem_int

lemma escape_notMem_writeLine {row : Row} (h : '\x1b' ∉ row.key.text.toList) (matched : Int) :
    '\x1b' ∉ (writeLine false row matched).toList := by
  simp [writeLine, Paint.apply, String.toList_append, h, escape_notMem_stamp, escape_notMem_int]

lemma escape_notMem_counterLine {title : String} (h : '\x1b' ∉ title.toList) (p : Paint) (n : Nat) :
    '\x1b' ∉ (counterLine false title p n).toList := by
  simp [counterLine, Paint.apply, alignLeft, String.toList_append, h, escape_notMem_nat]

lemma escape_notMem_reportLines {r : Sync.Report}
    (h : ∀ row ∈ r.skipped, '\x1b' ∉ row.key.text.toList ∧ '\x1b' ∉ row.error.toList) :
    ∀ line ∈ reportLines false r, '\x1b' ∉ line.toList := by
  intro line hline
  have hcounter {title : String} (htitle : '\x1b' ∉ title.toList) {p : Paint} {n : Nat}
      (hmem : line ∈ if n = 0 then [] else [counterLine false title p n]) :
      '\x1b' ∉ line.toList := by
    split_ifs at hmem
    · cases hmem
    · rw [List.mem_singleton.mp hmem]
      exact escape_notMem_counterLine htitle p n
  -- the lines in order: three that are always there, three counters, the skipped rows, a blank
  simp only [reportLines, List.mem_append, List.mem_cons, List.mem_map, List.not_mem_nil,
    or_false] at hline
  rcases hline with (((((rfl | rfl | rfl) | hmem) | hmem) | hmem) | ⟨row, hrow, rfl⟩) | rfl
  · exact escape_notMem_counterLine (by decide) _ _
  · exact escape_notMem_counterLine (by decide) _ _
  · exact escape_notMem_counterLine (by decide) _ _
  · exact hcounter (by decide) hmem
  · exact hcounter (by decide) hmem
  · exact hcounter (by decide) hmem
  · simp [Paint.apply, String.toList_append, h row hrow]
  · simp

lemma escape_notMem_statusLines (lines : List StatusLine) :
    ∀ line ∈ statusLines false lines, '\x1b' ∉ line.toList := by
  have hlabel (kind : Kind) : '\x1b' ∉ kind.label.toList := by
    cases kind <;> decide
  have hrule : '\x1b' ∉ rule.toList := by
    decide +kernel
  intro line hline
  simp only [statusLines, List.mem_append, List.mem_cons, List.mem_map, List.not_mem_nil,
    or_false] at hline
  rcases hline with ((rfl | rfl | rfl | rfl) | ⟨l, -, rfl⟩) | rfl
  · simp [Paint.apply]
  · exact hrule
  · decide
  · exact hrule
  · simp [statusLine, String.toList_append, Paint.apply, alignLeft, alignRight, hlabel,
      escape_notMem_int]
  · exact hrule

/-! ### What is printed -/

/-- Lines in colour and without it show the same. If none of the given texts, which they contain,
has an escape character, taking the sequences out of the lines in colour gives the others. -/
structure ShownAlike (texts coloured plain : List String) : Prop where
  alike : unpainted (unlines coloured).toList = unpainted (unlines plain).toList
  plain_eq : (∀ text ∈ texts, '\x1b' ∉ text.toList) →
    unpainted (unlines coloured).toList = (unlines plain).toList

lemma ShownAlike.of_lines {texts coloured plain : List String}
    (hshown : coloured.map shown = plain.map shown)
    (hplain : (∀ text ∈ texts, '\x1b' ∉ text.toList) → ∀ line ∈ plain, '\x1b' ∉ line.toList) :
    ShownAlike texts coloured plain := by
  have halike := unpainted_unlines_congr hshown
  refine ⟨halike, fun htexts => ?_⟩
  rw [halike, unpainted_of_notMem (escape_notMem_unlines (hplain htexts))]

/-- The output of a write, of a report and of the status table, with colour and without it. For any
row, any number of matches, any report with any keys and failures, and any lines of the table, the
outputs are the same once all sequences are taken out of them. This is the output without colour, to
the blank, if no key and no failure in it has an escape character. -/
theorem colour_changes_nothing_shown :
    (∀ (row : Row) (matched : Int),
      ShownAlike [row.key.text] [writeLine true row matched] [writeLine false row matched]) ∧
    (∀ r : Sync.Report, ShownAlike (r.skipped.flatMap fun row => [row.key.text, row.error])
      (reportLines true r) (reportLines false r)) ∧
    ∀ lines : List StatusLine,
      ShownAlike [] (statusLines true lines) (statusLines false lines) := by
  refine ⟨?_, ?_, ?_⟩
  · intro row matched
    apply ShownAlike.of_lines
    · rw [List.map_singleton, List.map_singleton, shown_writeLine]
    · intro htexts
      rw [List.forall_mem_singleton] at htexts ⊢
      exact escape_notMem_writeLine htexts matched
  · intro r
    apply ShownAlike.of_lines (map_shown_reportLines true r)
    intro htexts
    apply escape_notMem_reportLines
    intro row hrow
    exact ⟨htexts _ (List.mem_flatMap.mpr ⟨row, hrow, by simp⟩),
      htexts _ (List.mem_flatMap.mpr ⟨row, hrow, by simp⟩)⟩
  · intro lines
    exact .of_lines (map_shown_statusLines true lines) fun _ => escape_notMem_statusLines lines

end Terminal

end Backfill
