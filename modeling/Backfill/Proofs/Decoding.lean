import Mathlib.Data.List.Forall2
import Mathlib.Data.Nat.Digits.Defs
import Backfill.Proofs.CivilTimes
import Backfill.Proofs.Utf8

/-!
# Rows that decode

What becomes of a result row is decided by its columns: the key fields in their order, then the
creation date. Here the answers of the driver are said from the columns, their types and their
values, and each way in which decoding can end is said from these answers.
-/

namespace Backfill.Source

open Calendar

variable {α : Type} {result : ResultRow} {name : String}

/-! ### Columns -/

/-- The last column of a name, and its value. -/
def ResultRow.Gives (result : ResultRow) (name : String) (column : Column) (datum : Datum) :
    Prop :=
  ∃ before after, result = before ++ (column, datum) :: after ∧ column.name = name ∧
    ∀ cell ∈ after, cell.1.name ≠ name

lemma ResultRow.find?_eq_some_iff {column : Column} {datum : Datum} :
    result.find? name = some (column, datum) ↔ result.Gives name column datum := by
  rw [ResultRow.find?, List.find?_eq_some_iff_append]
  constructor
  · rintro ⟨hname, as, bs, hreverse, has⟩
    refine ⟨bs.reverse, as.reverse, ?_, by simpa using hname, by simpa using has⟩
    simpa using congrArg List.reverse hreverse
  · rintro ⟨before, after, rfl, hname, hafter⟩
    exact ⟨by simpa using hname, after.reverse, before.reverse, by simp, by simpa using hafter⟩

lemma ResultRow.find?_eq_none_iff :
    result.find? name = none ↔ ∀ cell ∈ result, cell.1.name ≠ name := by
  simp [ResultRow.find?, List.find?_eq_none]

/-- The answer of the driver to the question for a named column, where `read` says what a value
means for the target. -/
inductive Answers (target : Target) (read : Datum → Except ValueFault α) (result : ResultRow)
    (name : String) : Except DriverError α → Prop
  | missing (h : ∀ cell ∈ result, cell.1.name ≠ name) :
      Answers target read result name (.error (.columnNotFound name))
  | null {column : Column} (h : result.Gives name column .null) :
      Answers target read result name (.error (.columnDecode (.named name) .null))
  | mismatch {column : Column} {datum : Datum} (h : result.Gives name column datum)
      (hnull : datum ≠ .null) (htype : target.accepts column.type = false) :
      Answers target read result name
        (.error (.columnDecode (.named name) (.mismatch target column.type)))
  | unreadable {column : Column} {datum : Datum} {fault : ValueFault}
      (h : result.Gives name column datum) (hnull : datum ≠ .null)
      (htype : target.accepts column.type = true) (hread : read datum = .error fault) :
      Answers target read result name (.error (.columnDecode (.named name) fault))
  | value {column : Column} {datum : Datum} {a : α} (h : result.Gives name column datum)
      (hnull : datum ≠ .null) (htype : target.accepts column.type = true)
      (hread : read datum = .ok a) : Answers target read result name (.ok a)

lemma answers_decodeColumn (target : Target) (read : Datum → Except ValueFault α)
    (result : ResultRow) (name : String) :
    Answers target read result name (decodeColumn target read result name) := by
  unfold decodeColumn
  split
  · next h => exact .missing (ResultRow.find?_eq_none_iff.mp h)
  · next cell h =>
    obtain ⟨column, datum⟩ := cell
    have hgives := ResultRow.find?_eq_some_iff.mp h
    simp only [decodeAs]
    -- a null is told before the type is compared, and the type before the value is read
    split_ifs with hnull htype
    · subst hnull
      exact .null hgives
    · cases hread : read datum with
      | error fault => exact .unreadable hgives hnull htype hread
      | ok a => exact .value hgives hnull htype hread
    · exact .mismatch hgives hnull (by simpa using htype)

/-- The driver has one answer. -/
lemma decodeColumn_eq_iff {target : Target} {read : Datum → Except ValueFault α}
    {answer : Except DriverError α} :
    decodeColumn target read result name = answer ↔ Answers target read result name answer := by
  constructor
  · rintro rfl
    exact answers_decodeColumn target read result name
  · intro h
    unfold decodeColumn
    cases h with
    | missing h => rw [ResultRow.find?_eq_none_iff.mpr h]
    | null h =>
      rw [ResultRow.find?_eq_some_iff.mpr h]
      rfl
    | mismatch h hnull htype =>
      rw [ResultRow.find?_eq_some_iff.mpr h]
      simp [decodeAs, hnull, htype, Except.mapError]
    | unreadable h hnull htype hread =>
      rw [ResultRow.find?_eq_some_iff.mpr h]
      simp [decodeAs, hnull, htype, hread, Except.mapError]
    | value h hnull htype hread =>
      rw [ResultRow.find?_eq_some_iff.mpr h]
      simp [decodeAs, hnull, htype, hread, Except.mapError]

/-! ### Values -/

/-- The signed number that bytes hold in two's complement, the most significant byte first. -/
structure IsSigned (bytes : List UInt8) (n : Int) : Prop where
  le : -256 ^ bytes.length ≤ 2 * n
  lt : 2 * n < 256 ^ bytes.length
  dvd : 256 ^ bytes.length ∣ n - (Nat.ofDigits 256 (bytes.reverse.map UInt8.toNat) : Nat)

lemma foldl_eq_ofDigits (bytes : List UInt8) :
    bytes.foldl (fun n b => 256 * n + b.toNat) 0 =
      Nat.ofDigits 256 (bytes.reverse.map UInt8.toNat) := by
  rw [Nat.ofDigits_eq_foldr, List.map_reverse, List.foldr_reverse, List.foldl_map]
  simp only [Nat.add_comm, Nat.cast_id]

lemma ofBigEndian_eq_iff {bytes : List UInt8} (hne : bytes ≠ []) {n : Int} :
    ofBigEndian bytes = n ↔ IsSigned bytes n := by
  have hsize : 1 <<< (8 * bytes.length) = 256 ^ bytes.length := by
    rw [Nat.one_shiftLeft, Nat.pow_mul]
  -- there is at least one byte, so the range has two halves of the same size
  have heven : ∃ half : Nat, 256 ^ bytes.length = 2 * half := by
    obtain ⟨b, rest, rfl⟩ := List.exists_cons_of_ne_nil hne
    exact ⟨128 * 256 ^ rest.length, by rw [List.length_cons, Nat.pow_succ]; omega⟩
  obtain ⟨half, hhalf⟩ := heven
  have hcast : (256 ^ bytes.length : Int) = 2 * half := by exact_mod_cast hhalf
  rw [ofBigEndian, foldl_eq_ofDigits, hsize,
    Int.bmod_eq_iff (Nat.pow_pos (by decide)), hhalf]
  constructor
  · rintro ⟨hle, hlt, hdvd⟩
    refine ⟨?_, ?_, ?_⟩
    · rw [hcast]
      omega
    · rw [hcast]
      omega
    · simpa [hcast] using hdvd
  · rintro ⟨hle, hlt, hdvd⟩
    rw [hcast] at hle hlt hdvd
    refine ⟨by omega, by omega, ?_⟩
    simpa using hdvd

lemma wholeOfBytes_eq_ok_iff {bytes : List UInt8} {n : Int} :
    wholeOfBytes bytes = .ok n ↔ bytes ≠ [] ∧ bytes.length ≤ 8 ∧ IsSigned bytes n := by
  unfold wholeOfBytes
  split_ifs with hempty hlong
  · simp [List.isEmpty_iff.mp hempty]
  · simp [hlong]
  · have hne : bytes ≠ [] := by simpa using hempty
    simp [hne, Nat.not_lt.mp hlong, ofBigEndian_eq_iff hne]

namespace Datum

/-- The text of a value: itself, what its bytes encode, or its spelling. -/
inductive HoldsText : Datum → String → Prop
  | text (s : String) : HoldsText (.text s) s
  | bytes (s : String) : HoldsText (.bytes (Text.encodeUtf8 s)) s
  | integer (n : Int) : HoldsText (.integer n) (Text.int n)
  | boolean (b : Bool) : HoldsText (.boolean b) (if b then "t" else "f")

lemma string_eq_ok_iff {datum : Datum} {s : String} : datum.string = .ok s ↔ datum.HoldsText s := by
  constructor
  · intro h
    cases datum with
    | null => cases h
    | text value =>
      cases h
      exact .text s
    | bytes value =>
      have hvalue : value = Text.encodeUtf8 s := by
        rw [← Text.decodeUtf8_eq_ok_iff]
        cases hdecode : Text.decodeUtf8 value with
        | error e => simp [string, hdecode, Except.mapError] at h
        | ok t => simpa [string, hdecode, Except.mapError] using h
      exact hvalue ▸ .bytes s
    | integer value =>
      cases h
      exact .integer value
    | boolean value =>
      cases h
      exact .boolean value
  · intro h
    cases h with
    | bytes => simp [string, Text.decodeUtf8_eq_ok_iff.mpr rfl, Except.mapError]
    | _ => rfl

/-- The number of a value: itself, or what one to eight bytes hold. -/
inductive HoldsNumber : Datum → Int → Prop
  | text {s : String} {n : Int} (hne : s.toUTF8.toList ≠ []) (hlength : s.toUTF8.toList.length ≤ 8)
      (h : IsSigned s.toUTF8.toList n) : HoldsNumber (.text s) n
  | bytes {bytes : List UInt8} {n : Int} (hne : bytes ≠ []) (hlength : bytes.length ≤ 8)
      (h : IsSigned bytes n) : HoldsNumber (.bytes bytes) n
  | integer (n : Int) : HoldsNumber (.integer n) n
  | boolean (b : Bool) : HoldsNumber (.boolean b) (if b then 1 else 0)

lemma whole_eq_ok_iff {datum : Datum} {n : Int} : datum.whole = .ok n ↔ datum.HoldsNumber n := by
  constructor
  · intro h
    cases datum with
    | null => cases h
    | text value =>
      obtain ⟨hne, hlength, hn⟩ := wholeOfBytes_eq_ok_iff.mp h
      exact .text hne hlength hn
    | bytes value =>
      obtain ⟨hne, hlength, hn⟩ := wholeOfBytes_eq_ok_iff.mp h
      exact .bytes hne hlength hn
    | integer value =>
      cases h
      exact .integer n
    | boolean value =>
      cases h
      exact .boolean value
  · intro h
    cases h with
    | text hne hlength hn => exact wholeOfBytes_eq_ok_iff.mpr ⟨hne, hlength, hn⟩
    | bytes hne hlength hn => exact wholeOfBytes_eq_ok_iff.mpr ⟨hne, hlength, hn⟩
    | _ => rfl

end Datum

/-! ### Creation dates -/

/-- Seconds and nanoseconds of the time that lies the given number of microseconds after the
beginning of 2000. -/
structure IsTime (micros secs : Int) (nanos : Nat) : Prop where
  nanos_lt : nanos < 1000000000
  count : 1000 * micros =
    1000000000 * (secs - DateTime.toSeconds ⟨⟨2000, 1, 1⟩, 0, 0, 0, 0⟩) + nanos

lemma instantAt?_eq_some_iff {micros : Int} {i : Instant} :
    instantAt? micros = some i ↔ IsTime micros i.secs i.nanos := by
  have hepoch : DateTime.toSeconds ⟨⟨2000, 1, 1⟩, 0, 0, 0, 0⟩ = epoch := by decide
  constructor
  · intro h
    obtain ⟨hsecs, hnanos⟩ := of_instantAt? h
    exact ⟨by omega, by rw [hepoch]; omega⟩
  · rintro ⟨hlt, hcount⟩
    rw [hepoch] at hcount
    have hsecs : epoch + micros / 1000000 = i.secs := by omega
    have hnanos : 1000 * (micros % 1000000).toNat = i.nanos := by omega
    rw [instantAt?, hsecs, hnanos]
    exact dif_pos ⟨i.inRange, i.nanosFit⟩

/-- The creation date of a result row: the time of a column with a zone or, if the column does not
decode as such, the civil time of one without a zone, read as UTC. -/
inductive GivesDate (result : ResultRow) (column : String) : Instant → Prop
  | aware {micros : Int} {i : Instant}
      (h : Answers .instant Datum.whole result column (.ok micros))
      (hi : IsTime micros i.secs i.nanos) : GivesDate result column i
  | naive {micros : Int} {aware : DriverError} {t : DateTime} {i : Instant}
      (haware : Answers .instant Datum.whole result column (.error aware))
      (h : Answers .dateTime Datum.whole result column (.ok micros))
      (ht : IsTime micros t.toSeconds t.nanos) (hi : Instant.ofDateTime? t = some i) :
      GivesDate result column i

/-- The microseconds of a creation date, whether or not the calendar reaches that far. -/
inductive GivesMicros (result : ResultRow) (column : String) : Int → Prop
  | aware {micros : Int} (h : Answers .instant Datum.whole result column (.ok micros)) :
      GivesMicros result column micros
  | naive {micros : Int} {aware : DriverError}
      (haware : Answers .instant Datum.whole result column (.error aware))
      (h : Answers .dateTime Datum.whole result column (.ok micros)) :
      GivesMicros result column micros

variable {column : String}

lemma decodeTime_eq_ok_iff {micros : Int} :
    decodeTime result column = .ok micros ↔ GivesMicros result column micros := by
  constructor
  · intro h
    unfold decodeTime at h
    split at h
    · next haware =>
      cases h
      exact .aware (decodeColumn_eq_iff.mp haware)
    · next haware =>
      split at h
      · next hnaive =>
        cases h
        exact .naive (decodeColumn_eq_iff.mp haware) (decodeColumn_eq_iff.mp hnaive)
      · cases h
  · intro h
    unfold decodeTime decodeInstant decodeDateTime
    cases h with
    | aware h => rw [decodeColumn_eq_iff.mpr h]
    | naive haware h => rw [decodeColumn_eq_iff.mpr haware, decodeColumn_eq_iff.mpr h]

lemma decodeTime_eq_error_iff {fault : Fault} :
    decodeTime result column = .error fault ↔ ∃ aware naive, fault = .timestamp column aware naive ∧
      Answers .instant Datum.whole result column (.error aware) ∧
      Answers .dateTime Datum.whole result column (.error naive) := by
  constructor
  · intro h
    unfold decodeTime at h
    split at h
    · cases h
    · next aware haware =>
      split at h
      · cases h
      · next naive hnaive =>
        cases h
        exact ⟨aware, naive, rfl, decodeColumn_eq_iff.mp haware, decodeColumn_eq_iff.mp hnaive⟩
  · rintro ⟨aware, naive, rfl, haware, hnaive⟩
    unfold decodeTime decodeInstant decodeDateTime
    rw [decodeColumn_eq_iff.mpr haware, decodeColumn_eq_iff.mpr hnaive]

lemma givesDate_iff {i : Instant} :
    GivesDate result column i ↔
      ∃ micros, GivesMicros result column micros ∧ instantAt? micros = some i := by
  constructor
  · intro h
    cases h with
    | aware h hi => exact ⟨_, .aware h, instantAt?_eq_some_iff.mpr hi⟩
    | naive haware h ht hi =>
      obtain ⟨-, hsecs, hnanos⟩ := Instant.of_ofDateTime? hi
      rw [← hsecs, ← hnanos] at ht
      exact ⟨_, .naive haware h, instantAt?_eq_some_iff.mpr ht⟩
  · rintro ⟨micros, hmicros, hi⟩
    rw [instantAt?_eq_some_iff] at hi
    cases hmicros with
    | aware h => exact .aware h hi
    | naive haware h =>
      -- every instant has a civil time, which stands for the same number
      have hdateTime := i.ofDateTime?_dateTime
      obtain ⟨-, hsecs, hnanos⟩ := Instant.of_ofDateTime? hdateTime
      rw [hsecs, hnanos] at hi
      exact .naive haware h hi hdateTime

/-! ### Rows -/

/-- A field with the text that the result row gives for it. -/
def GivesField (result : ResultRow) (name : String) (field : String × String) : Prop :=
  field.1 = name ∧ Answers .string Datum.string result name (.ok field.2)

lemma decodeFields_eq_ok_iff {names : List String} {fields : List (String × String)} :
    decodeFields result names = .ok fields ↔ List.Forall₂ (GivesField result) names fields := by
  induction names generalizing fields with
  | nil => simp [decodeFields, eq_comm]
  | cons name names ih =>
    rw [List.forall₂_cons_left_iff, decodeFields]
    constructor
    · intro h
      split at h
      · cases h
      · next value hvalue =>
        cases hrest : decodeFields result names with
        | error fault =>
          rw [hrest] at h
          cases h
        | ok rest =>
          rw [hrest] at h
          cases h
          exact ⟨(name, value), rest, ⟨rfl, decodeColumn_eq_iff.mp hvalue⟩, ih.mp hrest, rfl⟩
    · rintro ⟨⟨_, value⟩, rest, ⟨rfl, hvalue⟩, hrest, rfl⟩
      rw [decodeString, decodeColumn_eq_iff.mpr hvalue, ih.mpr hrest]
      rfl

/-- A field that does not decode is found only when all before it do. -/
lemma decodeFields_eq_error_iff {names : List String} {fault : Fault} :
    decodeFields result names = .error fault ↔
      ∃ before name after e, names = before ++ name :: after ∧
        (∀ field ∈ before, ∃ value, Answers .string Datum.string result field (.ok value)) ∧
        Answers .string Datum.string result name (.error e) ∧ fault = .decode name e := by
  induction names with
  | nil => simp [decodeFields]
  | cons name names ih =>
    rw [decodeFields]
    constructor
    · intro h
      split at h
      · next e he =>
        cases h
        exact ⟨[], name, names, e, rfl, by simp, decodeColumn_eq_iff.mp he, rfl⟩
      · next value hvalue =>
        cases hrest : decodeFields result names with
        | ok rest =>
          rw [hrest] at h
          cases h
        | error fault =>
          rw [hrest] at h
          cases h
          obtain ⟨before, bad, after, e, rfl, hbefore, hbad, rfl⟩ := ih.mp hrest
          refine ⟨name :: before, bad, after, e, rfl, ?_, hbad, rfl⟩
          exact List.forall_mem_cons.mpr ⟨⟨value, decodeColumn_eq_iff.mp hvalue⟩, hbefore⟩
    · rintro ⟨before, bad, after, e, hnames, hbefore, hbad, rfl⟩
      cases before with
      | nil =>
        obtain ⟨rfl, rfl⟩ := List.cons.inj hnames
        rw [decodeString, decodeColumn_eq_iff.mpr hbad]
      | cons field before =>
        obtain ⟨rfl, rfl⟩ := List.cons.inj hnames
        obtain ⟨⟨value, hvalue⟩, hbefore⟩ := List.forall_mem_cons.mp hbefore
        have hrest := ih.mpr ⟨before, bad, after, e, rfl, hbefore, hbad, rfl⟩
        rw [decodeString, decodeColumn_eq_iff.mpr hvalue, hrest]
        rfl

lemma exists_decodeFields_iff {names : List String} :
    (∃ fields, decodeFields result names = .ok fields) ↔
      ∀ name ∈ names, ∃ value, Answers .string Datum.string result name (.ok value) := by
  simp only [decodeFields_eq_ok_iff]
  induction names with
  | nil => simp
  | cons name names ih =>
    simp only [List.forall_mem_cons, ← ih, List.forall₂_cons_left_iff]
    constructor
    · rintro ⟨_, field, rest, hfield, hrest, rfl⟩
      exact ⟨⟨field.2, hfield.2⟩, rest, hrest⟩
    · rintro ⟨⟨value, hvalue⟩, rest, hrest⟩
      exact ⟨_, (name, value), rest, ⟨rfl, hvalue⟩, hrest, rfl⟩

variable {d : Descriptor}

lemma decodeRow_eq_ok_iff {answer : Option Row} :
    decodeRow d result = .ok answer ↔ ∃ fields micros,
      decodeFields result d.keyFields = .ok fields ∧ decodeTime result d.property = .ok micros ∧
        (instantAt? micros).map (⟨⟨fields⟩, ·⟩) = answer := by
  unfold decodeRow
  cases hfields : decodeFields result d.keyFields with
  | error fault => simp [bind, Except.bind]
  | ok fields =>
    cases htime : decodeTime result d.property with
    | error fault => simp [bind, Except.bind]
    | ok micros => simp [bind, Except.bind, pure, Except.pure]

/-- The creation date counts only when all key fields decode. -/
lemma decodeRow_eq_error_iff {fault : Fault} :
    decodeRow d result = .error fault ↔ decodeFields result d.keyFields = .error fault ∨
      (∃ fields, decodeFields result d.keyFields = .ok fields) ∧
        decodeTime result d.property = .error fault := by
  unfold decodeRow
  cases hfields : decodeFields result d.keyFields with
  | error fault => simp [bind, Except.bind]
  | ok fields =>
    cases htime : decodeTime result d.property with
    | error fault => simp [bind, Except.bind]
    | ok micros => simp [bind, Except.bind, pure, Except.pure]

/-- A result row decodes if and only if each key field decodes as a text and the column of the
date as a time with a zone or else as one without, within the calendar; the key then has the key
fields of the descriptor in their order with these texts, and the date is that time or the civil
time read as UTC. The first key field that does not decode is the fault, whatever else does not
decode. Both faults of the date are reported just when every key field decodes and the date does
neither way, and a date past the calendar ends the decoding without a row. No other fault arises.
A text is had from bytes just when they encode it, and a number from one to eight bytes. -/
theorem decodeRow_exact (d : Descriptor) (result : ResultRow) :
    (∀ row : Row, decodeRow d result = .ok (some row) ↔
        List.Forall₂ (GivesField result) d.keyFields row.key.fields ∧
          GivesDate result d.property row.createdAt) ∧
      (∀ column e, decodeRow d result = .error (.decode column e) ↔
        ∃ before after, d.keyFields = before ++ column :: after ∧
          (∀ field ∈ before, ∃ value, Answers .string Datum.string result field (.ok value)) ∧
          Answers .string Datum.string result column (.error e)) ∧
      (∀ column aware naive, decodeRow d result = .error (.timestamp column aware naive) ↔
        (∀ field ∈ d.keyFields, ∃ value, Answers .string Datum.string result field (.ok value)) ∧
          column = d.property ∧ Answers .instant Datum.whole result column (.error aware) ∧
          Answers .dateTime Datum.whole result column (.error naive)) ∧
      (decodeRow d result = .ok none ↔
        (∀ field ∈ d.keyFields, ∃ value, Answers .string Datum.string result field (.ok value)) ∧
          ∃ micros, GivesMicros result d.property micros ∧
            ∀ i : Instant, ¬ IsTime micros i.secs i.nanos) ∧
      (∀ e, decodeRow d result ≠ .error (.driver e)) ∧
      (∀ (datum : Datum) (s : String), datum.string = .ok s ↔ datum.HoldsText s) ∧
      ∀ (datum : Datum) (n : Int), datum.whole = .ok n ↔ datum.HoldsNumber n := by
  refine ⟨?_, ?_, ?_, ?_, ?_, fun _ _ => Datum.string_eq_ok_iff, fun _ _ => Datum.whole_eq_ok_iff⟩
  · rintro ⟨⟨fields⟩, i⟩
    simp only [decodeRow_eq_ok_iff, Option.map_eq_some_iff, Row.mk.injEq, Key.mk.injEq,
      decodeFields_eq_ok_iff, decodeTime_eq_ok_iff, givesDate_iff]
    constructor
    · rintro ⟨_, micros, hfields, hmicros, _, hi, rfl, rfl⟩
      exact ⟨hfields, micros, hmicros, hi⟩
    · rintro ⟨hfields, micros, hmicros, hi⟩
      exact ⟨fields, micros, hfields, hmicros, i, hi, rfl, rfl⟩
  · intro column e
    simp only [decodeRow_eq_error_iff, decodeFields_eq_error_iff, decodeTime_eq_error_iff]
    constructor
    · rintro (⟨before, name, after, _, hnames, hbefore, hname, hfault⟩ | ⟨-, _, _, hfault, -⟩)
      · cases hfault
        exact ⟨before, after, hnames, hbefore, hname⟩
      · cases hfault
    · rintro ⟨before, after, hnames, hbefore, hcolumn⟩
      exact .inl ⟨before, column, after, e, hnames, hbefore, hcolumn, rfl⟩
  · intro column aware naive
    rw [decodeRow_eq_error_iff, exists_decodeFields_iff, decodeFields_eq_error_iff,
      decodeTime_eq_error_iff]
    constructor
    · rintro (⟨_, _, _, _, -, -, -, hfault⟩ | ⟨hfields, _, _, hfault, haware, hnaive⟩)
      · cases hfault
      · cases hfault
        exact ⟨hfields, rfl, haware, hnaive⟩
    · rintro ⟨hfields, rfl, haware, hnaive⟩
      exact .inr ⟨hfields, aware, naive, rfl, haware, hnaive⟩
  · simp only [← exists_decodeFields_iff, decodeRow_eq_ok_iff, Option.map_eq_none_iff,
      ← decodeTime_eq_ok_iff, ← instantAt?_eq_some_iff, ← Option.eq_none_iff_forall_ne_some]
    constructor
    · rintro ⟨fields, micros, hfields, hmicros, hnone⟩
      exact ⟨⟨fields, hfields⟩, micros, hmicros, hnone⟩
    · rintro ⟨⟨fields, hfields⟩, micros, hmicros, hnone⟩
      exact ⟨fields, micros, hfields, hmicros, hnone⟩
  · -- the faults of the fields and of the date name a column, so none is one of the driver
    intro e h
    rw [decodeRow_eq_error_iff, decodeFields_eq_error_iff, decodeTime_eq_error_iff] at h
    rcases h with ⟨_, _, _, _, -, -, -, hfault⟩ | ⟨-, _, _, hfault, -⟩ <;> cases hfault

/-- No column decodes, and the first field of the key is named. -/
example : decodeRow (Kind.descriptor .version)
    [(⟨"created_at", .text⟩, .text "now"), (⟨"version", .int4⟩, .integer 7),
      (⟨"name", .text⟩, .bytes [0xff]), (⟨"name", .text⟩, .null)] =
    .error (.decode "name" (.columnDecode (.named "name") .null)) := rfl

end Backfill.Source
