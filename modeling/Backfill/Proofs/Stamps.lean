import Mathlib.Tactic.Ring
import Backfill.Proofs.Dates
import Backfill.Row
import Backfill.Source.Decode

/-!
# What a stamp keeps

A stamp shows the civil time of an instant, cut to microseconds. Read back as a time in UTC, it
gives the seconds and the microseconds of the instant, so that nothing but the nanoseconds below a
microsecond is lost.
-/

namespace Backfill

namespace Calendar

open Text

/-! ### Fields of a stamp -/

lemma field?_append {ds : List Char} (h : ∀ c ∈ ds, c.isDigit) (rest : List Char) :
    field? ds.length (ds ++ rest) = some (ofDigits ds, rest) := by
  simpa [field?] using h

lemma fieldAfter?_zeroPadded (mark : Char) {width n : Nat} (hwidth : 0 < width)
    (h : n < 10 ^ width) (rest : List Char) :
    fieldAfter? mark width (mark :: (zeroPadded width n ++ rest)) = some (n, rest) := by
  have hlength : (digits n).length ≤ width :=
    (Nat.length_toDigits_le_iff (by decide) hwidth).mpr h
  have hdigits : ∀ c ∈ zeroPadded width n, c.isDigit := fun c => isDigit_of_mem_zeroPadded
  have hfield := field?_append hdigits rest
  rw [length_zeroPadded hlength, ofDigits_zeroPadded] at hfield
  rw [fieldAfter?, if_pos rfl, hfield]

lemma year?_minus (cs : List Char) :
    year? ('-' :: cs) =
      (field? (cs.takeWhile Char.isDigit).length cs).map fun (n, rest) => (-(n : Int), rest) :=
  rfl

lemma year?_plus (cs : List Char) :
    year? ('+' :: cs) =
      (field? (cs.takeWhile Char.isDigit).length cs).map fun (n, rest) => ((n : Int), rest) :=
  rfl

lemma year?_of_isDigit {c : Char} (h : c.isDigit) (cs : List Char) :
    year? (c :: cs) = (field? ((c :: cs).takeWhile Char.isDigit).length (c :: cs)).map
      fun (n, rest) => ((n : Int), rest) := by
  unfold year?
  split
  case h_3 => rfl
  all_goals simp_all

/-- The year ends before the first hyphen that is not its sign. -/
lemma year?_yearText (year : Int) (rest : List Char) :
    year? (yearText year ++ '-' :: rest) = some (year, '-' :: rest) := by
  have hdigits : ∀ c ∈ zeroPadded 4 year.natAbs, c.isDigit := fun c => isDigit_of_mem_zeroPadded
  have hnumber : field? ((zeroPadded 4 year.natAbs ++ '-' :: rest).takeWhile Char.isDigit).length
      (zeroPadded 4 year.natAbs ++ '-' :: rest) = some (year.natAbs, '-' :: rest) := by
    rw [List.takeWhile_append_of_pos hdigits]
    simpa using field?_append hdigits ('-' :: rest)
  unfold yearText
  split_ifs with hplain hneg
  · obtain ⟨c, cs, hcs⟩ := List.exists_cons_of_ne_nil (zeroPadded_ne_nil 4 year.natAbs)
    have hc : c.isDigit := hdigits c (hcs ▸ List.mem_cons_self)
    rw [hcs] at hnumber ⊢
    rw [List.cons_append, year?_of_isDigit hc, ← List.cons_append, hnumber]
    simp only [Option.map_some, Int.natAbs_of_nonneg hplain.1]
  · rw [List.cons_append, year?_minus, hnumber]
    simp only [Option.map_some, ← Int.eq_neg_natAbs_of_nonpos hneg.le]
  · rw [List.cons_append, year?_plus, hnumber]
    simp only [Option.map_some, Int.natAbs_of_nonneg (Int.not_lt.mp hneg)]

/-! ### The civil time of an instant -/

lemma daysInMonth_le (year : Int) (month : Nat) : daysInMonth year month ≤ 31 := by
  unfold daysInMonth
  split_ifs <;> decide

/-- A civil time that exists. A leap second is second 60. -/
structure DateTime.Exists (t : DateTime) : Prop where
  date : t.date.Exists
  hour_lt : t.hour < 24
  minute_lt : t.minute < 60
  second_le : t.second ≤ 60

lemma DateTime.toSeconds_ofSeconds (secs : Int) (nanos : Nat) :
    (ofSeconds secs nanos).toSeconds = secs := by
  simp only [toSeconds, ofSeconds, Date.toDays_ofDays]
  omega

namespace Instant

/-- The civil time that a stamp shows. -/
def shown (i : Instant) : DateTime :=
  { i.dateTime with second := i.shownSecond, nanos := 1000 * (i.shownNanos / 1000) }

lemma second_dateTime (i : Instant) : (i.dateTime.second : Int) = i.secs % 60 := by
  simp only [dateTime, DateTime.ofSeconds]
  omega

/-- Only a leap second has a number of its own. -/
lemma shownSecond_eq (i : Instant) :
    i.nanos < 1000000000 ∧ i.shownSecond = i.dateTime.second ∨
      1000000000 ≤ i.nanos ∧ i.nanos < 2000000000 ∧ i.dateTime.second = 59 ∧
        i.shownSecond = 60 := by
  have hsecond := i.second_dateTime
  unfold shownSecond
  rcases i.nanosFit with h | ⟨hlast, h⟩
  · left
    omega
  · by_cases hleap : i.nanos < 1000000000
    · left
      omega
    · right
      omega

lemma exists_shown (i : Instant) : i.shown.Exists where
  date := Date.exists_ofDays (i.secs / 86400)
  hour_lt := by
    simp only [shown, dateTime, DateTime.ofSeconds]
    omega
  minute_lt := by
    simp only [shown, dateTime, DateTime.ofSeconds]
    omega
  second_le := by
    have hsecond := i.second_dateTime
    show i.shownSecond ≤ 60
    rcases i.shownSecond_eq with ⟨-, h⟩ | ⟨-, -, -, h⟩ <;> omega

lemma ofStamp?_stampChars (i : Instant) : ofStamp? i.stampChars = some i.shown := by
  obtain ⟨hdate, hhour, hminute, hsecond⟩ := i.exists_shown
  have hmonth : i.dateTime.date.month < 10 ^ 2 := Nat.lt_of_le_of_lt hdate.month_le (by decide)
  have hday : i.dateTime.date.day < 10 ^ 2 :=
    Nat.lt_of_le_of_lt (hdate.day_le.trans (daysInMonth_le _ _)) (by decide)
  have hhour : i.dateTime.hour < 10 ^ 2 := Nat.lt_trans hhour (by decide)
  have hminute : i.dateTime.minute < 10 ^ 2 := Nat.lt_trans hminute (by decide)
  have hsecond : i.shownSecond < 10 ^ 2 := Nat.lt_of_le_of_lt hsecond (by decide)
  have hmicros : i.shownNanos / 1000 < 10 ^ 6 := by
    unfold shownNanos
    omega
  unfold ofStamp? stampChars dateText clockText
  simp only [List.append_assoc, List.cons_append, year?_yearText, bind, Option.bind_some,
    fieldAfter?_zeroPadded _ Nat.two_pos hmonth, fieldAfter?_zeroPadded _ Nat.two_pos hday,
    fieldAfter?_zeroPadded _ Nat.two_pos hhour, fieldAfter?_zeroPadded _ Nat.two_pos hminute,
    fieldAfter?_zeroPadded _ Nat.two_pos hsecond, fieldAfter?_zeroPadded _ (Nat.succ_pos 5) hmicros]
  rfl

lemma toMicros_shown (i : Instant) : i.shown.toMicros = (i.secs, i.nanos / 1000) := by
  have hsecs : i.dateTime.toSeconds = i.secs := DateTime.toSeconds_ofSeconds i.secs i.nanos
  have hsecond := i.second_dateTime
  have hshown : i.shown.toSeconds = i.secs + (i.shownSecond - i.dateTime.second) := by
    rw [← hsecs]
    simp only [DateTime.toSeconds, shown]
    omega
  have hnanos : i.shown.nanos / 1000 = i.nanos % 1000000000 / 1000 :=
    Nat.mul_div_cancel_left _ (by decide)
  unfold DateTime.toMicros
  -- a leap second is shown as second 60 and counted in the one before
  rcases i.shownSecond_eq with ⟨hlt, hs⟩ | ⟨hle, hlt, h59, hs⟩
  · have hne : i.shown.second ≠ 60 := by
      show i.shownSecond ≠ 60
      omega
    rw [if_neg hne, hshown, hnanos, hs, Nat.mod_eq_of_lt hlt, Int.sub_self, Int.add_zero]
  · rw [if_pos (show i.shown.second = 60 from hs), hshown, hnanos, hs, h59]
    refine Prod.ext ?_ ?_
    · show i.secs + (60 - 59) - 1 = i.secs
      omega
    · show 1000000 + i.nanos % 1000000000 / 1000 = i.nanos / 1000
      omega

/-- The stamp depends on no more than the seconds and the microseconds. -/
lemma stampChars_congr {i i' : Instant} (hsecs : i.secs = i'.secs)
    (hmicros : i.nanos / 1000 = i'.nanos / 1000) : i.stampChars = i'.stampChars := by
  have hsecond : i.nanos / 1000000000 = i'.nanos / 1000000000 := by omega
  have hfraction : i.nanos % 1000000000 / 1000 = i'.nanos % 1000000000 / 1000 := by omega
  simp only [stampChars, shownSecond, shownNanos, dateTime, DateTime.ofSeconds, hsecs, hsecond,
    hfraction]

end Instant

end Calendar

lemma Source.of_instantAt? {micros : Int} {i : Calendar.Instant} (h : instantAt? micros = some i) :
    i.secs = epoch + micros / 1000000 ∧ (i.nanos : Int) = 1000 * (micros % 1000000) := by
  unfold instantAt? Calendar.Instant.ofParts? at h
  split_ifs at h
  cases h
  exact ⟨rfl, by dsimp only; omega⟩

namespace Row

open Calendar

lemma ofStamp?_stamp (r : Row) : ofStamp? r.stamp.toList = some r.createdAt.shown := by
  rw [stamp, Instant.stamp, String.toList_ofList, Instant.ofStamp?_stampChars]

/-- Reading the stamp of a row back gives a civil time that exists, and in Unix time exactly the
seconds and the microseconds of the row, where days are counted as the calendar goes on from each
day to the next. So stamps are equal if and only if these are, and a value of the source, which
counts microseconds, can be had back from the stamp. -/
theorem stamp_keeps_microseconds (r : Row) :
    (∃ t, ofStamp? r.stamp.toList = some t ∧ t.Exists ∧
        t.toMicros = (r.createdAt.secs, r.createdAt.nanos / 1000)) ∧
      (∀ r' : Row, r.stamp = r'.stamp ↔
        r.createdAt.secs = r'.createdAt.secs ∧
          r.createdAt.nanos / 1000 = r'.createdAt.nanos / 1000) ∧
      (∀ micros : Int, Source.instantAt? micros = some r.createdAt →
        ∃ t, ofStamp? r.stamp.toList = some t ∧
          1000000 * (t.toMicros.1 - Source.epoch) + t.toMicros.2 = micros) ∧
      Date.toDays ⟨1970, 1, 1⟩ = 0 ∧ ∀ d : Date, d.Exists → d.next.toDays = d.toDays + 1 := by
  have hread (r : Row) := r.ofStamp?_stamp
  have hmicros (r : Row) := r.createdAt.toMicros_shown
  refine ⟨⟨_, hread r, r.createdAt.exists_shown, hmicros r⟩, ?_, ?_, rfl, fun d => Date.toDays_next⟩
  · intro r'
    constructor
    · intro h
      have hshown : r.createdAt.shown = r'.createdAt.shown := by
        have := hread r
        rw [h, hread r'] at this
        exact (Option.some.inj this).symm
      have := hmicros r
      rw [hshown, hmicros r'] at this
      exact Prod.mk.inj this.symm
    · rintro ⟨hsecs, hnanos⟩
      exact congrArg String.ofList (Instant.stampChars_congr hsecs hnanos)
  · intro micros h
    refine ⟨_, hread r, ?_⟩
    obtain ⟨hsecs, hnanos⟩ := Source.of_instantAt? h
    rw [hmicros r]
    show 1000000 * (r.createdAt.secs - Source.epoch) + ((r.createdAt.nanos / 1000 : Nat) : Int) =
      micros
    omega

/-- A row of the last microsecond before 2000. -/
def lastBeforeEpoch : Row :=
  ⟨.ofCrate "serde", ⟨946684799, 999999000, by decide, by decide⟩⟩

/-- The value -1 of the source can be had back, and 1900 is no leap year. -/
theorem stamp_keeps_microseconds_before_epoch :
    Source.instantAt? (-1) = some lastBeforeEpoch.createdAt ∧
      (∃ t, ofStamp? lastBeforeEpoch.stamp.toList = some t ∧
        1000000 * (t.toMicros.1 - Source.epoch) + t.toMicros.2 = -1) ∧
      Date.Exists ⟨1900, 2, 28⟩ ∧ Date.next ⟨1900, 2, 28⟩ = ⟨1900, 3, 1⟩ ∧
      (Date.next ⟨1900, 2, 28⟩).toDays = Date.toDays ⟨1900, 2, 28⟩ + 1 := by
  have hinstant : Source.instantAt? (-1) = some lastBeforeEpoch.createdAt := rfl
  have hday : Date.Exists ⟨1900, 2, 28⟩ := ⟨by decide, by decide, by decide, by decide⟩
  obtain ⟨-, -, hvalue, -, hnext⟩ := stamp_keeps_microseconds lastBeforeEpoch
  exact ⟨hinstant, hvalue (-1) hinstant, hday, by decide, hnext _ hday⟩

end Row

end Backfill
