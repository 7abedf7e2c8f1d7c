import Mathlib.Data.Prod.Lex
import Mathlib.Order.Monotone.Basic
import Backfill.Proofs.Stamps

/-!
# Civil times read as UTC

A civil time and its instant determine each other, and they have the same order. Months are numbered
through all years, and each begins when the one before it is over: so a later date is a later day,
and the date that is found for a day is the one that the day was counted from.
-/

namespace Backfill

namespace Calendar

/-! ### Months without gaps -/

/-- The day on which a month begins, months being counted from January of the year 0. -/
def monthDays (month : Int) : Int :=
  Date.toDays ⟨month / 12, (month % 12).toNat + 1, 1⟩

lemma one_le_daysInMonth (year : Int) (month : Nat) : 1 ≤ daysInMonth year month := by
  unfold daysInMonth
  split_ifs <;> decide

/-- A month lasts as long as its number of days says. -/
lemma monthDays_succ (month : Int) :
    monthDays (month + 1) =
      monthDays month + daysInMonth (month / 12) ((month % 12).toNat + 1) := by
  have hlength := one_le_daysInMonth (month / 12) ((month % 12).toNat + 1)
  have hlast : Date.Exists ⟨month / 12, (month % 12).toNat + 1,
      daysInMonth (month / 12) ((month % 12).toNat + 1)⟩ :=
    ⟨Nat.le_add_left 1 _, by dsimp only; omega, hlength, Nat.le_refl _⟩
  -- the first day of the next month is the one after the last day of this month
  have hnext : monthDays (month + 1) = Date.toDays (Date.next ⟨month / 12, (month % 12).toNat + 1,
      daysInMonth (month / 12) ((month % 12).toNat + 1)⟩) := by
    rw [Date.next, if_neg (Nat.lt_irrefl _)]
    split_ifs with hmonth
    · dsimp only at hmonth
      rw [monthDays, show (month + 1) / 12 = month / 12 by omega,
        show ((month + 1) % 12).toNat = (month % 12).toNat + 1 by omega]
    · dsimp only at hmonth
      rw [monthDays, show (month + 1) / 12 = month / 12 + 1 by omega,
        show ((month + 1) % 12).toNat = 0 by omega]
  rw [hnext, Date.toDays_next hlast, monthDays, Date.toDays_mk, Date.toDays_mk]
  omega

lemma monthDays_le {month later : Int} (h : month ≤ later) :
    monthDays month ≤ monthDays later := by
  have hmono : Monotone monthDays := by
    apply monotone_int_of_le_succ
    intro month
    rw [monthDays_succ]
    omega
  exact hmono h

/-! ### The order of dates -/

namespace Date

/-- The number of the month of a date, counted from January of the year 0. -/
def months (d : Date) : Int :=
  12 * d.year + (d.month - 1)

variable {d d' : Date}

lemma Valid.exists (h : d.Valid) : d.Exists :=
  ⟨h.2.2.1, h.2.2.2.1, h.2.2.2.2.1, h.2.2.2.2.2⟩

lemma months_div (h : d.Exists) : d.months / 12 = d.year := by
  obtain ⟨h1, h12, -, -⟩ := h
  unfold months
  omega

lemma months_mod (h : d.Exists) : (d.months % 12).toNat + 1 = d.month := by
  obtain ⟨h1, h12, -, -⟩ := h
  unfold months
  omega

lemma toDays_eq (h : d.Exists) : d.toDays = monthDays d.months + (d.day - 1) := by
  have hfirst : toDays ⟨d.year, d.month, d.day⟩ = toDays ⟨d.year, d.month, 1⟩ + (d.day - 1) := by
    rw [toDays_mk, toDays_mk]
    omega
  rw [monthDays, months_div h, months_mod h]
  exact hfirst

lemma toDays_lt_monthDays_succ (h : d.Exists) : d.toDays < monthDays (d.months + 1) := by
  have hday := h.day_le
  rw [toDays_eq h, monthDays_succ, months_div h, months_mod h]
  omega

lemma monthDays_le_toDays (h : d.Exists) : monthDays d.months ≤ d.toDays := by
  have hday := h.one_le_day
  rw [toDays_eq h]
  omega

lemma toDays_lt_of_months_lt (h : d.Exists) (h' : d'.Exists) (hlt : d.months < d'.months) :
    d.toDays < d'.toDays :=
  calc d.toDays < monthDays (d.months + 1) := toDays_lt_monthDays_succ h
    _ ≤ monthDays d'.months := monthDays_le hlt
    _ ≤ d'.toDays := monthDays_le_toDays h'

/-- A date is determined by its day. -/
lemma toDays_inj (h : d.Exists) (h' : d'.Exists) (heq : d.toDays = d'.toDays) : d = d' := by
  have hmonths : d.months = d'.months := by
    rcases Int.lt_trichotomy d.months d'.months with hlt | hsame | hlt
    · exact absurd heq (toDays_lt_of_months_lt h h' hlt).ne
    · exact hsame
    · exact absurd heq (toDays_lt_of_months_lt h' h hlt).ne'
  have hyear : d.year = d'.year := by rw [← months_div h, hmonths, months_div h']
  have hmonth : d.month = d'.month := by rw [← months_mod h, hmonths, months_mod h']
  have hday : d.day = d'.day := by
    rw [toDays_eq h, toDays_eq h', hmonths] at heq
    omega
  obtain ⟨year, month, day⟩ := d
  obtain ⟨year', month', day'⟩ := d'
  rw [mk.injEq]
  exact ⟨hyear, hmonth, hday⟩

theorem ofDays_toDays (h : d.Exists) : ofDays d.toDays = d :=
  toDays_inj (exists_ofDays d.toDays) h (toDays_ofDays d.toDays)

/-- The dates of the years that can be represented lie between the first and the last of them. -/
lemma toDays_bounds (h : d.Valid) :
    toDays ⟨minYear, 1, 1⟩ ≤ d.toDays ∧ d.toDays ≤ toDays ⟨maxYear, 12, 31⟩ := by
  obtain ⟨hmin, hmax, h1, h12, -, -⟩ := id h
  have hfirst : monthDays (12 * minYear) ≤ monthDays d.months :=
    monthDays_le (by unfold months; omega)
  have hlast : monthDays (d.months + 1) ≤ monthDays (12 * maxYear + 12) :=
    monthDays_le (by unfold months; omega)
  have hbegin : monthDays (12 * minYear) = toDays ⟨minYear, 1, 1⟩ := rfl
  have hend : monthDays (12 * maxYear + 12) = toDays ⟨maxYear, 12, 31⟩ + 1 := rfl
  have := monthDays_le_toDays h.exists
  have := toDays_lt_monthDays_succ h.exists
  omega

lemma valid_of_toDays (h : d.Exists) (hmin : toDays ⟨minYear, 1, 1⟩ ≤ d.toDays)
    (hmax : d.toDays ≤ toDays ⟨maxYear, 12, 31⟩) : d.Valid := by
  have hfirst : Exists ⟨minYear, 1, 1⟩ := ⟨by decide, by decide, by decide, by decide⟩
  have hlast : Exists ⟨maxYear, 12, 31⟩ := ⟨by decide, by decide, by decide, by decide⟩
  have hone := h.one_le_month
  have htwelve := h.month_le
  refine ⟨?_, ?_, hone, htwelve, h.one_le_day, h.day_le⟩
  · by_contra hyear
    have := toDays_lt_of_months_lt h hfirst (by unfold months; dsimp only; omega)
    omega
  · by_contra hyear
    have := toDays_lt_of_months_lt hlast h (by unfold months; dsimp only; omega)
    omega

end Date

/-! ### The order of civil times -/

namespace DateTime

/-- The fields of a civil time from the year to the nanoseconds, in lexicographic order. -/
def fields (t : DateTime) : ℤ ×ₗ ℕ ×ₗ ℕ ×ₗ ℕ ×ₗ ℕ ×ₗ ℕ ×ₗ ℕ :=
  toLex (t.date.year, toLex (t.date.month, toLex (t.date.day, toLex (t.hour, toLex (t.minute,
    toLex (t.second, t.nanos))))))

lemma fields_injective : Function.Injective fields := by
  rintro ⟨⟨year, month, day⟩, hour, minute, second, nanos⟩ ⟨⟨_, _, _⟩, _, _, _, _⟩ h
  simp only [fields, toLex_inj, Prod.mk.injEq] at h
  obtain ⟨rfl, rfl, rfl, rfl, rfl, rfl, rfl⟩ := h
  rfl

variable {t t' : DateTime}

/-- The first field that differs decides, because what the fields after it can make up for is less
than one of its units. -/
lemma toSeconds_lt (h : t.Valid) (h' : t'.Valid) (hlt : t.fields < t'.fields) :
    toLex (t.toSeconds, t.nanos) < toLex (t'.toSeconds, t'.nanos) := by
  obtain ⟨hdate, hhour, hminute, hsecond, -⟩ := h
  obtain ⟨hdate', hhour', hminute', hsecond', -⟩ := h'
  have hmonths := Date.toDays_lt_of_months_lt hdate.exists hdate'.exists
  have hdays (hyear : t.date.year = t'.date.year) (hmonth : t.date.month = t'.date.month) :
      t.date.toDays - t.date.day = t'.date.toDays - t'.date.day := by
    rw [Date.toDays_eq hdate.exists, Date.toDays_eq hdate'.exists, Date.months, Date.months, hyear,
      hmonth]
    omega
  have hmonth := hdate.exists.month_le
  have hmonth' := hdate'.exists.one_le_month
  unfold Date.months at hmonths
  simp only [fields, Prod.Lex.toLex_lt_toLex] at hlt
  simp only [Prod.Lex.toLex_lt_toLex, toSeconds]
  rcases hlt with hyear | ⟨hyear, hmonth | ⟨hmonth, hrest⟩⟩
  · have := hmonths (by omega)
    omega
  · have := hmonths (by omega)
    omega
  · -- in one month the day decides, and on one day the clock
    have := hdays hyear hmonth
    omega

lemma ofSeconds_toSeconds (h : t.Valid) : ofSeconds t.toSeconds t.nanos = t := by
  obtain ⟨hdate, hhour, hminute, hsecond, -⟩ := h
  have hday : t.toSeconds / 86400 = t.date.toDays := by
    unfold toSeconds
    omega
  have hclock : (t.toSeconds % 86400).toNat = 3600 * t.hour + 60 * t.minute + t.second := by
    unfold toSeconds
    omega
  rw [ofSeconds, hday, hclock, Date.ofDays_toDays hdate.exists,
    show (3600 * t.hour + 60 * t.minute + t.second) / 3600 = t.hour by omega,
    show (3600 * t.hour + 60 * t.minute + t.second) / 60 % 60 = t.minute by omega,
    show (3600 * t.hour + 60 * t.minute + t.second) % 60 = t.second by omega]

end DateTime

/-! ### The instant of a civil time -/

namespace Instant

variable {t t' : DateTime} {i i' : Instant}

lemma exists_ofDateTime? (h : t.Valid) : ∃ i, ofDateTime? t = some i := by
  obtain ⟨hmin, hmax⟩ := Date.toDays_bounds h.1
  obtain ⟨-, hhour, hminute, hsecond, hnanos⟩ := id h
  have hrange : minSeconds ≤ t.toSeconds ∧ t.toSeconds ≤ maxSeconds := by
    unfold minSeconds maxSeconds DateTime.toSeconds
    omega
  have hlast : NanosFit (t.toSeconds % 60 = 59) t.nanos := by
    refine hnanos.imp_right fun hleap => ⟨?_, hleap.2⟩
    have := hleap.1
    unfold DateTime.toSeconds
    omega
  exact ⟨_, by rw [ofDateTime?, if_pos h, ofParts?, dif_pos ⟨hrange, hlast⟩]⟩

lemma of_ofDateTime? (h : ofDateTime? t = some i) :
    t.Valid ∧ i.secs = t.toSeconds ∧ i.nanos = t.nanos := by
  unfold ofDateTime? ofParts? at h
  split_ifs at h with hvalid
  cases h
  exact ⟨hvalid, rfl, rfl⟩

lemma dateTime_of_ofDateTime? (h : ofDateTime? t = some i) : i.dateTime = t := by
  obtain ⟨hvalid, hsecs, hnanos⟩ := of_ofDateTime? h
  rw [dateTime, hsecs, hnanos, DateTime.ofSeconds_toSeconds hvalid]

lemma valid_dateTime (i : Instant) : i.dateTime.Valid := by
  have hsecond := i.second_dateTime
  have hdays : i.dateTime.date.toDays = i.secs / 86400 := Date.toDays_ofDays _
  obtain ⟨hmin, hmax⟩ := i.inRange
  unfold minSeconds at hmin
  unfold maxSeconds at hmax
  refine ⟨Date.valid_of_toDays (Date.exists_ofDays _) ?_ ?_, ?_, ?_, ?_, ?_⟩
  · rw [hdays]
    omega
  · rw [hdays]
    omega
  · simp only [dateTime, DateTime.ofSeconds]
    omega
  · simp only [dateTime, DateTime.ofSeconds]
    omega
  · omega
  · exact i.nanosFit.imp_right fun hleap => ⟨by omega, hleap.2⟩

/-- Every instant is the one of a civil time. -/
lemma ofDateTime?_dateTime (i : Instant) : ofDateTime? i.dateTime = some i := by
  have hsecs : i.dateTime.toSeconds = i.secs := DateTime.toSeconds_ofSeconds i.secs i.nanos
  rw [ofDateTime?, if_pos i.valid_dateTime, hsecs]
  exact dif_pos ⟨i.inRange, i.nanosFit⟩

/-- The second that a stamp shows for a civil time. -/
lemma shownSecond_of_ofDateTime? (h : ofDateTime? t = some i) :
    i.shownSecond = if t.nanos < 1000000000 then t.second else 60 := by
  obtain ⟨-, -, hnanos⟩ := of_ofDateTime? h
  rcases i.shownSecond_eq with ⟨hlt, hshown⟩ | ⟨hle, -, -, hshown⟩
  · rw [if_pos (hnanos ▸ hlt), hshown, dateTime_of_ofDateTime? h]
  · rw [if_neg (hnanos ▸ Nat.not_lt.mpr hle), hshown]

/-- Civil times and their instants have the same order. -/
lemma fields_lt_iff (h : ofDateTime? t = some i) (h' : ofDateTime? t' = some i') :
    t.fields < t'.fields ↔ toLex (i.secs, i.nanos) < toLex (i'.secs, i'.nanos) := by
  obtain ⟨hvalid, hsecs, hnanos⟩ := of_ofDateTime? h
  obtain ⟨hvalid', hsecs', hnanos'⟩ := of_ofDateTime? h'
  rw [hsecs, hnanos, hsecs', hnanos']
  constructor
  · exact DateTime.toSeconds_lt hvalid hvalid'
  · intro hlt
    rcases lt_trichotomy t.fields t'.fields with hfields | hfields | hfields
    · exact hfields
    · rw [DateTime.fields_injective hfields] at hlt
      exact absurd hlt (lt_irrefl _)
    · exact absurd (DateTime.toSeconds_lt hvalid' hvalid hfields) hlt.asymm

end Instant

end Calendar

namespace Row

open Calendar Text

/-- A civil time that is valid has an instant, with its seconds in UTC and its nanoseconds, and the
stamp of a row with this instant shows the civil time as it is: its date, hour and minute, its
second, or 60 in a leap second, and its nanoseconds cut to microseconds. Civil times with the same
instant are the same, and civil times are in the order of their fields just when their instants are
in the order of time. -/
theorem stamp_shows_civil_time :
    (∀ (key : Key) (t : DateTime), t.Valid → ∃ i, Instant.ofDateTime? t = some i ∧
        i.secs = t.toSeconds ∧ i.nanos = t.nanos ∧
        let row : Row := ⟨key, i⟩
        let second := if t.nanos < 1000000000 then t.second else 60
        let micros := t.nanos % 1000000000 / 1000
        row.stamp = String.ofList (dateText t.date ++ 'T' :: clockText t.hour t.minute second ++
            '.' :: zeroPadded 6 micros ++ ['Z']) ∧
          ofStamp? row.stamp.toList = some ⟨t.date, t.hour, t.minute, second, 1000 * micros⟩) ∧
      ∀ (t t' : DateTime) (i i' : Instant), Instant.ofDateTime? t = some i →
        Instant.ofDateTime? t' = some i' →
          (i = i' → t = t') ∧
            (t.fields < t'.fields ↔ toLex (i.secs, i.nanos) < toLex (i'.secs, i'.nanos)) := by
  constructor
  · intro key t hvalid
    obtain ⟨i, hi⟩ := Instant.exists_ofDateTime? hvalid
    obtain ⟨-, hsecs, hnanos⟩ := Instant.of_ofDateTime? hi
    refine ⟨i, hi, hsecs, hnanos, ?_, ?_⟩
    · rw [stamp, Instant.stamp, Instant.stampChars, Instant.shownSecond_of_ofDateTime? hi,
        Instant.dateTime_of_ofDateTime? hi, Instant.shownNanos, hnanos]
    · rw [ofStamp?_stamp, Instant.shown, Instant.shownSecond_of_ofDateTime? hi,
        Instant.dateTime_of_ofDateTime? hi, Instant.shownNanos, hnanos]
  · intro t t' i i' h h'
    refine ⟨?_, Instant.fields_lt_iff h h'⟩
    rintro rfl
    rw [← Instant.dateTime_of_ofDateTime? h, Instant.dateTime_of_ofDateTime? h']

/-- A leap second at the end of a leap day before the year 0, and the second after it. -/
theorem stamp_shows_leap_second :
    let leap : DateTime := ⟨⟨-4, 2, 29⟩, 23, 59, 59, 1999999999⟩
    let after : DateTime := ⟨⟨-4, 3, 1⟩, 0, 0, 0, 0⟩
    leap.Valid ∧ after.Valid ∧ leap.fields < after.fields ∧
      ∃ i i', Instant.ofDateTime? leap = some i ∧ Instant.ofDateTime? after = some i' ∧
        (Row.mk (.ofCrate "serde") i).stamp = "-0004-02-29T23:59:60.999999Z" ∧
        toLex (i.secs, i.nanos) < toLex (i'.secs, i'.nanos) ∧ i ≠ i' := by
  intro leap after
  obtain ⟨hshown, hpairs⟩ := stamp_shows_civil_time
  have hleap : leap.Valid := by decide
  have hafter : after.Valid := by decide
  have hlt : leap.fields < after.fields := by
    simp only [DateTime.fields, Prod.Lex.toLex_lt_toLex]
    decide
  obtain ⟨i, hi, -, -, hstamp, -⟩ := hshown (.ofCrate "serde") leap hleap
  obtain ⟨i', hi', -⟩ := hshown (.ofCrate "serde") after hafter
  obtain ⟨hinj, hiff⟩ := hpairs leap after i i' hi hi'
  refine ⟨hleap, hafter, hlt, i, i', hi, hi', hstamp.trans (by decide), hiff.mp hlt, ?_⟩
  intro heq
  exact absurd (hinj heq) (by decide)

end Row

end Backfill
