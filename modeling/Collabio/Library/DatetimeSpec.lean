import Mathlib.Tactic
import Collabio.Library.Datetime

/-!
# Dates and their texts

* `toOrdinal_of_ofOrdinal?`      — the date of an ordinal has that ordinal;
* `instant_addDays`              — adding days moves the instant by that many days;
* `fromisoformat_isoformatSeconds` — a written UTC datetime reads back as itself,
  less its fraction of a second;
* `clock_of_fromisoformat`       — what is read has the fields of a clock.
-/

namespace Datetime

/-! ## Ordinals -/

theorem isLeap_iff {year : Nat} :
    isLeap year = true ↔ year % 4 = 0 ∧ (year % 100 ≠ 0 ∨ year % 400 = 0) := by
  simp [isLeap]

theorem daysBeforeMonth_succ {year month : Nat} (h : 1 ≤ month) :
    daysBeforeMonth year (month + 1) = daysBeforeMonth year month + daysInMonth year month := by
  obtain ⟨m, rfl⟩ : ∃ m, month = m + 1 := ⟨month - 1, by omega⟩
  simp [daysBeforeMonth, List.range_succ]

/-- Walking through the months keeps the day of the year. -/
theorem daysBeforeMonth_monthOfDay (year fuel : Nat) {month n : Nat} (h : 1 ≤ month) :
    daysBeforeMonth year (monthOfDay year fuel month n).1 + (monthOfDay year fuel month n).2 =
      daysBeforeMonth year month + n + 1 := by
  induction fuel generalizing month n with
  | zero => rfl
  | succ fuel ih =>
    unfold monthOfDay
    split
    · rename_i hfull
      rw [ih (by omega), daysBeforeMonth_succ h]
      omega
    · rfl

/-- The first of December comes after 334 days, or 335. -/
theorem daysBeforeMonth_december (year : Nat) :
    daysBeforeMonth year 12 = if isLeap year then 335 else 334 := by
  cases hleap : isLeap year <;> simp [daysBeforeMonth, daysInMonth, List.range_succ, hleap]

/-- The days before a year, by its place in the 400-, 100- and 4-year cycles. -/
theorem daysBeforeYear_cycles {a b c d : Nat} (hb : b ≤ 3) (hc : c ≤ 24) (hd : d ≤ 3) :
    daysBeforeYear (a * 400 + 1 + b * 100 + c * 4 + d) =
      146097 * a + 36524 * b + 1461 * c + 365 * d := by
  have hyear : a * 400 + 1 + b * 100 + c * 4 + d - 1 = 400 * a + 100 * b + 4 * c + d := by omega
  have h4 : (400 * a + 100 * b + 4 * c + d) / 4 = 100 * a + 25 * b + c := by omega
  have h100 : (400 * a + 100 * b + 4 * c + d) / 100 = 4 * a + b := by omega
  have h400 : (400 * a + 100 * b + 4 * c + d) / 400 = a := by omega
  rw [daysBeforeYear, hyear, h4, h100, h400]
  omega

theorem ymdToOrdinal_ordinalToYmd {n : Nat} (h : 1 ≤ n) :
    ymdToOrdinal (ordinalToYmd n).1 (ordinalToYmd n).2.1 (ordinalToYmd n).2.2 = n := by
  unfold ordinalToYmd
  dsimp only
  -- cycles of 400, 100 and 4 years, years, and the days within the year
  generalize ha : (n - 1) / 146097 = a
  generalize hr : (n - 1) % 146097 = r
  generalize hb : r / 36524 = b
  generalize hr' : r % 36524 = r'
  generalize hc : r' / 1461 = c
  generalize hr'' : r' % 1461 = r''
  generalize hd : r'' / 365 = d
  have hn : n = 146097 * a + 36524 * b + 1461 * c + r'' + 1 := by omega
  split
  · rename_i hend
    rcases hend with hd4 | hb4
    · -- the last day of the last year of a 4-year cycle
      have hc23 : c ≤ 23 := by omega
      have hyear : a * 400 + 1 + b * 100 + c * 4 + d - 1 = a * 400 + 1 + b * 100 + c * 4 + 3 := by
        omega
      have hleap : isLeap (a * 400 + 1 + b * 100 + c * 4 + 3) = true := by
        rw [isLeap_iff]
        omega
      rw [hyear]
      dsimp only
      rw [ymdToOrdinal, daysBeforeMonth_december, if_pos hleap,
        daysBeforeYear_cycles (by omega) (by omega) (le_refl 3)]
      omega
    · -- the last day of a 400-year cycle
      have hcd : c = 0 ∧ d = 0 := by omega
      have hyear : a * 400 + 1 + b * 100 + c * 4 + d - 1 = a * 400 + 1 + 3 * 100 + 24 * 4 + 3 := by
        omega
      have hleap : isLeap (a * 400 + 1 + 3 * 100 + 24 * 4 + 3) = true := by
        rw [isLeap_iff]
        omega
      rw [hyear]
      dsimp only
      rw [ymdToOrdinal, daysBeforeMonth_december, if_pos hleap,
        daysBeforeYear_cycles (le_refl 3) (le_refl 24) (le_refl 3)]
      omega
  · rename_i hinside
    -- every other day is counted from the first of January of its year
    have hmonth := daysBeforeMonth_monthOfDay (a * 400 + 1 + b * 100 + c * 4 + d) 11
      (n := r'' % 365) (le_refl 1)
    have hfirst : daysBeforeMonth (a * 400 + 1 + b * 100 + c * 4 + d) 1 = 0 := rfl
    dsimp only
    rw [ymdToOrdinal, add_assoc, hmonth, hfirst,
      daysBeforeYear_cycles (by omega) (by omega) (by omega)]
    omega

theorem toOrdinal_of_ofOrdinal? {n : Nat} {d : Date} (h : Date.ofOrdinal? n = some d)
    (hn : 1 ≤ n) : d.toOrdinal = n := by
  unfold Date.ofOrdinal? Date.make? at h
  dsimp only at h
  split at h
  · cases h
    exact ymdToOrdinal_ordinalToYmd hn
  · cases h

def microsPerSecond : Int := 1000000

def microsPerDay : Int := 24 * 60 * 60 * microsPerSecond

/-- **Adding days** moves the instant by that many days. -/
theorem instant_addDays {t t' : DateTime} {n : Nat} (h : t.addDays n = some t') :
    t'.instant = t.instant + n * microsPerDay := by
  unfold DateTime.addDays at h
  obtain ⟨date, hdate, rfl⟩ := Option.map_eq_some_iff.mp h
  have hpos : 1 ≤ t.date.toOrdinal + n := by
    have := t.date.valid.2.2.2.2.1
    unfold Date.toOrdinal ymdToOrdinal
    omega
  have hordinal := toOrdinal_of_ofOrdinal? hdate hpos
  simp only [DateTime.instant, hordinal, microsPerDay, microsPerSecond]
  push_cast
  ring

/-! ## Numerals of a fixed width -/

theorem digit_of_mem_padded {width n : Nat} : ∀ c ∈ padded width n, Text.isAsciiDigit c = true := by
  intro c hc
  rcases List.mem_append.mp hc with hzero | hdigit
  · rw [List.eq_of_mem_replicate hzero]
    rfl
  · exact Text.natChars_digits c hdigit

theorem length_padded {width n : Nat} (hwidth : 0 < width) (h : n < 10 ^ width) :
    (padded width n).length = width := by
  have hlength : (Text.natChars n).length ≤ width :=
    (Nat.length_toDigits_le_iff (by decide) hwidth).mpr h
  simp only [padded, List.length_append, List.length_replicate]
  omega

/-- Leading zeros do not change what a numeral says. -/
theorem decimal?_padded (width n : Nat) : Text.decimal? (padded width n) = some n := by
  have hne : padded width n ≠ [] := by simp [padded, Text.natChars_ne_nil]
  have hvalue : Nat.ofDigitChars 10 (padded width n) 0 = n := by
    rw [padded, Nat.ofDigitChars_append, Nat.ofDigitChars_replicate_zero, Nat.mul_zero]
    exact Nat.ofDigitChars_ten_toDigits
  rw [Text.decimal?, if_pos ⟨hne, List.all_eq_true.mpr digit_of_mem_padded⟩, hvalue]

/-- A number of two digits is written with two. -/
theorem padded_two {n : Nat} (h : n < 100) :
    ∃ a b, padded 2 n = [a, b] ∧ Text.isAsciiDigit a = true ∧ Text.isAsciiDigit b = true ∧
      Text.decimal? [a, b] = some n := by
  have hdigits := @digit_of_mem_padded 2 n
  have hvalue := decimal?_padded 2 n
  obtain ⟨a, b, hab⟩ := List.length_eq_two.mp (@length_padded 2 n (by decide) h)
  rw [hab] at hdigits hvalue
  exact ⟨a, b, hab, hdigits a (by simp), hdigits b (by simp), hvalue⟩

theorem padded_four {n : Nat} (h : n < 10000) :
    ∃ a b c d, padded 4 n = [a, b, c, d] ∧ Text.decimal? [a, b, c, d] = some n := by
  have hvalue := decimal?_padded 4 n
  have hlength := @length_padded 4 n (by decide) h
  match hpadded : padded 4 n, hlength with
  | [a, b, c, d], _ =>
    rw [hpadded] at hvalue
    exact ⟨a, b, c, d, rfl, hvalue⟩

theorem ofDigitChars_lt {l : List Char} (h : ∀ c ∈ l, Text.isAsciiDigit c = true) (init : Nat) :
    Nat.ofDigitChars 10 l init < (init + 1) * 10 ^ l.length := by
  induction l generalizing init with
  | nil => simp
  | cons c l ih =>
    rw [List.forall_mem_cons] at h
    have hc : c.toNat - '0'.toNat ≤ 9 := by
      have hdigit := h.1
      simp only [Text.isAsciiDigit, Bool.and_eq_true, decide_eq_true_eq] at hdigit
      have hrange : '0'.toNat = 48 ∧ '9'.toNat = 57 := ⟨rfl, rfl⟩
      omega
    rw [Nat.ofDigitChars_cons, List.length_cons, pow_succ]
    refine lt_of_lt_of_le (ih h.2 _) ?_
    calc (10 * init + (c.toNat - '0'.toNat) + 1) * 10 ^ l.length
        ≤ (10 * (init + 1)) * 10 ^ l.length := Nat.mul_le_mul_right _ (by omega)
      _ = (init + 1) * (10 ^ l.length * 10) := by ring

theorem decimal?_lt {l : List Char} {n : Nat} (h : Text.decimal? l = some n) :
    n < 10 ^ l.length := by
  unfold Text.decimal? at h
  split at h
  · rename_i hdigits
    cases h
    simpa using ofDigitChars_lt (List.all_eq_true.mp hdigits.2) 0
  · cases h

/-! ## Reading back -/

/-- The two-digit numerals of a written datetime, and the four digits of its year. -/
theorem parseDigits_two {a b : Char} {n : Nat} {rest : List Char}
    (h : Text.decimal? [a, b] = some n) : parseDigits 2 (a :: b :: rest) = some (n, rest) := by
  simp [parseDigits, h]

theorem parseDigits_four {a b c d : Char} {n : Nat} {rest : List Char}
    (h : Text.decimal? [a, b, c, d] = some n) :
    parseDigits 4 (a :: b :: c :: d :: rest) = some (n, rest) := by
  simp [parseDigits, h]

theorem daysInMonth_le (year month : Nat) : daysInMonth year month ≤ 31 := by
  unfold daysInMonth
  split
  · split <;> omega
  all_goals omega

theorem Date.make?_self (d : Date) : Date.make? d.year d.month d.day = some d := by
  unfold Date.make?
  rw [dif_pos d.valid]

/-- A digit is no sign and no letter. -/
theorem ne_of_isAsciiDigit {c : Char} (h : Text.isAsciiDigit c = true) :
    c ≠ 'W' ∧ c ≠ '+' ∧ c ≠ '-' ∧ c ≠ 'Z' := by
  refine ⟨?_, ?_, ?_, ?_⟩
  all_goals
    rintro rfl
    exact absurd h (by decide)

/-- **A written UTC datetime reads back** as itself, less its fraction of a second. -/
theorem fromisoformat_isoformatSeconds {t : DateTime} (hhour : t.hour < 24)
    (hminute : t.minute < 60) (hsecond : t.second < 60) :
    fromisoformat (isoformatSeconds t ++ "+00:00".toList) =
      some { t with microsecond := 0, utcoffset := some 0 } := by
  obtain ⟨hyear1, hyear, hmonth1, hmonth, hday1, hday⟩ := t.date.valid
  have hday31 := daysInMonth_le t.date.year t.date.month
  -- each number is written with its own digits, and these are read back
  obtain ⟨y₁, y₂, y₃, y₄, hy, hyv⟩ := padded_four (n := t.date.year) (by omega)
  obtain ⟨m₁, m₂, hm, hm₁, -, hmv⟩ := padded_two (n := t.date.month) (by omega)
  obtain ⟨d₁, d₂, hd, -, -, hdv⟩ := padded_two (n := t.date.day) (by omega)
  obtain ⟨h₁, h₂, hh, hh₁, hh₂, hhv⟩ := padded_two (n := t.hour) (by omega)
  obtain ⟨n₁, n₂, hn, hn₁, hn₂, hnv⟩ := padded_two (n := t.minute) (by omega)
  obtain ⟨s₁, s₂, hs, hs₁, hs₂, hsv⟩ := padded_two (n := t.second) (by omega)
  have htext : isoformatSeconds t ++ "+00:00".toList =
      [y₁, y₂, y₃, y₄, '-', m₁, m₂, '-', d₁, d₂, 'T', h₁, h₂, ':', n₁, n₂, ':', s₁, s₂,
        '+', '0', '0', ':', '0', '0'] := by
    rw [isoformatSeconds, hy, hm, hd, hh, hn, hs]
    rfl
  have hseparator : findSeparator [y₁, y₂, y₃, y₄, '-', m₁, m₂, '-', d₁, d₂, 'T', h₁, h₂, ':', n₁,
      n₂, ':', s₁, s₂, '+', '0', '0', ':', '0', '0'] = some 10 := by
    simp [findSeparator, (ne_of_isAsciiDigit hm₁).1]
  have hdate : parseDate [y₁, y₂, y₃, y₄, '-', m₁, m₂, '-', d₁, d₂] = some t.date := by
    simp [parseDate, parseDigits_four hyv, parseSeparator, (ne_of_isAsciiDigit hm₁).1,
      parseDigits_two hmv, parseDigits_two hdv, Date.make?_self]
  have hclock : parseClock [h₁, h₂, ':', n₁, n₂, ':', s₁, s₂] =
      some (t.hour, t.minute, t.second, 0) := by
    simp [parseClock, parseDigits_two hhv, parseDigits_two hnv, parseDigits_two hsv,
      parseSeparator, parseFraction]
  have hoffset : parseOffset false ['0', '0', ':', '0', '0'] = some 0 := by decide
  have htime : parseTime t.date [h₁, h₂, ':', n₁, n₂, ':', s₁, s₂, '+', '0', '0', ':', '0', '0'] =
      some { t with microsecond := 0, utcoffset := some 0 } := by
    -- no digit of the clock is the sign of a zone
    have hzone : ∀ c ∈ [h₁, h₂, n₁, n₂, s₁, s₂], c ≠ '+' ∧ c ≠ '-' ∧ c ≠ 'Z' := by
      intro c hc
      have hdigit : Text.isAsciiDigit c = true := by
        simp only [List.mem_cons, List.not_mem_nil, or_false] at hc
        rcases hc with rfl | rfl | rfl | rfl | rfl | rfl <;> assumption
      exact (ne_of_isAsciiDigit hdigit).2
    simp only [List.forall_mem_cons] at hzone
    obtain ⟨hz₁, hz₂, hz₃, hz₄, hz₅, hz₆, -⟩ := hzone
    simp [parseTime, hz₁, hz₂, hz₃, hz₄, hz₅, hz₆, hclock, hoffset, hhour, hminute, hsecond]
  rw [htext]
  unfold fromisoformat
  simp only [List.length_cons, List.length_nil]
  rw [if_neg (by omega), hseparator]
  simp [hdate, htime]

/-! ## What is read -/

theorem parseFraction_lt {l : List Char} {n : Nat} (h : parseFraction l = some n) :
    n < 1000000 := by
  unfold parseFraction at h
  split at h
  · cases h
    decide
  · split at h
    · calc n < 10 ^ _ := decimal?_lt h
        _ ≤ 10 ^ 6 := Nat.pow_le_pow_right (by decide) (List.length_take_le _ _)
    · cases h

theorem parseClock_lt {l : List Char} {hour minute second microsecond : Nat}
    (h : parseClock l = some (hour, minute, second, microsecond)) : microsecond < 1000000 := by
  unfold parseClock at h
  simp only [Option.bind_eq_bind, Option.bind_eq_some_iff] at h
  obtain ⟨⟨_, rest⟩, -, h⟩ := h
  dsimp only at h
  split at h
  · cases h
    decide
  · simp only [Option.bind_eq_some_iff] at h
    obtain ⟨_, -, ⟨_, _⟩, -, h⟩ := h
    dsimp only at h
    split at h
    · cases h
      decide
    · simp only [Option.bind_eq_some_iff] at h
      obtain ⟨_, -, ⟨_, _⟩, -, micro, hmicro, h⟩ := h
      cases h
      exact parseFraction_lt hmicro

/-- The clock fields of a datetime are in range. -/
structure DateTime.OnClock (t : DateTime) : Prop where
  hour        : t.hour < 24
  minute      : t.minute < 60
  second      : t.second < 60
  microsecond : t.microsecond < 1000000

theorem parseTime_onClock {date : Date} {s : List Char} {t : DateTime}
    (h : parseTime date s = some t) : t.OnClock := by
  unfold parseTime at h
  simp only [Option.bind_eq_bind, Option.bind_eq_some_iff] at h
  obtain ⟨⟨hour, minute, second, microsecond⟩, hclock, h⟩ := h
  have hmicrosecond := parseClock_lt hclock
  -- whichever form the offset has, the fields are checked last
  have hchecked (offset : Option Int) (h : (if hour < 24 ∧ minute < 60 ∧ second < 60 then
      some (DateTime.mk date hour minute second microsecond offset) else none) = some t) :
      t.OnClock := by
    split at h
    · rename_i hrange
      cases h
      exact ⟨hrange.1, hrange.2.1, hrange.2.2, hmicrosecond⟩
    · cases h
  split at h
  · exact hchecked none h
  · split at h
    · exact hchecked (some 0) h
    · cases h
  · obtain ⟨offset, -, h⟩ := Option.bind_eq_some_iff.mp h
    exact hchecked offset h

theorem onClock_of_fromisoformat {s : List Char} {t : DateTime} (h : fromisoformat s = some t) :
    t.OnClock := by
  unfold fromisoformat at h
  split at h
  · cases h
  · simp only [Option.bind_eq_bind, Option.bind_eq_some_iff] at h
    obtain ⟨separator, -, date, -, h⟩ := h
    split at h
    · cases h
      exact ⟨by norm_num, by norm_num, by norm_num, by norm_num⟩
    · exact parseTime_onClock h

theorem OnClock.of_addDays {t t' : DateTime} {n : Nat} (h : t.addDays n = some t')
    (hclock : t.OnClock) : t'.OnClock := by
  obtain ⟨date, -, rfl⟩ := Option.map_eq_some_iff.mp h
  exact ⟨hclock.hour, hclock.minute, hclock.second, hclock.microsecond⟩

end Datetime
