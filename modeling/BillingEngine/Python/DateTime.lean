import BillingEngine.Python.Exceptions

/-!
# `datetime.datetime` and the month bounds of `app/utils/dates.py`

A naive `datetime` with its field ranges as invariants, ordered as Python
compares naive datetimes: by year, then month, and so on down to the
microsecond. The order is obtained from `DateTime.ticks`, a mixed-radix number
of the fields that is injective and monotone in that sense.

Results:
* `monthBounds_isOk_iff`: `month_bounds` raises exactly in December 9999.
* `mem_monthBounds_iff`: a datetime lies in the half-open interval
  `month_bounds(ref)` iff it has the same year and month as `ref`.
* `monthBounds_eq_of_mem`, `monthBounds_disjoint`: two datetimes get the same
  interval, or one interval lies entirely before the other.
-/

namespace BillingEngine

/-- The number of days of a month (`calendar.monthrange`). -/
def daysInMonth (year month : ℕ) : ℕ :=
  if month = 2 then
    if year % 4 = 0 ∧ (year % 100 ≠ 0 ∨ year % 400 = 0) then 29 else 28
  else if month = 4 ∨ month = 6 ∨ month = 9 ∨ month = 11 then 30
  else 31

theorem daysInMonth_pos (year month : ℕ) : 1 ≤ daysInMonth year month := by
  unfold daysInMonth; split_ifs <;> omega

theorem daysInMonth_le (year month : ℕ) : daysInMonth year month ≤ 31 := by
  unfold daysInMonth; split_ifs <;> omega

/-- A naive `datetime.datetime`. -/
structure DateTime where
  year : ℕ
  month : ℕ
  day : ℕ
  hour : ℕ
  minute : ℕ
  second : ℕ
  microsecond : ℕ
  year_range : 1 ≤ year ∧ year ≤ 9999
  month_range : 1 ≤ month ∧ month ≤ 12
  day_range : 1 ≤ day ∧ day ≤ daysInMonth year month
  time_range : hour < 24 ∧ minute < 60 ∧ second < 60 ∧ microsecond < 1000000
deriving DecidableEq

namespace DateTime

/-! ## Order -/

/-- The fields as one mixed-radix number. -/
def ticks (t : DateTime) : ℕ :=
  (((((t.year * 13 + t.month) * 32 + t.day) * 24 + t.hour) * 60 + t.minute) * 60 + t.second) *
    1000000 + t.microsecond

theorem ticks_injective : Function.Injective ticks := by
  intro a b h
  obtain ⟨y, m, d, hr, mi, s, us, hy, hm, hd, ht⟩ := a
  obtain ⟨y', m', d', hr', mi', s', us', hy', hm', hd', ht'⟩ := b
  have hd31 := daysInMonth_le y m
  have hd31' := daysInMonth_le y' m'
  simp only [ticks] at h
  simp only [mk.injEq]
  refine ⟨?_, ?_, ?_, ?_, ?_, ?_, ?_⟩ <;> omega

instance : LinearOrder DateTime := LinearOrder.lift' ticks ticks_injective

theorem le_iff_ticks {a b : DateTime} : a ≤ b ↔ a.ticks ≤ b.ticks := Iff.rfl

theorem lt_iff_ticks {a b : DateTime} : a < b ↔ a.ticks < b.ticks := Iff.rfl

/-! ## Constructor -/

theorem midnight_range : 0 < 24 ∧ 0 < 60 ∧ 0 < 60 ∧ 0 < 1000000 := by decide

/-- `datetime(year, month, day)`, a `ValueError` when a field is out of range. -/
def ofDate (year month day : ℕ) : Except Exn DateTime :=
  if hy : 1 ≤ year ∧ year ≤ 9999 then
    if hm : 1 ≤ month ∧ month ≤ 12 then
      if hd : 1 ≤ day ∧ day ≤ daysInMonth year month then
        .ok { year, month, day, hour := 0, minute := 0, second := 0, microsecond := 0,
              year_range := hy, month_range := hm, day_range := hd, time_range := midnight_range }
      else .error (.valueError "day is out of range for month")
    else .error (.valueError "month must be in 1..12")
  else .error (.valueError s!"year {year} is out of range")

/-- The first instant of a month. -/
theorem ofDate_first (year month : ℕ) (hy : 1 ≤ year ∧ year ≤ 9999) (hm : 1 ≤ month ∧ month ≤ 12) :
    ∃ t, ofDate year month 1 = .ok t ∧ t.year = year ∧ t.month = month ∧
      t.ticks = ((year * 13 + month) * 32 + 1) * 86400000000 := by
  have hd : 1 ≤ 1 ∧ 1 ≤ daysInMonth year month := ⟨le_rfl, daysInMonth_pos year month⟩
  refine ⟨_, by simp only [ofDate, dif_pos hy, dif_pos hm, dif_pos hd]; rfl, rfl, rfl, ?_⟩
  simp only [ticks]; omega

theorem ofDate_year_gt {year month day : ℕ} (hy : 9999 < year) :
    ofDate year month day = .error (.valueError s!"year {year} is out of range") := by
  rw [ofDate, dif_neg (by omega)]

end DateTime

/-! ## `month_bounds` -/

/-- `month_bounds(reference)` (`app/utils/dates.py`, lines 17–30), with `ref` the
    given reference or the current time. -/
def monthBounds (ref : DateTime) : Except Exn (DateTime × DateTime) := do
  let start ← DateTime.ofDate ref.year ref.month 1
  let stop ←
    if ref.month = 12 then DateTime.ofDate (ref.year + 1) 1 1
    else DateTime.ofDate ref.year (ref.month + 1) 1
  return (start, stop)

/-- The number of a calendar month, counted from year 0. -/
def DateTime.monthNumber (t : DateTime) : ℕ := t.year * 12 + (t.month - 1)

theorem DateTime.monthNumber_eq_iff {a b : DateTime} :
    a.monthNumber = b.monthNumber ↔ a.year = b.year ∧ a.month = b.month := by
  have ha := a.month_range
  have hb := b.month_range
  unfold monthNumber
  omega

/-- The two bounds as numbers: the first instants of the month and of the next. -/
theorem monthBounds_ticks {ref s e : DateTime} (h : monthBounds ref = .ok (s, e)) :
    s.ticks = ((ref.year * 13 + ref.month) * 32 + 1) * 86400000000 ∧
      e.ticks = (((if ref.month = 12 then ref.year + 1 else ref.year) * 13 +
        (if ref.month = 12 then 1 else ref.month + 1)) * 32 + 1) * 86400000000 := by
  obtain ⟨s', hs, -, -, hsT⟩ := DateTime.ofDate_first _ _ ref.year_range ref.month_range
  have hy := ref.year_range
  have hm := ref.month_range
  rw [monthBounds, hs] at h
  by_cases h12 : ref.month = 12
  · by_cases h9999 : ref.year = 9999
    · have hlate : 9999 < ref.year + 1 := by omega
      simp [bind, Except.bind, h12, DateTime.ofDate_year_gt hlate] at h
    · obtain ⟨e', he, -, -, heT⟩ :=
        DateTime.ofDate_first (ref.year + 1) 1 (by omega) (by omega)
      simp only [bind, Except.bind, h12, if_true, he, pure, Except.pure, Except.ok.injEq,
        Prod.mk.injEq] at h
      obtain ⟨rfl, rfl⟩ := h
      exact ⟨hsT, by rw [heT]; simp [h12]⟩
  · obtain ⟨e', he, -, -, heT⟩ :=
      DateTime.ofDate_first ref.year (ref.month + 1) hy (by omega)
    simp only [bind, Except.bind, h12, if_false, he, pure, Except.pure, Except.ok.injEq,
      Prod.mk.injEq] at h
    obtain ⟨rfl, rfl⟩ := h
    exact ⟨hsT, by rw [heT]; simp [h12]⟩

/-- `month_bounds` raises exactly in December 9999, whose end is not a datetime. -/
theorem monthBounds_isOk_iff (ref : DateTime) :
    (∃ b, monthBounds ref = .ok b) ↔ ¬ (ref.year = 9999 ∧ ref.month = 12) := by
  obtain ⟨s, hs, -⟩ := DateTime.ofDate_first _ _ ref.year_range ref.month_range
  have hy := ref.year_range
  have hm := ref.month_range
  rw [monthBounds, hs]
  by_cases h12 : ref.month = 12
  · by_cases h9999 : ref.year = 9999
    · simp [bind, Except.bind, h12, h9999, DateTime.ofDate_year_gt (show 9999 < 9999 + 1 by omega)]
    · obtain ⟨e, he, -⟩ :=
        DateTime.ofDate_first (ref.year + 1) 1 (by omega) (by omega)
      simp [bind, Except.bind, h12, h9999, he, pure, Except.pure]
  · obtain ⟨e, he, -⟩ :=
      DateTime.ofDate_first ref.year (ref.month + 1) hy (by omega)
    simp [bind, Except.bind, h12, he, pure, Except.pure]

theorem monthBounds_error {ref : DateTime} {exn : Exn} (h : monthBounds ref = .error exn) :
    ∃ message, exn = .valueError message := by
  have hlate : ref.year = 9999 ∧ ref.month = 12 := by
    by_contra hne
    obtain ⟨bounds, hok⟩ := (monthBounds_isOk_iff ref).mpr hne
    rw [hok] at h
    cases h
  obtain ⟨start, hstart, -⟩ := DateTime.ofDate_first _ _ ref.year_range ref.month_range
  rw [monthBounds, hstart] at h
  simp only [bind, Except.bind, hlate.1, hlate.2, if_true,
    DateTime.ofDate_year_gt (show 9999 < 9999 + 1 by omega)] at h
  exact ⟨_, (Except.error.inj h).symm⟩

/-- **The interval of `month_bounds` is the calendar month.** -/
theorem mem_monthBounds_iff {ref s e t : DateTime} (h : monthBounds ref = .ok (s, e)) :
    (s ≤ t ∧ t < e) ↔ (t.year = ref.year ∧ t.month = ref.month) := by
  obtain ⟨hs, he⟩ := monthBounds_ticks h
  have ht := t.time_range
  have hm := t.month_range
  have hd := t.day_range
  have hd31 := daysInMonth_le t.year t.month
  have hrm := ref.month_range
  rw [DateTime.le_iff_ticks, DateTime.lt_iff_ticks, hs, he]
  simp only [DateTime.ticks]
  split_ifs <;> constructor <;> intro h <;> omega

theorem monthBounds_mem_self {ref s e : DateTime} (h : monthBounds ref = .ok (s, e)) :
    s ≤ ref ∧ ref < e :=
  (mem_monthBounds_iff h).mpr ⟨rfl, rfl⟩

/-- `month_bounds` depends on the year and the month only. -/
theorem monthBounds_congr {a b : DateTime} (hy : a.year = b.year) (hm : a.month = b.month) :
    monthBounds a = monthBounds b := by
  rw [monthBounds, monthBounds, hy, hm]

/-- Every instant of the interval has the interval as its own month bounds. -/
theorem monthBounds_eq_of_mem {ref s e t : DateTime} (h : monthBounds ref = .ok (s, e))
    (hs : s ≤ t) (he : t < e) : monthBounds t = .ok (s, e) := by
  obtain ⟨hy, hm⟩ := (mem_monthBounds_iff h).mp ⟨hs, he⟩
  rw [monthBounds_congr hy hm, h]

/-- Two months are the same interval or one ends before the other starts. -/
theorem monthBounds_disjoint {a b s e s' e' : DateTime} (ha : monthBounds a = .ok (s, e))
    (hb : monthBounds b = .ok (s', e')) (hab : a ≤ b) : (s = s' ∧ e = e') ∨ e ≤ s' := by
  by_cases hlt : b < e
  · left
    have hsb : s ≤ b := le_trans (monthBounds_mem_self ha).1 hab
    have := monthBounds_eq_of_mem ha hsb hlt
    rw [hb] at this
    simpa [eq_comm] using this
  · right
    by_contra hlt'
    have hes : s' < e := not_le.mp hlt'
    -- the last month begins inside the first one, so they are the same month
    have hsa : s ≤ s' := by
      by_contra hss
      have hbs : a < e' := lt_of_le_of_lt hab (monthBounds_mem_self hb).2
      have hsa : s' ≤ a := le_trans (le_of_lt (not_le.mp hss)) (monthBounds_mem_self ha).1
      have := monthBounds_eq_of_mem hb hsa hbs
      rw [ha] at this
      simp only [Except.ok.injEq, Prod.mk.injEq] at this
      exact hss (le_of_eq this.1)
    have hself : s' ≤ s' ∧ s' < e' := ⟨le_rfl, lt_of_le_of_lt (monthBounds_mem_self hb).1
      (monthBounds_mem_self hb).2⟩
    have h1 := monthBounds_eq_of_mem ha hsa hes
    have h2 := monthBounds_eq_of_mem hb hself.1 hself.2
    rw [h1] at h2
    simp only [Except.ok.injEq, Prod.mk.injEq] at h2
    exact hlt (h2.2 ▸ (monthBounds_mem_self hb).2)

end BillingEngine
