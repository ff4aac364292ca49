import Mathlib
import ParamSql.Proofs.Mapped
import ParamSql.Proofs.SortKeys

namespace ParamSql

namespace Calendar

/-- The days from the start of the year zero to the start of a year. -/
def daysBeforeYear (year : Int) : Int :=
  365 * year + (year + 3) / 4 - (year + 99) / 100 + (year + 399) / 400

/-- The days of a year before a month. -/
def daysBeforeMonth (year : Int) (month : Nat) : Nat :=
  ∑ m ∈ Finset.Ico 1 month, daysInMonth year m

theorem daysBeforeMonth_succ (year : Int) {month : Nat} (h : 0 < month) :
    daysBeforeMonth year (month + 1) = daysBeforeMonth year month + daysInMonth year month :=
  Finset.sum_Ico_succ_top h _

theorem daysBeforeMonth_mono (year : Int) : Monotone (daysBeforeMonth year) :=
  fun _ _ h => Finset.sum_le_sum_of_subset (Finset.Ico_subset_Ico_right h)

theorem daysBeforeYear_succ (year : Int) :
    daysBeforeYear (year + 1) = daysBeforeYear year + daysBeforeMonth year 13 := by
  have hmonths : daysBeforeMonth year 13 = 337 + daysInMonth year 2 := by
    simp [daysBeforeMonth, Finset.sum_Ico_eq_sum_range, Finset.sum_range_succ, daysInMonth]
    omega
  have hleap : isLeapYear year = true ↔ year % 4 = 0 ∧ (year % 100 ≠ 0 ∨ year % 400 = 0) := by
    rw [isLeapYear, Bool.and_eq_true, Bool.or_eq_true, decide_eq_true_eq, decide_eq_true_eq,
      decide_eq_true_eq]
  rw [hmonths, daysInMonth, if_pos rfl, daysBeforeYear, daysBeforeYear]
  split
  · rename_i hyear
    rw [hleap] at hyear
    omega
  · rename_i hyear
    rw [hleap] at hyear
    omega

theorem daysBeforeYear_mono : Monotone daysBeforeYear :=
  monotone_int_of_le_succ fun year => by
    rw [daysBeforeYear_succ]
    omega

end Calendar

namespace Date

/-- The years that are written with four digits and no sign. -/
def InRange (d : Date) : Prop :=
  0 ≤ d.year ∧ d.year ≤ 9999

instance (d : Date) : Decidable d.InRange :=
  inferInstanceAs (Decidable (0 ≤ d.year ∧ d.year ≤ 9999))

/-- The day of its year, counted from one. -/
def dayOfYear (d : Date) : Nat :=
  Calendar.daysBeforeMonth d.year d.month + d.day

/-- The days from the start of the year zero to the end of the day. -/
def dayNumber (d : Date) : Int :=
  Calendar.daysBeforeYear d.year + d.dayOfYear

/-- The numbers of a day, the year counting most. -/
def fields (d : Date) : (Int ×ₗ Nat) ×ₗ Nat :=
  toLex (toLex (d.year, d.month), d.day)

theorem day_lt (d : Date) : d.day < 100 := by
  have hday := d.day_le
  rw [daysInMonth] at hday
  split_ifs at hday <;> omega

theorem dayOfYear_le (d : Date) {month : Nat} (h : d.month < month) :
    d.dayOfYear ≤ Calendar.daysBeforeMonth d.year month := by
  calc d.dayOfYear
      ≤ Calendar.daysBeforeMonth d.year d.month + daysInMonth d.year d.month :=
        Nat.add_le_add_left d.day_le _
    _ = Calendar.daysBeforeMonth d.year (d.month + 1) :=
        (Calendar.daysBeforeMonth_succ _ d.month_pos).symm
    _ ≤ Calendar.daysBeforeMonth d.year month := Calendar.daysBeforeMonth_mono _ h

theorem dayNumber_le (d : Date) {year : Int} (h : d.year < year) :
    d.dayNumber ≤ Calendar.daysBeforeYear year := by
  have hyear : (d.dayOfYear : Int) ≤ Calendar.daysBeforeMonth d.year 13 :=
    Int.ofNat_le.2 (d.dayOfYear_le (Nat.lt_succ_of_le d.month_le))
  calc d.dayNumber
      ≤ Calendar.daysBeforeYear d.year + Calendar.daysBeforeMonth d.year 13 :=
        Int.add_le_add_left hyear _
    _ = Calendar.daysBeforeYear (d.year + 1) := (Calendar.daysBeforeYear_succ _).symm
    _ ≤ Calendar.daysBeforeYear year := Calendar.daysBeforeYear_mono h

theorem eq_of_fields_eq {d d' : Date} (h : d.fields = d'.fields) : d = d' := by
  cases d
  cases d'
  simp only [fields, toLex_inj, Prod.mk.injEq] at h
  rw [mk.injEq]
  exact ⟨h.1.1, h.1.2, h.2⟩

theorem fields_lt_iff {d d' : Date} : d.fields < d'.fields ↔
    d.year < d'.year ∨ d.year = d'.year ∧
      (d.month < d'.month ∨ d.month = d'.month ∧ d.day < d'.day) := by
  rw [fields, fields, Prod.Lex.toLex_lt_toLex, Prod.Lex.toLex_lt_toLex, toLex_inj, Prod.mk.injEq]
  dsimp only
  tauto

theorem dayNumber_lt {d d' : Date} (h : d.fields < d'.fields) : d.dayNumber < d'.dayNumber := by
  have hday' : 0 < d'.day := d'.day_pos
  rcases fields_lt_iff.1 h with hyear | ⟨hyear, hmonth | ⟨hmonth, hday⟩⟩
  · have hstart : 0 < d'.dayOfYear := Nat.add_pos_right _ hday'
    calc d.dayNumber
        ≤ Calendar.daysBeforeYear d'.year := d.dayNumber_le hyear
      _ < d'.dayNumber := Int.lt_add_of_pos_right _ (Int.natCast_pos.2 hstart)
  · have hdays : d.dayOfYear < d'.dayOfYear := by
      calc d.dayOfYear
          ≤ Calendar.daysBeforeMonth d'.year d'.month := hyear ▸ d.dayOfYear_le hmonth
        _ < d'.dayOfYear := Nat.lt_add_of_pos_right hday'
    rw [dayNumber, dayNumber, hyear]
    omega
  · rw [dayNumber, dayNumber, dayOfYear, dayOfYear, hyear, hmonth]
    omega

theorem yearText_eq {d : Date} (hd : d.InRange) :
    Calendar.yearText d.year = Calendar.padded 4 d.year.toNat := by
  rw [Calendar.yearText, if_pos]
  rw [Bool.and_eq_true, decide_eq_true_eq, decide_eq_true_eq]
  exact hd

theorem sortsBy_year : SortsBy InRange (fun d => Calendar.yearText d.year) year := by
  have hroom {d : Date} (hd : d.InRange) : d.year.toNat < 10 ^ 4 := by
    have hyear : d.year ≤ 9999 := hd.2
    omega
  constructor
  · intro d hd
    rw [yearText_eq hd]
    exact Calendar.isAscii_padded 4 _
  · intro d d' hd hd'
    rw [yearText_eq hd, yearText_eq hd', Calendar.length_padded (by decide) (hroom hd),
      Calendar.length_padded (by decide) (hroom hd')]
  · intro d d' _ _ hyears
    rw [hyears]
  · intro d d' hd hd' hyears
    rw [yearText_eq hd, yearText_eq hd']
    have hstart : 0 ≤ d.year := hd.1
    exact Calendar.padded_lt (by decide) (hroom hd') (by omega)

/-- Texts of the common years sort as their days do. -/
theorem sortsBy_dayNumber : SortsBy InRange chars dayNumber := by
  have hmonth : SortsBy InRange (fun d => Calendar.padded 2 d.month) month :=
    SortsBy.padded (by decide) fun {d} _ => Nat.lt_of_le_of_lt d.month_le (by decide)
  have hday : SortsBy InRange (fun d => Calendar.padded 2 d.day) day :=
    SortsBy.padded (by decide) fun {d} _ => d.day_lt
  have hfields : SortsBy InRange chars fields :=
    (sortsBy_year.beside hmonth (by decide)).beside hday (by decide)
  exact hfields.rekey dayNumber_lt fun h => congrArg dayNumber (eq_of_fields_eq h)

theorem dayNumber_inj {d d' : Date} : d.dayNumber = d'.dayNumber ↔ d = d' := by
  constructor
  · intro hnumbers
    rcases lt_trichotomy d.fields d'.fields with h | h | h
    · exact absurd hnumbers (dayNumber_lt h).ne
    · exact eq_of_fields_eq h
    · exact absurd hnumbers (dayNumber_lt h).ne'
  · exact congrArg dayNumber

end Date

namespace Moment

/-- The second of its day. A leap second counts with the second before it. -/
def secondOfDay (m : Moment) : Nat :=
  3600 * m.hour + 60 * m.minute + m.second

/-- Where a moment stands in time: its day, its second and its nanosecond. A leap second is later
than the second before it and earlier than the next minute. -/
def instant (m : Moment) : Int ×ₗ Nat ×ₗ Nat :=
  toLex (m.date.dayNumber, toLex (m.secondOfDay, m.nanosecond))

/-- The start of its second, which for a leap second is the start of the leap second. -/
def secondStart (m : Moment) : Moment :=
  { m with
    nanosecond := m.nanosecond / 1000000000 * 1000000000
    nanosecond_lt := Nat.lt_of_le_of_lt (Nat.div_mul_le_self _ _) m.nanosecond_lt
    leap := fun h => m.leap (Nat.le_trans h (Nat.div_mul_le_self _ _)) }

@[simp]
theorem date_secondStart (m : Moment) : m.secondStart.date = m.date :=
  rfl

@[simp]
theorem secondOfDay_secondStart (m : Moment) : m.secondStart.secondOfDay = m.secondOfDay :=
  rfl

@[simp]
theorem nanosecond_secondStart (m : Moment) :
    m.secondStart.nanosecond = m.nanosecond / 1000000000 * 1000000000 :=
  rfl

theorem instant_inj {m m' : Moment} : m.instant = m'.instant ↔ m = m' := by
  constructor
  · intro h
    simp only [instant, toLex_inj, Prod.mk.injEq, Date.dayNumber_inj] at h
    obtain ⟨hdate, hsecondOfDay, hnanosecond⟩ := h
    rw [secondOfDay, secondOfDay] at hsecondOfDay
    have hlt : m.minute < 60 ∧ m.second < 60 := ⟨m.minute_lt, m.second_lt⟩
    have hlt' : m'.minute < 60 ∧ m'.second < 60 := ⟨m'.minute_lt, m'.second_lt⟩
    have hhour : m.hour = m'.hour := by omega
    have hminute : m.minute = m'.minute := by omega
    have hsecond : m.second = m'.second := by omega
    cases m
    cases m'
    rw [mk.injEq]
    exact ⟨hdate, hhour, hminute, hsecond, hnanosecond⟩
  · exact congrArg instant

theorem instant_secondStart_le {m m' : Moment} (h : m.instant ≤ m'.instant) :
    m.secondStart.instant ≤ m'.secondStart.instant := by
  simp only [instant, date_secondStart, secondOfDay_secondStart, nanosecond_secondStart,
    Prod.Lex.toLex_le_toLex] at h ⊢
  omega

theorem shownSecond_le (m : Moment) : m.shownSecond ≤ 60 := by
  have hsecond : m.second < 60 := m.second_lt
  have hnanosecond : m.nanosecond < 2000000000 := m.nanosecond_lt
  have hleap : 1000000000 ≤ m.nanosecond → m.second = 59 := m.leap
  rw [shownSecond]
  omega

theorem second_eq (m : Moment) : m.second = min m.shownSecond 59 := by
  have hsecond : m.second < 60 := m.second_lt
  have hleap : 1000000000 ≤ m.nanosecond → m.second = 59 := m.leap
  rw [shownSecond]
  omega

/-- The only second that is shown past the end of its minute is a leap second. -/
theorem nanosecond_div_eq (m : Moment) : m.nanosecond / 1000000000 = m.shownSecond - 59 := by
  have hnanosecond : m.nanosecond < 2000000000 := m.nanosecond_lt
  have hleap : 1000000000 ≤ m.nanosecond → m.second = 59 := m.leap
  have hsecond : m.second < 60 := m.second_lt
  rw [shownSecond]
  omega

theorem clock_secondStart (m : Moment) :
    toLex (m.secondStart.secondOfDay, m.secondStart.nanosecond) =
      toLex (3600 * m.hour + 60 * m.minute + min m.shownSecond 59,
        (m.shownSecond - 59) * 1000000000) := by
  rw [secondOfDay_secondStart, nanosecond_secondStart, nanosecond_div_eq, secondOfDay, second_eq]

theorem sortsBy_clock {p : Moment → Prop} : SortsBy p clockChars fun m =>
    toLex (m.secondStart.secondOfDay, m.secondStart.nanosecond) := by
  have hhour : SortsBy p (fun m => Calendar.padded 2 m.hour) hour :=
    SortsBy.padded (by decide) fun {m} _ => Nat.lt_trans m.hour_lt (by decide)
  have hminute : SortsBy p (fun m => Calendar.padded 2 m.minute) minute :=
    SortsBy.padded (by decide) fun {m} _ => Nat.lt_trans m.minute_lt (by decide)
  have hsecond : SortsBy p (fun m => Calendar.padded 2 m.shownSecond) shownSecond :=
    SortsBy.padded (by decide) fun {m} _ => Nat.lt_of_le_of_lt m.shownSecond_le (by decide)
  have hfields : SortsBy p clockChars fun m =>
      toLex (toLex (m.hour, m.minute), m.shownSecond) :=
    (hhour.beside hminute (by decide)).beside hsecond (by decide)
  apply hfields.rekey
  · intro m m' h
    have hminute : m.minute < 60 := m.minute_lt
    have hsecond : m.shownSecond ≤ 60 := m.shownSecond_le
    simp only [Prod.Lex.toLex_lt_toLex, toLex_inj, Prod.mk.injEq] at h
    rw [clock_secondStart, clock_secondStart, Prod.Lex.toLex_lt_toLex]
    omega
  · intro m m' h
    have hkeys := toLex_inj.1 h
    rw [Prod.mk.injEq, toLex_inj, Prod.mk.injEq] at hkeys
    obtain ⟨⟨hhours, hminutes⟩, hseconds⟩ := hkeys
    rw [clock_secondStart, clock_secondStart, hhours, hminutes, hseconds]

/-- Moments of the common years have texts that sort as the starts of their seconds do. -/
theorem sortsBy_secondStart : SortsBy (fun m : Moment => m.date.InRange)
    (fun m => m.date.chars ++ ' ' :: m.clockChars) fun m => m.secondStart.instant :=
  (Date.sortsBy_dayNumber.comap date).beside sortsBy_clock (by decide)

end Moment

/-- Two values are bound as texts of which the first is not above the second, byte by byte. The
texts are equal if and only if the values count as the same. -/
def InOrder (bind : ValueType) (v w : Value) (same : Prop) : Prop :=
  ∃ text text', bind v = .ok (.text text) ∧ bind w = .ok (.text text') ∧
    Text.bytes text ≤ Text.bytes text' ∧ (text = text' ↔ same)

theorem SortsBy.inOrder {α β : Type} [LinearOrder β] {p : α → Prop} {write : α → List Char}
    {key : α → β} (h : SortsBy p write key) {bind : ValueType} {value : α → Value}
    (hbind : ∀ a, bind (value a) = .ok (.text (String.ofList (write a)))) {a b : α} (ha : p a)
    (hb : p b) (hle : key a ≤ key b) : InOrder bind (value a) (value b) (key a = key b) := by
  refine ⟨_, _, hbind a, hbind b, h.bytes_le ha hb hle, ?_⟩
  rw [String.ofList_inj, h.eq_iff ha hb]

namespace TypeRegistry

variable {types : TypeRegistry} {declared : Option TypeName}

theorem scalar_moment
    (h : ∀ t ∈ declared, types.get? t.name = some BuiltinType.datetime.scalar) (m : Moment) :
    types.scalar declared (.moment m) = .ok (.text m.text) := by
  cases declared with
  | none => rfl
  | some t =>
    rw [scalar, scalarOf_of_some (h t rfl) fun _ => rfl]
    rfl

theorem scalar_date
    (h : ∀ t ∈ declared, types.get? t.name = some BuiltinType.date.scalar ∨
      types.get? t.name = some BuiltinType.datetime.scalar) :
    ∃ rest ∈ ["", " 00:00:00"], ∀ d : Date,
      types.scalar declared (.date d) = .ok (.text (d.text ++ rest)) := by
  cases declared with
  | none =>
    refine ⟨"", List.mem_cons_self, fun d => ?_⟩
    rw [String.append_empty]
    rfl
  | some t =>
    rcases h t rfl with ht | ht
    · refine ⟨"", List.mem_cons_self, fun d => ?_⟩
      rw [scalar, scalarOf_of_some ht fun _ => rfl, String.append_empty]
      rfl
    · refine ⟨" 00:00:00", List.mem_cons_of_mem _ List.mem_cons_self, fun d => ?_⟩
      rw [scalar, scalarOf_of_some ht fun _ => rfl]
      rfl

end TypeRegistry

end ParamSql
