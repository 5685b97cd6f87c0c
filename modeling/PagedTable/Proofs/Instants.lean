import Mathlib.Data.Nat.Digits.Defs
import Mathlib.Order.Monotone.Basic
import PagedTable.Calendar

namespace PagedTable

theorem padded_length {width n : Nat} (some : 0 < width) (small : n < 10 ^ width) :
    (padded width n).length = width := by
  have short : (natText n).length ≤ width := Nat.toDigits_length 10 n width some small
  simp only [padded, List.length_append, List.length_replicate]
  omega

theorem padded_injective {width a b : Nat} (same : padded width a = padded width b) : a = b := by
  have back (n : Nat) : Nat.ofDigitChars 10 (padded width n) 0 = n := by
    have zeros (k : Nat) (cs : List Char) :
        Nat.ofDigitChars 10 (List.replicate k '0' ++ cs) 0 = Nat.ofDigitChars 10 cs 0 := by
      induction k with
      | zero => rfl
      | succ k ih => simpa [List.replicate_succ, Nat.ofDigitChars_cons] using ih
    rw [padded, zeros]
    exact Nat.ofDigitChars_ten_toDigits
  rw [← back a, same, back b]

theorem step_unique {f : Nat → Nat} (mono : Monotone f) {x j k : Nat} (above : f j < x)
    (within : x ≤ f (j + 1)) (above' : f k < x) (within' : x ≤ f (k + 1)) : j = k := by
  rcases Nat.lt_trichotomy j k with less | same | more
  · have up : f (j + 1) ≤ f k := mono less
    omega
  · exact same
  · have up : f (k + 1) ≤ f j := mono more
    omega

namespace Date

def yearLength (year : Nat) : Nat := if isLeap year then 366 else 365

theorem daysBeforeYear_succ {year : Nat} (some : 1 ≤ year) :
    daysBeforeYear (year + 1) = daysBeforeYear year + yearLength year := by
  obtain ⟨y, rfl⟩ := Nat.exists_eq_add_of_le' some
  have leap : isLeap (y + 1) = true ↔ 4 ∣ y + 1 ∧ (¬ 100 ∣ y + 1 ∨ 400 ∣ y + 1) := by
    simp [isLeap, Nat.dvd_iff_mod_eq_zero]
  have centuries : 100 ∣ y + 1 → 4 ∣ y + 1 := Nat.dvd_trans (by decide)
  have cycles : 400 ∣ y + 1 → 100 ∣ y + 1 := Nat.dvd_trans (by decide)
  have fewer : y / 100 ≤ y / 4 := Nat.div_le_div_left (by decide) (by decide)
  simp only [daysBeforeYear, Nat.add_sub_cancel, yearLength, leap, Nat.succ_div]
  generalize y / 4 = fours at fewer ⊢
  generalize y / 100 = hundreds at fewer ⊢
  generalize y / 400 = cycle
  split_ifs <;> omega

theorem daysBeforeMonth_succ (year : Nat) {month : Nat} (some : 1 ≤ month) :
    daysBeforeMonth year (month + 1) = daysBeforeMonth year month + daysInMonth year month := by
  obtain ⟨m, rfl⟩ := Nat.exists_eq_add_of_le some
  simp [daysBeforeMonth, List.range'_concat, Nat.add_comm]

theorem daysBeforeMonth_last (year : Nat) : daysBeforeMonth year 13 = yearLength year := by
  unfold daysBeforeMonth yearLength
  cases leap : isLeap year <;> simp [List.range', daysInMonth, leap]

theorem daysBeforeYear_mono : Monotone daysBeforeYear := by
  apply monotone_nat_of_le_succ
  intro year
  cases year with
  | zero => decide
  | succ y =>
    rw [daysBeforeYear_succ (Nat.succ_pos y)]
    exact Nat.le_add_right _ _

theorem daysBeforeMonth_mono (year : Nat) : Monotone (daysBeforeMonth year) := by
  apply monotone_nat_of_le_succ
  intro month
  cases month with
  | zero => exact Nat.le_refl _
  | succ m =>
    rw [daysBeforeMonth_succ year (Nat.succ_pos m)]
    exact Nat.le_add_right _ _

variable {d e : Date}

theorem isValid_iff : d.isValid = true ↔ 1 ≤ d.year ∧ d.year ≤ 9999 ∧ 1 ≤ d.month ∧ d.month ≤ 12 ∧
    1 ≤ d.day ∧ d.day ≤ daysInMonth d.year d.month := by
  simp [isValid, and_assoc]

theorem day_in_month (valid : d.isValid = true) :
    daysBeforeMonth d.year d.month < daysBeforeMonth d.year d.month + d.day ∧
      daysBeforeMonth d.year d.month + d.day ≤ daysBeforeMonth d.year (d.month + 1) := by
  obtain ⟨-, -, month, -, day, last⟩ := isValid_iff.mp valid
  rw [daysBeforeMonth_succ _ month]
  omega

theorem day_in_year (valid : d.isValid = true) :
    daysBeforeYear d.year < d.dayNumber ∧ d.dayNumber ≤ daysBeforeYear (d.year + 1) := by
  obtain ⟨year, -, -, month, day, -⟩ := isValid_iff.mp valid
  have last := (day_in_month valid).2
  have within : daysBeforeMonth d.year (d.month + 1) ≤ daysBeforeMonth d.year 13 :=
    daysBeforeMonth_mono d.year (Nat.succ_le_succ month)
  rw [daysBeforeMonth_last] at within
  rw [daysBeforeYear_succ year, dayNumber]
  omega

theorem dayNumber_injective (one : d.isValid = true) (two : e.isValid = true)
    (same : d.dayNumber = e.dayNumber) : d = e := by
  have first := day_in_year one
  have second := day_in_year two
  rw [← same] at second
  have year : d.year = e.year := step_unique daysBeforeYear_mono first.1 first.2 second.1 second.2
  have inYear : daysBeforeMonth d.year d.month + d.day = daysBeforeMonth d.year e.month + e.day := by
    simp only [dayNumber, year] at same ⊢
    omega
  have early := day_in_month one
  have late := day_in_month two
  rw [← year, ← inYear] at late
  have month : d.month = e.month :=
    step_unique (daysBeforeMonth_mono d.year) early.1 early.2 late.1 late.2
  have day : d.day = e.day := by
    rw [month] at inYear
    omega
  cases d
  cases e
  simp_all

end Date

namespace Clock

variable {c e : Clock}

theorem isValid_iff : c.isValid = true ↔
    c.hour ≤ 23 ∧ c.minute ≤ 59 ∧ c.second ≤ 59 ∧ c.micro ≤ 999999 := by
  simp [isValid, and_assoc]

theorem micros_lt (valid : c.isValid = true) : c.micros < 86400000000 := by
  obtain ⟨hour, minute, second, micro⟩ := isValid_iff.mp valid
  unfold micros
  omega

theorem micros_injective (one : c.isValid = true) (two : e.isValid = true) (same : c.micros = e.micros) :
    c = e := by
  obtain ⟨-, minute, second, micro⟩ := isValid_iff.mp one
  obtain ⟨-, minute', second', micro'⟩ := isValid_iff.mp two
  simp only [micros] at same
  have parts : c.hour = e.hour ∧ c.minute = e.minute ∧ c.second = e.second ∧ c.micro = e.micro := by
    omega
  cases c
  cases e
  simp_all

theorem isoMillis_length (valid : c.isValid = true) : c.isoMillis.length = 12 := by
  obtain ⟨hour, minute, second, micro⟩ := isValid_iff.mp valid
  have hours : (padded 2 c.hour).length = 2 := padded_length (by decide) (by omega)
  have minutes : (padded 2 c.minute).length = 2 := padded_length (by decide) (by omega)
  have seconds : (padded 2 c.second).length = 2 := padded_length (by decide) (by omega)
  have millis : (padded 3 (c.micro / 1000)).length = 3 := padded_length (by decide) (by omega)
  simp [isoMillis, hms, hours, minutes, seconds, millis]

end Clock

theorem Date.iso_length {d : Date} (valid : d.isValid = true) : d.iso.length = 10 := by
  obtain ⟨-, year, -, month, -, last⟩ := Date.isValid_iff.mp valid
  have short : daysInMonth d.year d.month ≤ 31 := by
    unfold daysInMonth
    split_ifs <;> decide
  have years : (padded 4 d.year).length = 4 := padded_length (by decide) (by omega)
  have months : (padded 2 d.month).length = 2 := padded_length (by decide) (by omega)
  have days : (padded 2 d.day).length = 2 := padded_length (by decide) (by omega)
  simp [iso, years, months, days]

namespace Moment

-- The date and the clock exist, and the offset is of less than a day.
structure IsReal (m : Moment) : Prop where
  date : m.date.isValid = true
  clock : m.clock.isValid = true
  offset : ∀ x, m.offset = some x → x.natAbs < 86400000000

variable {a b : Moment} {x y : Int}

theorem instant_injective (one : a.IsReal) (two : b.IsReal) (same : a.instant x = b.instant x) :
    a.date = b.date ∧ a.clock = b.clock := by
  have first := Clock.micros_lt one.clock
  have second := Clock.micros_lt two.clock
  simp only [instant] at same
  have days : a.date.dayNumber = b.date.dayNumber := by omega
  have micros : a.clock.micros = b.clock.micros := by omega
  exact ⟨Date.dayNumber_injective one.date two.date days,
    Clock.micros_injective one.clock two.clock micros⟩

def fraction (micro : Nat) : List Char := if micro = 0 then [] else '.' :: padded 6 micro

def fine (seconds micro : Nat) : List Char :=
  if seconds = 0 ∧ micro = 0 then [] else ':' :: padded 2 seconds ++ fraction micro

theorem offsetText_eq (x : Int) : offsetText x = (if x < 0 then '-' else '+') ::
    (padded 2 (x.natAbs / 1000000 / 3600) ++ ':' :: padded 2 (x.natAbs / 1000000 / 60 % 60) ++
      fine (x.natAbs / 1000000 % 60) (x.natAbs % 1000000)) := rfl

theorem fraction_injective {u w : Nat} (same : fraction u = fraction w) : u = w := by
  unfold fraction at same
  split_ifs at same with none none'
  · exact none.trans none'.symm
  · exact padded_injective (List.cons.inj same).2

theorem fine_injective {s t u w : Nat} (one : s < 100) (two : t < 100) (same : fine s u = fine t w) :
    s = t ∧ u = w := by
  unfold fine at same
  split_ifs at same with none none'
  · exact ⟨none.1.trans none'.1.symm, none.2.trans none'.2.symm⟩
  · cases same
  · cases same
  · obtain ⟨seconds, rest⟩ := List.append_inj (List.cons.inj same).2
      (by rw [padded_length (by decide) one, padded_length (by decide) two])
    exact ⟨padded_injective seconds, fraction_injective rest⟩

theorem offsetText_injective (one : x.natAbs < 86400000000) (two : y.natAbs < 86400000000)
    (same : offsetText x = offsetText y) : x = y := by
  rw [offsetText_eq, offsetText_eq, List.cons.injEq, List.append_assoc, List.append_assoc] at same
  obtain ⟨signs, same⟩ := same
  obtain ⟨hours, same⟩ := List.append_inj same
    (by rw [padded_length (by decide) (by omega), padded_length (by decide) (by omega)])
  obtain ⟨minutes, same⟩ := List.append_inj (List.cons.inj same).2
    (by rw [padded_length (by decide) (by omega), padded_length (by decide) (by omega)])
  obtain ⟨seconds, micros⟩ := fine_injective (by omega) (by omega) same
  have hour := padded_injective hours
  have minute := padded_injective minutes
  have size : x.natAbs = y.natAbs := by omega
  have sign : x < 0 ↔ y < 0 := by
    by_cases left : x < 0 <;> by_cases right : y < 0 <;> simp [left, right] at signs ⊢
  omega

theorem isoMillis_zone (one : a.IsReal) (two : b.IsReal) (same : a.isoMillis = b.isoMillis) :
    a.zone = b.zone := by
  have before (m : Moment) (real : m.IsReal) : (m.date.iso ++ 'T' :: m.clock.isoMillis).length = 23 := by
    rw [List.length_append, List.length_cons, Date.iso_length real.date, Clock.isoMillis_length real.clock]
  exact (List.append_inj same ((before a one).trans (before b two).symm)).2

theorem same_eq_iff (one : a.IsReal) (two : b.IsReal) (same : a.same b = true) :
    a = b ↔ a.offset = b.offset := by
  refine ⟨fun equal => by rw [equal], fun offsets => ?_⟩
  have parts : a.date = b.date ∧ a.clock = b.clock := by
    unfold Moment.same at same
    rw [← offsets] at same
    cases kept : a.offset with
    | none => simpa [kept] using same
    | some x =>
      simp only [kept, beq_iff_eq] at same
      exact instant_injective one two same
  cases a
  cases b
  simp_all

theorem isoMillis_eq_iff (one : a.IsReal) (two : b.IsReal) (same : a.same b = true) :
    a.isoMillis = b.isoMillis ↔ a.offset = b.offset := by
  constructor
  · intro written
    have zones := isoMillis_zone one two written
    unfold Moment.same at same
    cases first : a.offset with
    | none =>
      cases second : b.offset with
      | none => rfl
      | some y => simp [first, second] at same
    | some x =>
      cases second : b.offset with
      | none => simp [first, second] at same
      | some y =>
        simp only [zone, first, second, Option.map_some, Option.getD_some] at zones
        rw [offsetText_injective (one.offset x first) (two.offset y second) zones]
  · intro offsets
    rw [(same_eq_iff one two same).mpr offsets]

end Moment

end PagedTable
