import Mathlib.Algebra.Group.Nat.Defs
import Mathlib.Data.Prod.Lex
import Migrations.Proofs.Text.Order
import Migrations.Proofs.Timestamp

namespace Migrations.Timestamp

def daysInYear (year : Int) : Nat := if isLeapYear year then 366 else 365

/-- The days between the start of the year zero and the start of a year. Leap years before that are
those that 4 divides, less those that 100 divides, and again those that 400 divides. -/
def daysBeforeYear (year : Int) : Int :=
  365 * year + ((year + 3) / 4 - (year + 99) / 100 + (year + 399) / 400)

def daysBeforeMonth (year : Int) : Nat → Nat
  | 0 => 0
  | 1 => 0
  | month + 2 => daysBeforeMonth year (month + 1) + daysInMonth year (month + 1)

def dayOfYear (t : Timestamp) : Nat := daysBeforeMonth t.year t.month + t.day

def dayNumber (t : Timestamp) : Int := daysBeforeYear t.year + t.dayOfYear

def secondOfDay (t : Timestamp) : Nat := 3600 * t.hour + 60 * t.minute + t.second

def seconds (t : Timestamp) : Int := 86400 * t.dayNumber + t.secondOfDay

theorem daysBeforeMonth_succ {month : Nat} (h : 1 ≤ month) (year : Int) :
    daysBeforeMonth year (month + 1) = daysBeforeMonth year month + daysInMonth year month := by
  cases month with
  | zero => contradiction
  | succ month => rfl

theorem daysBeforeMonth_add_le {month later : Nat} (h : 1 ≤ month) (hl : month < later)
    (year : Int) :
    daysBeforeMonth year month + daysInMonth year month ≤ daysBeforeMonth year later := by
  induction later, hl using Nat.le_induction with
  | base => rw [daysBeforeMonth_succ h]
  | succ later hl ih =>
    rw [daysBeforeMonth_succ (by omega)]
    omega

/-- The twelve months make the year. -/
theorem daysBeforeMonth_thirteen (year : Int) : daysBeforeMonth year 13 = daysInYear year := by
  cases h : isLeapYear year <;> simp [daysBeforeMonth, daysInMonth, daysInYear, h]

theorem one_le_dayOfYear (t : Timestamp) : 1 ≤ t.dayOfYear := by
  have hd := t.isDate.2.2.2.2.1
  unfold dayOfYear
  omega

theorem dayOfYear_le (t : Timestamp) : t.dayOfYear ≤ daysInYear t.year := by
  obtain ⟨-, -, hm, hm', -, hd⟩ := t.isDate
  have hl := daysBeforeMonth_add_le hm (Nat.lt_succ_of_le hm') t.year
  rw [daysBeforeMonth_thirteen] at hl
  unfold dayOfYear
  omega

theorem dayOfYear_lt_of_month_lt {t u : Timestamp} (hy : t.year = u.year) (h : t.month < u.month) :
    t.dayOfYear < u.dayOfYear := by
  have ht := t.isDate
  have hu := u.isDate
  have hl := daysBeforeMonth_add_le ht.2.2.1 h t.year
  have hd := ht.2.2.2.2.2
  have hd' := hu.2.2.2.2.1
  unfold dayOfYear
  rw [← hy]
  omega

theorem isLeapYear_iff {year : Int} :
    isLeapYear year = true ↔ year % 4 = 0 ∧ (year % 100 ≠ 0 ∨ year % 400 = 0) := by
  simp [isLeapYear]

theorem daysBeforeYear_succ (year : Int) :
    daysBeforeYear (year + 1) = daysBeforeYear year + daysInYear year := by
  -- A quotient goes up behind the multiples of its divisor.
  have hfour : (year + 1 + 3) / 4 = (year + 3) / 4 + if year % 4 = 0 then 1 else 0 := by
    split <;> omega
  have hcentury : (year + 1 + 99) / 100 = (year + 99) / 100 + if year % 100 = 0 then 1 else 0 := by
    split <;> omega
  have hcycle : (year + 1 + 399) / 400 = (year + 399) / 400 + if year % 400 = 0 then 1 else 0 := by
    split <;> omega
  unfold daysBeforeYear daysInYear
  rw [hfour, hcentury, hcycle]
  simp only [isLeapYear_iff]
  grind

theorem daysBeforeYear_add_le {year later : Int} (h : year < later) :
    daysBeforeYear year + daysInYear year ≤ daysBeforeYear later := by
  obtain ⟨n, rfl⟩ := Int.le.dest h
  induction n with
  | zero => simp [daysBeforeYear_succ]
  | succ n ih =>
    have hs := daysBeforeYear_succ (year + 1 + n)
    have hn := ih (by omega)
    rw [Int.natCast_succ, ← Int.add_assoc]
    omega

/-- The components from the year on. The first one that differs decides on their order. -/
def fields (t : Timestamp) : Int ×ₗ Nat ×ₗ Nat ×ₗ Nat ×ₗ Nat ×ₗ Nat :=
  toLex (t.year, toLex (t.month, toLex (t.day, toLex (t.hour, toLex (t.minute, t.second)))))

theorem fields_injective : Function.Injective fields := by
  intro t u h
  obtain ⟨year, month, day, hour, minute, second, _, _, _, _⟩ := t
  obtain ⟨year', month', day', hour', minute', second', _, _, _, _⟩ := u
  simpa [fields] using h

theorem dayNumber_lt_of_year_lt {t u : Timestamp} (h : t.year < u.year) :
    t.dayNumber < u.dayNumber := by
  have hy := daysBeforeYear_add_le h
  have ht := t.dayOfYear_le
  have hu := u.one_le_dayOfYear
  unfold dayNumber
  omega

theorem secondOfDay_lt (t : Timestamp) : t.secondOfDay < 86400 := by
  have hh := t.hour_lt
  have hm := t.minute_lt
  have hs := t.second_lt
  unfold secondOfDay
  omega

theorem seconds_lt_of_dayNumber_lt {t u : Timestamp} (h : t.dayNumber < u.dayNumber) :
    t.seconds < u.seconds := by
  have ht := t.secondOfDay_lt
  unfold seconds
  omega

/-- Time goes on with the first component that differs. -/
theorem seconds_lt_of_fields_lt {t u : Timestamp} (h : t.fields < u.fields) :
    t.seconds < u.seconds := by
  simp only [fields, Prod.Lex.toLex_lt_toLex] at h
  rcases h with hyear | ⟨hyear, hmonth | ⟨hmonth, hday | ⟨hday, htime⟩⟩⟩
  · exact seconds_lt_of_dayNumber_lt (dayNumber_lt_of_year_lt hyear)
  · have hd := dayOfYear_lt_of_month_lt hyear hmonth
    apply seconds_lt_of_dayNumber_lt
    unfold dayNumber
    rw [hyear]
    omega
  · apply seconds_lt_of_dayNumber_lt
    unfold dayNumber dayOfYear
    rw [hyear, hmonth]
    omega
  · have ht := t.minute_lt
    have hs := t.second_lt
    unfold seconds dayNumber dayOfYear secondOfDay
    rw [hyear, hmonth, hday]
    omega

theorem seconds_injective : Function.Injective seconds := by
  intro t u h
  apply fields_injective
  rcases lt_trichotomy t.fields u.fields with hlt | heq | hlt
  · exact absurd h (Int.ne_of_lt (seconds_lt_of_fields_lt hlt))
  · exact heq
  · exact absurd h.symm (Int.ne_of_lt (seconds_lt_of_fields_lt hlt))

instance : LinearOrder Timestamp := LinearOrder.lift' seconds seconds_injective

theorem lt_iff_fields_lt {t u : Timestamp} : t < u ↔ t.fields < u.fields := by
  constructor
  · intro h
    by_contra hn
    rcases lt_or_eq_of_le (not_lt.mp hn) with hlt | heq
    · exact lt_asymm h (seconds_lt_of_fields_lt hlt)
    · exact lt_irrefl t (fields_injective heq ▸ h)
  · exact seconds_lt_of_fields_lt

theorem digitChar_lt {m n : Nat} (h : m < n) (hn : n < 10) : m.digitChar < n.digitChar := by
  have hall : ∀ n < 10, ∀ m < n, Nat.digitChar m < Nat.digitChar n := by decide
  exact hall n hn m h

/-- Behind the other digits stands the last one. -/
theorem padded_succ (width n : Nat) :
    padded (width + 2) n = padded (width + 1) (n / 10) ++ [(n % 10).digitChar] := by
  by_cases h : n < 10
  · have hn : Nat.toDigits 10 n = [n.digitChar] := Nat.toDigits_of_lt_base h
    simp [padded, hn, Nat.div_eq_of_lt h, Nat.mod_eq_of_lt h, List.replicate_succ']
  · simp [padded, Nat.toDigits_of_base_le (by decide) (Nat.le_of_not_lt h)]

theorem ascends_padded (width : Nat) : Text.Ascends (10 ^ (width + 1)) (padded (width + 1)) := by
  induction width with
  | zero =>
    refine (Text.ascends_digit fun m n => digitChar_lt).congr fun n hn => ?_
    simp [padded, Nat.toDigits_of_lt_base (show n < 10 by simpa using hn)]
  | succ width ih =>
    rw [Nat.pow_succ, Nat.mul_comm]
    exact (ih.digit Nat.digitChar fun m n => digitChar_lt).congr fun n _ => padded_succ width n

/-- The year is one of those that are written with four digits and no sign. -/
def HasPlainYear (t : Timestamp) : Prop := 0 ≤ t.year ∧ t.year ≤ 9999

instance (t : Timestamp) : Decidable t.HasPlainYear := inferInstanceAs (Decidable (_ ∧ _))

theorem HasPlainYear.yearText {t : Timestamp} (h : t.HasPlainYear) :
    yearText t.year = padded 4 t.year.natAbs := by
  unfold Timestamp.yearText
  rw [if_neg (Int.not_lt.mpr h.1), if_pos h.2]

/-- The components behind the year have two digits. -/
theorem two_digits (t : Timestamp) :
    t.month < 100 ∧ t.day < 100 ∧ t.hour < 100 ∧ t.minute < 100 ∧ t.second < 100 := by
  have hl := daysInMonth_le t.year t.month
  obtain ⟨-, -, -, hmonth, -, hday⟩ := t.isDate
  have hhour := t.hour_lt
  have hminute := t.minute_lt
  have hsecond := t.second_lt
  omega

theorem pair_append_lt {m n : Nat} (hn : n < 100) {s v : Text} (h : m < n ∨ m = n ∧ s < v) :
    padded 2 m ++ s < padded 2 n ++ v :=
  (ascends_padded 1).append_lt hn h

/-- Stamps come in the order of their times, whatever stands behind them. -/
theorem stamp_append_lt {t u : Timestamp} (ht : t.HasPlainYear) (hu : u.HasPlainYear) (h : t < u)
    (s v : Text) : t.stamp ++ s < u.stamp ++ v := by
  have hmin : 0 ≤ t.year := ht.1
  have hmax := hu.2
  obtain ⟨hmonth, hday, hhour, hminute, hsecond⟩ := u.two_digits
  rw [lt_iff_fields_lt] at h
  simp only [fields, Prod.Lex.toLex_lt_toLex] at h
  simp only [stamp, ht.yearText, hu.yearText, List.append_assoc, List.cons_append]
  -- A component counts only after equal ones, and the underscores are the same on both sides.
  apply (ascends_padded 3).append_lt (by omega)
  refine h.imp (fun hyear => by omega) (And.imp (fun hyear => by rw [hyear]) fun h => ?_)
  apply List.cons_lt_cons_self.mpr
  apply pair_append_lt hmonth
  refine h.imp_right (And.imp_right fun h => ?_)
  apply List.cons_lt_cons_self.mpr
  apply pair_append_lt hday
  refine h.imp_right (And.imp_right fun h => ?_)
  apply List.cons_lt_cons_self.mpr
  apply pair_append_lt hhour
  refine h.imp_right (And.imp_right fun h => ?_)
  apply pair_append_lt hminute
  refine h.imp_right (And.imp_right fun h => ?_)
  exact pair_append_lt hsecond (.inl h)

/-- Two digits are read back, whatever stands behind them. -/
theorem eq_of_pair_append {m n : Nat} (hm : m < 100) (hn : n < 100) {s v : Text}
    (h : padded 2 m ++ s = padded 2 n ++ v) : m = n ∧ s = v := by
  have hr := congrArg (readNumber? 2) h
  rw [readNumber?_padded (length_toDigits_le_two hm),
    readNumber?_padded (length_toDigits_le_two hn)] at hr
  simpa using hr

/-- Every time has a stamp of its own, in any year. -/
theorem stamp_injective : Function.Injective stamp := by
  intro t u h
  obtain ⟨tmonth, tday, thour, tminute, -⟩ := t.two_digits
  obtain ⟨umonth, uday, uhour, uminute, -⟩ := u.two_digits
  simp only [stamp, List.append_assoc, List.cons_append] at h
  -- Years differ in width, so that the stamps are taken apart by reading them.
  have hr := congrArg readYear? h
  simp only [readYear?_yearText, Option.some.injEq, Prod.mk.injEq, List.cons.injEq, true_and] at hr
  obtain ⟨hyear, h⟩ := hr
  obtain ⟨hmonth, h⟩ := eq_of_pair_append tmonth umonth h
  obtain ⟨hday, h⟩ := eq_of_pair_append tday uday (List.cons.inj h).2
  obtain ⟨hhour, h⟩ := eq_of_pair_append thour uhour (List.cons.inj h).2
  obtain ⟨hminute, h⟩ := eq_of_pair_append tminute uminute h
  have hsecond := congrArg digitsValue h
  rw [digitsValue_padded, digitsValue_padded] at hsecond
  apply fields_injective
  simp only [fields, hyear, hmonth, hday, hhour, hminute, hsecond]

end Migrations.Timestamp
