/-
# Dates as text

`Date.prototype.toISOString`: a number of milliseconds since the epoch as a date
and a time of day in UTC. Two dates that the language can represent have the same
text only if they are the same millisecond.
-/

import OpenPath.Text.Unicode
import Mathlib.Algebra.Order.Group.Nat

namespace OpenPath.IsoDate

/-! ## Numbers -/

def digit (n : Nat) : Char := (n % 10).digitChar

/-- The last digits of a number. -/
def padded : Nat → Nat → Text
  | 0, _ => []
  | width + 1, n => padded width (n / 10) ++ [digit n]

@[simp]
theorem length_padded (width n : Nat) : (padded width n).length = width := by
  induction width generalizing n with
  | zero => rfl
  | succ width ih => rw [padded, List.length_append, ih, List.length_singleton]

theorem digit_injOn {m n : Nat} (hdigit : digit m = digit n) : m % 10 = n % 10 := by
  have hall : ∀ a < 10, ∀ b < 10, a.digitChar = b.digitChar → a = b := by decide
  exact hall _ (Nat.mod_lt _ (by decide)) _ (Nat.mod_lt _ (by decide)) hdigit

theorem padded_inj {width m n : Nat} (hm : m < 10 ^ width) (hn : n < 10 ^ width)
    (heq : padded width m = padded width n) : m = n := by
  induction width generalizing m n with
  | zero =>
      rw [Nat.pow_zero] at hm hn
      omega
  | succ width ih =>
      obtain ⟨hinit, hlast⟩ := List.append_inj' heq rfl
      have hmod := digit_injOn (List.cons.inj hlast).1
      have hdiv := ih (Nat.div_lt_of_lt_mul (by rw [← Nat.pow_succ']; exact hm))
        (Nat.div_lt_of_lt_mul (by rw [← Nat.pow_succ']; exact hn)) hinit
      omega

/-- Neither the letter at the end nor a separator is a digit. -/
theorem not_mem_padded {c : Char} (hc : ∀ a < 10, c ≠ a.digitChar) (width n : Nat) :
    c ∉ padded width n := by
  induction width generalizing n with
  | zero => exact List.not_mem_nil
  | succ width ih =>
      rw [padded, List.mem_append, List.mem_singleton]
      rintro (hinit | hlast)
      · exact ih _ hinit
      · exact hc _ (Nat.mod_lt _ (by decide)) hlast

/-! ## Days -/

/-- Where a day of a cycle of 400 years falls, in years that begin in March. -/
structure CycleDay where
  century : Nat
  olympiad : Nat
  year : Nat
  dayOfYear : Nat

def cycleDay (dayOfEra : Nat) : CycleDay :=
  let century := min (dayOfEra / 36524) 3
  let dayOfCentury := dayOfEra - century * 36524
  let year := min (dayOfCentury % 1461 / 365) 3
  { century := century
    olympiad := dayOfCentury / 1461
    year := year
    dayOfYear := dayOfCentury % 1461 - year * 365 }

/-- The year in the cycle. -/
def CycleDay.yearOfEra (place : CycleDay) : Nat :=
  100 * place.century + 4 * place.olympiad + place.year

structure CivilDate where
  year : Int
  month : Nat
  day : Nat

/-- The date of a day of a year that begins in March. -/
def monthDay (year : Int) (dayOfYear : Nat) : CivilDate :=
  let month := (5 * dayOfYear + 2) / 153
  let day := dayOfYear - (153 * month + 2) / 5 + 1
  if month < 10 then { year := year, month := month + 3, day := day }
  else { year := year + 1, month := month - 9, day := day }

/-- The date of a day, counted from the epoch. -/
def civilDate (days : Int) : CivilDate :=
  -- The cycles of 400 years are counted from the first of March of the year 0.
  let era := (days + 719468) / 146097
  let place := cycleDay ((days + 719468) % 146097).toNat
  monthDay (400 * era + place.yearOfEra) place.dayOfYear

theorem cycleDay_bounds {dayOfEra : Nat} (hday : dayOfEra < 146097) :
    (cycleDay dayOfEra).century ≤ 3 ∧ (cycleDay dayOfEra).olympiad ≤ 24 ∧
      (cycleDay dayOfEra).year ≤ 3 ∧ (cycleDay dayOfEra).dayOfYear ≤ 365 ∧
        dayOfEra = (cycleDay dayOfEra).century * 36524 + (cycleDay dayOfEra).olympiad * 1461 +
          (cycleDay dayOfEra).year * 365 + (cycleDay dayOfEra).dayOfYear := by
  unfold cycleDay
  dsimp only
  omega

theorem yearOfEra_lt {dayOfEra : Nat} (hday : dayOfEra < 146097) :
    (cycleDay dayOfEra).yearOfEra < 400 := by
  obtain ⟨hcentury, holympiad, hyear, -, -⟩ := cycleDay_bounds hday
  unfold CycleDay.yearOfEra
  omega

/-- The year and the day in it determine the day of the cycle. -/
theorem cycleDay_inj {first second : Nat} (hfirst : first < 146097) (hsecond : second < 146097)
    (hyear : (cycleDay first).yearOfEra = (cycleDay second).yearOfEra)
    (hday : (cycleDay first).dayOfYear = (cycleDay second).dayOfYear) : first = second := by
  obtain ⟨hc, ho, hy, -, hsum⟩ := cycleDay_bounds hfirst
  obtain ⟨hc', ho', hy', -, hsum'⟩ := cycleDay_bounds hsecond
  unfold CycleDay.yearOfEra at hyear
  have hcentury : (cycleDay first).century = (cycleDay second).century := by omega
  have holympiad : (cycleDay first).olympiad = (cycleDay second).olympiad := by omega
  omega

theorem monthDay_inj {year year' : Int} {first second : Nat} (hfirst : first ≤ 365)
    (hsecond : second ≤ 365) (heq : monthDay year first = monthDay year' second) :
    year = year' ∧ first = second := by
  unfold monthDay at heq
  dsimp only at heq
  have hmonth : (5 * first + 2) / 153 ≤ 11 ∧ (5 * second + 2) / 153 ≤ 11 := by omega
  have hday : ∀ {d : Nat}, (153 * ((5 * d + 2) / 153) + 2) / 5 ≤ d := by omega
  have hleft := @hday first
  have hright := @hday second
  split at heq
  · split at heq
    · injection heq
      omega
    · injection heq
      omega
  · split at heq
    · injection heq
      omega
    · injection heq
      omega

theorem monthDay_bounds (year : Int) {dayOfYear : Nat} (hday : dayOfYear ≤ 365) :
    year ≤ (monthDay year dayOfYear).year ∧ (monthDay year dayOfYear).year ≤ year + 1 ∧
      (monthDay year dayOfYear).month < 100 ∧ (monthDay year dayOfYear).day < 100 := by
  unfold monthDay
  dsimp only
  split <;> dsimp only <;> omega

theorem civilDate_injective {days days' : Int} (heq : civilDate days = civilDate days') :
    days = days' := by
  have hlt : ∀ days : Int, ((days + 719468) % 146097).toNat < 146097 := by omega
  have hbounds := cycleDay_bounds (hlt days)
  have hbounds' := cycleDay_bounds (hlt days')
  obtain ⟨hyear, hday⟩ := monthDay_inj hbounds.2.2.2.1 hbounds'.2.2.2.1 heq
  have hyears := yearOfEra_lt (hlt days)
  have hyears' := yearOfEra_lt (hlt days')
  have hera : (days + 719468) / 146097 = (days' + 719468) / 146097 := by omega
  have hcycle : (cycleDay ((days + 719468) % 146097).toNat).yearOfEra =
      (cycleDay ((days' + 719468) % 146097).toNat).yearOfEra := by
    omega
  have hsame := cycleDay_inj (hlt days) (hlt days') hcycle hday
  clear heq hbounds hbounds' hyear hday hyears hyears' hcycle
  omega

theorem civilDate_bounds {days : Int} (hlow : -100000000 ≤ days) (hhigh : days ≤ 100000000) :
    -1000000 < (civilDate days).year ∧ (civilDate days).year < 1000000 ∧
      (civilDate days).month < 100 ∧ (civilDate days).day < 100 := by
  have hlt : ((days + 719468) % 146097).toNat < 146097 := by omega
  have hplace := cycleDay_bounds hlt
  have hyears := yearOfEra_lt hlt
  have hmonth := monthDay_bounds
    (400 * ((days + 719468) / 146097) + (cycleDay ((days + 719468) % 146097).toNat).yearOfEra)
    hplace.2.2.2.1
  have hera : -2000 ≤ (days + 719468) / 146097 ∧ (days + 719468) / 146097 ≤ 2000 := by omega
  unfold civilDate
  dsimp only
  omega

/-! ## The text -/

/-- Years before 0 or after 9999 have a sign and six digits. -/
def yearText (year : Int) : Text :=
  if 0 ≤ year ∧ year ≤ 9999 then padded 4 year.toNat
  else (if year < 0 then '-' else '+') :: padded 6 year.natAbs

/-- `date.toISOString()`, up to the letter at the end. -/
def isoBody (time : Int) : Text :=
  let date := civilDate (time / 86400000)
  let millis := (time % 86400000).toNat
  yearText date.year ++
    ('-' :: padded 2 date.month ++
      ('-' :: padded 2 date.day ++
        ('T' :: padded 2 (millis / 3600000) ++
          (':' :: padded 2 (millis / 60000 % 60) ++
            (':' :: padded 2 (millis / 1000 % 60) ++ '.' :: padded 3 (millis % 1000))))))

/-- `date.toISOString()` -/
def toISOString (time : Int) : Text := isoBody time ++ ['Z']

theorem not_mem_isoBody (time : Int) : 'Z' ∉ isoBody time := by
  have hpadded : ∀ width n, 'Z' ∉ padded width n := not_mem_padded (by decide)
  have hyear : ∀ year, 'Z' ∉ yearText year := by
    intro year
    unfold yearText
    split
    · exact hpadded _ _
    · split <;> simp [hpadded]
  simp [isoBody, hyear, hpadded]

/-- The dates of the language are within 100,000,000 days of the epoch. -/
def Representable (time : Int) : Prop := -8640000000000000 ≤ time ∧ time ≤ 8640000000000000

theorem yearText_inj {year year' : Int} (hyear : -1000000 < year ∧ year < 1000000)
    (hyear' : -1000000 < year' ∧ year' < 1000000) (heq : yearText year = yearText year') :
    year = year' := by
  have hlength : (yearText year).length = (yearText year').length := congrArg List.length heq
  by_cases hshort : 0 ≤ year ∧ year ≤ 9999 <;> by_cases hshort' : 0 ≤ year' ∧ year' ≤ 9999
  · rw [yearText, yearText, if_pos hshort, if_pos hshort'] at heq
    have hsame := padded_inj (by omega) (by omega) heq
    omega
  · simp [yearText, hshort, hshort'] at hlength
  · simp [yearText, hshort, hshort'] at hlength
  · rw [yearText, yearText, if_neg hshort, if_neg hshort'] at heq
    obtain ⟨hsign, hdigits⟩ := List.cons.inj heq
    have hsame := padded_inj (by omega) (by omega) hdigits
    by_cases hneg : year < 0 <;> by_cases hneg' : year' < 0
    · omega
    · rw [if_pos hneg, if_neg hneg'] at hsign
      exact absurd hsign (by decide)
    · rw [if_neg hneg, if_pos hneg'] at hsign
      exact absurd hsign (by decide)
    · omega

theorem isoBody_inj {time time' : Int} (htime : Representable time)
    (htime' : Representable time') (heq : isoBody time = isoBody time') :
    civilDate (time / 86400000) = civilDate (time' / 86400000) ∧
      (time % 86400000).toNat = (time' % 86400000).toNat := by
  unfold Representable at htime htime'
  have hbounds := @civilDate_bounds (time / 86400000) (by omega) (by omega)
  have hbounds' := @civilDate_bounds (time' / 86400000) (by omega) (by omega)
  unfold isoBody at heq
  dsimp only at heq
  generalize hmillis : (time % 86400000).toNat = millis at heq ⊢
  generalize hmillis' : (time' % 86400000).toNat = millis' at heq ⊢
  have hsmall : millis < 86400000 ∧ millis' < 86400000 := by omega
  clear hmillis hmillis' htime htime'
  generalize civilDate (time / 86400000) = date at heq hbounds ⊢
  generalize civilDate (time' / 86400000) = date' at heq hbounds' ⊢
  obtain ⟨year, month, day⟩ := date
  obtain ⟨year', month', day'⟩ := date'
  dsimp only at heq hbounds hbounds'
  -- The fields after the year have fixed widths.
  obtain ⟨hyear, hrest⟩ := List.append_inj' heq (by simp)
  obtain ⟨hmonth, hrest⟩ := List.append_inj' (List.cons.inj hrest).2 (by simp)
  obtain ⟨hday, hrest⟩ := List.append_inj' (List.cons.inj hrest).2 (by simp)
  obtain ⟨hhour, hrest⟩ := List.append_inj' (List.cons.inj hrest).2 (by simp)
  obtain ⟨hminute, hrest⟩ := List.append_inj' (List.cons.inj hrest).2 (by simp)
  obtain ⟨hsecond, hrest⟩ := List.append_inj' (List.cons.inj hrest).2 (by simp)
  have hmillis := (List.cons.inj hrest).2
  clear heq hrest
  have hyears := yearText_inj ⟨hbounds.1, hbounds.2.1⟩ ⟨hbounds'.1, hbounds'.2.1⟩ hyear
  have hmonths := padded_inj (by omega) (by omega) hmonth
  have hdays := padded_inj (by omega) (by omega) hday
  have hhours := padded_inj (by omega) (by omega) hhour
  have hminutes := padded_inj (by omega) (by omega) hminute
  have hseconds := padded_inj (by omega) (by omega) hsecond
  have hthousandths := padded_inj (by omega) (by omega) hmillis
  refine ⟨?_, by omega⟩
  rw [hyears, hmonths, hdays]

/-- Dates with the same text are the same millisecond. -/
theorem toISOString_injOn {time time' : Int} (htime : Representable time)
    (htime' : Representable time') (heq : toISOString time = toISOString time') :
    time = time' := by
  obtain ⟨hdate, hmillis⟩ := isoBody_inj htime htime' (List.append_inj' heq rfl).1
  have hdays := civilDate_injective hdate
  omega

end OpenPath.IsoDate
