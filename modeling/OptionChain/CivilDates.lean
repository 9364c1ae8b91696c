import Mathlib.Order.SuccPred.Basic
import Mathlib.Data.Prod.Lex

/-!
# Civil dates

A date of the Gregorian calendar carries the proof that it exists. Dates are ordered
by year, month and day, and the day after a date is its successor in that order, so
that what is known of successors applies to days.
-/

namespace OptionChain.CivilDates

def isLeap (year : Nat) : Bool :=
  decide (year % 4 = 0) && (decide (year % 100 ≠ 0) || decide (year % 400 = 0))

def daysInMonth (year month : Nat) : Nat :=
  if month = 2 then if isLeap year then 29 else 28
  else if month ∈ [4, 6, 9, 11] then 30
  else 31

/-- A month and a day that exist in their year. -/
structure Date where
  year : Nat
  month : Nat
  day : Nat
  validMonth : 1 ≤ month ∧ month ≤ 12
  validDay : 1 ≤ day ∧ day ≤ daysInMonth year month
deriving DecidableEq

theorem one_le_daysInMonth (year month : Nat) : 1 ≤ daysInMonth year month := by
  unfold daysInMonth
  split
  · split <;> simp
  · split <;> simp

/-- No month is longer than 31 days. -/
theorem Date.day_le (date : Date) : date.day ≤ 31 := by
  have bound := date.validDay.2
  unfold daysInMonth at bound
  split at bound <;> split at bound <;> omega

/-- Year, month and day, most significant first. -/
def Date.key (date : Date) : Nat ×ₗ Nat ×ₗ Nat := toLex (date.year, toLex (date.month, date.day))

theorem Date.key_injective : Function.Injective Date.key := by
  intro first second same
  have parts := toLex.injective same
  simp only [Prod.mk.injEq] at parts
  have rest := toLex.injective parts.2
  simp only [Prod.mk.injEq] at rest
  cases first
  cases second
  simp_all

instance : LinearOrder Date := LinearOrder.lift' Date.key Date.key_injective

/-- The order, field by field. -/
theorem lt_iff (first second : Date) :
    first < second ↔ first.year < second.year ∨ first.year = second.year ∧
      (first.month < second.month ∨ first.month = second.month ∧ first.day < second.day) := by
  change first.key < second.key ↔ _
  simp [Date.key, Prod.Lex.toLex_lt_toLex]

/-- The day after. -/
def Date.tomorrow (date : Date) : Date :=
  if inside : date.day < daysInMonth date.year date.month then
    { date with
      day := date.day + 1
      validDay := ⟨by omega, inside⟩ }
  else if before : date.month < 12 then
    { year := date.year
      month := date.month + 1
      day := 1
      validMonth := ⟨by omega, before⟩
      validDay := ⟨le_refl 1, one_le_daysInMonth _ _⟩ }
  else
    { year := date.year + 1
      month := 1
      day := 1
      validMonth := ⟨le_refl 1, by omega⟩
      validDay := ⟨le_refl 1, one_le_daysInMonth _ _⟩ }

/-- A date of the same month cannot come after the month's last day. -/
theorem not_past_month_end {date other : Date}
    (last : ¬ date.day < daysInMonth date.year date.month) (sameYear : other.year = date.year)
    (sameMonth : other.month = date.month) : other.day ≤ date.day := by
  have bound := other.validDay.2
  rw [sameYear, sameMonth] at bound
  omega

theorem tomorrow_le_iff (date other : Date) : date.tomorrow ≤ other ↔ date < other := by
  rw [← not_lt, lt_iff, lt_iff]
  have ownMonth := date.validMonth
  have month := other.validMonth
  have day := other.validDay.1
  unfold Date.tomorrow
  split
  · dsimp only
    omega
  · rename_i last
    have ends : other.year = date.year → other.month = date.month → other.day ≤ date.day :=
      not_past_month_end last
    split
    · dsimp only
      omega
    · dsimp only
      omega

instance : SuccOrder Date :=
  SuccOrder.ofSuccLeIff Date.tomorrow (fun {date other} => tomorrow_le_iff date other)

instance : NoMaxOrder Date where
  exists_gt date := ⟨date.tomorrow, (tomorrow_le_iff date _).mp le_rfl⟩

/-- `date + timedelta(days=count)`. -/
def Date.addDays (date : Date) (count : Nat) : Date := Date.tomorrow^[count] date

/-- The day after the twenty-eighth of February follows the leap rule. -/
example : (Date.mk 2024 2 28 (by decide) (by decide)).tomorrow.day = 29 ∧
    (Date.mk 2026 2 28 (by decide) (by decide)).tomorrow.month = 3 := by decide

end OptionChain.CivilDates
