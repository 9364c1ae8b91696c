import Mathlib.Data.Rat.Floor
import Mathlib.Tactic.Linarith
import Mathlib.Tactic.NormNum
import Mathlib.Tactic.Positivity

/-!
# Decimal rounding

Python's `round` takes the nearest value and breaks ties to the even neighbour.
Prices are exact rationals here, so a rounding is decided by the true midpoint
and not by the nearest binary fraction.
-/

namespace OptionChain.Rounding

/-- `round(x)`: the nearest integer, ties to even. -/
def roundHalfEven (x : Rat) : Int :=
  let below := x.floor
  let rest := x - below
  if rest < 1 / 2 then below
  else if 1 / 2 < rest then below + 1
  else if below % 2 = 0 then below
  else below + 1

/-- `round(x, digits)`. -/
def roundTo (digits : Nat) (x : Rat) : Rat :=
  (roundHalfEven (x * 10 ^ digits) : Rat) / 10 ^ digits

/-- `int(x)`: the fraction is cut off. -/
def towardZero (x : Rat) : Int := if 0 ≤ x then x.floor else x.ceil

/-- A rounding is off by at most one half. -/
theorem roundHalfEven_near (x : Rat) :
    x - 1 / 2 ≤ roundHalfEven x ∧ (roundHalfEven x : Rat) ≤ x + 1 / 2 := by
  have below : (x.floor : Rat) ≤ x := Int.floor_le x
  have above : x < (x.floor : Rat) + 1 := Int.lt_floor_add_one x
  unfold roundHalfEven
  dsimp only
  split_ifs with down up even
  · constructor <;> linarith
  · push_cast
    constructor <;> linarith
  · constructor <;> linarith
  · push_cast
    constructor <;> linarith

/-- A rounding is the integer below or the one after it. -/
theorem roundHalfEven_cases (x : Rat) :
    roundHalfEven x = x.floor ∨ roundHalfEven x = x.floor + 1 := by
  unfold roundHalfEven
  dsimp only
  split_ifs
  · exact Or.inl rfl
  · exact Or.inr rfl
  · exact Or.inl rfl
  · exact Or.inr rfl

theorem roundHalfEven_mono {x y : Rat} (ordered : x ≤ y) : roundHalfEven x ≤ roundHalfEven y := by
  have floors : x.floor ≤ y.floor := Int.floor_mono ordered
  by_cases same : x.floor = y.floor
  · -- in one unit interval the rests are ordered as well
    have rests : x - (x.floor : Rat) ≤ y - (y.floor : Rat) := by
      rw [same]
      linarith
    unfold roundHalfEven
    dsimp only
    rw [← same] at rests ⊢
    split_ifs <;> first | omega | (exfalso; linarith)
  · have left := roundHalfEven_cases x
    have right := roundHalfEven_cases y
    omega

theorem roundTo_mono (digits : Nat) {x y : Rat} (ordered : x ≤ y) :
    roundTo digits x ≤ roundTo digits y := by
  have scale : (0 : Rat) < 10 ^ digits := by positivity
  have scaled : x * 10 ^ digits ≤ y * 10 ^ digits := mul_le_mul_of_nonneg_right ordered scale.le
  have whole : (roundHalfEven (x * 10 ^ digits) : Rat) ≤ roundHalfEven (y * 10 ^ digits) := by
    exact_mod_cast roundHalfEven_mono scaled
  exact div_le_div_of_nonneg_right whole scale.le

/-- Prices in paise are off by at most half a paisa. -/
theorem roundTo_two_near (x : Rat) : x - 1 / 200 ≤ roundTo 2 x ∧ roundTo 2 x ≤ x + 1 / 200 := by
  obtain ⟨low, high⟩ := roundHalfEven_near (x * 10 ^ 2)
  unfold roundTo
  constructor <;> linarith

@[simp] theorem roundHalfEven_intCast (n : Int) : roundHalfEven (n : Rat) = n := by
  have floor : (n : Rat).floor = n := Rat.floor_intCast n
  unfold roundHalfEven
  dsimp only
  rw [floor]
  norm_num

/-- A rounding changes nothing exactly where no further digit is used. -/
theorem roundTo_eq_iff (digits : Nat) (x : Rat) :
    roundTo digits x = x ↔ ∃ n : Int, x = n / 10 ^ digits := by
  have scale : (10 : Rat) ^ digits ≠ 0 := by positivity
  constructor
  · intro same
    exact ⟨roundHalfEven (x * 10 ^ digits), same.symm⟩
  · rintro ⟨n, rfl⟩
    rw [roundTo, div_mul_cancel₀ _ scale, roundHalfEven_intCast]

theorem roundTo_idem (digits : Nat) (x : Rat) :
    roundTo digits (roundTo digits x) = roundTo digits x :=
  (roundTo_eq_iff digits _).mpr ⟨_, rfl⟩

/-- The difference of two rounded values, times a whole quantity, is rounded. -/
theorem roundTo_sub_mul {digits : Nat} {x y : Rat} (first : roundTo digits x = x)
    (second : roundTo digits y = y) (qty : Int) :
    roundTo digits ((x - y) * qty) = (x - y) * qty := by
  obtain ⟨m, rfl⟩ := (roundTo_eq_iff digits x).mp first
  obtain ⟨n, rfl⟩ := (roundTo_eq_iff digits y).mp second
  apply (roundTo_eq_iff digits _).mpr
  refine ⟨(m - n) * qty, ?_⟩
  push_cast
  ring

end OptionChain.Rounding
