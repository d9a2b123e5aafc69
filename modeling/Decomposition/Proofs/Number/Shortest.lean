import Decomposition.Number.Shortest
import Decomposition.Proofs.Number.Rounding

namespace Decomposition.Number.Shortest
open Binary64

/-- The rational that a decimal stands for. -/
def Decimal.exact (d : Decimal) : ℚ := d.digits * 10 ^ d.power

/-- Both quantities are multiplied by the same number. -/
theorem exists_commonUnit (power2 power10 : ℤ) :
    ∃ factor : ℚ, 0 < factor ∧ ∀ binary decimal : ℕ,
      ((commonUnit binary power2 decimal power10).1 : ℚ) = binary * 2 ^ power2 * factor ∧
        ((commonUnit binary power2 decimal power10).2 : ℚ) = decimal * 10 ^ power10 * factor := by
  have split {base : ℚ} (nonzero : base ≠ 0) (power : ℤ) :
      base ^ power.toNat = base ^ power * base ^ (-power).toNat := by
    rw [← zpow_natCast, ← zpow_natCast, ← zpow_add₀ nonzero]
    congr 1
    omega
  refine ⟨2 ^ (-power2).toNat * 10 ^ (-power10).toNat, by positivity, fun binary decimal => ?_⟩
  simp only [commonUnit, twoTo, tenTo, Nat.pow_eq]
  push_cast
  rw [split (by norm_num) power2, split (by norm_num) power10]
  constructor <;> ring

theorem commonUnit_le_iff (binary decimal : ℕ) (power2 power10 : ℤ) :
    (commonUnit binary power2 decimal power10).1 ≤ (commonUnit binary power2 decimal power10).2 ↔
      (binary : ℚ) * 2 ^ power2 ≤ decimal * 10 ^ power10 := by
  obtain ⟨factor, positive, units⟩ := exists_commonUnit power2 power10
  obtain ⟨left, right⟩ := units binary decimal
  rw [← @Nat.cast_le ℚ, left, right, mul_le_mul_iff_left₀ positive]

theorem commonUnit_ge_iff (binary decimal : ℕ) (power2 power10 : ℤ) :
    (commonUnit binary power2 decimal power10).2 ≤ (commonUnit binary power2 decimal power10).1 ↔
      (decimal : ℚ) * 10 ^ power10 ≤ binary * 2 ^ power2 := by
  obtain ⟨factor, positive, units⟩ := exists_commonUnit power2 power10
  obtain ⟨left, right⟩ := units binary decimal
  rw [← @Nat.cast_le ℚ, left, right, mul_le_mul_iff_left₀ positive]

section Interval
variable {v : Finite} (nonzero : 0 < v.significand)

theorem upper_eq (v : Finite) :
    ((Interval.of v).upper : ℚ) * 2 ^ (Interval.of v).power =
      (v.significand + 1 / 2) * 2 ^ v.exponent := by
  have quarter : (2 : ℚ) ^ v.exponent = 2 ^ (v.exponent - 2) * 2 ^ 2 := by
    rw [← zpow_natCast, ← zpow_add₀ (by norm_num)]
    congr 1
    omega
  simp only [Interval.of]
  rw [quarter]
  push_cast
  ring

include nonzero

theorem lower_eq :
    ((Interval.of v).lower : ℚ) * 2 ^ (Interval.of v).power =
      (v.significand - v.gapBelow) * 2 ^ v.exponent := by
  have quarter : (2 : ℚ) ^ v.exponent = 2 ^ (v.exponent - 2) * 2 ^ 2 := by
    rw [← zpow_natCast, ← zpow_add₀ (by norm_num)]
    congr 1
    omega
  have implicit : twoTo 52 = 2 ^ 52 := rfl
  simp only [Interval.of, Finite.gapBelow, implicit]
  rw [quarter]
  split
  · rw [Nat.cast_sub (by omega)]
    push_cast
    ring
  · rw [Nat.cast_sub (by omega)]
    push_cast
    ring

/-- The interval of the search is the one that comes to the double. -/
theorem contains_iff (d : Decimal) :
    (Interval.of v).contains d = true ↔ v.Attracts d.exact := by
  let i := Interval.of v
  have low := commonUnit_le_iff i.lower d.digits i.power d.power
  have above := commonUnit_ge_iff i.lower d.digits i.power d.power
  have high := commonUnit_ge_iff i.upper d.digits i.power d.power
  have below := commonUnit_le_iff i.upper d.digits i.power d.power
  rw [lower_eq nonzero] at low above
  rw [upper_eq] at high below
  have closed_iff : i.closed = true ↔ ¬ v.significand % 2 = 1 := by
    simp only [i, Interval.of, decide_eq_true_eq]
    omega
  change (if i.closed then decide (_ ∧ _) else decide (_ ∧ _)) = true ↔ _
  by_cases odd : v.significand % 2 = 1
  · have isOpen : i.closed = false := Bool.eq_false_iff.2 fun closed => closed_iff.1 closed odd
    rw [isOpen, if_neg Bool.false_ne_true, decide_eq_true_eq]
    constructor
    · rintro ⟨more, less⟩
      have more := not_le.1 (mt above.2 (not_le.2 more))
      have less := not_le.1 (mt below.2 (not_le.2 less))
      exact ⟨more.le, less.le, fun _ => ⟨more, less⟩⟩
    · intro attracts
      obtain ⟨more, less⟩ := attracts.odd odd
      exact ⟨not_le.1 (mt above.1 (not_le.2 more)), not_le.1 (mt below.1 (not_le.2 less))⟩
  · rw [closed_iff.2 odd, if_pos rfl, decide_eq_true_eq]
    constructor
    · rintro ⟨more, less⟩
      exact ⟨low.1 more, high.1 less, fun isOdd => absurd isOdd odd⟩
    · intro attracts
      exact ⟨low.2 attracts.low, high.2 attracts.high⟩

end Interval

section Search
variable {i : Interval} {num den : ℕ} {power : ℤ} {d : Decimal}

/-- What the search finds on a grid is in the interval. -/
theorem contains_onGrid (found : i.onGrid num den power = some d) : i.contains d = true := by
  unfold Interval.onGrid at found
  dsimp only at found
  split at found
  · rename_i below above
    cases found
    unfold Interval.nearer
    dsimp only
    split
    · exact below
    · exact above
  · rename_i below _
    cases found
    exact below
  · rename_i _ above
    cases found
    exact above
  · cases found

/-- The search stops at a grid if it has a neighbour of the value in the interval. -/
theorem exists_onGrid (inside : i.contains ⟨gridFloor num den power, power⟩ = true ∨
    i.contains ⟨gridFloor num den power + 1, power⟩ = true) :
    ∃ d, i.onGrid num den power = some d := by
  unfold Interval.onGrid
  dsimp only
  rcases inside with below | above
  · rw [below]
    split <;> first | exact ⟨_, rfl⟩ | simp_all
  · rw [above]
    split <;> first | exact ⟨_, rfl⟩ | simp_all

theorem gridFloor_bounds (num_pos : 0 < num) (den_pos : 0 < den) (power : ℤ) :
    (gridFloor num den power : ℚ) * 10 ^ power ≤ num / den ∧
      (num : ℚ) / den < ((gridFloor num den power : ℚ) + 1) * 10 ^ power := by
  let top := num * tenTo (-power).toNat
  let bottom := den * tenTo power.toNat
  have bottom_pos : 0 < bottom := Nat.mul_pos den_pos (tenTo_pos _)
  have ratio : (top : ℚ) / bottom = num / den / 10 ^ power := by
    have split : (10 : ℚ) ^ power.toNat = 10 ^ power * 10 ^ (-power).toNat := by
      rw [← zpow_natCast, ← zpow_natCast, ← zpow_add₀ (by norm_num)]
      congr 1
      omega
    simp only [top, bottom, tenTo, Nat.pow_eq]
    push_cast
    rw [split]
    field_simp
  have positive : (0 : ℚ) < 10 ^ power := by positivity
  have part_pos : (0 : ℚ) < bottom := by exact_mod_cast bottom_pos
  have whole : (top : ℚ) / bottom = (gridFloor num den power : ℕ) + (top % bottom : ℕ) / bottom :=
    quotient_eq_add bottom_pos top
  have part : ((top % bottom : ℕ) : ℚ) / bottom < 1 := by
    rw [div_lt_one part_pos]
    exact_mod_cast Nat.mod_lt top bottom_pos
  have part_nonneg : (0 : ℚ) ≤ (top % bottom : ℕ) / bottom := by positivity
  rw [ratio] at whole
  rw [← le_div_iff₀ positive, ← div_lt_iff₀ positive]
  constructor <;> linarith

/-- The point stands after the first digit at the latest, seen from the position that is found. -/
theorem tenTo_pointPosition_le (num_pos : 0 < num) (den_pos : 0 < den) :
    (10 : ℚ) ^ (pointPosition num den - 1) ≤ num / den := by
  have positive : (0 : ℚ) < den := by exact_mod_cast den_pos
  unfold pointPosition
  split
  · rename_i large
    have whole_pos : 0 < num / den := Nat.div_pos large den_pos
    have long := decimalLength_pos whole_pos
    have least : 10 ^ (decimalLength (num / den) - 1) * den ≤ num :=
      (Nat.le_div_iff_mul_le den_pos).1 (tenTo_le_of_pos whole_pos)
    rw [le_div_iff₀ positive, ← Nat.cast_one, ← Nat.cast_sub long, zpow_natCast]
    exact_mod_cast least
  · have short : (den - 1) / num < 10 ^ decimalLength ((den - 1) / num) := lt_tenTo_decimalLength _
    have most : den ≤ num * 10 ^ decimalLength ((den - 1) / num) := by
      have := (Nat.div_lt_iff_lt_mul num_pos).1 short
      rw [Nat.mul_comm] at this
      omega
    rw [sub_sub_cancel_left, zpow_neg, zpow_natCast, inv_le_iff_one_le_mul₀ (by positivity),
      div_mul_eq_mul_div, one_le_div positive]
    exact_mod_cast most

end Search

section Seventeen
variable {v : Finite} (canonical : v.Canonical) (nonzero : 0 < v.significand)

theorem quotient_pos (v : Finite) (nonzero : 0 < v.significand) :
    0 < v.quotient.1 ∧ 0 < v.quotient.2 := by
  refine ⟨?_, scale_pos Nat.one_pos v.significand v.exponent⟩
  unfold Finite.quotient scale
  split
  · exact Nat.mul_pos nonzero (Nat.two_pow_pos _)
  · exact nonzero

theorem quotient_eq (v : Finite) :
    (v.quotient.1 : ℚ) / v.quotient.2 = v.significand * 2 ^ v.exponent := by
  rw [Finite.quotient, scale_quotient, Nat.cast_one, div_one]

include canonical in
/-- On the last grid the points are closer to each other than the ends of the interval. -/
theorem spacing_lt {power : ℤ} (fine : (10 : ℚ) ^ (power + 16) ≤ v.significand * 2 ^ v.exponent) :
    (10 : ℚ) ^ power < (v.significand + 1 / 2) * 2 ^ v.exponent -
      (v.significand - v.gapBelow) * 2 ^ v.exponent := by
  have positive : (0 : ℚ) < 2 ^ v.exponent := by positivity
  have enough : (v.significand : ℚ) < 10 ^ 16 * (1 / 2 + v.gapBelow) := by
    unfold Finite.gapBelow
    split
    · rename_i power
      rw [power.1]
      norm_num
    · have bound : (v.significand : ℚ) < 2 ^ 53 := by exact_mod_cast canonical.significand_lt
      exact bound.trans (by norm_num)
  rw [zpow_add₀ (by norm_num)] at fine
  have scaled : (10 : ℚ) ^ power * 10 ^ 16 < 10 ^ 16 * ((1 / 2 + v.gapBelow) * 2 ^ v.exponent) := by
    calc (10 : ℚ) ^ power * 10 ^ 16 ≤ v.significand * 2 ^ v.exponent := by exact_mod_cast fine
      _ < 10 ^ 16 * (1 / 2 + v.gapBelow) * 2 ^ v.exponent := by gcongr
      _ = 10 ^ 16 * ((1 / 2 + v.gapBelow) * 2 ^ v.exponent) := mul_assoc _ _ _
  linarith

theorem attracts_of_between {q : ℚ} (low : (v.significand - v.gapBelow) * 2 ^ v.exponent < q)
    (high : q < (v.significand + 1 / 2) * 2 ^ v.exponent) : v.Attracts q :=
  ⟨low.le, high.le, fun _ => ⟨low, high⟩⟩

include canonical nonzero

/-- One of the neighbours of the value on the last grid comes to it. -/
theorem attracts_neighbour (power : ℤ)
    (fine : (10 : ℚ) ^ (power + 16) ≤ v.significand * 2 ^ v.exponent) :
    v.Attracts (Decimal.exact ⟨gridFloor v.quotient.1 v.quotient.2 power, power⟩) ∨
      v.Attracts (Decimal.exact ⟨gridFloor v.quotient.1 v.quotient.2 power + 1, power⟩) := by
  obtain ⟨num_pos, den_pos⟩ := quotient_pos v nonzero
  obtain ⟨below, above⟩ := gridFloor_bounds num_pos den_pos power
  have spacing := spacing_lt canonical fine
  have positive : (0 : ℚ) < 2 ^ v.exponent := by positivity
  have gap : 0 < v.gapBelow := by
    unfold Finite.gapBelow
    split <;> norm_num
  have low : ((v.significand : ℚ) - v.gapBelow) * 2 ^ v.exponent <
      v.significand * 2 ^ v.exponent := by gcongr; linarith
  have high : (v.significand : ℚ) * 2 ^ v.exponent <
      (v.significand + 1 / 2) * 2 ^ v.exponent := by gcongr; linarith
  rw [quotient_eq] at below above
  rw [Decimal.exact, Decimal.exact]
  push_cast
  by_cases more : ((v.significand : ℚ) - v.gapBelow) * 2 ^ v.exponent <
      gridFloor v.quotient.1 v.quotient.2 power * 10 ^ power
  · exact .inl (attracts_of_between more (below.trans_lt high))
  · refine .inr (attracts_of_between (low.trans above) ?_)
    linarith

/-- Seventeen digits suffice. -/
theorem attracts_decimal : v.Attracts (decimal v).exact := by
  obtain ⟨num_pos, den_pos⟩ := quotient_pos v nonzero
  have point := tenTo_pointPosition_le num_pos den_pos
  rw [quotient_eq] at point
  unfold decimal
  dsimp only
  generalize pointPosition v.quotient.1 v.quotient.2 = position at *
  have last := attracts_neighbour canonical nonzero (position - 1 - (16 : ℕ))
    (by simpa using point)
  rw [← contains_iff nonzero, ← contains_iff nonzero] at last
  cases found : (List.range 17).findSome? fun places : ℕ =>
      (Interval.of v).onGrid v.quotient.1 v.quotient.2 (position - 1 - places) with
  | none =>
      obtain ⟨d, there⟩ := exists_onGrid last
      rw [List.findSome?_eq_none_iff] at found
      rw [found 16 (by decide)] at there
      cases there
  | some d =>
      obtain ⟨places, _, there⟩ := List.exists_of_findSome?_eq_some found
      exact (contains_iff nonzero d).1 (contains_onGrid there)

end Seventeen

end Decomposition.Number.Shortest
