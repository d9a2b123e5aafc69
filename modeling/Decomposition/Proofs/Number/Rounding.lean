import Decomposition.Proofs.Number.Words

namespace Decomposition.Binary64

/-- A rational is scaled by a power of two. -/
theorem scale_pos {den : ℕ} (pos : 0 < den) (num : ℕ) (power : ℤ) :
    0 < (scale num den power).2 := by
  unfold scale
  split
  · exact pos
  · exact Nat.mul_pos pos (Nat.two_pow_pos _)

theorem scale_quotient (num den : ℕ) (power : ℤ) :
    ((scale num den power).1 : ℚ) / (scale num den power).2 = num / den * 2 ^ power := by
  unfold scale
  split
  · rename_i nonnegative
    obtain ⟨n, rfl⟩ := Int.eq_ofNat_of_zero_le nonnegative
    simp only [twoTo, Nat.pow_eq]
    push_cast
    rw [Int.toNat_natCast, zpow_natCast]
    ring
  · rename_i negative
    obtain ⟨n, rfl⟩ : ∃ n : ℕ, power = -n := ⟨power.natAbs, by omega⟩
    simp only [twoTo, Nat.pow_eq]
    push_cast
    rw [neg_neg, Int.toNat_natCast, zpow_neg, zpow_natCast]
    field_simp

/-- A quotient of naturals is its whole part and what is left. -/
theorem quotient_eq_add {den : ℕ} (pos : 0 < den) (num : ℕ) :
    (num : ℚ) / den = (num / den : ℕ) + (num % den : ℕ) / den := by
  have den_ne : (den : ℚ) ≠ 0 := by exact_mod_cast pos.ne'
  have split : (num : ℚ) = den * (num / den : ℕ) + (num % den : ℕ) := by
    exact_mod_cast (Nat.div_add_mod num den).symm
  conv_lhs => rw [split]
  field_simp

/-- The quotient is off by at most a half, and by less unless the count is even. -/
theorem roundHalfEven_eq {num den n : ℕ} (pos : 0 < den) (low : (n : ℚ) - 1 / 2 ≤ num / den)
    (high : (num : ℚ) / den ≤ n + 1 / 2)
    (odd : n % 2 = 1 → (n : ℚ) - 1 / 2 < num / den ∧ (num : ℚ) / den < n + 1 / 2) :
    roundHalfEven num den = n := by
  have den_pos : (0 : ℚ) < den := by exact_mod_cast pos
  have part : ((num % den : ℕ) : ℚ) / den < 1 := by
    rw [div_lt_one den_pos]
    exact_mod_cast Nat.mod_lt num pos
  have part_nonneg : (0 : ℚ) ≤ (num % den : ℕ) / den := by positivity
  have below_iff : 2 * (num % den) < den ↔ ((num % den : ℕ) : ℚ) / den < 1 / 2 := by
    rw [div_lt_iff₀ den_pos, ← @Nat.cast_lt ℚ]
    push_cast
    constructor <;> intro h <;> linarith
  have above_iff : den < 2 * (num % den) ↔ 1 / 2 < ((num % den : ℕ) : ℚ) / den := by
    rw [lt_div_iff₀ den_pos, ← @Nat.cast_lt ℚ]
    push_cast
    constructor <;> intro h <;> linarith
  rw [quotient_eq_add pos] at low high odd
  unfold roundHalfEven
  dsimp only
  simp only [below_iff, above_iff]
  generalize ((num % den : ℕ) : ℚ) / den = rest at *
  generalize num / den = quotient at *
  have least : quotient ≤ n := by
    have : (quotient : ℚ) < n + 1 := by linarith
    exact Nat.lt_succ_iff.1 (by exact_mod_cast this)
  have most : n ≤ quotient + 1 := by
    have : (n : ℚ) < quotient + 1 + 1 := by linarith
    exact Nat.lt_succ_iff.1 (by exact_mod_cast this)
  obtain rfl | rfl : n = quotient ∨ n = quotient + 1 := by omega
  · split
    · rfl
    · split
      · linarith
      · have tie : ¬ n % 2 = 1 := fun isOdd => by linarith [(odd isOdd).2]
        omega
  · push_cast at low high odd
    split
    · linarith
    · split
      · rfl
      · have tie : ¬ (quotient + 1) % 2 = 1 := fun isOdd => by linarith [(odd isOdd).1]
        omega

/-- The lengths of two naturals in binary say how large their quotient is. -/
theorem quotient_bounds {num den : ℕ} (num_pos : 0 < num) (den_pos : 0 < den) :
    (2 : ℚ) ^ ((num.log2 : ℤ) - den.log2 - 1) < num / den ∧
      (num : ℚ) / den < 2 ^ ((num.log2 : ℤ) - den.log2 + 1) := by
  have num_low : (2 : ℚ) ^ (num.log2 : ℤ) ≤ num := by
    exact_mod_cast Nat.log2_self_le num_pos.ne'
  have num_high : (num : ℚ) < 2 ^ ((num.log2 : ℤ) + 1) := by
    exact_mod_cast Nat.lt_log2_self
  have den_low : (2 : ℚ) ^ (den.log2 : ℤ) ≤ den := by
    exact_mod_cast Nat.log2_self_le den_pos.ne'
  have den_high : (den : ℚ) < 2 ^ ((den.log2 : ℤ) + 1) := by
    exact_mod_cast Nat.lt_log2_self
  have positive : (0 : ℚ) < den := by exact_mod_cast den_pos
  constructor
  · rw [lt_div_iff₀ positive]
    calc (2 : ℚ) ^ ((num.log2 : ℤ) - den.log2 - 1) * den
        < 2 ^ ((num.log2 : ℤ) - den.log2 - 1) * 2 ^ ((den.log2 : ℤ) + 1) := by gcongr
      _ = 2 ^ (num.log2 : ℤ) := by
          rw [← zpow_add₀ (by norm_num)]
          congr 1
          ring
      _ ≤ num := num_low
  · rw [div_lt_iff₀ positive]
    calc (num : ℚ) < 2 ^ ((num.log2 : ℤ) + 1) := num_high
      _ = 2 ^ ((num.log2 : ℤ) - den.log2 + 1) * 2 ^ (den.log2 : ℤ) := by
          rw [← zpow_add₀ (by norm_num)]
          congr 1
          ring
      _ ≤ 2 ^ ((num.log2 : ℤ) - den.log2 + 1) * den := by gcongr

/-- Whether a quotient has less than 53 bits before the point when it is counted in some unit. -/
theorem fits_iff {den : ℕ} (den_pos : 0 < den) (num : ℕ) (unit : ℤ) :
    (scale num den (-unit)).1 / (scale num den (-unit)).2 < twoTo 53 ↔
      (num : ℚ) / den < 2 ^ (unit + 53) := by
  have positive : (0 : ℚ) < (scale num den (-unit)).2 := by
    exact_mod_cast scale_pos den_pos num (-unit)
  rw [Nat.div_lt_iff_lt_mul (scale_pos den_pos num _), ← @Nat.cast_lt ℚ, Nat.cast_mul,
    ← div_lt_iff₀ positive, scale_quotient, zpow_neg, ← div_eq_mul_inv, div_lt_iff₀ (by positivity)]
  have power : (2 : ℚ) ^ (unit + 53) = (twoTo 53 : ℕ) * 2 ^ unit := by
    rw [zpow_add₀ (by norm_num), mul_comm, twoTo, Nat.pow_eq]
    norm_num
  rw [power]

/-- The unit leaves less than 53 bits before the point. It leaves all of them, unless it is the
smallest unit of all. -/
theorem unitPower_spec {num den : ℕ} (num_pos : 0 < num) (den_pos : 0 < den) :
    -1074 ≤ unitPower num den ∧ (num : ℚ) / den < 2 ^ (unitPower num den + 53) ∧
      (unitPower num den = -1074 ∨ (2 : ℚ) ^ (unitPower num den + 52) ≤ num / den) := by
  obtain ⟨low, high⟩ := quotient_bounds num_pos den_pos
  have large : (1 : ℚ) ≤ 2 := by norm_num
  unfold unitPower
  dsimp only
  generalize guess_eq : max (-1074) ((num.log2 : ℤ) - den.log2 - 53) = guess
  have least : -1074 ≤ guess := guess_eq ▸ le_max_left _ _
  have fits : (scale num den (-guess)).1 / (scale num den (-guess)).2 < twoTo 53 ↔
      (num : ℚ) / den < 2 ^ (guess + 53) := fits_iff den_pos num guess
  have below : (num : ℚ) / den < 2 ^ (guess + 1 + 53) := by
    refine high.trans_le (zpow_le_zpow_right₀ large ?_)
    omega
  have above : guess = -1074 ∨ (2 : ℚ) ^ (guess + 52) ≤ num / den := by
    rcases max_choice (-1074) ((num.log2 : ℤ) - den.log2 - 53) with first | second
    · exact .inl (guess_eq ▸ first)
    · refine .inr (le_of_lt (lt_of_le_of_lt (zpow_le_zpow_right₀ large ?_) low))
      omega
  split
  · rename_i small
    exact ⟨least, fits.1 small, above⟩
  · rename_i big
    refine ⟨by omega, below, .inr ?_⟩
    have := not_lt.1 (mt fits.2 big)
    rwa [show guess + 1 + 52 = guess + 53 by ring]

namespace Finite

/-- Below a power of two the doubles are twice as dense. -/
def gapBelow (v : Finite) : ℚ :=
  if v.significand = 2 ^ 52 ∧ -1074 < v.exponent then 1 / 4 else 1 / 2

/-- The rational is nearer to the magnitude of the double than to that of any other one, or it lies
halfway and the significand is even. Just below a power of two the smaller unit counts. -/
structure Attracts (v : Finite) (q : ℚ) : Prop where
  low : (v.significand - v.gapBelow) * 2 ^ v.exponent ≤ q
  high : q ≤ (v.significand + 1 / 2) * 2 ^ v.exponent
  odd : v.significand % 2 = 1 → (v.significand - v.gapBelow) * 2 ^ v.exponent < q ∧
    q < (v.significand + 1 / 2) * 2 ^ v.exponent

theorem gapBelow_le (v : Finite) : v.gapBelow ≤ 1 / 2 := by
  unfold gapBelow
  split <;> norm_num

variable {v : Finite} {q : ℚ}

theorem Attracts.lt_power (attracts : v.Attracts q) (canonical : v.Canonical) :
    q < 2 ^ (v.exponent + 53) := by
  have bound : (v.significand : ℚ) + 1 ≤ 2 ^ 53 := by exact_mod_cast canonical.significand_lt
  calc q ≤ (v.significand + 1 / 2) * 2 ^ v.exponent := attracts.high
    _ < 2 ^ 53 * 2 ^ v.exponent := by
        gcongr
        linarith
    _ = 2 ^ (v.exponent + 53) := by
        rw [zpow_add₀ (by norm_num), mul_comm]
        norm_cast

/-- Nothing that is smaller than half of the smallest double comes to a double other than zero. -/
theorem Attracts.smallest_le (attracts : v.Attracts q) (canonical : v.Canonical)
    (nonzero : 0 < v.significand) : (2 : ℚ) ^ (-1075 : ℤ) ≤ q := by
  have least : (1 : ℚ) ≤ v.significand := by exact_mod_cast nonzero
  have gap := v.gapBelow_le
  calc (2 : ℚ) ^ (-1075 : ℤ) = 1 / 2 * 2 ^ (-1074 : ℤ) := by
        rw [show (-1075 : ℤ) = -1074 - 1 from rfl, zpow_sub_one₀ (by norm_num)]
        ring
    _ ≤ (v.significand - v.gapBelow) * 2 ^ v.exponent := by
        gcongr
        · linarith
        · linarith
        · norm_num
        · exact canonical.exponent_ge
    _ ≤ q := attracts.low

/-- What comes to a double above the smallest exponent is not much below the smallest of its
powers. -/
theorem Attracts.digits_pos {digits : ℕ} {power : ℤ} (attracts : v.Attracts (digits * 10 ^ power))
    (canonical : v.Canonical) (nonzero : 0 < v.significand) : 0 < digits := by
  have smallest := attracts.smallest_le canonical nonzero
  refine Nat.pos_of_ne_zero fun none => ?_
  rw [none, Nat.cast_zero, zero_mul] at smallest
  exact absurd smallest (not_le.2 (by positivity))

theorem Attracts.power_le (attracts : v.Attracts q) (canonical : v.Canonical)
    (exponent : -1074 < v.exponent) :
    2 ^ (v.exponent + 52) ≤ q ∨ v.significand = 2 ^ 52 ∧
      (2 ^ 52 - 1 / 4) * 2 ^ v.exponent ≤ q := by
  have power : (2 : ℚ) ^ (v.exponent + 52) = 2 ^ 52 * 2 ^ v.exponent := by
    rw [zpow_add₀ (by norm_num), mul_comm]
    norm_cast
  have low := attracts.low
  rcases Nat.eq_or_lt_of_le (canonical.normal exponent) with least | more
  · refine .inr ⟨least.symm, ?_⟩
    rw [gapBelow, if_pos ⟨least.symm, exponent⟩, ← least] at low
    exact_mod_cast low
  · left
    have more : (2 : ℚ) ^ 52 + 1 ≤ v.significand := by exact_mod_cast more
    have gap := v.gapBelow_le
    rw [power]
    refine le_trans ?_ low
    gcongr
    linarith

end Finite

section Nearest
variable {num den : ℕ} (num_pos : 0 < num) (den_pos : 0 < den)
include den_pos

/-- The number of units that a quotient is nearest to. -/
theorem count_eq {unit : ℤ} {n : ℕ} (low : ((n : ℚ) - 1 / 2) * 2 ^ unit ≤ num / den)
    (high : (num : ℚ) / den ≤ (n + 1 / 2) * 2 ^ unit)
    (odd : n % 2 = 1 → ((n : ℚ) - 1 / 2) * 2 ^ unit < num / den ∧
      (num : ℚ) / den < (n + 1 / 2) * 2 ^ unit) :
    roundHalfEven (scale num den (-unit)).1 (scale num den (-unit)).2 = n := by
  have positive : (0 : ℚ) < 2 ^ unit := by positivity
  have scaled := scale_quotient num den (-unit)
  rw [zpow_neg, ← div_eq_mul_inv] at scaled
  apply roundHalfEven_eq (scale_pos den_pos num _) <;> rw [scaled]
  · rwa [le_div_iff₀ positive]
  · rwa [div_le_iff₀ positive]
  · intro isOdd
    rw [lt_div_iff₀ positive, div_lt_iff₀ positive]
    exact odd isOdd

variable {v : Finite} (canonical : v.Canonical) (attracts : v.Attracts (num / den))
include num_pos canonical attracts

/-- A quotient just below a power of two is counted in units of half the size. -/
theorem unitPower_eq :
    unitPower num den = v.exponent ∨ unitPower num den = v.exponent - 1 ∧ -1074 < v.exponent ∧
      v.significand = 2 ^ 52 ∧ (num : ℚ) / den < 2 ^ (v.exponent + 52) ∧
        (2 ^ 52 - 1 / 4) * 2 ^ v.exponent ≤ (num : ℚ) / den := by
  obtain ⟨least, less, full⟩ := unitPower_spec num_pos den_pos
  have power_lt {a b : ℤ} (h : (2 : ℚ) ^ a < 2 ^ b) : a < b :=
    (zpow_lt_zpow_iff_right₀ (by norm_num)).1 h
  have most : unitPower num den ≤ v.exponent := by
    rcases full with smallest | full
    · exact smallest ▸ canonical.exponent_ge
    · have := power_lt (lt_of_le_of_lt full (attracts.lt_power canonical))
      omega
  rcases eq_or_lt_of_le canonical.exponent_ge with smallest | exponent
  · left
    omega
  · rcases attracts.power_le canonical exponent with above | ⟨power, near⟩
    · left
      have := power_lt (lt_of_le_of_lt above less)
      omega
    · by_cases below : (num : ℚ) / den < 2 ^ (v.exponent + 52)
      · have half : (2 : ℚ) ^ (v.exponent + 51) < num / den := by
          refine lt_of_lt_of_le ?_ near
          rw [zpow_add₀ (by norm_num), mul_comm]
          gcongr
          norm_num
        have := power_lt (half.trans less)
        rcases eq_or_lt_of_le most with same | smaller
        · exact .inl same
        · exact .inr ⟨by omega, exponent, power, below, near⟩
      · left
        have := power_lt (lt_of_le_of_lt (not_lt.1 below) less)
        omega

/-- Both spellings of a power of two come to one word. -/
theorem nearestWord_eq : nearestWord v.negative num den = v.word := by
  have bound := canonical.significand_lt
  have highest := canonical.exponent_le
  have lowest := canonical.exponent_ge
  have implicit : twoTo 52 = 4503599627370496 := rfl
  obtain ⟨steps, exponent_eq⟩ : ∃ steps : ℕ, v.exponent = steps - 1074 :=
    ⟨(v.exponent + 1074).toNat, by omega⟩
  have own : (v.exponent + 1074).toNat = steps := by omega
  unfold nearestWord Finite.word
  dsimp only
  rcases unitPower_eq num_pos den_pos canonical attracts with
    same | ⟨smaller, exponent, power, below, near⟩
  · have counted : roundHalfEven (scale num den (-v.exponent)).1 (scale num den (-v.exponent)).2 =
        v.significand := by
      have gap := v.gapBelow_le
      refine count_eq den_pos (le_trans ?_ attracts.low) attracts.high fun isOdd => ?_
      · gcongr
      · obtain ⟨low, high⟩ := attracts.odd isOdd
        refine ⟨lt_of_le_of_lt ?_ low, high⟩
        gcongr
    rw [same, counted, implicit, own, min_eq_left (by omega), Nat.add_assoc]
  · have double : (2 : ℚ) ^ v.exponent = 2 * 2 ^ (v.exponent - 1) := by
      rw [← zpow_one_add₀ (by norm_num)]
      congr 1
      ring
    have counted : roundHalfEven (scale num den (-(v.exponent - 1))).1
        (scale num den (-(v.exponent - 1))).2 = 2 ^ 53 := by
      rw [zpow_add₀ (by norm_num), double] at below
      rw [double] at near
      have positive : (0 : ℚ) < 2 ^ (v.exponent - 1) := by positivity
      refine count_eq den_pos (le_trans (le_of_eq ?_) near) (le_trans (le_of_lt below) ?_)
        fun isOdd => absurd isOdd (by decide)
      · push_cast
        ring
      · push_cast
        norm_num
        linarith
    have one_less : (v.exponent - 1 + 1074).toNat + 1 = steps := by omega
    rw [smaller, counted, power, implicit, own, ← one_less, min_eq_left (by omega), Nat.succ_mul]
    omega

end Nearest

section Length
variable {n : ℕ}

theorem lt_tenTo_decimalLength (n : ℕ) : n < 10 ^ decimalLength n := by
  unfold decimalLength
  split
  · rename_i zero
    simp [zero]
  · exact (Nat.length_toDigits_le_iff (by decide) Nat.length_toDigits_pos).1 le_rfl

theorem tenTo_le_of_pos (pos : 0 < n) : 10 ^ (decimalLength n - 1) ≤ n := by
  rw [decimalLength, if_neg pos.ne']
  rcases Nat.eq_zero_or_pos ((Nat.toDigits 10 n).length - 1) with short | long
  · rw [short]
    exact pos
  · refine not_lt.1 fun less => ?_
    have := (Nat.length_toDigits_le_iff (by decide) long).2 less
    omega

theorem decimalLength_pos (pos : 0 < n) : 0 < decimalLength n := by
  rw [decimalLength, if_neg pos.ne']
  exact Nat.length_toDigits_pos

/-- Length and power say how large a decimal is. -/
theorem decimal_bounds (pos : 0 < n) (power : ℤ) :
    (10 : ℚ) ^ (decimalLength n + power - 1) ≤ n * 10 ^ power ∧
      (n : ℚ) * 10 ^ power < 10 ^ (decimalLength n + power) := by
  have low : (10 : ℚ) ^ (decimalLength n - 1 : ℕ) ≤ n := by exact_mod_cast tenTo_le_of_pos pos
  have high : (n : ℚ) < 10 ^ decimalLength n := by exact_mod_cast lt_tenTo_decimalLength n
  have long := decimalLength_pos pos
  constructor
  · rw [show (decimalLength n + power - 1 : ℤ) = (decimalLength n - 1 : ℕ) + power by omega,
      zpow_add₀ (by norm_num), zpow_natCast]
    gcongr
  · rw [zpow_add₀ (by norm_num), zpow_natCast]
    gcongr

end Length

theorem tenTo_le_smallest : (10 : ℚ) ^ (-330 : ℤ) ≤ 2 ^ (-1075 : ℤ) := by
  have larger : (2 : ℚ) ^ 1075 ≤ 10 ^ 330 := by
    exact_mod_cast (by decide +kernel : 2 ^ 1075 ≤ 10 ^ 330)
  rw [zpow_neg, zpow_neg]
  exact inv_anti₀ (by positivity) (by exact_mod_cast larger)

theorem largest_le_tenTo : (2 : ℚ) ^ (1024 : ℤ) ≤ 10 ^ (310 : ℤ) := by
  exact_mod_cast (by decide +kernel : 2 ^ 1024 ≤ 10 ^ 310)

theorem tenTo_pos (n : ℕ) : 0 < tenTo n := Nat.pow_pos (by decide)

/-- A decimal that comes to a finite double is read as that double. -/
theorem ofDecimal_eq {x : Float} {v : Finite} (finite : value x = .finite v)
    (nonzero : 0 < v.significand) {digits : ℕ} {power : ℤ}
    (attracts : v.Attracts (digits * 10 ^ power)) : ofDecimal v.negative digits power = x := by
  obtain ⟨canonical, _⟩ := fields_of_value finite
  have smallest := attracts.smallest_le canonical nonzero
  have largest : (digits : ℚ) * 10 ^ power < 2 ^ (1024 : ℤ) :=
    (attracts.lt_power canonical).trans_le <|
      zpow_le_zpow_right₀ (by norm_num) (by linarith [canonical.exponent_le])
  have digits_pos := attracts.digits_pos canonical nonzero
  obtain ⟨low, high⟩ := decimal_bounds digits_pos power
  have notTiny : ¬ ((decimalLength digits : ℤ) + power < -330) := fun tiny => by
    have less := (smallest.trans_lt high).trans_le
      (zpow_le_zpow_right₀ (by norm_num) (Int.le_of_lt tiny))
    exact absurd less (not_lt.2 tenTo_le_smallest)
  have notHuge : ¬ (310 < (decimalLength digits : ℤ) + power) := fun huge => by
    have less := (zpow_le_zpow_right₀ (by norm_num) (Int.le_sub_one_of_lt huge)).trans_lt
      (low.trans_lt largest)
    exact absurd less (not_lt.2 largest_le_tenTo)
  have reads {num den : ℕ} (num_pos : 0 < num) (den_pos : 0 < den)
      (same : (num : ℚ) / den = digits * 10 ^ power) : nearest v.negative num den = x := by
    rw [nearest, if_neg num_pos.ne',
      nearestWord_eq num_pos den_pos canonical (same.symm ▸ attracts), ← eq_of_finite finite]
  unfold ofDecimal
  dsimp only
  rw [if_neg (by omega), if_neg notHuge]
  split
  · rename_i nonnegative
    obtain ⟨n, rfl⟩ := Int.eq_ofNat_of_zero_le nonnegative
    refine reads (Nat.mul_pos digits_pos (tenTo_pos _)) Nat.one_pos ?_
    simp [tenTo]
  · rename_i negative
    obtain ⟨n, rfl⟩ : ∃ n : ℕ, power = -n := ⟨power.natAbs, by omega⟩
    refine reads digits_pos (tenTo_pos _) ?_
    simp [tenTo, div_eq_mul_inv]

end Decomposition.Binary64
