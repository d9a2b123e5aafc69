import Decomposition.Proofs.Number.Written

namespace Decomposition.Number
open Text Binary64

def signChars (negative : Bool) : List Char := if negative then ['-'] else []

theorem toList_signed (negative : Bool) (t : String) :
    (signed negative t).toList = signChars negative ++ t.toList := by
  cases negative
  · rfl
  · exact String.toList_append

/-- A zero is read with its sign, whatever the power of ten. -/
theorem ofDecimal_of_zero {x : Float} {v : Finite} (finite : value x = .finite v)
    (zero : v.significand = 0) {digits : ℕ} {power : ℤ} (nothing : (digits : ℚ) * 10 ^ power = 0) :
    ofDecimal v.negative digits power = x := by
  have none : digits = 0 := by
    rcases mul_eq_zero.1 nothing with none | impossible
    · exact_mod_cast none
    · exact absurd impossible (zpow_ne_zero _ (by norm_num))
  have canonical := (fields_of_value finite).1
  have lowest : v.exponent = -1074 := by
    by_contra above
    have normal := canonical.normal (lt_of_le_of_ne canonical.exponent_ge (Ne.symm above))
    omega
  have word : v.word = signBit v.negative := by
    rw [Finite.word, zero, lowest]
    rfl
  rw [eq_of_finite finite, word, ofDecimal, if_pos (Or.inl none)]
  rfl

/-- A finite double is written as a numeral that rounds to it, behind its sign. -/
theorem exists_numeral {x : Float} {v : Finite} (finite : value x = .finite v) :
    ∃ cs q, (text x).toList = signChars v.negative ++ cs ∧ Numeral cs q ∧
      ∀ (digits : ℕ) (power : ℤ), (digits : ℚ) * 10 ^ power = q →
        ofDecimal v.negative digits power = x := by
  rw [text, Layout.text, finite]
  dsimp only
  rw [toList_signed]
  by_cases zero : v.significand = 0
  · have numeral : Numeral "0.0".toList (written ['0', '0'] * 10 ^ (-1 : ℤ)) :=
      .point (allWritten_zeros 1) (allWritten_zeros 1) (List.cons_ne_nil _ _)
    have nothing : written ['0', '0'] = 0 := by
      rw [written]
      rfl
    rw [if_pos zero]
    refine ⟨_, _, rfl, numeral, fun digits power same => ofDecimal_of_zero finite zero ?_⟩
    rw [same, nothing, zero_mul]
  · have nonzero : 0 < v.significand := Nat.pos_of_ne_zero zero
    have canonical := (fields_of_value finite).1
    have attracts := Shortest.attracts_decimal canonical nonzero
    rw [if_neg zero]
    refine ⟨_, _, rfl, numeral_magnitude .general (attracts.digits_pos canonical nonzero), ?_⟩
    intro digits power same
    exact ofDecimal_eq finite nonzero (same ▸ attracts)

/-- All characters belong to numbers, and one of them is no digit. -/
theorem text_chars {x : Float} (number : value x ≠ .nan) :
    (∀ c ∈ (text x).toList, IsNumberChar c) ∧ ∃ c ∈ (text x).toList, Text.isDigit c = false := by
  have sign (negative : Bool) : ∀ c ∈ signChars negative, IsNumberChar c := by
    intro c mem
    cases negative
    · cases mem
    · rw [List.mem_singleton.1 mem]
      exact Or.inr (by decide)
  cases known : value x with
  | nan => exact absurd known number
  | infinite negative =>
      have letters : "inf".toList ⊆ ['.', 'e', '+', '-', 'i', 'n', 'f'] := by decide
      have word : ∀ c ∈ "inf".toList, IsNumberChar c := fun c mem => Or.inr (letters mem)
      rw [text, Layout.text, known]
      dsimp only
      rw [toList_signed]
      refine ⟨fun c mem => (List.mem_append.1 mem).elim (sign negative c) (word c), ?_⟩
      exact ⟨'i', List.mem_append_right _ (by decide), by decide⟩
  | finite v =>
      obtain ⟨cs, q, chars, numeral, _⟩ := exists_numeral known
      obtain ⟨c, mem, mark⟩ := numeral.marked
      rw [chars]
      refine ⟨fun c mem => (List.mem_append.1 mem).elim (sign v.negative c) (numeral.chars c), ?_⟩
      exact ⟨c, List.mem_append_right _ mem, mark⟩

theorem isBlank_of_isNumberChar {c : Char} (number : IsNumberChar c) : isBlank c = false := by
  rcases number with digit | mem
  · exact isBlank_of_isDigit digit
  · simp only [List.mem_cons, List.not_mem_nil, or_false] at mem
    rcases mem with rfl | rfl | rfl | rfl | rfl | rfl | rfl <;> rfl

theorem takeSign_signChars (negative : Bool) {cs : List Char} {q : ℚ} (numeral : Numeral cs q) :
    takeSign (signChars negative ++ cs) = (negative, cs) := by
  cases negative
  · obtain ⟨c, rest, rfl, digit⟩ := numeral.starts
    exact takeSign_of_isDigit digit rest
  · rfl

/-- What begins with a digit is none of the words. -/
theorem lower_ne {cs : List Char} {q : ℚ} (numeral : Numeral cs q) {word : String} {d : Char}
    (begins : word.toList.head? = some d) (letter : d.isDigit = false) :
    String.ofList (cs.map Char.toLower) ≠ word := by
  obtain ⟨c, rest, rfl, digit⟩ := numeral.starts
  obtain ⟨low, high⟩ := isDigit_bounds digit
  have lower : c.toLower = c := Char.toLower_eq_of_not_isUpper fun upper => by
    have above : 65 ≤ c.toNat := (of_decide_eq_true upper).1
    omega
  rintro rfl
  rw [String.toList_ofList, List.map_cons, lower] at begins
  cases begins
  exact absurd digit (by rw [letter]; decide)

/-- Whatever is written of a number reads back as that number. -/
theorem readFloat?_text {x : Float} (number : value x ≠ .nan) :
    readFloat? (text x).toList = some x := by
  have trimmed : Trimmed isNumberBlank (text x).toList := trimmed_of_all fun c mem =>
    isNumberBlank_of_not_isBlank (isBlank_of_isNumberChar ((text_chars number).1 c mem))
  cases known : value x with
  | nan => exact absurd known number
  | infinite negative =>
      rw [text, Layout.text, known, eq_of_infinite known]
      cases negative <;> rfl
  | finite v =>
      obtain ⟨cs, q, chars, numeral, rounds⟩ := exists_numeral known
      obtain ⟨digits, power, same, read⟩ := numeral.reads v.negative
      rw [readFloat?, stripBy_of_trimmed trimmed, chars, takeSign_signChars v.negative numeral]
      dsimp only
      rw [if_neg, if_neg (lower_ne numeral rfl (by decide)), read, rounds digits power same]
      rintro (inf | infinity)
      · exact lower_ne numeral rfl (by decide) inf
      · exact lower_ne numeral rfl (by decide) infinity

end Decomposition.Number
