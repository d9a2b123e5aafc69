import Decomposition.Number.Literal
import Decomposition.Proofs.Text.Lines

namespace Decomposition.Number
open Text

/-- The digits that numbers are written with. -/
def AllWritten (cs : List Char) : Prop := ∀ c ∈ cs, c.isDigit = true

theorem isDigit_bounds {c : Char} (digit : c.isDigit = true) : 48 ≤ c.toNat ∧ c.toNat ≤ 57 := by
  rw [Char.isDigit, Bool.and_eq_true, decide_eq_true_eq, decide_eq_true_eq] at digit
  exact digit

theorem decimalValue?_of_isDigit {c : Char} (digit : c.isDigit = true) :
    decimalValue? c = some (c.toNat - '0'.toNat) := by
  obtain ⟨_, high⟩ := isDigit_bounds digit
  rw [decimalValue?, if_pos (by omega), if_pos digit]
  rfl

/-- The run of digits ends here. -/
def Stops (cs : List Char) : Prop := ∀ c ∈ cs.head?, decimalValue? c = none ∧ c ≠ '_'

theorem stops_nil : Stops [] := fun _ mem => nomatch mem

theorem stops_cons {c : Char} {rest : List Char} (digit : decimalValue? c = none)
    (apart : c ≠ '_') : Stops (c :: rest) := by
  rintro other ⟨⟩
  exact ⟨digit, apart⟩

section Runs
variable {digits : List Char} (written : AllWritten digits) {rest : List Char} (stops : Stops rest)
include written stops

theorem digitsFrom_append :
    digitsFrom (digits ++ rest) = (digits.map fun c => c.toNat - '0'.toNat, rest) := by
  induction digits with
  | nil =>
      cases rest with
      | nil => rfl
      | cons c tail =>
          obtain ⟨digit, apart⟩ := stops c rfl
          rw [List.nil_append, digitsFrom, digit, if_neg (fun both => apart both.1)]
          rfl
  | cons c tail ih =>
      have later := ih fun other mem => written other (List.mem_cons_of_mem _ mem)
      rw [List.cons_append, digitsFrom, decimalValue?_of_isDigit (written c List.mem_cons_self),
        later]
      rfl

theorem digitRun_append :
    digitRun (digits ++ rest) = (digits.map fun c => c.toNat - '0'.toNat, rest) := by
  cases digits with
  | nil =>
      cases rest with
      | nil => rfl
      | cons c tail =>
          obtain ⟨digit, _⟩ := stops c rfl
          rw [List.nil_append, digitRun, startsWithDigit, digit]
          rfl
  | cons c tail =>
      have starts : startsWithDigit (c :: tail ++ rest) = true := by
        rw [List.cons_append, startsWithDigit,
          decimalValue?_of_isDigit (written c List.mem_cons_self)]
        rfl
      rw [digitRun, if_pos starts, digitsFrom_append written stops]

end Runs

/-- The value of written digits is the number that they write. -/
theorem ofDigits_map (digits : List Char) :
    ofDigits (digits.map fun c => c.toNat - '0'.toNat) = Nat.ofDigitChars 10 digits 0 := by
  rw [ofDigits, List.foldl_map, Nat.ofDigitChars_eq_foldl]

theorem allWritten_toDigits (n : Nat) : AllWritten (Nat.toDigits 10 n) :=
  fun _ mem => Nat.isDigit_of_mem_toDigits (by decide) (by decide) mem

theorem allWritten_zeros (n : Nat) : AllWritten (List.replicate n '0') := fun c mem => by
  rw [(List.mem_replicate.1 mem).2]
  rfl

theorem AllWritten.append {front back : List Char} (before : AllWritten front)
    (after : AllWritten back) : AllWritten (front ++ back) := fun c mem =>
  (List.mem_append.1 mem).elim (before c) (after c)

/-- Digits are not among the characters that are stripped. -/
theorem isBlank_of_isDigit {c : Char} (digit : c.isDigit = true) : isBlank c = false := by
  obtain ⟨low, high⟩ := isDigit_bounds digit
  simp only [isBlank, blanks, Ranges.contains, List.any_cons, List.any_nil, Bool.or_false,
    Bool.or_eq_false_iff, Bool.and_eq_false_iff, decide_eq_false_iff_not]
  omega

theorem isNumberBlank_of_not_isBlank {c : Char} (visible : isBlank c = false) :
    isNumberBlank c = false := by
  rw [isNumberBlank, visible, Bool.false_and]

theorem takeSign_minus (rest : List Char) : takeSign ('-' :: rest) = (true, rest) := rfl

theorem takeSign_plus (rest : List Char) : takeSign ('+' :: rest) = (false, rest) := rfl

theorem takeSign_of_isDigit {c : Char} (digit : c.isDigit = true) (rest : List Char) :
    takeSign (c :: rest) = (false, c :: rest) := by
  unfold takeSign
  split
  · rename_i same
    cases same
    cases digit
  · rename_i same
    cases same
    cases digit
  · rfl

theorem takeSign_of_written {cs : List Char} (written : AllWritten cs) :
    takeSign cs = (false, cs) := by
  cases cs with
  | nil => rfl
  | cons c rest => exact takeSign_of_isDigit (written c List.mem_cons_self) rest

/-- A written number is read as one run with its value, zeros in front of it included. -/
theorem digitRun_toDigits (n zeros : Nat) :
    ∃ d ds, digitRun (List.replicate zeros '0' ++ Nat.toDigits 10 n) = (d :: ds, []) ∧
      ofDigits (d :: ds) = n ∧ (d :: ds).length = zeros + (Nat.toDigits 10 n).length := by
  have written := (allWritten_zeros zeros).append (allWritten_toDigits n)
  have run := digitRun_append written stops_nil
  have value := ofDigits_map (List.replicate zeros '0' ++ Nat.toDigits 10 n)
  have length : ((List.replicate zeros '0' ++ Nat.toDigits 10 n).map
      fun c => c.toNat - '0'.toNat).length = zeros + (Nat.toDigits 10 n).length := by
    rw [List.length_map, List.length_append, List.length_replicate]
  rw [List.append_nil] at run
  rw [Nat.ofDigitChars_append, Nat.ofDigitChars_replicate_zero, Nat.mul_zero,
    Nat.ofDigitChars_ten_toDigits] at value
  cases parts : (List.replicate zeros '0' ++ Nat.toDigits 10 n).map
      fun c => c.toNat - '0'.toNat with
  | nil =>
      rw [parts, List.length_nil] at length
      have := Nat.length_toDigits_pos (b := 10) (n := n)
      omega
  | cons d ds =>
      rw [parts] at run value length
      exact ⟨d, ds, run, value, length⟩

/-- An integer that is not too long reads back from its digits. -/
theorem readInt?_toDigits {n : Nat} (short : hasText n = true) :
    readInt? (Nat.toDigits 10 n) = some (n : Int) := by
  have written := allWritten_toDigits n
  have trimmed : Trimmed isNumberBlank (Nat.toDigits 10 n) := trimmed_of_all fun c mem =>
    isNumberBlank_of_not_isBlank (isBlank_of_isDigit (written c mem))
  obtain ⟨d, ds, run, value, length⟩ := digitRun_toDigits n 0
  have fits : n < Binary64.tenTo longestInteger := of_decide_eq_true short
  have positive : 0 < longestInteger := by decide
  have bound : (d :: ds).length ≤ longestInteger := by
    rw [length, Nat.zero_add]
    -- The power is too large to be evaluated.
    generalize longestInteger = longest at fits positive ⊢
    exact (Nat.length_toDigits_le_iff (by decide) positive).2 fits
  rw [List.replicate_zero, List.nil_append] at run
  rw [readInt?, stripBy_of_trimmed trimmed, takeSign_of_written written]
  dsimp only
  rw [run]
  dsimp only
  rw [if_pos bound, value]
  rfl

/-- An exponent reads back from its sign and its digits, zeros in front of them included. -/
theorem readExponent?_written (exponent : Int) (zeros : Nat) :
    readExponent? ('e' :: (if exponent < 0 then '-' else '+') ::
      (List.replicate zeros '0' ++ Nat.toDigits 10 exponent.natAbs)) = some exponent := by
  obtain ⟨d, ds, run, value, _⟩ := digitRun_toDigits exponent.natAbs zeros
  rw [readExponent?, if_pos (Or.inl rfl)]
  by_cases negative : exponent < 0
  · rw [if_pos negative, takeSign_minus]
    dsimp only
    rw [run]
    dsimp only
    rw [if_pos rfl, value, Int.ofNat_natAbs_of_nonpos (Int.le_of_lt negative), Int.neg_neg]
  · rw [if_neg negative, takeSign_plus]
    dsimp only
    rw [run]
    dsimp only
    rw [if_neg Bool.false_ne_true, value, Int.natAbs_of_nonneg (Int.not_lt.1 negative)]

end Decomposition.Number
