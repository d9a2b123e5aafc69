import Decomposition.Number.Decimal
import Decomposition.Proofs.Number.Digits
import Decomposition.Proofs.Number.Shortest

namespace Decomposition.Number
open Text Binary64

theorem toList_zeros (n : ℕ) : (zeros n).toList = List.replicate n '0' := String.toList_ofList

theorem toList_padLeft (width n : ℕ) :
    (padLeft width (toString n)).toList =
      List.replicate (width - (toString n).length) '0' ++ Nat.toDigits 10 n := by
  rw [padLeft, String.toList_append, toList_zeros, Nat.toString_eq_ofList_toDigits,
    String.toList_ofList]

/-- The number that a list of digits writes, as a rational. -/
def written (digits : List Char) : ℚ := Nat.ofDigitChars 10 digits 0

theorem written_append_zeros (digits : List Char) (n : ℕ) :
    written (digits ++ List.replicate n '0') = written digits * 10 ^ n := by
  rw [written, Nat.ofDigitChars_append, Nat.ofDigitChars_replicate_zero]
  push_cast
  exact mul_comm _ _

theorem written_zeros_append (n : ℕ) (digits : List Char) :
    written (List.replicate n '0' ++ digits) = written digits := by
  rw [written, Nat.ofDigitChars_append, Nat.ofDigitChars_replicate_zero, Nat.mul_zero, written]

/-- An exponent with its sign, and zeros in front of its digits. -/
def exponentChars (exponent : ℤ) (zeros : ℕ) : List Char :=
  'e' :: (if exponent < 0 then '-' else '+') ::
    (List.replicate zeros '0' ++ Nat.toDigits 10 exponent.natAbs)

/-- The layouts of positive decimals, each with the rational that it stands for. -/
inductive Numeral : List Char → ℚ → Prop
  | point {whole fraction : List Char} (wholeWritten : AllWritten whole)
      (fractionWritten : AllWritten fraction) (nonempty : whole ≠ []) :
      Numeral (whole ++ '.' :: fraction)
        (written (whole ++ fraction) * 10 ^ (-fraction.length : ℤ))
  | exponent {whole : List Char} (wholeWritten : AllWritten whole) (nonempty : whole ≠ [])
      (exponent : ℤ) (zeros : ℕ) :
      Numeral (whole ++ exponentChars exponent zeros) (written whole * 10 ^ exponent)
  | both {whole fraction : List Char} (wholeWritten : AllWritten whole)
      (fractionWritten : AllWritten fraction) (nonempty : whole ≠ []) (exponent : ℤ) (zeros : ℕ) :
      Numeral (whole ++ '.' :: (fraction ++ exponentChars exponent zeros))
        (written (whole ++ fraction) * 10 ^ (exponent - fraction.length))

theorem toList_scientific (layout : Layout) (digits : List Char) (exponent : ℤ) :
    ∃ n : ℕ, (scientific layout digits exponent).toList =
      (match digits with
        | [] => ['0']
        | [d] => [d]
        | d :: rest => d :: '.' :: rest) ++ exponentChars exponent n := by
  refine ⟨layout.exponentWidth - (toString exponent.natAbs).length, ?_⟩
  have sign : (if exponent < 0 then "-" else "+").toList = [if exponent < 0 then '-' else '+'] := by
    split <;> rfl
  unfold scientific
  dsimp only
  rw [String.toList_append, String.toList_append, String.toList_append, toList_padLeft, sign]
  rcases digits with _ | ⟨d, _ | ⟨d', rest⟩⟩ <;> simp [exponentChars]

theorem numeral_before {digits : List Char} (allWritten : AllWritten digits) (n : ℕ) :
    Numeral (['0'] ++ '.' :: (List.replicate n '0' ++ digits))
      (written digits * 10 ^ (-(n + digits.length) : ℤ)) := by
  have value : written (['0'] ++ (List.replicate n '0' ++ digits)) *
      10 ^ (-(List.replicate n '0' ++ digits).length : ℤ) =
        written digits * 10 ^ (-(n + digits.length) : ℤ) := by
    rw [show ['0'] = List.replicate 1 '0' from rfl, written_zeros_append, written_zeros_append,
      List.length_append, List.length_replicate]
    push_cast
    rfl
  rw [← value]
  exact .point (allWritten_zeros 1) ((allWritten_zeros n).append allWritten)
    (List.cons_ne_nil _ _)

section Layouts
variable {digits : List Char} (allWritten : AllWritten digits) (nonempty : digits ≠ [])
include allWritten nonempty

theorem numeral_behind (n : ℕ) :
    Numeral (digits ++ List.replicate n '0' ++ ['.', '0']) (written digits * 10 ^ (n : ℤ)) := by
  have value : written (digits ++ List.replicate n '0' ++ ['0']) * 10 ^ (-['0'].length : ℤ) =
      written digits * 10 ^ (n : ℤ) := by
    rw [show ['0'] = List.replicate 1 '0' from rfl, List.append_assoc,
      List.replicate_append_replicate, written_append_zeros]
    norm_num
    ring
  rw [← value]
  exact .point (allWritten.append (allWritten_zeros n)) (allWritten_zeros 1) (by simp [nonempty])

theorem numeral_inside {n : ℕ} (inside : 0 < n) (short : n ≤ digits.length) :
    Numeral (digits.take n ++ '.' :: digits.drop n)
      (written digits * 10 ^ ((n : ℤ) - digits.length)) := by
  have value : written (digits.take n ++ digits.drop n) * 10 ^ (-(digits.drop n).length : ℤ) =
      written digits * 10 ^ ((n : ℤ) - digits.length) := by
    rw [List.take_append_drop, List.length_drop]
    congr 2
    omega
  rw [← value]
  apply Numeral.point
  · exact fun c mem => allWritten c (List.mem_of_mem_take mem)
  · exact fun c mem => allWritten c (List.mem_of_mem_drop mem)
  · simp only [ne_eq, List.take_eq_nil_iff, nonempty, or_false]
    omega

/-- Without an exponent the point stands before the digits, behind them or among them. -/
theorem numeral_positional (exponent : ℤ) :
    Numeral (positional digits exponent).toList
      (written digits * 10 ^ (exponent + 1 - digits.length)) := by
  unfold positional
  dsimp only
  split
  · obtain ⟨n, place⟩ : ∃ n : ℕ, exponent + 1 = -n := ⟨(-(exponent + 1)).toNat, by omega⟩
    have chars : ("0." ++ zeros (-(exponent + 1)).toNat ++ String.ofList digits).toList =
        ['0'] ++ '.' :: (List.replicate n '0' ++ digits) := by
      rw [String.toList_append, String.toList_append, toList_zeros, String.toList_ofList, place]
      simp
    have power : exponent + 1 - digits.length = -(n + digits.length) := by omega
    rw [chars, power]
    exact numeral_before allWritten n
  · split
    · obtain ⟨n, place⟩ : ∃ n : ℕ, exponent + 1 - digits.length = n :=
        ⟨(exponent + 1 - digits.length).toNat, by omega⟩
      have chars : (String.ofList digits ++ zeros (exponent + 1 - digits.length).toNat ++
          ".0").toList = digits ++ List.replicate n '0' ++ ['.', '0'] := by
        rw [String.toList_append, String.toList_append, toList_zeros, String.toList_ofList, place]
        rfl
      rw [chars, place]
      exact numeral_behind allWritten nonempty n
    · obtain ⟨n, place⟩ : ∃ n : ℕ, exponent + 1 = n := ⟨(exponent + 1).toNat, by omega⟩
      have chars : (String.ofList (digits.take (exponent + 1).toNat) ++ "." ++
          String.ofList (digits.drop (exponent + 1).toNat)).toList =
          digits.take n ++ '.' :: digits.drop n := by
        rw [String.toList_append, String.toList_append, String.toList_ofList, String.toList_ofList,
          place]
        simp
      rw [chars, place]
      exact numeral_inside allWritten nonempty (by omega) (by omega)

/-- With an exponent the point stands behind the first digit, if there are more. -/
theorem numeral_scientific (layout : Layout) (exponent : ℤ) :
    Numeral (scientific layout digits exponent).toList
      (written digits * 10 ^ (exponent + 1 - digits.length)) := by
  obtain ⟨n, chars⟩ := toList_scientific layout digits exponent
  rw [chars]
  rcases digits with _ | ⟨d, _ | ⟨d', rest⟩⟩
  · exact absurd rfl nonempty
  · rw [List.length_singleton, Nat.cast_one, add_sub_cancel_right]
    exact .exponent allWritten nonempty exponent n
  · have first : AllWritten [d] := fun c mem => allWritten c (by simp_all)
    have others : AllWritten (d' :: rest) := fun c mem => allWritten c (List.mem_cons_of_mem _ mem)
    have places : exponent + 1 - ((d :: d' :: rest).length : ℤ) =
        exponent - ((d' :: rest).length : ℤ) := by
      rw [List.length_cons]
      push_cast
      ring
    rw [places]
    exact .both first others (List.cons_ne_nil _ _) exponent n

end Layouts

theorem exists_stripZeros (digits : List Char) :
    ∃ n : ℕ, digits = stripZeros digits ++ List.replicate n '0' := by
  let dropped := digits.reverse.takeWhile (· == '0')
  have zeros : dropped = List.replicate dropped.length '0' :=
    List.eq_replicate_of_mem fun c mem => by
      simpa using List.all_eq_true.1 List.all_takeWhile c mem
  refine ⟨dropped.length, ?_⟩
  rw [stripZeros, ← List.reverse_replicate, ← zeros, ← List.reverse_append,
    List.takeWhile_append_dropWhile, List.reverse_reverse]

/-- What is written of a decimal stands for that decimal. -/
theorem numeral_magnitude (layout : Layout) {d : Shortest.Decimal} (positive : 0 < d.digits) :
    Numeral (layout.magnitude d).toList d.exact := by
  obtain ⟨n, whole⟩ := exists_stripZeros (Nat.toDigits 10 d.digits)
  let digits := stripZeros (Nat.toDigits 10 d.digits)
  have value : (d.digits : ℚ) = written digits * 10 ^ n := by
    rw [← written_append_zeros, ← whole, written, Nat.ofDigitChars_ten_toDigits]
  have length : (Nat.toDigits 10 d.digits).length = digits.length + n := by
    conv_lhs => rw [whole]
    rw [List.length_append, List.length_replicate]
  have allWritten : AllWritten digits := fun c mem => by
    refine allWritten_toDigits d.digits c ?_
    rw [whole]
    exact List.mem_append_left _ mem
  have nonempty : digits ≠ [] := fun none => by
    rw [none, written, Nat.ofDigitChars_nil, Nat.cast_zero, zero_mul] at value
    exact positive.ne' (by exact_mod_cast value)
  have exact_eq : d.exact = written digits *
      10 ^ (d.power + (Nat.toDigits 10 d.digits).length - 1 + 1 - digits.length) := by
    rw [Shortest.Decimal.exact, value, length, mul_assoc, ← zpow_natCast,
      ← zpow_add₀ (by norm_num)]
    congr 2
    push_cast
    ring
  rw [exact_eq]
  unfold Layout.magnitude
  dsimp only
  split
  · exact numeral_positional allWritten nonempty _
  · exact numeral_scientific allWritten nonempty layout _

theorem stops_point (rest : List Char) : Stops ('.' :: rest) := stops_cons rfl (by decide)

theorem stops_exponent (rest : List Char) : Stops ('e' :: rest) := stops_cons rfl (by decide)

section Reading
variable {whole : List Char} (wholeWritten : AllWritten whole) (nonempty : whole ≠ [])
  {rest : List Char} {exponent : ℤ} (follows : readExponent? rest = some exponent) (negative : Bool)
include wholeWritten nonempty follows

/-- The digits on both sides of the point are read as one number. -/
theorem readDecimal?_point {fraction : List Char} (fractionWritten : AllWritten fraction)
    (stops : Stops rest) :
    readDecimal? negative (whole ++ '.' :: (fraction ++ rest)) =
      some (ofDecimal negative (Nat.ofDigitChars 10 (whole ++ fraction) 0)
        (exponent - fraction.length)) := by
  have value := ofDigits_map (whole ++ fraction)
  rw [List.map_append] at value
  rw [readDecimal?, digitRun_append wholeWritten (stops_point _)]
  dsimp only
  rw [readFraction, digitRun_append fractionWritten stops]
  dsimp only
  rw [if_neg (by simp [nonempty]), follows, value, List.length_map]
  rfl

theorem readDecimal?_exponent (tail : List Char) (shape : rest = 'e' :: tail) :
    readDecimal? negative (whole ++ rest) =
      some (ofDecimal negative (Nat.ofDigitChars 10 whole 0) exponent) := by
  have none : readFraction rest = ([], rest) := by
    rw [shape]
    rfl
  have stops : Stops rest := shape ▸ stops_exponent tail
  rw [readDecimal?, digitRun_append wholeWritten stops]
  dsimp only
  rw [none]
  dsimp only
  rw [if_neg (by simp [nonempty]), follows, List.append_nil, ofDigits_map]
  simp

end Reading

/-- The characters that doubles are written with. -/
def IsNumberChar (c : Char) : Prop :=
  c.isDigit = true ∨ c ∈ ['.', 'e', '+', '-', 'i', 'n', 'f']

theorem isNumberChar_of_exponentChars {exponent : ℤ} {zeros : ℕ} :
    ∀ c ∈ exponentChars exponent zeros, IsNumberChar c := by
  intro c mem
  unfold exponentChars at mem
  simp only [List.mem_cons] at mem
  rcases mem with rfl | rfl | mem
  · exact Or.inr (by decide)
  · apply Or.inr
    split <;> decide
  · exact Or.inl (((allWritten_zeros zeros).append (allWritten_toDigits _)) c mem)

namespace Numeral
variable {cs : List Char} {q : ℚ}

/-- The digits are read as one number, and the point and the exponent as a power of ten. -/
theorem reads (numeral : Numeral cs q) (negative : Bool) :
    ∃ digits : ℕ, ∃ power : ℤ, (digits : ℚ) * 10 ^ power = q ∧
      readDecimal? negative cs = some (ofDecimal negative digits power) := by
  cases numeral with
  | @point whole fraction wholeWritten fractionWritten nonempty =>
      have nothing : readExponent? [] = some 0 := rfl
      have read := readDecimal?_point wholeWritten nonempty nothing negative fractionWritten
        stops_nil
      rw [List.append_nil, zero_sub] at read
      exact ⟨_, _, rfl, read⟩
  | exponent wholeWritten nonempty exponent zeros =>
      exact ⟨_, _, rfl, readDecimal?_exponent wholeWritten nonempty
        (readExponent?_written exponent zeros) negative _ rfl⟩
  | both wholeWritten fractionWritten nonempty exponent zeros =>
      exact ⟨_, _, rfl, readDecimal?_point wholeWritten nonempty
        (readExponent?_written exponent zeros) negative fractionWritten (stops_exponent _)⟩

theorem starts (numeral : Numeral cs q) : ∃ c rest, cs = c :: rest ∧ c.isDigit = true := by
  cases numeral with
  | point wholeWritten _ nonempty
  | exponent wholeWritten nonempty _ _
  | both wholeWritten _ nonempty _ _ =>
      obtain ⟨c, rest, rfl⟩ := List.exists_cons_of_ne_nil nonempty
      exact ⟨c, _, rfl, wholeWritten c List.mem_cons_self⟩

theorem chars (numeral : Numeral cs q) : ∀ c ∈ cs, IsNumberChar c := by
  have point : IsNumberChar '.' := Or.inr (by decide)
  intro c mem
  cases numeral with
  | point wholeWritten fractionWritten _ =>
      simp only [List.mem_append, List.mem_cons] at mem
      rcases mem with mem | rfl | mem
      · exact Or.inl (wholeWritten c mem)
      · exact point
      · exact Or.inl (fractionWritten c mem)
  | exponent wholeWritten _ exponent zeros =>
      rcases List.mem_append.1 mem with mem | mem
      · exact Or.inl (wholeWritten c mem)
      · exact isNumberChar_of_exponentChars c mem
  | both wholeWritten fractionWritten _ exponent zeros =>
      simp only [List.mem_append, List.mem_cons] at mem
      rcases mem with mem | rfl | mem | mem
      · exact Or.inl (wholeWritten c mem)
      · exact point
      · exact Or.inl (fractionWritten c mem)
      · exact isNumberChar_of_exponentChars c mem

/-- A numeral has a point or an exponent, so that it is not taken for an integer. -/
theorem marked (numeral : Numeral cs q) : ∃ c ∈ cs, Text.isDigit c = false := by
  cases numeral with
  | point => exact ⟨'.', by simp, by decide⟩
  | exponent => exact ⟨'e', by simp [exponentChars], by decide⟩
  | both => exact ⟨'.', by simp, by decide⟩

end Numeral

end Decomposition.Number
