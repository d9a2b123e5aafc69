import Decomposition.Text.Characters

namespace Decomposition.Text

/-- Neither the first character nor the last one is dropped. -/
structure Trimmed (drop : Char → Bool) (cs : List Char) : Prop where
  first : ∀ c ∈ cs.head?, drop c = false
  last : ∀ c ∈ cs.getLast?, drop c = false

instance (drop : Char → Bool) (cs : List Char) : Decidable (Trimmed drop cs) :=
  have (ends : Option Char) : Decidable (∀ c ∈ ends, drop c = false) :=
    Option.decidableForallMem ends
  decidable_of_iff ((∀ c ∈ cs.head?, drop c = false) ∧ ∀ c ∈ cs.getLast?, drop c = false)
    ⟨fun both => ⟨both.1, both.2⟩, fun trimmed => ⟨trimmed.first, trimmed.last⟩⟩

theorem dropWhile_of_head? {drop : Char → Bool} {cs : List Char}
    (first : ∀ c ∈ cs.head?, drop c = false) : cs.dropWhile drop = cs := by
  cases cs with
  | nil => rfl
  | cons c rest => rw [List.dropWhile_cons, first c rfl, if_neg Bool.false_ne_true]

variable {drop : Char → Bool} {cs : List Char}

/-- What is stripped from both sides leaves what is between. -/
theorem stripBy_between (trimmed : Trimmed drop cs) (front back : List Char)
    (before : ∀ c ∈ front, drop c = true) (after : ∀ c ∈ back, drop c = true) :
    stripBy drop (front ++ cs ++ back) = cs := by
  rw [stripBy, List.append_assoc, List.dropWhile_append_of_pos before]
  cases cs with
  | nil =>
      have nothing : (back ++ []).dropWhile drop = [] := List.dropWhile_append_of_pos after
      rw [List.append_nil] at nothing
      rw [List.nil_append, nothing]
      rfl
  | cons c rest =>
      have last : ∀ d ∈ (c :: rest).reverse.head?, drop d = false := by
        rw [List.head?_reverse]
        exact trimmed.last
      have first : ∀ d ∈ (c :: rest ++ back).head?, drop d = false := trimmed.first
      rw [dropWhile_of_head? first, List.reverse_append, List.dropWhile_append_of_pos,
        dropWhile_of_head? last, List.reverse_reverse]
      simpa using after

theorem stripBy_append_left (trimmed : Trimmed drop cs) (front : List Char)
    (before : ∀ c ∈ front, drop c = true) : stripBy drop (front ++ cs) = cs := by
  have stripped := stripBy_between trimmed front [] before fun _ mem => nomatch mem
  rwa [List.append_nil] at stripped

theorem stripBy_append_right (trimmed : Trimmed drop cs) (back : List Char)
    (after : ∀ c ∈ back, drop c = true) : stripBy drop (cs ++ back) = cs :=
  stripBy_between trimmed [] back (fun _ mem => nomatch mem) after

theorem stripBy_of_trimmed (trimmed : Trimmed drop cs) : stripBy drop cs = cs :=
  stripBy_append_left trimmed [] fun _ mem => nomatch mem

theorem trimmed_of_all (kept : ∀ c ∈ cs, drop c = false) : Trimmed drop cs where
  first c head := kept c (List.mem_of_mem_head? head)
  last c last := kept c (List.mem_of_mem_getLast? last)

/-- A line holds no line boundary, of whatever kind. -/
def IsLine (cs : List Char) : Prop := ∀ c ∈ cs, isLineBoundary c = false ∧ c ≠ '\r'

instance (cs : List Char) : Decidable (IsLine cs) :=
  List.decidableBAll (fun c => isLineBoundary c = false ∧ c ≠ '\r') cs

theorem IsLine.append {front back : List Char} (before : IsLine front) (after : IsLine back) :
    IsLine (front ++ back) := fun c mem =>
  (List.mem_append.1 mem).elim (before c) (after c)

/-- Line boundaries are white space. -/
theorem isLine_of_visible (visible : ∀ c ∈ cs, isBlank c = false) : IsLine cs := by
  intro c mem
  have shown := visible c mem
  constructor
  · simp only [isBlank, blanks, isLineBoundary, lineBoundaries, Ranges.contains, List.any_cons,
      List.any_nil, Bool.or_false, Bool.or_eq_false_iff, Bool.and_eq_false_iff,
      decide_eq_false_iff_not] at shown ⊢
    omega
  · rintro rfl
    cases shown

theorem normalizeNewlines_of_none (none : '\r' ∉ cs) : normalizeNewlines cs = cs := by
  induction cs with
  | nil => rfl
  | cons c rest ih =>
      have here : c ≠ '\r' := fun same => none (same ▸ List.mem_cons_self)
      have later := ih fun mem => none (List.mem_cons_of_mem _ mem)
      rw [normalizeNewlines, if_neg here, later]
      exact fun _ same => absurd same here

theorem splitLines_line_append (line : IsLine cs) (rest : List Char) :
    splitLines (cs ++ '\n' :: rest) = cs :: splitLines rest := by
  induction cs with
  | nil => rfl
  | cons c tail ih =>
      have later := ih fun other mem => line other (List.mem_cons_of_mem _ mem)
      rw [List.cons_append, splitLines, (line c List.mem_cons_self).1, later]
      rfl

theorem splitLines_line (line : IsLine cs) (nonempty : cs ≠ []) : splitLines cs = [cs] := by
  induction cs with
  | nil => exact absurd rfl nonempty
  | cons c tail ih =>
      rw [splitLines, (line c List.mem_cons_self).1]
      cases tail with
      | nil => rfl
      | cons d rest =>
          rw [ih (fun other mem => line other (List.mem_cons_of_mem _ mem))
            (List.cons_ne_nil d rest)]
          rfl

/-- Lines that are put together are cut apart again. -/
theorem splitLines_intercalate {lines : List (List Char)} (all : ∀ line ∈ lines, IsLine line)
    (last : ∀ line ∈ lines.getLast?, line ≠ []) :
    splitLines (['\n'].intercalate lines) = lines := by
  induction lines with
  | nil => rfl
  | cons line rest ih =>
      have here := all line List.mem_cons_self
      cases rest with
      | nil => rw [List.intercalate_singleton, splitLines_line here (last line rfl)]
      | cons next others =>
          rw [List.intercalate_cons_cons, List.append_assoc, List.singleton_append,
            splitLines_line_append here,
            ih (fun other mem => all other (List.mem_cons_of_mem _ mem)) last]

/-- No carriage return stands in a line or between two lines. -/
theorem return_notMem_intercalate {lines : List (List Char)} (all : ∀ line ∈ lines, IsLine line) :
    '\r' ∉ ['\n'].intercalate lines := by
  induction lines with
  | nil => exact List.not_mem_nil
  | cons line rest ih =>
      have here : '\r' ∉ line := fun mem => (all line List.mem_cons_self '\r' mem).2 rfl
      cases rest with
      | nil => rwa [List.intercalate_singleton]
      | cons next others =>
          have later := ih fun other mem => all other (List.mem_cons_of_mem _ mem)
          rw [List.intercalate_cons_cons, List.mem_append, List.mem_append, List.mem_singleton]
          rintro ((mem | ⟨⟨⟩⟩) | mem)
          · exact here mem
          · exact later mem

end Decomposition.Text
