import Decomposition.Settings.File
import Decomposition.Proofs.Number.Text
import Decomposition.Proofs.OrderedMap

namespace Decomposition
open Text

namespace SettingsFile

/-- A text that comes back from between two quotation marks and is not taken for a number. -/
structure IsText (cs : List Char) : Prop where
  line : IsLine cs
  unquoted : Trimmed (· == '"') cs
  notInteger : allDigits cs = false
  notFloat : allDigits (cs.filter fun c => !isNumberMark c) = false

instance (cs : List Char) : Decidable (IsText cs) :=
  decidable_of_iff (IsLine cs ∧ Trimmed (· == '"') cs ∧ allDigits cs = false ∧
      allDigits (cs.filter fun c => !isNumberMark c) = false)
    ⟨fun ⟨line, unquoted, notInteger, notFloat⟩ => ⟨line, unquoted, notInteger, notFloat⟩,
      fun isText => ⟨isText.line, isText.unquoted, isText.notInteger, isText.notFloat⟩⟩

/-- A name that comes back from in front of an equality sign. -/
structure IsName (cs : List Char) : Prop where
  line : IsLine cs
  noSign : '=' ∉ cs
  trimmed : Trimmed isBlank cs
  noComment : cs.head? ≠ some '#'

instance (cs : List Char) : Decidable (IsName cs) :=
  decidable_of_iff (IsLine cs ∧ '=' ∉ cs ∧ Trimmed isBlank cs ∧ cs.head? ≠ some '#')
    ⟨fun ⟨line, noSign, trimmed, noComment⟩ => ⟨line, noSign, trimmed, noComment⟩,
      fun isName => ⟨isName.line, isName.noSign, isName.trimmed, isName.noComment⟩⟩

/-- What may stand at the end of a line. A bracket there might close a heading. -/
structure IsValue (cs : List Char) : Prop where
  nonempty : cs ≠ []
  trimmed : Trimmed isBlank cs
  noBracket : cs.getLast? ≠ some ']'

section Lines
variable {name value : List Char}

theorem splitSetting_of_notMem (noSign : '=' ∉ name) (value : List Char) :
    splitSetting (name ++ '=' :: value) = some (name, value) := by
  have before : ∀ c ∈ name, (c != '=') = true := fun c mem =>
    bne_iff_ne.2 fun same => noSign (same ▸ mem)
  rw [splitSetting, if_pos (by simp), List.takeWhile_append_of_pos before,
    List.dropWhile_append_of_pos before]
  simp

theorem getLast?_setting (front : List Char) (nonempty : value ≠ []) :
    (front ++ '=' :: ' ' :: value).getLast? = value.getLast? := by
  obtain ⟨c, rest, rfl⟩ := List.exists_cons_of_ne_nil nonempty
  simp [List.getLast?_append, List.getLast?_cons]

theorem trimmed_setting (isValue : IsValue value) (front : List Char)
    (first : ∀ c ∈ front.head?, isBlank c = false) :
    Trimmed isBlank (front ++ '=' :: ' ' :: value) where
  first c head := by
    cases front with
    | nil =>
        cases head
        rfl
    | cons d rest => exact first c head
  last c last := by
    rw [getLast?_setting front isValue.nonempty] at last
    exact isValue.trimmed.last c last

/-- Neither a comment nor a heading has such a shape. -/
theorem lineOf_of_strip {raw front : List Char} (isValue : IsValue value)
    (stripped : strip raw = front ++ '=' :: ' ' :: value) (noSign : '=' ∉ front)
    (noComment : front.head? ≠ some '#') :
    lineOf raw = .setting (strip front) (stripBy (· == '"') value) := by
  have content : (front ++ '=' :: ' ' :: value).head? ≠ some '#' := by
    cases front with
    | nil => exact fun same => nomatch same
    | cons c rest => exact noComment
  have ending : (front ++ '=' :: ' ' :: value).getLast? ≠ some ']' := by
    rw [getLast?_setting front isValue.nonempty]
    exact isValue.noBracket
  have space : strip (' ' :: value) = value :=
    stripBy_append_left isValue.trimmed [' '] (List.forall_mem_singleton.2 rfl)
  unfold lineOf
  dsimp only
  rw [stripped, if_neg, if_neg, splitSetting_of_notMem noSign]
  · dsimp only
    rw [unquote, space]
  · rw [Bool.and_eq_true, beq_iff_eq, beq_iff_eq]
    exact fun both => ending both.2
  · rw [Bool.or_eq_true, List.isEmpty_iff, beq_iff_eq]
    rintro (none | comment)
    · simp at none
    · exact content comment

/-- The white space around the equality sign goes to neither side. -/
theorem lineOf_setting (isName : IsName name) (isValue : IsValue value) :
    lineOf (name ++ " = ".toList ++ value) = .setting name (stripBy (· == '"') value) := by
  cases name with
  | nil =>
      have trimmed := trimmed_setting isValue [] (fun _ mem => nomatch mem)
      have stripped := stripBy_append_left trimmed [' '] (List.forall_mem_singleton.2 rfl)
      exact lineOf_of_strip isValue stripped (by simp) (by simp)
  | cons c rest =>
      have shape : c :: rest ++ " = ".toList ++ value =
          (c :: rest ++ [' ']) ++ '=' :: ' ' :: value := by simp
      have trimmed := trimmed_setting isValue (c :: rest ++ [' ']) isName.trimmed.first
      have noSign : '=' ∉ c :: rest ++ [' '] := by simpa using isName.noSign
      have name : strip (c :: rest ++ [' ']) = c :: rest :=
        stripBy_append_right isName.trimmed [' '] (List.forall_mem_singleton.2 rfl)
      rw [shape, lineOf_of_strip isValue (stripBy_of_trimmed trimmed) noSign isName.noComment, name]

end Lines

section Values

/-- Quotation marks keep white space at both ends of a text. -/
theorem isValue_quoted (cs : List Char) : IsValue ('"' :: cs ++ ['"']) where
  nonempty := List.cons_ne_nil _ _
  trimmed :=
    { first := by
        rintro c ⟨⟩
        rfl
      last := by
        rw [List.getLast?_concat]
        rintro c ⟨⟩
        rfl }
  noBracket := by
    rw [List.getLast?_concat]
    decide

theorem isValue_number {cs : List Char} (nonempty : cs ≠ [])
    (number : ∀ c ∈ cs, Number.IsNumberChar c) : IsValue cs where
  nonempty := nonempty
  trimmed := trimmed_of_all fun c mem => Number.isBlank_of_isNumberChar (number c mem)
  noBracket last := by
    rcases number ']' (List.mem_of_getLast? last) with digit | mem
    · cases digit
    · revert mem
      decide

theorem unquote_number {cs : List Char} (number : ∀ c ∈ cs, Number.IsNumberChar c) :
    stripBy (· == '"') cs = cs := by
  refine stripBy_of_trimmed (trimmed_of_all fun c mem => beq_false_of_ne ?_)
  rintro rfl
  rcases number '"' mem with digit | mark
  · cases digit
  · revert mark
    decide

theorem valueOf_text {cs : List Char} (isText : IsText cs) :
    valueOf cs = .ok (.text (String.ofList cs)) := by
  rw [valueOf, isText.notInteger, if_neg Bool.false_ne_true, isText.notFloat,
    if_neg Bool.false_ne_true]

theorem toList_integer (n : ℕ) : (Datum.int n).plain.toList = Nat.toDigits 10 n := by
  change (toString n).toList = _
  rw [Nat.toString_eq_ofList_toDigits, String.toList_ofList]

theorem integer_chars (n : ℕ) : ∀ c ∈ (Datum.int n).plain.toList, Number.IsNumberChar c := by
  rw [toList_integer]
  exact fun c mem => Or.inl (Number.allWritten_toDigits n c mem)

theorem valueOf_integer {n : ℕ} (short : Number.hasText n = true) :
    valueOf (Datum.int n).plain.toList = .ok (.int n) := by
  have digits : allDigits (Nat.toDigits 10 n) = true := by
    have digit : ∀ c ∈ Nat.toDigits 10 n, Text.isDigit c = true := fun c mem => by
      rw [Text.isDigit, Number.decimalValue?_of_isDigit (Number.allWritten_toDigits n c mem)]
      rfl
    rw [allDigits, List.all_eq_true.2 digit]
    simp
  rw [toList_integer, valueOf, digits, if_pos rfl, Number.readInt?_toDigits short]

theorem numberOf_text {t : String} {x : Float} (read : Number.readFloat? t.toList = some x) :
    numberOf (.text t) = .ok x := by
  -- Unfolding by equations evaluates the reader, which is too deep for the kernel.
  delta numberOf
  dsimp only
  rw [read]

/-- A number with a plus sign or an infinity is first taken for a text. -/
theorem numberOf_valueOf {x : Float} (number : Binary64.value x ≠ .nan) :
    ∃ d, valueOf (Number.text x).toList = .ok d ∧ numberOf d = .ok x := by
  obtain ⟨_, c, mem, mark⟩ := Number.text_chars number
  have notInteger : allDigits (Number.text x).toList = false := by
    rw [allDigits, List.all_eq_false.2 ⟨c, mem, by simp [mark]⟩, Bool.and_false]
  rw [valueOf, notInteger, if_neg Bool.false_ne_true, Number.readFloat?_text number]
  split
  · exact ⟨_, rfl, rfl⟩
  · refine ⟨_, rfl, numberOf_text ?_⟩
    rw [String.toList_ofList, Number.readFloat?_text number]

end Values

section Steps
variable {name : String} (isName : IsName name.toList) (r : Reading)
include isName

theorem step_text {t : String} (isText : IsText t.toList) :
    r.step (lineOf (quotedLine name (.text t))) = r.set name (.text t) := by
  have shape : quotedLine name (.text t) = name.toList ++ " = ".toList ++
      ('"' :: t.toList ++ ['"']) := by
    simp [quotedLine, Datum.plain]
  have unquoted : stripBy (· == '"') ('"' :: t.toList ++ ['"']) = t.toList :=
    stripBy_between isText.unquoted ['"'] ['"'] (List.forall_mem_singleton.2 rfl)
      (List.forall_mem_singleton.2 rfl)
  rw [shape, lineOf_setting isName (isValue_quoted _), unquoted, Reading.step, valueOf_text isText,
    String.ofList_toList, String.ofList_toList]
  rfl

theorem step_integer {n : ℕ} (short : Number.hasText n = true) :
    r.step (lineOf (plainLine name (Datum.int n).plain)) = r.set name (.int n) := by
  have chars := integer_chars n
  have nonempty : (Datum.int n).plain.toList ≠ [] := by
    rw [toList_integer]
    exact Nat.toDigits_ne_nil
  rw [plainLine, lineOf_setting isName (isValue_number nonempty chars), unquote_number chars,
    Reading.step, valueOf_integer short, String.ofList_toList]
  rfl

theorem step_tolerance {x : Float} (number : Binary64.value x ≠ .nan)
    (general : OrderedMap String Datum) (values : Tolerances) :
    Reading.step ⟨⟨general, .table values⟩, true⟩ (lineOf (plainLine name (Number.text x))) =
      .ok ⟨⟨general, .table (values.insert name x)⟩, true⟩ := by
  obtain ⟨chars, c, mem, _⟩ := Number.text_chars number
  obtain ⟨d, value, converted⟩ := numberOf_valueOf number
  rw [plainLine, lineOf_setting isName (isValue_number (List.ne_nil_of_mem mem) chars),
    unquote_number chars, Reading.step, value, String.ofList_toList]
  have set : Reading.set ⟨⟨general, .table values⟩, true⟩ name d =
      .ok ⟨⟨general, .table (values.insert name x)⟩, true⟩ := by
    rw [Reading.set, if_pos rfl, converted]
    rfl
  exact set

end Steps

theorem readLines_cons {r next : Reading} {raw : List Char} (step : r.step (lineOf raw) = .ok next)
    (rest : List (List Char)) : readLines r (raw :: rest) = readLines next rest := by
  rw [readLines, step]
  rfl

/-- The tolerances are read one after another, in the order in which they were written. -/
theorem readLines_tolerances {entries : List (String × Float)}
    (names : ∀ entry ∈ entries, IsName entry.1.toList)
    (numbers : ∀ entry ∈ entries, Binary64.value entry.2 ≠ .nan)
    (general : OrderedMap String Datum) (values : Tolerances) :
    readLines ⟨⟨general, .table values⟩, true⟩
        (entries.map fun entry => plainLine entry.1 (Number.text entry.2)) =
      .ok ⟨⟨general, .table (values.insertAll entries)⟩, true⟩ := by
  induction entries generalizing values with
  | nil => rfl
  | cons entry rest ih =>
      have here := step_tolerance (names entry List.mem_cons_self)
        (numbers entry List.mem_cons_self) general values
      rw [List.map_cons, readLines_cons here,
        ih (fun other mem => names other (List.mem_cons_of_mem _ mem))
          (fun other mem => numbers other (List.mem_cons_of_mem _ mem))]
      rfl

end SettingsFile

/-- Settings that a file can hold. -/
structure Settings.Writable (s : Settings) : Prop where
  logLevel : ∃ t, s.logLevel = .text t ∧ SettingsFile.IsText t.toList
  defaultSolver : ∃ t, s.defaultSolver = .text t ∧ SettingsFile.IsText t.toList
  numThreads : ∃ n : ℕ, s.numThreads = .int n ∧ Number.hasText n = true
  maxElems : ∃ n : ℕ, s.maxElems = .int n ∧ Number.hasText n = true
  names : ∀ entry ∈ s.tolerances.entries, SettingsFile.IsName entry.1.toList
  numbers : ∀ entry ∈ s.tolerances.entries, Binary64.value entry.2 ≠ .nan

namespace SettingsFile

theorem isLine_quotedLine {name t : String} (isName : IsLine name.toList)
    (isText : IsLine t.toList) : IsLine (quotedLine name (.text t)) :=
  ((isName.append (by decide)).append isText).append (by decide)

theorem isLine_plainLine {name value : String} (isName : IsLine name.toList)
    (number : ∀ c ∈ value.toList, Number.IsNumberChar c) : IsLine (plainLine name value) := by
  refine (isName.append (by decide)).append (isLine_of_visible fun c mem => ?_)
  exact Number.isBlank_of_isNumberChar (number c mem)

variable {s : Settings} (writable : s.Writable)
include writable

theorem isLine_of_mem_lines : ∀ line ∈ lines s, IsLine line := by
  obtain ⟨level, levelText, levelPlain⟩ := writable.logLevel
  obtain ⟨solver, solverText, solverPlain⟩ := writable.defaultSolver
  obtain ⟨threads, threadsInt, _⟩ := writable.numThreads
  obtain ⟨elems, elemsInt, _⟩ := writable.maxElems
  intro line mem
  rw [lines, levelText, solverText, threadsInt, elemsInt, List.mem_append, List.mem_map] at mem
  rcases mem with general | ⟨entry, entryMem, rfl⟩
  · simp only [List.mem_cons, List.not_mem_nil, or_false] at general
    rcases general with rfl | rfl | rfl | rfl | rfl | rfl | rfl | rfl | rfl
    · decide
    · decide
    · decide
    · exact isLine_quotedLine (by decide) levelPlain.line
    · exact isLine_quotedLine (by decide) solverPlain.line
    · exact isLine_plainLine (by decide) (integer_chars threads)
    · exact isLine_plainLine (by decide) (integer_chars elems)
    · decide
    · decide
  · exact isLine_plainLine (writable.names entry entryMem).line
      (Number.text_chars (writable.numbers entry entryMem)).1

theorem splitLines_render : splitLines (normalizeNewlines (render s)) = lines s := by
  have all := isLine_of_mem_lines writable
  have last : ∀ line ∈ (lines s).getLast?, line ≠ [] := by
    intro line mem
    rw [lines, List.getLast?_append] at mem
    rcases Option.or_eq_some_iff.1 mem with tolerance | ⟨_, heading⟩
    · obtain ⟨entry, _, rfl⟩ := List.mem_map.1 (List.mem_of_getLast? tolerance)
      simp [plainLine]
    · cases heading
      exact List.cons_ne_nil _ _
  rw [render, normalizeNewlines_of_none (return_notMem_intercalate all),
    splitLines_intercalate all last]

/-- The table that comes from the file holds the settings, tolerances in their order. -/
theorem readLines_lines : readLines .start (lines s) = .ok ⟨s.toTable, true⟩ := by
  obtain ⟨level, levelText, levelPlain⟩ := writable.logLevel
  obtain ⟨solver, solverText, solverPlain⟩ := writable.defaultSolver
  obtain ⟨threads, threadsInt, threadsShort⟩ := writable.numThreads
  obtain ⟨elems, elemsInt, elemsShort⟩ := writable.maxElems
  have comment : Reading.start.step (lineOf "# OpenDW Configuration".toList) = .ok .start := rfl
  have blank (table : SettingsTable) : Reading.step ⟨table, false⟩ (lineOf []) =
      .ok ⟨table, false⟩ := rfl
  have general : Reading.start.step (lineOf "[general]".toList) = .ok .start := rfl
  have levelRead := step_text (show IsName "log_level".toList by decide) .start levelPlain
  have solverRead (table : SettingsTable) :=
    step_text (show IsName "default_solver".toList by decide) ⟨table, false⟩ solverPlain
  have threadsRead (table : SettingsTable) :=
    step_integer (show IsName "num_threads".toList by decide) ⟨table, false⟩ threadsShort
  have elemsRead (table : SettingsTable) :=
    step_integer (show IsName "max_nb_elems".toList by decide) ⟨table, false⟩ elemsShort
  have tolerances (table : SettingsTable) :
      Reading.step ⟨table, false⟩ (lineOf "[tolerances]".toList) = .ok ⟨table, true⟩ := rfl
  have read := readLines_tolerances writable.names writable.numbers s.toTable.general .empty
  have whole : OrderedMap.empty.insertAll s.tolerances.entries = s.tolerances :=
    s.tolerances.ofList_entries
  rw [whole, Settings.toTable, levelText, solverText, threadsInt, elemsInt] at read
  rw [lines, Settings.toTable, levelText, solverText, threadsInt, elemsInt]
  refine (readLines_cons comment _).trans <| (readLines_cons (blank _) _).trans <|
    (readLines_cons general _).trans <| (readLines_cons levelRead _).trans <|
    (readLines_cons (solverRead _) _).trans <| (readLines_cons (threadsRead _) _).trans <|
    (readLines_cons (elemsRead _) _).trans <| (readLines_cons (blank _) _).trans <|
    (readLines_cons (tolerances _) _).trans read

/-- Reading completes the tolerances and changes nothing else, whatever the environment. -/
theorem parse_render (env : Environment) :
    parse env (render s) =
      .ok { s with tolerances := Settings.completeTolerances s.tolerances } := by
  obtain ⟨threads, threadsInt, _⟩ := writable.numThreads
  obtain ⟨elems, elemsInt, _⟩ := writable.maxElems
  have threadsFound : Settings.integerOf
      (s.toTable.general.getD "num_threads" (.int Settings.standardThreads)) = .ok threads :=
    congrArg Settings.integerOf threadsInt
  have elemsFound : Settings.integerOf
      (s.toTable.general.getD "max_nb_elems" (.int Settings.standardMaxElems)) = .ok elems :=
    congrArg Settings.integerOf elemsInt
  rw [parse, splitLines_render writable, readLines_lines writable]
  change Settings.ofTable env s.toTable = _
  rw [Settings.ofTable, threadsFound, elemsFound, threadsInt, elemsInt]
  rfl

end SettingsFile

end Decomposition
