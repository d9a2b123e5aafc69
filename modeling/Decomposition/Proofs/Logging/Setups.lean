import Decomposition.Logging.Record
import Decomposition.Proofs.Outcome
import Mathlib.Data.List.Induction

namespace Decomposition

namespace LogLevel

/-- What a given level stands for: a number for itself, and a text for the level that it names in
any case. -/
inductive Means : Datum → Int → Prop
  | number (n : Int) : Means (.int n) n
  | truth (b : Bool) : Means (.bool b) (if b then 1 else 0)
  | name {text : String} {level : Int} (named : (Text.upper text, level) ∈ names) :
      Means (.text text) level

/-- No name has two levels. -/
theorem ofName?_eq_some_iff {name : String} {level : Int} :
    ofName? name = some level ↔ (name, level) ∈ names := by
  constructor
  · intro found
    obtain ⟨before, after, split, _⟩ := List.lookup_eq_some_iff.1 found
    rw [split]
    simp
  · intro listed
    have first : ∀ entry ∈ names, ofName? entry.1 = some entry.2 := by decide
    exact first _ listed

theorem resolve_eq_ok_iff {given : Datum} {level : Int} :
    resolve given = .ok level ↔ Means given level := by
  constructor
  · intro resolved
    cases given with
    | int n =>
        cases resolved
        exact .number _
    | bool b =>
        cases resolved
        exact .truth b
    | text text =>
        rw [resolve] at resolved
        split at resolved
        · rename_i found
          cases resolved
          exact .name (ofName?_eq_some_iff.1 found)
        · cases resolved
    | _ => cases resolved
  · rintro (n | b | named)
    · rfl
    · rfl
    · rw [resolve, ofName?_eq_some_iff.2 named]

/-- What stands for no level is refused by its name, or for its type if it is no text. -/
def refusal : Datum → Fault
  | .text text => .unknownLevel (Text.upper text)
  | _ => .badType

theorem resolve_eq_refusal {given : Datum} (unknown : ∀ level, ¬ Means given level) :
    resolve given = .error (refusal given) := by
  cases given with
  | int n => exact absurd (.number n) (unknown n)
  | bool b => exact absurd (.truth b) (unknown _)
  | text text =>
      rw [resolve]
      cases found : ofName? (Text.upper text) with
      | none => rfl
      | some level => exact absurd (.name (ofName?_eq_some_iff.1 found)) (unknown level)
  | _ => rfl

end LogLevel

namespace LogSetup

/-- The handlers that no setup has installed. -/
def others (s : LogSetup) : List Handler := s.handlers.filter fun h => h.sink?.isNone

/-- Setups have installed neither two consoles nor two files. -/
structure OneOfEach (s : LogSetup) : Prop where
  console : s.sinks.count .console ≤ 1
  file : s.sinks.countP (· ≠ .console) ≤ 1

section Passing
variable {s : LogSetup} {others : List Handler} {sinks : List Sink}
variable (handlers : s.handlers = others ++ sinks.map .installed)
variable (foreign : ∀ h ∈ others, h.sink? = none)
include handlers foreign

theorem sinks_of_handlers : s.sinks = sinks := by
  have none : others.filterMap Handler.sink? = [] := List.filterMap_eq_nil_iff.2 foreign
  rw [LogSetup.sinks, handlers, List.filterMap_append, none, List.nil_append, List.filterMap_map]
  exact List.filterMap_some

theorem others_of_handlers : s.others = others := by
  have kept : others.filter (fun h => h.sink?.isNone) = others :=
    List.filter_eq_self.2 fun h mem => by simp [foreign h mem]
  have gone : (sinks.map Handler.installed).filter (fun h => h.sink?.isNone) = [] := by
    simp [List.filter_eq_nil_iff, Handler.sink?]
  rw [LogSetup.others, handlers, List.filter_append, kept, gone, List.append_nil]

end Passing

theorem sink?_of_mem_others {s : LogSetup} {h : Handler} (mem : h ∈ s.others) : h.sink? = none := by
  simpa using (List.mem_filter.1 mem).2

end LogSetup

/-- A setup that is asked for, and the level that is configured by then. -/
structure LogCall where
  request : LogRequest
  configured : Datum

namespace LogCall
variable (c : LogCall)

/-- The level that is given, and without one the level that is configured. -/
def givenLevel : Datum :=
  match c.request.level with
  | .null => c.configured
  | given => given

/-- The console if it is asked for, and then a file if a name is given that is not empty. -/
def sinks : List Sink :=
  (if c.request.console then [.console] else []) ++
    ((c.request.file.filter (· ≠ "")).map Sink.file).toList

theorem requestedLevel_eq_ok_iff {level : Int} :
    LogSetup.requestedLevel c.request c.configured = .ok level ↔
      LogLevel.Means c.givenLevel level :=
  LogLevel.resolve_eq_ok_iff

/-- A console, a file, both or neither is asked for. -/
theorem sinks_cases :
    c.sinks = [] ∨ c.sinks = [.console] ∨
      ∃ name, c.sinks = [.file name] ∨ c.sinks = [.console, .file name] := by
  unfold sinks
  cases c.request.file.filter (· ≠ "") with
  | none => cases c.request.console <;> simp
  | some name => cases c.request.console <;> simp

theorem requested_eq_sinks : LogSetup.requested c.request = c.sinks := by
  unfold LogSetup.requested sinks
  cases c.request.file with
  | none => rfl
  | some name => by_cases unnamed : name = "" <;> simp [unnamed, Option.filter]

theorem oneOfEach_of_sinks {s : LogSetup} (same : s.sinks = c.sinks) : s.OneOfEach := by
  obtain none | console | ⟨name, file | both⟩ := c.sinks_cases
  · constructor <;> simp [same, none]
  · constructor <;> simp [same, console]
  · constructor <;> simp [same, file]
  · constructor <;> simp [same, both]

end LogCall

namespace LogState
variable {s : LogState} {c : LogCall} {calls : List LogCall}

def call (s : LogState) (c : LogCall) : Outcome LogState Unit := s.configure c.request c.configured

/-- The state after calls, whichever of them are refused. -/
def afterCalls (s : LogState) (calls : List LogCall) : LogState :=
  calls.foldl (fun s c => (s.call c).state) s

/-- The call itself, unless it is refused. -/
def unrefused (s : LogState) (c : LogCall) : List LogCall :=
  if (s.call c).result.isOk then [c] else []

/-- The calls that are not refused, in turn. -/
def accepted (s : LogState) : List LogCall → List LogCall
  | [] => []
  | c :: rest => s.unrefused c ++ (s.call c).state.accepted rest

/-- Each file that a call asks for can be opened. -/
def Opens (s : LogState) (c : LogCall) : Prop :=
  ∀ sink ∈ c.sinks, (openSink s.files sink).result = .ok ()

/-- Files can be opened whenever a call with a known level asks for them. -/
def FilesOpen (s : LogState) : List LogCall → Prop
  | [] => True
  | c :: rest =>
      ((∃ level, LogLevel.Means c.givenLevel level) → s.Opens c) ∧ (s.call c).state.FilesOpen rest

section Runs
variable (s) (calls later : List LogCall)

theorem afterCalls_append : s.afterCalls (calls ++ later) = (s.afterCalls calls).afterCalls later :=
  List.foldl_append

theorem accepted_append :
    s.accepted (calls ++ later) = s.accepted calls ++ (s.afterCalls calls).accepted later := by
  induction calls generalizing s with
  | nil => rfl
  | cons c rest ih => simp [accepted, afterCalls, ih]

theorem filesOpen_append :
    s.FilesOpen (calls ++ later) ↔
      s.FilesOpen calls ∧ (s.afterCalls calls).FilesOpen later := by
  induction calls generalizing s with
  | nil => simp [FilesOpen, afterCalls]
  | cons c rest ih => simp [FilesOpen, afterCalls, ih, and_assoc]

end Runs

theorem install_of_opens {sink : Sink} (opens : (openSink s.files sink).result = .ok ()) :
    s.install sink = .ok ⟨s.setup.install sink, (openSink s.files sink).state⟩ () := by
  simp only [install, opens]
  rfl

/-- Where the files open, what is asked for is installed, and stands behind what was there. -/
theorem forEach_install (opens : s.Opens c) :
    ∃ files, Outcome.forEach install s c.sinks =
      .ok ⟨⟨s.setup.level, s.setup.handlers ++ c.sinks.map .installed⟩, files⟩ () := by
  have console : s.install .console = .ok ⟨s.setup.install .console, s.files⟩ () := rfl
  obtain none | alone | ⟨name, file | both⟩ := c.sinks_cases
  · exact ⟨s.files, by simp [none, Outcome.forEach]⟩
  · exact ⟨s.files, by simp [alone, Outcome.forEach, console, LogSetup.install]⟩
  · have opened := install_of_opens (opens (.file name) (by simp [file]))
    rw [file, Outcome.forEach, opened]
    exact ⟨_, rfl⟩
  · -- The console leaves the files alone, so that the file can still be opened after it.
    have opened := install_of_opens (s := ⟨s.setup.install .console, s.files⟩)
      (opens (.file name) (by simp [both]))
    have together : s.setup.handlers ++ [.installed .console, .installed (.file name)] =
        s.setup.handlers ++ [.installed .console] ++ [.installed (.file name)] := by simp
    rw [both, Outcome.forEach, console, Outcome.ok_andThen, Outcome.forEach, opened, List.map_cons,
      List.map_singleton, together]
    exact ⟨_, rfl⟩

/-- A call with an unknown level is refused before it touches anything. -/
theorem call_of_unknown (unknown : ∀ level, ¬ LogLevel.Means c.givenLevel level) :
    s.call c = .refuse s (LogLevel.refusal c.givenLevel) := by
  have refused : LogSetup.requestedLevel c.request c.configured =
      .error (LogLevel.refusal c.givenLevel) := LogLevel.resolve_eq_refusal unknown
  rw [call, configure, refused]

/-- A call with a known level succeeds where its file opens, and takes the place of earlier ones. -/
theorem call_of_known {level : Int} (known : LogLevel.Means c.givenLevel level)
    (opens : s.Opens c) :
    ∃ files, s.call c = .ok ⟨⟨level, s.setup.others ++ c.sinks.map .installed⟩, files⟩ () := by
  have resolved := c.requestedLevel_eq_ok_iff.2 known
  rw [call, configure, resolved]
  dsimp only
  rw [c.requested_eq_sinks]
  exact forEach_install (s := { s with setup := s.setup.restart level }) opens

/-- The logger is as a call asks for, and the handlers of others are as given. -/
structure Governed (s : LogState) (c : LogCall) (others : List Handler) : Prop where
  level : LogLevel.Means c.givenLevel s.setup.level
  handlers : s.setup.handlers = others ++ c.sinks.map .installed

/-- No call takes a handler of others away. -/
theorem others_call (opens : (∃ level, LogLevel.Means c.givenLevel level) → s.Opens c) :
    (s.call c).state.setup.others = s.setup.others := by
  by_cases known : ∃ level, LogLevel.Means c.givenLevel level
  · obtain ⟨level, means⟩ := known
    obtain ⟨files, made⟩ := call_of_known means (opens ⟨level, means⟩)
    rw [made]
    exact LogSetup.others_of_handlers rfl fun _ => LogSetup.sink?_of_mem_others
  · rw [call_of_unknown (not_exists.1 known)]
    rfl

theorem others_afterCalls (opens : s.FilesOpen calls) :
    (s.afterCalls calls).setup.others = s.setup.others := by
  induction calls generalizing s with
  | nil => rfl
  | cons c rest ih =>
      obtain ⟨here, later⟩ := opens
      exact (ih later).trans (others_call here)

theorem unrefused_of_error {fault : Fault} (refused : (s.call c).result = .error fault) :
    s.unrefused c = [] := by
  rw [unrefused, refused]
  rfl

theorem unrefused_of_ok (made : (s.call c).result = .ok ()) : s.unrefused c = [c] := by
  rw [unrefused, made]
  rfl

/-- The last accepted call governs what a run leaves, and a run of refusals leaves all as it was. -/
theorem afterCalls_governed (opens : s.FilesOpen calls) :
    (s.accepted calls = [] → s.afterCalls calls = s) ∧
      ∀ last, (s.accepted calls).getLast? = some last →
        (s.afterCalls calls).Governed last s.setup.others := by
  -- By the last call: once accepted it governs whatever came before, and refused it is not there.
  induction calls using List.reverseRecOn with
  | nil => exact ⟨fun _ => rfl, fun _ absent => by cases absent⟩
  | append_singleton calls c ih =>
      obtain ⟨before, here, _⟩ := (filesOpen_append s calls [c]).1 opens
      rw [accepted_append, afterCalls_append, accepted, accepted, List.append_nil]
      change (_ → ((s.afterCalls calls).call c).state = s) ∧
        ∀ last, _ → ((s.afterCalls calls).call c).state.Governed last s.setup.others
      by_cases known : ∃ level, LogLevel.Means c.givenLevel level
      · obtain ⟨level, means⟩ := known
        obtain ⟨files, made⟩ := call_of_known means (here ⟨level, means⟩)
        rw [unrefused_of_ok (by rw [made]; rfl), made, others_afterCalls before]
        constructor
        · intro none
          simp at none
        · intro last isLast
          have same : c = last := by simpa using isLast
          exact same ▸ ⟨means, rfl⟩
      · have refused := call_of_unknown (s := s.afterCalls calls) (not_exists.1 known)
        rw [unrefused_of_error (by rw [refused]; rfl), refused, List.append_nil]
        exact ih before

/-- What a run of setups leaves of the logger. A setup is refused before it touches anything, or
else it takes the place of all setups before it. -/
structure Leaves (s : LogState) (calls : List LogCall) : Prop where
  /-- Just what the last accepted call asked for is installed, the console before the file, and the
  level is the one that it gave. -/
  last : ∀ c, (s.accepted calls).getLast? = some c →
    (s.afterCalls calls).setup.sinks =
      (if c.request.console then [.console] else []) ++
        ((c.request.file.filter (· ≠ "")).map Sink.file).toList ∧
    LogLevel.Means c.givenLevel (s.afterCalls calls).setup.level
  /-- Without an accepted call nothing has changed. -/
  none : s.accepted calls = [] → s.afterCalls calls = s
  /-- Consoles and files do not pile up. -/
  oneOfEach : s.accepted calls ≠ [] ∨ s.setup.OneOfEach → (s.afterCalls calls).setup.OneOfEach
  /-- The handlers of others are all there still, in their order. -/
  others : (s.afterCalls calls).setup.others = s.setup.others
  /-- A call with an unknown level is refused wherever it stands in the run, and changes nothing. -/
  refused : ∀ before c after, calls = before ++ c :: after →
    (∀ level, ¬ LogLevel.Means c.givenLevel level) →
      (s.afterCalls before).call c =
        .refuse (s.afterCalls before) (LogLevel.refusal c.givenLevel)
  /-- No other call is refused. -/
  succeeds : ∀ before c after level, calls = before ++ c :: after →
    LogLevel.Means c.givenLevel level → ((s.afterCalls before).call c).result = .ok ()

/-- Whatever setups are asked for, the last one that is accepted decides alone. -/
theorem leaves_of_filesOpen (s : LogState) (calls : List LogCall) (opens : s.FilesOpen calls) :
    s.Leaves calls := by
  obtain ⟨unchanged, governed⟩ := afterCalls_governed opens
  have decided (c : LogCall) (isLast : (s.accepted calls).getLast? = some c) :
      (s.afterCalls calls).setup.sinks = c.sinks :=
    LogSetup.sinks_of_handlers (governed c isLast).handlers fun _ => LogSetup.sink?_of_mem_others
  exact {
    last := fun c isLast => ⟨decided c isLast, (governed c isLast).level⟩
    none := unchanged
    oneOfEach := fun start => by
      cases isLast : (s.accepted calls).getLast? with
      | none =>
          have noneAccepted := List.getLast?_eq_none_iff.1 isLast
          rw [unchanged noneAccepted]
          exact start.resolve_left fun some => some noneAccepted
      | some c => exact c.oneOfEach_of_sinks (decided c isLast)
    others := others_afterCalls opens
    refused := fun _ _ _ _ unknown => call_of_unknown unknown
    succeeds := fun before c after level split known => by
      have opensHere := ((filesOpen_append s before (c :: after)).1 (split ▸ opens)).2.1
      obtain ⟨files, made⟩ := call_of_known known (opensHere ⟨level, known⟩)
      rw [made]
      rfl }

/-- A file in the working folder can be opened. -/
theorem openSink_log : (openSink .empty (.file "log")).result = .ok () := by
  have parts : "log".splitOn "/" = ["log"] :=
    calc String.splitOnAux "log" "/" 0 0 0 []
      _ = String.splitOnAux "log" "/" 0 ⟨1⟩ 0 [] := by rw [String.splitOnAux]; rfl
      _ = String.splitOnAux "log" "/" 0 ⟨2⟩ 0 [] := by rw [String.splitOnAux]; rfl
      _ = String.splitOnAux "log" "/" 0 ⟨3⟩ 0 [] := by rw [String.splitOnAux]; rfl
      _ = ["log"] := by rw [String.splitOnAux]; rfl
  have noParts : "".splitOn "/" = [""] :=
    calc String.splitOnAux "" "/" 0 0 0 []
      _ = [""] := by rw [String.splitOnAux]; rfl
  have folder : FilePath.upToLastSlash "log" = ⟨.workingFolder, []⟩ := by
    simp [FilePath.upToLastSlash, parts, FilePath.ofSpelling, noParts, FilePath.stepOf?]
  have path : FilePath.ofText "log" = ⟨.workingFolder, [.enter "log"]⟩ := by
    simp [FilePath.ofText, FilePath.ofSpelling, parts, FilePath.stepOf?]
  have possible : FilePath.impossible ⟨.workingFolder, [.enter "log"]⟩ = false := by
    simp [FilePath.impossible, PathStep.impossible]
  have made : FileTree.makePath .empty FileTree.empty.leadsNowhere ⟨.workingFolder, []⟩ =
      .ok .empty () := rfl
  rw [openSink, FileTree.create, folder, path, made, Outcome.ok_andThen, FileTree.touch, possible]
  exact Fault.eq_ok_of_isOk (by decide +kernel)

def consoleCall : LogCall := ⟨⟨.text "debug", none, true⟩, .text "INFO"⟩

/-- A file with the configured level. -/
def fileCall : LogCall := ⟨⟨.null, some "log", false⟩, .text "ERROR"⟩

/-- A call with an unknown level. -/
def loudCall : LogCall := ⟨⟨.text "LOUD", none, true⟩, .text "INFO"⟩

theorem leaves_three :
    let calls := [consoleCall, fileCall, loudCall]
    let s := initial.afterCalls calls
    initial.FilesOpen calls ∧ initial.Leaves calls ∧
      initial.accepted calls = [consoleCall, fileCall] ∧
      s.setup.level = 40 ∧ s.setup.sinks = [.file "log"] ∧ s.setup.others = [.foreign 0] := by
  intro calls s
  have debug : LogLevel.Means consoleCall.givenLevel 10 := .name (by decide)
  have error : LogLevel.Means fileCall.givenLevel 40 := .name (by decide)
  have unknown : ∀ level, ¬ LogLevel.Means loudCall.givenLevel level := by
    rintro level (_ | _ | named)
    have upper : Text.upper "LOUD" = "LOUD" := by decide +kernel
    simp [upper, LogLevel.names] at named
  have opens : initial.FilesOpen calls := by
    constructor
    · intro _ sink mem
      cases List.mem_singleton.1 mem
      rfl
    · constructor
      · intro _ sink mem
        cases List.mem_singleton.1 mem
        exact openSink_log
      · constructor
        · rintro ⟨level, known⟩
          exact absurd known (unknown level)
        · trivial
  have leaves := leaves_of_filesOpen initial calls opens
  have accepted : initial.accepted calls = [consoleCall, fileCall] := by
    have first := leaves.succeeds [] consoleCall _ 10 rfl debug
    have second := leaves.succeeds [consoleCall] fileCall _ 40 rfl error
    have third := leaves.refused [consoleCall, fileCall] loudCall _ rfl unknown
    change (initial.afterCalls []).unrefused consoleCall ++
      ((initial.afterCalls [consoleCall]).unrefused fileCall ++
        ((initial.afterCalls [consoleCall, fileCall]).unrefused loudCall ++ [])) = _
    rw [unrefused_of_ok first, unrefused_of_ok second,
      unrefused_of_error (congrArg Outcome.result third)]
    rfl
  obtain ⟨sinks, level⟩ := leaves.last fileCall (by rw [accepted]; rfl)
  have forty : s.setup.level = 40 := by
    rcases level with _ | _ | named
    have upper : Text.upper "ERROR" = "ERROR" := by decide +kernel
    simpa [upper, LogLevel.names, LogLevel.error] using named
  exact ⟨opens, leaves, accepted, forty, sinks, leaves.others⟩

end LogState

end Decomposition
