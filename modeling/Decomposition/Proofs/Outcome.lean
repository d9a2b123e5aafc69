import Decomposition.Fault

namespace Decomposition

theorem Fault.exists_of_map_eq_ok {α β : Type} {f : α → β} {attempt : Except Fault α} {b : β}
    (mapped : attempt.map f = .ok b) : ∃ a, attempt = .ok a ∧ f a = b := by
  cases attempt with
  | error fault => cases mapped
  | ok a => exact ⟨a, rfl, Except.ok.inj mapped⟩

theorem Fault.exists_of_bind_eq_ok {α β : Type} {attempt : Except Fault α}
    {next : α → Except Fault β} {b : β} (done : attempt >>= next = .ok b) :
    ∃ a, attempt = .ok a ∧ next a = .ok b := by
  cases attempt with
  | error fault => cases done
  | ok a => exact ⟨a, rfl, done⟩

theorem Fault.eq_ok_of_isOk {attempt : Except Fault Unit} (succeeds : attempt.isOk = true) :
    attempt = .ok () := by
  cases attempt with
  | error fault => cases succeeds
  | ok _ => rfl

namespace Outcome
variable {σ α β : Type}

@[simp] theorem ok_state (state : σ) (a : α) : (ok state a).state = state := rfl

@[simp] theorem ok_andThen (state : σ) (a : α) (next : σ → α → Outcome σ β) :
    (ok state a).andThen next = next state a := rfl

/-- What holds after the first step and is kept by the second holds after both. -/
theorem andThen_state {P : σ → Prop} {first : Outcome σ α} {next : σ → α → Outcome σ β}
    (here : P first.state) (later : ∀ a, first.result = .ok a → P (next first.state a).state) :
    P (first.andThen next).state := by
  unfold andThen
  split
  · rename_i a done
    exact later a done
  · exact here

/-- What every step keeps is kept by a run, however far that gets. -/
theorem forEach_state {P : σ → Prop} {step : σ → α → Outcome σ Unit} {state : σ} {items : List α}
    (here : P state) (kept : ∀ s, ∀ a ∈ items, P s → P (step s a).state) :
    P (forEach step state items).state := by
  induction items generalizing state with
  | nil => exact here
  | cons a rest ih =>
      have first := kept state a List.mem_cons_self here
      exact andThen_state first fun _ _ =>
        ih first fun s other mem => kept s other (List.mem_cons_of_mem _ mem)

/-- A success is one of both steps, and the second leaves the state. -/
theorem exists_of_andThen_eq_ok {first : Outcome σ α} {next : σ → α → Outcome σ β} {b : β}
    (done : (first.andThen next).result = .ok b) :
    ∃ a, first.result = .ok a ∧ first.andThen next = next first.state a := by
  unfold andThen at done ⊢
  split
  · rename_i a ended
    exact ⟨a, ended, rfl⟩
  · rename_i fault ended
    rw [ended] at done
    cases done

section Batches
variable {γ : Type} {refusal : α → Option Fault}

@[simp] theorem refuse_andThen (state : σ) (fault : Fault) (next : σ → α → Outcome σ β) :
    (refuse state fault).andThen next = refuse state fault := rfl

@[simp] theorem ok_map (state : σ) (a : α) (f : α → β) : (ok state a).map f = ok state (f a) := rfl

@[simp] theorem refuse_map (state : σ) (fault : Fault) (f : α → β) :
    (refuse state fault).map f = refuse state fault := rfl

theorem map_eq_refuse_iff {o : Outcome σ α} {f : α → β} {state : σ} {fault : Fault} :
    o.map f = refuse state fault ↔ o = refuse state fault := by
  obtain ⟨left, result⟩ := o
  cases result <;> simp [Outcome.map, refuse, Except.map]

theorem map_result_eq_error_iff {o : Outcome σ α} {f : α → β} {fault : Fault} :
    (o.map f).result = .error fault ↔ o.result = .error fault := by
  obtain ⟨left, result⟩ := o
  cases result <;> simp [Outcome.map, Except.map]

theorem map_map (o : Outcome σ α) (f : α → β) (g : β → γ) : (o.map f).map g = o.map (g ∘ f) := by
  obtain ⟨left, result⟩ := o
  cases result <;> rfl

@[simp] theorem map_unit (o : Outcome σ Unit) : (o.map fun _ => ()) = o := by
  obtain ⟨left, result⟩ := o
  cases result <;> rfl

/-- A run that collects the answers of its steps goes as far as one that does not. -/
theorem collect_eq_forEach (step : σ → α → Outcome σ β) (run : σ → List α → Outcome σ (List β))
    (nil : ∀ s, run s [] = ok s [])
    (cons : ∀ s a rest,
      run s (a :: rest) = (step s a).andThen fun next b => (run next rest).map (b :: ·))
    (state : σ) (items : List α) :
    (run state items).map (fun _ => ()) =
      forEach (fun s a => (step s a).map fun _ => ()) state items := by
  induction items generalizing state with
  | nil =>
      rw [nil]
      rfl
  | cons a rest ih =>
      rw [cons, forEach]
      cases step state a with
      | mk next result =>
          cases result with
          | error fault => rfl
          | ok b => exact ((run next rest).map_map (b :: ·) fun _ => ()).trans (ih next)

/-- A batch takes its items in turn and ends at the first one with a refusal. What it leaves then is
what it leaves for the items before. -/
structure StopsAtFirst (refusal : α → Option Fault) (batch : List α → Outcome σ β) : Prop where
  refused_iff : ∀ items,
    (∃ fault, (batch items).result = .error fault) ↔ ∃ a ∈ items, (refusal a).isSome = true
  stops : ∀ before a after fault, (∀ b ∈ before, refusal b = none) → refusal a = some fault →
    batch (before ++ a :: after) = refuse (batch before).state fault

/-- It is enough to look at one step, on the states that a run can come to. -/
theorem stopsAtFirst_forEach (Inv : σ → Prop) {step : σ → α → Outcome σ Unit}
    (accepts : ∀ s a, Inv s → refusal a = none → ∃ next, step s a = ok next () ∧ Inv next)
    (refuses : ∀ s a fault, Inv s → refusal a = some fault → step s a = refuse s fault)
    {state : σ} (here : Inv state) : StopsAtFirst refusal (forEach step state) where
  refused_iff items := by
    induction items generalizing state with
    | nil => simp [forEach, ok]
    | cons a rest ih =>
        cases verdict : refusal a with
        | some fault =>
            have stopped := refuses state a fault here verdict
            simp only [forEach, stopped, refuse_andThen, List.mem_cons, exists_eq_or_imp, verdict,
              Option.isSome_some, true_or, iff_true]
            exact ⟨fault, rfl⟩
        | none =>
            obtain ⟨next, taken, there⟩ := accepts state a here verdict
            simp [forEach, taken, verdict, ih there]
  stops before a after fault good bad := by
    induction before generalizing state with
    | nil =>
        have stopped := refuses state a fault here bad
        simp [forEach, stopped]
    | cons b rest ih =>
        obtain ⟨next, taken, there⟩ := accepts state b here (good b List.mem_cons_self)
        simp [forEach, taken, ih there fun other mem => good other (List.mem_cons_of_mem _ mem)]

namespace StopsAtFirst
variable {batch : List α → Outcome σ β}

/-- The answers of successes do not matter. -/
theorem congr {other : List α → Outcome σ γ} (stops : StopsAtFirst refusal other)
    (same : ∀ items, (batch items).map (fun _ => ()) = (other items).map fun _ => ()) :
    StopsAtFirst refusal batch where
  refused_iff items := by
    rw [← stops.refused_iff items]
    apply exists_congr
    intro fault
    rw [← map_result_eq_error_iff (f := fun _ => ()), same, map_result_eq_error_iff]
  stops before a after fault good bad := by
    have states : (batch before).state = (other before).state :=
      congrArg Outcome.state (same before)
    rw [states, ← map_eq_refuse_iff (f := fun _ => ()), same, map_eq_refuse_iff]
    exact stops.stops before a after fault good bad

/-- The items may be read off others. -/
theorem comap (stops : StopsAtFirst refusal batch) (read : γ → α) :
    StopsAtFirst (fun c => refusal (read c)) fun items => batch (items.map read) where
  refused_iff items := by
    rw [stops.refused_iff]
    constructor
    · rintro ⟨a, mem, bad⟩
      obtain ⟨c, listed, rfl⟩ := List.mem_map.1 mem
      exact ⟨c, listed, bad⟩
    · rintro ⟨c, listed, bad⟩
      exact ⟨read c, List.mem_map_of_mem listed, bad⟩
  stops before c after fault good bad := by
    rw [List.map_append, List.map_cons]
    refine stops.stops _ _ _ fault (fun a mem => ?_) bad
    obtain ⟨b, listed, rfl⟩ := List.mem_map.1 mem
    exact good b listed

/-- The state may be part of another one. -/
theorem mapState {τ : Type} (stops : StopsAtFirst refusal batch) (place : σ → τ) :
    StopsAtFirst refusal fun items =>
      (⟨place (batch items).state, (batch items).result⟩ : Outcome τ β) where
  refused_iff := stops.refused_iff
  stops before a after fault good bad := by
    rw [stops.stops before a after fault good bad]
    rfl

end StopsAtFirst

end Batches

end Outcome

end Decomposition
