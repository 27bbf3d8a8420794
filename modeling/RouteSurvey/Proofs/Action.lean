import Mathlib.Tactic.Choose
import RouteSurvey.Action

/-! # Actions on a state

An action whose calls work on a state is a function of the state and of what has been told
before. Most actions of a run only look at the state: they leave it as it is, and their
result does not depend on what has been told.
-/

namespace RouteSurvey.Action

variable {σ α β : Type}

/-- Runs an action on a state, behind what has been told before. -/
def runOn (action : Action (StateM σ) α) (told : List Notice) (state : σ) :
    (Except Error α × List Notice) × σ :=
  (action.run.run told).run state

def resultOn (action : Action (StateM σ) α) (state : σ) : Except Error α :=
  (action.runOn [] state).1.1

/-! ## Running steps -/

section Steps

variable (told : List Notice) (state : σ)

@[simp] theorem runOn_pure (value : α) :
    runOn (pure value : Action (StateM σ) α) told state = ((.ok value, told), state) :=
  rfl

@[simp] theorem runOn_throw (error : Error) :
    runOn (throw error : Action (StateM σ) α) told state = ((.error error, told), state) :=
  rfl

@[simp] theorem runOn_tell (notices : List Notice) :
    runOn (tell notices : Action (StateM σ) Unit) told state =
      ((.ok (), told ++ notices), state) :=
  rfl

@[simp] theorem runOn_call (answer : StateM σ α) :
    runOn (call answer) told state = ((.ok (answer.run state).1, told), (answer.run state).2) :=
  rfl

theorem runOn_bind (action : Action (StateM σ) α) (next : α → Action (StateM σ) β) :
    runOn (action >>= next) told state =
      match runOn action told state with
      | ((.ok value, toldThen), after) => runOn (next value) toldThen after
      | ((.error error, toldThen), after) => ((.error error, toldThen), after) := by
  simp only [runOn, ExceptT.run_bind, StateT.run_bind]
  rcases (action.run.run told).run state with ⟨⟨result, toldThen⟩, after⟩
  cases result <;> rfl

variable {told state} in
/-- A step and what follows end without an error when both do. -/
theorem runOn_bind_eq_ok {action : Action (StateM σ) α} {next : α → Action (StateM σ) β}
    {value : β} : (runOn (action >>= next) told state).1.1 = .ok value ↔
      ∃ between, (runOn action told state).1.1 = .ok between ∧
        (runOn (next between) (runOn action told state).1.2 (runOn action told state).2).1.1 =
          .ok value := by
  rw [runOn_bind]
  rcases runOn action told state with ⟨⟨result, toldThen⟩, after⟩
  cases result <;> simp

theorem runOn_tryCatch (action : Action (StateM σ) α) (handle : Error → Action (StateM σ) α) :
    runOn (tryCatch action handle) told state =
      match runOn action told state with
      | ((.ok value, toldThen), after) => ((.ok value, toldThen), after)
      | ((.error error, toldThen), after) => runOn (handle error) toldThen after := by
  simp only [runOn, ExceptT.run_tryCatch, StateT.run_bind]
  rcases (action.run.run told).run state with ⟨⟨result, toldThen⟩, after⟩
  cases result <;> rfl

theorem runOn_demand (error : Error) (answer? : StateM σ (Option α)) :
    runOn (demand error answer?) told state =
      (((answer?.run state).1.elim (.error error) .ok, told), (answer?.run state).2) := by
  rw [demand, runOn_bind, runOn_call]
  cases (answer?.run state).1 <;> rfl

theorem runOn_ensure (error : Error) (holds : StateM σ Bool) :
    runOn (ensure error holds) told state =
      ((if (holds.run state).1 then .ok () else .error error, told), (holds.run state).2) := by
  rw [ensure, runOn_bind, runOn_call]
  cases (holds.run state).1 <;> rfl

end Steps

/-! ## Looking -/

/-- The action leaves the state as it is, and does not depend on what has been told. -/
def IsLook (action : Action (StateM σ) α) : Prop :=
  ∃ answer : σ → Except Error α, ∃ notices : σ → List Notice, ∀ told state,
    runOn action told state = ((answer state, told ++ notices state), state)

namespace IsLook

theorem pure (value : α) : IsLook (pure value : Action (StateM σ) α) :=
  ⟨fun _ => .ok value, fun _ => [], fun told state => by rw [runOn_pure, List.append_nil]⟩

theorem throw (error : Error) : IsLook (throw error : Action (StateM σ) α) :=
  ⟨fun _ => .error error, fun _ => [], fun told state => by rw [runOn_throw, List.append_nil]⟩

theorem tell (notices : List Notice) : IsLook (tell notices : Action (StateM σ) Unit) :=
  ⟨fun _ => .ok (), fun _ => notices, fun told state => runOn_tell told state notices⟩

theorem bind {action : Action (StateM σ) α} {next : α → Action (StateM σ) β}
    (hlook : IsLook action) (hnext : ∀ value, IsLook (next value)) : IsLook (action >>= next) := by
  obtain ⟨answer, notices, hlook⟩ := hlook
  choose nextAnswer nextNotices hnext using hnext
  refine ⟨fun state => (answer state).bind fun value => nextAnswer value state,
    fun state => notices state ++ (answer state).toOption.elim [] fun value =>
      nextNotices value state, fun told state => ?_⟩
  rw [runOn_bind, hlook]
  cases hanswer : answer state with
  | error error => simp [hanswer, Except.bind, Except.toOption]
  | ok value => simp [hanswer, Except.bind, Except.toOption, hnext]

theorem map {action : Action (StateM σ) α} (f : α → β) (hlook : IsLook action) :
    IsLook (f <$> action) := by
  rw [map_eq_pure_bind]
  exact hlook.bind fun value => pure (f value)

theorem tryCatch {action : Action (StateM σ) α} {handle : Error → Action (StateM σ) α}
    (hlook : IsLook action) (hhandle : ∀ error, IsLook (handle error)) :
    IsLook (tryCatch action handle) := by
  obtain ⟨answer, notices, hlook⟩ := hlook
  choose nextAnswer nextNotices hhandle using hhandle
  refine ⟨fun state => match answer state with
      | .ok value => .ok value
      | .error error => nextAnswer error state,
    fun state => notices state ++ match answer state with
      | .ok _ => []
      | .error error => nextNotices error state, fun told state => ?_⟩
  rw [runOn_tryCatch, hlook]
  cases hanswer : answer state with
  | ok value => simp [hanswer]
  | error error => simp [hanswer, hhandle]

/-- Ending with an error under a condition, and going on otherwise, only looks. -/
theorem throwIf {condition : Prop} [Decidable condition] (error : Error)
    {next : Unit → Action (StateM σ) α} (hnext : ∀ value, IsLook (next value)) :
    IsLook (if condition then Bind.bind (MonadExcept.throw error) next else next ()) := by
  split
  · exact (throw error).bind hnext
  · exact hnext ()

section Calls

variable {answer : StateM σ α} {answer? : StateM σ (Option α)} {holds : StateM σ Bool}

theorem call (hcall : ∀ state, (answer.run state).2 = state) :
    IsLook (call answer : Action (StateM σ) α) :=
  ⟨fun state => .ok (answer.run state).1, fun _ => [], fun told state => by
    rw [runOn_call, hcall, List.append_nil]⟩

theorem demand (error : Error) (hcall : ∀ state, (answer?.run state).2 = state) :
    IsLook (demand error answer? : Action (StateM σ) α) :=
  ⟨fun state => (answer?.run state).1.elim (.error error) .ok, fun _ => [], fun told state => by
    rw [runOn_demand, hcall, List.append_nil]⟩

theorem ensure (error : Error) (hcall : ∀ state, (holds.run state).2 = state) :
    IsLook (ensure error holds : Action (StateM σ) Unit) :=
  ⟨fun state => if (holds.run state).1 then .ok () else .error error, fun _ => [],
    fun told state => by rw [runOn_ensure, hcall, List.append_nil]⟩

end Calls

/-- An action that only looks at the state has one result, and leaves the state as it is. -/
theorem runOn_eq {action : Action (StateM σ) α} (hlook : IsLook action) (told : List Notice)
    (state : σ) : ∃ toldThen, runOn action told state =
      ((resultOn action state, toldThen), state) := by
  obtain ⟨answer, notices, hlook⟩ := hlook
  refine ⟨told ++ notices state, ?_⟩
  rw [resultOn, hlook, hlook]

/-- Results of actions that only look are put together like results without a state. -/
theorem resultOn_bind_eq_ok {action : Action (StateM σ) α} {next : α → Action (StateM σ) β}
    {state : σ} {value : β} (hlook : IsLook action) (hnext : ∀ value, IsLook (next value)) :
    resultOn (action >>= next) state = .ok value ↔
      ∃ between, resultOn action state = .ok between ∧
        resultOn (next between) state = .ok value := by
  obtain ⟨told, hrun⟩ := hlook.runOn_eq [] state
  rw [resultOn, runOn_bind_eq_ok, hrun]
  refine exists_congr fun between => and_congr_right fun _ => ?_
  obtain ⟨toldThen, hrunNext⟩ := (hnext between).runOn_eq told state
  rw [hrunNext]

end IsLook

end RouteSurvey.Action
