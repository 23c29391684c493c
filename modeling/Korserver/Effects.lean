import Mathlib.Logic.Basic

/-!
Programs that change a state, may raise an error and report events. An error keeps the
changes made before it. A triple speaks of the runs whose events are all sound.
-/

namespace Effects

structure Outcome (State Event Error α : Type) where
  result : Except Error α
  state : State
  events : List Event

def Program (State Event Error α : Type) : Type := State → Outcome State Event Error α

variable {State Event Error α β : Type}

namespace Program

def andThen (first : Program State Event Error α) (next : α → Program State Event Error β) :
    Program State Event Error β := fun state =>
  let outcome := first state
  match outcome.result with
  | .ok value =>
      let rest := next value outcome.state
      { rest with events := outcome.events ++ rest.events }
  | .error error => { outcome with result := .error error }

instance : Monad (Program State Event Error) where
  pure value := fun state => ⟨.ok value, state, []⟩
  bind := andThen

def fromExcept (result : State → Except Error α) : Program State Event Error α := fun state =>
  ⟨result state, state, []⟩

def read (value : State → α) : Program State Event Error α :=
  fromExcept fun state => .ok (value state)

def raise (error : Error) : Program State Event Error α := fromExcept fun _ => .error error

/-- A change that may fail, and then changes nothing. -/
def tryModify (change : State → Except Error State) : Program State Event Error Unit := fun state =>
  match change state with
  | .ok next => ⟨.ok (), next, []⟩
  | .error error => ⟨.error error, state, []⟩

def modify (change : State → State) : Program State Event Error Unit :=
  tryModify fun state => .ok (change state)

/-- Whether a program completed; an error that is handled counts as no. -/
def succeeds (handled : Error → Bool) (program : Program State Event Error α) :
    Program State Event Error Bool := fun state =>
  let outcome := program state
  { outcome with
    result := match outcome.result with
      | .ok _ => .ok true
      | .error error => if handled error then .ok false else .error error }

def when (condition : Bool) (program : Program State Event Error Unit) :
    Program State Event Error Unit :=
  if condition then program else pure ()

def forEach (items : List α) (body : α → Program State Event Error Unit) :
    Program State Event Error Unit :=
  match items with
  | [] => pure ()
  | item :: rest => do body item; forEach rest body

theorem bind_run (first : Program State Event Error α) (next : α → Program State Event Error β)
    (state : State) :
    (first >>= next) state =
      match (first state).result with
      | .ok value =>
          ⟨(next value (first state).state).result, (next value (first state).state).state,
            (first state).events ++ (next value (first state).state).events⟩
      | .error error => ⟨.error error, (first state).state, (first state).events⟩ :=
  rfl

theorem pure_run (value : α) (state : State) :
    (pure value : Program State Event Error α) state = ⟨.ok value, state, []⟩ :=
  rfl

theorem read_run (value : State → α) (state : State) :
    (read value : Program State Event Error α) state = ⟨.ok (value state), state, []⟩ :=
  rfl

theorem fromExcept_run (result : State → Except Error α) (state : State) :
    (fromExcept result : Program State Event Error α) state = ⟨result state, state, []⟩ :=
  rfl

theorem bind_result_ok {first : Program State Event Error α} {next : α → Program State Event Error β}
    {state : State} {value : β} (returned : ((first >>= next) state).result = .ok value) :
    ∃ middle, (first state).result = .ok middle ∧
      (next middle (first state).state).result = .ok value := by
  change (andThen first next state).result = _ at returned
  cases result : (first state).result with
  | ok middle =>
      simp only [andThen, result] at returned
      exact ⟨middle, rfl, returned⟩
  | error error => simp [andThen, result] at returned

variable {first : Program State Event Error α} {next : α → Program State Event Error β} {state : State}

theorem bind_state_ok {value : α} (returned : (first state).result = .ok value) :
    ((first >>= next) state).state = (next value (first state).state).state := by
  change (andThen first next state).state = _
  simp [andThen, returned]

theorem bind_state_error {problem : Error} (raised : (first state).result = .error problem) :
    ((first >>= next) state).state = (first state).state := by
  change (andThen first next state).state = _
  simp [andThen, raised]

theorem bind_result_of_ok {value : α} (returned : (first state).result = .ok value) :
    ((first >>= next) state).result = (next value (first state).state).result := by
  change (andThen first next state).result = _
  simp [andThen, returned]

theorem bind_result_error {problem : Error} (raised : (first state).result = .error problem) :
    ((first >>= next) state).result = .error problem := by
  change (andThen first next state).result = _
  simp [andThen, raised]

theorem bind_pure_state {value : α → β} : ((first >>= fun result => pure (value result)) state).state =
    (first state).state := by
  cases ended : (first state).result with
  | ok result => exact bind_state_ok ended
  | error problem => exact bind_state_error ended

end Program

/-- From a state with `pre`, a program whose events are all sound ends with `post`, or with
`raised` when it ends in an error. -/
def Triple (sound : Event → Prop) (pre : State → Prop) (program : Program State Event Error α)
    (post : α → State → Prop) (raised : State → Prop) : Prop :=
  ∀ state, pre state → (∀ event ∈ (program state).events, sound event) →
    match (program state).result with
    | .ok value => post value (program state).state
    | .error _ => raised (program state).state

namespace Triple

variable {sound : Event → Prop} {pre pre' : State → Prop} {post post' : α → State → Prop}
  {raised : State → Prop} {program : Program State Event Error α}

theorem weaken (triple : Triple sound pre program post raised) (stronger : ∀ state, pre' state → pre state)
    (weaker : ∀ value state, post value state → post' value state) :
    Triple sound pre' program post' raised := by
  intro state holds events
  have ended := triple state (stronger state holds) events
  revert ended
  cases (program state).result with
  | ok value => exact weaker value _
  | error _ => exact id

theorem relax {raised' : State → Prop} (triple : Triple sound pre program post raised)
    (weaker : ∀ state, raised state → raised' state) : Triple sound pre program post raised' := by
  intro state before events
  have ended := triple state before events
  revert ended
  cases (program state).result with
  | ok _ => exact id
  | error _ => exact weaker _

theorem fact {known : Prop} (triple : known → Triple sound pre program post raised) :
    Triple sound (fun state => pre state ∧ known) program post raised :=
  fun state before events => triple before.2 state before.1 events

theorem pure {value : α} (holds : ∀ state, pre state → post value state) :
    Triple sound pre (Pure.pure value : Program State Event Error α) post raised :=
  fun state before _ => holds state before

theorem bind {next : α → Program State Event Error β} {post : β → State → Prop}
    {middle : α → State → Prop} (first : Triple sound pre program middle raised)
    (rest : ∀ value, Triple sound (middle value) (next value) post raised) :
    Triple sound pre (program >>= next) post raised := by
  intro state before events
  change ∀ event ∈ (Program.andThen program next state).events, sound event at events
  change match (Program.andThen program next state).result with
    | .ok value => post value (Program.andThen program next state).state
    | .error _ => raised (Program.andThen program next state).state
  have ended := first state before
  cases result : (program state).result with
  | ok value =>
      simp only [Program.andThen, result, List.mem_append, or_imp, forall_and] at events ended ⊢
      exact rest value _ (ended events.1) events.2
  | error _ =>
      simp only [Program.andThen, result] at events ended ⊢
      exact ended events

theorem fromExcept {result : State → Except Error α}
    (ok : ∀ state value, pre state → result state = .ok value → post value state)
    (error : ∀ state, pre state → raised state) :
    Triple sound pre (Program.fromExcept result : Program State Event Error α) post raised := by
  intro state before _
  cases ended : result state with
  | ok value => simpa only [Program.fromExcept, ended] using ok state value before ended
  | error _ => simpa only [Program.fromExcept, ended] using error state before

theorem fromExcept_cases {result : State → Except Error α}
    (ok : ∀ state value, pre state → result state = .ok value → post value state)
    (error : ∀ state error, pre state → result state = .error error → raised state) :
    Triple sound pre (Program.fromExcept result : Program State Event Error α) post raised := by
  intro state before _
  cases ended : result state with
  | ok value => simpa only [Program.fromExcept, ended] using ok state value before ended
  | error failure => simpa only [Program.fromExcept, ended] using error state failure before ended

theorem read {value : State → α} :
    Triple sound pre (Program.read value : Program State Event Error α)
      (fun result state => pre state ∧ result = value state) raised :=
  fun _ before _ => ⟨before, rfl⟩

theorem raise {error : Error} (holds : ∀ state, pre state → raised state) :
    Triple sound pre (Program.raise error : Program State Event Error α) post raised :=
  fun state before _ => holds state before

theorem tryModify {change : State → Except Error State} {post : Unit → State → Prop}
    (ok : ∀ state next, pre state → change state = .ok next → post () next)
    (error : ∀ state error, pre state → change state = .error error → raised state) :
    Triple sound pre (Program.tryModify change : Program State Event Error Unit) post raised := by
  intro state before _
  cases ended : change state with
  | ok next => simpa only [Program.tryModify, ended] using ok state next before ended
  | error error' => simpa only [Program.tryModify, ended] using error state error' before ended

theorem modify {change : State → State} {post : Unit → State → Prop}
    (holds : ∀ state, pre state → post () (change state)) :
    Triple sound pre (Program.modify change : Program State Event Error Unit) post raised :=
  fun state before _ => holds state before

theorem modify_any {change : State → State} :
    Triple sound pre (Program.modify change : Program State Event Error Unit) (fun _ _ => True) raised :=
  fun _ _ _ => trivial

theorem succeeds {handled : Error → Bool} {after : State → Prop}
    (triple : Triple sound pre program (fun _ => after) after) :
    Triple sound pre (program.succeeds handled) (fun _ => after) after := by
  intro state before events
  have ended := triple state before events
  cases result : (program state).result with
  | ok _ => simpa only [Program.succeeds, result] using ended
  | error error =>
      simp only [result] at ended
      cases outcome : handled error <;> simpa [Program.succeeds, result, outcome] using ended

theorem attempt {handled : Error → Bool} {done failed : State → Prop}
    (triple : Triple sound pre program (fun _ => done) failed) :
    Triple sound pre (program.succeeds handled)
      (fun value state => if value = true then done state else failed state) failed := by
  intro state before events
  have ended := triple state before events
  cases result : (program state).result with
  | ok _ =>
      simp only [result] at ended
      simpa only [Program.succeeds, result, if_true] using ended
  | error error =>
      simp only [result] at ended
      cases outcome : handled error <;>
        simpa [Program.succeeds, result, outcome] using ended

theorem exactly (triple : Triple sound pre program post raised) {state : State} (before : pre state) :
    Triple sound (fun other => other = state) program
      (fun value after => post value after ∧ (program state).result = .ok value ∧
        (program state).state = after)
      (fun after => raised after ∧ ∃ error, (program state).result = .error error) := by
  rintro _ rfl events
  have ended := triple _ before events
  cases result : (program _).result with
  | ok value =>
      rw [result] at ended
      exact ⟨ended, rfl, rfl⟩
  | error error =>
      rw [result] at ended
      exact ⟨ended, error, rfl⟩

theorem final {state : State} :
    Triple sound (fun other => other = state) program (fun _ after => after = (program state).state)
      (fun after => after = (program state).state) := by
  rintro _ rfl _
  cases (program _).result <;> rfl

theorem ends (triple : Triple (fun _ => True) pre program post raised) {state : State}
    (before : pre state) :
    match (program state).result with
    | .ok value => post value (program state).state
    | .error _ => raised (program state).state :=
  triple state before fun _ _ => trivial

theorem when {condition : Bool} {program : Program State Event Error Unit}
    {post : Unit → State → Prop}
    (run : condition = true → Triple sound pre program post raised)
    (skip : condition = false → ∀ state, pre state → post () state) :
    Triple sound pre (program.when condition) post raised := by
  cases condition with
  | true => exact run rfl
  | false => exact pure (skip rfl)

theorem forEach {items : List α} {body : α → Program State Event Error Unit} {invariant : State → Prop}
    (preserves : ∀ item ∈ items,
      Triple sound invariant (body item) (fun _ => invariant) raised) :
    Triple sound invariant (Program.forEach items body) (fun _ => invariant) raised := by
  induction items with
  | nil => exact pure fun _ holds => holds
  | cons item rest ih =>
      exact bind (preserves item (by simp)) fun _ => ih fun other member => preserves other (by simp [member])

end Triple

/-! The errors that a computation without a state can end with. What it calls only fails with errors that
are allowed, so the whole does. -/

section

variable {allowed : Error → Prop}

def FailsOnly (allowed : Error → Prop) (result : Except Error α) : Prop :=
  ∀ error, result = .error error → allowed error

theorem failsOnly_ok (value : α) : FailsOnly allowed (.ok value : Except Error α) :=
  fun _ failed => nomatch failed

theorem failsOnly_error {error : Error} (isAllowed : allowed error) :
    FailsOnly allowed (.error error : Except Error α) := by
  intro other same
  obtain rfl := Except.error.inj same
  exact isAllowed

theorem FailsOnly.bind {first : Except Error α} {next : α → Except Error β} (start : FailsOnly allowed first)
    (later : ∀ value, first = .ok value → FailsOnly allowed (next value)) :
    FailsOnly allowed (first >>= next) := by
  cases first with
  | error error => exact failsOnly_error (start error rfl)
  | ok value => exact later value rfl

theorem FailsOnly.map {first : Except Error α} (start : FailsOnly allowed first) (result : α → β) :
    FailsOnly allowed (first >>= fun value => pure (result value)) :=
  start.bind fun value _ => failsOnly_ok (result value)

theorem FailsOnly.ite {condition : Prop} [Decidable condition] {first second : Except Error α}
    (whenTrue : FailsOnly allowed first) (whenFalse : FailsOnly allowed second) :
    FailsOnly allowed (if condition then first else second) := by
  split
  · exact whenTrue
  · exact whenFalse

theorem FailsOnly.mono {other : Error → Prop} {result : Except Error α} (fails : FailsOnly allowed result)
    (weaker : ∀ error, allowed error → other error) : FailsOnly other result :=
  fun error failed => weaker error (fails error failed)

end

end Effects
