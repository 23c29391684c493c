import Korserver.AttemptLimit
import Korserver.Interleavings
import Korserver.LoginLimitCore
import Korserver.Runs
import Mathlib.Tactic.NormNum

/-!
How many wrong passwords and one-time codes are compared in five minutes.
-/

namespace Korserver

open AttemptLimit Interleavings PythonValue Runs

inductive Underway
  | admitted
  | wrong
  | right
  deriving DecidableEq

def LoginStage.underway : LoginStage → Option (LoginStep × Underway)
  | .admitted step _ => some (step, .admitted)
  | .evaluated step false _ => some (step, .wrong)
  | .evaluated step true _ => some (step, .right)
  | _ => none

def isUnderway (source : String) (kind : Underway) (attempt : LoginRequest × LoginStage) : Bool :=
  match attempt.2.underway with
  | some (step, found) => decide (attempt.1.source step = source) && decide (found = kind)
  | none => false

def LoginRace.underway (race : LoginRace) (source : String) (kind : Underway) : Nat :=
  race.attempts.countP (isUnderway source kind)

def LoginRace.view (race : LoginRace) (source : String) : Attempts ℚ where
  failures := race.registry.failures source
  admitted := race.underway source .admitted
  wrong := race.underway source .wrong
  right := race.underway source .right
  evaluations := (race.evaluations.filter fun evaluation => evaluation.source == source).map
    fun evaluation => (evaluation.time, evaluation.isRight)

def admissionEvent (registry : AuthSessionRegistry) (request : LoginRequest) (turn : LoginTurn)
    (step : LoginStep) : Event ℚ :=
  if (registry.loginAllowed (request.source step) turn.now).1 then .accept turn.now else .refuse turn.now

def loginEvent (checks : AdminChecks) (registry : AuthSessionRegistry) (request : LoginRequest)
    (turn : LoginTurn) : LoginStage → Option (LoginStep × Event ℚ)
  | .called =>
      if turn.web.passwordConfigured then
        some (.password, admissionEvent registry request turn .password)
      else none
  | .admitted step web =>
      match verdict checks request turn web step with
      | .ok isRight => some (step, .evaluate turn.now isRight)
      | .error _ => some (step, .raise turn.now)
  | .evaluated step false _ => some (step, .record turn.now)
  | .evaluated step true time => some (step, .clear turn.now time)
  | .passwordAccepted =>
      if turn.web.adminTotpEnabled && request.givenCode.isSome then
        some (.totp, admissionEvent registry request turn .totp)
      else none
  | _ => none

def LoginRace.event (checks : AdminChecks) (race : LoginRace) (turn : LoginTurn) :
    Option (String × Event ℚ) := do
  let (request, stage) ← race.attempts[turn.request]?
  let (step, event) ← loginEvent checks race.registry request turn stage
  return (request.source step, event)

/-- A request is let through only while the failures that count and the comparisons under way from
its source are fewer than the limit, no comparison raises, and a success clears no failure that
was recorded after its comparison. -/
def OrderlyLogin (checks : AdminChecks) (race : LoginRace) (turn : LoginTurn) : Prop :=
  ∀ taken ∈ race.event checks turn, (race.view taken.1).Orderly 5 300 taken.2

instance (checks : AdminChecks) (race : LoginRace) (turn : LoginTurn) :
    Decidable (OrderlyLogin checks race turn) :=
  inferInstanceAs (Decidable (∀ taken ∈ race.event checks turn, _))

/-- In five minutes without a success of a source at most five comparisons were made for it. -/
def BruteForceLimited (race : LoginRace) : Prop :=
  ∀ source start,
    (∀ evaluation ∈ race.evaluations, evaluation.source = source → start ≤ evaluation.time →
      evaluation.time ≤ start + 300 → evaluation.isRight = false) →
    (race.evaluations.filter fun evaluation =>
      decide (evaluation.source = source ∧ start ≤ evaluation.time ∧
        evaluation.time ≤ start + 300)).length ≤ 5

/-! A step of a login is a step of the limit. -/

section

variable {checks : AdminChecks} {race : LoginRace} {turn : LoginTurn} {request : LoginRequest}
  {stage : LoginStage} {source : String}

theorem view_set (found : race.attempts[turn.request]? = some (request, stage)) :
    (race.step checks turn).view source =
      { failures := (loginTurn checks race.registry request turn stage).1.failures source
        admitted := race.underway source .admitted -
            (if isUnderway source .admitted (request, stage) then 1 else 0) +
          (if isUnderway source .admitted
            (request, (loginTurn checks race.registry request turn stage).2) then 1 else 0)
        wrong := race.underway source .wrong -
            (if isUnderway source .wrong (request, stage) then 1 else 0) +
          (if isUnderway source .wrong
            (request, (loginTurn checks race.registry request turn stage).2) then 1 else 0)
        right := race.underway source .right -
            (if isUnderway source .right (request, stage) then 1 else 0) +
          (if isUnderway source .right
            (request, (loginTurn checks race.registry request turn stage).2) then 1 else 0)
        evaluations := ((evaluationOf checks request turn stage ++ race.evaluations).filter
          fun evaluation => evaluation.source == source).map
            fun evaluation => (evaluation.time, evaluation.isRight) } := by
  simp only [LoginRace.step, found, LoginRace.view, LoginRace.underway, countP_set_of_getElem? found]

theorem loginAllowed_failures (registry : AuthSessionRegistry) (source : String) (now : ℚ) :
    (registry.loginAllowed source now).2.failures =
      Function.update registry.failures source (counted 300 now (registry.failures source)) := rfl

theorem admission_registry (registry : AuthSessionRegistry) (request : LoginRequest)
    (turn : LoginTurn) (step : LoginStep) :
    (admission registry request turn step).1 =
      (registry.loginAllowed (request.source step) turn.now).2 := by
  simp only [admission]
  split <;> rfl

theorem admission_stage (registry : AuthSessionRegistry) (request : LoginRequest)
    (turn : LoginTurn) (step : LoginStep) :
    (admission registry request turn step).2 =
      if (registry.loginAllowed (request.source step) turn.now).1 then .admitted step turn.web
      else .failed (.http 429 "too many failed login attempts") := by
  simp only [admission]
  split <;> rfl

theorem view_admission (found : race.attempts[turn.request]? = some (request, stage))
    (idle : stage.underway = none) (unevaluated : evaluationOf checks request turn stage = [])
    {step : LoginStep}
    (checked : loginTurn checks race.registry request turn stage =
      admission race.registry request turn step) :
    (race.step checks turn).view source =
      if request.source step = source then
        (race.view source).step 300 (admissionEvent race.registry request turn step)
      else race.view source := by
  have idleFor (kind : Underway) : isUnderway source kind (request, stage) = false := by
    simp only [isUnderway, idle]
  simp only [view_set found, checked, unevaluated, admission_registry, admission_stage,
    loginAllowed_failures, admissionEvent, idleFor]
  by_cases same : request.source step = source
  · subst source
    cases (race.registry.loginAllowed (request.source step) turn.now).1 <;>
      simp [isUnderway, LoginStage.underway, Attempts.step, LoginRace.view]
  · cases (race.registry.loginAllowed (request.source step) turn.now).1 <;>
      simp [isUnderway, LoginStage.underway, LoginRace.view, same, Ne.symm same]

theorem view_step (found : race.attempts[turn.request]? = some (request, stage)) :
    (race.step checks turn).view source =
      match loginEvent checks race.registry request turn stage with
      | some (step, event) =>
          if request.source step = source then (race.view source).step 300 event else race.view source
      | none => race.view source := by
  cases stage with
  | called =>
      by_cases configured : turn.web.passwordConfigured = true
      · simp only [loginEvent, configured, if_true]
        exact view_admission found rfl rfl (by simp [loginTurn, configured])
      · rw [view_set found]
        simp [loginEvent, loginTurn, configured, isUnderway, LoginStage.underway, evaluationOf, LoginRace.view]
  | admitted step web =>
      rw [view_set found]
      by_cases same : request.source step = source
      · subst source
        cases compared : verdict checks request turn web step with
        | ok isRight =>
            cases isRight <;>
              simp [loginEvent, loginTurn, compared, isUnderway, LoginStage.underway, evaluationOf,
                LoginRace.view, Attempts.step, Evaluation.isRight]
        | error error =>
            simp [loginEvent, loginTurn, compared, isUnderway, LoginStage.underway, evaluationOf,
              LoginRace.view, Attempts.step, Evaluation.isRight]
      · cases compared : verdict checks request turn web step with
        | ok isRight =>
            cases isRight <;>
              simp [loginEvent, loginTurn, compared, isUnderway, LoginStage.underway, evaluationOf,
                LoginRace.view, same]
        | error error =>
            simp [loginEvent, loginTurn, compared, isUnderway, LoginStage.underway, evaluationOf,
              LoginRace.view, same]
  | evaluated step isRight time =>
      rw [view_set found]
      by_cases same : request.source step = source
      · subst source
        cases isRight <;> cases step <;>
          simp [loginEvent, loginTurn, isUnderway, LoginStage.underway, evaluationOf, LoginRace.view,
            Attempts.step, AuthSessionRegistry.recordFailure, AuthSessionRegistry.clearFailures]
      · cases isRight <;> cases step <;>
          simp [loginEvent, loginTurn, isUnderway, LoginStage.underway, evaluationOf, LoginRace.view,
            AuthSessionRegistry.recordFailure, AuthSessionRegistry.clearFailures, same, Ne.symm same]
  | passwordAccepted =>
      by_cases checked : (turn.web.adminTotpEnabled && request.givenCode.isSome) = true
      · simp only [loginEvent, checked, if_true]
        refine view_admission found rfl rfl ?_
        simp only [Bool.and_eq_true] at checked
        simp [loginTurn, checked.1, Option.isSome_iff_ne_none.mp checked.2]
      · rw [view_set found]
        simp only [loginEvent, checked]
        by_cases enabled : turn.web.adminTotpEnabled = true
        · have missing : request.givenCode.isNone = true := by simpa [enabled] using checked
          simp [loginTurn, enabled, missing, isUnderway, LoginStage.underway, evaluationOf, LoginRace.view]
        · simp [loginTurn, enabled, isUnderway, LoginStage.underway, evaluationOf, LoginRace.view]
  | authenticated =>
      rw [view_set found]
      simp [loginEvent, loginTurn, isUnderway, LoginStage.underway, evaluationOf, LoginRace.view]
  | failed error =>
      rw [view_set found]
      simp [loginEvent, loginTurn, isUnderway, LoginStage.underway, evaluationOf, LoginRace.view]

theorem loginEvent_time {step : LoginStep} {event : Event ℚ}
    (taken : loginEvent checks race.registry request turn stage = some (step, event)) :
    event.time = turn.now := by
  have admission (step : LoginStep) :
      (admissionEvent race.registry request turn step).time = turn.now := by
    rw [admissionEvent]
    split <;> rfl
  revert taken
  fun_cases loginEvent checks race.registry request turn stage <;> intro taken <;> cases taken
  all_goals first | rfl | exact admission _

/-- What a login remembers of a comparison that was right is in the log. -/
def Logged (race : LoginRace) : Prop :=
  ∀ request step time, (request, LoginStage.evaluated step true time) ∈ race.attempts →
    ∃ evaluation ∈ race.evaluations, evaluation.source = request.source step ∧
      evaluation.time = time ∧ evaluation.isRight = true

theorem evaluated_of_loginTurn {step : LoginStep} {time : ℚ}
    (evaluated : (loginTurn checks race.registry request turn stage).2 = .evaluated step true time) :
    ∃ evaluation ∈ evaluationOf checks request turn stage, evaluation.source = request.source step ∧
      evaluation.time = time ∧ evaluation.isRight = true := by
  have notAdmission (step' : LoginStep) :
      (admission race.registry request turn step').2 ≠ .evaluated step true time := by
    rw [admission_stage]
    split <;> simp
  cases stage with
  | called =>
      simp only [loginTurn] at evaluated
      split at evaluated
      · exact absurd evaluated (notAdmission .password)
      · cases evaluated
  | admitted step' web =>
      simp only [loginTurn] at evaluated
      split at evaluated
      · rename_i compared
        cases evaluated
        refine ⟨_, List.mem_singleton_self _, rfl, rfl, ?_⟩
        simp only [Evaluation.isRight, compared]
      · cases evaluated
  | evaluated step' isRight time' => cases isRight <;> cases step' <;> cases evaluated
  | passwordAccepted =>
      simp only [loginTurn] at evaluated
      split at evaluated
      · split at evaluated
        · cases evaluated
        · exact absurd evaluated (notAdmission .totp)
      · cases evaluated
  | authenticated => cases evaluated
  | failed error => cases evaluated

theorem Logged.step (logged : Logged race) (turn : LoginTurn) : Logged (race.step checks turn) := by
  cases found : race.attempts[turn.request]? with
  | none => simpa only [LoginRace.step, found] using logged
  | some attempt =>
      obtain ⟨request, stage⟩ := attempt
      intro other step time member
      simp only [LoginRace.step, found] at member ⊢
      rcases List.mem_or_eq_of_mem_set member with old | new
      · obtain ⟨evaluation, inLog, facts⟩ := logged other step time old
        exact ⟨evaluation, List.mem_append_right _ inLog, facts⟩
      · obtain ⟨rfl, evaluated⟩ := Prod.mk.inj new
        obtain ⟨evaluation, made, facts⟩ := evaluated_of_loginTurn evaluated.symm
        exact ⟨evaluation, List.mem_append_left _ made, facts⟩

theorem possible_of_logged (logged : Logged race)
    (found : race.attempts[turn.request]? = some (request, stage)) {step : LoginStep} {event : Event ℚ}
    (taken : loginEvent checks race.registry request turn stage = some (step, event)) :
    Attempts.Possible (race.view (request.source step)) event := by
  have underway {kind : Underway} (here : stage.underway = some (step, kind)) :
      0 < race.underway (request.source step) kind := by
    refine countP_pos_of_getElem? found ?_
    simp [isUnderway, here]
  have admission (step' : LoginStep) (view : Attempts ℚ) :
      view.Possible (admissionEvent race.registry request turn step') := by
    rw [admissionEvent]
    split <;> trivial
  revert taken
  fun_cases loginEvent checks race.registry request turn stage <;> intro taken <;> cases taken
  case case1 => exact admission _ _
  case case3 => exact underway rfl
  case case4 => exact underway rfl
  case case5 => exact underway rfl
  case case6 time =>
      refine ⟨underway rfl, ?_⟩
      obtain ⟨evaluation, inLog, sameSource, rfl, isRight⟩ :=
        logged request step time (List.mem_of_getElem? found)
      refine List.mem_map.mpr ⟨evaluation, ?_, by rw [isRight]⟩
      exact List.mem_filter.mpr ⟨inLog, by simpa using sameSource⟩
  case case7 => exact admission _ _

theorem bounded_step {start now : ℚ} (logged : Logged race)
    (orderly : OrderlyLogin checks race turn) (later : now ≤ turn.now)
    (bounded : Attempts.Bounded 5 300 start (race.view source) now) :
    Attempts.Bounded 5 300 start ((race.step checks turn).view source) turn.now := by
  cases found : race.attempts[turn.request]? with
  | none => simpa only [LoginRace.step, found] using bounded.later later
  | some attempt =>
      obtain ⟨request, stage⟩ := attempt
      rw [view_step found]
      cases taken : loginEvent checks race.registry request turn stage with
      | none => exact bounded.later later
      | some taking =>
          obtain ⟨step, event⟩ := taking
          by_cases same : request.source step = source
          · subst source
            simp only [if_true]
            have time := loginEvent_time taken
            rw [← time] at later ⊢
            exact bounded.step later (possible_of_logged logged found taken)
              (orderly (request.source step, event) (by simp [LoginRace.event, found, taken]))
          · simpa only [same, if_false] using bounded.later later

theorem bounded_run {start now : ℚ} {turns : List LoginTurn} (logged : Logged race)
    (clock : (turns.map LoginTurn.now).Pairwise (· ≤ ·)) (later : ∀ turn ∈ turns, now ≤ turn.now)
    (orderly : Throughout (LoginRace.step checks) (OrderlyLogin checks) race turns)
    (bounded : Attempts.Bounded 5 300 start (race.view source) now) :
    ∃ final, Attempts.Bounded 5 300 start ((run (LoginRace.step checks) race turns).view source) final := by
  induction turns generalizing race now with
  | nil => exact ⟨now, bounded⟩
  | cons turn rest ih =>
      obtain ⟨first, others⟩ := orderly
      rw [List.map_cons, List.pairwise_cons] at clock
      refine ih (logged.step turn) clock.2 ?_ others
        (bounded_step logged first (later turn List.mem_cons_self) bounded)
      intro other member
      exact clock.1 _ (List.mem_map_of_mem member)

end

theorem bruteForceLimited_of_view {race : LoginRace}
    (limited : ∀ source, (race.view source).Limited 5 300) : BruteForceLimited race := by
  intro source start success
  have bound := limited source start (by
    intro evaluation member inside
    obtain ⟨logged, inLog, rfl⟩ := List.mem_map.mp member
    obtain ⟨inLog, sameSource⟩ := List.mem_filter.mp inLog
    simp only [Attempts.within, Bool.and_eq_true, decide_eq_true_eq] at inside
    exact success logged inLog (by simpa using sameSource) inside.1 inside.2)
  refine le_trans (le_of_eq ?_) bound
  rw [Attempts.evaluatedWithin, LoginRace.view, List.countP_map, List.countP_filter,
    ← List.countP_eq_length_filter]
  refine List.countP_congr fun evaluation _ => ?_
  simp [Attempts.within, and_comm]

/-- In a run of orderly steps of any number of logins, whatever the order, guesses stay limited. -/
theorem loginLimit (checks : AdminChecks) (requests : List LoginRequest) (turns : List LoginTurn)
    (clock : (turns.map LoginTurn.now).Pairwise (· ≤ ·))
    (orderly : Throughout (LoginRace.step checks) (OrderlyLogin checks) (loginStart requests) turns) :
    BruteForceLimited (run (LoginRace.step checks) (loginStart requests) turns) := by
  refine bruteForceLimited_of_view fun source start success => ?_
  have logged : Logged (loginStart requests) := by
    intro request step time member
    obtain ⟨_, _, same⟩ := List.mem_map.mp member
    cases same
  obtain ⟨first, earliest⟩ : ∃ first, ∀ turn ∈ turns, first ≤ turn.now := by
    cases turns with
    | nil => exact ⟨0, by simp⟩
    | cons turn rest =>
        rw [List.map_cons, List.pairwise_cons] at clock
        refine ⟨turn.now, List.forall_mem_cons.mpr ⟨le_rfl, fun other member => ?_⟩⟩
        exact clock.1 _ (List.mem_map_of_mem member)
  have idle : (loginStart requests).view source = {} := by
    simp [LoginRace.view, LoginRace.underway, loginStart, List.countP_eq_zero, isUnderway,
      LoginStage.underway]
  have initial : Attempts.Bounded 5 300 start ((loginStart requests).view source) first :=
    idle ▸ Attempts.Bounded.initial 5 300 start first
  obtain ⟨final, bounded⟩ := bounded_run logged clock earliest orderly initial
  exact bounded.few success

def guessedWeb : WebConfig := { adminPassword := some "secret" }

def guess (host : String) (number : Nat) : LoginRequest :=
  { host, username := "admin", password := toString number }

def guessChecks : AdminChecks :=
  { verifyPassword := fun password hash => password == hash, verifyCode := fun _ _ _ => .ok false }

def guessTurn (now : ℚ) (request : Nat) : LoginTurn := { request, now, web := guessedWeb }

def overlappingGuesses : List LoginTurn :=
  (List.range 6).map (guessTurn 0) ++ (List.range 6).map (guessTurn 1)

theorem overlappingGuesses_exceed :
    ¬∀ (checks : AdminChecks) (requests : List LoginRequest) (turns : List LoginTurn),
      (turns.map LoginTurn.now).Pairwise (· ≤ ·) →
        BruteForceLimited (run (LoginRace.step checks) (loginStart requests) turns) := by
  intro limited
  have bound := limited guessChecks ((List.range 6).map (guess "192.0.2.1")) overlappingGuesses
    (by decide) "192.0.2.1" 0
  revert bound
  decide +kernel

def separateGuesses : List LoginTurn :=
  [guessTurn 0 0, guessTurn 1 0, guessTurn 2 0, guessTurn 3 1, guessTurn 4 1, guessTurn 5 1]

theorem loginLimit_sample :
    BruteForceLimited (run (LoginRace.step guessChecks)
      (loginStart [guess "192.0.2.1" 1, guess "192.0.2.1" 2]) separateGuesses) := by
  refine loginLimit guessChecks _ separateGuesses (by decide) ?_
  refine ⟨?_, ?_, ?_, ?_, ?_, ?_, trivial⟩ <;> decide +kernel

end Korserver
