import Korserver.ActiveInterface
import Korserver.Marker
import Mathlib.Data.List.Rotate

/-!
`recover`: the search for a profile that is up or can be dialed, in cyclic list order from the
active one, and what is selected afterwards.
-/

namespace Korserver

open PythonText PythonValue Effects

/-- A search through an order of names: which dials it attempts, which of them return, and where
it stops. The active profile is dialed anew even if it is up. -/
inductive Search (active : Option String) (up : String → Bool) :
    List String → List String → List String → Option String → Prop
  | exhausted : Search active up [] [] [] none
  | missed {name rest attempts reached stop} : (some name = active ∨ up name = false) →
      Search active up rest attempts reached stop →
      Search active up (name :: rest) (name :: attempts) reached stop
  | adopted {name rest} : some name ≠ active → up name = true →
      Search active up (name :: rest) [] [] (some name)
  | dialed {name rest} : (some name = active ∨ up name = false) →
      Search active up (name :: rest) [name] [name] (some name)

section Searches

variable {active : Option String} {up up' : String → Bool} {order attempts reached : List String}
  {stop stop' : Option String}

theorem Search.congr (search : Search active up order attempts reached stop)
    (same : ∀ name ∈ order, up' name = up name) : Search active up' order attempts reached stop := by
  induction search with
  | exhausted => exact .exhausted
  | missed tries _ ih =>
      refine .missed (by rwa [same _ (by simp)]) (ih fun name member => same name ?_)
      exact List.mem_cons_of_mem _ member
  | adopted other adopted => exact .adopted other (by rwa [same _ (by simp)])
  | dialed tries => exact .dialed (by rwa [same _ (by simp)])

theorem Search.attempts_front (search : Search active up order attempts reached stop) : attempts <+: order := by
  induction search with
  | exhausted => exact List.nil_prefix
  | missed _ _ ih => exact (List.prefix_cons_inj _).mpr ih
  | adopted _ _ => exact List.nil_prefix
  | dialed _ => exact (List.prefix_cons_inj _).mpr List.nil_prefix

theorem Search.reached_nil (search : Search active up order [] reached stop) : reached = [] := by
  cases search <;> rfl

theorem Search.stop_unique (search : Search active up order attempts reached stop)
    (other : Search active up order attempts reached stop') : stop = stop' := by
  induction search with
  | exhausted =>
      cases other
      rfl
  | missed _ first ih =>
      cases other with
      | missed _ second => exact ih second
      | dialed _ => exact absurd first.reached_nil (by simp)
  | adopted _ _ =>
      cases other
      rfl
  | dialed _ =>
      cases other with
      | missed _ second => exact absurd second.reached_nil (by simp)
      | dialed _ => rfl

theorem Search.stop_member {name : String}
    (search : Search active up order attempts reached (some name)) : name ∈ order := by
  generalize same : some name = stop at search
  induction search with
  | exhausted => simp at same
  | missed _ _ ih => exact List.mem_cons_of_mem _ (ih same)
  | adopted _ _ =>
      obtain rfl := Option.some.inj same
      simp
  | dialed _ =>
      obtain rfl := Option.some.inj same
      simp

end Searches

/-- A profile was dialed: the marker and the other connections are as before. -/
structure Tried (links : Connections) (name : String) (after : Connections) : Prop where
  marker : after.marker = links.marker
  attempts : after.attempts = links.attempts ++ [name]
  others : ∀ other, other ≠ name → after.connected other = links.connected other

inductive Turn (active : Option String) (links : Connections) (name : String) (after : Connections) :
    Bool → Prop
  | adopted : some name ≠ active → links.connected name = true → after = links →
      Turn active links name after true
  | dialed : (some name = active ∨ links.connected name = false) → Tried links name after →
      after.reached = links.reached ++ [name] → after.connected name = true →
      Turn active links name after true
  | missed : (some name = active ∨ links.connected name = false) → Tried links name after →
      after.reached = links.reached → Turn active links name after false

section

variable {config : AppConfig} {env : Environment} {links : Connections}
  (facts : config.Facts) {profile : UpstreamProfileConfig}
  (member : profile ∈ config.upstream.profiles)

include facts member

theorem tryConnect_turn {active : Option String} {start : Connections}
    (tries : some profile.name = active ∨ links.connected profile.name = false)
    (down : start.connected profile.name = false) (marker : start.marker = links.marker)
    (attempts : start.attempts = links.attempts) (reached : start.reached = links.reached)
    (others : ∀ name, name ≠ profile.name → start.connected name = links.connected name) :
    Triple (fun _ => True) (From start) (tryConnect config env profile.name)
      (fun found state => Turn active links profile.name state.connections found)
      (fun state => Tried links profile.name state.connections) := by
  have attempt : Triple _ _ (tryConnect config env profile.name) _ _ :=
    (connect_connections facts member down).attempt
  have tried {after : Connections} (same : after = start.attempt profile.name ∨
      after = (start.attempt profile.name).bringUp profile.name ∨
      after = ((start.attempt profile.name).bringUp profile.name).reach profile.name) :
      Tried links profile.name after := by
    rcases same with rfl | rfl | rfl
    · exact ⟨marker, by simp [Connections.attempt, attempts], others⟩
    · exact ⟨marker, by simp [Connections.attempt, Connections.bringUp, attempts],
        fun name other => (Function.update_of_ne other _ _).trans (others name other)⟩
    · exact ⟨marker, by simp [Connections.attempt, Connections.bringUp, Connections.reach, attempts],
        fun name other => (Function.update_of_ne other _ _).trans (others name other)⟩
  refine (attempt.weaken (fun _ => id) ?_).relax ?_
  · intro found state ended
    cases found with
    | true =>
        simp only [if_true] at ended
        refine .dialed tries (tried (Or.inr (Or.inr ended))) ?_ ?_
        · rw [ended]
          simp [Connections.attempt, Connections.bringUp, Connections.reach, reached]
        · rw [ended]
          simp [Connections.bringUp, Connections.reach]
    | false =>
        simp only [Bool.false_eq_true, if_false] at ended
        rcases ended with same | up
        · refine .missed tries (tried (Or.inl same)) ?_
          rw [same]
          exact reached
        · refine .missed tries (tried (Or.inr (Or.inl up))) ?_
          rw [up]
          exact reached
  · rintro state (same | up)
    · exact tried (Or.inl same)
    · exact tried (Or.inr (Or.inl up))

theorem reach_turn (active : Option String) :
    Triple (fun _ => True) (From links) (reach config env (some profile.name = active) profile)
      (fun found state => Turn active links profile.name state.connections found)
      (fun state => From (links.bringDown profile.name) state ∨
        Tried links profile.name state.connections) := by
  unfold reach
  split
  · rename_i current
    have tries : some profile.name = active ∨ links.connected profile.name = false :=
      Or.inl (by simpa using current)
    refine Triple.bind Triple.read fun connected => ?_
    refine Triple.bind (?_ : Triple _ _ _ (fun _ state => state.connections.connected profile.name = false ∧
      (From links state ∨ From (links.bringDown profile.name) state)) _) fun _ => ?_
    · refine Triple.when ?_ ?_
      · intro _
        exact ((disconnect_connections facts member _).weaken (fun _ holds => holds.1)
          fun _ _ => id).relax fun _ => Or.inl
      · rintro down state ⟨before, same⟩
        exact ⟨same.symm.trans down, Or.inl before⟩
    · rintro state ⟨down, from'⟩ events
      have redialed : Triple (fun _ => True) (From state.connections)
          (tryConnect config env profile.name)
          (fun found after => Turn active links profile.name after.connections found)
          (fun after => Tried links profile.name after.connections) := by
        rcases from' with same | same
        · rw [same] at down ⊢
          exact tryConnect_turn facts member tries down rfl rfl rfl fun _ _ => rfl
        · rw [same] at down ⊢
          exact tryConnect_turn facts member tries down rfl rfl rfl
            fun name other => Function.update_of_ne other _ _
      exact (redialed.relax fun _ => Or.inr) state rfl events
  · rename_i standby
    have other : some profile.name ≠ active := by simpa using standby
    refine Triple.bind Triple.read fun connected => ?_
    cases connected with
    | true =>
        refine Triple.pure ?_
        rintro state ⟨before, same⟩
        have up : links.connected profile.name = true := by
          rw [← before]
          exact same.symm
        exact .adopted other up before
    | false =>
        rintro state ⟨before, same⟩ events
        have down : links.connected profile.name = false := by
          rw [← before]
          exact same.symm
        have dialed := @tryConnect_turn config env links facts profile member active links (Or.inr down)
          down rfl rfl rfl fun _ _ => rfl
        exact (dialed.relax fun _ => Or.inr) state before events

end

/-- The first name of an order whose profile is up or can be dialed, and the state in which it
was found so. -/
def firstReachable (config : AppConfig) (env : Environment) (active : Option String) :
    List String → Runtime → Option (String × Runtime)
  | [], _ => none
  | name :: rest, state =>
      let outcome := (profileByName config name >>= reach config env (some name = active)) state
      match outcome.result with
      | .ok true => some (name, outcome.state)
      | .ok false => firstReachable config env active rest outcome.state
      | .error _ => none

/-- How a search through an order ends, with `first` the first reachable name. -/
structure SearchEnds (config : AppConfig) (env : Environment) (active : Option String)
    (links : Connections) (order attempts reached : List String) (first : Option (String × Runtime))
    (found : Bool) (after : Connections) : Prop where
  search : Search active links.connected order attempts reached (first.map (·.1))
  attempts : after.attempts = links.attempts ++ attempts
  reached : after.reached = links.reached ++ reached
  stopped : found = true → ∃ name state, first = some (name, state) ∧ after.connected name = true ∧
    after.marker = (if some name = active then links.marker else markerOf name) ∧
    (some name ≠ active → (switchProfile config env name state).result = .ok ())
  exhausted : found = false → first = none ∧ after.marker = links.marker
  others : ∀ name, name ∉ order → after.connected name = links.connected name

def Searched (config : AppConfig) (env : Environment) (active : Option String) (links : Connections)
    (order : List String) (first : Option (String × Runtime)) (found : Bool) (after : Connections) :
    Prop :=
  ∃ attempts reached, SearchEnds config env active links order attempts reached first found after

/-- The search was broken off by a raise. A reachable profile that was found could not be switched
to. -/
def BrokenOff (config : AppConfig) (env : Environment) (active : Option String) (links : Connections)
    (order : List String) (first : Option (String × Runtime)) (after : Runtime) : Prop :=
  (∃ tried, tried <+: order ∧ after.attempts = links.attempts ++ tried) ∧
    (∀ name, name ∉ order → after.connected name = links.connected name) ∧
    ∀ name state, first = some (name, state) →
      some name ≠ active ∧ (switchProfile config env name state).result ≠ .ok ()

section

variable {config : AppConfig} {env : Environment}

theorem stopHere (facts : config.Facts) {profile : UpstreamProfileConfig}
    (member : profile ∈ config.upstream.profiles) (active : Option String) (rest : List String)
    (links : Connections) (state : Runtime)
    (turn : Turn active links profile.name state.connections true) :
    Triple (fun _ => True) (fun other => other = state)
      (do
        Program.when (some profile.name ≠ active) (switchProfile config env profile.name)
        pure true : Service Bool)
      (fun found after => Searched config env active links (profile.name :: rest)
        (some (profile.name, state)) found after.connections)
      (BrokenOff config env active links (profile.name :: rest) (some (profile.name, state))) := by
  have others : ∀ name, name ∉ profile.name :: rest →
      state.connections.connected name = links.connected name := by
    intro name notIn
    have differs : name ≠ profile.name := fun same => notIn (by simp [same])
    cases turn with
    | adopted _ _ whole => rw [whole]
    | dialed _ tried _ _ => exact tried.others name differs
  have switched : Triple (fun _ => True) (fun other => other = state)
      (Program.when (some profile.name ≠ active) (switchProfile config env profile.name))
      (fun _ after => From { state.connections with
          marker := if some profile.name = active then state.marker else markerOf profile.name } after ∧
        (some profile.name ≠ active → (switchProfile config env profile.name state).result = .ok ()))
      (fun after => From { state.connections with marker := markerOf profile.name } after ∧
        some profile.name ≠ active ∧ (switchProfile config env profile.name state).result ≠ .ok ()) := by
    refine Triple.when ?_ ?_
    · intro other
      have standby : some profile.name ≠ active := by simpa using other
      rw [if_neg standby]
      have exact := (@switchProfile_connections config env state.connections facts profile
        member).exactly (rfl : From state.connections state)
      refine (exact.weaken (fun _ => id) fun _ _ ended => ⟨ended.1, fun _ => ended.2.1⟩).relax ?_
      rintro after ⟨same, error, failed⟩
      exact ⟨same, standby, by simp [failed]⟩
    · rintro same after rfl
      have current : some profile.name = active := by simpa using same
      rw [if_pos current]
      exact ⟨rfl, fun other => absurd current other⟩
  refine Triple.bind (switched.relax ?_) fun _ => Triple.pure ?_
  · rintro after ⟨same, other, failed⟩
    refine ⟨?_, fun name notIn => ?_, ?_⟩
    · have attempts : after.attempts = state.attempts := congrArg Connections.attempts same
      rw [attempts]
      cases turn with
      | adopted _ _ whole =>
          exact ⟨[], List.nil_prefix, (congrArg Connections.attempts whole).trans (List.append_nil _).symm⟩
      | dialed _ tried _ _ =>
          exact ⟨[profile.name], (List.prefix_cons_inj _).mpr List.nil_prefix, tried.attempts⟩
    · exact (congrFun (congrArg Connections.connected same) name).trans (others name notIn)
    · rintro name found ⟨⟩
      exact ⟨other, failed⟩
  · rintro after ⟨same, switches⟩
    rw [same]
    cases turn with
    | adopted other up whole =>
        have marker : state.marker = links.marker := congrArg Connections.marker whole
        refine ⟨[], [], .adopted other up, by simp [whole], by simp [whole], ?_, by simp, others⟩
        exact fun _ => ⟨profile.name, state, rfl, by rw [whole]; exact up, by rw [marker], switches⟩
    | dialed tries tried reached up =>
        have marker : state.marker = links.marker := tried.marker
        refine ⟨[profile.name], [profile.name], .dialed tries, tried.attempts, reached, ?_, by simp, others⟩
        exact fun _ => ⟨profile.name, state, rfl, up, by rw [marker], switches⟩

theorem recoverInOrder_searched (facts : config.Facts) (active : Option String) (order : List String)
    (members : ∀ name ∈ order, ∃ profile ∈ config.upstream.profiles, profile.name = name)
    (distinct : order.Nodup) (state : Runtime) :
    Triple (fun _ => True) (fun other => other = state) (recoverInOrder config env active order)
      (fun found after => Searched config env active state.connections order
        (firstReachable config env active order state) found after.connections)
      (BrokenOff config env active state.connections order
        (firstReachable config env active order state)) := by
  induction order generalizing state with
  | nil =>
      refine Triple.pure ?_
      rintro after rfl
      exact ⟨[], [], .exhausted, by simp, by simp, by simp, by simp [firstReachable], fun _ _ => rfl⟩
  | cons name rest ih =>
      obtain ⟨profile, member, rfl⟩ := members name (by simp)
      rw [List.nodup_cons] at distinct
      have turns := (@reach_turn config env state.connections facts profile member active).exactly
        (rfl : From state.connections state)
      have first : firstReachable config env active (profile.name :: rest) state =
          match (reach config env (some profile.name = active) profile state).result with
          | .ok true => some (profile.name,
              (reach config env (some profile.name = active) profile state).state)
          | .ok false => firstReachable config env active rest
              (reach config env (some profile.name = active) profile state).state
          | .error _ => none := by
        simp only [firstReachable, profileByName_member facts member]
        rfl
      unfold recoverInOrder
      rw [profileByName_member facts member]
      change Triple _ _ (reach config env (some profile.name = active) profile >>= _) _ _
      refine Triple.bind (turns.relax ?_) fun found => ?_
      · rintro after ⟨raised, error, failed⟩
        rw [first, failed]
        refine ⟨?_, fun name notIn => ?_, by simp⟩
        · rcases raised with down | tried
          · exact ⟨[], List.nil_prefix, (congrArg Connections.attempts down).trans (List.append_nil _).symm⟩
          · exact ⟨[profile.name], (List.prefix_cons_inj _).mpr List.nil_prefix, tried.attempts⟩
        · have differs : name ≠ profile.name := fun same => notIn (by simp [same])
          rcases raised with down | tried
          · exact (congrFun (congrArg Connections.connected down) name).trans
              (Function.update_of_ne differs _ _)
          · exact tried.others name differs
      · rintro middle ⟨turn, result, same⟩ events
        rw [first, result, same]
        cases found with
        | true => exact stopHere facts member active rest state.connections middle turn middle rfl events
        | false =>
            cases turn with
            | missed tries tried reached =>
                have kept : ∀ other ∈ rest,
                    state.connections.connected other = middle.connections.connected other := by
                  intro other inRest
                  refine (tried.others other ?_).symm
                  rintro rfl
                  exact distinct.1 inRest
                have others : ∀ name, name ∉ profile.name :: rest →
                    middle.connections.connected name = state.connections.connected name :=
                  fun name notIn => tried.others name fun same => notIn (by simp [same])
                have later := (ih (fun other inRest => members other (List.mem_cons_of_mem _ inRest))
                  distinct.2 middle)
                have extended : Triple (fun _ => True) (fun other => other = middle)
                    (recoverInOrder config env active rest)
                    (fun found after => Searched config env active state.connections
                      (profile.name :: rest) (firstReachable config env active rest middle) found
                      after.connections)
                    (BrokenOff config env active state.connections (profile.name :: rest)
                      (firstReachable config env active rest middle)) := by
                  refine (later.weaken (fun _ => id) ?_).relax ?_
                  · rintro found after ⟨attempts, reaches, ends⟩
                    refine ⟨profile.name :: attempts, reaches, .missed tries (ends.search.congr kept),
                      ?_, by rw [ends.reached, reached], ?_, ?_, fun name notIn => ?_⟩
                    · simp [ends.attempts, tried.attempts]
                    · intro stopped
                      obtain ⟨name, there, first, up, marker, switches⟩ := ends.stopped stopped
                      exact ⟨name, there, first, up, by rw [marker, tried.marker], switches⟩
                    · intro exhausted
                      exact ⟨(ends.exhausted exhausted).1, by
                        rw [(ends.exhausted exhausted).2, tried.marker]⟩
                    · exact (ends.others name fun inRest => notIn (List.mem_cons_of_mem _ inRest)).trans
                        (others name notIn)
                  · rintro after ⟨⟨more, isFront, attempted⟩, same, unswitched⟩
                    refine ⟨⟨profile.name :: more, (List.prefix_cons_inj _).mpr isFront, ?_⟩,
                      fun name notIn => ?_, unswitched⟩
                    · simp [attempted, tried.attempts]
                    · exact (same name fun inRest => notIn (List.mem_cons_of_mem _ inRest)).trans
                        (others name notIn)
                exact extended middle rfl events

end

/-! The order, and the whole call. -/

/-- The order a recovery owes: the active profile, or else the first enabled one, and with failover
the other enabled ones behind it, in list order and around its end. -/
structure FailoverOrder (config : AppConfig) (active : Option UpstreamProfileConfig)
    (order : List String) : Prop where
  first : order.head? = (active.map (·.name)).or (enabledNames config).head?
  cyclic : config.upstream.failover = true → 1 < (enabledNames config).length → enabledNames config ~r order
  single : config.upstream.failover = false ∨ (enabledNames config).length ≤ 1 → order.length ≤ 1

/-- The names `recover` goes through. -/
def searchOrder (config : AppConfig) (active : Option UpstreamProfileConfig) : List String :=
  if enabledNames config = [] then [] else recoverOrder config active

theorem recover_eq {config : AppConfig} {env : Environment} {before : Runtime}
    {active : Option UpstreamProfileConfig} (readable : runtimeProfile config before.marker = .ok active) :
    recover config env before =
      recoverInOrder config env (active.map (·.name)) (searchOrder config active) before := by
  unfold recover searchOrder
  split
  · rfl
  · change Program.andThen (selectedProfile config) _ before = _
    simp only [selectedProfile, Program.andThen, Program.fromExcept, readable, List.nil_append]

theorem runtimeProfile_enabled {config : AppConfig} {marker : TextFile} {profile : UpstreamProfileConfig}
    (selected : runtimeProfile config marker = .ok (some profile)) : profile.enabled = true := by
  obtain ⟨lines, -, selected⟩ := bind_ok.mp selected
  split at selected
  · rename_i marked found
    split at selected
    · rename_i enabled
      obtain rfl := Option.some.inj (pure_ok.mp selected)
      exact enabled
    · exact absurd (pure_ok.mp selected) (by simp)
  · exact (UpstreamConfig.selectedProfile_some (pure_ok.mp selected)).2

theorem rotateLeft_eq_rotate {names : List String} (several : 1 < names.length) (count : ℕ) :
    names.rotateLeft count = names.rotate count := by
  rw [List.rotateLeft, if_neg (by omega), List.rotate_eq_drop_append_take_mod]

section

variable {config : AppConfig} {active : Option UpstreamProfileConfig}

theorem enabledNames_nodup (facts : config.Facts) : (enabledNames config).Nodup :=
  facts.names.sublist (List.filter_sublist.map _)

theorem enabledNames_member {name : String} (member : name ∈ enabledNames config) :
    ∃ profile ∈ config.upstream.profiles, profile.enabled = true ∧ profile.name = name := by
  obtain ⟨profile, inEnabled, rfl⟩ := List.mem_map.mp member
  exact ⟨profile, (List.mem_filter.mp inEnabled).1, (List.mem_filter.mp inEnabled).2, rfl⟩

theorem enabledNames_active (enabled : ∀ profile, active = some profile →
    profile ∈ config.upstream.profiles ∧ profile.enabled = true)
    (some : enabledNames config ≠ []) :
    (active.map (·.name)).getD ((enabledNames config).headD "") ∈ enabledNames config := by
  cases active with
  | some profile =>
      obtain ⟨member, isEnabled⟩ := enabled profile rfl
      exact List.mem_map_of_mem (List.mem_filter.mpr ⟨member, isEnabled⟩)
  | none =>
      rw [Option.map_none, Option.getD_none, List.headD_eq_head?_getD, List.head?_eq_some_head some]
      exact List.head_mem some

theorem searchOrder_failover (enabled : ∀ profile, active = some profile →
    profile ∈ config.upstream.profiles ∧ profile.enabled = true) :
    FailoverOrder config active (searchOrder config active) := by
  have noActive (none' : enabledNames config = []) : active = none := by
    cases active with
    | none => rfl
    | some profile =>
        obtain ⟨member, isEnabled⟩ := enabled profile rfl
        have inNames : profile.name ∈ enabledNames config :=
          List.mem_map_of_mem (List.mem_filter.mpr ⟨member, isEnabled⟩)
        simp [none'] at inNames
  unfold searchOrder
  split
  · rename_i none'
    refine ⟨by simp [none', noActive none'], by simp [none'], by simp⟩
  · rename_i some
    have inNames := enabledNames_active enabled some
    have head : (active.map (·.name)).or (enabledNames config).head? =
        Option.some ((active.map (·.name)).getD ((enabledNames config).headD "")) := by
      cases active with
      | some profile => rfl
      | none =>
          rw [Option.map_none, Option.none_or, Option.getD_none, List.headD_eq_head?_getD,
            List.head?_eq_some_head some, Option.getD_some]
    simp only [recoverOrder]
    generalize (active.map (·.name)).getD ((enabledNames config).headD "") = current at inNames head
    split
    · rename_i failover
      simp only [Bool.and_eq_true, decide_eq_true_eq] at failover
      rw [rotateLeft_eq_rotate failover.2]
      refine ⟨?_, fun _ _ => (List.IsRotated.forall _ _).symm, ?_⟩
      · rw [head, List.head?_rotate (List.idxOf_lt_length_of_mem inNames)]
        exact List.getElem?_idxOf inNames
      · rintro (off | few)
        · simp [failover.1] at off
        · omega
    · rename_i single
      simp only [Bool.and_eq_true, decide_eq_true_eq, not_and, not_lt] at single
      refine ⟨head.symm, fun failover several => ?_, fun _ => by simp⟩
      have few := single failover
      omega

theorem FailoverOrder.rotated_or_short {order : List String} (ordered : FailoverOrder config active order) :
    enabledNames config ~r order ∨ order.length ≤ 1 := by
  cases on : config.upstream.failover with
  | false => exact Or.inr (ordered.single (Or.inl on))
  | true =>
      rcases Nat.lt_or_ge 1 (enabledNames config).length with several | few
      · exact Or.inl (ordered.cyclic on several)
      · exact Or.inr (ordered.single (Or.inr few))

theorem FailoverOrder.enabled {order : List String} (ordered : FailoverOrder config active order)
    (isEnabled : ∀ profile, active = some profile →
      profile ∈ config.upstream.profiles ∧ profile.enabled = true) :
    ∀ name ∈ order, name ∈ enabledNames config := by
  intro name member
  rcases ordered.rotated_or_short with rotated | short
  · exact rotated.mem_iff.mpr member
  · obtain ⟨first, rest, rfl⟩ := List.exists_cons_of_ne_nil (List.ne_nil_of_mem member)
    obtain rfl : rest = [] := by simpa using short
    obtain rfl := List.mem_singleton.mp member
    have first := ordered.first
    cases active with
    | some profile =>
        obtain ⟨inProfiles, enabled⟩ := isEnabled profile rfl
        obtain rfl := Option.some.inj first
        exact List.mem_map_of_mem (List.mem_filter.mpr ⟨inProfiles, enabled⟩)
    | none => exact List.mem_of_head? first.symm

theorem FailoverOrder.nodup {order : List String} (facts : config.Facts)
    (ordered : FailoverOrder config active order) : order.Nodup := by
  rcases ordered.rotated_or_short with rotated | short
  · exact rotated.nodup_iff.mp (enabledNames_nodup facts)
  · cases order with
    | nil => exact List.nodup_nil
    | cons first rest =>
        obtain rfl : rest = [] := by simpa using short
        exact List.nodup_singleton first

end

/-- What is asked of a recovery. An attempt is a call of `connect`, and it gets connected when that
call returns. -/
def RecoversCorrectly (config : AppConfig) (active : Option UpstreamProfileConfig) (before : Runtime)
    (outcome : Outcome Runtime ApplyEvent PyError Bool) : Prop :=
  ∃ order, FailoverOrder config active order ∧ (∀ name ∈ order, name ∈ enabledNames config) ∧
    match outcome.result with
    | .ok true => ∃ attempts reached, ∃ profile ∈ config.upstream.profiles,
        Search (active.map (·.name)) before.connected order attempts reached (some profile.name) ∧
          outcome.state.attempts = before.attempts ++ attempts ∧
          outcome.state.reached = before.reached ++ reached ∧
          profile.enabled = true ∧ outcome.state.connected profile.name = true ∧
          runtimeProfile config outcome.state.marker = .ok (some profile)
    | .ok false => ∃ attempts reached,
        Search (active.map (·.name)) before.connected order attempts reached none ∧
          outcome.state.attempts = before.attempts ++ attempts ∧
          outcome.state.reached = before.reached ++ reached ∧
          outcome.state.marker = before.marker
    | .error _ => ∃ attempts, attempts <+: order ∧ outcome.state.attempts = before.attempts ++ attempts

/-- When the first reachable profile is a standby that can be switched to, its name is read back
from the marker. -/
def FailoverNamesItself (config : AppConfig) (env : Environment) (active : Option UpstreamProfileConfig)
    (before : Runtime) : Prop :=
  ∀ profile ∈ config.upstream.profiles, ∀ state,
    firstReachable config env (active.map (·.name)) (searchOrder config active) before =
        some (profile.name, state) →
      some profile.name ≠ active.map (·.name) →
      (switchProfile config env profile.name state).result = .ok () → NamesItself config profile

theorem FailoverOrder.unique {config : AppConfig} {active : Option UpstreamProfileConfig}
    {order other : List String} (facts : config.Facts) (ordered : FailoverOrder config active order)
    (also : FailoverOrder config active other) : order = other := by
  have first := ordered.first.trans also.first.symm
  by_cases rotates : config.upstream.failover = true ∧ 1 < (enabledNames config).length
  · have rotated := (ordered.cyclic rotates.1 rotates.2).symm.trans (also.cyclic rotates.1 rotates.2)
    obtain ⟨count, rfl⟩ := rotated
    cases order with
    | nil => rfl
    | cons head tail =>
        have inside : count % (head :: tail).length < (head :: tail).length :=
          Nat.mod_lt _ (by simp)
        rw [← List.rotate_mod, List.head?_rotate inside, List.head?_cons] at first
        have zero := (ordered.nodup facts).getElem_inj_iff.mp
          (show (head :: tail)[0] = (head :: tail)[count % (head :: tail).length] by
            rw [List.getElem?_eq_getElem inside] at first
            exact Option.some.inj first)
        rw [← List.rotate_mod, ← zero, List.rotate_zero]
  · have short {names : List String} (ordered : FailoverOrder config active names) :
        names.length ≤ 1 := by
      refine ordered.single ?_
      cases on : config.upstream.failover with
      | false => exact Or.inl rfl
      | true => exact Or.inr (Nat.not_lt.mp fun several => rotates ⟨on, several⟩)
    have one := short ordered
    have another := short also
    cases order with
    | nil => exact (List.head?_eq_none_iff.mp first.symm).symm
    | cons head tail =>
        obtain ⟨rest, rfl⟩ := List.head?_eq_some_iff.mp first.symm
        have tail : tail = [] := by simpa using one
        have rest : rest = [] := by simpa using another
        rw [tail, rest]

section

variable {config : AppConfig} {env : Environment} {before : Runtime}
  {active : Option UpstreamProfileConfig} (facts : config.Facts)
  (readable : runtimeProfile config before.marker = .ok active)

include readable

omit facts in
theorem runtimeProfile_usable : ∀ profile, active = some profile →
    profile ∈ config.upstream.profiles ∧ profile.enabled = true := by
  rintro profile rfl
  exact ⟨runtimeProfile_mem readable, runtimeProfile_enabled readable⟩

include facts

theorem recover_searched :
    Triple (fun _ => True) (fun other => other = before) (recover config env)
      (fun found after => Searched config env (active.map (·.name)) before.connections
        (searchOrder config active)
        (firstReachable config env (active.map (·.name)) (searchOrder config active) before) found
        after.connections)
      (BrokenOff config env (active.map (·.name)) before.connections (searchOrder config active)
        (firstReachable config env (active.map (·.name)) (searchOrder config active) before)) := by
  have usable := runtimeProfile_usable readable
  have ordered := searchOrder_failover usable
  have members : ∀ name ∈ searchOrder config active,
      ∃ profile ∈ config.upstream.profiles, profile.name = name := by
    intro name member
    obtain ⟨profile, inProfiles, -, same⟩ := enabledNames_member (ordered.enabled usable name member)
    exact ⟨profile, inProfiles, same⟩
  rintro _ rfl events
  rw [recover_eq readable] at events ⊢
  exact recoverInOrder_searched facts _ _ members (ordered.nodup facts) _ _ rfl events

/-- A recovery that stopped at a profile is correct when the profile is selected afterwards. -/
theorem recoversCorrectly_stopped {attempts reached : List String} {first : Option (String × Runtime)}
    {after : Runtime} {events : List ApplyEvent} {profile : UpstreamProfileConfig} {state : Runtime}
    (ends : SearchEnds config env (active.map (·.name)) before.connections (searchOrder config active)
      attempts reached first true after.connections)
    (isFirst : first = some (profile.name, state)) (member : profile ∈ config.upstream.profiles)
    (enabled : profile.enabled = true) (up : after.connected profile.name = true) :
    RecoversCorrectly config active before ⟨.ok true, after, events⟩ ↔
      runtimeProfile config after.marker = .ok (some profile) := by
  have usable := runtimeProfile_usable readable
  have ordered := searchOrder_failover usable
  have search := ends.search
  rw [isFirst] at search
  constructor
  · rintro ⟨order, also, -, attempts', reached', other, inProfiles, stops, attempted, returned, -, -,
      selected⟩
    obtain rfl := ordered.unique facts also
    obtain rfl := List.append_cancel_left (ends.attempts.symm.trans attempted)
    obtain rfl := List.append_cancel_left (ends.reached.symm.trans returned)
    have same := Option.some.inj (search.stop_unique stops)
    rw [facts.profile_unique_name member inProfiles same]
    exact selected
  · exact fun selected => ⟨_, ordered, ordered.enabled usable, attempts, reached, profile, member,
      search, ends.attempts, ends.reached, enabled, up, selected⟩

end

/-- A recovery does what is asked of it exactly when the profile it fails over to names itself. -/
theorem recoversCorrectly_iff {config : AppConfig} (valid : config.Valid) (env : Environment)
    {before : Runtime} {active : Option UpstreamProfileConfig}
    (readable : runtimeProfile config before.marker = .ok active) :
    RecoversCorrectly config active before (recover config env before) ↔
      FailoverNamesItself config env active before := by
  have facts := valid.facts
  have usable := runtimeProfile_usable readable
  have ordered := searchOrder_failover usable
  have searched := (@recover_searched config env before active facts readable).ends rfl
  rw [FailoverNamesItself]
  generalize recover config env before = outcome at searched ⊢
  generalize firstReachable config env _ _ before = first at searched ⊢
  obtain ⟨result, after, events⟩ := outcome
  cases result with
  | error error =>
      obtain ⟨⟨attempts, isFront, attempted⟩, -, unswitched⟩ := searched
      refine iff_of_true ⟨_, ordered, ordered.enabled usable, attempts, isFront, attempted⟩ ?_
      intro profile _ state found _ switched
      exact absurd switched (unswitched _ _ found).2
  | ok found =>
      obtain ⟨attempts, reached, ends⟩ := searched
      cases found with
      | false =>
          obtain ⟨none, marker⟩ := ends.exhausted rfl
          have search := ends.search
          rw [none] at search
          refine iff_of_true ⟨_, ordered, ordered.enabled usable, attempts, reached, search,
            ends.attempts, ends.reached, marker⟩ ?_
          intro profile _ state found
          simp [none] at found
      | true =>
          obtain ⟨name, state, isFirst, up, marker, switches⟩ := ends.stopped rfl
          have search := ends.search
          rw [isFirst] at search
          obtain ⟨profile, member, enabled, rfl⟩ :=
            enabledNames_member (ordered.enabled usable _ search.stop_member)
          have only : ∀ other ∈ config.upstream.profiles, ∀ there, first = some (other.name, there) →
              other = profile := by
            intro other inProfiles there found
            rw [isFirst, Option.some.injEq, Prod.mk.injEq] at found
            exact facts.profile_unique_name inProfiles member found.1.symm
          change after.marker = _ at marker
          rw [recoversCorrectly_stopped facts readable ends isFirst member enabled up, marker]
          by_cases current : some profile.name = active.map (·.name)
          · rw [if_pos current]
            refine iff_of_true ?_ fun other inProfiles there found standby => ?_
            · obtain ⟨selected, rfl, same⟩ := Option.map_eq_some_iff.mp current.symm
              rw [facts.profile_unique_name member (usable selected rfl).1 same.symm]
              exact readable
            · exact absurd (only other inProfiles there found ▸ current) standby
          · rw [if_neg current, runtimeProfile_markerOf facts member enabled]
            constructor
            · intro names other inProfiles there found _ _
              exact only other inProfiles there found ▸ names
            · exact fun names => names profile member state isFirst current (switches current)

theorem recoversCorrectly_iff_sample :
    RecoversCorrectly switchedConfig (some (plainProfile "first")) {}
        (recover switchedConfig quietEnvironment {}) ↔
      FailoverNamesItself switchedConfig quietEnvironment (some (plainProfile "first")) {} :=
  recoversCorrectly_iff switchedConfig_valid quietEnvironment rfl

/-! The standby's name ends in a line break. It is up when the active profile fails. -/

def lineBreakConfig : AppConfig where
  upstream := {
    enabled := true
    failover := true
    profiles := [plainProfile "first", plainProfile "spare\n"] }

def refusingEnvironment : Environment where
  around := fun _ => tunnelsOnly
  dial := fun _ => .refused .commandError

def spareUp : Runtime where
  connected := fun name => name = "spare\n"

theorem recovered_unselected :
    lineBreakConfig.Valid ∧
      runtimeProfile lineBreakConfig spareUp.marker = .ok (some (plainProfile "first")) ∧
      (recover lineBreakConfig refusingEnvironment spareUp).result = .ok true ∧
      ¬RecoversCorrectly lineBreakConfig (some (plainProfile "first")) spareUp
        (recover lineBreakConfig refusingEnvironment spareUp) := by
  have returned : (recover lineBreakConfig refusingEnvironment spareUp).result = .ok true := rfl
  refine ⟨⟨fun _ => false, by decide⟩, rfl, returned, ?_⟩
  rintro ⟨order, -, -, ended⟩
  rw [returned] at ended
  obtain ⟨attempts, reached, profile, -, -, -, -, -, up, selected⟩ := ended
  have first : runtimeProfile lineBreakConfig
      (recover lineBreakConfig refusingEnvironment spareUp).state.marker =
        .ok (some (plainProfile "first")) := rfl
  obtain rfl := Option.some.inj (Except.ok.inj (first.symm.trans selected))
  revert up
  decide

end Korserver
