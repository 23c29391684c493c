import Korserver.Failover

/-!
`enforce_profile_enablement`: disabled profiles are torn down and standbys dialed, one after the
other, unless a teardown raises, which ends the loop.
-/

namespace Korserver

open PythonText PythonValue Effects

def Standby (active : Option String) (connected : String → Bool) (profile : UpstreamProfileConfig) :
    Bool :=
  profile.enabled && decide (some profile.name ≠ active) && !connected profile.name

def Leftover (connected : String → Bool) (profile : UpstreamProfileConfig) : Bool :=
  !profile.enabled && connected profile.name

/-- The named targets can be listed, which a teardown needs. -/
def TearsDown (config : AppConfig) (around : Surroundings) : Prop :=
  ∃ named, namedTargetRouting around.files config = .ok named

structure Processed (active : Option String) (links after : Connections)
    (profiles : List UpstreamProfileConfig) : Prop where
  marker : after.marker = links.marker
  attempts : after.attempts =
    links.attempts ++ (profiles.filter (Standby active links.connected)).map (·.name)
  down : ∀ profile ∈ profiles, profile.enabled = false → after.connected profile.name = false
  kept : ∀ name, (∀ profile ∈ profiles, profile.name = name →
    Standby active links.connected profile = false ∧ Leftover links.connected profile = false) →
      after.connected name = links.connected name

/-- The profile ends the loop: its teardown raises, or its dial raises what nobody handles. -/
def Stops (config : AppConfig) (env : Environment) (active : Option String) (links : Connections)
    (profile : UpstreamProfileConfig) : Prop :=
  (Leftover links.connected profile = true ∧ ¬TearsDown config (env.around .called)) ∨
    (Standby active links.connected profile = true ∧ ∃ state error, state.marker = links.marker ∧
      (connectProfile config env profile state).result = .error error ∧ isDialError error = false)

section

variable {config : AppConfig} {env : Environment} {active : Option String} {links : Connections}

theorem processed_nil : Processed active links links [] where
  marker := rfl
  attempts := by simp
  down := by simp
  kept := by simp

theorem Processed.append {middle after : Connections} {first second : List UpstreamProfileConfig}
    (distinct : ((first ++ second).map (·.name)).Nodup) (begun : Processed active links middle first)
    (ended : Processed active middle after second) :
    Processed active links after (first ++ second) := by
  rw [List.map_append, List.nodup_append] at distinct
  have apart : ∀ profile ∈ first, ∀ other ∈ second, profile.name ≠ other.name := fun profile inFirst other inSecond =>
    distinct.2.2 _ (List.mem_map_of_mem inFirst) _ (List.mem_map_of_mem inSecond)
  have same : ∀ other ∈ second, middle.connected other.name = links.connected other.name :=
    fun other inSecond => begun.kept other.name fun profile inFirst equal =>
      absurd equal (apart profile inFirst other inSecond)
  have standbys : ∀ other ∈ second,
      Standby active middle.connected other = Standby active links.connected other := by
    intro other inSecond
    simp only [Standby, same other inSecond]
  constructor
  · rw [ended.marker, begun.marker]
  · rw [ended.attempts, begun.attempts, List.filter_congr standbys, List.filter_append,
      List.map_append, List.append_assoc]
  · intro profile member disabled
    rcases List.mem_append.mp member with inFirst | inSecond
    · rw [ended.kept profile.name fun other inSecond equal =>
        absurd equal.symm (apart profile inFirst other inSecond)]
      exact begun.down profile inFirst disabled
    · exact ended.down profile inSecond disabled
  · intro name untouched
    have later := ended.kept name fun other inSecond equal => by
      have other := untouched other (List.mem_append_right _ inSecond) equal
      rwa [Leftover, standbys _ inSecond, same _ inSecond]
    rw [later]
    exact begun.kept name fun profile inFirst => untouched profile (List.mem_append_left _ inFirst)

theorem processed_idle {profile : UpstreamProfileConfig}
    (idle : Standby active links.connected profile = false)
    (down : Leftover links.connected profile = false) : Processed active links links [profile] where
  marker := rfl
  attempts := by simp [idle]
  down := by
    intro other member disabled
    obtain rfl := List.mem_singleton.mp member
    simpa [Leftover, disabled] using down
  kept := fun _ _ => rfl

theorem processed_leftover {profile : UpstreamProfileConfig} (disabled : profile.enabled = false)
    (up : Leftover links.connected profile = true) :
    Processed active links (links.bringDown profile.name) [profile] where
  marker := rfl
  attempts := by simp [Standby, disabled, Connections.bringDown]
  down := by
    intro other member _
    obtain rfl := List.mem_singleton.mp member
    simp [Connections.bringDown]
  kept := by
    intro name untouched
    have other : name ≠ profile.name := by
      rintro rfl
      simp [up] at untouched
    simp [Connections.bringDown, Function.update_of_ne other]

/-- A dialed standby was attempted once; whether it is up depends on the dial. -/
theorem processed_standby {profile : UpstreamProfileConfig}
    (standby : Standby active links.connected profile = true) {after : Connections}
    (marker : after.marker = links.marker) (attempts : after.attempts = links.attempts ++ [profile.name])
    (others : ∀ name, name ≠ profile.name → after.connected name = links.connected name) :
    Processed active links after [profile] where
  marker := marker
  attempts := by simp [standby, attempts]
  down := by
    intro other member disabled
    obtain rfl := List.mem_singleton.mp member
    simp [Standby, disabled] at standby
  kept := by
    intro name untouched
    refine others name ?_
    rintro rfl
    simp [standby] at untouched

end

section

variable {config : AppConfig} {env : Environment} {active : Option String} {links : Connections}

theorem succeeds_error {α : Type} {handled : PyError → Bool} {program : Service α} {state : Runtime}
    {error : PyError} (raised : (program.succeeds handled state).result = .error error) :
    (program state).result = .error error ∧ handled error = false := by
  unfold Program.succeeds at raised
  cases ended : (program state).result with
  | ok value => simp [ended] at raised
  | error other =>
      simp only [ended] at raised
      split at raised
      · simp at raised
      · rename_i refused
        obtain rfl := Except.error.inj raised
        exact ⟨rfl, by simpa using refused⟩

variable (facts : config.Facts) {profile : UpstreamProfileConfig}
  (member : profile ∈ config.upstream.profiles)

include facts member

theorem connect_down {state : Runtime} (down : state.connected profile.name = false) :
    connect config env (some profile.name) state = connectProfile config env profile state := by
  rw [connect, profileOrSelected_member facts member]
  change Program.andThen (profileConnected profile) (fun connected =>
    Program.when (!connected) (connectProfile config env profile)) state = _
  simp only [profileConnected, Program.read, Program.andThen, Program.fromExcept, down, Bool.not_false,
    Program.when, if_true, List.nil_append]

omit facts member in
theorem cleanupRoute_from (routing : PolicyRouting) (links : Connections) {raised : Runtime → Prop} :
    Triple (fun _ => True) (From links) (cleanupRoute routing) (fun _ => From links) raised := by
  rw [cleanupRoute, tryPolicy]
  refine Triple.tryModify ?_ ?_
  · intro state next before changed
    obtain ⟨policy, -, rfl⟩ := by simpa only [bind_ok, pure_ok] using changed
    exact before
  · intro state error _ failed
    simp [bind, Except.bind, pure, Except.pure] at failed

omit facts member in
/-- A teardown ends the process first, and raises when the named targets cannot be listed. -/
theorem disconnectProfile_teardown (around : Surroundings) (profile : UpstreamProfileConfig)
    {selected : Option UpstreamProfileConfig}
    (readable : runtimeProfile config links.marker = .ok selected) :
    Triple (fun _ => True) (From links) (disconnectProfile config around profile)
      (fun _ state => From (links.bringDown profile.name) state ∧ TearsDown config around)
      (fun state => From (links.bringDown profile.name) state ∧ ¬TearsDown config around) := by
  have hung : Triple (fun _ => True) (From links) (hangUp config profile)
      (fun _ => From (links.bringDown profile.name)) (fun state =>
        From (links.bringDown profile.name) state ∧ ¬TearsDown config around) := by
    refine Triple.modify ?_
    rintro state rfl
    rfl
  refine Triple.bind hung fun _ => ?_
  refine Triple.bind (Triple.fromExcept_cases (fun _ _ before _ => before) ?_ :
    Triple _ _ _ (fun _ => From (links.bringDown profile.name)) _) fun found => ?_
  · intro state error before failed
    have marker : state.marker = links.marker := congrArg Connections.marker before
    rw [marker, readable] at failed
    simp at failed
  refine Triple.bind (Triple.when (fun _ => cleanupRoute_from _ _) fun _ _ => id :
    Triple _ _ _ (fun _ => From (links.bringDown profile.name)) _) fun _ => ?_
  refine Triple.bind (Triple.fromExcept_cases ?_ ?_ : Triple _ _ _ (fun _ state =>
    From (links.bringDown profile.name) state ∧ TearsDown config around) _) fun named => ?_
  · exact fun _ named before listed => ⟨before, named, listed⟩
  · rintro state error before failed
    refine ⟨before, ?_⟩
    rintro ⟨named, listed⟩
    rw [failed] at listed
    simp at listed
  refine Triple.fact fun tears => ?_
  refine Triple.weaken ?_ (fun _ => id) (fun _ _ before => ⟨before, tears⟩ :
    ∀ (value : Unit) state, From (links.bringDown profile.name) state → _)
  exact Triple.forEach fun entry _ => Triple.when (fun _ => cleanupRoute_from _ _) fun _ _ => id

theorem disconnect_up (around : Surroundings) {state : Runtime}
    (up : state.connected profile.name = true) :
    disconnect config around (some profile.name) state =
      disconnectProfile config around profile state := by
  rw [disconnect, profileOrSelected_member facts member]
  change Program.andThen (profileConnected profile) (fun connected =>
    Program.when connected (disconnectProfile config around profile)) state = _
  simp only [profileConnected, Program.read, Program.andThen, Program.fromExcept, up, Program.when,
    if_true, List.nil_append]

theorem disconnect_leftover {selected : Option UpstreamProfileConfig}
    (readable : runtimeProfile config links.marker = .ok selected)
    (disabled : profile.enabled = false) (leftover : Leftover links.connected profile = true) :
    Triple (fun _ => True) (From links) (disconnect config (env.around .called) (some profile.name))
      (fun _ state => Processed active links state.connections [profile] ∧
        (Leftover links.connected profile = true → TearsDown config (env.around .called)))
      (fun state => Processed active links state.connections [profile] ∧
        Stops config env active links profile) := by
  intro state before events
  have up : state.connected profile.name = true := by
    change state.connections.connected profile.name = true
    rw [before]
    simpa [Leftover, disabled] using leftover
  rw [disconnect_up facts member _ up] at events ⊢
  have ended := disconnectProfile_teardown (env.around .called) profile readable state before events
  have torn {after : Runtime} (down : From (links.bringDown profile.name) after) :
      Processed active links after.connections [profile] := by
    rw [down]
    exact processed_leftover disabled leftover
  cases result : (disconnectProfile config (env.around .called) profile state).result with
  | ok value =>
      simp only [result] at ended ⊢
      exact ⟨torn ended.1, fun _ => ended.2⟩
  | error error =>
      simp only [result] at ended ⊢
      exact ⟨torn ended.1, Or.inl ⟨leftover, ended.2⟩⟩

theorem tryConnect_standby (standby : Standby active links.connected profile = true) :
    Triple (fun _ => True) (From links) (tryConnect config env profile.name)
      (fun _ state => Processed active links state.connections [profile])
      (fun state => Processed active links state.connections [profile] ∧
        Stops config env active links profile) := by
  have down : links.connected profile.name = false := by
    simp only [Standby, Bool.and_eq_true, Bool.not_eq_true'] at standby
    exact standby.2
  have dialed {after : Runtime} (attempted : From (links.attempt profile.name) after ∨
      From ((links.attempt profile.name).bringUp profile.name) after) :
      Processed active links after.connections [profile] := by
    rcases attempted with same | up
    · rw [same]
      exact processed_standby standby rfl rfl fun _ _ => rfl
    · rw [up]
      exact processed_standby standby rfl rfl fun name other => Function.update_of_ne other _ _
  have attempt : Triple _ _ (tryConnect config env profile.name) _ _ :=
    (connect_connections facts member down).attempt
  intro state before events
  have ended := attempt state before events
  cases result : (tryConnect config env profile.name state).result with
  | ok value =>
      simp only [result] at ended ⊢
      split at ended
      · rw [ended]
        exact processed_standby standby rfl rfl fun name other => Function.update_of_ne other _ _
      · exact dialed ended
  | error error =>
      simp only [result] at ended ⊢
      obtain ⟨raised, refused⟩ := succeeds_error result
      have stateDown : state.connected profile.name = false := by
        change state.connections.connected profile.name = false
        rw [before, down]
      rw [connect_down facts member stateDown] at raised
      exact ⟨dialed ended, Or.inr ⟨standby, state, error, congrArg Connections.marker before, raised,
        refused⟩⟩

theorem enforceProfile_processed {selected : Option UpstreamProfileConfig}
    (readable : runtimeProfile config links.marker = .ok selected) :
    Triple (fun _ => True) (From links) (enforceProfile config env active profile)
      (fun _ state => Processed active links state.connections [profile] ∧
        (Leftover links.connected profile = true → TearsDown config (env.around .called)))
      (fun state => Processed active links state.connections [profile] ∧
        Stops config env active links profile) := by
  refine Triple.bind Triple.read fun connected => ?_
  refine Triple.weaken (Triple.fact fun same => ?_ :
    Triple _ (fun state => From links state ∧ connected = links.connected profile.name) _ _ _)
      (fun state before => ⟨before.1, before.2.trans (congrFun (congrArg Connections.connected before.1) _)⟩)
      fun _ _ => id
  cases enabled : profile.enabled with
  | false =>
      simp only [Bool.false_eq_true, if_false]
      refine Triple.when ?_ ?_
      · intro up
        exact disconnect_leftover facts member readable enabled (by simp [Leftover, enabled, ← same, up])
      · intro down state before
        have idle : Leftover links.connected profile = false := by simp [Leftover, ← same, down]
        rw [before]
        exact ⟨processed_idle (by simp [Standby, enabled]) idle, by simp [idle]⟩
  | true =>
      simp only [if_true]
      have noLeftover : Leftover links.connected profile = false := by simp [Leftover, enabled]
      refine Triple.when ?_ ?_
      · intro dials
        have standby : Standby active links.connected profile = true := by
          simpa [Standby, enabled, ← same] using dials
        refine Triple.bind (tryConnect_standby facts member standby) fun _ => Triple.pure ?_
        exact fun state done => ⟨done, by simp [noLeftover]⟩
      · intro idle state before
        rw [before]
        refine ⟨processed_idle ?_ noLeftover, by simp [noLeftover]⟩
        simpa [Standby, enabled, ← same] using idle

end

section

variable {config : AppConfig} {env : Environment} {active : Option String} {links : Connections}

def Stopped (config : AppConfig) (env : Environment) (active : Option String) (links after : Connections)
    (profiles : List UpstreamProfileConfig) : Prop :=
  ∃ front profile back, profiles = front ++ profile :: back ∧
    Processed active links after (front ++ [profile]) ∧
    (∀ other ∈ front, Leftover links.connected other = true → TearsDown config (env.around .called)) ∧
    Stops config env active links profile

theorem Stops.congr {middle : Connections} {profile : UpstreamProfileConfig}
    (marker : middle.marker = links.marker)
    (connected : middle.connected profile.name = links.connected profile.name)
    (stops : Stops config env active middle profile) : Stops config env active links profile := by
  simpa only [Stops, Leftover, Standby, marker, connected] using stops

theorem enforceProfiles_processed (facts : config.Facts) {selected : Option UpstreamProfileConfig}
    (profiles : List UpstreamProfileConfig) (members : ∀ profile ∈ profiles, profile ∈ config.upstream.profiles)
    (distinct : (profiles.map (·.name)).Nodup) (links : Connections)
    (readable : runtimeProfile config links.marker = .ok selected) :
    Triple (fun _ => True) (From links) (Program.forEach profiles (enforceProfile config env active))
      (fun _ state => Processed active links state.connections profiles ∧ ∀ profile ∈ profiles,
        Leftover links.connected profile = true → TearsDown config (env.around .called))
      (fun state => Stopped config env active links state.connections profiles) := by
  induction profiles generalizing links with
  | nil =>
      refine Triple.pure ?_
      rintro state rfl
      exact ⟨processed_nil, by simp⟩
  | cons profile rest ih =>
      have whole : ((([profile] : List UpstreamProfileConfig) ++ rest).map (·.name)).Nodup := distinct
      rw [List.map_cons, List.nodup_cons] at distinct
      have first := @enforceProfile_processed config env active links facts profile
        (members profile (by simp)) selected readable
      refine Triple.bind (first.relax ?_) fun _ => ?_
      · rintro state ⟨done, stops⟩
        exact ⟨[], profile, rest, rfl, done, by simp, stops⟩
      intro state ⟨done, tears⟩ events
      have same : ∀ other ∈ rest,
          state.connections.connected other.name = links.connected other.name := by
        intro other inRest
        refine done.kept other.name fun again member equal => ?_
        obtain rfl := List.mem_singleton.mp member
        exact absurd (List.mem_map_of_mem inRest) (equal ▸ distinct.1)
      have leftover : ∀ other ∈ rest,
          Leftover state.connections.connected other = Leftover links.connected other :=
        fun other inRest => by rw [Leftover, Leftover, same other inRest]
      have ended := ih (fun other inRest => members other (List.mem_cons_of_mem _ inRest)) distinct.2
        state.connections (by rw [done.marker, readable]) state rfl events
      cases result : (Program.forEach rest (enforceProfile config env active) state).result with
      | ok value =>
          simp only [result] at ended ⊢
          refine ⟨done.append whole ended.1, ?_⟩
          intro other member
          rcases List.mem_cons.mp member with rfl | inRest
          · exact tears
          · rw [← leftover other inRest]
            exact ended.2 other inRest
      | error error =>
          simp only [result] at ended ⊢
          obtain ⟨front, last, back, rfl, others, lists, stops⟩ := ended
          refine ⟨profile :: front, last, back, rfl, ?_, ?_, stops.congr done.marker (same last (by simp))⟩
          · have part : ([profile] ++ (front ++ [last])).Sublist ([profile] ++ (front ++ last :: back)) := by
              simp
            exact @Processed.append active links state.connections _ [profile] (front ++ [last])
              (whole.sublist (part.map _)) done others
          · intro other member
            rcases List.mem_cons.mp member with rfl | inFront
            · exact tears
            · rw [← leftover other (List.mem_append_left _ inFront)]
              exact lists other inFront

end

/-! The whole call. -/

structure Enforced (config : AppConfig) (active : Option String) (before after : Runtime) : Prop where
  down : ∀ profile ∈ config.upstream.profiles, profile.enabled = false →
    after.connected profile.name = false
  dialed : ∃ dials, after.attempts = before.attempts ++ dials ∧
    ∀ profile ∈ config.upstream.profiles, profile.enabled = true → some profile.name ≠ active →
      dials.count profile.name = if before.connected profile.name then 0 else 1
  marker : after.marker = before.marker
  tunnel : ∀ name, some name = active → after.connected name = before.connected name

/-- Behind the first profile to be torn down there is nothing to do, if its teardown raises. -/
def TeardownsEnd (config : AppConfig) (env : Environment) (active : Option String)
    (connected : String → Bool) : Prop :=
  TearsDown config (env.around .called) ∨
    ∀ front profile back, config.upstream.profiles = front ++ profile :: back →
      (∀ other ∈ front, Leftover connected other = false) → Leftover connected profile = true →
      ∀ other ∈ back, Standby active connected other = false ∧ Leftover connected other = false

/-- Nobody is dialed: every enabled, inactive profile that is down has a raising teardown in front of
it. -/
def NoStandby (config : AppConfig) (env : Environment) (active : Option String)
    (connected : String → Bool) : Prop :=
  ∀ front profile back, config.upstream.profiles = front ++ profile :: back →
    (∀ other ∈ front, Leftover connected other = true → TearsDown config (env.around .called)) →
    Standby active connected profile = false

/-- A dial ends well, or in a `ValueError` or `CommandError`. -/
def DialsEnd (config : AppConfig) (env : Environment) (active : Option String) (before : Runtime) : Prop :=
  ∀ profile ∈ config.upstream.profiles, Standby active before.connected profile = true →
    ∀ state error, state.marker = before.marker →
      (connectProfile config env profile state).result = .error error → isDialError error = true

/-- The profile is up after a recovery that dialed it or made it the active one. -/
def BroughtUp (config : AppConfig) (start : Runtime) (recovered : Outcome Runtime ApplyEvent PyError Bool)
    (name : String) : Prop :=
  recovered.state.connected name = true ∧
    (start.connected name = false ∨
      (∃ dials, recovered.state.attempts = start.attempts ++ dials ∧ name ∈ dials) ∨
      (recovered.result = .ok true ∧ ∃ profile,
        runtimeProfile config recovered.state.marker = .ok (some profile) ∧ profile.name = name))

/-- An enforcement right after a recovery leaves what that brought up. -/
def KeepsRecovered (config : AppConfig) (env : Environment) : Prop :=
  ∀ recovering start name, BroughtUp config start (recover config recovering start) name →
    (enforceProfileEnablement config env (recover config recovering start).state).state.connected name = true

theorem append_cons_cases {α : Type} {front front' back back' : List α} {item item' : α}
    (same : front ++ item :: back = front' ++ item' :: back') :
    item' ∈ front ∨ (front = front' ∧ item = item' ∧ back = back') ∨ item ∈ front' := by
  rcases List.append_eq_append_iff.mp same with ⟨more, rfl, rest⟩ | ⟨more, rfl, rest⟩
  · cases more with
    | nil =>
        obtain ⟨rfl, rfl⟩ := List.cons.inj rest
        simp
    | cons first tail =>
        obtain ⟨rfl, -⟩ := List.cons.inj rest
        simp
  · cases more with
    | nil =>
        obtain ⟨rfl, rfl⟩ := List.cons.inj rest
        simp
    | cons first tail =>
        obtain ⟨rfl, -⟩ := List.cons.inj rest
        simp

section

variable {config : AppConfig} {env : Environment} {links : Connections}
  {active : Option UpstreamProfileConfig} (facts : config.Facts)

include facts

theorem enforceProfileEnablement_processed
    (readable : runtimeProfile config links.marker = .ok active) :
    Triple (fun _ => True) (From links) (enforceProfileEnablement config env)
      (fun _ state => Processed (active.map (·.name)) links state.connections config.upstream.profiles ∧
        ∀ profile ∈ config.upstream.profiles,
          Leftover links.connected profile = true → TearsDown config (env.around .called))
      (fun state => Stopped config env (active.map (·.name)) links state.connections
        config.upstream.profiles) := by
  refine Triple.bind (Triple.fromExcept_cases ?_ ?_ :
    Triple _ _ _ (fun selected state => From links state ∧ selected = active) _) fun selected =>
      Triple.fact ?_
  · rintro state selected rfl found
    exact ⟨rfl, Except.ok.inj (found.symm.trans readable)⟩
  · rintro state error rfl failed
    exact absurd (readable.symm.trans failed) (by simp)
  · rintro rfl
    exact enforceProfiles_processed facts config.upstream.profiles (fun _ => id) facts.names links readable

omit facts in
theorem Processed.idle_rest {active : Option String} {after : Connections}
    {done rest : List UpstreamProfileConfig} (distinct : ((done ++ rest).map (·.name)).Nodup)
    (processed : Processed active links after done)
    (idle : ∀ other ∈ rest,
      Standby active links.connected other = false ∧ Leftover links.connected other = false) :
    Processed active links after (done ++ rest) := by
  have apart : ∀ other ∈ rest, after.connected other.name = links.connected other.name := by
    rw [List.map_append, List.nodup_append] at distinct
    refine fun other inRest => processed.kept other.name fun profile inDone same => ?_
    exact absurd same (distinct.2.2 _ (List.mem_map_of_mem inDone) _ (List.mem_map_of_mem inRest))
  refine processed.append distinct ?_
  constructor
  · rfl
  · have none : rest.filter (Standby active after.connected) = [] := by
      refine List.filter_eq_nil_iff.mpr fun other inRest => ?_
      simpa [Standby, apart other inRest] using (idle other inRest).1
    simp [none]
  · intro other inRest disabled
    rw [apart other inRest]
    simpa [Leftover, disabled] using (idle other inRest).2
  · exact fun _ _ => rfl

omit facts in
theorem Processed.idle_of_enforced {active : Option String} {before after : Runtime}
    {done rest : List UpstreamProfileConfig} (whole : config.upstream.profiles = done ++ rest)
    (distinct : ((done ++ rest).map (·.name)).Nodup)
    (processed : Processed active before.connections after.connections done)
    (enforced : Enforced config active before after) : ∀ other ∈ rest,
      Standby active before.connected other = false ∧ Leftover before.connected other = false := by
  intro other inRest
  have member : other ∈ config.upstream.profiles := whole ▸ List.mem_append_right _ inRest
  rw [List.map_append, List.nodup_append] at distinct
  have apart : ∀ profile ∈ done, profile.name ≠ other.name := fun profile inDone =>
    distinct.2.2 _ (List.mem_map_of_mem inDone) _ (List.mem_map_of_mem inRest)
  have kept : after.connected other.name = before.connected other.name :=
    processed.kept other.name fun profile inDone same => absurd same (apart profile inDone)
  constructor
  · obtain ⟨dials, attempted, counts⟩ := enforced.dialed
    obtain rfl := List.append_cancel_left (processed.attempts.symm.trans attempted)
    by_contra standby
    simp only [Standby, Bool.not_eq_false, Bool.and_eq_true, Bool.not_eq_true', decide_eq_true_eq]
      at standby
    have once := counts other member standby.1.1 standby.1.2
    rw [standby.2, if_neg (by simp)] at once
    obtain ⟨profile, dialed, same⟩ := List.mem_map.mp (List.count_pos_iff.mp (Nat.lt_of_lt_of_eq Nat.one_pos once.symm))
    exact apart profile (List.mem_filter.mp dialed).1 same
  · by_contra leftover
    simp only [Leftover, Bool.not_eq_false, Bool.and_eq_true, Bool.not_eq_true'] at leftover
    have down := enforced.down other member leftover.1
    rw [kept, leftover.2] at down
    simp at down

theorem enforced_of_processed {before after : Runtime}
    (readable : runtimeProfile config before.marker = .ok active)
    (processed : Processed (active.map (·.name)) before.connections after.connections
      config.upstream.profiles) :
    Enforced config (active.map (·.name)) before after where
  down := processed.down
  dialed := by
    refine ⟨_, processed.attempts, fun profile member enabled standby => ?_⟩
    have distinct : ((config.upstream.profiles.filter
        (Standby (active.map (·.name)) before.connections.connected)).map (·.name)).Nodup :=
      facts.names.sublist (List.filter_sublist.map _)
    rw [distinct.count]
    have dials : profile.name ∈ (config.upstream.profiles.filter
        (Standby (active.map (·.name)) before.connections.connected)).map (·.name) ↔
          before.connected profile.name = false := by
      constructor
      · intro dialed
        obtain ⟨other, isStandby, same⟩ := List.mem_map.mp dialed
        obtain ⟨inProfiles, isStandby⟩ := List.mem_filter.mp isStandby
        obtain rfl := facts.profile_unique_name inProfiles member same
        simp only [Standby, Bool.and_eq_true, Bool.not_eq_true'] at isStandby
        exact isStandby.2
      · intro down
        refine List.mem_map_of_mem (List.mem_filter.mpr ⟨member, ?_⟩)
        have notUp : before.connections.connected profile.name = false := down
        simp [Standby, enabled, standby, notUp]
    cases up : before.connected profile.name <;> simp [dials, up]
  marker := processed.marker
  tunnel := by
    intro name isActive
    refine processed.kept name fun profile member same => ?_
    obtain ⟨selected, rfl, rfl⟩ := Option.map_eq_some_iff.mp isActive.symm
    obtain ⟨inProfiles, enabled⟩ := runtimeProfile_usable readable selected rfl
    obtain rfl := facts.profile_unique_name member inProfiles same
    exact ⟨by simp [Standby], by simp [Leftover, enabled]⟩

theorem noStandby_iff {before : Runtime} (readable : runtimeProfile config before.marker = .ok active) :
    (enforceProfileEnablement config env before).state.attempts = before.attempts ↔
      NoStandby config env (active.map (·.name)) before.connected := by
  have ended := (@enforceProfileEnablement_processed config env before.connections active facts
    readable).ends rfl
  have dials {after : Runtime} {done : List UpstreamProfileConfig}
      (processed : Processed (active.map (·.name)) before.connections after.connections done) :
      after.attempts = before.attempts ↔
        ∀ profile ∈ done, Standby (active.map (·.name)) before.connected profile = false := by
    have attempted : after.attempts = before.attempts ++ _ := processed.attempts
    rw [attempted, List.append_right_eq_self, List.map_eq_nil_iff, List.filter_eq_nil_iff]
    simp only [Bool.not_eq_true]
    rfl
  generalize enforceProfileEnablement config env before = outcome at ended ⊢
  obtain ⟨result, after, events⟩ := outcome
  cases result with
  | ok value =>
      obtain ⟨processed, tears⟩ := ended
      rw [dials processed]
      constructor
      · exact fun none front profile back whole _ => none profile (by simp [whole])
      · intro none profile member
        obtain ⟨front, back, whole⟩ := List.append_of_mem member
        exact none front profile back whole fun other inFront => tears other (by simp [whole, inFront])
  | error error =>
      obtain ⟨front, profile, back, whole, processed, tears, stops⟩ := ended
      rw [dials processed]
      constructor
      · intro none front' profile' back' whole' tears'
        have notBehind : profile ∉ front' := by
          intro inFront
          rcases stops with ⟨leftover, raises⟩ | ⟨standby, -⟩
          · exact raises (tears' profile inFront leftover)
          · exact absurd (standby.symm.trans (none profile (by simp))) (by simp)
        rcases append_cons_cases (whole.symm.trans whole') with inFront | ⟨-, rfl, -⟩ | behind
        · exact none profile' (List.mem_append_left _ inFront)
        · exact none profile (by simp)
        · exact absurd behind notBehind
      · intro none other inDone
        rcases List.mem_append.mp inDone with inFront | isLast
        · obtain ⟨first, second, rfl⟩ := List.append_of_mem inFront
          refine none first other (second ++ profile :: back) (by simp [whole]) fun another inFirst => ?_
          exact tears another (List.mem_append_left _ inFirst)
        · obtain rfl := List.mem_singleton.mp isLast
          exact none front other back whole tears

theorem enforcement_keeps {before : Runtime} {profile : UpstreamProfileConfig}
    (member : profile ∈ config.upstream.profiles) (enabled : profile.enabled = true)
    (up : before.connected profile.name = true) :
    (enforceProfileEnablement config env before).state.connected profile.name = true := by
  have kept {active : Option String} {after : Connections} {done : List UpstreamProfileConfig}
      (inside : ∀ other ∈ done, other ∈ config.upstream.profiles)
      (processed : Processed active before.connections after done) :
      after.connected profile.name = true := by
    have same := processed.kept profile.name fun other inDone same => by
      obtain rfl := facts.profile_unique_name (inside other inDone) member same
      exact ⟨by simp [Standby, Runtime.connections, up], by simp [Leftover, enabled]⟩
    rw [same]
    exact up
  cases readable : runtimeProfile config before.marker with
  | error error =>
      have raised : enforceProfileEnablement config env before = ⟨.error error, before, []⟩ := by
        change Program.andThen (selectedProfile config) _ before = _
        simp only [selectedProfile, Program.andThen, Program.fromExcept, readable]
      rw [raised]
      exact up
  | ok active =>
      have ended := (@enforceProfileEnablement_processed config env before.connections active facts
        readable).ends rfl
      cases result : (enforceProfileEnablement config env before).result with
      | ok value =>
          rw [result] at ended
          exact kept (fun _ => id) ended.1
      | error error =>
          rw [result] at ended
          obtain ⟨front, last, back, whole, processed, -, -⟩ := ended
          refine kept (fun other inDone => ?_) processed
          rw [whole]
          rcases List.mem_append.mp inDone with inFront | isLast
          · exact List.mem_append_left _ inFront
          · simp [List.mem_singleton.mp isLast]

theorem broughtUp_enabled {recovering : Environment} {start : Runtime} {name : String}
    (brought : BroughtUp config start (recover config recovering start) name) :
    name ∈ enabledNames config := by
  cases readable : runtimeProfile config start.marker with
  | error error =>
      have idle : (recover config recovering start).state = start ∧
          (recover config recovering start).result ≠ .ok true := by
        unfold recover
        split
        · exact ⟨rfl, by simp [pure]⟩
        · change (Program.andThen (selectedProfile config) _ start).state = _ ∧
            (Program.andThen (selectedProfile config) _ start).result ≠ _
          simp [selectedProfile, Program.andThen, Program.fromExcept, readable]
      obtain ⟨up, down | ⟨dials, attempted, dialed⟩ | ⟨returned, -⟩⟩ := brought
      · rw [idle.1, down] at up
        simp at up
      · rw [idle.1, List.self_eq_append_right] at attempted
        simp [attempted] at dialed
      · exact absurd returned idle.2
  | ok active =>
      have usable := runtimeProfile_usable readable
      have enabled := (searchOrder_failover usable).enabled usable
      have ended := (@recover_searched config recovering start active facts readable).ends rfl
      obtain ⟨attempts, isFront, attempted, others⟩ : ∃ attempts,
          attempts <+: searchOrder config active ∧
          (recover config recovering start).state.attempts = start.attempts ++ attempts ∧
          ∀ name, name ∉ searchOrder config active →
            (recover config recovering start).state.connected name = start.connected name := by
        cases result : (recover config recovering start).result with
        | ok found =>
            rw [result] at ended
            obtain ⟨attempts, reached, ends⟩ := ended
            exact ⟨attempts, ends.search.attempts_front, ends.attempts, ends.others⟩
        | error error =>
            rw [result] at ended
            obtain ⟨⟨attempts, isFront, attempted⟩, others, -⟩ := ended
            exact ⟨attempts, isFront, attempted, others⟩
      obtain ⟨up, down | ⟨dials, dialed, member⟩ | ⟨-, profile, selected, rfl⟩⟩ := brought
      · by_contra disabled
        rw [others name fun inOrder => disabled (enabled name inOrder), down] at up
        simp at up
      · obtain rfl := List.append_cancel_left (attempted.symm.trans dialed)
        exact enabled name (isFront.mem member)
      · exact List.mem_map_of_mem (List.mem_filter.mpr
          ⟨runtimeProfile_mem selected, runtimeProfile_enabled selected⟩)

theorem keepsRecovered : KeepsRecovered config env := by
  intro recovering start name brought
  obtain ⟨profile, member, enabled, rfl⟩ := enabledNames_member (broughtUp_enabled facts brought)
  exact enforcement_keeps facts member enabled brought.1

omit facts in
theorem teardownsEnd_stopped {active : Option String} {connected : String → Bool}
    {front back : List UpstreamProfileConfig} {profile : UpstreamProfileConfig}
    (whole : config.upstream.profiles = front ++ profile :: back)
    (none : ∀ other ∈ front, Leftover connected other = false)
    (leftover : Leftover connected profile = true) (raises : ¬TearsDown config (env.around .called)) :
    TeardownsEnd config env active connected ↔
      ∀ other ∈ back, Standby active connected other = false ∧ Leftover connected other = false := by
  constructor
  · rintro (tears | behind)
    · exact absurd tears raises
    · exact behind front profile back whole none leftover
  · refine fun idle => Or.inr fun front' profile' back' whole' none' leftover' => ?_
    rcases append_cons_cases (whole.symm.trans whole') with inFront | ⟨-, -, rfl⟩ | inFront
    · simp [none profile' inFront] at leftover'
    · exact idle
    · simp [none' profile inFront] at leftover

end

/-- The active profile's name. A marker that cannot be read selects nobody. -/
def activeName (config : AppConfig) (marker : TextFile) : Option String :=
  match runtimeProfile config marker with
  | .ok active => active.map (·.name)
  | .error _ => none

/-- The loop is not ended while there is something to do: the marker can be read and no teardown raises
in front of a profile to be processed, or there is nothing to do at all. -/
def LoopCompletes (config : AppConfig) (env : Environment) (before : Runtime) : Prop :=
  match runtimeProfile config before.marker with
  | .ok active => TeardownsEnd config env (active.map (·.name)) before.connected
  | .error _ => ∀ profile ∈ config.upstream.profiles,
      Standby none before.connected profile = false ∧ Leftover before.connected profile = false

section

variable {config : AppConfig} (facts : config.Facts) {env : Environment} {before : Runtime}

include facts

theorem enforced_readable {active : Option UpstreamProfileConfig}
    (readable : runtimeProfile config before.marker = .ok active)
    (dialsEnd : DialsEnd config env (active.map (·.name)) before) :
    Enforced config (active.map (·.name)) before (enforceProfileEnablement config env before).state ↔
      TeardownsEnd config env (active.map (·.name)) before.connected := by
  have ended := (@enforceProfileEnablement_processed config env before.connections active facts
    readable).ends rfl
  generalize enforceProfileEnablement config env before = outcome at ended ⊢
  obtain ⟨result, after, events⟩ := outcome
  cases result with
  | ok value =>
      refine iff_of_true (enforced_of_processed facts readable ended.1) ?_
      refine or_iff_not_imp_left.mpr fun raises front profile back whole _ leftover => ?_
      exact absurd (ended.2 profile (by simp [whole]) leftover) raises
  | error error =>
      obtain ⟨front, profile, back, whole, processed, tears, stops⟩ := ended
      rcases stops with ⟨leftover, raises⟩ | ⟨standby, state, failure, marker, failed, unhandled⟩
      · have none : ∀ other ∈ front, Leftover before.connected other = false :=
          fun other inFront => Bool.eq_false_iff.mpr fun up => raises (tears other inFront up)
        rw [teardownsEnd_stopped whole none leftover raises]
        have split : config.upstream.profiles = (front ++ [profile]) ++ back := by simp [whole]
        have distinct := facts.names
        rw [split] at distinct
        constructor
        · exact fun enforced => processed.idle_of_enforced split distinct enforced
        · intro idle
          refine enforced_of_processed facts readable ?_
          rw [split]
          exact processed.idle_rest distinct idle
      · have member : profile ∈ config.upstream.profiles := by simp [whole]
        exact absurd (dialsEnd profile member standby state failure marker failed) (by simp [unhandled])

omit facts in
theorem enforced_unreadable {error : PyError} (unreadable : runtimeProfile config before.marker = .error error) :
    Enforced config none before (enforceProfileEnablement config env before).state ↔
      ∀ profile ∈ config.upstream.profiles,
        Standby none before.connected profile = false ∧ Leftover before.connected profile = false := by
  have idle : (enforceProfileEnablement config env before).state = before := by
    change (Program.andThen (selectedProfile config) _ before).state = _
    simp only [selectedProfile, Program.andThen, Program.fromExcept, unreadable]
  rw [idle]
  constructor
  · intro enforced profile member
    obtain ⟨dials, attempted, once⟩ := enforced.dialed
    obtain rfl := List.self_eq_append_right.mp attempted
    constructor
    · cases enabled : profile.enabled with
      | false => simp [Standby, enabled]
      | true =>
          have count := once profile member enabled (by simp)
          cases up : before.connected profile.name with
          | false => simp [up] at count
          | true => simp [Standby, up]
    · cases enabled : profile.enabled with
      | true => simp [Leftover, enabled]
      | false => simp [Leftover, enforced.down profile member enabled]
  · intro nothing
    refine ⟨fun profile member disabled => ?_, ⟨[], by simp, fun profile member enabled _ => ?_⟩, rfl,
      fun _ _ => rfl⟩
    · simpa [Leftover, disabled] using (nothing profile member).2
    · have up : before.connected profile.name = true := by
        simpa [Standby, enabled] using (nothing profile member).1
      simp [up]

end

/-- An enforcement does what is asked of it exactly when neither the marker nor a raising teardown leaves
profiles unprocessed, and it never ends what a recovery brought up. -/
theorem enforced_iff {config : AppConfig} (valid : config.Valid) (env : Environment) {before : Runtime}
    (dialsEnd : ∀ active, runtimeProfile config before.marker = .ok active →
      DialsEnd config env (active.map (·.name)) before) :
    (Enforced config (activeName config before.marker) before
        (enforceProfileEnablement config env before).state ∧ KeepsRecovered config env) ↔
      LoopCompletes config env before := by
  rw [and_iff_left (keepsRecovered valid.facts)]
  cases readable : runtimeProfile config before.marker with
  | ok active =>
      simp only [activeName, LoopCompletes, readable]
      exact enforced_readable valid.facts readable (dialsEnd active readable)
  | error error =>
      simp only [activeName, LoopCompletes, readable]
      exact enforced_unreadable readable

def mixedConfig : AppConfig where
  upstream := {
    enabled := true
    profiles := [plainProfile "first", plainProfile "spare", { plainProfile "old" with enabled := false }] }

def mixedUp : Runtime where
  connected := fun name => name = "first" || name = "old"

theorem connectProfile_refused {config : AppConfig} {env : Environment} {profile : UpstreamProfileConfig}
    {state : Runtime} {selected : Option UpstreamProfileConfig} {interface : String} {ruleset : Ruleset}
    {error : PyError} (readable : runtimeProfile config state.marker = .ok selected)
    (device : activeInterface config state.marker = .ok interface)
    (rendered : render (env.around (.dialing profile.name)).files config (some interface) = .ok ruleset)
    (refused : env.dial profile.name = .refused error) :
    (connectProfile config env profile state).result = .error error := by
  let noted : Runtime := { state with attempts := state.attempts ++ [profile.name] }
  obtain ⟨result, after, ran⟩ := @nftablesApply_total
    ((env.around (.dialing profile.name)).answersIn config noted) _ config _ ruleset rendered state.host
  have applied : (applyNftables config (env.around (.dialing profile.name)) (some interface) noted).result =
      .ok result := by
    unfold applyNftables ApplyEvent.run
    simp only [noted, ran]
  have dialed : ∀ other, (dial env profile other).result = .error error := by
    intro other
    unfold dial
    rw [refused]
    rfl
  refine (Program.bind_result_of_ok rfl).trans ?_
  refine (Program.bind_result_of_ok readable).trans ?_
  refine (Program.bind_result_of_ok device).trans ?_
  exact (Program.bind_result_of_ok applied).trans (Program.bind_result_error (dialed _))

theorem enforced_iff_sample :
    Enforced mixedConfig (some "first") mixedUp
        (enforceProfileEnablement mixedConfig refusingEnvironment mixedUp).state ∧
      KeepsRecovered mixedConfig refusingEnvironment := by
  have first : runtimeProfile mixedConfig mixedUp.marker = .ok (some (plainProfile "first")) := rfl
  have device : activeInterface mixedConfig mixedUp.marker = .ok "oc-middle0" := rfl
  refine (@enforced_iff mixedConfig ⟨fun _ => false, by decide⟩ refusingEnvironment mixedUp ?_).mpr ?_
  · intro active readable profile member standby state error marker raised
    obtain ⟨ruleset, rendered⟩ : ∃ ruleset, render {} mixedConfig (some "oc-middle0") = .ok ruleset := ⟨_, rfl⟩
    have refused := @connectProfile_refused mixedConfig refusingEnvironment profile state _ _ ruleset .commandError
      (by rw [marker]; exact first) (by rw [marker]; exact device) rendered rfl
    obtain rfl := Except.error.inj (raised.symm.trans refused)
    rfl
  · exact Or.inl ⟨_, rfl⟩

def leftoversConfig : AppConfig where
  upstream := {
    enabled := true
    profiles := sampleConfig.upstream.profiles ++
      [{ plainProfile "old" with enabled := false }, { plainProfile "older" with enabled := false }] }
  routing := { fwmark := "7" }

def leftoversUp : Runtime where
  connected := fun name => name = "old" || name = "older"

theorem teardown_stopsEnforcement :
    leftoversConfig.Valid ∧
      (runtimeProfile leftoversConfig leftoversUp.marker).toOption.join.map (·.name) = some "work" ∧
      (enforceProfileEnablement leftoversConfig refusingEnvironment leftoversUp).result =
        .error (.valueError "Invalid format specifier") ∧
      ¬Enforced leftoversConfig (some "work") leftoversUp
        (enforceProfileEnablement leftoversConfig refusingEnvironment leftoversUp).state := by
  refine ⟨⟨fun _ => false, by decide⟩, rfl, rfl, fun enforced => ?_⟩
  have down := enforced.down { plainProfile "older" with enabled := false } (by decide) rfl
  revert down
  decide

end Korserver
