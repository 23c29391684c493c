import Korserver.UpstreamService

/-!
What the calls of `UpstreamService` do to the connections: to the marker, to the running
openconnect processes, and which dials they attempt. The rules and routes of the host play no part
here.
-/

namespace Korserver

open PythonText PythonValue Effects

structure Connections where
  marker : TextFile
  connected : String → Bool
  attempts : List String
  reached : List String

def Runtime.connections (state : Runtime) : Connections where
  marker := state.marker
  connected := state.connected
  attempts := state.attempts
  reached := state.reached

def Connections.attempt (links : Connections) (name : String) : Connections :=
  { links with attempts := links.attempts ++ [name] }

def Connections.bringUp (links : Connections) (name : String) : Connections :=
  { links with connected := Function.update links.connected name true }

def Connections.bringDown (links : Connections) (name : String) : Connections :=
  { links with connected := Function.update links.connected name false }

def Connections.reach (links : Connections) (name : String) : Connections :=
  { links with reached := links.reached ++ [name] }

/-- A program that leaves the connections as they are, however it ends. -/
def Quiet {α : Type} (program : Service α) : Prop :=
  ∀ holds : Connections → Prop, Triple (fun _ => True) (fun state => holds state.connections) program
    (fun _ state => holds state.connections) (fun state => holds state.connections)

namespace Quiet

variable {α β : Type}

theorem bind {first : Service α} {next : α → Service β} (quiet : Quiet first)
    (rest : ∀ value, Quiet (next value)) : Quiet (first >>= next) :=
  fun holds => Triple.bind (quiet holds) fun value => rest value holds

theorem pure {value : α} : Quiet (Pure.pure value : Service α) :=
  fun _ => Triple.pure fun _ => id

theorem fromExcept {result : Runtime → Except PyError α} :
    Quiet (Program.fromExcept result : Service α) :=
  fun _ => Triple.fromExcept (fun _ _ holds _ => holds) fun _ => id

theorem when {condition : Bool} {program : Service Unit} (quiet : Quiet program) :
    Quiet (program.when condition) :=
  fun holds => Triple.when (fun _ => quiet holds) fun _ _ => id

theorem succeeds {program : Service α} {handled : PyError → Bool} (quiet : Quiet program) :
    Quiet (program.succeeds handled) :=
  fun holds => Triple.succeeds (quiet holds)

theorem forEach {items : List α} {body : α → Service Unit} (quiet : ∀ item, Quiet (body item)) :
    Quiet (Program.forEach items body) :=
  fun holds => Triple.forEach fun item _ => quiet item holds

end Quiet

section

variable (config : AppConfig) (around : Surroundings)

theorem applyNftables_quiet (outbound : Option String) : Quiet (applyNftables config around outbound) := by
  intro holds state before _
  unfold applyNftables
  cases ran : ApplyEvent.run config { before := state, outbound, around } with
  | ok outcome =>
      simp only [ran]
      exact before
  | error failure =>
      simp only [ran]
      exact before

theorem tryPolicy_quiet (change : Runtime → PolicyTables → Except PyError PolicyTables) :
    Quiet (tryPolicy change) := by
  intro holds
  refine Triple.tryModify ?_ fun _ _ before _ => before
  intro state next before changed
  obtain ⟨policy, -, rfl⟩ := by simpa only [bind_ok, pure_ok] using changed
  exact before

theorem applyServerRouting_quiet : Quiet (applyServerRouting config around) := by
  refine Quiet.bind Quiet.fromExcept fun applied => Quiet.when ?_
  refine Quiet.bind Quiet.fromExcept fun interface => ?_
  refine Quiet.bind (applyNftables_quiet config around _) fun result => Quiet.when ?_
  exact Quiet.bind Quiet.fromExcept fun _ _ => Triple.modify fun _ => id

theorem pointNamedTarget_quiet (profile : UpstreamProfileConfig) :
    Quiet (pointNamedTarget config around profile) :=
  Quiet.bind Quiet.fromExcept fun _ => Quiet.forEach fun _ => Quiet.when (tryPolicy_quiet _)

end

section

variable {config : AppConfig} {env : Environment} {links : Connections}

/-- A program run where the connections are `links`. -/
def From (links : Connections) (state : Runtime) : Prop := state.connections = links

theorem Quiet.from {α : Type} {program : Service α} (quiet : Quiet program) (links : Connections) :
    Triple (fun _ => True) (From links) program (fun _ => From links) (From links) :=
  quiet (· = links)

theorem dial_connections (profile : UpstreamProfileConfig) (links : Connections) :
    Triple (fun _ => True) (From links) (dial env profile)
      (fun _ => From (links.bringUp profile.name)) (From links) := by
  unfold dial
  split
  · exact Triple.raise fun _ => id
  · exact Triple.raise fun _ => id
  · refine Triple.modify ?_
    rintro state rfl
    rfl

/-- A dial is attempted once. When `connect` returns, the profile is up; when it raises, it may be. -/
theorem connectProfile_connections (profile : UpstreamProfileConfig) (links : Connections) :
    Triple (fun _ => True) (From links) (connectProfile config env profile)
      (fun _ => From (((links.attempt profile.name).bringUp profile.name).reach profile.name))
      (fun state => From (links.attempt profile.name) state ∨
        From ((links.attempt profile.name).bringUp profile.name) state) := by
  have noted : Triple (fun _ => True) (From links) (noteAttempt profile.name)
      (fun _ => From (links.attempt profile.name)) fun state =>
        From (links.attempt profile.name) state ∨
          From ((links.attempt profile.name).bringUp profile.name) state := by
    refine Triple.modify ?_
    rintro state rfl
    rfl
  have early {α : Type} {program : Service α} (quiet : Quiet program) :=
    (quiet.from (links.attempt profile.name)).relax
      (fun _ => Or.inl : ∀ state, _ → _ ∨ From ((links.attempt profile.name).bringUp profile.name) state)
  have late {α : Type} {program : Service α} (quiet : Quiet program) :=
    (quiet.from ((links.attempt profile.name).bringUp profile.name)).relax
      (fun _ => Or.inr : ∀ state, _ → From (links.attempt profile.name) state ∨ _)
  refine Triple.bind noted fun _ => ?_
  refine Triple.bind (early Quiet.fromExcept) fun selected => ?_
  refine Triple.bind (early Quiet.fromExcept) fun interface => ?_
  refine Triple.bind (early (applyNftables_quiet config _ _)) fun _ => ?_
  refine Triple.bind ((dial_connections profile _).relax fun _ => Or.inl) fun _ => ?_
  refine Triple.bind (late (Quiet.when (tryPolicy_quiet _))) fun _ => ?_
  refine Triple.bind (late (pointNamedTarget_quiet config _ profile)) fun _ => ?_
  refine Triple.bind (late (applyServerRouting_quiet config _)) fun _ => ?_
  refine Triple.modify ?_
  intro state before
  rw [From] at before ⊢
  rw [← before]
  rfl

theorem disconnectProfile_connections (around : Surroundings) (profile : UpstreamProfileConfig)
    (links : Connections) :
    Triple (fun _ => True) (From links) (disconnectProfile config around profile)
      (fun _ => From (links.bringDown profile.name)) (From (links.bringDown profile.name)) := by
  have hung : Triple (fun _ => True) (From links) (hangUp config profile)
      (fun _ => From (links.bringDown profile.name)) (From (links.bringDown profile.name)) := by
    refine Triple.modify ?_
    rintro state rfl
    rfl
  refine Triple.bind hung fun _ => Quiet.from ?_ _
  refine Quiet.bind Quiet.fromExcept fun selected => Quiet.bind (Quiet.when (tryPolicy_quiet _)) fun _ => ?_
  exact Quiet.bind Quiet.fromExcept fun _ => Quiet.forEach fun _ => Quiet.when (tryPolicy_quiet _)

theorem matchesIdentifier_ne {first rest : Char → Bool} {limit : Nat} {text : String}
    (matched : matchesIdentifier first rest limit text = true) : text ≠ "" := by
  rintro rfl
  simp [matchesIdentifier, beforeDollar] at matched

theorem AppConfig.Facts.find_profile (facts : config.Facts) {profile : UpstreamProfileConfig}
    (member : profile ∈ config.upstream.profiles) :
    config.upstream.profiles.find? (·.name = profile.name) = some profile := by
  have some : (config.upstream.profiles.find? (·.name = profile.name)).isSome = true :=
    List.find?_isSome.mpr ⟨profile, member, by simp⟩
  obtain ⟨other, found⟩ := Option.isSome_iff_exists.mp some
  have same : other.name = profile.name := by simpa using List.find?_some found
  rw [found, facts.profile_unique_name (List.mem_of_find?_eq_some found) member same]

section Named

variable (facts : config.Facts) {profile : UpstreamProfileConfig}
  (member : profile ∈ config.upstream.profiles)

include facts member

theorem profileByName_member : profileByName config profile.name = pure profile := by
  unfold profileByName
  rw [facts.find_profile member]
  rfl

theorem profileOrSelected_member : profileOrSelected config (some profile.name) = pure (some profile) := by
  have named : truthy (some profile.name) = some profile.name :=
    if_neg (matchesIdentifier_ne (UpstreamProfileConfig.validate_ok (facts.profiles profile member)).1)
  rw [profileOrSelected, named]
  simp only [profileByName_member facts member]
  rfl

theorem connect_connections (down : links.connected profile.name = false) :
    Triple (fun _ => True) (From links) (connect config env (some profile.name))
      (fun _ => From (((links.attempt profile.name).bringUp profile.name).reach profile.name))
      (fun state => From (links.attempt profile.name) state ∨
        From ((links.attempt profile.name).bringUp profile.name) state) := by
  rw [connect, profileOrSelected_member facts member]
  change Triple _ _ (connectUnlessUp config env (some profile)) _ _
  refine Triple.bind Triple.read fun connected => Triple.when ?_ ?_
  · intro _
    exact (connectProfile_connections profile links).weaken (fun _ holds => holds.1) fun _ _ => id
  · rintro up state ⟨rfl, same⟩
    rw [same] at up
    change (!state.connections.connected profile.name) = false at up
    rw [down] at up
    simp at up

theorem disconnect_connections (around : Surroundings) :
    Triple (fun _ => True) (From links) (disconnect config around (some profile.name))
      (fun _ state => state.connections.connected profile.name = false ∧
        (From links state ∨ From (links.bringDown profile.name) state))
      (From (links.bringDown profile.name)) := by
  rw [disconnect, profileOrSelected_member facts member]
  change Triple _ _ (disconnectIfUp config around (some profile)) _ _
  refine Triple.bind Triple.read fun connected => Triple.when ?_ ?_
  · intro _
    refine (disconnectProfile_connections around profile links).weaken (fun _ holds => holds.1) ?_
    rintro _ state down
    exact ⟨by rw [down]; simp [Connections.bringDown], Or.inr down⟩
  · rintro down state ⟨before, same⟩
    exact ⟨same.symm.trans down, Or.inl before⟩

theorem switchProfile_connections :
    Triple (fun _ => True) (From links) (switchProfile config env profile.name)
      (fun _ => From { links with marker := markerOf profile.name })
      (From { links with marker := markerOf profile.name }) := by
  rw [switchProfile, profileByName_member facts member]
  refine Triple.bind (Triple.pure fun _ before => ⟨before, rfl⟩ :
    Triple _ _ _ (fun found state => From links state ∧ found = profile) _) fun found =>
      Triple.fact fun same => ?_
  refine Triple.bind (Triple.modify ?_) fun _ => Quiet.from ?_ _
  · rintro state rfl
    rfl
  · refine Quiet.bind (applyNftables_quiet config _ _) fun _ => ?_
    exact Quiet.bind Quiet.fromExcept fun _ => Quiet.when (tryPolicy_quiet _)

end Named

end

end Korserver
