import Korserver.ProfileData
import Korserver.Runs
import Korserver.Settings
import Korserver.SettingsRaceCore

/-!
When two settings requests that overlap both keep their changes.
-/

namespace Korserver

open PythonText PythonValue Interleavings Runs Effects

namespace SaveStage

variable {Config Profile : Type}

/-- Between the look at `app.state.config` and the swap. -/
def underway : SaveStage Config Profile → Bool
  | .planned _ => true
  | .loaded _ _ => true
  | .validated _ _ => true
  | .written _ => true
  | .reloaded _ _ => true
  | _ => false

def merging : SaveStage Config Profile → Bool
  | .loaded _ _ => true
  | .validated _ _ => true
  | _ => false

def pending : SaveStage Config Profile → Bool
  | .written _ => true
  | .reloaded _ _ => true
  | _ => false

def isReturned : SaveStage Config Profile → Bool
  | .returned _ => true
  | _ => false

end SaveStage

section

variable {Config Profile : Type} (model : ProfileModel Config Profile) (context : ConfigContext Config)

def StageReadsBack : SaveStage Config Profile → Prop
  | .validated _ merged => context.yamlLoad (context.yamlDump merged) = .ok (.dict merged)
  | _ => True

/-- The step of one request meets the other at a stage where both updates survive. -/
def StageOrderly (request : SaveRequest) (state : ConfigState Config)
    (other : SaveStage Config Profile) : SaveStage Config Profile → Prop
  | .called => (request matches .profile _) → other.underway = false
  | .planned _ => other.merging = false
  | .written (.profile _ profiles _) =>
      ∀ config, context.loadConfig state.file = .ok config → model.profiles config = profiles
  | .reloaded _ config => other.isReturned = true → context.loadConfig state.file = .ok config
  | _ => True

def ReadsBack (race : SaveRace Config Profile) : Side → Prop
  | .left => StageReadsBack context race.left
  | .right => StageReadsBack context race.right

def Orderly (left right : SaveRequest) (race : SaveRace Config Profile) : Side → Prop
  | .left => StageOrderly model context left race.shared race.right race.left
  | .right => StageOrderly model context right race.shared race.left race.right

def Compatible : SaveRequest → SaveRequest → Prop
  | .patch changes, .patch others => IsMapping changes ∧ IsMapping others ∧
      DisjointEntries others changes ∧ DisjointEntries changes others
  | .profile payload, .profile other => payload.name ≠ other.name
  | _, _ => False

/-- The change of a request that returned is in the file and in the configuration. -/
def KeepsChange (data : List (String × Json)) (config : Config) (request : SaveRequest)
    (stage : SaveStage Config Profile) : Prop :=
  match request with
  | .patch changes => HoldsEntries data changes
  | .profile _ => ∃ saved profiles changes upstream listed,
      stage = .returned (.profile saved profiles changes) ∧ saved ∈ model.profiles config ∧
        dictGet "upstream" data = some (.dict upstream) ∧
        dictGet "profiles" upstream = some (.list listed) ∧ model.modelDump saved ∈ listed

/-- Both changes are in the file, and the configuration in use is the one that the file gives. -/
def NoLostUpdate (left right : SaveRequest) (race : SaveRace Config Profile) : Prop :=
  ∃ data, context.loadExistingMapping race.shared.file = .ok data ∧
    context.loadConfig race.shared.file = .ok race.shared.config ∧
      KeepsChange model data race.shared.config left race.left ∧
        KeepsChange model data race.shared.config right race.right

end

section Patches

variable {Config Profile : Type} {model : ProfileModel Config Profile} {context : ConfigContext Config}

def FileHolds (context : ConfigContext Config) (file : TextFile) (changes : List (String × Json)) : Prop :=
  ∃ data, context.loadExistingMapping file = .ok data ∧ HoldsEntries data changes

def SaveStage.wrote (stage : SaveStage Config Profile) : Bool := stage.pending || stage.isReturned

/-- What a request knows of the file at each stage, beside the other one. -/
def PatchSafe (context : ConfigContext Config) (changes : List (String × Json)) (file : TextFile)
    (other : SaveStage Config Profile) : SaveStage Config Profile → Prop
  | .called => True
  | .planned plan => plan = .patch changes
  | .loaded plan data => plan = .patch changes ∧ context.loadExistingMapping file = .ok data
  | .validated plan merged => plan = .patch changes ∧
      ∃ data, context.loadExistingMapping file = .ok data ∧ merged = deepMerge data changes
  | .written plan => plan = .patch changes ∧ FileHolds context file changes
  | .reloaded plan config => plan = .patch changes ∧ FileHolds context file changes ∧
      (context.loadConfig file = .ok config ∨ other.wrote = true)
  | .returned plan => plan = .patch changes ∧ FileHolds context file changes
  | .failed => False

structure PatchesSafe (context : ConfigContext Config) (changes others : List (String × Json))
    (race : SaveRace Config Profile) : Prop where
  left : PatchSafe context changes race.shared.file race.right race.left
  right : PatchSafe context others race.shared.file race.left race.right
  exclusive : race.left.merging = true → race.right.merging = false
  shown : race.left.isReturned = true ∨ race.right.isReturned = true →
    context.loadConfig race.shared.file = .ok race.shared.config ∨
      race.left.pending = true ∨ race.right.pending = true

variable {changes others : List (String × Json)} {race : SaveRace Config Profile}

theorem PatchesSafe.swap (safe : PatchesSafe context changes others race) :
    PatchesSafe context others changes race.swap where
  left := safe.right
  right := safe.left
  exclusive := by
    intro merging
    by_contra both
    exact absurd merging (by simp [Pair.swap, safe.exclusive (by simpa [Pair.swap] using both)])
  shown := by
    intro returned
    rcases safe.shown returned.symm with current | pending
    · exact Or.inl current
    · exact Or.inr pending.symm

theorem PatchSafe.mono {file : TextFile} {other next own : SaveStage Config Profile}
    (safe : PatchSafe context changes file other own) (wrote : other.wrote = true → next.wrote = true) :
    PatchSafe context changes file next own := by
  cases own with
  | reloaded plan config => exact ⟨safe.1, safe.2.1, safe.2.2.imp_right wrote⟩
  | called => exact safe
  | planned plan => exact safe
  | loaded plan data => exact safe
  | validated plan merged => exact safe
  | written plan => exact safe
  | returned plan => exact safe
  | failed => exact safe

theorem PatchSafe.written {file : TextFile} {text : String} {data : List (String × Json)}
    {other next own : SaveStage Config Profile} (safe : PatchSafe context changes file other own)
    (notMerging : own.merging = false) (wrote : next.wrote = true)
    (before : context.loadExistingMapping file = .ok data)
    (after : context.loadExistingMapping (.text text) = .ok (deepMerge data others))
    (disjoint : DisjointEntries others changes) (mapping : IsMapping others) :
    PatchSafe context changes (.text text) next own := by
  have keeps (holds : FileHolds context file changes) : FileHolds context (.text text) changes := by
    obtain ⟨data', found, holds⟩ := holds
    obtain rfl := Except.ok.inj (before.symm.trans found)
    exact ⟨_, after, holdsEntries_kept holds disjoint mapping⟩
  cases own with
  | called => exact safe
  | planned plan => exact safe
  | loaded plan data => nomatch notMerging
  | validated plan merged => nomatch notMerging
  | written plan => exact ⟨safe.1, keeps safe.2⟩
  | reloaded plan config => exact ⟨safe.1, keeps safe.2.1, Or.inr wrote⟩
  | returned plan => exact ⟨safe.1, keeps safe.2⟩
  | failed => exact safe

theorem PatchesSafe.move (safe : PatchesSafe context changes others race) {config : Config}
    {next : SaveStage Config Profile}
    (own : PatchSafe context changes race.shared.file race.right next)
    (wrote : race.left.wrote = true → next.wrote = true)
    (exclusive : next.merging = true → race.right.merging = false)
    (shown : next.isReturned = true ∨ race.right.isReturned = true →
      context.loadConfig race.shared.file = .ok config ∨ next.pending = true ∨ race.right.pending = true) :
    PatchesSafe context changes others
      { race with shared := { race.shared with config }, left := next } where
  left := own
  right := safe.right.mono wrote
  exclusive := exclusive
  shown := shown

variable {request : SaveRequest}

theorem PatchesSafe.leftStep (request : SaveRequest) (compatible : Compatible (.patch changes) (.patch others))
    (safe : PatchesSafe context changes others race) (readsBack : StageReadsBack context race.left)
    (orderly : StageOrderly model context (.patch changes) race.shared race.right race.left) :
    (saveTurn model context (.patch changes) request race .left).left = .failed ∨
      PatchesSafe context changes others (saveTurn model context (.patch changes) request race .left) := by
  obtain ⟨mapping, mapping', disjoint, disjoint'⟩ := compatible
  have own := safe.left
  have shown := safe.shown
  cases left : race.left with
  | called =>
      rw [left] at shown
      refine Or.inr ?_
      simp only [saveTurn, turn, left, SaveRequest.step, SaveRequest.plan]
      exact @PatchesSafe.move _ _ _ _ _ _ safe race.shared.config _ rfl (by simp [left, SaveStage.wrote,
        SaveStage.pending, SaveStage.isReturned]) nofun shown
  | planned plan =>
      rw [left] at own shown orderly
      cases found : context.loadExistingMapping race.shared.file with
      | error problem => exact Or.inl (by simp [saveTurn, turn, left, SaveRequest.step, found])
      | ok data =>
          refine Or.inr ?_
          simp only [saveTurn, turn, left, SaveRequest.step, found]
          exact @PatchesSafe.move _ _ _ _ _ _ safe race.shared.config _ ⟨own, found⟩
            (by simp [left, SaveStage.wrote, SaveStage.pending, SaveStage.isReturned])
            (fun _ => orderly) shown
  | loaded plan data =>
      rw [left] at own shown
      obtain ⟨rfl, found⟩ := own
      cases checked : context.validateYamlConfig (deepMerge data changes) with
      | error problem =>
          exact Or.inl (by simp [saveTurn, turn, left, SaveRequest.step, SavePlan.changes, checked])
      | ok config =>
          have exclusive := safe.exclusive
          rw [left] at exclusive
          refine Or.inr ?_
          simp only [saveTurn, turn, left, SaveRequest.step, SavePlan.changes, checked]
          exact @PatchesSafe.move _ _ _ _ _ _ safe race.shared.config _ ⟨rfl, data, found, rfl⟩
            (by simp [left, SaveStage.wrote, SaveStage.pending, SaveStage.isReturned])
            (fun _ => exclusive rfl) shown
  | validated plan merged =>
      rw [left] at own readsBack
      obtain ⟨rfl, data, found, rfl⟩ := own
      have after : context.loadExistingMapping (.text (context.yamlDump (deepMerge data changes))) =
          .ok (deepMerge data changes) := loadExistingMapping_written readsBack
      have exclusive := safe.exclusive
      rw [left] at exclusive
      refine Or.inr ?_
      simp only [saveTurn, turn, left, SaveRequest.step]
      exact {
        left := ⟨rfl, _, after, holdsEntries_merged mapping data⟩
        right := safe.right.written (exclusive rfl) rfl found after disjoint' mapping
        exclusive := nofun
        shown := fun _ => Or.inr (Or.inl rfl) }
  | written plan =>
      rw [left] at own
      cases loaded : context.loadConfig race.shared.file with
      | error problem => exact Or.inl (by simp [saveTurn, turn, left, SaveRequest.step, loaded])
      | ok config =>
          refine Or.inr ?_
          simp only [saveTurn, turn, left, SaveRequest.step, loaded]
          exact @PatchesSafe.move _ _ _ _ _ _ safe race.shared.config _ ⟨own.1, own.2, Or.inl loaded⟩
            (fun _ => rfl) nofun (fun _ => Or.inr (Or.inl rfl))
  | reloaded plan config =>
      rw [left] at own orderly
      refine Or.inr ?_
      simp only [saveTurn, turn, left, SaveRequest.step]
      refine safe.move ⟨own.1, own.2.1⟩ (fun _ => rfl) nofun fun _ => ?_
      rcases own.2.2 with current | wrote
      · exact Or.inl current
      · -- the other request has written since; it swaps after this one, or has swapped already
        rcases Bool.or_eq_true _ _ ▸ wrote with pending | returned
        · exact Or.inr (Or.inr pending)
        · exact Or.inl (orderly returned)
  | returned plan =>
      refine Or.inr ?_
      have stays : saveTurn model context (.patch changes) request race .left = race := by
        simp only [saveTurn, turn, left, SaveRequest.step]
        rw [← left]
      rw [stays]
      exact safe
  | failed =>
      rw [left] at own
      exact own.elim

theorem saveTurn_failed {left right : SaveRequest} (side : Side)
    (failed : race.left = .failed ∨ race.right = .failed) :
    (saveTurn model context left right race side).left = .failed ∨
      (saveTurn model context left right race side).right = .failed := by
  rcases failed with leftFailed | rightFailed
  · cases side with
    | left => exact Or.inl (by simp only [saveTurn, turn, leftFailed, SaveRequest.step])
    | right => exact Or.inl leftFailed
  · cases side with
    | left => exact Or.inr rightFailed
    | right => exact Or.inr (by simp only [saveTurn, turn, rightFailed, SaveRequest.step])

theorem patches_turn (compatible : Compatible (.patch changes) (.patch others)) (side : Side)
    (safe : (race.left = .failed ∨ race.right = .failed) ∨ PatchesSafe context changes others race)
    (readsBack : ReadsBack context race side)
    (orderly : Orderly model context (.patch changes) (.patch others) race side) :
    ((saveTurn model context (.patch changes) (.patch others) race side).left = .failed ∨
        (saveTurn model context (.patch changes) (.patch others) race side).right = .failed) ∨
      PatchesSafe context changes others
        (saveTurn model context (.patch changes) (.patch others) race side) := by
  rcases safe with failed | safe
  · exact Or.inl (saveTurn_failed side failed)
  · cases side with
    | left =>
        rcases safe.leftStep (.patch others) compatible readsBack orderly with failed | next
        · exact Or.inl (Or.inl failed)
        · exact Or.inr next
    | right =>
        have mirrored : Compatible (.patch others) (.patch changes) :=
          ⟨compatible.2.1, compatible.1, compatible.2.2.2, compatible.2.2.1⟩
        rcases safe.swap.leftStep (.patch changes) mirrored readsBack orderly with failed | next
        · exact Or.inl (Or.inr failed)
        · exact Or.inr next.swap

theorem patches_kept (compatible : Compatible (.patch changes) (.patch others))
    (state : ConfigState Config) {schedule : List Side}
    (steps : Throughout (saveTurn model context (.patch changes) (.patch others))
      (fun race side => ReadsBack context race side ∧
        Orderly model context (.patch changes) (.patch others) race side) (saveStart state) schedule)
    {leftPlan rightPlan : SavePlan Profile}
    (finished : (run (saveTurn model context (.patch changes) (.patch others)) (saveStart state)
        schedule).left = .returned leftPlan ∧
      (run (saveTurn model context (.patch changes) (.patch others)) (saveStart state)
        schedule).right = .returned rightPlan) :
    NoLostUpdate model context (.patch changes) (.patch others)
      (run (saveTurn model context (.patch changes) (.patch others)) (saveStart state) schedule) := by
  have start : PatchesSafe context changes others (saveStart state : SaveRace Config Profile) :=
    ⟨trivial, trivial, nofun, nofun⟩
  have safe := @run_throughout _ _ (saveTurn model context (.patch changes) (.patch others))
    (fun race => (race.left = .failed ∨ race.right = .failed) ∨
      PatchesSafe context changes others race) _
    (fun race side safe step => patches_turn compatible side safe step.1 step.2) _ _ (Or.inr start) steps
  revert safe finished
  generalize run (saveTurn model context (.patch changes) (.patch others)) (saveStart state) schedule = race
  rintro ⟨left, right⟩ (failed | safe)
  · simp [left, right] at failed
  · have shown := safe.shown (Or.inl (by rw [left]; rfl))
    rw [left, right] at shown
    have current := shown.resolve_right (by simp [SaveStage.pending])
    have leftSafe := safe.left
    have rightSafe := safe.right
    rw [left] at leftSafe
    rw [right] at rightSafe
    obtain ⟨-, data, found, holds⟩ := leftSafe
    obtain ⟨-, data', found', holds'⟩ := rightSafe
    obtain rfl := Except.ok.inj (found.symm.trans found')
    exact ⟨data, found, current, holds, holds'⟩

end Patches

/-! Saves of profiles. -/

section Profiles

variable {Config Profile : Type} {model : ProfileModel Config Profile} {context : ConfigContext Config}

/-- The plan of a save: the profile is in the list that replaces the stored one. -/
def ProfilePlan (model : ProfileModel Config Profile) (payload : UpstreamProfileRequest)
    (plan : SavePlan Profile) : Prop :=
  ∃ saved profiles config,
    plan = .profile saved profiles (upstreamPatch model config saved profiles payload.enable) ∧
      saved ∈ profiles ∧ model.name saved = payload.name

def SavePlan.profiles : SavePlan Profile → List Profile
  | .patch _ => []
  | .profile _ profiles _ => profiles

theorem saveProfilePlan_ok {config : Config} {payload : UpstreamProfileRequest} {plan : SavePlan Profile}
    (planned : saveProfilePlan model config payload = .ok plan) :
    ProfilePlan model payload plan ∧
      ∀ other ∈ model.profiles config, model.name other ≠ payload.name → other ∈ plan.profiles := by
  obtain ⟨saved, valid, same⟩ := bind_ok.mp planned
  have named : model.name saved = payload.name := by
    have kept := model.keepsName _ _ valid
    rw [profileData_name] at kept
    exact (Json.str.inj (Option.some.inj kept)).symm
  obtain rfl := pure_ok.mp same
  have others : ∀ other ∈ model.profiles config, model.name other ≠ payload.name →
      other ∈ (model.profiles config).map fun item =>
        if model.name item = model.name saved then saved else item := by
    intro other member different
    exact List.mem_map.mpr ⟨other, member, if_neg (by rw [named]; exact different)⟩
  cases existing : (model.profiles config).find? fun item => model.name item == payload.name with
  | none =>
      refine ⟨⟨saved, _, config, rfl, by simp, named⟩, fun other member different => ?_⟩
      simp only [SavePlan.profiles, Option.isNone_none, if_true]
      exact List.mem_append_left _ (others other member different)
  | some item =>
      refine ⟨⟨saved, _, config, rfl, ?_, named⟩, fun other member different => ?_⟩
      · have isNamed : model.name item = model.name saved := by
          have found := List.find?_some existing
          rw [named]
          simpa using found
        simp only [Option.isNone_some, Bool.false_eq_true, if_false]
        exact List.mem_map.mpr ⟨item, List.mem_of_find?_eq_some existing, if_pos isNamed⟩
      · simp only [SavePlan.profiles, Option.isNone_some, Bool.false_eq_true, if_false]
        exact others other member different

theorem upstreamPatch_mapping (config : Config) (profile : Profile) (profiles : List Profile)
    (enable : Bool) : IsMapping (upstreamPatch model config profile profiles enable) := by
  unfold upstreamPatch
  split <;> simp [IsMapping, DistinctKeys, DistinctEntries, DistinctEntry]

theorem upstreamPatch_held {data : List (String × Json)} {config : Config} {profile : Profile}
    {profiles : List Profile} {enable : Bool}
    (holds : HoldsEntries data (upstreamPatch model config profile profiles enable)) :
    ∃ upstream, dictGet "upstream" data = some (.dict upstream) ∧
      dictGet "profiles" upstream = some (.list (profiles.map model.modelDump)) := by
  obtain ⟨⟨upstream, found, ⟨listed, -⟩⟩, -⟩ := holds
  exact ⟨upstream, found, listed⟩

def SaveStage.profiles : SaveStage Config Profile → List Profile
  | .planned plan => plan.profiles
  | .loaded plan _ => plan.profiles
  | .validated plan _ => plan.profiles
  | .written plan => plan.profiles
  | .reloaded plan _ => plan.profiles
  | .returned plan => plan.profiles
  | _ => []

def ProfileProgress (model : ProfileModel Config Profile) (context : ConfigContext Config)
    (payload : UpstreamProfileRequest) (state : ConfigState Config) : SaveStage Config Profile → Prop
  | .planned plan => ProfilePlan model payload plan
  | .loaded plan _ => ProfilePlan model payload plan
  | .validated plan merged => ProfilePlan model payload plan ∧ HoldsEntries merged plan.changes
  | .written plan => ProfilePlan model payload plan ∧ FileHolds context state.file plan.changes
  | .reloaded plan config => ProfilePlan model payload plan ∧
      FileHolds context state.file plan.changes ∧ context.loadConfig state.file = .ok config ∧
        model.profiles config = plan.profiles
  | .returned plan => ProfilePlan model payload plan ∧
      FileHolds context state.file plan.changes ∧ context.loadConfig state.file = .ok state.config ∧
        model.profiles state.config = plan.profiles
  | _ => False

/-- The other request has not captured yet, or its profile is in the list that is being saved. -/
def ProfileBefore (model : ProfileModel Config Profile) (payload : UpstreamProfileRequest)
    (profiles : List Profile) : SaveStage Config Profile → Prop
  | .called => True
  | .returned plan => ∃ saved listed changes, plan = .profile saved listed changes ∧
      saved ∈ profiles ∧ model.name saved = payload.name
  | _ => False

def ProfileLatest (model : ProfileModel Config Profile) (context : ConfigContext Config)
    (payload other : UpstreamProfileRequest) (race : SaveRace Config Profile) : Prop :=
  ProfileProgress model context payload race.shared race.left ∧
    ProfileBefore model other race.left.profiles race.right

variable {payload other : UpstreamProfileRequest} {race : SaveRace Config Profile}

theorem profile_capture (notCaptured : race.left = .called) (before : race.right = .called) :
    (saveTurn model context (.profile payload) (.profile other) race .left).left = .failed ∨
      ProfileLatest model context payload other
        (saveTurn model context (.profile payload) (.profile other) race .left) := by
  cases planned : saveProfilePlan model race.shared.config payload with
  | error problem =>
      exact Or.inl (by simp [saveTurn, turn, notCaptured, SaveRequest.step, SaveRequest.plan, planned])
  | ok plan =>
      refine Or.inr ?_
      simp only [saveTurn, turn, notCaptured, SaveRequest.step, SaveRequest.plan, planned]
      refine ⟨(saveProfilePlan_ok planned).1, ?_⟩
      rw [before]
      trivial

theorem ProfileLatest.ownStep (latest : ProfileLatest model context payload other race)
    (readsBack : StageReadsBack context race.left)
    (orderly : StageOrderly model context (.profile payload) race.shared race.right race.left) :
    (saveTurn model context (.profile payload) (.profile other) race .left).left = .failed ∨
      ProfileLatest model context payload other
        (saveTurn model context (.profile payload) (.profile other) race .left) := by
  obtain ⟨progress, before⟩ := latest
  cases left : race.left with
  | called =>
      rw [left] at progress
      exact progress.elim
  | planned plan =>
      rw [left] at progress before
      cases found : context.loadExistingMapping race.shared.file with
      | error problem => exact Or.inl (by simp [saveTurn, turn, left, SaveRequest.step, found])
      | ok data =>
          refine Or.inr ?_
          simp only [saveTurn, turn, left, SaveRequest.step, found]
          exact ⟨progress, before⟩
  | loaded plan data =>
      rw [left] at progress before
      cases checked : context.validateYamlConfig (deepMerge data plan.changes) with
      | error problem => exact Or.inl (by simp [saveTurn, turn, left, SaveRequest.step, checked])
      | ok config =>
          refine Or.inr ?_
          simp only [saveTurn, turn, left, SaveRequest.step, checked]
          refine ⟨⟨progress, ?_⟩, before⟩
          obtain ⟨saved, profiles, captured, rfl, -, -⟩ := progress
          exact holdsEntries_merged (upstreamPatch_mapping captured saved profiles payload.enable) data
  | validated plan merged =>
      rw [left] at progress before readsBack
      refine Or.inr ?_
      simp only [saveTurn, turn, left, SaveRequest.step]
      exact ⟨⟨progress.1, merged, loadExistingMapping_written readsBack, progress.2⟩, before⟩
  | written plan =>
      rw [left] at progress before orderly
      cases loaded : context.loadConfig race.shared.file with
      | error problem => exact Or.inl (by simp [saveTurn, turn, left, SaveRequest.step, loaded])
      | ok config =>
          refine Or.inr ?_
          simp only [saveTurn, turn, left, SaveRequest.step, loaded]
          obtain ⟨⟨saved, profiles, captured, rfl, isPlan⟩, holds⟩ := progress
          exact ⟨⟨⟨saved, profiles, captured, rfl, isPlan⟩, holds, loaded, orderly config loaded⟩, before⟩
  | reloaded plan config =>
      rw [left] at progress before
      refine Or.inr ?_
      simp only [saveTurn, turn, left, SaveRequest.step]
      exact ⟨progress, before⟩
  | returned plan =>
      refine Or.inr ?_
      have stays : saveTurn model context (.profile payload) (.profile other) race .left = race := by
        simp only [saveTurn, turn, left, SaveRequest.step]
        rw [← left]
      rw [stays]
      exact ⟨progress, before⟩
  | failed =>
      rw [left] at progress
      exact progress.elim

/-- A step of the other request: it captures what this one has put in place, or has returned. -/
theorem ProfileLatest.otherStep (different : payload.name ≠ other.name)
    (latest : ProfileLatest model context payload other race)
    (orderly : StageOrderly model context (.profile other) race.shared race.left race.right) :
    (saveTurn model context (.profile payload) (.profile other) race .right).right = .failed ∨
      ProfileLatest model context payload other
        (saveTurn model context (.profile payload) (.profile other) race .right) ∨
      ProfileLatest model context other payload
        (saveTurn model context (.profile payload) (.profile other) race .right).swap := by
  obtain ⟨progress, before⟩ := latest
  cases right : race.right with
  | called =>
      rw [right] at orderly
      have settled := orderly rfl
      cases left : race.left with
      | returned plan =>
          rw [left] at progress
          cases planned : saveProfilePlan model race.shared.config other with
          | error problem =>
              exact Or.inl (by simp [saveTurn, turn, right, SaveRequest.step, SaveRequest.plan, planned])
          | ok next =>
              refine Or.inr (Or.inr ?_)
              simp only [saveTurn, turn, right, SaveRequest.step, SaveRequest.plan, planned, Pair.swap]
              obtain ⟨made, carried⟩ := saveProfilePlan_ok planned
              obtain ⟨⟨saved, profiles, captured, rfl, member, named⟩, -, -, inUse⟩ := progress
              refine ⟨made, ?_⟩
              rw [left]
              refine ⟨saved, profiles, _, rfl, carried saved ?_ (by rw [named]; exact different), named⟩
              rw [inUse]
              exact member
      | called =>
          rw [left] at progress
          exact progress.elim
      | failed =>
          rw [left] at progress
          exact progress.elim
      | planned plan => simp [left, SaveStage.underway] at settled
      | loaded plan data => simp [left, SaveStage.underway] at settled
      | validated plan merged => simp [left, SaveStage.underway] at settled
      | written plan => simp [left, SaveStage.underway] at settled
      | reloaded plan config => simp [left, SaveStage.underway] at settled
  | returned plan =>
      refine Or.inr (Or.inl ?_)
      have stays : saveTurn model context (.profile payload) (.profile other) race .right = race := by
        simp only [saveTurn, turn, right, SaveRequest.step]
        rw [← right]
      rw [stays]
      exact ⟨progress, before⟩
  | planned plan =>
      rw [right] at before
      exact before.elim
  | loaded plan data =>
      rw [right] at before
      exact before.elim
  | validated plan merged =>
      rw [right] at before
      exact before.elim
  | written plan =>
      rw [right] at before
      exact before.elim
  | reloaded plan config =>
      rw [right] at before
      exact before.elim
  | failed =>
      rw [right] at before
      exact before.elim

/-- Nothing is captured yet, or one of the two captured last. -/
def ProfilesSafe (model : ProfileModel Config Profile) (context : ConfigContext Config)
    (payload other : UpstreamProfileRequest) (race : SaveRace Config Profile) : Prop :=
  (race.left = .called ∧ race.right = .called) ∨ ProfileLatest model context payload other race ∨
    ProfileLatest model context other payload race.swap

theorem profiles_turn (different : payload.name ≠ other.name) (side : Side)
    (safe : (race.left = .failed ∨ race.right = .failed) ∨
      ProfilesSafe model context payload other race)
    (readsBack : ReadsBack context race side)
    (orderly : Orderly model context (.profile payload) (.profile other) race side) :
    ((saveTurn model context (.profile payload) (.profile other) race side).left = .failed ∨
        (saveTurn model context (.profile payload) (.profile other) race side).right = .failed) ∨
      ProfilesSafe model context payload other
        (saveTurn model context (.profile payload) (.profile other) race side) := by
  rcases safe with failed | ⟨left, right⟩ | latest | latest
  · exact Or.inl (saveTurn_failed side failed)
  · cases side with
    | left => exact (profile_capture left right).imp Or.inl fun next => Or.inr (Or.inl next)
    | right =>
        have mirrored : race.swap.left = .called ∧ race.swap.right = .called := ⟨right, left⟩
        have captured : (saveTurn model context (.profile other) (.profile payload) race.swap .left).left =
            .failed ∨ ProfileLatest model context other payload
              (saveTurn model context (.profile other) (.profile payload) race.swap .left) :=
          profile_capture mirrored.1 mirrored.2
        exact captured.imp Or.inr fun next => Or.inr (Or.inr next)
  · cases side with
    | left => exact (latest.ownStep readsBack orderly).imp Or.inl fun next => Or.inr (Or.inl next)
    | right => exact (latest.otherStep different orderly).imp Or.inr Or.inr
  · cases side with
    | left => exact (latest.otherStep different.symm orderly).imp Or.inl fun next => Or.inr next.symm
    | right => exact (latest.ownStep readsBack orderly).imp Or.inr fun next => Or.inr (Or.inr next)

theorem ProfileLatest.kept {leftPlan rightPlan : SavePlan Profile}
    (latest : ProfileLatest model context payload other race) (left : race.left = .returned leftPlan)
    (right : race.right = .returned rightPlan) :
    NoLostUpdate model context (.profile payload) (.profile other) race := by
  obtain ⟨progress, before⟩ := latest
  rw [left] at progress before
  rw [right] at before
  obtain ⟨⟨saved, profiles, captured, rfl, member, -⟩, ⟨data, found, holds⟩, current, inUse⟩ := progress
  obtain ⟨earlier, listed, changes, rfl, earlierMember, -⟩ := before
  obtain ⟨upstream, inFile, dumped⟩ := upstreamPatch_held holds
  refine ⟨data, found, current, ?_, ?_⟩
  · exact ⟨saved, profiles, _, upstream, _, left, inUse ▸ member, inFile, dumped,
      List.mem_map_of_mem member⟩
  · exact ⟨earlier, listed, changes, upstream, _, right, inUse ▸ earlierMember, inFile, dumped,
      List.mem_map_of_mem earlierMember⟩

theorem NoLostUpdate.swap {left right : SaveRequest}
    (kept : NoLostUpdate model context left right race.swap) :
    NoLostUpdate model context right left race := by
  obtain ⟨data, found, current, first, second⟩ := kept
  exact ⟨data, found, current, second, first⟩

theorem profiles_kept (different : payload.name ≠ other.name) (state : ConfigState Config)
    {schedule : List Side}
    (steps : Throughout (saveTurn model context (.profile payload) (.profile other))
      (fun race side => ReadsBack context race side ∧
        Orderly model context (.profile payload) (.profile other) race side) (saveStart state) schedule)
    {leftPlan rightPlan : SavePlan Profile}
    (finished : (run (saveTurn model context (.profile payload) (.profile other)) (saveStart state)
        schedule).left = .returned leftPlan ∧
      (run (saveTurn model context (.profile payload) (.profile other)) (saveStart state)
        schedule).right = .returned rightPlan) :
    NoLostUpdate model context (.profile payload) (.profile other)
      (run (saveTurn model context (.profile payload) (.profile other)) (saveStart state) schedule) := by
  have safe := @run_throughout _ _ (saveTurn model context (.profile payload) (.profile other))
    (fun race => (race.left = .failed ∨ race.right = .failed) ∨
      ProfilesSafe model context payload other race) _
    (fun race side safe step => profiles_turn different side safe step.1 step.2) _ _
    (Or.inr (Or.inl ⟨rfl, rfl⟩)) steps
  revert safe finished
  generalize run (saveTurn model context (.profile payload) (.profile other)) (saveStart state)
    schedule = race
  rintro ⟨left, right⟩ (failed | ⟨notCaptured, -⟩ | latest | latest)
  · simp [left, right] at failed
  · simp [left] at notCaptured
  · exact latest.kept left right
  · exact (latest.kept right left).swap

end Profiles

section

variable {Config Profile : Type} {model : ProfileModel Config Profile} {context : ConfigContext Config}

/-- The steps of a patch that meets no other request are those of `apply_config_patch`. -/
theorem applyConfigPatch_steps (changes : List (String × Json)) (writeRendered : Bool)
    (other : SaveRequest) (state : ConfigState Config) :
    (run (saveTurn model context (.patch changes) other) (saveStart state)
        (List.replicate 6 .left)).shared =
      (applyConfigPatch context changes writeRendered state).state := by
  cases found : context.loadExistingMapping state.file with
  | error problem =>
      have data : (SettingsRequest.patch changes writeRendered).data context state.file =
          .error problem := by
        simp [SettingsRequest.data, found, bind, Except.bind]
      refine Eq.trans ?_ (Program.bind_state_error data).symm
      simp [run, saveTurn, saveStart, turn, SaveRequest.step, SaveRequest.plan, found, List.replicate,
        Program.fromExcept]
  | ok old =>
      have data : (SettingsRequest.patch changes writeRendered).data context state.file =
          .ok (deepMerge old changes) := by
        simp [SettingsRequest.data, found, bind, Except.bind, pure, Except.pure]
      refine Eq.trans ?_ (Program.bind_state_ok data).symm
      cases checked : context.validateYamlConfig (deepMerge old changes) with
      | error problem =>
          refine Eq.trans ?_ (@Program.bind_state_error _ _ _ _ _ _ _ _ problem rfl).symm
          simp [run, saveTurn, saveStart, turn, SaveRequest.step, SaveRequest.plan, SavePlan.changes, found,
            checked, List.replicate, Program.fromExcept]
      | ok config =>
          refine Eq.trans ?_ ((@Program.bind_state_ok _ _ _ _ _ _ _ _ config rfl).trans
            (commitRendered_state writeRendered (deepMerge old changes))).symm
          cases loaded : context.loadConfig (.text (context.yamlDump (deepMerge old changes))) <;>
            simp [run, saveTurn, saveStart, turn, SaveRequest.step, SaveRequest.plan, SavePlan.changes,
              found, checked, loaded, List.replicate, commit, bind, pure, Program.andThen,
              Program.modify, Program.tryModify, Program.fromExcept]

/-- When every step of two compatible requests is orderly and both return, neither update is lost. -/
theorem noLostUpdate {left right : SaveRequest} (compatible : Compatible left right)
    (state : ConfigState Config) {schedule : List Side}
    (steps : Throughout (saveTurn model context left right)
      (fun race side => ReadsBack context race side ∧ Orderly model context left right race side)
      (saveStart state) schedule)
    {leftPlan rightPlan : SavePlan Profile}
    (finished :
      (run (saveTurn model context left right) (saveStart state) schedule).left = .returned leftPlan ∧
      (run (saveTurn model context left right) (saveStart state) schedule).right = .returned rightPlan) :
    NoLostUpdate model context left right
      (run (saveTurn model context left right) (saveStart state) schedule) := by
  cases left with
  | patch changes =>
      cases right with
      | patch others => exact patches_kept compatible state steps finished
      | profile payload => exact compatible.elim
  | profile payload =>
      cases right with
      | patch others => exact compatible.elim
      | profile other => exact profiles_kept compatible state steps finished

end

/-! Two patches. -/

def portPatch : List (String × Json) := [("server", .dict [("port", .int 8443)])]

def cliPatch : List (String × Json) := [("cli", .dict [("enabled", .bool false)])]

def portText : String := "server:\n  port: 8443\n"

def cliText : String := "cli:\n  enabled: false\n"

def patchContext : ConfigContext (List (String × Json)) where
  path := "/etc/korserver/config.yaml"
  yamlLoad := fun text => .ok (.dict (
    if text = portText ++ cliText then portPatch ++ cliPatch
    else if text = portText then portPatch
    else if text = cliText then cliPatch
    else []))
  yamlDump := fun data =>
    (if (dictGet "server" data).isSome then portText else "") ++
      if (dictGet "cli" data).isSome then cliText else ""
  jsonLoads := fun _ => .undecodable
  environment := []
  modelValidate := .ok
  writeRendered := fun _ => .ok []

/-- No profile is stored, and none is sent. -/
def noProfiles : ProfileModel (List (String × Json)) Unit where
  profiles := fun _ => []
  activeProfile := fun _ => none
  name := fun _ => ""
  field := fun _ _ => .null
  modelValidate := fun _ => .error .typeError
  modelDump := fun _ => .null
  keepsName := nofun

def patchState : ConfigState (List (String × Json)) where
  file := .missing
  config := defaultConfig

def patchRace (schedule : List Side) : SaveRace (List (String × Json)) Unit :=
  run (saveTurn noProfiles patchContext (.patch portPatch) (.patch cliPatch)) (saveStart patchState)
    schedule

def oneByOne : List Side := List.replicate 6 .left ++ List.replicate 6 .right

example : oneByOne.count .left = oneByOne.count .right := by decide +kernel

theorem patches_compatible : Compatible (.patch portPatch) (.patch cliPatch) := by
  simp [Compatible, IsMapping, DistinctKeys, DistinctEntries, DistinctEntry, DisjointEntries, DisjointEntry,
    DisjointValue, portPatch, cliPatch, dictGet]

theorem noLostUpdate_sample :
    NoLostUpdate noProfiles patchContext (.patch portPatch) (.patch cliPatch) (patchRace oneByOne) := by
  refine noLostUpdate patches_compatible patchState ?_ ⟨rfl, rfl⟩
  refine ⟨⟨trivial, nofun⟩, ⟨trivial, rfl⟩, ⟨trivial, trivial⟩, ⟨?_, trivial⟩, ⟨trivial, trivial⟩,
    ⟨trivial, nofun⟩, ⟨trivial, nofun⟩, ⟨trivial, rfl⟩, ⟨trivial, trivial⟩, ⟨?_, trivial⟩, ⟨trivial, trivial⟩,
    ⟨trivial, fun _ => ?_⟩, trivial⟩
  · rfl
  · rfl
  · rfl

def overlapping : List Side := List.replicate 2 .left ++ List.replicate 6 .right ++ List.replicate 4 .left

theorem patchRace_overlapping : patchRace overlapping = {
    shared := { file := .text portText, config := deepMerge defaultConfig portPatch }
    left := .returned (.patch portPatch)
    right := .returned (.patch cliPatch) } := rfl

theorem overlappingPatches_loseOne :
    ∃ leftPlan rightPlan, (patchRace overlapping).left = .returned leftPlan ∧
      (patchRace overlapping).right = .returned rightPlan ∧
        ¬NoLostUpdate noProfiles patchContext (.patch portPatch) (.patch cliPatch)
          (patchRace overlapping) := by
  rw [patchRace_overlapping]
  refine ⟨.patch portPatch, .patch cliPatch, rfl, rfl, ?_⟩
  rintro ⟨data, found, -, -, holds⟩
  have written : data = portPatch := (Except.ok.inj found).symm
  subst written
  simp [KeepsChange, HoldsEntries, HoldsEntry, HoldsValue, portPatch, cliPatch, dictGet] at holds

end Korserver
