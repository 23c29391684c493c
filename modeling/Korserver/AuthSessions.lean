import Korserver.AuthSessionsCore
import Korserver.Runs
import Mathlib.Tactic.NormNum

/-!
How long a session of the registry lives, read off the calls that were made.
-/

namespace Korserver

open Runs AuthSessionRegistry Doubles

inductive SessionCall
  | create (username token csrfToken : String) (checked now : ℚ)
  | get (token : String) (checked renewed : ℚ)
  | revoke (token : String)

namespace SessionCall

def readings : SessionCall → List ℚ
  | .create _ _ _ checked now => [checked, now]
  | .get _ checked renewed => [checked, renewed]
  | .revoke _ => []

def drawn : SessionCall → Option String
  | .create _ token _ _ _ => some token
  | _ => none

end SessionCall

/-- The registry with the calls so far and what they returned, the latest one first. -/
structure SessionRun where
  registry : AuthSessionRegistry
  log : List (SessionCall × Option AdminSession) := []

def SessionRun.answer (run : SessionRun) : SessionCall → Option AdminSession × AuthSessionRegistry
  | .create username token csrfToken checked now =>
      let (session, registry) := run.registry.create username token csrfToken checked now
      (some session, registry)
  | .get token checked renewed => run.registry.get token checked renewed
  | .revoke token => (none, run.registry.revoke token)

def SessionRun.step (run : SessionRun) (call : SessionCall) : SessionRun :=
  { registry := (run.answer call).2, log := (call, (run.answer call).1) :: run.log }

structure Creation where
  username : String
  csrfToken : String
  time : ℚ
  deriving DecidableEq

def creation (token : String) : List (SessionCall × Option AdminSession) → Option Creation
  | [] => none
  | (.create username drawn csrfToken _ now, _) :: earlier =>
      if drawn = token then some { username, csrfToken, time := now } else creation token earlier
  | _ :: earlier => creation token earlier

def lastUse (token : String) : List (SessionCall × Option AdminSession) → Option ℚ
  | [] => none
  | (.create _ drawn _ _ now, _) :: earlier =>
      if drawn = token then some now else lastUse token earlier
  | (.get asked _ renewed, some _) :: earlier =>
      if asked = token then some renewed else lastUse token earlier
  | _ :: earlier => lastUse token earlier

def revokedSince (token : String) : List (SessionCall × Option AdminSession) → Bool
  | [] => false
  | (.create _ drawn _ _ _, _) :: earlier =>
      if drawn = token then false else revokedSince token earlier
  | (.revoke revoked, _) :: earlier =>
      if revoked = token then true else revokedSince token earlier
  | _ :: earlier => revokedSince token earlier

structure LiveAt (arithmetic : Arithmetic) (lifetime : Int) (token : String)
    (log : List (SessionCall × Option AdminSession)) (time : ℚ) (created : Creation) (used : ℚ) : Prop where
  creates : creation token log = some created
  uses : lastUse token log = some used
  unrevoked : revokedSince token log = false
  recent : time < arithmetic.plus used lifetime
  young : arithmetic.minus time created.time ≤ 4 * lifetime

/-- What is asked of one `get` after a run. -/
def AnswersByLifetime (arithmetic : Arithmetic) (lifetime : Int) (run : SessionRun) (token : String)
    (checked renewed : ℚ) : Prop :=
  ∀ session, (run.answer (.get token checked renewed)).1 = some session ↔
    ∃ created used, LiveAt arithmetic lifetime token run.log checked created used ∧
      session = {
        username := created.username
        csrfToken := created.csrfToken
        expiresAt := plus renewed lifetime
        createdAt := created.time }

def SessionRun.after (lifetime : Int) (calls : List SessionCall) : SessionRun :=
  run SessionRun.step { registry := { lifetimeSeconds := lifetime } } calls

/-! The registry says what the log says. -/

/-- The clock has been read as often as `seen` says. -/
structure Faithful (lifetime : Int) (registry : AuthSessionRegistry)
    (log : List (SessionCall × Option AdminSession)) (seen : List ℚ) : Prop where
  lifetime_eq : registry.lifetimeSeconds = lifetime
  held : ∀ token session, registry.sessions token = some session →
    creation token log =
        some { username := session.username, csrfToken := session.csrfToken, time := session.createdAt } ∧
      revokedSince token log = false ∧
        ∃ used, lastUse token log = some used ∧ session.expiresAt = plus used lifetime
  dropped : ∀ token, registry.sessions token = none → ∀ time, (∀ reading ∈ seen, reading ≤ time) →
    ∀ created used, ¬LiveAt rounded lifetime token log time created used

section

variable {lifetime : Int} {registry : AuthSessionRegistry} {token : String} {session : AdminSession}
  {log : List (SessionCall × Option AdminSession)} {seen : List ℚ} {checked : ℚ}

theorem sessions_prune :
    (registry.prune checked).sessions token = some session ↔
      registry.sessions token = some session ∧ registry.isExpired checked session = false := by
  simp [prune, Option.filter_eq_some_iff]

theorem isExpired_eq_false :
    registry.isExpired checked session = false ↔
      checked < session.expiresAt ∧ minus checked session.createdAt ≤ 4 * registry.lifetimeSeconds := by
  simp [isExpired, absoluteLifetimeSeconds, absoluteSessionLifetimeMultiplier, mul_comm]

theorem Faithful.live_of_kept (faithful : Faithful lifetime registry log seen)
    (kept : (registry.prune checked).sessions token = some session) :
    ∃ created used, LiveAt rounded lifetime token log checked created used ∧
      session = {
        username := created.username
        csrfToken := created.csrfToken
        expiresAt := plus used lifetime
        createdAt := created.time } := by
  obtain ⟨found, unexpired⟩ := sessions_prune.mp kept
  obtain ⟨recent, young⟩ := isExpired_eq_false.mp unexpired
  obtain ⟨creates, unrevoked, used, uses, expires⟩ := faithful.held token session found
  rw [faithful.lifetime_eq] at young
  rw [expires] at recent
  exact ⟨_, used, ⟨creates, uses, unrevoked, recent, young⟩, by rw [← expires]⟩

theorem Faithful.not_live_of_pruned (faithful : Faithful lifetime registry log seen)
    (pruned : (registry.prune checked).sessions token = none) {time : ℚ}
    (before : ∀ reading ∈ seen, reading ≤ time) (reached : checked ≤ time) (created : Creation)
    (used : ℚ) : ¬LiveAt rounded lifetime token log time created used := by
  intro live
  cases found : registry.sessions token with
  | none => exact faithful.dropped token found time before created used live
  | some session =>
      obtain ⟨creates, unrevoked, last, uses, expires⟩ := faithful.held token session found
      have sameUse : last = used := Option.some.inj (uses.symm.trans live.uses)
      have sameCreation := Option.some.inj (creates.symm.trans live.creates)
      have unexpired : registry.isExpired checked session = false := by
        refine isExpired_eq_false.mpr ⟨?_, ?_⟩
        · rw [expires, sameUse]
          exact lt_of_le_of_lt reached live.recent
        · have young := live.young
          rw [← sameCreation] at young
          rw [faithful.lifetime_eq]
          exact le_trans (minus_mono reached _) young
      rw [sessions_prune.mpr ⟨found, unexpired⟩] at pruned
      cases pruned

theorem Faithful.prune (faithful : Faithful lifetime registry log seen) (checked : ℚ) :
    Faithful lifetime (registry.prune checked) log (checked :: seen) where
  lifetime_eq := faithful.lifetime_eq
  held token session kept := faithful.held token session (sessions_prune.mp kept).1
  dropped token pruned time before := by
    have reached : checked ≤ time := before checked List.mem_cons_self
    exact faithful.not_live_of_pruned pruned
      (fun reading member => before reading (List.mem_cons_of_mem _ member)) reached

theorem Faithful.weaken (faithful : Faithful lifetime registry log seen) {more : List ℚ}
    (subset : seen ⊆ more) : Faithful lifetime registry log more where
  lifetime_eq := faithful.lifetime_eq
  held := faithful.held
  dropped token absent time before :=
    faithful.dropped token absent time fun reading member => before reading (subset member)

theorem Faithful.create (faithful : Faithful lifetime registry log seen)
    (username token csrfToken : String) (checked now : ℚ) (result : Option AdminSession) :
    Faithful lifetime (registry.create username token csrfToken checked now).2
      ((.create username token csrfToken checked now, result) :: log) (checked :: seen) := by
  have pruned := faithful.prune checked
  refine ⟨faithful.lifetime_eq, ?_, ?_⟩
  · intro asked session found
    by_cases same : asked = token
    · subst asked
      simp only [AuthSessionRegistry.create, Function.update_self, Option.some.injEq] at found
      subst session
      simp [creation, revokedSince, lastUse, ← faithful.lifetime_eq]
    · simp only [AuthSessionRegistry.create, Function.update_of_ne same] at found
      simpa only [creation, revokedSince, lastUse, if_neg (Ne.symm same)]
        using pruned.held asked session found
  · intro asked absent time before created used live
    by_cases same : asked = token
    · simp [AuthSessionRegistry.create, same] at absent
    · simp only [AuthSessionRegistry.create, Function.update_of_ne same] at absent
      obtain ⟨creates, uses, unrevoked, recent, young⟩ := live
      simp only [creation, lastUse, revokedSince, if_neg (Ne.symm same)] at creates uses unrevoked
      exact pruned.dropped asked absent time before created used
        ⟨creates, uses, unrevoked, recent, young⟩

/-- A `get` without an answer changes nothing but the expired sessions. -/
theorem Faithful.get_none (faithful : Faithful lifetime registry log seen)
    (token : String) (checked renewed : ℚ) :
    Faithful lifetime (registry.prune checked) ((.get token checked renewed, none) :: log)
      (checked :: seen) where
  lifetime_eq := faithful.lifetime_eq
  held := (faithful.prune checked).held
  dropped asked absent time before created used live :=
    (faithful.prune checked).dropped asked absent time before created used
      ⟨live.creates, live.uses, live.unrevoked, live.recent, live.young⟩

theorem Faithful.get_some (faithful : Faithful lifetime registry log seen)
    (token : String) (checked renewed : ℚ) {found : AdminSession}
    (kept : (registry.prune checked).sessions token = some found) (session : AdminSession) :
    Faithful lifetime
      { registry.prune checked with
        sessions := Function.update (registry.prune checked).sessions token
          (some { found with expiresAt := plus renewed registry.lifetimeSeconds }) }
      ((.get token checked renewed, some session) :: log) (checked :: seen) := by
  have pruned := faithful.prune checked
  refine ⟨faithful.lifetime_eq, ?_, ?_⟩
  · intro asked session held
    by_cases same : asked = token
    · subst asked
      obtain ⟨creates, unrevoked, _⟩ := pruned.held token found kept
      simp only [Function.update_self, Option.some.injEq] at held
      subst session
      refine ⟨creates, unrevoked, renewed, ?_, ?_⟩
      · simp [lastUse]
      · rw [← faithful.lifetime_eq]
    · simp only [Function.update_of_ne same] at held
      simpa only [creation, revokedSince, lastUse, if_neg (Ne.symm same)]
        using pruned.held asked session held
  · intro asked absent time before created used live
    by_cases same : asked = token
    · simp [same] at absent
    · simp only [Function.update_of_ne same] at absent
      obtain ⟨creates, uses, unrevoked, recent, young⟩ := live
      simp only [creation, lastUse, revokedSince, if_neg (Ne.symm same)] at creates uses unrevoked
      exact pruned.dropped asked absent time before created used
        ⟨creates, uses, unrevoked, recent, young⟩

theorem Faithful.revoke (faithful : Faithful lifetime registry log seen) (token : String)
    (result : Option AdminSession) :
    Faithful lifetime (registry.revoke token) ((.revoke token, result) :: log) seen := by
  refine ⟨faithful.lifetime_eq, ?_, ?_⟩
  · intro asked session held
    by_cases same : asked = token
    · simp [AuthSessionRegistry.revoke, same] at held
    · simp only [AuthSessionRegistry.revoke, Function.update_of_ne same] at held
      simpa only [creation, revokedSince, lastUse, if_neg (Ne.symm same)]
        using faithful.held asked session held
  · intro asked absent time before created used live
    obtain ⟨creates, uses, unrevoked, recent, young⟩ := live
    by_cases same : asked = token
    · simp [revokedSince, same] at unrevoked
    · simp only [AuthSessionRegistry.revoke, Function.update_of_ne same] at absent
      simp only [creation, lastUse, revokedSince, if_neg (Ne.symm same)] at creates uses unrevoked
      exact faithful.dropped asked absent time before created used
        ⟨creates, uses, unrevoked, recent, young⟩

end

theorem Faithful.step {lifetime : Int} {run : SessionRun} {seen : List ℚ}
    (faithful : Faithful lifetime run.registry run.log seen) (call : SessionCall) :
    Faithful lifetime (run.step call).registry (run.step call).log (seen ++ call.readings) := by
  have more : ∀ checked rest, checked :: seen ⊆ seen ++ checked :: rest := by
    intro checked rest reading member
    rcases List.mem_cons.mp member with rfl | earlier
    · simp
    · exact List.mem_append_left _ earlier
  cases call with
  | create username token csrfToken checked now =>
      exact (faithful.create username token csrfToken checked now _).weaken (more checked [now])
  | get token checked renewed =>
      simp only [SessionRun.step, SessionRun.answer, AuthSessionRegistry.get, SessionCall.readings]
      cases kept : (run.registry.prune checked).sessions token with
      | none => exact (faithful.get_none token checked renewed).weaken (more checked [renewed])
      | some found =>
          exact (faithful.get_some token checked renewed kept _).weaken (more checked [renewed])
  | revoke token => exact (faithful.revoke token none).weaken (List.subset_append_left _ _)

theorem Faithful.run {lifetime : Int} {start : SessionRun} {seen : List ℚ}
    (faithful : Faithful lifetime start.registry start.log seen) (calls : List SessionCall) :
    Faithful lifetime (run SessionRun.step start calls).registry
      (run SessionRun.step start calls).log (seen ++ calls.flatMap SessionCall.readings) := by
  induction calls generalizing start seen with
  | nil => simpa [Runs.run] using faithful
  | cons call rest ih =>
      rw [Runs.run, List.flatMap_cons, ← List.append_assoc]
      exact ih (faithful.step call)

theorem after_faithful (lifetime : Int) (calls : List SessionCall) :
    Faithful lifetime (SessionRun.after lifetime calls).registry
      (SessionRun.after lifetime calls).log (calls.flatMap SessionCall.readings) := by
  have empty : Faithful lifetime { lifetimeSeconds := lifetime } [] [] :=
    ⟨rfl, fun _ _ held => (nomatch held), fun _ _ _ _ _ _ live => (nomatch live.creates)⟩
  have after := @Faithful.run lifetime { registry := { lifetimeSeconds := lifetime } } [] empty calls
  rwa [List.nil_append] at after

theorem creation_run {token : String} {start : SessionRun} {calls : List SessionCall}
    (created : (creation token (run SessionRun.step start calls).log).isSome = true) :
    (creation token start.log).isSome = true ∨ token ∈ calls.filterMap SessionCall.drawn := by
  induction calls generalizing start with
  | nil => exact Or.inl created
  | cons call rest ih =>
      rcases ih created with before | later
      · cases call with
        | create username drawn csrfToken checked now =>
            by_cases same : drawn = token
            · simp [SessionCall.drawn, same]
            · left
              simpa only [SessionRun.step, creation, if_neg same] using before
        | get asked checked renewed => exact Or.inl before
        | revoke revoked => exact Or.inl before
      · right
        rw [List.filterMap_cons]
        split
        · exact later
        · exact List.mem_cons_of_mem _ later

theorem absent_step {run : SessionRun} {token : String} (absent : run.registry.sessions token = none)
    (call : SessionCall) (undrawn : call.drawn ≠ some token) :
    (run.step call).registry.sessions token = none := by
  have pruned (checked : ℚ) : (run.registry.prune checked).sessions token = none := by
    simp [AuthSessionRegistry.prune, absent]
  cases call with
  | create username drawn csrfToken checked now =>
      have other : token ≠ drawn := fun same => undrawn (by rw [same]; rfl)
      simpa [SessionRun.step, SessionRun.answer, AuthSessionRegistry.create, other] using pruned checked
  | get asked checked renewed =>
      simp only [SessionRun.step, SessionRun.answer, AuthSessionRegistry.get]
      cases kept : (run.registry.prune checked).sessions asked with
      | none => exact pruned checked
      | some found =>
          have other : token ≠ asked := fun same => by simp [← same, pruned] at kept
          simpa [other] using pruned checked
  | revoke revoked =>
      simp only [SessionRun.step, SessionRun.answer, AuthSessionRegistry.revoke]
      by_cases same : token = revoked <;> simp [same, absent]

theorem absent_run {start : SessionRun} {token : String}
    (absent : start.registry.sessions token = none) {calls : List SessionCall}
    (undrawn : token ∉ calls.filterMap SessionCall.drawn) :
    (run SessionRun.step start calls).registry.sessions token = none := by
  induction calls generalizing start with
  | nil => exact absent
  | cons call rest ih =>
      refine ih (absent_step absent call ?_) ?_
      · intro drawn
        exact undrawn (List.mem_filterMap.mpr ⟨call, List.mem_cons_self, drawn⟩)
      · intro later
        obtain ⟨other, member, drawn⟩ := List.mem_filterMap.mp later
        exact undrawn (List.mem_filterMap.mpr ⟨other, List.mem_cons_of_mem _ member, drawn⟩)

theorem get_eq_none {registry : AuthSessionRegistry} {token : String} {checked renewed : ℚ} :
    (registry.get token checked renewed).1 = none ↔ (registry.prune checked).sessions token = none := by
  simp only [AuthSessionRegistry.get]
  cases (registry.prune checked).sessions token <;> simp

theorem get_some_iff {registry : AuthSessionRegistry} {token : String} {checked renewed : ℚ}
    {session : AdminSession} :
    (registry.get token checked renewed).1 = some session ↔
      ∃ found, (registry.prune checked).sessions token = some found ∧
        session = { found with expiresAt := plus renewed registry.lifetimeSeconds } := by
  simp only [AuthSessionRegistry.get]
  cases (registry.prune checked).sessions token <;> simp [eq_comm]

theorem Faithful.answers {lifetime : Int} {run : SessionRun} {seen : List ℚ}
    (faithful : Faithful lifetime run.registry run.log seen) (token : String) {checked : ℚ}
    (renewed : ℚ) (before : ∀ reading ∈ seen, reading ≤ checked) :
    AnswersByLifetime rounded lifetime run token checked renewed := by
  intro session
  rw [show run.answer (.get token checked renewed) = run.registry.get token checked renewed from rfl,
    get_some_iff, faithful.lifetime_eq]
  constructor
  · rintro ⟨found, kept, rfl⟩
    obtain ⟨created, used, live, rfl⟩ := faithful.live_of_kept kept
    exact ⟨created, used, live, rfl⟩
  · rintro ⟨created, used, live, rfl⟩
    cases kept : (run.registry.prune checked).sessions token with
    | none => exact absurd live (faithful.not_live_of_pruned kept before le_rfl created used)
    | some found =>
        obtain ⟨creation, _, held, rfl⟩ := faithful.live_of_kept kept
        have same : creation = created := Option.some.inj (held.creates.symm.trans live.creates)
        exact ⟨_, rfl, by rw [same]⟩

/-- Every `get` of the calls answers exactly while the token is live, and not again once it did not. -/
structure LivesOnce (arithmetic : Arithmetic) (lifetime : Int) (calls : List SessionCall) : Prop where
  answers : ∀ earlier token checked renewed later, calls = earlier ++ .get token checked renewed :: later →
    AnswersByLifetime arithmetic lifetime (SessionRun.after lifetime earlier) token checked renewed
  ends : ∀ earlier token checked renewed between checked' renewed' later,
    calls = earlier ++ .get token checked renewed :: (between ++ .get token checked' renewed' :: later) →
    (creation token (SessionRun.after lifetime earlier).log).isSome = true →
    ((SessionRun.after lifetime earlier).answer (.get token checked renewed)).1 = none →
    ((SessionRun.after lifetime (earlier ++ .get token checked renewed :: between)).answer
      (.get token checked' renewed')).1 = none

theorem sessionLifetime (lifetime : Int) (calls : List SessionCall)
    (clock : (calls.flatMap SessionCall.readings).Pairwise (· ≤ ·))
    (fresh : (calls.filterMap SessionCall.drawn).Nodup) : LivesOnce rounded lifetime calls := by
  constructor
  · rintro earlier token checked renewed later rfl
    refine (after_faithful lifetime earlier).answers token renewed ?_
    intro reading member
    rw [List.flatMap_append, List.flatMap_cons] at clock
    exact (List.pairwise_append.mp clock).2.2 reading member checked (by simp [SessionCall.readings])
  · rintro earlier token checked renewed between checked' renewed' later rfl created unanswered
    have drawn : token ∈ earlier.filterMap SessionCall.drawn := by
      rcases creation_run created with initially | drawn
      · cases initially
      · exact drawn
    have undrawn : token ∉ between.filterMap SessionCall.drawn := by
      intro again
      rw [List.filterMap_append, List.nodup_append] at fresh
      refine fresh.2.2 token drawn token ?_ rfl
      rw [List.filterMap_cons_none rfl, List.filterMap_append]
      exact List.mem_append_left _ again
    have absent := get_eq_none.mp unanswered
    have gone : ((SessionRun.after lifetime earlier).step
        (.get token checked renewed)).registry.sessions token = none := by
      simp only [SessionRun.step, SessionRun.answer, AuthSessionRegistry.get, absent]
    have still := absent_run gone undrawn
    rw [SessionRun.after, run_append, Runs.run]
    refine get_eq_none.mpr ?_
    rw [AuthSessionRegistry.prune]
    simp only [Option.filter_eq_none_iff]
    intro session held
    exact absurd (still.symm.trans held) (by simp)

def sampleCalls : List SessionCall :=
  [.create "admin" "first" "csrf" 0 0, .get "first" 9 9, .get "first" 20 20, .get "first" 21 21]

theorem sessionLifetime_sample :
    ((SessionRun.after 10 (sampleCalls.take 1)).answer (.get "first" 9 9)).1 =
        some { username := "admin", csrfToken := "csrf", expiresAt := 19, createdAt := 0 } ∧
      ((SessionRun.after 10 (sampleCalls.take 2 ++ [.get "first" 20 20])).answer
        (.get "first" 21 21)).1 = none := by
  have lifetime := sessionLifetime 10 sampleCalls (by decide) (by decide)
  have created : (creation "first" (SessionRun.after 10 (sampleCalls.take 2)).log).isSome = true := rfl
  have ended : ((SessionRun.after 10 (sampleCalls.take 2)).answer (.get "first" 20 20)).1 = none := by
    decide +kernel
  refine ⟨?_, lifetime.2 (sampleCalls.take 2) "first" 20 20 [] 21 21 [] rfl created ended⟩
  refine (lifetime.1 (sampleCalls.take 1) "first" 9 9 (sampleCalls.drop 2) rfl _).mpr ?_
  exact ⟨{ username := "admin", csrfToken := "csrf", time := 0 }, 0,
    ⟨by decide +kernel, by decide +kernel, by decide +kernel, by decide +kernel, by decide +kernel⟩,
    by decide +kernel⟩

def openedAt : ℚ := 3602879701896397 / 2 ^ 55

def askedAt : ℚ := 7916703622312755 / 2 ^ 41

def hourCalls : List SessionCall :=
  [.create "admin" "first" "csrf" openedAt openedAt, .get "first" askedAt askedAt]

/-- The hour is not over, but its end is rounded down to the reading. -/
theorem sessionLifetime_rounds :
    ¬∀ (lifetime : Int) (calls : List SessionCall), 0 < lifetime →
      (calls.flatMap SessionCall.readings).Pairwise (· ≤ ·) → (calls.filterMap SessionCall.drawn).Nodup →
        LivesOnce exactly lifetime calls := by
  intro lives
  have asked := (lives 3600 hourCalls (by decide) (by decide +kernel) (by decide)).answers
    (hourCalls.take 1) "first" askedAt askedAt [] rfl
  have refused : ((SessionRun.after 3600 (hourCalls.take 1)).answer (.get "first" askedAt askedAt)).1 = none := by
    decide +kernel
  have answered := (asked _).mpr ⟨{ username := "admin", csrfToken := "csrf", time := openedAt }, openedAt,
    ⟨by decide +kernel, by decide +kernel, by decide +kernel, by decide +kernel, by decide +kernel⟩, rfl⟩
  exact absurd (refused.symm.trans answered) (by simp)

end Korserver
