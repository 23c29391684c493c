import Korserver.AdminAccessCore
import Korserver.Runs

/-!
What stands behind a request that is accepted while one-time codes are asked for.
-/

namespace Korserver

open Runs

def Happening.opens (token : String) : Happening → Bool
  | .loggedIn drawn _ => drawn == token
  | _ => false

/-- The login that opened the session verified a code, or came before codes were last enabled. -/
def opensWithCode (token : String) : List Happening → Bool
  | [] => false
  | .loggedIn drawn codeVerified :: earlier =>
      if drawn = token then codeVerified else opensWithCode token earlier
  | .totpEnabled :: earlier => earlier.any (Happening.opens token)

/-- The password that a request shows, if `authenticate_password` takes it. -/
def showsPassword (checks : AdminChecks) (web : WebConfig) (readings : Readings)
    (registry : AuthSessionRegistry) (request : AdminRequest) : Bool :=
  match parseBasicAuthorization checks request.authorization with
  | none => false
  | some credentials =>
      web.passwordConfigured && (registry.loginAllowed request.host readings.passwordAllowed).1 &&
        decide (credentialsMatch checks web credentials.username credentials.password = .ok true) &&
          (!request.isMutating || decide (request.isCrossOrigin = .ok false))

/-- How `require_admin` answers a request, of those that it guards. -/
def Panel.acceptance (checks : AdminChecks) (panel : Panel) (request : PanelRequest) :
    Option Authentication := do
  let (readings, guarded) ← request.guarded
  (requireAdmin checks panel.web readings guarded panel.registry).1.toOption

/-- While codes are asked for, a request is accepted by such a session and in no other way. -/
def SecondFactorKept (checks : AdminChecks) (panel : Panel) (request : PanelRequest) : Prop :=
  panel.web.adminTotpEnabled = true → ∀ authentication,
    panel.acceptance checks request = some authentication →
      ∃ token, authentication = .session token ∧ opensWithCode token panel.history = true

/-- The request has no session to show, and its `Authorization` header holds the password. -/
def ShowsBasic (checks : AdminChecks) (panel : Panel) (request : PanelRequest) : Prop :=
  ∃ readings guarded, request.guarded = some (readings, guarded) ∧
    (guarded.session readings panel.registry).1 = none ∧
      showsPassword checks panel.web readings panel.registry guarded = true

def CodeOrBasic (checks : AdminChecks) (panel : Panel) (request : PanelRequest) : Prop :=
  panel.web.adminTotpEnabled = true → ∀ authentication,
    panel.acceptance checks request = some authentication →
      (∃ token, authentication = .session token ∧ opensWithCode token panel.history = true) ∨
        authentication = .password ∧ ShowsBasic checks panel request

/-! What each part does to the sessions. -/

section

variable {checks : AdminChecks} {web : WebConfig} {readings : Readings} {registry : AuthSessionRegistry}

theorem authenticatePassword_sessions (host username password : String) :
    (authenticatePassword checks web readings host username password registry).2.sessions =
      registry.sessions := by
  simp only [authenticatePassword]
  repeat' split
  all_goals rfl

theorem secondStep_sessions (request : LoginRequest) :
    (secondStep checks web readings request registry).2.sessions = registry.sessions := by
  simp only [secondStep]
  repeat' split
  all_goals rfl

/-- A login that passes its second step gave the right code, whenever codes are asked for. -/
theorem secondStep_verifies {request : LoginRequest} (enabled : web.adminTotpEnabled = true)
    (passed : (secondStep checks web readings request registry).1 = .ok ()) :
    verifiesCode checks web readings.unixTime request = true := by
  simp only [secondStep, enabled, Bool.not_true, Bool.false_eq_true, if_false] at passed
  cases given : request.givenCode with
  | none => simp [given] at passed
  | some code =>
      simp only [given] at passed
      revert passed
      repeat' split
      all_goals intro passed; cases passed
      rename_i compared
      simp [verifiesCode, enabled, given, compared]

theorem authenticatePassword_ok_iff {host username password : String} :
    (authenticatePassword checks web readings host username password registry).1 = .ok () ↔
      web.passwordConfigured = true ∧ (registry.loginAllowed host readings.passwordAllowed).1 = true ∧
        credentialsMatch checks web username password = .ok true := by
  cases configured : web.passwordConfigured with
  | false => simp [authenticatePassword, configured]
  | true =>
      cases allowed : (registry.loginAllowed host readings.passwordAllowed).1 with
      | false => simp [authenticatePassword, configured, allowed]
      | true =>
          rcases compared : credentialsMatch checks web username password with error | _ | _ <;>
            simp [authenticatePassword, configured, allowed, compared]

theorem get_keeps {token asked : String} {checked renewed : ℚ}
    (held : ((registry.get asked checked renewed).2.sessions token).isSome = true) :
    (registry.sessions token).isSome = true := by
  have pruned : ((registry.prune checked).sessions token).isSome = true →
      (registry.sessions token).isSome = true := by
    cases absent : registry.sessions token <;> simp [AuthSessionRegistry.prune, absent]
  simp only [AuthSessionRegistry.get] at held
  split at held
  · exact pruned held
  · rename_i found kept
    by_cases same : token = asked
    · subst asked
      exact pruned (by rw [kept]; rfl)
    · simp only [Function.update_of_ne same] at held
      exact pruned held

theorem session_keeps {request : AdminRequest} {token : String}
    (held : ((request.session readings registry).2.sessions token).isSome = true) :
    (registry.sessions token).isSome = true := by
  simp only [AdminRequest.session] at held
  split at held
  · exact held
  · exact get_keeps held

theorem session_failures (request : AdminRequest) :
    (request.session readings registry).2.failures = registry.failures := by
  simp only [AdminRequest.session, AuthSessionRegistry.get]
  repeat' split
  all_goals rfl

theorem session_held {request : AdminRequest} {token : String} {session : AdminSession}
    (found : (request.session readings registry).1 = some (token, session)) :
    (registry.sessions token).isSome = true := by
  simp only [AdminRequest.session] at found
  split at found
  · cases found
  · rename_i asked _
    simp only [Option.map_eq_some_iff, Prod.mk.injEq] at found
    obtain ⟨answer, got, rfl, rfl⟩ := found
    simp only [AuthSessionRegistry.get] at got
    split at got
    · cases got
    · rename_i held kept
      cases absent : registry.sessions asked with
      | none => simp [AuthSessionRegistry.prune, absent] at kept
      | some _ => rfl

theorem requireAdmin_session {request : AdminRequest} {token : String}
    (accepted : (requireAdmin checks web readings request registry).1 = .ok (.session token)) :
    (registry.sessions token).isSome = true := by
  rcases found : request.session readings registry with ⟨_ | ⟨asked, session⟩, after⟩
  · simp only [requireAdmin, found] at accepted
    revert accepted
    repeat' split
    all_goals intro accepted; cases accepted
  · have held := session_held (by rw [found])
    simp only [requireAdmin, found] at accepted
    revert accepted
    repeat' split
    all_goals intro accepted; cases accepted
    all_goals exact held

theorem showsPassword_session (request asked : AdminRequest) :
    showsPassword checks web readings (asked.session readings registry).2 request =
      showsPassword checks web readings registry request := by
  have allowed (host : String) (now : ℚ) :
      ((asked.session readings registry).2.loginAllowed host now).1 = (registry.loginAllowed host now).1 := by
    have same : (asked.session readings registry).2.attempts host now = registry.attempts host now := by
      simp only [AuthSessionRegistry.attempts, session_failures]
    simp only [AuthSessionRegistry.loginAllowed]
    rw [same]
  simp only [showsPassword, allowed]

theorem requireAdmin_password_iff {request : AdminRequest} :
    (requireAdmin checks web readings request registry).1 = .ok .password ↔
      (request.session readings registry).1 = none ∧
        showsPassword checks web readings registry request = true := by
  rw [← showsPassword_session request request]
  rcases found : request.session readings registry with ⟨_ | ⟨asked, session⟩, after⟩
  · simp only [requireAdmin, found, showsPassword, true_and]
    cases parseBasicAuthorization checks request.authorization with
    | none => simp
    | some credentials =>
        have ok := @authenticatePassword_ok_iff checks web readings after request.host
          credentials.username credentials.password
        rcases decided : authenticatePassword checks web readings request.host credentials.username
          credentials.password after with ⟨error | _, later⟩
        · simp only [decided, reduceCtorEq, false_iff] at ok
          simp only [decided, reduceCtorEq, false_iff, Bool.and_eq_true, decide_eq_true_eq]
          exact fun shown => ok ⟨shown.1.1.1, shown.1.1.2, shown.1.2⟩
        · simp only [decided, true_iff] at ok
          obtain ⟨configured, allowed, compared⟩ := ok
          cases request.isMutating with
          | false => simp [decided, configured, allowed, compared]
          | true =>
              cases judged : request.isCrossOrigin with
              | error error => simp [decided]
              | ok crosses => cases crosses <;> simp [decided, configured, allowed, compared]
  · simp only [requireAdmin, found, reduceCtorEq, false_and, iff_false]
    repeat' split
    all_goals simp

theorem requireAdmin_keeps {request : AdminRequest} {token : String}
    (held : ((requireAdmin checks web readings request registry).2.sessions token).isSome = true) :
    (registry.sessions token).isSome = true := by
  refine @session_keeps readings registry request token ?_
  rcases found : request.session readings registry with ⟨_ | ⟨asked, session⟩, after⟩
  · simp only [requireAdmin, found] at held
    split at held
    · exact held
    · rename_i credentials _
      rw [← @authenticatePassword_sessions checks web readings after request.host credentials.username
        credentials.password]
      revert held
      repeat' split
      all_goals intro held
      all_goals simp only [*]
  · simp only [requireAdmin, found] at held
    revert held
    repeat' split
    all_goals exact id

/-- A login opens its own session or none, and verifies a code first whenever codes are asked for. -/
theorem login_cases (request : LoginRequest) (token csrfToken : String) :
    (∃ error after, login checks web readings request token csrfToken registry = (.error error, after) ∧
      after.sessions = registry.sessions) ∨
    (∃ after, login checks web readings request token csrfToken registry = (.ok (), after) ∧
      (web.adminTotpEnabled = true → verifiesCode checks web readings.unixTime request = true) ∧
      ∀ asked, asked ≠ token → (after.sessions asked).isSome = true →
        (registry.sessions asked).isSome = true) := by
  have firstSessions := @authenticatePassword_sessions checks web readings registry request.host request.username
    request.password
  rcases first : authenticatePassword checks web readings request.host request.username
    request.password registry with ⟨error | _, admitted⟩
  · rw [first] at firstSessions
    exact Or.inl ⟨error, admitted, by simp only [login, first], firstSessions⟩
  · rw [first] at firstSessions
    have secondSessions := @secondStep_sessions checks web readings admitted request
    rcases second : secondStep checks web readings request admitted with ⟨error | _, passed⟩
    · rw [second] at secondSessions
      exact Or.inl ⟨error, passed, by simp only [login, first, second], secondSessions.trans firstSessions⟩
    · rw [second] at secondSessions
      refine Or.inr ⟨(passed.create request.username token csrfToken readings.createdChecked
        readings.created).2, by simp only [login, first, second],
        fun enabled => secondStep_verifies enabled (by rw [second]), ?_⟩
      intro asked other held
      simp only [AuthSessionRegistry.create, Function.update_of_ne other,
        AuthSessionRegistry.prune] at held
      rw [← firstSessions, ← secondSessions]
      cases absent : passed.sessions asked with
      | none => simp [absent] at held
      | some _ => rfl

end

structure Opened (panel : Panel) : Prop where
  opened : ∀ token, (panel.registry.sessions token).isSome = true →
    panel.history.any (Happening.opens token) = true
  withCode : panel.web.adminTotpEnabled = true → ∀ token,
    (panel.registry.sessions token).isSome = true → opensWithCode token panel.history = true

section

variable {checks : AdminChecks} {panel : Panel}

theorem Opened.fewer (opened : Opened panel) {registry : AuthSessionRegistry}
    (kept : ∀ token, (registry.sessions token).isSome = true →
      (panel.registry.sessions token).isSome = true) : Opened { panel with registry } where
  opened token held := opened.opened token (kept token held)
  withCode enabled token held := opened.withCode enabled token (kept token held)

theorem Opened.configure (opened : Opened panel) (web : WebConfig) : Opened (panel.configure web) := by
  cases enabling : !panel.web.adminTotpEnabled && web.adminTotpEnabled with
  | true =>
      refine ⟨fun token held => ?_, fun _ token held => ?_⟩
      · simpa [Panel.configure, enabling, Happening.opens] using opened.opened token held
      · simpa [Panel.configure, enabling, opensWithCode] using opened.opened token held
  | false =>
      refine ⟨fun token held => ?_, fun enabled token held => ?_⟩
      · simpa [Panel.configure, enabling] using opened.opened token held
      · have before : panel.web.adminTotpEnabled = true := by
          have enabled : web.adminTotpEnabled = true := enabled
          simpa [enabled] using enabling
        simpa [Panel.configure, enabling] using opened.withCode before token held

theorem Opened.asAdmin (opened : Opened panel) (readings : Readings) (request : AdminRequest)
    {handle : Panel → Panel} (kept : ∀ panel, Opened panel → Opened (handle panel)) :
    Opened (panel.asAdmin checks readings request handle) := by
  have fewer := opened.fewer fun token held =>
    @requireAdmin_keeps checks panel.web readings panel.registry request token held
  simp only [Panel.asAdmin]
  split
  · rename_i decided
    rwa [decided] at fewer
  · rename_i decided
    rw [decided] at fewer
    exact kept _ fewer

theorem Opened.step (opened : Opened panel) (request : PanelRequest) :
    Opened (panel.step checks request) := by
  cases request with
  | login readings request token csrfToken =>
      rcases @login_cases checks panel.web readings panel.registry request token csrfToken with
        ⟨error, after, failed, same⟩ | ⟨after, passed, verified, kept⟩
      · simp only [Panel.step, failed]
        exact opened.fewer fun token held => by rwa [same] at held
      · simp only [Panel.step, passed]
        refine ⟨fun asked held => ?_, fun enabled asked held => ?_⟩
        · by_cases own : asked = token
          · simp [Happening.opens, own]
          · simp [Happening.opens, opened.opened asked (kept asked own held)]
        · by_cases own : asked = token
          · simpa [opensWithCode, own] using verified enabled
          · simpa [opensWithCode, Ne.symm own] using opened.withCode enabled asked (kept asked own held)
  | logout token =>
      cases token with
      | none => exact opened
      | some token =>
          simp only [Panel.step]
          split
          · exact opened
          · refine opened.fewer fun asked held => ?_
            by_cases revoked : asked = token
            · simp [AuthSessionRegistry.revoke, revoked] at held
            · simpa [AuthSessionRegistry.revoke, revoked] using held
  | totpConfirm readings request secret code saves =>
      rw [Panel.step]
      refine opened.asAdmin readings request fun panel opened => ?_
      split
      · exact opened.configure _
      · exact opened
  | totpDisable readings request saves =>
      rw [Panel.step]
      refine opened.asAdmin readings request fun panel opened => ?_
      split
      · exact opened.configure _
      · exact opened
  | other readings request change =>
      rw [Panel.step]
      exact opened.asAdmin readings request fun panel opened => opened.configure _

theorem Opened.codeStep (opened : Opened panel) (request : PanelRequest) :
    CodeOrBasic checks panel request := by
  intro enabled authentication accepted
  simp only [Panel.acceptance, Option.bind_eq_bind, Option.bind_eq_some_iff, Prod.exists] at accepted
  obtain ⟨readings, guarded, isGuarded, accepted⟩ := accepted
  have admitted : (requireAdmin checks panel.web readings guarded panel.registry).1 =
      .ok authentication := by
    revert accepted
    cases (requireAdmin checks panel.web readings guarded panel.registry).1 <;>
      simp [Except.toOption]
  cases authentication with
  | session token =>
      exact Or.inl ⟨token, rfl, opened.withCode enabled token (requireAdmin_session admitted)⟩
  | password => exact Or.inr ⟨rfl, readings, guarded, isGuarded, requireAdmin_password_iff.mp admitted⟩

end

/-- In every run of the panel, a request that is accepted while codes are asked for shows a session
that was opened with a code or before codes were enabled, or the password in its header. -/
theorem codeOrBasic (checks : AdminChecks) (web : WebConfig) (lifetimeSeconds : Int)
    (requests : List PanelRequest) :
    Throughout (Panel.step checks) (CodeOrBasic checks) { web, registry := { lifetimeSeconds } }
      requests := by
  have opened : Opened { web, registry := { lifetimeSeconds } } :=
    ⟨fun _ held => (nomatch held), fun _ _ held => (nomatch held)⟩
  exact throughout_of_invariant (fun _ request opened => opened.step request)
    (fun _ request opened => opened.codeStep request) opened requests

def askedWeb : WebConfig :=
  { adminPassword := some "secret", adminTotpEnabled := true, adminTotpSecret := some "JBSWY3DP" }

/-- `Authorization: Basic YWRtaW46c2VjcmV0`. -/
def basicChecks : AdminChecks where
  verifyPassword _ _ := false
  verifyCode _ _ _ := .ok false
  decodeToken token := if token = "YWRtaW46c2VjcmV0" then some "admin:secret" else none

def basicRequest : PanelRequest :=
  .other {} { host := "192.0.2.1", authorization := some "Basic YWRtaW46c2VjcmV0" } id

theorem passwordAlone_accepted :
    ¬∀ (checks : AdminChecks) (web : WebConfig) (lifetimeSeconds : Int) (requests : List PanelRequest),
      Throughout (Panel.step checks) (SecondFactorKept checks) { web, registry := { lifetimeSeconds } }
        requests := by
  intro kept
  have one := (kept basicChecks askedWeb 3600 [basicRequest]).1 rfl .password (by decide +kernel)
  obtain ⟨token, same, _⟩ := one
  cases same

end Korserver
