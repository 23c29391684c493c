import Korserver.AuthFailuresCore

/-!
How logins and guarded requests fail: with an answer, and with the failure on record, wherever the
texts that are compared can be compared.
-/

namespace Korserver

open PythonText PythonValue BaseEncodings

def IsClean {α : Type} (outcome : Except RequestError α) : Prop :=
  ∀ error, outcome = .error error → ∃ status ∈ [401, 403, 429], ∃ detail, error = .http status detail

def RecordedAsFailure (registry after : AuthSessionRegistry) (source : String) (allowed recorded : ℚ) :
    Prop :=
  after.failures source = registry.attempts source allowed ++ [recorded]

def PasswordEvaluated (web : WebConfig) (readings : Readings) (host : String)
    (registry : AuthSessionRegistry) : Prop :=
  web.passwordConfigured = true ∧ (registry.loginAllowed host readings.passwordAllowed).1 = true

def PasswordRight (hashes : HashFunctions) (web : WebConfig) (username password : String) : Prop :=
  username = web.adminUser ∧
    match web.adminPasswordHash, web.adminPassword with
    | some hash, _ => verifyPassword hashes password hash = true
    | none, some expected => password = expected
    | none, none => False

def PasswordComparable (web : WebConfig) (username password : String) : Prop :=
  isAscii username.toList = true ∧ isAscii web.adminUser.toList = true ∧
    (web.adminPasswordHash = none → ∀ expected, web.adminPassword = some expected →
      isAscii password.toList = true ∧ isAscii expected.toList = true)

/-- The code is that of the secret at this time, one step before it or one after it. -/
def CodeRight (hashes : HashFunctions) (web : WebConfig) (unixTime : Int) (code : String) : Prop :=
  ∃ secret, web.adminTotpSecret = some secret ∧ ∃ offset ∈ [-1, 0, 1],
    codeAt hashes secret (unixTime / totpStepSeconds + offset) = .ok (strip code)

/-- Six digits are ASCII digits, the secret is one, and the clock is past its first step. -/
def CodeComparable (web : WebConfig) (unixTime : Int) (code : String) : Prop :=
  ∀ secret, web.adminTotpSecret = some secret → isSixDigits (strip code) = true →
    isAscii (strip code).toList = true ∧ (∃ key, totpKey secret = .ok key) ∧ totpStepSeconds ≤ unixTime

def CodeEvaluated (hashes : HashFunctions) (web : WebConfig) (readings : Readings)
    (request : LoginRequest) (registry : AuthSessionRegistry) (code : String) : Prop :=
  PasswordEvaluated web readings request.host registry ∧
    PasswordRight hashes web request.username request.password ∧ web.adminTotpEnabled = true ∧
      request.givenCode = some code ∧
        (registry.loginAllowed (totpSource request.host) readings.codeAllowed).1 = true

/-- What `login` answers, and what the registry then holds. -/
def LoginFailsCleanly (hashes : HashFunctions) (web : WebConfig) (readings : Readings)
    (request : LoginRequest) (registry : AuthSessionRegistry)
    (answer : Except RequestError Unit × AuthSessionRegistry) : Prop :=
  IsClean answer.1 ∧
    (PasswordEvaluated web readings request.host registry →
      ¬PasswordRight hashes web request.username request.password →
        RecordedAsFailure registry answer.2 request.host readings.passwordAllowed
          readings.passwordRecorded) ∧
      ∀ code, CodeEvaluated hashes web readings request registry code →
        ¬CodeRight hashes web readings.unixTime code →
          RecordedAsFailure registry answer.2 (totpSource request.host) readings.codeAllowed
            readings.codeRecorded

/-- What `require_admin` answers, `before` being the registry after the lookup of the session. -/
def RequireAdminFailsCleanly (hashes : HashFunctions) (web : WebConfig) (readings : Readings)
    (request : AdminRequest) (found : Option (String × AdminSession) × AuthSessionRegistry)
    (answer : Except RequestError Authentication × AuthSessionRegistry) : Prop :=
  IsClean answer.1 ∧
    ∀ credentials, found.1 = none →
      parseBasicAuthorization (adminChecks hashes) request.authorization = some credentials →
        PasswordEvaluated web readings request.host found.2 →
          ¬PasswordRight hashes web credentials.username credentials.password →
            RecordedAsFailure found.2 answer.2 request.host readings.passwordAllowed
              readings.passwordRecorded

def LoginComparable (hashes : HashFunctions) (web : WebConfig) (readings : Readings)
    (request : LoginRequest) (registry : AuthSessionRegistry) : Prop :=
  (PasswordEvaluated web readings request.host registry →
    PasswordComparable web request.username request.password) ∧
    ∀ code, CodeEvaluated hashes web readings request registry code →
      CodeComparable web readings.unixTime code

def RequireAdminComparable (hashes : HashFunctions) (web : WebConfig) (readings : Readings)
    (request : AdminRequest) (found : Option (String × AdminSession) × AuthSessionRegistry) : Prop :=
  match found.1 with
  | some (_, session) => request.isMutating = true →
      isAscii request.csrfToken.toList = true ∧ isAscii session.csrfToken.toList = true
  | none => ∀ credentials,
      parseBasicAuthorization (adminChecks hashes) request.authorization = some credentials →
        PasswordEvaluated web readings request.host found.2 →
          PasswordComparable web credentials.username credentials.password ∧
            (PasswordRight hashes web credentials.username credentials.password →
              request.isMutating = true → ∀ origin, request.originText = some origin →
                ∃ host, UrlText.hostname origin = .ok host)

section

variable {hashes : HashFunctions} {web : WebConfig} {readings : Readings}
  {registry : AuthSessionRegistry}

theorem isClean_http {α : Type} {status : Nat} (known : status ∈ [401, 403, 429]) (detail : String) :
    IsClean (.error (.http status detail) : Except RequestError α) := by
  intro error same
  obtain rfl := Except.error.inj same
  exact ⟨status, known, detail, rfl⟩

theorem isClean_ok {α : Type} (value : α) : IsClean (.ok value : Except RequestError α) := by
  intro error same
  nomatch same

theorem not_isClean_uncaught {α : Type} (error : PyError) :
    ¬IsClean (.error (.uncaught error) : Except RequestError α) := by
  intro clean
  obtain ⟨status, -, detail, same⟩ := clean _ rfl
  nomatch same

theorem compareDigest_ascii {left right : String} (leftAscii : isAscii left.toList = true)
    (rightAscii : isAscii right.toList = true) : compareDigest left right = .ok (left == right) := by
  unfold isAscii at leftAscii rightAscii
  rw [compareDigest, leftAscii, rightAscii]
  rfl

theorem compareDigest_error {left right : String}
    (odd : ¬(isAscii left.toList = true ∧ isAscii right.toList = true)) :
    compareDigest left right = .error .typeError := by
  unfold isAscii at odd
  rw [compareDigest, if_neg (by rw [Bool.and_eq_true]; exact odd)]

theorem credentialsMatch_comparable {username password : String}
    (comparable : PasswordComparable web username password) :
    ∃ matched, credentialsMatch (adminChecks hashes) web username password = .ok matched ∧
      (matched = true ↔ PasswordRight hashes web username password) := by
  obtain ⟨user, admin, passwords⟩ := comparable
  have users := compareDigest_ascii user admin
  unfold credentialsMatch PasswordRight
  cases hashed : web.adminPasswordHash with
  | some hash =>
      refine ⟨username == web.adminUser && verifyPassword hashes password hash, ?_, ?_⟩
      · simp only [users, adminChecks]
        rfl
      · simp
  | none =>
      cases stored : web.adminPassword with
      | some expected =>
          obtain ⟨given, kept⟩ := passwords hashed expected stored
          refine ⟨username == web.adminUser && password == expected, ?_, ?_⟩
          · simp only [users, compareDigest_ascii given kept]
            rfl
          · simp
      | none =>
          refine ⟨username == web.adminUser && false, ?_, ?_⟩
          · simp only [users]
            rfl
          · simp

theorem credentialsMatch_error {username password : String}
    (odd : ¬PasswordComparable web username password) :
    ∃ error, credentialsMatch (adminChecks hashes) web username password = .error error := by
  unfold credentialsMatch
  by_cases users : isAscii username.toList = true ∧ isAscii web.adminUser.toList = true
  · unfold PasswordComparable at odd
    cases hashed : web.adminPasswordHash with
    | some hash => exact absurd ⟨users.1, users.2, fun none => by rw [hashed] at none; nomatch none⟩ odd
    | none =>
        cases stored : web.adminPassword with
        | none =>
            exact absurd ⟨users.1, users.2, fun _ other same => by rw [stored] at same; nomatch same⟩ odd
        | some expected =>
            have passwords : ¬(isAscii password.toList = true ∧ isAscii expected.toList = true) := by
              intro both
              refine odd ⟨users.1, users.2, fun _ other same => ?_⟩
              obtain rfl : expected = other := Option.some.inj (stored.symm.trans same)
              exact both
            exact ⟨.typeError, by simp only [compareDigest_error passwords]; rfl⟩
  · have fails := compareDigest_error users
    cases web.adminPasswordHash with
    | some hash => exact ⟨.typeError, by simp only [fails]; rfl⟩
    | none =>
        cases web.adminPassword with
        | none => exact ⟨.typeError, by simp only [fails]; rfl⟩
        | some expected =>
            by_cases passwords : isAscii password.toList = true ∧ isAscii expected.toList = true
            · exact ⟨.typeError, by
                simp only [compareDigest_ascii passwords.1 passwords.2, fails]
                rfl⟩
            · exact ⟨.typeError, by simp only [compareDigest_error passwords]; rfl⟩

section

variable {host username password : String}

theorem authenticatePassword_skipped (skipped : ¬PasswordEvaluated web readings host registry) :
    IsClean (authenticatePassword (adminChecks hashes) web readings host username password registry).1 ∧
      (authenticatePassword (adminChecks hashes) web readings host username password registry).1 ≠
        .ok () := by
  unfold authenticatePassword
  cases configured : web.passwordConfigured with
  | false => exact ⟨isClean_http (by decide) _, nofun⟩
  | true =>
      cases allowed : (registry.loginAllowed host readings.passwordAllowed).1 with
      | false => simpa [allowed] using isClean_http (by decide) _
      | true => exact absurd ⟨configured, allowed⟩ skipped

theorem authenticatePassword_error (evaluated : PasswordEvaluated web readings host registry)
    (odd : ¬PasswordComparable web username password) :
    ∃ error after, authenticatePassword (adminChecks hashes) web readings host username password
      registry = (.error (.uncaught error), after) := by
  obtain ⟨error, fails⟩ := @credentialsMatch_error hashes web username password odd
  refine ⟨error, (registry.loginAllowed host readings.passwordAllowed).2, ?_⟩
  simp [authenticatePassword, evaluated.1, evaluated.2, fails]

theorem authenticatePassword_wrong (evaluated : PasswordEvaluated web readings host registry)
    (comparable : PasswordComparable web username password)
    (wrong : ¬PasswordRight hashes web username password) :
    authenticatePassword (adminChecks hashes) web readings host username password registry =
      (.error (.http 401 "invalid credentials"),
        (registry.loginAllowed host readings.passwordAllowed).2.recordFailure host
          readings.passwordRecorded) := by
  obtain ⟨matched, compared, right⟩ := @credentialsMatch_comparable hashes web username password comparable
  obtain rfl : matched = false := by simpa [wrong] using right
  simp [authenticatePassword, evaluated.1, evaluated.2, compared]

theorem authenticatePassword_right (evaluated : PasswordEvaluated web readings host registry)
    (comparable : PasswordComparable web username password)
    (right : PasswordRight hashes web username password) :
    authenticatePassword (adminChecks hashes) web readings host username password registry =
      (.ok (), (registry.loginAllowed host readings.passwordAllowed).2.clearFailures host) := by
  obtain ⟨matched, compared, iff⟩ := @credentialsMatch_comparable hashes web username password comparable
  obtain rfl : matched = true := iff.mpr right
  simp [authenticatePassword, evaluated.1, evaluated.2, compared]

end

theorem recordedAsFailure_after (source : String) (allowed recorded : ℚ) :
    RecordedAsFailure registry ((registry.loginAllowed source allowed).2.recordFailure source recorded)
      source allowed recorded := by
  simp [RecordedAsFailure, AuthSessionRegistry.recordFailure, AuthSessionRegistry.loginAllowed]

theorem codeAt_ok {secret : String} {key : List UInt8} (decodes : totpKey secret = .ok key)
    {counter : Int} (positive : 0 ≤ counter) :
    ∃ code, codeAt hashes secret counter = .ok code ∧ isAscii code.toList = true := by
  refine ⟨_, by rw [codeAt, decodes]; dsimp only; rw [if_neg (by omega)], ?_⟩
  rw [String.toList_ofList, isAscii, List.all_eq_true]
  intro c member
  rcases List.mem_append.mp member with zero | digit
  · obtain rfl := List.eq_of_mem_replicate zero
    rfl
  · obtain ⟨value, below, rfl⟩ := mem_toDigits (by omega) digit
    have digits : ∀ value < 10, decide ((Nat.digitChar value).toNat < 128) = true := by decide
    exact digits value below

theorem verifyOffsets_ok {secret code : String} {key : List UInt8} (decodes : totpKey secret = .ok key)
    (ascii : isAscii code.toList = true) {counter : Int} {offsets : List Int}
    (positive : ∀ offset ∈ offsets, 0 ≤ counter + offset) :
    verifyOffsets hashes secret code counter offsets =
      .ok (offsets.any fun offset => decide (codeAt hashes secret (counter + offset) = .ok code)) := by
  induction offsets with
  | nil => rfl
  | cons offset rest ih =>
      obtain ⟨expected, made, plain⟩ := @codeAt_ok hashes secret key decodes (counter + offset)
        (positive offset (List.mem_cons_self ..))
      have later := ih fun other member => positive other (List.mem_cons_of_mem _ member)
      rw [verifyOffsets, made]
      simp only [bind, Except.bind, compareDigest_ascii plain ascii, later, List.any_cons, made,
        Except.ok.injEq]
      cases same : (expected == code) with
      | true => simp [beq_iff_eq.mp same, pure, Except.pure]
      | false => simp [beq_eq_false_iff_ne.mp same]

theorem verifyOffsets_error {secret code : String} {counter offset : Int}
    (odd : ¬(isAscii code.toList = true ∧ (∃ key, totpKey secret = .ok key) ∧ 0 ≤ counter + offset))
    (rest : List Int) :
    ∃ error, verifyOffsets hashes secret code counter (offset :: rest) = .error error := by
  rw [verifyOffsets]
  cases decodes : totpKey secret with
  | error message => exact ⟨.valueError message, by rw [codeAt, decodes]; rfl⟩
  | ok key =>
      by_cases positive : 0 ≤ counter + offset
      · obtain ⟨expected, made, plain⟩ := @codeAt_ok hashes secret key decodes _ positive
        have notAscii : ¬(isAscii expected.toList = true ∧ isAscii code.toList = true) :=
          fun both => odd ⟨both.2, ⟨key, decodes⟩, positive⟩
        exact ⟨.typeError, by rw [made]; simp only [bind, Except.bind, compareDigest_error notAscii]⟩
      · exact ⟨.structError, by
          rw [codeAt, decodes]
          dsimp only
          rw [if_pos (by omega)]
          rfl⟩

theorem verifyCode_other {unixTime : Int} {secret code : String} (other : isSixDigits (strip code) = false) :
    verifyCode hashes unixTime secret code = .ok false := by
  rw [verifyCode, other]
  rfl

theorem verifyCode_digits {unixTime : Int} {secret code : String} (six : isSixDigits (strip code) = true) :
    verifyCode hashes unixTime secret code =
      verifyOffsets hashes secret (strip code) (unixTime / totpStepSeconds) [-1, 0, 1] := by
  rw [verifyCode, six]
  rfl

theorem codeMatches_comparable {unixTime : Int} {code : String}
    (comparable : CodeComparable web unixTime code) :
    ∃ matched, codeMatches (adminChecks hashes) web unixTime code = .ok matched ∧
      (matched = true → CodeRight hashes web unixTime code) := by
  unfold codeMatches
  cases stored : web.adminTotpSecret with
  | none => exact ⟨false, rfl, nofun⟩
  | some secret =>
      dsimp only [adminChecks]
      cases six : isSixDigits (strip code) with
      | false => exact ⟨false, verifyCode_other six, nofun⟩
      | true =>
          obtain ⟨ascii, ⟨key, decodes⟩, late⟩ := comparable secret stored six
          unfold totpStepSeconds at late
          have positive : ∀ offset ∈ [-1, 0, 1], 0 ≤ unixTime / totpStepSeconds + offset := by
            unfold totpStepSeconds
            intro offset member
            simp only [List.mem_cons, List.not_mem_nil, or_false] at member
            omega
          refine ⟨_, (verifyCode_digits six).trans (verifyOffsets_ok decodes ascii positive), ?_⟩
          intro matched
          obtain ⟨offset, member, same⟩ := List.any_eq_true.mp matched
          exact ⟨secret, stored, offset, member, of_decide_eq_true same⟩

theorem codeMatches_error {unixTime : Int} {code : String} (odd : ¬CodeComparable web unixTime code) :
    ∃ error, codeMatches (adminChecks hashes) web unixTime code = .error error := by
  unfold CodeComparable at odd
  simp only [not_forall] at odd
  obtain ⟨secret, stored, six, odd⟩ := odd
  unfold codeMatches
  rw [stored]
  dsimp only [adminChecks]
  rw [verifyCode_digits six]
  refine verifyOffsets_error ?_ _
  rintro ⟨ascii, decodes, positive⟩
  unfold totpStepSeconds at odd positive
  exact odd ⟨ascii, decodes, by omega⟩

theorem totpSource_ne (host : String) : totpSource host ≠ host := by
  intro same
  have lengths := congrArg String.length same
  rw [totpSource, String.length_append] at lengths
  exact absurd lengths (by simp)

theorem attempts_other {source other : String} (differ : source ≠ other) (allowed now : ℚ) :
    (((registry.loginAllowed other allowed).2.clearFailures other).attempts source now) =
      registry.attempts source now := by
  simp [AuthSessionRegistry.attempts, AuthSessionRegistry.clearFailures,
    AuthSessionRegistry.loginAllowed, Function.update_of_ne differ]

end

section

variable (hashes : HashFunctions) (web : WebConfig) (readings : Readings)
  (registry : AuthSessionRegistry)

theorem secondStep_cases (request : LoginRequest) (token csrfToken : String)
    (evaluated : PasswordEvaluated web readings request.host registry)
    (comparable : PasswordComparable web request.username request.password)
    (right : PasswordRight hashes web request.username request.password) :
    LoginFailsCleanly hashes web readings request registry
        (login (adminChecks hashes) web readings request token csrfToken registry) ↔
      ∀ code, CodeEvaluated hashes web readings request registry code →
        CodeComparable web readings.unixTime code := by
  have authenticated := authenticatePassword_right evaluated comparable right
  obtain ⟨before, made⟩ : ∃ before, before =
      (registry.loginAllowed request.host readings.passwordAllowed).2.clearFailures request.host :=
    ⟨_, rfl⟩
  rw [← made] at authenticated
  have same : before.attempts (totpSource request.host) readings.codeAllowed =
      registry.attempts (totpSource request.host) readings.codeAllowed := by
    rw [made]
    exact attempts_other (totpSource_ne request.host) _ _
  have allowance : (before.loginAllowed (totpSource request.host) readings.codeAllowed).1 =
      (registry.loginAllowed (totpSource request.host) readings.codeAllowed).1 := by
    simp only [AuthSessionRegistry.loginAllowed, same]
  rw [login, authenticated]
  dsimp only
  rw [secondStep]
  by_cases judged : web.adminTotpEnabled = true ∧ ∃ code, request.givenCode = some code ∧
      (registry.loginAllowed (totpSource request.host) readings.codeAllowed).1 = true
  · obtain ⟨asked, code, given, allowed⟩ := judged
    rw [asked, given]
    dsimp only
    rw [allowance, allowed]
    have all : CodeEvaluated hashes web readings request registry code :=
      ⟨evaluated, right, asked, given, allowed⟩
    by_cases plain : CodeComparable web readings.unixTime code
    · obtain ⟨matched, compared, sound⟩ := @codeMatches_comparable hashes web _ _ plain
      rw [compared]
      have every : ∀ other, CodeEvaluated hashes web readings request registry other →
          CodeComparable web readings.unixTime other := by
        rintro other ⟨-, -, -, again, -⟩
        obtain rfl := Option.some.inj (given.symm.trans again)
        exact plain
      refine iff_of_true ?_ every
      cases matched with
      | false =>
          refine ⟨isClean_http (by decide) _, fun _ wrong => absurd right wrong, fun other _ _ => ?_⟩
          have recorded := @recordedAsFailure_after before (totpSource request.host) readings.codeAllowed
            readings.codeRecorded
          rw [RecordedAsFailure, same] at recorded
          exact recorded
      | true =>
          refine ⟨isClean_ok _, fun _ wrong => absurd right wrong, ?_⟩
          rintro other ⟨-, -, -, again, -⟩ wrong
          obtain rfl := Option.some.inj (given.symm.trans again)
          exact absurd (sound rfl) wrong
    · obtain ⟨error, fails⟩ := @codeMatches_error hashes web _ _ plain
      rw [fails]
      exact iff_of_false (fun answer => not_isClean_uncaught error answer.1) fun every =>
        plain (every code all)
  · have unjudged (code : String) : ¬CodeEvaluated hashes web readings request registry code := by
      rintro ⟨-, -, asked, given, allowed⟩
      exact judged ⟨asked, code, given, allowed⟩
    refine iff_of_true ⟨?_, fun _ wrong => absurd right wrong, fun code evaluated =>
      absurd evaluated (unjudged code)⟩ fun code evaluated => absurd evaluated (unjudged code)
    cases asked : web.adminTotpEnabled with
    | false => exact isClean_ok _
    | true =>
        cases given : request.givenCode with
        | none => exact isClean_http (by decide) _
        | some code =>
            cases allowed : (registry.loginAllowed (totpSource request.host) readings.codeAllowed).1 with
            | false =>
                dsimp only
                rw [allowance, allowed]
                exact isClean_http (by decide) _
            | true => exact absurd ⟨asked, code, given, allowed⟩ judged

theorem login_cleanly_iff (request : LoginRequest) (token csrfToken : String) :
    LoginFailsCleanly hashes web readings request registry
        (login (adminChecks hashes) web readings request token csrfToken registry) ↔
      LoginComparable hashes web readings request registry := by
  by_cases evaluated : PasswordEvaluated web readings request.host registry
  · by_cases comparable : PasswordComparable web request.username request.password
    · by_cases right : PasswordRight hashes web request.username request.password
      · rw [secondStep_cases hashes web readings registry request token csrfToken evaluated comparable right]
        exact ⟨fun codes => ⟨fun _ => comparable, codes⟩, And.right⟩
      · have failed := authenticatePassword_wrong evaluated comparable right
        rw [login, failed]
        refine iff_of_true ⟨isClean_http (by decide) _, fun _ _ => recordedAsFailure_after _ _ _, ?_⟩
          ⟨fun _ => comparable, ?_⟩
        · exact fun code judged => absurd judged.2.1 right
        · exact fun code judged => absurd judged.2.1 right
    · obtain ⟨error, after, failed⟩ :=
        @authenticatePassword_error hashes web readings registry _ _ _ evaluated comparable
      rw [login, failed]
      exact iff_of_false (fun answer => not_isClean_uncaught error answer.1) fun every =>
        comparable (every.1 evaluated)
  · obtain ⟨clean, failed⟩ := @authenticatePassword_skipped hashes web readings registry _
      request.username request.password evaluated
    refine iff_of_true ⟨?_, fun yes => absurd yes evaluated, fun code judged => absurd judged.1 evaluated⟩
      ⟨fun yes => absurd yes evaluated, fun code judged => absurd judged.1 evaluated⟩
    rw [login]
    rcases answer : authenticatePassword (adminChecks hashes) web readings request.host request.username
      request.password registry with ⟨error | _, after⟩
    · rw [answer] at clean
      intro same equal
      obtain rfl := Except.error.inj equal
      exact clean error rfl
    · rw [answer] at failed
      exact absurd rfl failed

theorem isCrossOrigin_ok {request : AdminRequest} (readable : ∀ origin, request.originText = some origin →
    ∃ host, UrlText.hostname origin = .ok host) : ∃ crosses, request.isCrossOrigin = .ok crosses := by
  unfold AdminRequest.isCrossOrigin
  cases stated : request.originText with
  | none => exact ⟨_, rfl⟩
  | some origin =>
      obtain ⟨host, read⟩ := readable origin stated
      dsimp only
      rw [read]
      cases host with
      | none => exact ⟨_, rfl⟩
      | some host => exact ⟨_, rfl⟩

theorem isCrossOrigin_error {request : AdminRequest} (odd : ¬∀ origin, request.originText = some origin →
    ∃ host, UrlText.hostname origin = .ok host) : ∃ error, request.isCrossOrigin = .error error := by
  simp only [not_forall] at odd
  obtain ⟨origin, stated, odd⟩ := odd
  unfold AdminRequest.isCrossOrigin
  rw [stated]
  dsimp only
  cases read : UrlText.hostname origin with
  | error message => exact ⟨_, rfl⟩
  | ok host => exact absurd ⟨host, read⟩ odd

theorem basic_right (request : AdminRequest) (credentials : BasicCredentials)
    (parsed : parseBasicAuthorization (adminChecks hashes) request.authorization = some credentials)
    (evaluated : PasswordEvaluated web readings request.host registry)
    (comparable : PasswordComparable web credentials.username credentials.password)
    (right : PasswordRight hashes web credentials.username credentials.password) (after : AuthSessionRegistry) :
    RequireAdminFailsCleanly hashes web readings request (none, registry)
        (if !request.isMutating then (.ok .password, after)
        else match request.isCrossOrigin with
          | .error error => (.error (.uncaught error), after)
          | .ok true => (.error (.http 403 "cross-origin request rejected"), after)
          | .ok false => (.ok .password, after)) ↔
      RequireAdminComparable hashes web readings request (none, registry) := by
  have only {other : BasicCredentials} (same : parseBasicAuthorization (adminChecks hashes)
      request.authorization = some other) : other = credentials :=
    Option.some.inj (same.symm.trans parsed)
  have quiet (outcome : Except RequestError Authentication) (clean : IsClean outcome) :
      RequireAdminFailsCleanly hashes web readings request (none, registry) (outcome, after) := by
    refine ⟨clean, fun other _ same _ wrong => ?_⟩
    obtain rfl := only same
    exact absurd right wrong
  by_cases readable : request.isMutating = true → ∀ origin, request.originText = some origin →
      ∃ host, UrlText.hostname origin = .ok host
  · refine iff_of_true ?_ ?_
    · cases mutating : request.isMutating with
      | false => exact quiet _ (isClean_ok _)
      | true =>
          obtain ⟨crosses, judged⟩ := isCrossOrigin_ok (readable mutating)
          rw [judged]
          cases crosses with
          | false => exact quiet _ (isClean_ok _)
          | true => exact quiet _ (isClean_http (by decide) _)
    · intro other same _
      obtain rfl := only same
      exact ⟨comparable, fun _ => readable⟩
  · have parts := Classical.not_imp.mp readable
    obtain ⟨error, judged⟩ := isCrossOrigin_error parts.2
    rw [parts.1, judged]
    exact iff_of_false (fun answer => not_isClean_uncaught error answer.1) fun every =>
      readable ((every credentials parsed evaluated).2 right)

theorem requireAdmin_basic_iff (request : AdminRequest) (credentials : BasicCredentials)
    (parsed : parseBasicAuthorization (adminChecks hashes) request.authorization = some credentials)
    (found : (request.session readings registry).1 = none) :
    RequireAdminFailsCleanly hashes web readings request (request.session readings registry)
        (requireAdmin (adminChecks hashes) web readings request registry) ↔
      RequireAdminComparable hashes web readings request (request.session readings registry) := by
  unfold requireAdmin
  rcases search : request.session readings registry with ⟨session, before⟩
  rw [search] at found
  obtain rfl : session = none := found
  dsimp only
  rw [parsed]
  dsimp only
  have only {other : BasicCredentials} (same : parseBasicAuthorization (adminChecks hashes)
      request.authorization = some other) : other = credentials :=
    Option.some.inj (same.symm.trans parsed)
  by_cases evaluated : PasswordEvaluated web readings request.host before
  · by_cases comparable : PasswordComparable web credentials.username credentials.password
    · by_cases right : PasswordRight hashes web credentials.username credentials.password
      · rw [authenticatePassword_right evaluated comparable right]
        exact basic_right hashes web readings before request credentials parsed evaluated comparable right _
      · rw [authenticatePassword_wrong evaluated comparable right]
        refine iff_of_true ⟨isClean_http (by decide) _, fun _ _ _ _ _ => recordedAsFailure_after _ _ _⟩ ?_
        intro other same _
        obtain rfl := only same
        exact ⟨comparable, fun yes => absurd yes right⟩
    · obtain ⟨error, after, failed⟩ :=
        @authenticatePassword_error hashes web readings before _ _ _ evaluated comparable
      rw [failed]
      exact iff_of_false (fun answer => not_isClean_uncaught error answer.1) fun every =>
        comparable (every credentials parsed evaluated).1
  · obtain ⟨clean, failed⟩ := @authenticatePassword_skipped hashes web readings before _
      credentials.username credentials.password evaluated
    rcases answer : authenticatePassword (adminChecks hashes) web readings request.host
      credentials.username credentials.password before with ⟨error | _, after⟩
    · rw [answer] at clean
      refine iff_of_true ⟨?_, fun _ _ _ yes => absurd yes evaluated⟩ fun _ _ yes => absurd yes evaluated
      intro same equal
      obtain rfl := Except.error.inj equal
      exact clean error rfl
    · rw [answer] at failed
      exact absurd rfl failed

theorem requireAdmin_session_iff (request : AdminRequest) (token : String) (session : AdminSession)
    (found : (request.session readings registry).1 = some (token, session)) :
    RequireAdminFailsCleanly hashes web readings request (request.session readings registry)
        (requireAdmin (adminChecks hashes) web readings request registry) ↔
      RequireAdminComparable hashes web readings request (request.session readings registry) := by
  unfold requireAdmin
  rcases search : request.session readings registry with ⟨kept, before⟩
  rw [search] at found
  obtain rfl : kept = some (token, session) := found
  have quiet (outcome : Except RequestError Authentication) (clean : IsClean outcome) :
      RequireAdminFailsCleanly hashes web readings request (some (token, session), before)
        (outcome, before) :=
    ⟨clean, fun _ none => nomatch none⟩
  unfold RequireAdminComparable
  dsimp only
  cases mutating : request.isMutating with
  | false => exact iff_of_true (quiet _ (isClean_ok _)) fun yes => nomatch yes
  | true =>
      by_cases ascii : isAscii request.csrfToken.toList = true ∧ isAscii session.csrfToken.toList = true
      · rw [compareDigest_ascii ascii.1 ascii.2]
        refine iff_of_true ?_ fun _ => ascii
        cases request.csrfToken == session.csrfToken with
        | false => exact quiet _ (isClean_http (by decide) _)
        | true => exact quiet _ (isClean_ok _)
      · rw [compareDigest_error ascii]
        exact iff_of_false (fun answer => not_isClean_uncaught _ answer.1) fun all => ascii (all rfl)

theorem requireAdmin_cleanly_iff (request : AdminRequest) :
    RequireAdminFailsCleanly hashes web readings request (request.session readings registry)
        (requireAdmin (adminChecks hashes) web readings request registry) ↔
      RequireAdminComparable hashes web readings request (request.session readings registry) := by
  cases found : (request.session readings registry).1 with
  | some kept => exact requireAdmin_session_iff hashes web readings registry request kept.1 kept.2 found
  | none =>
      cases parsed : parseBasicAuthorization (adminChecks hashes) request.authorization with
      | some credentials =>
          exact requireAdmin_basic_iff hashes web readings registry request credentials parsed found
      | none =>
          unfold requireAdmin RequireAdminComparable
          rcases search : request.session readings registry with ⟨session, before⟩
          rw [search] at found
          obtain rfl : session = none := found
          dsimp only
          rw [parsed]
          refine iff_of_true ⟨isClean_http (by decide) _, fun _ _ given => ?_⟩ fun _ given => nomatch given
          rw [parsed] at given
          nomatch given

end

/-- Logins and guarded requests fail cleanly where what is compared can be compared. -/
theorem authentication_cleanly_iff (hashes : HashFunctions) (web : WebConfig) (readings : Readings)
    (registry : AuthSessionRegistry) (loginRequest : LoginRequest) (token csrfToken : String)
    (request : AdminRequest) :
    (LoginFailsCleanly hashes web readings loginRequest registry
        (login (adminChecks hashes) web readings loginRequest token csrfToken registry) ↔
      LoginComparable hashes web readings loginRequest registry) ∧
    (RequireAdminFailsCleanly hashes web readings request (request.session readings registry)
        (requireAdmin (adminChecks hashes) web readings request registry) ↔
      RequireAdminComparable hashes web readings request (request.session readings registry)) :=
  ⟨login_cleanly_iff hashes web readings registry loginRequest token csrfToken,
    requireAdmin_cleanly_iff hashes web readings registry request⟩

def plainHashes : HashFunctions where
  scrypt _ _ := none
  hmacSha1 _ _ := Vector.replicate 20 0

def cyrillicLogin : LoginRequest := { host := "192.0.2.1", username := "админ", password := "guess" }

theorem cyrillicLogin_uncaught :
    ¬∀ (hashes : HashFunctions) (web : WebConfig) (readings : Readings) (request : LoginRequest)
      (token csrfToken : String) (registry : AuthSessionRegistry),
      LoginFailsCleanly hashes web readings request registry
        (login (adminChecks hashes) web readings request token csrfToken registry) := by
  intro cleanly
  have one := (cleanly plainHashes { adminPassword := some "secret" } {} cyrillicLogin "" "" {}).1
  have failed : (login (adminChecks plainHashes) { adminPassword := some "secret" } {} cyrillicLogin "" ""
      {}).1 = .error (.uncaught .typeError) := by decide +kernel
  rw [failed] at one
  exact not_isClean_uncaught _ one

end Korserver
