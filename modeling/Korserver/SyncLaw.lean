import Korserver.OpenconnectCore
import Korserver.PushedRulesCore
import Korserver.PushedStore

/-!
What a sync stores for what curl printed. The runner masks secrets in the output before it is read
as JSON, and three ways to fail are no `ValueError` of the block that catches them.
-/

namespace Korserver

open PythonText PythonValue

/-- `json.loads`, and the values whose text or `str` needs more than Python's recursion limit. -/
structure JsonReader where
  value : String → Except String Json
  named : ∀ text message, value text = .error message → message ≠ ""
  blank : ∃ message, value "" = .error message
  null : value "null" = .ok .null
  tooDeep : String → Bool
  strTooDeep : Json → Bool

/-- What curl leaves to the runner, which decodes both streams as UTF-8. -/
inductive CurlOutcome
  | undecodable
  | exited (returncode : Int) (stdout stderr : String)

/-- `result.stdout or "null"`, after the runner has masked it. -/
def receivedBody (stdout : String) : String :=
  if maskText [] stdout = "" then "null" else maskText [] stdout

section Reading

variable (reader : JsonReader) (repr : Json → String)

/-- `parse_sync_payload(json.loads(text))` raises a `RecursionError`. -/
def JsonReader.overflows (text : String) : Bool :=
  reader.tooDeep text ||
    match reader.value text with
    | .ok (.dict payload) =>
        match lookup "version" payload with
        | some version => version.truthy && reader.strTooDeep version
        | none => false
    | _ => false

def CurlOutcome.answer : CurlOutcome → SyncAnswer
  | .undecodable => .raised
  | .exited returncode stdout stderr =>
      if returncode ≠ 0 then .curlFailed returncode (maskText [] stderr)
      else if reader.overflows (receivedBody stdout) = true then .raised
      else
        match reader.value (receivedBody stdout) with
        | .ok payload => .json payload
        | .error message => .notJson message

/-- The call of `sync_server_routes` that meets this outcome. -/
def CurlOutcome.sync (outcome : CurlOutcome) (profile : UpstreamProfileConfig) (now : Int) : SyncCall where
  profile
  answer := outcome.answer reader
  now
  repr

def JsonReader.lists (text : String) : Option SyncLists :=
  match reader.value text with
  | .ok payload => (parseSyncPayload repr payload).toOption
  | .error _ => none

def CurlOutcome.body : CurlOutcome → Option SyncLists
  | .undecodable => none
  | .exited returncode stdout _ => if returncode = 0 then reader.lists repr stdout else none

def CurlOutcome.Faithful : CurlOutcome → Prop
  | .undecodable => False
  | .exited returncode stdout _ => returncode = 0 →
      reader.overflows (receivedBody stdout) = false ∧
        reader.lists repr (receivedBody stdout) = reader.lists repr stdout

end Reading

def SyncCall.returned (sync : SyncCall) (config : AppConfig) (files : Files) : Option PushedRouting :=
  match truthy sync.profile.syncUrl, sync.answer with
  | none, _ => none
  | some _, .raised => none
  | some _, _ => some (sync.result config (files.loadPushed config sync.profile))

/-- What a sync at `now` does to the record, for the lists in the body. -/
def SyncLaw (body : Option SyncLists) (now : Int) (previous updated : PushedRouting) : Prop :=
  match body with
  | none =>
      updated.routes = previous.routes ∧ updated.domains = previous.domains ∧
        updated.dns = previous.dns ∧ updated.source = previous.source ∧
        updated.version = previous.version ∧ updated.updatedAt = previous.updatedAt ∧
        (∃ error, updated.syncError = .str error ∧ error ≠ "") ∧ updated.syncedAt = .int now
  | some lists =>
      updated.routes = texts lists.routes ∧ updated.domains = texts lists.domains ∧
        updated.version = .str lists.version ∧ updated.syncError = .str "" ∧
        updated.dns = previous.dns ∧
        (if sameVersion lists.version previous.version then updated.updatedAt = previous.updatedAt
         else updated.updatedAt = .int now)

theorem texts_injective {left right : List String} (same : texts left = texts right) : left = right := by
  have items : left.map Json.str = right.map Json.str := Json.list.inj same
  exact List.map_injective_iff.mpr (fun _ _ equal => Json.str.inj equal) items

theorem SyncCall.stores_returned {sync : SyncCall} {config : AppConfig} {files : Files}
    {updated : PushedRouting} (returned : sync.returned config files = some updated) :
    (sync.run config files).loadPushed config sync.profile = updated := by
  unfold SyncCall.returned at returned
  cases url : truthy sync.profile.syncUrl with
  | none => simp [url] at returned
  | some address =>
      cases answer : sync.answer with
      | raised => simp [url, answer] at returned
      | curlFailed returncode stderr =>
          simpa [SyncCall.run, SyncCall.step, url, answer] using returned
      | notJson message => simpa [SyncCall.run, SyncCall.step, url, answer] using returned
      | json payload => simpa [SyncCall.run, SyncCall.step, url, answer] using returned

theorem truncated_nonempty {message : String} (named : message ≠ "") :
    String.ofList (message.toList.take maxErrorLength) ≠ "" := by
  intro empty
  have chars : message.toList.take maxErrorLength = [] := by
    simpa using congrArg String.toList empty
  rcases List.take_eq_nil_iff.mp chars with zero | nothing
  · nomatch zero
  · exact named (String.toList_eq_nil_iff.mp nothing)

theorem SyncCall.result_law (sync : SyncCall) (named : ∀ message, sync.lists = .error message → message ≠ "")
    (config : AppConfig) (previous : PushedRouting) :
    SyncLaw sync.lists.toOption sync.now previous (sync.result config previous) := by
  unfold SyncCall.result
  cases read : sync.lists with
  | error message =>
      exact ⟨rfl, rfl, rfl, rfl, rfl, rfl, ⟨_, rfl, truncated_nonempty (named message read)⟩, rfl⟩
  | ok lists =>
      refine ⟨rfl, rfl, rfl, rfl, rfl, ?_⟩
      split
      · simp_all
      · simp_all

theorem SyncLaw.body_unique {first second : Option SyncLists} {now : Int}
    {previous updated : PushedRouting} (left : SyncLaw first now previous updated)
    (right : SyncLaw second now previous updated) : first = second := by
  cases first with
  | none =>
      cases second with
      | none => rfl
      | some lists =>
          obtain ⟨-, -, -, -, -, -, ⟨error, failed, named⟩, -⟩ := left
          obtain ⟨-, -, -, cleared, -⟩ := right
          exact absurd (Json.str.inj (failed.symm.trans cleared)) named
  | some lists =>
      obtain ⟨routes, domains, version, cleared, -⟩ := left
      cases second with
      | none =>
          obtain ⟨-, -, -, -, -, -, ⟨error, failed, named⟩, -⟩ := right
          exact absurd (Json.str.inj (failed.symm.trans cleared)) named
      | some others =>
          obtain ⟨routes', domains', version', -⟩ := right
          cases lists
          cases others
          simp only [Option.some.injEq, SyncLists.mk.injEq]
          exact ⟨texts_injective (routes.symm.trans routes'), texts_injective (domains.symm.trans domains'),
            Json.str.inj (version.symm.trans version')⟩

section Law

variable {reader : JsonReader} {repr : Json → String} {profile : UpstreamProfileConfig} {now : Int}

theorem parseSyncPayload_error {payload : Json} {error : PyError}
    (failed : parseSyncPayload repr payload = .error error) :
    error = .valueError "sync response must be a JSON object" := by
  cases payload with
  | dict items => nomatch failed
  | _ => exact (Except.error.inj failed).symm

theorem sync_named {outcome : CurlOutcome} (answered : outcome.answer reader ≠ .raised) (message : String)
    (failed : (outcome.sync reader repr profile now).lists = .error message) : message ≠ "" := by
  cases outcome with
  | undecodable => exact absurd rfl answered
  | exited returncode stdout stderr =>
      simp only [SyncCall.lists, CurlOutcome.sync, CurlOutcome.answer] at answered failed
      by_cases exited : returncode ≠ 0
      · simp only [if_pos exited, Except.error.injEq] at failed
        subst failed
        split
        · intro empty
          have chars := congrArg String.toList empty
          simp at chars
        · assumption
      · simp only [if_neg exited] at answered failed
        by_cases deep : reader.overflows (receivedBody stdout) = true
        · exact absurd (if_pos deep) answered
        · simp only [if_neg deep] at failed
          cases value : reader.value (receivedBody stdout) with
          | error text =>
              simp only [value, Except.error.injEq] at failed
              exact failed ▸ reader.named _ _ value
          | ok payload =>
              simp only [value] at failed
              cases parsed : parseSyncPayload repr payload with
              | ok lists => simp [parsed] at failed
              | error error =>
                  obtain rfl := parseSyncPayload_error parsed
                  simp only [parsed, Except.error.injEq] at failed
                  exact failed ▸ by decide

theorem sync_lists {returncode : Int} {stdout stderr : String}
    (answered : (CurlOutcome.exited returncode stdout stderr).answer reader ≠ .raised) :
    (CurlOutcome.sync reader repr (.exited returncode stdout stderr) profile now).lists.toOption =
      if returncode = 0 then reader.lists repr (receivedBody stdout) else none := by
  simp only [SyncCall.lists, CurlOutcome.sync, CurlOutcome.answer, JsonReader.lists] at answered ⊢
  by_cases exited : returncode = 0
  · simp only [exited, ne_eq, not_true_eq_false, if_false, if_true] at answered ⊢
    by_cases deep : reader.overflows (receivedBody stdout) = true
    · exact absurd (if_pos deep) answered
    · rw [if_neg deep]
      cases value : reader.value (receivedBody stdout) with
      | error text => rfl
      | ok payload =>
          cases parsed : parseSyncPayload repr payload with
          | ok lists =>
              simp only [parsed]
              rfl
          | error error =>
              obtain rfl := parseSyncPayload_error parsed
              simp [parsed, Except.toOption]
  · rw [if_pos exited, if_neg exited]
    rfl

theorem returned_iff {sync : SyncCall} {config : AppConfig} {files : Files} {updated : PushedRouting}
    (url : truthy sync.profile.syncUrl ≠ none) :
    sync.returned config files = some updated ↔
      sync.answer ≠ .raised ∧ sync.result config (files.loadPushed config sync.profile) = updated := by
  unfold SyncCall.returned
  cases given : truthy sync.profile.syncUrl with
  | none => exact absurd given url
  | some address => cases sync.answer <;> simp

theorem answer_raised {returncode : Int} {stdout stderr : String} :
    (CurlOutcome.exited returncode stdout stderr).answer reader = .raised ↔
      returncode = 0 ∧ reader.overflows (receivedBody stdout) = true := by
  rw [CurlOutcome.answer]
  by_cases exited : returncode = 0
  · rw [if_neg (not_not_intro exited)]
    by_cases deep : reader.overflows (receivedBody stdout) = true
    · simp [exited, deep]
    · rw [if_neg deep]
      cases reader.value (receivedBody stdout) <;> simp [deep]
  · simp [exited]

/-- A sync keeps the law of the body that the server sent exactly if the output can be decoded and
the body that is read says the same. -/
theorem syncLaw_iff (outcome : CurlOutcome) (config : AppConfig) (files : Files)
    (url : truthy profile.syncUrl ≠ none) :
    (∃ updated,
      (outcome.sync reader repr profile now).returned config files = some updated ∧
        ((outcome.sync reader repr profile now).run config files).loadPushed config profile = updated ∧
        SyncLaw (outcome.body reader repr) now (files.loadPushed config profile) updated) ↔
      outcome.Faithful reader repr := by
  have law : ∀ answered : outcome.answer reader ≠ .raised, _ := fun answered =>
    (outcome.sync reader repr profile now).result_law (sync_named answered) config
      (files.loadPushed config profile)
  constructor
  · rintro ⟨updated, returned, -, kept⟩
    obtain ⟨answered, rfl⟩ := (returned_iff url).mp returned
    have unique := (law answered).body_unique kept
    cases outcome with
    | undecodable => exact absurd rfl answered
    | exited returncode stdout stderr =>
        rintro exited
        refine ⟨Bool.eq_false_iff.mpr fun deep => answered (answer_raised.mpr ⟨exited, deep⟩), ?_⟩
        rw [sync_lists answered, if_pos exited] at unique
        rw [unique, CurlOutcome.body, if_pos exited]
  · intro faithful
    cases outcome with
    | undecodable => exact faithful.elim
    | exited returncode stdout stderr =>
        have answered : (CurlOutcome.exited returncode stdout stderr).answer reader ≠ .raised := by
          intro raised
          obtain ⟨exited, deep⟩ := answer_raised.mp raised
          exact absurd deep (Bool.eq_false_iff.mp (faithful exited).1)
        have same : reader.lists repr (receivedBody stdout) = reader.lists repr stdout ∨ returncode ≠ 0 := by
          by_cases exited : returncode = 0
          · exact .inl (faithful exited).2
          · exact .inr exited
        have returned : ((CurlOutcome.exited returncode stdout stderr).sync reader repr profile now).returned
            config files = some _ := (returned_iff url).mpr ⟨answered, rfl⟩
        refine ⟨_, returned, SyncCall.stores_returned returned, ?_⟩
        have kept := law answered
        rw [sync_lists answered] at kept
        rw [CurlOutcome.body]
        rcases same with same | failed
        · rwa [same] at kept
        · rwa [if_neg failed] at kept ⊢

end Law

def sampleBody : String :=
  "\x7b\"routes\": [\"10.1.0.0/16\"], \"split_dns\": [\"intra.example\"], \"version\": \"7\"\x7d"

def sampleReader : JsonReader where
  value text :=
    if text = "null" then .ok .null
    else if text = sampleBody then
      .ok (.dict [("routes", .list [.str "10.1.0.0/16"]), ("split_dns", .list [.str "intra.example"]),
        ("version", .str "7")])
    else .error "Expecting value"
  named text message failed := by
    split at failed
    · nomatch failed
    · split at failed
      · nomatch failed
      · exact Except.error.inj failed ▸ by decide
  blank := ⟨"Expecting value", rfl⟩
  null := rfl
  tooDeep _ := false
  strTooDeep _ := false

/-- The body is stored where a handshake has stored a DNS server. -/
theorem syncLaw_iff_sample :
    let sync := (CurlOutcome.exited 0 sampleBody "").sync sampleReader (fun _ => "") pushedProfile 300
    ∃ updated, sync.returned pushedConfig earlierHandshake = some updated ∧
      (sync.run pushedConfig earlierHandshake).loadPushed pushedConfig pushedProfile = updated ∧
      SyncLaw ((CurlOutcome.exited 0 sampleBody "").body sampleReader fun _ => "") 300
        (earlierHandshake.loadPushed pushedConfig pushedProfile) updated := by
  refine (syncLaw_iff (.exited 0 sampleBody "") pushedConfig earlierHandshake (by decide +kernel)).mpr fun _ => ?_
  have received : receivedBody sampleBody = sampleBody := by decide +kernel
  rw [received]
  exact ⟨by decide +kernel, rfl⟩

/-- Bytes that are no UTF-8 raise a `UnicodeDecodeError` in the runner, before the block that
catches a `ValueError`. -/
theorem undecodableOutput_raises :
    (CurlOutcome.undecodable.sync sampleReader (fun _ => "") pushedProfile 5).returned {} {} = none ∧
      ¬∃ updated, SyncLaw (CurlOutcome.undecodable.body sampleReader fun _ => "") 5
        (({} : Files).loadPushed {} pushedProfile) updated ∧
        (CurlOutcome.undecodable.sync sampleReader (fun _ => "") pushedProfile 5).returned {} {} =
          some updated := by
  refine ⟨rfl, ?_⟩
  rintro ⟨updated, -, returned⟩
  nomatch returned

end Korserver
