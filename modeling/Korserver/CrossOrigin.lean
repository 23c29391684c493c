import Korserver.AdminAccessCore

/-!
When a mutating request with a password is turned away for where it comes from, against when its
headers name another host or none.
-/

namespace Korserver

open PythonText UrlText

/-- The host that a `Host` header names: a literal in brackets, or what stands before the port. -/
def hostHeaderName (header : String) : List Char :=
  match header.toList with
  | '[' :: rest => before ']' rest
  | text => before ':' text

def NamesHost (stated hostHeader : String) : Prop :=
  ∃ named, hostname stated = .ok (some named) ∧ hostHeaderName hostHeader ≠ [] ∧
    named.toList.map lowerLatin = (hostHeaderName hostHeader).map lowerLatin

def AdminRequest.statedOrigin (request : AdminRequest) : Option String :=
  request.origin.or request.referer

/-- There is no session, and the credentials of the mutating request are right. -/
def ByBasic (checks : AdminChecks) (web : WebConfig) (readings : Readings) (request : AdminRequest)
    (registry : AuthSessionRegistry) : Prop :=
  request.isMutating = true ∧ (request.session readings registry).1 = none ∧
    ∃ credentials, parseBasicAuthorization checks request.authorization = some credentials ∧
      (authenticatePassword checks web readings request.host credentials.username
        credentials.password (request.session readings registry).2).1 = .ok ()

def RejectedAsCrossOrigin (checks : AdminChecks) (web : WebConfig) (readings : Readings)
    (request : AdminRequest) (registry : AuthSessionRegistry) : Prop :=
  (requireAdmin checks web readings request registry).1 =
    .error (.http 403 "cross-origin request rejected")

/-- Rejected are the requests that state another host, or something that is no host. -/
def RejectedExactly (checks : AdminChecks) (web : WebConfig) (readings : Readings)
    (request : AdminRequest) (registry : AuthSessionRegistry) : Prop :=
  RejectedAsCrossOrigin checks web readings request registry ↔
    ∃ stated, request.statedOrigin = some stated ∧ ¬NamesHost stated request.hostHeader

/-- Nothing states an origin; or the header that is read names a host, and so does the text before
the first colon of `Host`: in the same spelling where it is the stated host, and in another one
where the stated origin is empty. -/
def AdminRequest.HostsComparable (request : AdminRequest) : Prop :=
  ∀ stated, request.statedOrigin = some stated → ∃ read named,
    request.originText = some read ∧ hostname read = .ok (some named) ∧ request.hostText ≠ "" ∧
      (NamesHost stated request.hostHeader → named = request.hostText) ∧
        (stated = "" → named ≠ request.hostText)

section

variable {checks : AdminChecks} {web : WebConfig} {readings : Readings} {request : AdminRequest}
  {registry : AuthSessionRegistry}

theorem originText_stated {stated : String} (states : request.statedOrigin = some stated)
    (nonempty : stated ≠ "") : request.originText = some stated := by
  unfold AdminRequest.statedOrigin at states
  unfold AdminRequest.originText
  cases given : request.origin with
  | some origin =>
      obtain rfl : origin = stated := by simpa [given] using states
      simp [Option.filter, nonempty]
  | none =>
      have referer : request.referer = some stated := by simpa [given] using states
      simp [referer, Option.filter, nonempty]

theorem originText_none (silent : request.statedOrigin = none) : request.originText = none := by
  simp only [AdminRequest.statedOrigin, Option.or_eq_none_iff] at silent
  simp [AdminRequest.originText, silent.1, silent.2]

theorem isCrossOrigin_iff :
    request.isCrossOrigin = .ok true ↔ ∃ read named, request.originText = some read ∧
      hostname read = .ok (some named) ∧ request.hostText ≠ "" ∧ named ≠ request.hostText := by
  constructor
  · intro crosses
    unfold AdminRequest.isCrossOrigin at crosses
    split at crosses
    · nomatch crosses
    · rename_i read given
      split at crosses
      · nomatch crosses
      · nomatch crosses
      · rename_i named host
        simp only [Except.ok.injEq, Bool.and_eq_true, bne_iff_ne] at crosses
        exact ⟨read, named, given, host, crosses.1.2, crosses.2⟩
  · rintro ⟨read, named, given, host, hostText, differ⟩
    simp [AdminRequest.isCrossOrigin, given, host, (hostname_head host).1, hostText, differ]

/-- What `require_admin` does with right credentials is left to the last check. -/
theorem rejected_iff (byBasic : ByBasic checks web readings request registry) :
    RejectedAsCrossOrigin checks web readings request registry ↔ request.isCrossOrigin = .ok true := by
  obtain ⟨mutating, noSession, credentials, parsed, authenticated⟩ := byBasic
  unfold RejectedAsCrossOrigin requireAdmin
  rcases found : request.session readings registry with ⟨session, after⟩
  rw [found] at noSession authenticated
  obtain rfl : session = none := noSession
  dsimp only at authenticated ⊢
  rw [parsed]
  dsimp only
  rcases answer : authenticatePassword checks web readings request.host credentials.username
    credentials.password after with ⟨outcome, later⟩
  rw [answer] at authenticated
  obtain rfl : outcome = .ok () := authenticated
  dsimp only
  rw [mutating]
  cases request.isCrossOrigin with
  | error error => simp
  | ok crosses => cases crosses <;> simp

theorem namesHost_of_same {read : String} (hostText : request.hostText ≠ "")
    (named : hostname read = .ok (some request.hostText)) : NamesHost read request.hostHeader := by
  have noBracket := (hostname_head named).2
  have name : hostHeaderName request.hostHeader = request.hostText.toList := by
    rw [AdminRequest.hostText, String.toList_ofList] at noBracket ⊢
    unfold hostHeaderName
    split
    · rename_i rest bracketed
      exact absurd (by rw [bracketed]; rfl) noBracket
    · rfl
  refine ⟨_, named, ?_, by rw [name]⟩
  rw [name]
  exact fun empty => hostText (String.toList_eq_nil_iff.mp empty)

theorem not_namesHost_empty (hostHeader : String) : ¬NamesHost "" hostHeader := by
  rintro ⟨named, read, -⟩
  rw [hostname_empty] at read
  nomatch read

end

/-- The requests that `_reject_cross_origin_basic_request` judges as it is meant to. -/
theorem rejectedExactly_iff (checks : AdminChecks) (web : WebConfig) (readings : Readings)
    (request : AdminRequest) (registry : AuthSessionRegistry)
    (byBasic : ByBasic checks web readings request registry) :
    RejectedExactly checks web readings request registry ↔ request.HostsComparable := by
  unfold RejectedExactly
  rw [rejected_iff byBasic, isCrossOrigin_iff]
  constructor
  · intro exactly stated states
    by_cases names : NamesHost stated request.hostHeader
    · have notRejected := mt exactly.mp
        (by rintro ⟨other, same, no⟩; rw [states] at same; exact no (Option.some.inj same ▸ names))
      have nonempty : stated ≠ "" := fun empty => not_namesHost_empty _ (empty ▸ names)
      have read := originText_stated states nonempty
      obtain ⟨named, host, hostExists, same⟩ := names
      have hostText : request.hostText ≠ "" := by
        intro empty
        have chars := String.toList_eq_nil_iff.mpr empty
        rw [AdminRequest.hostText, String.toList_ofList] at chars
        unfold hostHeaderName at hostExists
        split at hostExists
        · rename_i rest bracketed
          rw [bracketed] at chars
          simp [before] at chars
        · exact hostExists chars
      refine ⟨stated, named, read, host, hostText, ?_, fun empty => absurd empty nonempty⟩
      intro _
      by_contra differ
      exact notRejected ⟨stated, named, read, host, hostText, differ⟩
    · obtain ⟨read, named, given, host, hostText, differ⟩ := exactly.mpr ⟨stated, states, names⟩
      exact ⟨read, named, given, host, hostText, fun yes => absurd yes names, fun _ => differ⟩
  · intro comparable
    constructor
    · rintro ⟨read, named, given, host, hostText, differ⟩
      cases states : request.statedOrigin with
      | none =>
          rw [originText_none states] at given
          cases given
      | some stated =>
          refine ⟨stated, rfl, fun names => ?_⟩
          obtain ⟨other, otherName, sameRead, sameHost, -, spelled, -⟩ := comparable stated states
          obtain rfl := Option.some.inj (given.symm.trans sameRead)
          obtain rfl : named = otherName := by simpa [host] using sameHost
          exact differ (spelled names)
    · rintro ⟨stated, states, no⟩
      obtain ⟨read, named, given, host, hostText, -, empty⟩ := comparable stated states
      refine ⟨read, named, given, host, hostText, ?_⟩
      by_cases nonempty : stated = ""
      · exact empty nonempty
      · rintro rfl
        obtain rfl := Option.some.inj (given.symm.trans (originText_stated states nonempty))
        exact no (namesHost_of_same hostText host)

def originWeb : WebConfig := { adminPassword := some "secret" }

/-- `Authorization: Basic YWRtaW46c2VjcmV0`. -/
def originChecks : AdminChecks where
  verifyPassword _ _ := false
  verifyCode _ _ _ := .ok false
  decodeToken token := if token = "YWRtaW46c2VjcmV0" then some "admin:secret" else none

def originRequest (origin hostHeader : String) : AdminRequest where
  host := "2001:db8::7"
  method := "POST"
  authorization := some "Basic YWRtaW46c2VjcmV0"
  origin := some origin
  hostHeader := hostHeader

theorem originRequest_byBasic (origin hostHeader : String) :
    ByBasic originChecks originWeb {} (originRequest origin hostHeader) {} := by
  have parsed : parseBasicAuthorization originChecks (some "Basic YWRtaW46c2VjcmV0") =
      some { username := "admin", password := "secret" } := by rfl
  have right : (authenticatePassword originChecks originWeb {} "2001:db8::7" "admin" "secret" {}).1 =
      .ok () := by decide +kernel
  exact ⟨rfl, rfl, _, parsed, right⟩

theorem ownOrigin_rejected :
    ¬∀ (checks : AdminChecks) (web : WebConfig) (readings : Readings) (request : AdminRequest)
      (registry : AuthSessionRegistry), ByBasic checks web readings request registry →
        RejectedExactly checks web readings request registry := by
  intro exactly
  have byBasic := originRequest_byBasic "https://[2001:db8::1]:8443" "[2001:db8::1]:8443"
  obtain ⟨stated, states, no⟩ :=
    (exactly _ _ _ _ _ byBasic).mp ((rejected_iff byBasic).mpr (by decide +kernel))
  obtain rfl := Option.some.inj states
  exact no ⟨"2001:db8::1", by decide +kernel, by decide +kernel, by decide +kernel⟩

theorem rejectedExactly_sample :
    RejectedExactly originChecks originWeb {}
      (originRequest "https://other.example" "panel.example:8443") {} := by
  refine (rejectedExactly_iff _ _ _ _ _ (originRequest_byBasic _ _)).mpr ?_
  intro stated states
  obtain rfl := Option.some.inj states
  refine ⟨"https://other.example", "other.example", by decide +kernel, by decide +kernel,
    by decide +kernel, ?_, by decide +kernel⟩
  rintro ⟨named, read, -, same⟩
  have other : hostname "https://other.example" = .ok (some "other.example") := by decide +kernel
  obtain rfl : named = "other.example" := by simpa [other] using read.symm
  exact absurd same (by decide +kernel)

end Korserver
