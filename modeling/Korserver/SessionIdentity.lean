import Korserver.SessionsCore
import Mathlib.Data.List.Nodup

/-!
Whom the address of a VPN session identifies. A user's rows all take the details of the first session
that occtl shows for the user.
-/

namespace Korserver

open IpAddress PythonText PythonValue SessionService

structure ActiveSession where
  username : String
  vpnIp : String
  realIp : String
  deriving DecidableEq

def SessionRecord.Shows (record : SessionRecord) (session : ActiveSession) : Prop :=
  record.username = session.username ∧ record.vpnIp = some session.vpnIp ∧
    record.realIp = some session.realIp

/-- An item gives, in whatever spelling, the user and the addresses of a session. -/
def SessionService.Describes (service : SessionService) (item : Json) (session : ActiveSession) : Prop :=
  ∃ entries, item = .dict entries ∧
    service.firstJsonValue (normalizedItem entries) usernameKeys = some session.username ∧
    service.firstJsonValue (normalizedItem entries) vpnIpKeys = some session.vpnIp ∧
    service.firstJsonValue (normalizedItem entries) realIpKeys = some session.realIp

def SessionService.Prints (service : SessionService) (args : List String) (sessions : List ActiveSession) :
    Prop :=
  (service.run (service.occtlJsonArgv args)).ok = true ∧
    ∃ payload, service.jsonLoads (service.run (service.occtlJsonArgv args)).stdout = some payload ∧
      List.Forall₂ service.Describes (payloadItems payload) sessions

/-- What occtl shows while the sessions are active: each of them, and each of a user's. A session record
that names a VPN address is of an active session. -/
structure OcctlShows (service : SessionService) (sessions : List ActiveSession) : Prop where
  users : service.Prints ["show", "users"] sessions
  user : ∀ session ∈ sessions,
    service.Prints ["show", "user", session.username]
      (sessions.filter (·.username == session.username))
  details : ∀ record ∈ service.listSessionsFromSessionIds, ∀ vpnIp, textOr record.vpnIp none = some vpnIp →
    ∃ session ∈ sessions, session.username = record.username ∧ session.vpnIp = vpnIp
  named : ∀ session ∈ sessions, session.username ≠ "" ∧ session.vpnIp ≠ "" ∧ session.realIp ≠ ""
  distinct : (sessions.map ActiveSession.vpnIp).Nodup

/-- Each session is reported with its user and its own address; without a session there is none to
report. -/
def ReportsOwn (records : List SessionRecord) (sessions : List ActiveSession) : Prop :=
  sessions ≠ [] →
    records.map (fun record => (record.username, record.vpnIp)) =
      sessions.map fun session => (session.username, some session.vpnIp)

def IdentifiesAll (service : SessionService) (sessions : List ActiveSession) : Prop :=
  ∀ session ∈ sessions, service.authenticateVpnClient (some session.vpnIp) = .ok session.username

def SessionService.InTunnel (service : SessionService) (vpnIp : String) : Prop :=
  ∃ address network, ipAddress vpnIp = some address ∧ ipNetwork service.ipv4Network = some network ∧
    network.contains address = true

section Reading

variable {service : SessionService}

@[simp] theorem textOr_some {text : String} (filled : text ≠ "") (fallback : Option String) :
    textOr (some text) fallback = some text := by
  simp [textOr, filled]

theorem sessionOfItem_shows {item : Json} {session : ActiveSession}
    (describes : service.Describes item session) (named : session.username ≠ "")
    (defaultUsername : Option String) :
    ∃ record, service.sessionOfItem defaultUsername item = some record ∧ record.Shows session := by
  obtain ⟨entries, rfl, username, vpnIp, realIp⟩ := describes
  simp only [sessionOfItem, sessionFromJsonItem, username, vpnIp, realIp, textOr_some named]
  exact ⟨_, rfl, rfl, rfl, rfl⟩

theorem parseItems_shows {items : List Json} {sessions : List ActiveSession}
    (describes : List.Forall₂ service.Describes items sessions)
    (named : ∀ session ∈ sessions, session.username ≠ "") (defaultUsername : Option String) :
    List.Forall₂ SessionRecord.Shows (items.filterMap (service.sessionOfItem defaultUsername)) sessions := by
  induction describes with
  | nil => exact .nil
  | @cons item session items sessions first rest ih =>
      obtain ⟨record, read, shows_⟩ :=
        sessionOfItem_shows first (named session List.mem_cons_self) defaultUsername
      rw [List.filterMap_cons_some read]
      exact .cons shows_ (ih fun other member => named other (List.mem_cons_of_mem _ member))

theorem parseJsonSessions_shows {args : List String} {sessions : List ActiveSession}
    (prints : service.Prints args sessions) (named : ∀ session ∈ sessions, session.username ≠ "")
    (defaultUsername : Option String) :
    List.Forall₂ SessionRecord.Shows
      (service.parseJsonSessions (service.run (service.occtlJsonArgv args)).stdout defaultUsername)
      sessions := by
  obtain ⟨_, payload, read, describes⟩ := prints
  rw [parseJsonSessions, read]
  exact parseItems_shows describes named defaultUsername

end Reading

section Snapshot

variable {service : SessionService} {sessions : List ActiveSession}

def firstOfUser (sessions : List ActiveSession) (session : ActiveSession) : ActiveSession :=
  (sessions.find? (·.username == session.username)).getD session

theorem firstOfUser_congr {left right : ActiveSession} (member : left ∈ sessions)
    (same : left.username = right.username) : firstOfUser sessions left = firstOfUser sessions right := by
  unfold firstOfUser
  rw [← same]
  cases found : sessions.find? (·.username == left.username) with
  | some first => rfl
  | none => simpa using List.find?_eq_none.mp found left member

theorem firstOfUser_own {session : ActiveSession} (distinct : (sessions.map ActiveSession.username).Nodup)
    (member : session ∈ sessions) : firstOfUser sessions session = session := by
  unfold firstOfUser
  cases found : sessions.find? (·.username == session.username) with
  | none => rfl
  | some first =>
      have same : first.username = session.username := by simpa using List.find?_some found
      exact List.inj_on_of_nodup_map distinct (List.mem_of_find?_eq_some found) member same

theorem firstOfUser_mem {session : ActiveSession} (member : session ∈ sessions) :
    firstOfUser sessions session ∈ sessions := by
  unfold firstOfUser
  cases found : sessions.find? (·.username == session.username) with
  | none => exact member
  | some first => exact List.mem_of_find?_eq_some found

theorem userDetail_shows (snapshot : OcctlShows service sessions) {session : ActiveSession}
    (member : session ∈ sessions) :
    ∃ detail, service.userDetail session.username = some detail ∧
      detail.Shows (firstOfUser sessions session) := by
  have prints := snapshot.user session member
  have named : ∀ other ∈ sessions.filter (·.username == session.username), other.username ≠ "" :=
    fun other found => (snapshot.named other (List.mem_of_mem_filter found)).1
  have shows_ := parseJsonSessions_shows prints named (some session.username)
  have first : (sessions.filter (·.username == session.username)).head? =
      some (firstOfUser sessions session) := by
    rw [List.head?_filter, firstOfUser]
    cases found : sessions.find? (·.username == session.username) with
    | some first => rfl
    | none => simpa using List.find?_eq_none.mp found session member
  simp only [userDetail, prints.1, if_true]
  generalize service.parseJsonSessions _ (some session.username) = records at shows_ ⊢
  generalize sessions.filter (·.username == session.username) = own at shows_ first
  cases shows_ with
  | nil => cases first
  | cons head tail =>
      cases first
      exact ⟨_, rfl, head⟩

theorem enrichSessions_shows (snapshot : OcctlShows service sessions) {records : List SessionRecord}
    {shown : List ActiveSession} (member : ∀ session ∈ shown, session ∈ sessions)
    (shows_ : List.Forall₂ SessionRecord.Shows records shown) :
    List.Forall₂ (fun record session => record.username = session.username ∧
        record.vpnIp = some (firstOfUser sessions session).vpnIp ∧
        record.realIp = some (firstOfUser sessions session).realIp)
      (service.enrichSessions records) shown := by
  induction shows_ with
  | nil => exact .nil
  | @cons record session records shown first rest ih =>
      have own := member session List.mem_cons_self
      obtain ⟨detail, found, _, vpnIp, realIp⟩ := userDetail_shows snapshot own
      obtain ⟨_, vpnNamed, realNamed⟩ := snapshot.named _ (firstOfUser_mem own)
      refine .cons ?_ (ih fun other later => member other (List.mem_cons_of_mem _ later))
      simp [first.1, found, mergeSessionDetail, vpnIp, realIp, vpnNamed, realNamed]

theorem bestDetail_congr {left right : SessionRecord} (username : left.username = right.username)
    (vpnIp : left.vpnIp = right.vpnIp) (realIp : left.realIp = right.realIp)
    (details : List SessionRecord) : bestDetail left details = bestDetail right details := by
  simp only [bestDetail, username, vpnIp, realIp]

theorem bestDetail_username (record : SessionRecord) (details : List SessionRecord) :
    (bestDetail record details).username = record.username := by
  have own : ∀ detail ∈ details.filter (·.username == record.username), detail.username = record.username :=
    fun detail found => by simpa using (List.mem_filter.mp found).2
  unfold bestDetail
  simp only
  cases matched : (details.filter (·.username == record.username)).find? fun detail =>
      sameText record.vpnIp detail.vpnIp || sameText record.realIp detail.realIp with
  | some detail => exact own detail (List.mem_of_find?_eq_some matched)
  | none =>
      cases first : (details.filter (·.username == record.username)).head? with
      | some detail => exact own detail (List.mem_of_head? first)
      | none => rfl

theorem bestDetail_mem (record : SessionRecord) (details : List SessionRecord) :
    bestDetail record details ∈ details ∨ (bestDetail record details).vpnIp = none := by
  unfold bestDetail
  simp only
  cases matched : (details.filter (·.username == record.username)).find? fun detail =>
      sameText record.vpnIp detail.vpnIp || sameText record.realIp detail.realIp with
  | some detail => exact .inl (List.mem_of_mem_filter (List.mem_of_find?_eq_some matched))
  | none =>
      cases first : (details.filter (·.username == record.username)).head? with
      | some detail => exact .inl (List.mem_of_mem_filter (List.mem_of_head? first))
      | none => exact .inr rfl

theorem fillMissingSessionDetails_cases (records : List SessionRecord) :
    service.fillMissingSessionDetails records = records ∨
      service.fillMissingSessionDetails records = records.map fun record =>
        mergeSessionDetail record (bestDetail record service.listSessionsFromSessionIds) := by
  unfold fillMissingSessionDetails
  split
  · simp only
    split
    · exact .inl rfl
    · exact .inr rfl
  · exact .inl rfl

def lookedUp (sessions : List ActiveSession) (session : ActiveSession) : SessionRecord where
  username := session.username
  vpnIp := some (firstOfUser sessions session).vpnIp
  realIp := some (firstOfUser sessions session).realIp

def filledVpnIp (service : SessionService) (sessions : List ActiveSession) (session : ActiveSession) :
    Option String :=
  textOr (bestDetail (lookedUp sessions session) service.listSessionsFromSessionIds).vpnIp
    (some (firstOfUser sessions session).vpnIp)

theorem filledVpnIp_congr {left right : ActiveSession} (member : left ∈ sessions)
    (same : left.username = right.username) :
    filledVpnIp service sessions left = filledVpnIp service sessions right := by
  simp only [filledVpnIp, lookedUp, firstOfUser_congr member same, same]

/-- A user's only session keeps its address: the session records know no other one of the user. -/
theorem filledVpnIp_own (snapshot : OcctlShows service sessions)
    (distinct : (sessions.map ActiveSession.username).Nodup) {session : ActiveSession}
    (member : session ∈ sessions) : filledVpnIp service sessions session = some session.vpnIp := by
  have username := bestDetail_username (lookedUp sessions session) service.listSessionsFromSessionIds
  have chosen := bestDetail_mem (lookedUp sessions session) service.listSessionsFromSessionIds
  rw [filledVpnIp, firstOfUser_own distinct member]
  generalize bestDetail (lookedUp sessions session) service.listSessionsFromSessionIds = detail
    at username chosen
  obtain ⟨recorded⟩ | silent := chosen
  · cases named : textOr detail.vpnIp none with
    | none =>
        unfold textOr at named ⊢
        grind
    | some vpnIp =>
        obtain ⟨other, active, sameUser, sameIp⟩ := snapshot.details detail recorded vpnIp named
        have same : other = session :=
          List.inj_on_of_nodup_map distinct active member (sameUser.trans username)
        unfold textOr at named ⊢
        grind
  · simp [silent, textOr]

/-- The addresses that the rows of the users' sessions end up with: two sessions of a user get the same. -/
structure SharedByUser (address : ActiveSession → Option String) (sessions : List ActiveSession) : Prop where
  shared : ∀ left ∈ sessions, ∀ right ∈ sessions, left.username = right.username → address left = address right
  own : (sessions.map ActiveSession.username).Nodup →
    ∀ session ∈ sessions, address session = some session.vpnIp

theorem firstOfUser_shared :
    SharedByUser (fun session => some (firstOfUser sessions session).vpnIp) sessions where
  shared := fun _ member _ _ same => by rw [firstOfUser_congr member same]
  own := fun distinct _ member => by rw [firstOfUser_own distinct member]

theorem filledVpnIp_shared (snapshot : OcctlShows service sessions) :
    SharedByUser (filledVpnIp service sessions) sessions where
  shared := fun _ member _ _ same => filledVpnIp_congr member same
  own := fun distinct _ member => filledVpnIp_own snapshot distinct member

theorem enrichSessions_listed (snapshot : OcctlShows service sessions) :
    List.Forall₂ (fun record session => record.username = session.username ∧
        record.vpnIp = some (firstOfUser sessions session).vpnIp ∧
        record.realIp = some (firstOfUser sessions session).realIp)
      (service.enrichSessions
        (service.parseJsonSessions (service.run (service.occtlJsonArgv ["show", "users"])).stdout none))
      sessions :=
  enrichSessions_shows snapshot (fun _ member => member)
    (parseJsonSessions_shows snapshot.users (fun session member => (snapshot.named session member).1) none)

theorem map_eq_of_forall₂ {α β γ : Type} {f : α → γ} {g : β → γ} {items : List α} {others : List β}
    (same : List.Forall₂ (fun item other => f item = g other) items others) :
    items.map f = others.map g := by
  rw [← List.forall₂_eq_eq_eq, List.forall₂_map_left_iff, List.forall₂_map_right_iff]
  exact same

theorem listSessions_rows (snapshot : OcctlShows service sessions) (active : sessions ≠ []) :
    ∃ address, SharedByUser address sessions ∧
      service.listSessions.map (fun record => (record.username, record.vpnIp)) =
        sessions.map fun session => (session.username, address session) := by
  have rows := enrichSessions_listed snapshot
  generalize enriched : service.enrichSessions
    (service.parseJsonSessions (service.run (service.occtlJsonArgv ["show", "users"])).stdout none) =
    records at rows
  have some_ : records ≠ [] := by
    rintro rfl
    exact active (List.forall₂_nil_left_iff.mp rows)
  have listed : service.listSessions = service.fillMissingSessionDetails records := by
    simp [listSessions, snapshot.users.1, enriched, some_]
  rw [listed]
  obtain unchanged | filled := fillMissingSessionDetails_cases records
  · refine ⟨_, firstOfUser_shared, ?_⟩
    rw [unchanged]
    exact map_eq_of_forall₂ (rows.imp fun _ _ row => by rw [row.1, row.2.1])
  · rw [filled]
    refine ⟨_, filledVpnIp_shared snapshot, ?_⟩
    rw [List.map_map]
    refine map_eq_of_forall₂ (rows.imp fun record session row => ?_)
    have best : bestDetail record service.listSessionsFromSessionIds =
        bestDetail (lookedUp sessions session) service.listSessionsFromSessionIds :=
      bestDetail_congr row.1 row.2.1 row.2.2 _
    simp only [Function.comp_apply, mergeSessionDetail, best, row.1, row.2.1, filledVpnIp]

end Snapshot

section Identification

variable {service : SessionService} {sessions : List ActiveSession}

theorem reportsOwn_iff (snapshot : OcctlShows service sessions) :
    ReportsOwn service.listSessions sessions ↔ (sessions.map ActiveSession.username).Nodup := by
  refine ⟨fun reports => ?_, fun distinct active => ?_⟩
  · refine (List.Nodup.of_map _ snapshot.distinct).map_on fun left leftIn right rightIn same => ?_
    have active : sessions ≠ [] := List.ne_nil_of_mem leftIn
    obtain ⟨address, byUser, rows⟩ := listSessions_rows snapshot active
    have own : ∀ session ∈ sessions, address session = some session.vpnIp := by
      intro session member
      have row := List.map_inj_left.mp (rows.symm.trans (reports active)) session member
      exact (Prod.mk.inj row).2
    apply List.inj_on_of_nodup_map snapshot.distinct leftIn rightIn
    have shared := byUser.shared left leftIn right rightIn same
    rw [own left leftIn, own right rightIn] at shared
    exact Option.some.inj shared
  · obtain ⟨address, byUser, rows⟩ := listSessions_rows snapshot active
    rw [rows]
    exact List.map_congr_left fun session member => by rw [byUser.own distinct session member]

theorem identifiesAll_of_reportsOwn (snapshot : OcctlShows service sessions)
    (reports : ReportsOwn service.listSessions sessions)
    (inside : ∀ session ∈ sessions, service.InTunnel session.vpnIp) : IdentifiesAll service sessions := by
  intro session member
  have rows := reports (List.ne_nil_of_mem member)
  obtain ⟨address, network, parsed, tunnel, contains⟩ := inside session member
  obtain ⟨named, addressed, _⟩ := snapshot.named session member
  simp only [authenticateVpnClient, textOr_some addressed, parsed, tunnel, contains]
  have reported : (session.username, some session.vpnIp) ∈
      service.listSessions.map fun record => (record.username, record.vpnIp) := by
    rw [rows]
    exact List.mem_map.mpr ⟨session, member, rfl⟩
  obtain ⟨own, listed, isOwn⟩ := List.mem_map.mp reported
  obtain ⟨username, vpnIp⟩ := Prod.mk.inj isOwn
  cases found : service.listSessions.find? fun record =>
      record.vpnIp == some session.vpnIp && record.username != "" with
  | none => simpa [username, vpnIp, named] using List.find?_eq_none.mp found own listed
  | some record =>
      have row : (record.username, record.vpnIp) ∈
          sessions.map fun session => (session.username, some session.vpnIp) := by
        rw [← rows]
        exact List.mem_map.mpr ⟨record, List.mem_of_find?_eq_some found, rfl⟩
      obtain ⟨other, otherIn, isOther⟩ := List.mem_map.mp row
      obtain ⟨sameUser, otherIp⟩ := Prod.mk.inj isOther
      have matched : record.vpnIp = some session.vpnIp := by
        have both := List.find?_some found
        simp only [Bool.and_eq_true, beq_iff_eq] at both
        exact both.1
      have same : other = session := by
        apply List.inj_on_of_nodup_map snapshot.distinct otherIn member
        exact Option.some.inj (otherIp.trans matched)
      simp [← sameUser, same]

theorem inTunnel_of_identified {vpnIp username : String} (addressed : vpnIp ≠ "")
    (identified : service.authenticateVpnClient (some vpnIp) = .ok username) :
    service.InTunnel vpnIp := by
  simp only [authenticateVpnClient, textOr_some addressed] at identified
  split at identified
  · cases identified
  · cases identified
  · split at identified
    · cases identified
    · exact ⟨_, _, by assumption, by assumption, by simp_all⟩

/-- Every session is reported with its own address and identifies its own user exactly when no user has
two sessions and every address is inside the tunnel's network. -/
theorem sessions_identified (service : SessionService) (sessions : List ActiveSession)
    (snapshot : OcctlShows service sessions) :
    ReportsOwn service.listSessions sessions ∧ IdentifiesAll service sessions ↔
      (sessions.map ActiveSession.username).Nodup ∧
        ∀ session ∈ sessions, service.InTunnel session.vpnIp := by
  refine ⟨fun ⟨reports, identifies⟩ => ⟨(reportsOwn_iff snapshot).mp reports, fun session member => ?_⟩,
    fun ⟨distinct, inside⟩ => ?_⟩
  · exact inTunnel_of_identified (snapshot.named session member).2.1 (identifies session member)
  · have reports := (reportsOwn_iff snapshot).mpr distinct
    exact ⟨reports, identifiesAll_of_reportsOwn snapshot reports inside⟩

end Identification

def occtlItem (session : ActiveSession) : Json :=
  .dict [("Username", .str session.username), ("Device", .str "vpns0"), ("Remote IP", .str session.realIp),
    ("IPv4", .str session.vpnIp), ("RX", .str "100"), ("TX", .str "200"),
    ("raw_connected_at", .int 1780000000)]

def occtlText (session : ActiveSession) : String :=
  "  \x7b\n    \"Username\":  \"" ++ session.username ++ "\",\n    \"Device\":  \"vpns0\",\n    \"Remote IP\":  \"" ++
    session.realIp ++ "\",\n    \"IPv4\":  \"" ++ session.vpnIp ++
    "\",\n    \"RX\":  \"100\",\n    \"TX\":  \"200\",\n    \"raw_connected_at\":  1780000000\n  \x7d"

def occtlOutput (sessions : List ActiveSession) : String :=
  "[\n" ++ join ",\n" (sessions.map occtlText) ++ "\n]\n"

def ownSessions (sessions : List ActiveSession) (username : String) : List ActiveSession :=
  sessions.filter (·.username == username)

/-- Every listing that is asked for: all sessions, and those of a user. -/
def listings (sessions : List ActiveSession) : List (List ActiveSession) :=
  sessions :: sessions.map fun session => ownSessions sessions session.username

/-- An occtl that shows the sessions, and no session records. Its output is read as what was printed. -/
def occtlOf (sessions : List ActiveSession) : SessionService where
  controlSocket := "/run/occtl.sock"
  ipv4Network := "10.10.10.0/24"
  run := fun argv =>
    match argv with
    | ["occtl", "--json", "-s", _, "show", "users"] => { ok := true, stdout := occtlOutput sessions }
    | ["occtl", "--json", "-s", _, "show", "user", username] =>
        { ok := true, stdout := occtlOutput (ownSessions sessions username) }
    | _ => { ok := false }
  jsonLoads := fun text =>
    ((listings sessions).find? fun shown => occtlOutput shown == text).map fun shown => .list (shown.map occtlItem)
  repr := fun _ => ""
  durationFromEpoch := fun _ => some 60
  parseDurationSeconds := fun _ => none
  parseSessions := fun _ => []
  parseDetailSessions := fun _ _ => []

def unambiguous (sessions : List ActiveSession) : Bool :=
  (listings sessions).all fun shown => (listings sessions).all fun other =>
    occtlOutput shown != occtlOutput other || shown == other

theorem occtlOf_reads {sessions shown : List ActiveSession} (clear : unambiguous sessions = true)
    (listed : shown ∈ listings sessions) :
    (occtlOf sessions).jsonLoads (occtlOutput shown) = some (.list (shown.map occtlItem)) := by
  obtain ⟨other, found⟩ : ∃ other, (listings sessions).find? (fun shown' => occtlOutput shown' == occtlOutput shown) =
      some other := by
    rw [← Option.isSome_iff_exists, List.find?_isSome]
    exact ⟨shown, listed, beq_self_eq_true _⟩
  have alike : occtlOutput other = occtlOutput shown := by
    have printed := List.find?_some found
    simpa using printed
  have same : other = shown := by
    have apart := List.all_eq_true.mp (List.all_eq_true.mp clear other (List.mem_of_find?_eq_some found)) shown listed
    simpa [alike] using apart
  simp only [occtlOf, found, same, Option.map_some]

theorem occtlItem_describes {sessions : List ActiveSession} {session : ActiveSession}
    (named : session.username ≠ "" ∧ session.vpnIp ≠ "" ∧ session.realIp ≠ "") :
    (occtlOf sessions).Describes (occtlItem session) session := by
  have keys : ["Username", "Device", "Remote IP", "IPv4", "RX", "TX", "raw_connected_at"].map normalizeHeader =
      ["username", "device", "remote_ip", "ipv4", "rx", "tx", "raw_connected_at"] := by decide +kernel
  simp only [List.map_cons, List.map_nil, List.cons.injEq, and_true] at keys
  obtain ⟨username, device, remoteIp, ipv4, rx, tx, connected⟩ := keys
  refine ⟨_, rfl, ?_⟩
  simp [normalizedItem, Json.isNone, username, device, remoteIp, ipv4, rx, tx, connected, dictOf, dictSet,
    firstJsonValue, usernameKeys, vpnIpKeys, realIpKeys, dictGet, named, Json.pyStr]

theorem forall₂_describes {sessions shown : List ActiveSession}
    (named : ∀ session ∈ shown, session.username ≠ "" ∧ session.vpnIp ≠ "" ∧ session.realIp ≠ "") :
    List.Forall₂ (occtlOf sessions).Describes (shown.map occtlItem) shown := by
  rw [List.forall₂_map_left_iff, List.forall₂_same]
  exact fun session member => occtlItem_describes (named session member)

theorem occtlOf_shows {sessions : List ActiveSession} (clear : unambiguous sessions = true)
    (named : ∀ session ∈ sessions, session.username ≠ "" ∧ session.vpnIp ≠ "" ∧ session.realIp ≠ "")
    (distinct : (sessions.map ActiveSession.vpnIp).Nodup) : OcctlShows (occtlOf sessions) sessions where
  users := ⟨rfl, _, occtlOf_reads clear List.mem_cons_self, forall₂_describes named⟩
  user := fun session member =>
    ⟨rfl, _, occtlOf_reads clear (List.mem_cons_of_mem _ (List.mem_map_of_mem member)),
      forall₂_describes fun other found => named other (List.mem_of_mem_filter found)⟩
  details := by
    intro record found
    exact absurd found List.not_mem_nil
  named := named
  distinct := distinct

theorem sessions_identified_pair :
    let sessions : List ActiveSession :=
      [⟨"alice", "10.10.10.2", "203.0.113.9"⟩, ⟨"bob", "10.10.10.3", "198.51.100.7"⟩]
    ReportsOwn (occtlOf sessions).listSessions sessions ∧ IdentifiesAll (occtlOf sessions) sessions :=
  (sessions_identified _ _ (occtlOf_shows (by decide +kernel) (by decide) (by decide))).mpr
    ⟨by decide, by
      simp only [List.forall_mem_cons]
      exact ⟨⟨_, _, rfl, rfl, by decide +kernel⟩, ⟨_, _, rfl, rfl, by decide +kernel⟩, by simp⟩⟩

/-- The second of a user's two sessions is reported with the address of the first, and is refused. -/
theorem secondSession_unidentified :
    let sessions : List ActiveSession :=
      [⟨"alice", "10.10.10.2", "203.0.113.9"⟩, ⟨"alice", "10.10.10.3", "203.0.113.9"⟩]
    OcctlShows (occtlOf sessions) sessions ∧
      ((occtlOf sessions).listSessions.map (·.vpnIp) = [some "10.10.10.2", some "10.10.10.2"] ∧
        ¬ReportsOwn (occtlOf sessions).listSessions sessions) ∧
      (occtlOf sessions).authenticateVpnClient (some "10.10.10.3") =
        .error (.http 403 "no active VPN session for this address") ∧
      ¬IdentifiesAll (occtlOf sessions) sessions := by
  intro sessions
  have refused : (occtlOf sessions).authenticateVpnClient (some "10.10.10.3") =
      .error (.http 403 "no active VPN session for this address") := by decide +kernel
  have shared : (occtlOf sessions).listSessions.map (fun record => (record.username, record.vpnIp)) =
      [("alice", some "10.10.10.2"), ("alice", some "10.10.10.2")] := by decide +kernel
  refine ⟨occtlOf_shows (by decide +kernel) (by decide) (by decide), ⟨by decide +kernel, fun reports => ?_⟩,
    refused, fun all => ?_⟩
  · exact absurd (shared.symm.trans (reports (by decide))) (by decide)
  · have identified := all ⟨"alice", "10.10.10.3", "203.0.113.9"⟩ (by simp [sessions])
    rw [refused] at identified
    cases identified

end Korserver
