import Korserver.UntrustedListsCore

/-!
Lists from outside keep the scripts in shape exactly when no entry brings a scope through
`ipaddress`, and no pushed domain a line break through the `$` of `DOMAIN_RE`.
-/

namespace Korserver

open PythonText IpAddress PacketFilter PythonValue

theorem mem_appendUnique {items : List String} {value : Option String} {item : String} :
    item ∈ appendUnique items value ↔ item ∈ items ∨ (item ≠ "" ∧ value = some item) := by
  cases value with
  | none => simp [appendUnique]
  | some text =>
      simp only [appendUnique, Option.some.injEq]
      split
      · rename_i skipped
        constructor
        · exact Or.inl
        · rintro (member | ⟨some, rfl⟩)
          · exact member
          · exact skipped.resolve_left some
      · rename_i added
        simp only [not_or] at added
        rw [List.mem_append, List.mem_singleton]
        refine or_congr_right ?_
        constructor
        · rintro rfl
          exact ⟨added.1, rfl⟩
        · rintro ⟨-, rfl⟩
          rfl

theorem mem_collect {normalize : String → Option String} {candidates : List String} {item : String} :
    item ∈ collect normalize candidates ↔
      item ≠ "" ∧ ∃ candidate ∈ candidates, normalize candidate = some item := by
  have folded : ∀ candidates items : List String, item ∈ candidates.foldl
      (fun items candidate => appendUnique items (normalize candidate)) items ↔
      item ∈ items ∨ (item ≠ "" ∧ ∃ candidate ∈ candidates, normalize candidate = some item) := by
    intro candidates
    induction candidates with
    | nil => simp
    | cons candidate rest ih =>
        intro items
        rw [List.foldl_cons, ih, mem_appendUnique]
        simp only [List.mem_cons, exists_eq_or_imp]
        grind
  rw [collect, folded]
  simp

example : collect normalizePushedRoute ["10.1.0.0/8", "x", "10.0.0.0/8"] = ["10.0.0.0/8"] := by decide +kernel

theorem plainRoute_of_server {entry : String} (plain : PlainServer entry) : PlainRoute entry :=
  ⟨plain.1, fun c member => isRouteChar_of_address (plain.2 c member)⟩

theorem network_plain {text : String} {network : Network} (read : ipNetwork text = some network)
    (plain : ¬ScopedRoute text) : PlainRoute network.text := by
  refine Network.text_chars ?_
  by_contra hasScope
  exact plain ((ipNetwork_scope read).mp hasScope)

theorem address_plain {text : String} {address : Address} (read : ipAddress text = some address)
    (plain : ¬ScopedServer text) : PlainServer address.text := by
  refine Address.text_chars ?_
  by_contra hasScope
  exact plain ⟨(ipAddress_scope read).mp hasScope, by simp [read]⟩

theorem ne_empty_of_percent {text : String} (percent : '%' ∈ text.toList) : text ≠ "" := by
  rintro rfl
  simp at percent

theorem scopedRoute_text {text : String} (hasScope : ScopedRoute text) :
    ∃ network, ipNetwork text = some network ∧ '%' ∈ network.text.toList := by
  obtain ⟨network, read⟩ := Option.isSome_iff_exists.mp (ipNetwork_of_strict hasScope.2)
  have kept := (ipNetwork_scope read).mpr hasScope
  exact ⟨network, read, Network.percent_mem_text (ipNetwork_family read kept) kept⟩

theorem scopedServer_text {text : String} (hasScope : ScopedServer text) :
    ∃ address, ipAddress text = some address ∧ '%' ∈ address.text.toList := by
  obtain ⟨address, read⟩ := Option.isSome_iff_exists.mp hasScope.2
  have kept := (ipAddress_scope read).mpr hasScope.1
  exact ⟨address, read, Address.percent_mem_text (ipAddress_family read kept) kept⟩

theorem pushedRoutes_plain {candidates : List String}
    (plain : ∀ route ∈ candidates, ¬ScopedRoute (strip route)) :
    ∀ route ∈ collect normalizePushedRoute candidates, PlainRoute route := by
  intro route member
  obtain ⟨-, candidate, given, read⟩ := mem_collect.mp member
  obtain ⟨network, accepted, rfl⟩ := Option.map_eq_some_iff.mp read
  exact network_plain accepted (plain candidate given)

theorem pushedRoutes_unscoped {candidates : List String}
    (chars : ∀ route ∈ collect normalizePushedRoute candidates, ∀ c ∈ route.toList,
      isRouteChar c = true) :
    ∀ route ∈ candidates, ¬ScopedRoute (strip route) := by
  intro candidate given hasScope
  obtain ⟨network, read, percent⟩ := scopedRoute_text hasScope
  have member : network.text ∈ collect normalizePushedRoute candidates :=
    mem_collect.mpr ⟨ne_empty_of_percent percent, candidate, given, by
      simp [normalizePushedRoute, read]⟩
  exact absurd (chars network.text member '%' percent) (by simp [percent_not_route])

theorem pushedServers_plain {candidates : List String}
    (plain : ∀ server ∈ candidates, ¬ScopedServer (strip server)) :
    ∀ server ∈ collect normalizePushedIp candidates, PlainServer server := by
  intro server member
  obtain ⟨-, candidate, given, read⟩ := mem_collect.mp member
  obtain ⟨address, accepted, rfl⟩ := Option.map_eq_some_iff.mp read
  exact address_plain accepted (plain candidate given)

theorem pushedServers_unscoped {candidates : List String}
    (chars : ∀ server ∈ collect normalizePushedIp candidates, ∀ c ∈ server.toList,
      isRouteChar c = true) :
    ∀ server ∈ candidates, ¬ScopedServer (strip server) := by
  intro candidate given hasScope
  obtain ⟨address, read, percent⟩ := scopedServer_text hasScope
  have member : address.text ∈ collect normalizePushedIp candidates :=
    mem_collect.mpr ⟨ne_empty_of_percent percent, candidate, given, by
      simp [normalizePushedIp, read]⟩
  exact absurd (chars address.text member '%' percent) (by simp [percent_not_route])

theorem matchesLabel_chars {label : List Char} (matched : matchesLabel label = true) :
    ∀ c ∈ label, isDomainChar c = true := by
  simp only [matchesLabel, Bool.and_eq_true] at matched
  intro c member
  have letter := List.all_eq_true.mp matched.2.2 c member
  simp only [Bool.or_eq_true] at letter
  simp only [isDomainChar, Bool.or_eq_true]
  exact Or.inl letter

theorem labels_chars {body : List Char} (labels : ∀ label ∈ splitChar '.' body, matchesLabel label = true) :
    ∀ c ∈ body, isDomainChar c = true := by
  intro c member
  rcases (@mem_splitChar '.' c body).mp member with ⟨rfl, -⟩ | ⟨label, cut, inLabel⟩
  · decide
  · exact matchesLabel_chars (labels label cut) c inLabel

theorem matchesDomain_chars {text : String} (matched : matchesDomain text = true) :
    ∀ c ∈ beforeDollar text.toList, isDomainChar c = true := by
  simp only [matchesDomain, Bool.and_eq_true, List.all_eq_true] at matched
  have chars := labels_chars matched.2
  split at chars
  · rename_i dot
    intro c member
    rw [← List.dropLast_append_getLast? '.' dot, List.mem_append] at member
    rcases member with front | last
    · exact chars c front
    · obtain rfl := List.mem_singleton.mp last
      decide
  · exact chars

theorem matchesDomain_plain {text : String} (matched : matchesDomain text = true) :
    (∀ c ∈ text.toList, isDomainChar c = true) ↔ text.toList.getLast? ≠ some '\n' := by
  constructor
  · intro chars newline
    exact absurd (chars '\n' (List.mem_of_getLast? newline)) (by decide)
  · intro closed
    have chars := matchesDomain_chars matched
    rwa [beforeDollar, if_neg closed] at chars

theorem pushedDomains_plain {candidates : List String}
    (plain : ∀ domain ∈ candidates, ¬BrokenDomain domain) :
    ∀ domain ∈ collect normalizePushedDomain candidates, PlainDomain domain := by
  intro domain member
  obtain ⟨some, candidate, given, read⟩ := mem_collect.mp member
  simp only [normalizePushedDomain] at read
  split at read
  · rename_i accepted
    obtain rfl := Option.some.inj read
    refine ⟨some, (matchesDomain_plain accepted.2).mpr ?_⟩
    exact fun newline => plain candidate given ⟨accepted.2, newline⟩
  · simp at read

theorem pushedDomains_whole {candidates : List String}
    (chars : ∀ domain ∈ collect normalizePushedDomain candidates, ∀ c ∈ domain.toList,
      isDomainChar c = true) :
    ∀ domain ∈ candidates, ¬BrokenDomain domain := by
  intro candidate given broken
  have some : stripEnd '.' (lower (strip candidate)) ≠ "" := by
    intro empty
    have last := broken.2
    rw [empty] at last
    simp at last
  have member : stripEnd '.' (lower (strip candidate)) ∈ collect normalizePushedDomain candidates :=
    mem_collect.mpr ⟨some, candidate, given, by simp [normalizePushedDomain, some, broken.1]⟩
  exact (matchesDomain_plain broken.1).mp (chars _ member) broken.2

theorem parseListLine_items {normalize : String → Option String} {line : String}
    {result next : ExternalListParseResult} (parsed : parseListLine normalize result line = .ok next)
    {item : String} :
    item ∈ next.items ↔ item ∈ result.items ∨
      (isCommentLine (strip line) = false ∧ lineCandidate (strip line) ≠ "" ∧
        normalize (lineCandidate (strip line)) = some item) := by
  simp only [parseListLine] at parsed
  split at parsed
  · rename_i comment
    obtain rfl := Except.ok.inj parsed
    simp [comment]
  · rename_i entry
    split at parsed
    · rename_i empty
      obtain rfl := Except.ok.inj parsed
      simp [empty]
    · rename_i candidate
      split at parsed
      · rename_i refused
        obtain rfl := Except.ok.inj parsed
        simp [refused]
      · rename_i normalized accepted
        have comment : isCommentLine (strip line) = false := by simpa using entry
        simp only [accepted, Option.some.injEq, comment, ne_eq, candidate, not_false_eq_true, true_and]
        by_cases known : normalized ∈ result.items
        · simp only [known, if_true] at parsed
          split at parsed
          · simp at parsed
          · obtain rfl := Except.ok.inj parsed
            refine (or_iff_left_of_imp ?_).symm
            rintro rfl
            exact known
        · simp only [known, if_false] at parsed
          split at parsed
          · simp at parsed
          · obtain rfl := Except.ok.inj parsed
            rw [List.mem_append, List.mem_singleton, @eq_comm _ item]

theorem mem_listCandidates {text candidate : String} :
    candidate ∈ listCandidates text ↔ ∃ line ∈ splitLines text,
      isCommentLine (strip line) = false ∧ lineCandidate (strip line) ≠ "" ∧
        lineCandidate (strip line) = candidate := by
  simp only [listCandidates, List.mem_filter, List.mem_map, decide_eq_true_eq, Bool.not_eq_true']
  constructor
  · rintro ⟨⟨_, ⟨⟨line, inText, rfl⟩, entry⟩, same⟩, some⟩
    exact ⟨line, inText, entry, same ▸ some, same⟩
  · rintro ⟨line, inText, entry, some, same⟩
    exact ⟨⟨strip line, ⟨⟨line, inText, rfl⟩, entry⟩, same⟩, same ▸ some⟩

/-- The items are what `normalize` makes of the candidates. -/
theorem parseListText_items {normalize : String → Option String} {text : String}
    {result : ExternalListParseResult} (parsed : parseListText text normalize = .ok result)
    {item : String} :
    item ∈ result.items ↔ ∃ candidate ∈ listCandidates text, normalize candidate = some item := by
  have lines : ∀ (lines : List String) (start : ExternalListParseResult),
      parseListLines normalize lines start = .ok result →
      (item ∈ result.items ↔ item ∈ start.items ∨ ∃ line ∈ lines,
        isCommentLine (strip line) = false ∧ lineCandidate (strip line) ≠ "" ∧
          normalize (lineCandidate (strip line)) = some item) := by
    intro lines
    induction lines with
    | nil =>
        intro start parsed
        obtain rfl := Except.ok.inj parsed
        simp
    | cons line rest ih =>
        intro start parsed
        obtain ⟨next, first, others⟩ := bind_ok.mp parsed
        rw [ih next others, parseListLine_items first]
        simp only [List.mem_cons, exists_eq_or_imp, or_assoc]
  rw [lines _ _ parsed]
  constructor
  · rintro (none | ⟨line, inText, entry, some, read⟩)
    · simp at none
    · exact ⟨_, mem_listCandidates.mpr ⟨line, inText, entry, some, rfl⟩, read⟩
  · rintro ⟨candidate, member, read⟩
    obtain ⟨line, inText, entry, some, same⟩ := mem_listCandidates.mp member
    exact Or.inr ⟨line, inText, entry, some, by rw [same, read]⟩

theorem lineCandidate_visible {line : String} {c : Char} (member : c ∈ (lineCandidate line).toList) :
    isSpace c = false := by
  simp only [lineCandidate] at member
  split at member
  · rename_i word words cut
    rw [String.toList_ofList] at member
    exact splitSpace_visible (by rw [cut]; exact List.mem_cons_self ..) c member
  · simp at member

theorem routeList_plain {text : String} {result : ExternalListParseResult}
    (parsed : parseListText text normalizeRoute = .ok result)
    (harmless : (UntrustedInput.routeList text).Harmless) :
    ∀ route ∈ result.items, PlainRoute route := by
  intro route member
  obtain ⟨candidate, given, read⟩ := (parseListText_items parsed).mp member
  have plain := harmless candidate given
  unfold normalizeRoute at read
  split at read
  · rename_i slash
    rw [if_pos slash] at plain
    obtain ⟨network, accepted, rfl⟩ := Option.map_eq_some_iff.mp read
    exact network_plain accepted plain
  · rename_i noSlash
    rw [if_neg noSlash] at plain
    obtain ⟨address, accepted, rfl⟩ := Option.map_eq_some_iff.mp read
    exact plainRoute_of_server (address_plain accepted plain)

theorem routeList_unscoped {text : String} {result : ExternalListParseResult}
    (parsed : parseListText text normalizeRoute = .ok result)
    (chars : ∀ route ∈ result.items, ∀ c ∈ route.toList, isRouteChar c = true) :
    (UntrustedInput.routeList text).Harmless := by
  have foreign {candidate route : String} (given : candidate ∈ listCandidates text)
      (read : normalizeRoute candidate = some route) (percent : '%' ∈ route.toList) : False := by
    have member := (parseListText_items parsed).mpr ⟨candidate, given, read⟩
    exact absurd (chars route member '%' percent) (by simp [percent_not_route])
  intro candidate given
  split
  · rename_i slash
    intro hasScope
    obtain ⟨network, read, percent⟩ := scopedRoute_text hasScope
    exact foreign given (by simp [normalizeRoute, slash, read]) percent
  · rename_i noSlash
    intro hasScope
    obtain ⟨address, read, percent⟩ := scopedServer_text hasScope
    exact foreign given (by simp [normalizeRoute, noSlash, read]) percent

theorem listCandidate_visible {text candidate : String} (given : candidate ∈ listCandidates text)
    {c : Char} (member : c ∈ candidate.toList) : isSpace c = false := by
  obtain ⟨line, -, -, -, same⟩ := mem_listCandidates.mp given
  rw [← same] at member
  exact lineCandidate_visible member

theorem normalizeDomain_plain {value domain : String} (read : normalizeDomain value = some domain)
    (whole : '\n' ∉ value.toList) : PlainDomain domain := by
  simp only [normalizeDomain] at read
  split at read
  · rename_i accepted
    obtain same := Option.some.inj read
    rw [same] at accepted
    have closed : domain.toList.getLast? ≠ some '\n' := by
      intro last
      have inDomain := List.mem_of_getLast? last
      rw [← same] at inDomain
      exact whole (mem_strip (newline_mem_lower (mem_stripEnd inDomain)))
    rw [beforeDollar, if_neg closed] at accepted
    refine ⟨by simpa using accepted.1, fun c inDomain => ?_⟩
    have letter := List.all_eq_true.mp accepted.2 c inDomain
    simp only [Bool.or_eq_true] at letter
    simp only [isDomainChar, Bool.or_eq_true]
    rcases letter with (alnum | dot) | dash
    · exact Or.inl (Or.inl alnum)
    · exact Or.inr dot
    · exact Or.inl (Or.inr dash)
  · simp at read

/-- A candidate is a word, so that the `$` meets no line break. -/
theorem domainList_plain {text : String} {result : ExternalListParseResult}
    (parsed : parseListText text normalizeDomain = .ok result) :
    ∀ domain ∈ result.items, PlainDomain domain := by
  intro domain member
  obtain ⟨candidate, given, read⟩ := (parseListText_items parsed).mp member
  refine normalizeDomain_plain read fun newline => ?_
  exact absurd (listCandidate_visible given newline) (by decide)

structure PlainLists (lists : PastedLists) : Prop where
  routes : ∀ route ∈ lists.routes, PlainRoute route
  servers : ∀ server ∈ lists.servers, PlainServer server
  domains : ∀ domain ∈ lists.domains, PlainDomain domain

theorem PlainLists.directive {lists : PastedLists} (plain : PlainLists lists) {directive : Directive}
    (pasted : directive.PastedFrom lists) : directive.Plain := by
  cases directive with
  | serverFor domain dns =>
      exact ⟨pasted.1.elim (plain.domains domain) id, pasted.2.elim (plain.servers dns) id⟩
  | nftset domain table setV4 setV6 => exact pasted.elim (plain.domains domain) id
  | option name => trivial
  | setting name value => trivial
  | server dns => trivial
  | address host ip => trivial

theorem PlainLists.shape {lists : PastedLists} (plain : PlainLists lists) : KeepsShape lists where
  sets := by
    intro sets pasted
    refine nftTokens_setsText fun set member entry inSet => ?_
    exact (pasted set member entry inSet).elim (plain.routes entry) id
  refresh := by
    intro refresh pasted
    refine nftTokens_refresh fun name entries member entry inSet => ?_
    exact (pasted name entries member entry inSet).elim (plain.routes entry) id
  directives := by
    intro directives pasted
    exact dnsmasqTokens_text fun directive member => plain.directive (pasted directive member)

theorem PlainLists.safe {lists : PastedLists} (plain : PlainLists lists) : SafeLists lists where
  elements := by
    intro entry member
    rcases List.mem_append.mp member with route | server
    · exact (plain.routes entry route).2
    · exact (plainRoute_of_server (plain.servers entry server)).2
  domains := fun domain member => (plain.domains domain member).2
  shape := plain.shape

/-! The handshake. -/

theorem texts_items (items : List String) : (texts items).items = .ok (items.map .str) := rfl

theorem dnsHostRoutes_texts {pushed : PushedRouting} {servers : List String}
    (given : pushed.dns = texts servers) :
    pushed.dnsHostRoutes = .ok ((servers.filterMap ipNetworkStrict).map Network.text) := by
  have read : (servers.map Json.str).filterMap Json.ipNetwork = servers.filterMap ipNetworkStrict := by
    rw [List.filterMap_map]
    rfl
  rw [PushedRouting.dnsHostRoutes, given, texts_items]
  simp only [bind, Except.bind, read]
  rfl

theorem handshake_pasted (repr : Json → String) (environ : Environ) (now : Int) :
    (UntrustedInput.handshake environ now).pasted repr = .ok {
      routes := collect normalizePushedRoute (splitRoutes environ) ++
        ((collect normalizePushedIp (pushedServers environ)).filterMap ipNetworkStrict).map Network.text
      servers := collect normalizePushedIp (pushedServers environ)
      domains := collect normalizePushedDomain (splitDomains environ) } := by
  have dnsRoutes : (parseVpncEnvironment environ now).dnsHostRoutes = _ :=
    dnsHostRoutes_texts (rfl : _ = texts (collect normalizePushedIp (pushedServers environ)))
  simp only [UntrustedInput.pasted, PushedRouting.pasted, dnsRoutes]
  simp only [parseVpncEnvironment, texts_items, textsOf_map_str, bind, Except.bind]
  rfl

theorem serverRoutes_plain {servers : List String} (plain : ∀ server ∈ servers, PlainServer server) :
    ∀ route ∈ (servers.filterMap ipNetworkStrict).map Network.text, PlainRoute route := by
  intro route member
  obtain ⟨network, given, rfl⟩ := List.mem_map.mp member
  obtain ⟨server, inServers, read⟩ := List.mem_filterMap.mp given
  refine Network.text_chars (ipNetworkStrict_plain read fun percent => ?_)
  exact absurd ((plain server inServers).2 '%' percent) (by decide)

theorem handshake_safe_iff {environ : Environ} {now : Int} {lists : PastedLists}
    {repr : Json → String}
    (parsed : (UntrustedInput.handshake environ now).pasted repr = .ok lists) :
    SafeLists lists ↔ (UntrustedInput.handshake environ now).Harmless := by
  rw [handshake_pasted] at parsed
  obtain rfl := Except.ok.inj parsed
  constructor
  · intro safe
    refine ⟨pushedRoutes_unscoped ?_, pushedServers_unscoped ?_, pushedDomains_whole safe.domains⟩
    · exact fun route member => safe.elements route (by simp [member])
    · exact fun server member => safe.elements server (by simp [member])
  · rintro ⟨routes, servers, domains⟩
    have plainServers := pushedServers_plain servers
    refine PlainLists.safe {
      routes := ?_, servers := plainServers, domains := pushedDomains_plain domains }
    intro route member
    rcases List.mem_append.mp member with pushed | server
    · exact pushedRoutes_plain routes route pushed
    · exact serverRoutes_plain plainServers route server

theorem syncPayload_safe_iff {repr : Json → String} {payload : Json} {lists : PastedLists}
    (parsed : (UntrustedInput.syncPayload payload).pasted repr = .ok lists) :
    SafeLists lists ↔ (UntrustedInput.syncPayload payload).Harmless := by
  obtain ⟨synced, read, made⟩ := bind_ok.mp parsed
  obtain rfl := pure_ok.mp made
  cases payload with
  | dict entries =>
      obtain rfl := Except.ok.inj read
      constructor
      · intro safe
        refine ⟨pushedRoutes_unscoped ?_, pushedDomains_whole safe.domains⟩
        exact fun route member => safe.elements route (by simp [member])
      · rintro ⟨routes, domains⟩
        exact PlainLists.safe {
          routes := pushedRoutes_plain routes
          servers := by simp
          domains := pushedDomains_plain domains }
  | null => simp [parseSyncPayload] at read
  | bool value => simp [parseSyncPayload] at read
  | int value => simp [parseSyncPayload] at read
  | float text => simp [parseSyncPayload] at read
  | str text => simp [parseSyncPayload] at read
  | list items => simp [parseSyncPayload] at read

theorem routeList_safe_iff {repr : Json → String} {text : String} {lists : PastedLists}
    (parsed : (UntrustedInput.routeList text).pasted repr = .ok lists) :
    SafeLists lists ↔ (UntrustedInput.routeList text).Harmless := by
  obtain ⟨result, read, made⟩ := bind_ok.mp parsed
  obtain rfl := pure_ok.mp made
  constructor
  · intro safe
    exact routeList_unscoped read fun route member => safe.elements route (by simp [member])
  · intro harmless
    exact PlainLists.safe {
      routes := routeList_plain read harmless
      servers := by simp
      domains := by simp }

theorem domainList_safe {repr : Json → String} {text : String} {lists : PastedLists}
    (parsed : (UntrustedInput.domainList text).pasted repr = .ok lists) : SafeLists lists := by
  obtain ⟨result, read, made⟩ := bind_ok.mp parsed
  obtain rfl := pure_ok.mp made
  exact PlainLists.safe {
    routes := by simp
    servers := by simp
    domains := domainList_plain read }

/-- Lists that were parsed leave the scripts in shape exactly when no accepted address or
network keeps a scope and no accepted domain a line break. -/
theorem safeLists_iff (repr : Json → String) (input : UntrustedInput) {lists : PastedLists}
    (parsed : input.pasted repr = .ok lists) : SafeLists lists ↔ input.Harmless := by
  cases input with
  | handshake environ now => exact handshake_safe_iff parsed
  | syncPayload payload => exact syncPayload_safe_iff parsed
  | routeList text => exact routeList_safe_iff parsed
  | domainList text => exact ⟨fun _ => trivial, fun _ => domainList_safe parsed⟩

def pushedEnviron : Environ := fun key => dictGet key [
  ("CISCO_SPLIT_INC", "1"), ("CISCO_SPLIT_INC_0_ADDR", "10.1.0.7"),
  ("CISCO_SPLIT_INC_0_MASKLEN", "16"), ("CISCO_SPLIT_DNS", "Corp.Example.,"),
  ("INTERNAL_IP4_DNS", "10.1.0.53")]

theorem safeLists_iff_sample :
    SafeLists {
      routes := ["10.1.0.0/16", "10.1.0.53/32"]
      servers := ["10.1.0.53"]
      domains := ["corp.example"] } :=
  (safeLists_iff (fun _ => "") (.handshake pushedEnviron 0) (by rfl)).mpr (by
    refine ⟨?_, ?_, ?_⟩
    all_goals decide)

def escapingEnviron : Environ := fun key => dictGet key [
  ("CISCO_IPV6_SPLIT_INC", "1"), ("CISCO_IPV6_SPLIT_INC_0_ADDR", "fe80::1%x \x7d\nflush ruleset\n#"),
  ("CISCO_IPV6_SPLIT_INC_0_MASKLEN", "128")]

def escapedRoute : String := "fe80::1%x \x7d\nflush ruleset\n#/128"

/-- The scope is kept, and what follows it in the script are lines that no template has. -/
theorem scope_escapes :
    (UntrustedInput.handshake escapingEnviron 0).pasted (fun _ => "") =
        .ok { routes := [escapedRoute], servers := [], domains := [] } ∧
      ¬SafeLists { routes := [escapedRoute], servers := [], domains := [] } ∧
      splitByFamily [escapedRoute] = ([], [escapedRoute]) ∧
      (SetCommand.add "host_v6_a_static" [escapedRoute]).text "korserver" =
        "add element inet korserver host_v6_a_static \x7b fe80::1%x \x7d\nflush ruleset\n#/128 \x7d" := by
  refine ⟨by rfl, ?_, by decide, by decide⟩
  intro safe
  have percent := safe.elements escapedRoute (by simp) '%' (by decide)
  exact absurd percent (by decide)

end Korserver
