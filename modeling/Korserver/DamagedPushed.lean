import Korserver.DamagedPushedCore
import Korserver.Effects
import Korserver.FwmarkArithmetic
import Korserver.PushedLists
import Korserver.PushedStore
import Korserver.UntrustedLists

/-!
The loader of pushed lists keeps whatever an object holds under the names of the fields. The readers get
by exactly when these values have the types that the fields are declared with, the time of the last sync has
a nearest float, and no lone surrogate gets into a file that is written for nft or dnsmasq.
-/

namespace Korserver

open PythonText PythonValue IpAddress Doubles
open Effects (FailsOnly failsOnly_ok failsOnly_error)

/-- What is raised because of a value that the code does not count on. -/
def PyError.isDamage : PyError → Bool
  | .typeError => true
  | .attributeError => true
  | .keyError => true
  | .overflowError => true
  | .recursionError => true
  | .unicodeEncodeError => true
  | _ => false

abbrev Undamaged {α : Type} (result : Except PyError α) : Prop :=
  FailsOnly (fun error => PyError.isDamage error = false) result

theorem undamaged_readLines (files : Files) (path : String) : Undamaged (files.readLines path) := by
  rw [Files.readLines]
  cases files.text path with
  | missing => exact failsOnly_ok _
  | unreadable => exact failsOnly_error rfl
  | text content => exact failsOnly_ok _

theorem undamaged_parseListLine (normalize : String → Option String) (result : ExternalListParseResult)
    (line : String) : Undamaged (parseListLine normalize result line) := by
  rw [parseListLine]
  refine FailsOnly.ite (failsOnly_ok _) (FailsOnly.ite (failsOnly_ok _) ?_)
  dsimp only
  cases normalize (lineCandidate (strip line)) with
  | none => exact failsOnly_ok _
  | some normalized => exact FailsOnly.ite (failsOnly_error rfl) (failsOnly_ok _)

theorem undamaged_parseListLines (normalize : String → Option String) (lines : List String)
    (result : ExternalListParseResult) : Undamaged (parseListLines normalize lines result) := by
  induction lines generalizing result with
  | nil => exact failsOnly_ok _
  | cons line rest ih => exact (undamaged_parseListLine normalize result line).bind fun next _ => ih next

theorem undamaged_listItemsOfAll (files : Files) (normalize : String → Option String) (paths : List String) :
    Undamaged (files.listItemsOfAll normalize paths) := by
  induction paths with
  | nil => exact failsOnly_ok _
  | cons path rest ih =>
      have items : Undamaged (files.listItems path normalize) :=
        (undamaged_readLines files path).bind fun lines _ =>
          (undamaged_parseListLines normalize (splitLines (join "\n" lines)) {}).map _
      exact items.bind fun _ _ => ih.map _

theorem undamaged_listRoutesOf (files : Files) (split : HostSplitConfig) (cacheDir : String) :
    Undamaged (listRoutesOf files split cacheDir) :=
  (undamaged_readLines files split.routesFile).bind fun _ _ =>
    (undamaged_listItemsOfAll files normalizeRoute split.routesFiles).bind fun _ _ =>
      (undamaged_listItemsOfAll files normalizeRoute (split.routesUrls.map (files.cachePath cacheDir))).map _

theorem undamaged_listDomainsOf (files : Files) (split : HostSplitConfig) (cacheDir : String) :
    Undamaged (listDomainsOf files split cacheDir) :=
  (undamaged_readLines files split.domainsFile).bind fun _ _ =>
    (undamaged_listItemsOfAll files normalizeDomain split.domainsFiles).bind fun _ _ =>
      (undamaged_listItemsOfAll files normalizeDomain (split.domainsUrls.map (files.cachePath cacheDir))).map _

theorem undamaged_hostSplitRoutes (files : Files) (config : AppConfig) : Undamaged (hostSplitRoutesOf files config) :=
  FailsOnly.ite (undamaged_listRoutesOf files _ _) (failsOnly_ok _)

/-- `isinstance(value, int)`. -/
def isInteger : Json → Bool
  | .int _ => true
  | .bool _ => true
  | _ => false

structure PushedRouting.WellTyped (pushed : PushedRouting) : Prop where
  lists : pushed.WellFormed
  updatedAt : isInteger pushed.updatedAt
  syncedAt : isInteger pushed.syncedAt

theorem wellTyped_empty : PushedRouting.WellTyped {} := ⟨⟨[], [], [], rfl, rfl, rfl⟩, rfl, rfl⟩

section Rules

variable {files : Files} {config : AppConfig}
  (typed : ∀ profile ∈ config.upstream.profiles, (files.effectivePushed config profile).WellFormed)

include typed

theorem undamaged_profileTargets (base : Int) (profiles : List UpstreamProfileConfig)
    (inside : profiles ⊆ config.upstream.profiles) : Undamaged (profileTargets files config base profiles) := by
  induction profiles with
  | nil => exact failsOnly_ok _
  | cons profile rest ih =>
      have target : Undamaged (profileTarget files config base profile) := by
        obtain ⟨lists, found⟩ := (typed profile (inside (List.mem_cons_self ..))).hostLists profile
        rw [profileTarget, found]
        refine FailsOnly.ite (failsOnly_ok _) (FailsOnly.map ?_ _)
        exact FailsOnly.ite (failsOnly_error rfl) (failsOnly_ok _)
      exact target.bind fun _ _ => (ih fun _ member => inside (List.mem_cons_of_mem _ member)).map _

theorem undamaged_listTargets (defaultInterface : String) :
    Undamaged (listTargets files config defaultInterface) := by
  have domains : Undamaged (defaultDomains files config) :=
    FailsOnly.ite (undamaged_listDomainsOf files _ _) (failsOnly_ok _)
  have named : Undamaged (namedTargets files config) := by
    refine FailsOnly.ite (FailsOnly.bind ?_ fun base _ =>
      undamaged_profileTargets typed base config.upstream.profiles (List.Subset.refl _)) (failsOnly_ok _)
    rw [intOrValueError]
    cases intLiteral config.routing.fwmark with
    | some value => exact failsOnly_ok _
    | none => exact failsOnly_error rfl
  exact (undamaged_listRoutesOf files _ _).bind fun _ _ => domains.bind fun _ _ => named.map _

theorem target_items {defaultInterface : String} {targets : List RoutingTarget}
    (found : listTargets files config defaultInterface = .ok targets) {target : RoutingTarget}
    (member : target ∈ targets) : (∃ domains, target.serverDomains.items = .ok domains) ∧
      ∃ servers, target.serverDns.items = .ok servers := by
  obtain ⟨routes, domains, named, -, namedFound, rfl⟩ := listTargets_ok found
  rcases List.mem_cons.mp member with rfl | later
  · exact ⟨⟨[], rfl⟩, ⟨[], rfl⟩⟩
  · obtain ⟨kept, pairs⟩ := namedTargets_kept namedFound
    obtain ⟨profile, inProfiles, -, lists, fwmark, -, -, -, -, rfl⟩ := pairs.profileOf later
    obtain ⟨-, domains, servers, -, domainsEq, serversEq⟩ := typed profile inProfiles
    rw [namedTarget]
    dsimp only
    split
    · rw [domainsEq, serversEq]
      exact ⟨⟨_, rfl⟩, ⟨_, rfl⟩⟩
    · exact ⟨⟨[], rfl⟩, ⟨[], rfl⟩⟩

theorem undamaged_resolveTargets (outbound : Option String) : Undamaged (resolveTargets files config outbound) :=
  (undamaged_listTargets typed _).map _

theorem undamaged_render (outbound : Option String) : Undamaged (render files config outbound) :=
  (undamaged_resolveTargets typed outbound).bind fun _ _ => (undamaged_hostSplitRoutes files config).bind fun _ _ =>
    (FailsOnly.ite (undamaged_listDomainsOf files _ _) (failsOnly_ok _)).map _

theorem undamaged_renderStaticRefresh (outbound : Option String) :
    Undamaged (renderStaticRefresh files config outbound) :=
  (undamaged_resolveTargets typed outbound).bind fun _ _ => (undamaged_hostSplitRoutes files config).map _

theorem undamaged_staticSetsReady (answers : Answers) (outbound : Option String) (host : HostState) :
    Undamaged (staticSetsReady answers files config outbound host) := by
  refine FailsOnly.bind ((undamaged_resolveTargets typed outbound).map _) fun expected _ => ?_
  cases host.inet (filterTable config) <;> exact failsOnly_ok _

theorem undamaged_nftablesApply (answers : Answers) (outbound : Option String) (host : HostState) :
    Undamaged (nftablesApply answers files config outbound host) := by
  have recreated : Undamaged (recreate answers files config outbound host) := by
    refine FailsOnly.bind ((undamaged_render typed outbound).map _) fun loaded _ => ?_
    cases loaded <;> exact failsOnly_ok _
  have ruleset : Undamaged (applyRuleset answers files config outbound host) := by
    refine (undamaged_staticSetsReady typed answers outbound host).bind fun ready _ => FailsOnly.ite ?_ recreated
    refine ((undamaged_renderStaticRefresh typed outbound).map _).bind fun result _ => ?_
    cases result with
    | none => exact recreated
    | some _ => exact failsOnly_ok _
  refine (undamaged_resolveTargets typed outbound).bind fun _ _ => ruleset.bind fun outcome _ => ?_
  obtain ⟨result, loaded⟩ := outcome
  cases result <;> exact failsOnly_ok _

theorem undamaged_renderDnsmasq (repr : Json → String) : Undamaged (renderDnsmasq repr files config) := by
  have record : ∀ record, Undamaged (localRecord record) := by
    intro record
    rw [localRecord]
    split <;> first | exact failsOnly_ok _ | exact failsOnly_error rfl
  have records : ∀ records, Undamaged (localRecordsFrom records) := by
    intro records
    induction records with
    | nil => exact failsOnly_ok _
    | cons first rest ih => exact (record first).bind fun _ _ => ih.map _
  have hosts : ∀ targets : List RoutingTarget, (∀ target ∈ targets,
      (∃ domains, target.serverDomains.items = .ok domains) ∧ ∃ servers, target.serverDns.items = .ok servers) →
        Undamaged (hostDirectivesOf repr config targets) := by
    intro targets
    induction targets with
    | nil => exact fun _ => failsOnly_ok _
    | cons target rest ih =>
        intro items
        obtain ⟨⟨domains, domainItems⟩, servers, serverItems⟩ := items target (List.mem_cons_self ..)
        have forDomain : ∀ domain, Undamaged (serversFor config target domain) := fun domain =>
          FailsOnly.ite (failsOnly_ok _) (serverItems ▸ failsOnly_ok _)
        have directives : ∀ domains, Undamaged (serverDirectives repr config target domains) := by
          intro domains
          induction domains with
          | nil => exact failsOnly_ok _
          | cons domain others later => exact (forDomain _).bind fun _ _ => later.map _
        have first : Undamaged (hostDirectives repr config target) := by
          refine FailsOnly.ite ?_ (failsOnly_ok _)
          rw [domainItems]
          exact (failsOnly_ok domains).bind fun _ _ => (directives _).map _
        exact first.bind fun _ _ => (ih fun other member => items other (List.mem_cons_of_mem _ member)).map _
  refine FailsOnly.bind (FailsOnly.ite (records _) (failsOnly_ok _)) fun _ _ => ?_
  refine FailsOnly.bind (undamaged_listTargets typed _) fun targets found => ?_
  refine FailsOnly.bind (FailsOnly.ite (undamaged_listDomainsOf files _ _) (failsOnly_ok _)) fun _ _ => ?_
  refine FailsOnly.bind (FailsOnly.ite (undamaged_listDomainsOf files _ _) (failsOnly_ok _)) fun _ _ => ?_
  exact (hosts targets fun target member => target_items typed found member).map _

end Rules

section Written

variable {lone : LoneSurrogates} {text : String}

theorem encodes_iff : lone.encodes text = true ↔ ∀ c ∈ text.toList, lone.stands c = false := by
  simp [LoneSurrogates.encodes]

theorem encodes_of_low (low : ∀ c ∈ text.toList, c.toNat < 0xe000) : lone.encodes text = true := by
  refine encodes_iff.mpr fun c member => Bool.eq_false_iff.mpr fun stands => ?_
  exact absurd (lone.privateUse c stands) (Nat.not_le.mpr (low c member))

theorem encodes_strip (lone : LoneSurrogates) (text : String) : lone.encodes (strip text) = lone.encodes text := by
  rw [Bool.eq_iff_iff, encodes_iff, encodes_iff]
  constructor
  · intro plain c member
    refine Bool.eq_false_iff.mpr fun stands => ?_
    have visible : isSpace c = false := by
      have high := lone.privateUse c stands
      simp only [isSpace, Bool.or_eq_false_iff, Bool.and_eq_false_iff, decide_eq_false_iff_not, beq_eq_false_iff_ne]
      omega
    have kept : c ∈ (strip text).toList := by
      rw [strip, String.toList_ofList]
      exact stripChars_keeps visible member
    exact absurd ((plain c kept).symm.trans stands) Bool.false_ne_true
  · exact fun plain c member => plain c (mem_strip member)

theorem write_ok {texts : List String} (plain : ∀ text ∈ texts, lone.encodes text = true) :
    lone.write texts = .ok () := if_pos (List.all_eq_true.mpr plain)

theorem write_error {texts : List String} (member : text ∈ texts) (surrogate : lone.encodes text = false) :
    lone.write texts = .error .unicodeEncodeError := by
  refine if_neg fun plain => ?_
  exact absurd (surrogate.symm.trans (List.all_eq_true.mp plain text member)) Bool.false_ne_true

theorem write_cases (lone : LoneSurrogates) (texts : List String) :
    lone.write texts = .ok () ∨ lone.write texts = .error .unicodeEncodeError := by
  rw [LoneSurrogates.write]
  split
  · exact Or.inl rfl
  · exact Or.inr rfl

theorem isRouteChar_low {c : Char} (written : isRouteChar c = true) : c.toNat < 0xe000 := by
  simp only [isRouteChar, isAddressChar, Bool.or_eq_true, beq_iff_eq] at written
  rcases written with ((hex | rfl) | rfl) | rfl
  · have range := isAlnum_range (isAlnum_of_hex hex)
    omega
  all_goals decide

theorem isDomainChar_low {c : Char} (written : isDomainChar c = true) : c.toNat < 0xe000 := by
  simp only [isDomainChar, Bool.or_eq_true, beq_iff_eq] at written
  rcases written with (alnum | rfl) | rfl
  · have range := isAlnum_range alnum
    omega
  all_goals decide

theorem networkText_encodes {strict : Bool} {network : Network}
    (read : readNetwork strict .v4 ipv4Address text.toList = some network ∨
      readNetwork strict .v6 ipv6Address text.toList = some network)
    (plain : lone.encodes text = true) : lone.encodes network.text = true := by
  refine encodes_iff.mpr fun c member => ?_
  have low (small : c.toNat < 0xe000) : lone.stands c = false := by
    refine Bool.eq_false_iff.mpr fun stands => ?_
    exact absurd (lone.privateUse c stands) (Nat.not_le.mpr small)
  rcases Network.mem_text read member with written | rfl | inText
  · exact low (isRouteChar_low written)
  · exact low (by decide)
  · exact encodes_iff.mp plain c inText

theorem pushedRoute_encodes {route : String} (normal : normalizePushedRoute text = some route)
    (plain : lone.encodes text = true) : lone.encodes route = true := by
  obtain ⟨network, read, rfl⟩ := Option.map_eq_some_iff.mp normal
  have either : readNetwork false .v4 ipv4Address (strip text).toList = some network ∨
      readNetwork false .v6 ipv6Address (strip text).toList = some network := (orElse_some read).imp_right And.right
  exact networkText_encodes either ((encodes_strip lone text).trans plain)

theorem pushedDomain_encodes {domain : String} (normal : normalizePushedDomain text = some domain) :
    lone.encodes domain = true := by
  simp only [normalizePushedDomain] at normal
  split at normal
  · rename_i accepted
    obtain rfl := Option.some.inj normal
    have chars := matchesDomain_chars accepted.2
    refine encodes_of_low fun c member => ?_
    rw [beforeDollar] at chars
    split at chars
    · rename_i newline
      rw [← List.dropLast_append_getLast? '\n' newline, List.mem_append] at member
      rcases member with front | last
      · exact isDomainChar_low (chars c front)
      · obtain rfl := List.mem_singleton.mp last
        decide
    · exact isDomainChar_low (chars c member)
  · cases normal

end Written

/-! Files that are sound. -/

/-- Subtracting it from the clock does not overflow. -/
def fitsFloat : Json → Prop
  | .int number => number.natAbs < integerLimit
  | _ => True

/-- What the sync of a profile takes over from its record can be used and written back. -/
structure PushedRouting.Refreshable (limit : RecursionLimit) (pushed : PushedRouting) : Prop where
  syncedAt : fitsFloat pushed.syncedAt
  source : limit.exceeded pushed.source = false
  version : limit.exceeded pushed.version = false
  interface : limit.exceeded pushed.interface = false

/-- What gets into a script can be written there. Routes that are no networks never do, and comments among the
domains only with a server. -/
structure PushedRouting.Encodable (lone : LoneSurrogates) (pushed : PushedRouting) : Prop where
  routes : ∀ route ∈ mergeUnique [stringItems (some pushed.routes)],
    (familyOf route).isSome = true → lone.encodes route = true
  domains : ∀ domain ∈ mergeUnique [stringItems (some pushed.domains)], lone.encodes domain = true
  served : stringItems (some pushed.dns) ≠ [] →
    ∀ domain ∈ stringItems (some pushed.domains), lone.encodes domain = true
  dns : ∀ server ∈ stringItems (some pushed.dns), lone.encodes server = true

structure PushedRouting.Sound (lone : LoneSurrogates) (limit : RecursionLimit) (pushed : PushedRouting) :
    Prop where
  typed : pushed.WellTyped
  refreshable : pushed.Refreshable limit
  encodable : pushed.Encodable lone

/-- What is no object counts as no data at all. -/
def SoundContent (lone : LoneSurrogates) (limit : RecursionLimit) : StateContent → Prop
  | .text .recursionError => False
  | .text (.value (.dict entries)) => (PushedRouting.ofEntries entries).Sound lone limit
  | _ => True

section Sound

variable {lone : LoneSurrogates} {limit : RecursionLimit} {contents : PushedContents} {files : Files}
  {config : AppConfig} {profile : UpstreamProfileConfig}

theorem sound_empty (lone : LoneSurrogates) (limit : RecursionLimit) : PushedRouting.Sound lone limit {} where
  typed := wellTyped_empty
  refreshable := ⟨integerLimit_pos, limit.text _, limit.text _, limit.text _⟩
  encodable := by constructor <;> simp [stringItems, mergeUnique, mergeUniqueFrom]

theorem soundContent_iff {content : StateContent} : SoundContent lone limit content ↔
    ∃ pushed, loadPushedContent content = .ok pushed ∧ pushed.Sound lone limit := by
  have empty : ∃ pushed, (.ok {} : Except PyError PushedRouting) = .ok pushed ∧ pushed.Sound lone limit :=
    ⟨{}, rfl, sound_empty lone limit⟩
  cases content with
  | missing => exact iff_of_true trivial empty
  | unreadable => exact iff_of_true trivial empty
  | text loaded =>
      cases loaded with
      | valueError => exact iff_of_true trivial empty
      | recursionError =>
          refine iff_of_false id ?_
          rintro ⟨pushed, failed, -⟩
          cases failed
      | value json =>
          cases json with
          | dict entries =>
              constructor
              · exact fun sound => ⟨_, rfl, sound⟩
              · rintro ⟨pushed, loaded, sound⟩
                obtain rfl := Except.ok.inj loaded
                exact sound
          | _ => exact iff_of_true trivial empty

theorem loadPushed_withPushed {pushed : PushedRouting} (loaded : contents.load config profile = .ok pushed) :
    (files.withPushed contents).loadPushed config profile = pushed := by
  rw [PushedContents.load] at loaded
  simp only [Files.loadPushed, Files.withPushed]
  cases found : contents (pushedPath config profile) with
  | missing => rw [found] at loaded; exact Except.ok.inj loaded
  | unreadable => rw [found] at loaded; exact Except.ok.inj loaded
  | text content =>
      rw [found] at loaded
      cases content with
      | valueError => exact Except.ok.inj loaded
      | recursionError => cases loaded
      | value json => cases json <;> exact Except.ok.inj loaded

def SoundContents (lone : LoneSurrogates) (limit : RecursionLimit) (config : AppConfig) (contents : PushedContents) :
    Prop :=
  ∀ profile ∈ config.upstream.profiles, SoundContent lone limit (contents (pushedPath config profile))

theorem SoundContents.load (sound : SoundContents lone limit config contents)
    (member : profile ∈ config.upstream.profiles) :
    ∃ pushed, contents.load config profile = .ok pushed ∧ pushed.Sound lone limit :=
  soundContent_iff.mp (sound profile member)

theorem SoundContents.effective (sound : SoundContents lone limit config contents) (files : Files)
    (member : profile ∈ config.upstream.profiles) :
    ((files.withPushed contents).effectivePushed config profile).Sound lone limit := by
  obtain ⟨pushed, loaded, isSound⟩ := sound.load member
  rw [Files.effectivePushed]
  split
  · rw [loadPushed_withPushed loaded]
    exact isSound
  · exact sound_empty lone limit

theorem SoundContents.effectiveAll (sound : SoundContents lone limit config contents)
    {profiles : List UpstreamProfileConfig} (inside : profiles ⊆ config.upstream.profiles) :
    ∃ all, contents.effectiveAll config profiles = .ok all := by
  induction profiles with
  | nil => exact ⟨[], rfl⟩
  | cons profile rest ih =>
      obtain ⟨pushed, loaded, -⟩ := sound.load (inside (List.mem_cons_self ..))
      obtain ⟨others, found⟩ := ih fun _ member => inside (List.mem_cons_of_mem _ member)
      rw [PushedContents.effectiveAll, loaded, found]
      split <;> exact ⟨_, rfl⟩

theorem readingProfiles_subset (config : AppConfig) : readingProfiles config ⊆ config.upstream.profiles := by
  rw [readingProfiles]
  split
  · exact List.Subset.refl _
  · exact List.nil_subset _

theorem undamaged_listTargetsOn (sound : SoundContents lone limit config contents) (files : Files)
    (defaultInterface : String) : Undamaged (listTargetsOn contents files config defaultInterface) := by
  obtain ⟨all, found⟩ := sound.effectiveAll (readingProfiles_subset config)
  rw [listTargetsOn, found]
  exact undamaged_listTargets (fun _ member => (sound.effective files member).typed.lists) defaultInterface

theorem dumps_flat {values : List Json} (flat : ∀ value ∈ values, limit.exceeded value = false) :
    limit.dumps values = .ok () := by
  rw [RecursionLimit.dumps, if_neg]
  rintro deep
  obtain ⟨value, member, exceeded⟩ := List.any_eq_true.mp deep
  exact absurd ((flat value member).symm.trans exceeded) Bool.false_ne_true

theorem flat_lists {pushed : PushedRouting} (formed : pushed.WellFormed) :
    ∀ value ∈ [pushed.routes, pushed.domains, pushed.dns], limit.exceeded value = false := by
  obtain ⟨routes, domains, servers, routesEq, domainsEq, serversEq⟩ := formed
  intro value member
  simp only [List.mem_cons, List.not_mem_nil, or_false] at member
  rcases member with rfl | rfl | rfl
  · exact routesEq ▸ limit.texts routes
  · exact domainsEq ▸ limit.texts domains
  · exact serversEq ▸ limit.texts servers

theorem fingerprintOn_ok {Digest : Type} (digest : List PushedPart → Digest)
    (formed : ∀ profile ∈ config.upstream.profiles,
      ((files.withPushed contents).effectivePushed config profile).WellFormed)
    {all : List PushedRouting} (readable : contents.effectiveAll config config.upstream.profiles = .ok all) :
    fingerprintOn digest limit contents files config =
      .ok (fingerprintOf digest (fingerprintParts (files.withPushed contents) config)) := by
  have flat : ∀ value ∈ partValues (fingerprintParts (files.withPushed contents) config),
      limit.exceeded value = false := by
    intro value member
    obtain ⟨part, inParts, inPart⟩ := List.mem_flatMap.mp member
    obtain ⟨profile, inProfiles, made⟩ := List.mem_filterMap.mp inParts
    rw [fingerprintPart] at made
    split at made
    · cases made
    · obtain rfl := Option.some.inj made
      exact flat_lists (formed profile inProfiles) value inPart
  rw [fingerprintOn, readable]
  simp only [bind, Except.bind, dumps_flat flat]
  rfl

/-! What the rules and `dnsmasq.conf` take over. -/

theorem hostRoutes_encode {pushed : PushedRouting} (formed : pushed.WellFormed)
    (encodable : pushed.Encodable lone) {route : String} (isListed : listed pushed.hostRoutes route)
    (family : (familyOf route).isSome = true) : lone.encodes route = true := by
  obtain ⟨routes, domains, servers, routesEq, -, serversEq⟩ := formed
  obtain ⟨entries, found, member⟩ := isListed
  simp only [PushedRouting.hostRoutes, bind_ok, pure_ok] at found
  obtain ⟨dnsRoutes, dnsFound, items, itemsFound, taken, takenFound, rfl⟩ := found
  obtain ⟨entry, source, inSources, item, inSource, rfl⟩ := mem_mergeUnique.mp member
  rcases List.mem_pair.mp inSources with rfl | rfl
  · rw [routesEq] at itemsFound
    obtain rfl := Except.ok.inj itemsFound
    obtain rfl := Except.ok.inj ((textsOf_map_str routes).symm.trans takenFound)
    refine encodable.routes (strip item) (mem_mergeUnique.mpr ⟨entry, _, List.mem_singleton.mpr rfl, item, ?_, rfl⟩)
      family
    rwa [routesEq, stringItems_texts]
  · rw [encodes_strip]
    rw [pushedDnsRoutes] at dnsFound
    split at dnsFound
    · rw [PushedRouting.dnsHostRoutes, serversEq] at dnsFound
      obtain rfl := Except.ok.inj dnsFound
      obtain ⟨network, inNetworks, rfl⟩ := List.mem_map.mp inSource
      obtain ⟨server, inServers, read⟩ := List.mem_filterMap.mp inNetworks
      obtain ⟨text, inTexts, rfl⟩ := List.mem_map.mp inServers
      have either : readNetwork true .v4 ipv4Address text.toList = some network ∨
          readNetwork true .v6 ipv6Address text.toList = some network := (orElse_some read).imp_right And.right
      exact networkText_encodes either (encodable.dns text (by rwa [serversEq, stringItems_texts]))
    · obtain rfl := Except.ok.inj dnsFound
      cases inSource

theorem hostDomains_encode {pushed : PushedRouting} (formed : pushed.WellFormed)
    (encodable : pushed.Encodable lone) {domain : String} (isListed : listed pushed.hostDomains domain) :
    lone.encodes domain = true := by
  obtain ⟨routes, domains, servers, -, domainsEq, -⟩ := formed
  obtain ⟨entries, found, member⟩ := isListed
  simp only [PushedRouting.hostDomains, bind_ok, pure_ok] at found
  obtain ⟨items, itemsFound, taken, takenFound, rfl⟩ := found
  rw [domainsEq] at itemsFound
  obtain rfl := Except.ok.inj itemsFound
  obtain rfl := Except.ok.inj ((textsOf_map_str domains).symm.trans takenFound)
  refine encodable.domains domain ?_
  rwa [domainsEq, stringItems_texts]

/-- The lists of the configuration have no lone surrogates of their own. -/
def AppConfig.PlainHosts (lone : LoneSurrogates) (config : AppConfig) : Prop :=
  ∀ profile ∈ config.upstream.profiles, ∀ text ∈ profile.hostRoutes ++ profile.hostDomains,
    lone.encodes text = true

theorem mergeUnique_encodes {items : List String} (plain : ∀ text ∈ items, lone.encodes text = true) :
    ∀ text ∈ mergeUnique [items], lone.encodes text = true := by
  intro text member
  obtain ⟨-, source, inSources, item, inSource, rfl⟩ := mem_mergeUnique.mp member
  obtain rfl := List.mem_singleton.mp inSources
  exact (encodes_strip lone item).trans (plain item inSource)

theorem hostLists_encode {pushed : PushedRouting} (formed : pushed.WellFormed) (encodable : pushed.Encodable lone)
    (plain : ∀ text ∈ profile.hostRoutes ++ profile.hostDomains, lone.encodes text = true) {lists : HostLists}
    (found : hostLists profile pushed = .ok lists) :
    (∀ route ∈ lists.routes, (familyOf route).isSome = true → lone.encodes route = true) ∧
      ∀ domain ∈ lists.domains, lone.encodes domain = true := by
  obtain ⟨routes, domains⟩ := hostLists_ok found
  constructor
  · intro route member family
    rcases (routes route).mp member with own | pushedRoute
    · exact mergeUnique_encodes (fun text inOwn => plain text (List.mem_append_left _ inOwn)) route own
    · exact hostRoutes_encode formed encodable pushedRoute family
  · intro domain member
    rcases (domains domain).mp member with own | pushedDomain
    · exact mergeUnique_encodes (fun text inOwn => plain text (List.mem_append_right _ inOwn)) domain own
    · exact hostDomains_encode formed encodable pushedDomain

theorem target_encodes (sound : ∀ profile ∈ config.upstream.profiles,
      (files.effectivePushed config profile).Sound lone limit) (plain : config.PlainHosts lone)
    {interface : String} {targets : List RoutingTarget} (found : listTargets files config interface = .ok targets)
    {target : RoutingTarget} (member : target ∈ targets) :
    (∀ text ∈ target.hostElements, lone.encodes text = true) ∧
      ∀ text ∈ target.hostNames config, lone.encodes text = true := by
  obtain ⟨routes, domains, named, -, namedFound, rfl⟩ := listTargets_ok found
  rcases List.mem_cons.mp member with rfl | later
  · have none (text : String) : text ∉ ([] : List String) := List.not_mem_nil
    exact ⟨fun text inText => absurd inText (none text), fun text inText => absurd inText (none text)⟩
  · obtain ⟨kept, pairs⟩ := namedTargets_kept namedFound
    obtain ⟨profile, inProfiles, base, lists, fwmark, -, listsFound, -, -, rfl⟩ := pairs.profileOf later
    obtain ⟨typed, -, encodable⟩ := sound profile inProfiles
    obtain ⟨hostRoutes, hostDomains⟩ := hostLists_encode typed.lists encodable (plain profile inProfiles) listsFound
    constructor
    · intro text inText
      rw [RoutingTarget.hostElements] at inText
      split at inText
      · simp only [namedTarget, splitByFamily, List.mem_append] at inText
        have split : text ∈ lists.routes ∧ (familyOf text).isSome = true := by
          rcases inText with v4 | v6
          · split at v4
            · obtain ⟨inRoutes, family⟩ := List.mem_filter.mp v4
              exact ⟨inRoutes, by rw [beq_iff_eq.mp family]; rfl⟩
            · cases v4
          · split at v6
            · obtain ⟨inRoutes, family⟩ := List.mem_filter.mp v6
              exact ⟨inRoutes, by rw [beq_iff_eq.mp family]; rfl⟩
            · cases v6
        exact hostRoutes text split.1 split.2
      · cases inText
    · intro text inText
      rw [RoutingTarget.hostNames] at inText
      split at inText
      · rcases List.mem_append.mp inText with directive | domain
        · obtain ⟨domain, inDomains, inServers⟩ := List.mem_flatMap.mp directive
          split at inServers
          · cases inServers
          · obtain ⟨server, isServer, pair⟩ := List.mem_flatMap.mp inServers
            have lists : domain ∈ stringItems (some (files.effectivePushed config profile).domains) ∧
                server ∈ stringItems (some (files.effectivePushed config profile).dns) := by
              simp only [namedTarget] at inDomains isServer
              split at inDomains
              · rename_i active
                rw [if_pos active] at isServer
                exact ⟨inDomains, isServer⟩
              · cases inDomains
            rcases List.mem_pair.mp pair with rfl | rfl
            · exact encodable.served (List.ne_nil_of_mem lists.2) text lists.1
            · exact encodable.dns text lists.2
        · simp only [namedTarget] at domain
          split at domain
          · exact hostDomains text domain
          · cases domain
      · cases inText

/-! A refresh over sound files. -/

theorem isInteger_flat {value : Json} (integer : isInteger value) : limit.exceeded value = false := by
  cases value with
  | int number => exact limit.int number
  | bool flag => exact limit.bool flag
  | _ => cases integer

theorem isDue_sound (run : RefreshRun lone) (interval : Nat) {value : Json} (integer : isInteger value)
    (fits : fitsFloat value) : ∃ due, run.isDue interval value = .ok due := by
  cases value with
  | int number => exact ⟨_, if_neg (Nat.not_le.mpr fits)⟩
  | bool flag => exact ⟨_, rfl⟩
  | _ => cases integer

theorem ofEntries_entries (pushed : PushedRouting) : PushedRouting.ofEntries pushed.entries = pushed := by
  simp [PushedRouting.entries, PushedRouting.ofEntries, lookup]

theorem result_wellTyped (call : SyncCall) (config : AppConfig) {previous : PushedRouting}
    (typed : previous.WellTyped) : (call.result config previous).WellTyped := by
  obtain ⟨⟨routes, domains, servers, routesEq, domainsEq, serversEq⟩, updatedAt, syncedAt⟩ := typed
  rw [SyncCall.result]
  cases call.lists with
  | error message => exact ⟨⟨routes, domains, servers, routesEq, domainsEq, serversEq⟩, updatedAt, rfl⟩
  | ok lists =>
      refine ⟨⟨lists.routes, lists.domains, servers, rfl, rfl, serversEq⟩, ?_, rfl⟩
      dsimp only
      split
      · exact updatedAt
      · rfl

theorem result_flat (call : SyncCall) (config : AppConfig) {previous : PushedRouting}
    (typed : previous.WellTyped) (refreshable : previous.Refreshable limit) :
    ∀ value ∈ (call.result config previous).entries.map Prod.snd, limit.exceeded value = false := by
  have resultTyped := result_wellTyped call config typed
  have lists := @flat_lists limit _ resultTyped.lists
  have taken : limit.exceeded (call.result config previous).source = false ∧
      limit.exceeded (call.result config previous).version = false ∧
      limit.exceeded (call.result config previous).interface = false ∧
      limit.exceeded (call.result config previous).syncError = false := by
    rw [SyncCall.result]
    cases call.lists with
    | error message =>
        exact ⟨refreshable.source, refreshable.version, refreshable.interface, limit.text _⟩
    | ok lists => exact ⟨limit.text _, limit.text _, limit.text _, limit.text _⟩
  intro value member
  simp only [PushedRouting.entries, List.map_cons, List.map_nil, List.mem_cons, List.not_mem_nil, or_false] at member
  rcases member with rfl | rfl | rfl | rfl | rfl | rfl | rfl | rfl | rfl
  · exact lists _ (by simp)
  · exact lists _ (by simp)
  · exact lists _ (by simp)
  · exact taken.1
  · exact taken.2.1
  · exact taken.2.2.1
  · exact isInteger_flat resultTyped.updatedAt
  · exact isInteger_flat resultTyped.syncedAt
  · exact taken.2.2.2

theorem result_refreshable (repr : Json → String) (run : RefreshRun lone) (config : AppConfig)
    {previous : PushedRouting} (typed : previous.WellTyped) (refreshable : previous.Refreshable limit) :
    ((run.syncCall repr profile).result config previous).Refreshable limit := by
  have flat := result_flat (run.syncCall repr profile) config typed refreshable
  refine ⟨?_, flat _ (by simp [PushedRouting.entries]), flat _ (by simp [PushedRouting.entries]),
    flat _ (by simp [PushedRouting.entries])⟩
  rw [SyncCall.result]
  cases (run.syncCall repr profile).lists <;> exact run.clockFits

theorem lists_encode {repr : Json → String} {run : RefreshRun lone} {lists : SyncLists}
    (answered : (run.syncCall repr profile).lists = .ok lists) :
    (∀ route ∈ lists.routes, lone.encodes route = true) ∧
      ∀ domain ∈ lists.domains, lone.encodes domain = true := by
  rw [SyncCall.lists] at answered
  cases answer : (run.syncCall repr profile).answer with
  | json payload =>
      rw [answer] at answered
      cases payload with
      | dict entries =>
          obtain rfl := Except.ok.inj answered
          constructor
          · intro route member
            obtain ⟨-, candidate, given, normal⟩ := mem_collect.mp member
            exact pushedRoute_encodes normal (run.plain profile entries answer candidate given)
          · intro domain member
            obtain ⟨-, candidate, -, normal⟩ := mem_collect.mp member
            exact pushedDomain_encodes normal
      | _ => cases answered
  | _ => rw [answer] at answered; cases answered

theorem result_encodable (repr : Json → String) (run : RefreshRun lone) (config : AppConfig)
    {previous : PushedRouting} (encodable : previous.Encodable lone) :
    ((run.syncCall repr profile).result config previous).Encodable lone := by
  rw [SyncCall.result]
  cases answered : (run.syncCall repr profile).lists with
  | error message => exact ⟨encodable.routes, encodable.domains, encodable.served, encodable.dns⟩
  | ok lists =>
      obtain ⟨routes, domains⟩ := lists_encode answered
      constructor
      · rw [stringItems_texts]
        exact fun route member _ => mergeUnique_encodes routes route member
      · rw [stringItems_texts]
        exact mergeUnique_encodes domains
      · rw [stringItems_texts]
        exact fun _ => domains
      · exact encodable.dns

theorem result_sound (repr : Json → String) (run : RefreshRun lone) (config : AppConfig) {previous : PushedRouting}
    (sound : previous.Sound lone limit) : ((run.syncCall repr profile).result config previous).Sound lone limit where
  typed := result_wellTyped _ config sound.typed
  refreshable := result_refreshable repr run config sound.typed sound.refreshable
  encodable := result_encodable repr run config sound.encodable

theorem turn_sound (repr : Json → String) (run : RefreshRun lone) (sound : SoundContents lone limit config contents)
    (member : profile ∈ config.upstream.profiles) :
    Undamaged (run.turn repr limit config contents profile) ∧
      ∀ next, run.turn repr limit config contents profile = .ok next → SoundContents lone limit config next := by
  have unchanged : Undamaged (.ok contents : Except PyError PushedContents) ∧
      ∀ next, (.ok contents : Except PyError PushedContents) = .ok next → SoundContents lone limit config next :=
    ⟨failsOnly_ok _, fun next kept => Except.ok.inj kept ▸ sound⟩
  rw [RefreshRun.turn]
  split
  · obtain ⟨pushed, loaded, isSound⟩ := sound.load member
    obtain ⟨due, compared⟩ :=
      isDue_sound run profile.syncInterval isSound.typed.syncedAt isSound.refreshable.syncedAt
    rw [loaded]
    simp only [bind, Except.bind, compared]
    split
    · have again : contents.load config (run.syncCall repr profile).profile = .ok pushed := loaded
      have flat := result_flat (run.syncCall repr profile) config isSound.typed isSound.refreshable
      rw [syncOn, again]
      simp only [bind, Except.bind, dumps_flat flat]
      split
      · refine ⟨failsOnly_error rfl, fun next failed => ?_⟩
        cases failed
      · refine ⟨failsOnly_ok _, fun next stored => ?_⟩
        obtain rfl := Except.ok.inj stored
        intro other inProfiles
        by_cases same : pushedPath config other = pushedPath config profile
        · have here : Function.update contents (pushedPath config (run.syncCall repr profile).profile)
              (.text (.value (.dict ((run.syncCall repr profile).result config pushed).entries)))
                (pushedPath config other) =
              .text (.value (.dict ((run.syncCall repr profile).result config pushed).entries)) := by
            rw [same]
            exact Function.update_self ..
          rw [here, SoundContent, ofEntries_entries]
          exact result_sound repr run config isSound
        · change SoundContent lone limit
            (Function.update contents (pushedPath config profile) _ (pushedPath config other))
          rw [Function.update_of_ne same]
          exact sound other inProfiles
    · exact unchanged
  · exact unchanged

theorem turns_sound (repr : Json → String) (run : RefreshRun lone) (sound : SoundContents lone limit config contents)
    {profiles : List UpstreamProfileConfig} (inside : profiles ⊆ config.upstream.profiles) :
    Undamaged (run.turns repr limit config contents profiles) ∧
      ∀ next, run.turns repr limit config contents profiles = .ok next → SoundContents lone limit config next := by
  induction profiles generalizing contents with
  | nil => exact ⟨failsOnly_ok _, fun next kept => Except.ok.inj kept ▸ sound⟩
  | cons profile rest ih =>
      have later : rest ⊆ config.upstream.profiles := fun _ member => inside (List.mem_cons_of_mem _ member)
      obtain ⟨undamaged, kept⟩ := turn_sound repr run sound (inside (List.mem_cons_self ..))
      refine ⟨undamaged.bind fun next found => (ih (kept next found) later).1, fun final found => ?_⟩
      obtain ⟨next, first, others⟩ := bind_ok.mp found
      exact (ih (kept next first) later).2 final others

section Apply

variable {Digest : Type} (digest : List PushedPart → Digest) (repr : Json → String) (run : RefreshRun lone)
  (state : PushedState Digest)

theorem undamaged_writeScript (sound : ∀ profile ∈ state.config.upstream.profiles,
      (state.files.effectivePushed state.config profile).Sound lone limit)
    (plain : state.config.PlainHosts lone) : Undamaged (run.writeScript state) := by
  have typed := fun profile member => (sound profile member).typed.lists
  refine (undamaged_resolveTargets typed run.outbound).bind fun resolved found => ?_
  have written : lone.write (resolved.targets.flatMap RoutingTarget.hostElements) = .ok () := by
    obtain ⟨targets, listFound, rfl⟩ := by simpa only [resolveTargets, bind_ok, pure_ok] using found
    refine write_ok fun text member => ?_
    obtain ⟨target, inTargets, inText⟩ := List.mem_flatMap.mp member
    exact (target_encodes sound plain listFound inTargets).1 text inText
  rw [written]
  refine (undamaged_staticSetsReady typed run.answers run.outbound state.host).bind fun ready _ => FailsOnly.ite ?_ ?_
  · exact (undamaged_renderStaticRefresh typed run.outbound).bind fun _ _ => failsOnly_ok _
  · exact (undamaged_render typed run.outbound).bind fun _ _ => failsOnly_ok _

theorem undamaged_writeDnsmasq (sound : ∀ profile ∈ state.config.upstream.profiles,
      (state.files.effectivePushed state.config profile).Sound lone limit)
    (plain : state.config.PlainHosts lone) : Undamaged (state.writeDnsmasq repr lone) := by
  have typed := fun profile member => (sound profile member).typed.lists
  have rendered : Undamaged (state.renderedDnsmasq repr) :=
    FailsOnly.ite (undamaged_renderDnsmasq typed repr) (failsOnly_ok _)
  refine rendered.bind fun directives _ => FailsOnly.ite ?_ (failsOnly_ok _)
  refine (undamaged_listTargets typed _).bind fun targets found => ?_
  have written : lone.write (targets.flatMap (RoutingTarget.hostNames state.config)) = .ok () := by
    refine write_ok fun text member => ?_
    obtain ⟨target, inTargets, inText⟩ := List.mem_flatMap.mp member
    exact (target_encodes sound plain found inTargets).2 text inText
  rw [written]
  exact failsOnly_ok _

theorem undamaged_refresh [DecidableEq Digest] (sound : SoundContents lone limit state.config contents)
    (plain : state.config.PlainHosts lone) :
    Undamaged (refreshServerRoutesOn digest repr limit run contents state) := by
  obtain ⟨undamaged, kept⟩ := turns_sound repr run sound (List.Subset.refl _)
  refine undamaged.bind fun next found => ?_
  have soundNext := kept next found
  have effective : ∀ profile ∈ state.config.upstream.profiles,
      ((state.files.withPushed next).effectivePushed state.config profile).Sound lone limit :=
    fun _ member => soundNext.effective state.files member
  have typed := fun profile member => (effective profile member).typed.lists
  obtain ⟨all, readable⟩ := soundNext.effectiveAll (List.Subset.refl _)
  obtain ⟨reading, inUse⟩ := soundNext.effectiveAll (readingProfiles_subset state.config)
  rw [applyChangedOn, fingerprintOn_ok digest typed readable]
  refine (failsOnly_ok _).bind fun _ _ => FailsOnly.ite (failsOnly_ok _) ?_
  rw [inUse]
  let stored := { state with files := state.files.withPushed next }
  refine (failsOnly_ok _).bind fun _ _ => (undamaged_writeScript run stored effective plain).bind fun _ _ => ?_
  refine (undamaged_nftablesApply typed run.answers run.outbound state.host).bind fun outcome _ => ?_
  exact FailsOnly.ite (failsOnly_ok _) ((undamaged_writeDnsmasq repr stored effective plain).map _)

end Apply

end Sound

def trustingProfile : UpstreamProfileConfig :=
  { pushedProfile with acceptServerRoutes := true, routeHostEnabled := true, hostDomains := ["intra.example.com"] }

def trustingConfig : AppConfig where
  upstream := { enabled := true, profiles := [trustingProfile] }

theorem trustingConfig_valid : trustingConfig.Valid := ⟨fun _ => false, by decide +kernel⟩

theorem trustingConfig_plain (lone : LoneSurrogates) : trustingConfig.PlainHosts lone := by
  intro profile member text inHosts
  obtain rfl := List.mem_singleton.mp member
  obtain rfl := List.mem_singleton.mp inHosts
  have low : "intra.example.com".toList.all (fun c => decide (c.toNat < 0xe000)) = true := by rfl
  exact encodes_of_low fun c inText => of_decide_eq_true (List.all_eq_true.mp low c inText)

def trustingRun (lone : LoneSurrogates) {now : ℚ} (double : toDouble now = now) (connected answered : Bool) :
    RefreshRun lone where
  now := now
  double := double
  clock := 0
  clockFits := integerLimit_pos
  floatDue := fun _ _ => false
  connected := fun _ => connected
  answer := fun _ => if answered then .json (.dict [("split_dns", texts ["a.example.com"])]) else .curlFailed 22 ""
  plain := by
    intro profile entries isAnswer text member
    cases answered with
    | true =>
        obtain rfl := Json.dict.inj (SyncAnswer.json.inj isAnswer)
        cases member
    | false => cases isAnswer
  answers :=
    { probeWorks := true, acceptsRefresh := fun _ => true, acceptsRuleset := fun _ => true, links := fun _ => true }
  outbound := none

section Unsound

variable {lone : LoneSurrogates} {limit : RecursionLimit} {contents : PushedContents} {pushed : PushedRouting}
  {lists : HostLists} {text : String}

def trustedTarget (pushed : PushedRouting) (lists : HostLists) : RoutingTarget :=
  namedTarget trustingConfig trustingProfile lists pushed "0x0c02"

structure Trusted (contents : PushedContents) (pushed : PushedRouting) (lists : HostLists) : Prop where
  formed : pushed.WellFormed
  loaded : contents.load trustingConfig trustingProfile = .ok pushed
  found : hostLists trustingProfile pushed = .ok lists
  active : hostActive trustingProfile lists = true
  domains : lists.domains ≠ []
  effective : (Files.withPushed {} contents).effectivePushed trustingConfig trustingProfile = pushed

theorem trusted (loaded : contents.load trustingConfig trustingProfile = .ok pushed) (formed : pushed.WellFormed) :
    ∃ lists, Trusted contents pushed lists := by
  obtain ⟨lists, found⟩ := formed.hostLists trustingProfile
  have own : "intra.example.com" ∈ lists.domains := ((hostLists_ok found).2 _).mpr (Or.inl (by decide))
  refine ⟨lists, formed, loaded, found, ?_, List.ne_nil_of_mem own,
    (if_pos rfl).trans (loadPushed_withPushed loaded)⟩
  simp [hostActive, trustingProfile, List.ne_nil_of_mem own]

theorem Trusted.targets (trusted : Trusted contents pushed lists) (interface : String) :
    listTargets (Files.withPushed {} contents) trustingConfig interface =
      .ok [defaultTarget trustingConfig interface [] [], trustedTarget pushed lists] := by
  have target : profileTarget (Files.withPushed {} contents) trustingConfig 0xc01 trustingProfile =
      .ok (some (trustedTarget pushed lists)) := by
    have mark : offsetFwmark trustingConfig.routing.fwmark 0xc01
        (trustingConfig.upstream.profileRoutingOffset trustingProfile) = .ok "0x0c02" := by rfl
    rw [profileTarget, trusted.effective, trusted.found]
    simp only [bind, Except.bind, trusted.active, mark]
    rfl
  have named : namedTargets (Files.withPushed {} contents) trustingConfig = .ok [trustedTarget pushed lists] := by
    have base : intOrValueError trustingConfig.routing.fwmark = .ok 0xc01 := by rfl
    have enabled : trustingConfig.upstream.enabled = true := rfl
    rw [namedTargets, if_pos enabled, base]
    change (profileTarget _ _ _ _ >>= _) = _
    rw [target]
    rfl
  have routes : listRoutes (Files.withPushed {} contents) trustingConfig = .ok [] := rfl
  have domains : defaultDomains (Files.withPushed {} contents) trustingConfig = .ok [] := rfl
  rw [listTargets, routes, domains, named]
  rfl

example : (listTargets {} trustingConfig "oc-up1").toOption.map targetNames = some ["default", "office"] := by
  decide +kernel

theorem Trusted.enabled (trusted : Trusted contents pushed lists) :
    (trustedTarget pushed lists).hostEnabled = true := by
  rw [RoutingTarget.hostEnabled, trustedTarget, namedTarget]
  simp only [trusted.active, if_true]
  rfl

theorem Trusted.route (trusted : Trusted contents pushed lists) (isListed : listed pushed.hostRoutes text)
    (family : (familyOf text).isSome = true) : text ∈ (trustedTarget pushed lists).hostElements := by
  have inRoutes : text ∈ lists.routes := ((hostLists_ok trusted.found).1 text).mpr (Or.inr isListed)
  rw [RoutingTarget.hostElements, if_pos trusted.enabled, List.mem_append]
  simp only [trustedTarget, namedTarget, trusted.active, if_true, splitByFamily, List.mem_filter, inRoutes, true_and]
  obtain ⟨found, isFamily⟩ := Option.isSome_iff_exists.mp family
  cases found with
  | v4 => exact Or.inl (by rw [isFamily]; rfl)
  | v6 => exact Or.inr (by rw [isFamily]; rfl)

theorem Trusted.names (trusted : Trusted contents pushed lists) :
    (trustedTarget pushed lists).hostNames trustingConfig =
      (stringItems (some pushed.domains)).flatMap (fun domain =>
        (stringItems (some pushed.dns)).flatMap fun server => [domain, server]) ++ lists.domains := by
  have active : (trustedTarget pushed lists).hostDomains = lists.domains := by
    simp only [trustedTarget, namedTarget, trusted.active, if_true]
  rw [RoutingTarget.hostNames, active, trusted.enabled]
  simp only [Bool.true_and, List.isEmpty_eq_false_iff.mpr trusted.domains, Bool.not_false, if_true]
  simp only [trustedTarget, namedTarget, trusted.active, if_true]
  rfl

theorem Trusted.domain (trusted : Trusted contents pushed lists)
    (member : text ∈ mergeUnique [stringItems (some pushed.domains)]) :
    text ∈ (trustedTarget pushed lists).hostNames trustingConfig := by
  obtain ⟨-, domains, -, -, domainsEq, -⟩ := trusted.formed
  rw [domainsEq, stringItems_texts] at member
  have isListed : listed pushed.hostDomains text := by
    refine ⟨_, ?_, member⟩
    simp only [PushedRouting.hostDomains, bind_ok, pure_ok]
    exact ⟨domains.map .str, by rw [domainsEq]; rfl, domains, textsOf_map_str domains, rfl⟩
  rw [trusted.names]
  exact List.mem_append_right _ (((hostLists_ok trusted.found).2 text).mpr (Or.inr isListed))

theorem mergeUnique_source {items : List String} (member : text ∈ mergeUnique [items]) : items ≠ [] := by
  rintro rfl
  obtain ⟨-, source, inSources, item, inSource, -⟩ := mem_mergeUnique.mp member
  obtain rfl := List.mem_singleton.mp inSources
  cases inSource

example : mergeUnique [["a", " ", "a"]] = ["a"] := by decide +kernel

theorem Trusted.nonempty (trusted : Trusted contents pushed lists)
    (given : stringItems (some pushed.routes) ≠ [] ∨ stringItems (some pushed.domains) ≠ []) :
    pushed.isEmpty = false := by
  obtain ⟨routes, domains, -, routesEq, domainsEq, -⟩ := trusted.formed
  rw [routesEq, domainsEq, stringItems_texts, stringItems_texts] at given
  rw [PushedRouting.isEmpty, routesEq, domainsEq]
  rcases given with given | given
  · simp [texts, Json.truthy, given]
  · simp [texts, Json.truthy, given]

theorem Trusted.listedRoute (trusted : Trusted contents pushed lists)
    (member : text ∈ mergeUnique [stringItems (some pushed.routes)]) : listed pushed.hostRoutes text := by
  obtain ⟨routes, -, -, routesEq, -, -⟩ := trusted.formed
  rw [routesEq, stringItems_texts] at member
  obtain ⟨dnsRoutes, dnsFound, -⟩ := bind_ok.mp trusted.found
  refine ⟨mergeUnique [routes, dnsRoutes], ?_, ?_⟩
  · simp only [PushedRouting.hostRoutes, bind_ok, pure_ok]
    exact ⟨dnsRoutes, dnsFound, routes.map .str, by rw [routesEq]; rfl, routes, textsOf_map_str routes, rfl⟩
  · obtain ⟨entry, source, inSources, item, inSource, stripped⟩ := mem_mergeUnique.mp member
    obtain rfl := List.mem_singleton.mp inSources
    exact mem_mergeUnique.mpr ⟨entry, source, List.mem_cons_self .., item, inSource, stripped⟩

theorem Trusted.pair (trusted : Trusted contents pushed lists) {domain server : String}
    (inDomains : domain ∈ stringItems (some pushed.domains)) (isServer : server ∈ stringItems (some pushed.dns))
    (either : text = domain ∨ text = server) : text ∈ (trustedTarget pushed lists).hostNames trustingConfig := by
  rw [trusted.names]
  have inPair : text ∈ [domain, server] := List.mem_pair.mpr either
  refine List.mem_append_left _ (List.mem_flatMap.mpr ⟨domain, inDomains, ?_⟩)
  exact List.mem_flatMap.mpr ⟨server, isServer, inPair⟩

section Apply

variable {Digest : Type} {now : ℚ} {double : toDouble now = now} {connected answered : Bool}

theorem Trusted.resolve (trusted : Trusted contents pushed lists) :
    ∃ resolved, resolveTargets (Files.withPushed {} contents) trustingConfig none = .ok resolved ∧
      resolved.targets.flatMap RoutingTarget.hostElements = (trustedTarget pushed lists).hostElements := by
  rw [resolveTargets, trusted.targets]
  refine ⟨_, rfl, ?_⟩
  exact List.append_nil _

theorem Trusted.render (trusted : Trusted contents pushed lists) :
    ∃ ruleset, render (Files.withPushed {} contents) trustingConfig none = .ok ruleset := by
  obtain ⟨resolved, found, -⟩ := trusted.resolve
  rw [Korserver.render, found]
  exact ⟨_, rfl⟩

theorem Trusted.notReady (trusted : Trusted contents pushed lists) (answers : Answers) :
    staticSetsReady answers (Files.withPushed {} contents) trustingConfig none {} = .ok false := by
  obtain ⟨resolved, found, -⟩ := trusted.resolve
  rw [staticSetsReady, expectedSetNames, found]
  rfl

theorem Trusted.writeScript (trusted : Trusted contents pushed lists) :
    (trustingRun lone double connected answered).writeScript
        ({ config := trustingConfig, files := Files.withPushed {} contents } : PushedState Digest) =
      lone.write (trustedTarget pushed lists).hostElements := by
  obtain ⟨resolved, found, elements⟩ := trusted.resolve
  obtain ⟨ruleset, rendered⟩ := trusted.render
  rw [RefreshRun.writeScript]
  simp only [trustingRun, found, trusted.notReady, rendered, bind, Except.bind, elements]
  rfl

theorem Trusted.recreated (trusted : Trusted contents pushed lists) :
    ∃ host, nftablesApply (trustingRun lone double connected answered).answers (Files.withPushed {} contents)
      trustingConfig (trustingRun lone double connected answered).outbound {} = .ok (.recreated, host) := by
  obtain ⟨resolved, found, -⟩ := trusted.resolve
  obtain ⟨ruleset, rendered⟩ := trusted.render
  simp only [nftablesApply, found, applyRuleset, trusted.notReady, recreate, applyFullRecreate, rendered,
    bind, Except.bind, trustingRun]
  exact ⟨_, rfl⟩

theorem serverDirectives_ok {repr : Json → String} {config : AppConfig} {target : RoutingTarget} {servers : List Json}
    (items : target.serverDns.items = .ok servers) (domains : List Json) :
    ∃ directives, serverDirectives repr config target domains = .ok directives := by
  induction domains with
  | nil => exact ⟨[], rfl⟩
  | cons domain rest ih =>
      obtain ⟨others, found⟩ := ih
      have first : ∃ own, serversFor config target (domain.pyStr repr) = .ok own := by
        rw [serversFor]
        split
        · exact ⟨[], rfl⟩
        · exact ⟨servers, items⟩
      obtain ⟨own, foundOwn⟩ := first
      rw [serverDirectives]
      simp only [foundOwn, found, bind, Except.bind]
      exact ⟨_, rfl⟩

theorem Trusted.directives (trusted : Trusted contents pushed lists) (repr : Json → String) :
    ∃ directives, renderDnsmasq repr (Files.withPushed {} contents) trustingConfig = .ok directives := by
  obtain ⟨-, domains, servers, -, domainsEq, serversEq⟩ := trusted.formed
  have target : ∃ own, hostDirectives repr trustingConfig (trustedTarget pushed lists) = .ok own := by
    have serverDomains : (trustedTarget pushed lists).serverDomains.items = .ok (domains.map .str) := by
      simp only [trustedTarget, namedTarget, trusted.active, if_true, domainsEq]
      rfl
    have serverDns : (trustedTarget pushed lists).serverDns.items = .ok (servers.map .str) := by
      simp only [trustedTarget, namedTarget, trusted.active, if_true, serversEq]
      rfl
    obtain ⟨lines, found⟩ := @serverDirectives_ok repr trustingConfig _ _ serverDns (domains.map .str)
    rw [hostDirectives, serverDomains]
    split
    · simp only [found, bind, Except.bind]
      exact ⟨_, rfl⟩
    · exact ⟨[], rfl⟩
  obtain ⟨own, found⟩ := target
  have hosts : ∀ interface, hostDirectivesOf repr trustingConfig
      [defaultTarget trustingConfig interface [] [], trustedTarget pushed lists] = .ok own := by
    intro interface
    have default : hostDirectives repr trustingConfig (defaultTarget trustingConfig interface [] []) = .ok [] := rfl
    simp only [hostDirectivesOf, default, found, bind, Except.bind, pure, Except.pure, List.nil_append, List.append_nil]
  have records : localRecords trustingConfig = .ok [] := rfl
  have split : splitDomainsOf (Files.withPushed {} contents) trustingConfig = .ok [] := rfl
  have hostSplit : hostSplitDomainsOf (Files.withPushed {} contents) trustingConfig = .ok [] := rfl
  rw [renderDnsmasq, records, trusted.targets, split, hostSplit]
  simp only [bind, Except.bind, hosts]
  exact ⟨_, rfl⟩

theorem Trusted.writeDnsmasq (trusted : Trusted contents pushed lists) (repr : Json → String) {error : PyError}
    (fails : lone.write ((trustedTarget pushed lists).hostNames trustingConfig) = .error error) :
    ({ config := trustingConfig, files := Files.withPushed {} contents } : PushedState Digest).writeDnsmasq repr lone =
      .error error := by
  obtain ⟨directives, rendered⟩ := trusted.directives repr
  have active : trustingConfig.dnsTunnelActive (Files.withPushed {} contents).pathExists = true := rfl
  have names : [defaultTarget trustingConfig trustingConfig.routing.mainInterface [] [],
      trustedTarget pushed lists].flatMap (RoutingTarget.hostNames trustingConfig) =
        (trustedTarget pushed lists).hostNames trustingConfig := List.append_nil _
  rw [PushedState.writeDnsmasq, PushedState.renderedDnsmasq, if_pos active, rendered]
  simp only [bind, Except.bind, active, if_true, trusted.targets, names, fails]

theorem Trusted.raises [DecidableEq Digest] (trusted : Trusted contents pushed lists)
    (digest : List PushedPart → Digest) (repr : Json → String) (limit : RecursionLimit)
    (nonempty : pushed.isEmpty = false) (surrogate : lone.encodes text = false)
    (written : text ∈ (trustedTarget pushed lists).hostElements ∨
      text ∈ (trustedTarget pushed lists).hostNames trustingConfig) :
    applyChangedOn digest repr limit (trustingRun lone double connected answered) contents
      { config := trustingConfig } = .error .unicodeEncodeError := by
  have readable : contents.effectiveAll trustingConfig trustingConfig.upstream.profiles = .ok [pushed] := by
    change (contents.load trustingConfig trustingProfile >>= _) = _
    rw [trusted.loaded]
    rfl
  have formed : ∀ profile ∈ trustingConfig.upstream.profiles,
      ((Files.withPushed {} contents).effectivePushed trustingConfig profile).WellFormed := by
    intro profile member
    obtain rfl := List.mem_singleton.mp member
    rw [trusted.effective]
    exact trusted.formed
  have parts : fingerprintParts (Files.withPushed {} contents) trustingConfig =
      [{ profile := "office", routes := pushed.routes, domains := pushed.domains, dns := pushed.dns }] := by
    have part : fingerprintPart (Files.withPushed {} contents) trustingConfig trustingProfile =
        some { profile := "office", routes := pushed.routes, domains := pushed.domains, dns := pushed.dns } := by
      simp only [fingerprintPart, trusted.effective, nonempty]
      rfl
    exact List.filterMap_cons_some part
  rw [applyChangedOn, fingerprintOn_ok digest formed readable, parts]
  have reading : contents.effectiveAll trustingConfig (readingProfiles trustingConfig) = .ok [pushed] := readable
  obtain ⟨host, recreated⟩ := @Trusted.recreated lone contents pushed lists now double connected answered trusted
  have script := @Trusted.writeScript lone contents pushed lists Digest now double connected answered trusted
  simp only [bind, Except.bind, fingerprintOf, reading, script]
  rcases written with element | name
  · rw [write_error element surrogate]
    rfl
  · rcases write_cases lone (trustedTarget pushed lists).hostElements with first | first
    · simp only [first, recreated, trusted.writeDnsmasq repr (write_error name surrogate)]
      rfl
    · rw [first]
      rfl

end Apply

section Sync

variable {repr : Json → String} {now : ℚ} {double : toDouble now = now} {answered : Bool}

theorem trusting_turns {outcome : Except PyError PushedContents}
    (turn : (trustingRun lone double true answered).turn repr limit trustingConfig contents trustingProfile = outcome) :
    (trustingRun lone double true answered).turns repr limit trustingConfig contents
      trustingConfig.upstream.profiles = outcome := by
  change (RefreshRun.turn _ _ _ _ _ _ >>= _) = _
  rw [turn]
  cases outcome <;> rfl

theorem trusting_turn (loaded : contents.load trustingConfig trustingProfile = .ok pushed) :
    (trustingRun lone double true answered).turn repr limit trustingConfig contents trustingProfile =
      ((trustingRun lone double true answered).isDue trustingProfile.syncInterval pushed.syncedAt >>= fun due =>
        if due then
          syncOn limit trustingConfig ((trustingRun lone double true answered).syncCall repr trustingProfile) contents
        else .ok contents) := by
  have syncs : trustingProfile.syncs = true := rfl
  rw [RefreshRun.turn, syncs, loaded]
  rfl

theorem trusting_due (lone : LoneSurrogates) (answered : Bool) {value : Json} (integer : isInteger value)
    (fits : fitsFloat value) : ∃ (now : ℚ) (double : toDouble now = now),
      (trustingRun lone double true answered).isDue trustingProfile.syncInterval value = .ok true := by
  cases value with
  | int number =>
      obtain ⟨now, double, late⟩ := exists_late (toDouble number) trustingProfile.syncInterval
      refine ⟨now, double, ?_⟩
      rw [RefreshRun.isDue, if_neg (Nat.not_le.mpr fits)]
      exact congrArg _ (decide_eq_true late)
  | bool flag =>
      obtain ⟨now, double, late⟩ := exists_late (if flag then 1 else 0) trustingProfile.syncInterval
      exact ⟨now, double, congrArg _ (decide_eq_true late)⟩
  | _ => cases integer

theorem failedSync_raises (loaded : contents.load trustingConfig trustingProfile = .ok pushed)
    (deep : ∃ value ∈ [pushed.source, pushed.version, pushed.interface], limit.exceeded value = true) :
    syncOn limit trustingConfig ((trustingRun lone double true false).syncCall repr trustingProfile) contents =
      .error .recursionError := by
  have again : contents.load trustingConfig
      ((trustingRun lone double true false).syncCall repr trustingProfile).profile = .ok pushed := loaded
  have stored : ((trustingRun lone double true false).syncCall repr trustingProfile).result trustingConfig pushed =
      { pushed with
        syncedAt := .int 0
        syncError := .str (String.ofList (("curl exited " ++ toString (22 : Int)).toList.take maxErrorLength)) } := by
    rfl
  obtain ⟨value, member, exceeded⟩ := deep
  have present : value ∈ (((trustingRun lone double true false).syncCall repr trustingProfile).result
      trustingConfig pushed).entries.map Prod.snd := by
    rw [stored]
    simp only [List.mem_cons, List.not_mem_nil, or_false] at member
    rcases member with rfl | rfl | rfl <;> simp [PushedRouting.entries]
  rw [syncOn, again]
  simp only [bind, Except.bind]
  rw [RecursionLimit.dumps, if_pos (List.any_eq_true.mpr ⟨value, present, exceeded⟩)]
  rfl

theorem answeredSync (loaded : contents.load trustingConfig trustingProfile = .ok pushed) (typed : pushed.WellTyped)
    (refreshable : pushed.Refreshable limit) : ∃ next result,
      syncOn limit trustingConfig ((trustingRun lone double true true).syncCall repr trustingProfile) contents =
        .ok next ∧
      next.load trustingConfig trustingProfile = .ok result ∧ result.WellTyped ∧
      result.domains = texts ["a.example.com"] ∧ result.dns = pushed.dns := by
  let call := (trustingRun lone double true true).syncCall repr trustingProfile
  have again : contents.load trustingConfig call.profile = .ok pushed := loaded
  have lists : call.lists = .ok { routes := [], domains := ["a.example.com"], version := "" } := by
    have domains : collect normalizePushedDomain (stringItems (some (texts ["a.example.com"]))) =
        ["a.example.com"] := by decide +kernel
    change Except.ok (SyncLists.mk [] _ "") = _
    rw [← domains]
    rfl
  refine ⟨Function.update contents (pushedPath trustingConfig trustingProfile)
    (.text (.value (.dict (call.result trustingConfig pushed).entries))), call.result trustingConfig pushed, ?_, ?_,
    result_wellTyped call trustingConfig typed, ?_, ?_⟩
  · have flat : limit.dumps ((((trustingRun lone double true true).syncCall repr trustingProfile).result
        trustingConfig pushed).entries.map Prod.snd) = .ok () :=
      dumps_flat (result_flat _ trustingConfig typed refreshable)
    rw [syncOn, again]
    simp only [bind, Except.bind, flat]
    rfl
  · rw [PushedContents.load, Function.update_self, loadPushedContent, ofEntries_entries]
  · rw [SyncCall.result, lists]
  · rw [SyncCall.result, lists]

theorem idle_refresh {Digest : Type} [DecidableEq Digest] (digest : List PushedPart → Digest) :
    refreshServerRoutesOn digest repr limit (trustingRun lone double false answered) contents
        { config := trustingConfig } =
      applyChangedOn digest repr limit (trustingRun lone double false answered) contents
        { config := trustingConfig } := rfl

end Sync

end Unsound

def PushedContents.Hold (held : Set StateContent) (contents : PushedContents) (config : AppConfig) : Prop :=
  ∀ profile ∈ config.upstream.profiles, contents (pushedPath config profile) ∈ held

/-- Every load returns lists of strings and integer times, and no reader raises because of a file. -/
structure NeverBreaks {Digest : Type} [DecidableEq Digest] (digest : List PushedPart → Digest)
    (repr : Json → String) (limit : RecursionLimit) (lone : LoneSurrogates) (held : Set StateContent) : Prop where
  loads : ∀ (config : AppConfig) (contents : PushedContents), contents.Hold held config →
    ∀ profile ∈ config.upstream.profiles, ∃ pushed, contents.load config profile = .ok pushed ∧ pushed.WellTyped
  targets : ∀ (files : Files) (config : AppConfig) (contents : PushedContents), contents.Hold held config →
    ∀ defaultInterface, Undamaged (listTargetsOn contents files config defaultInterface)
  fingerprint : ∀ (files : Files) (config : AppConfig) (contents : PushedContents), contents.Hold held config →
    Undamaged (fingerprintOn digest limit contents files config)
  refresh : ∀ (run : RefreshRun lone) (contents : PushedContents) (state : PushedState Digest),
    contents.Hold held state.config → state.config.PlainHosts lone →
      Undamaged (refreshServerRoutesOn digest repr limit run contents state)

section

variable {Digest : Type} [DecidableEq Digest] {digest : List PushedPart → Digest} {repr : Json → String}
  {limit : RecursionLimit} {lone : LoneSurrogates} {held : Set StateContent} {content : StateContent}

theorem NeverBreaks.sound (unbroken : NeverBreaks digest repr limit lone held) (member : content ∈ held) :
    SoundContent lone limit content := by
  let contents : PushedContents := fun _ => content
  have hold : contents.Hold held trustingConfig := fun _ _ => member
  have raisesNothing {now : ℚ} (double : toDouble now = now) (connected answered : Bool) :
      Undamaged (refreshServerRoutesOn digest repr limit (trustingRun lone double connected answered) contents
        { config := trustingConfig }) := unbroken.refresh _ contents _ hold (trustingConfig_plain lone)
  obtain ⟨pushed, loaded, typed⟩ :=
    unbroken.loads trustingConfig contents hold trustingProfile (List.mem_cons_self ..)
  obtain ⟨lists, isTrusted⟩ := trusted loaded typed.lists
  have fits : fitsFloat pushed.syncedAt := by
    cases time : pushed.syncedAt with
    | int number =>
        refine Nat.lt_of_not_le fun large => ?_
        have turn := @trusting_turn lone limit contents pushed repr 0 toDouble_zero false loaded
        rw [time, RefreshRun.isDue, if_pos large] at turn
        have raised := raisesNothing toDouble_zero true false
        rw [refreshServerRoutesOn, trusting_turns turn] at raised
        exact absurd (raised .overflowError rfl) (by decide)
    | _ => trivial
  have flat : ∀ value ∈ [pushed.source, pushed.version, pushed.interface], limit.exceeded value = false := by
    intro value inRecord
    refine Bool.eq_false_iff.mpr fun exceeded => ?_
    obtain ⟨now, double, due⟩ := trusting_due lone false typed.syncedAt fits
    have turn := @trusting_turn lone limit contents pushed repr now double false loaded
    rw [due] at turn
    have raised := raisesNothing double true false
    rw [refreshServerRoutesOn,
      trusting_turns (turn.trans (failedSync_raises loaded ⟨value, inRecord, exceeded⟩))] at raised
    exact absurd (raised .recursionError rfl) (by decide)
  have refreshable : pushed.Refreshable limit := ⟨fits, flat _ (by simp), flat _ (by simp), flat _ (by simp)⟩
  -- what a record with routes or domains gets into a file is written as it is loaded
  have writes {text : String} (nonempty : pushed.isEmpty = false)
      (written : text ∈ (trustedTarget pushed lists).hostElements ∨
        text ∈ (trustedTarget pushed lists).hostNames trustingConfig) : lone.encodes text = true := by
    refine Bool.eq_true_of_not_eq_false fun surrogate => ?_
    have raised := raisesNothing toDouble_zero false false
    rw [idle_refresh, isTrusted.raises digest repr limit nonempty surrogate written] at raised
    exact absurd (raised .unicodeEncodeError rfl) (by decide)
  refine soundContent_iff.mpr ⟨pushed, loaded, typed, refreshable, ?_, ?_, ?_, ?_⟩
  · intro route member family
    exact writes (isTrusted.nonempty (Or.inl (mergeUnique_source member)))
      (Or.inl (isTrusted.route (isTrusted.listedRoute member) family))
  · intro domain member
    exact writes (isTrusted.nonempty (Or.inr (mergeUnique_source member))) (Or.inr (isTrusted.domain member))
  · intro servers domain member
    obtain ⟨server, isServer⟩ := List.exists_mem_of_ne_nil _ servers
    exact writes (isTrusted.nonempty (Or.inr (List.ne_nil_of_mem member)))
      (Or.inr (isTrusted.pair member isServer (Or.inl rfl)))
  · -- a sync may bring the first domain
    intro server member
    refine Bool.eq_true_of_not_eq_false fun surrogate => ?_
    obtain ⟨now, double, due⟩ := trusting_due lone true typed.syncedAt fits
    obtain ⟨next, result, stored, reloaded, resultTyped, domains, dns⟩ :=
      @answeredSync lone limit contents pushed repr now double loaded typed refreshable
    obtain ⟨lists, isTrusted⟩ := trusted reloaded resultTyped.lists
    have inDomains : "a.example.com" ∈ stringItems (some result.domains) := by
      rw [domains, stringItems_texts]
      exact List.mem_cons_self ..
    have turn := @trusting_turn lone limit contents pushed repr now double true loaded
    rw [due] at turn
    have raised := raisesNothing double true true
    rw [refreshServerRoutesOn, trusting_turns (turn.trans stored)] at raised
    have fails := @Trusted.raises lone next result lists server Digest now double true true _ isTrusted digest repr
      limit (isTrusted.nonempty (Or.inr (List.ne_nil_of_mem inDomains))) surrogate
      (Or.inr (isTrusted.pair inDomains (by rwa [dns]) (Or.inr rfl)))
    exact absurd (raised .unicodeEncodeError fails) (by decide)

end

/-- Whatever the files of the profiles may hold: nothing breaks exactly when each of it is sound. -/
theorem pushedFiles_iff {Digest : Type} [DecidableEq Digest] (digest : List PushedPart → Digest)
    (repr : Json → String) (limit : RecursionLimit) (lone : LoneSurrogates) (held : Set StateContent) :
    NeverBreaks digest repr limit lone held ↔ ∀ content ∈ held, SoundContent lone limit content := by
  constructor
  · exact fun unbroken content member => unbroken.sound member
  · intro sound
    have contentsSound {config : AppConfig} {contents : PushedContents} (hold : contents.Hold held config) :
        SoundContents lone limit config contents := fun profile member => sound _ (hold profile member)
    constructor
    · intro config contents hold profile member
      obtain ⟨pushed, loaded, isSound⟩ := (contentsSound hold).load member
      exact ⟨pushed, loaded, isSound.typed⟩
    · exact fun files config contents hold => undamaged_listTargetsOn (contentsSound hold) files
    · intro files config contents hold
      obtain ⟨all, readable⟩ := (contentsSound hold).effectiveAll (List.Subset.refl _)
      rw [fingerprintOn_ok digest (fun _ member => ((contentsSound hold).effective files member).typed.lists) readable]
      exact failsOnly_ok _
    · exact fun run contents state hold plain => undamaged_refresh digest repr run state (contentsSound hold) plain

def numberedRoutes : StateContent := .text (.value (.dict [("routes", .int 5)]))

theorem numberedRoutes_raises : trustingConfig.Valid ∧
    listTargetsOn (fun _ => numberedRoutes) {} trustingConfig "eth0" = .error .typeError ∧
    ∀ limit lone, ¬NeverBreaks (fun parts => parts.length) (fun _ => "") limit lone {numberedRoutes} := by
  have raised : listTargetsOn (fun _ => numberedRoutes) {} trustingConfig "eth0" = .error .typeError := by rfl
  refine ⟨trustingConfig_valid, raised, fun limit lone unbroken => ?_⟩
  have undamaged := unbroken.targets {} trustingConfig (fun _ => numberedRoutes) (fun _ _ => rfl) "eth0"
  exact absurd (undamaged _ raised) (by decide)

end Korserver
