import Korserver.NftablesService
import Korserver.UnexpectedStateCore

/-!
Which probe outputs and state files `NftablesService.apply` copes with.
-/

namespace Korserver

open PythonText PythonValue PacketFilter

def isHashable : Json → Bool
  | .list _ => false
  | .dict _ => false
  | _ => true

/-- A set in an item of the listing is a dictionary with a name. -/
def WalkableItem (item : Json) : Prop :=
  ∀ entries set, item = .dict entries → lookup "set" entries = some set →
    ∃ inner name, set = .dict inner ∧ lookup "name" inner = some name ∧ isHashable name = true

def WalkableListing (data : Json) : Prop :=
  ∃ entries, data = .dict entries ∧ ∀ listing, lookup "nftables" entries = some listing →
    (∃ text, listing = .str text) ∨ (∃ others, listing = .dict others) ∨
      ∃ items, listing = .list items ∧ ∀ item ∈ items, WalkableItem item

/-- The probe fails, prints no JSON, or prints a dictionary with a listing. -/
def UsableProbe : ProbeOutput → Prop
  | .failed => True
  | .undecodable => False
  | .printed .valueError => True
  | .printed .recursionError => False
  | .printed (.value data) => WalkableListing data

/-- A record with a mark that can stand on a command line and with the number of a table. -/
def CleanableEntry (reprOf : Json → String) (info : Json) : Prop :=
  ∃ entries fwmark table, info = .dict entries ∧ lookup "fwmark" entries = some fwmark ∧
    lookup "table_id" entries = some table ∧ isArgument (fwmark.pyStr reprOf) = true ∧
    (readInt (table.pyStr reprOf)).isSome = true

/-- There is no file, it holds no JSON, or it holds a dictionary with a record for every target that
is no longer there. -/
def UsableState (reprOf : Json → String) (names : List String) : StateContent → Prop
  | .missing => True
  | .unreadable => True
  | .text .valueError => True
  | .text .recursionError => False
  | .text (.value json) => ∃ entries, json = .dict entries ∧
      ∀ entry ∈ dictOf entries, entry.1 ∉ names → CleanableEntry reprOf entry.2

/-- The texts of a list that holds nothing else. -/
def allTexts : List Json → Option (List String)
  | [] => some []
  | .str text :: rest => (allTexts rest).map (text :: ·)
  | _ => none

theorem allTexts_some {items : List Json} {names : List String} :
    allTexts items = some names ↔ items = names.map Json.str := by
  induction items generalizing names with
  | nil => cases names <;> simp [allTexts]
  | cons item rest ih =>
      cases names with
      | nil => cases item <;> simp [allTexts]
      | cons name more => cases item <;> simp [allTexts, ih, and_comm]

theorem allTexts_none {items : List Json} (mixed : allTexts items = none) :
    ∃ item ∈ items, ∀ text, Json.isText text item = false := by
  induction items with
  | nil => cases mixed
  | cons item rest ih =>
      cases item with
      | str text =>
          rw [allTexts, Option.map_eq_none_iff] at mixed
          obtain ⟨other, member, different⟩ := ih mixed
          exact ⟨other, by simp [member], different⟩
      | _ => exact ⟨_, List.mem_cons_self, fun _ => rfl⟩

theorem allTexts_append (first second : List Json) :
    allTexts (first ++ second) =
      (allTexts first).bind fun names => (allTexts second).map (names ++ ·) := by
  induction first with
  | nil => cases texts : allTexts second <;> simp [allTexts, texts]
  | cons item rest ih =>
      cases item with
      | str text =>
          rw [List.cons_append, allTexts, allTexts, ih]
          cases allTexts rest <;> cases allTexts second <;> rfl
      | _ => rfl

theorem sameNames_texts (current : List Json) (expected : List String) :
    sameNames current expected = (allTexts current).any fun names => sameMembers names expected := by
  cases texts : allTexts current with
  | some names =>
      have within (text : String) (others : List String) :
          others.any (fun other => text == other) = decide (text ∈ others) := by
        rw [Bool.eq_iff_iff]
        simp
      rw [allTexts_some.mp texts, Option.any_some]
      simp only [sameNames, sameMembers, List.all_map, List.any_map, Function.comp_def, Json.isText, within]
      congr 2
      funext text
      rw [← within]
      refine congrArg names.any (funext fun other => ?_)
      rw [Bool.beq_comm]
  | none =>
      obtain ⟨item, member, different⟩ := allTexts_none texts
      rw [sameNames, Option.any_none, Bool.and_eq_false_iff]
      left
      rw [List.all_eq_false]
      exact ⟨item, member, by simp [different]⟩

/-- An item is read exactly when it can be walked, and then it has the names of the listing. -/
theorem setName_cases (item : Json) :
    (WalkableItem item ∧ ∃ names, setName item = .ok names ∧ listedName item = allTexts names) ∨
      (¬WalkableItem item ∧ ∃ error, setName item = .error error) := by
  by_cases holds : ∃ entries set, item = .dict entries ∧ lookup "set" entries = some set
  · obtain ⟨entries, set, rfl, there⟩ := holds
    have walkable : WalkableItem (.dict entries) ↔ ∃ inner name, set = .dict inner ∧
        lookup "name" inner = some name ∧ isHashable name = true := by
      constructor
      · exact fun walk => walk entries set rfl there
      · rintro named _ other ⟨⟩ found
        rw [there] at found
        cases found
        exact named
    rw [walkable]
    simp only [setName, listedName, there]
    cases set with
    | dict inner =>
        cases named : lookup "name" inner with
        | none => simp [named]
        | some name => cases name <;> simp [named, isHashable, allTexts]
    | _ => simp
  · left
    refine ⟨fun entries set same there => absurd ⟨entries, set, same, there⟩ holds, ?_⟩
    cases item with
    | dict entries =>
        cases there : lookup "set" entries with
        | none => exact ⟨[], by rw [setName, there], by rw [listedName, there]; rfl⟩
        | some set => exact absurd ⟨entries, set, rfl, there⟩ holds
    | _ => exact ⟨[], rfl, rfl⟩

theorem setNames_cases (items : List Json) :
    ((∀ item ∈ items, WalkableItem item) ∧
        ∃ names, setNames items = .ok names ∧ listedNames items = allTexts names) ∨
      (¬(∀ item ∈ items, WalkableItem item) ∧ ∃ error, setNames items = .error error) := by
  induction items with
  | nil => exact .inl ⟨List.forall_mem_nil _, [], rfl, rfl⟩
  | cons item rest ih =>
      rw [List.forall_mem_cons]
      rcases setName_cases item with ⟨walkable, names, read, listed⟩ | ⟨blocked, error, failed⟩
      · rcases ih with ⟨restWalkable, more, restRead, restListed⟩ | ⟨restBlocked, error, restFailed⟩
        · refine .inl ⟨⟨walkable, restWalkable⟩, names ++ more, ?_, ?_⟩
          · rw [setNames, read, restRead]
            rfl
          · rw [listedNames, listed, restListed, allTexts_append]
            cases allTexts names <;> cases allTexts more <;> rfl
        · refine .inr ⟨fun both => restBlocked both.2, error, ?_⟩
          rw [setNames, read, restFailed]
          rfl
      · refine .inr ⟨fun both => blocked both.1, error, ?_⟩
        rw [setNames, failed]
        rfl

theorem setNames_noDict {items : List Json} (plain : ∀ item ∈ items, ∃ text, item = .str text) :
    setNames items = .ok [] := by
  induction items with
  | nil => rfl
  | cons item rest ih =>
      obtain ⟨text, rfl⟩ := plain item (by simp)
      rw [setNames, ih fun other member => plain other (by simp [member])]
      rfl

theorem sameNames_nil {expected : List String} (some_ne : expected ≠ []) :
    sameNames [] expected = false := by
  cases expected with
  | nil => exact absurd rfl some_ne
  | cons first rest => rfl

theorem currentSets_list {entries : List (String × Json)} {items : List Json}
    (found : lookup "nftables" entries = some (.list items)) :
    currentSets (.dict entries) = setNames items := by
  rw [currentSets, found]
  rfl

/-- A listing that can be walked is compared as it is meant to be; any other raises. -/
theorem currentSets_cases (data : Json) {expected : List String} (some_ne : expected ≠ []) :
    (WalkableListing data ∧ ∃ current, currentSets data = .ok current ∧
        sameNames current expected = listsExactly expected (.printed (.value data))) ∨
      (¬WalkableListing data ∧ ∃ error, currentSets data = .error error) := by
  cases data with
  | dict entries =>
      have walkable : WalkableListing (.dict entries) ↔ ∀ listing, lookup "nftables" entries = some listing →
          (∃ text, listing = .str text) ∨ (∃ others, listing = .dict others) ∨
            ∃ items, listing = .list items ∧ ∀ item ∈ items, WalkableItem item := by
        constructor
        · rintro ⟨_, ⟨⟩, walk⟩
          exact walk
        · exact fun walk => ⟨entries, rfl, walk⟩
      rw [walkable]
      cases found : lookup "nftables" entries with
      | none =>
          refine .inl ⟨fun _ impossible => (Option.some_ne_none _ impossible.symm).elim, [], ?_, ?_⟩
          · rw [currentSets, found]
            rfl
          · rw [sameNames_nil some_ne, listsExactly, tableListing, found]
            rfl
      | some listing =>
          simp only [Option.some.injEq, forall_eq']
          cases listing with
          | list items =>
              rcases setNames_cases items with ⟨walk, names, read, listed⟩ | ⟨blocked, error, failed⟩
              · refine .inl ⟨.inr (.inr ⟨items, rfl, walk⟩), names, ?_, ?_⟩
                · rw [currentSets_list found, read]
                · rw [sameNames_texts, listsExactly, tableListing, found]
                  dsimp only
                  rw [listed]
              · refine .inr ⟨?_, error, ?_⟩
                · rintro (⟨text, ⟨⟩⟩ | ⟨others, ⟨⟩⟩ | ⟨_, ⟨⟩, walk⟩)
                  exact blocked walk
                · rw [currentSets_list found, failed]
          | str text =>
              refine .inl ⟨.inl ⟨text, rfl⟩, [], ?_, ?_⟩
              · rw [currentSets, found]
                exact setNames_noDict fun item member => by
                  obtain ⟨c, -, rfl⟩ := List.mem_map.mp member
                  exact ⟨_, rfl⟩
              · rw [sameNames_nil some_ne, listsExactly, tableListing, found]
                rfl
          | dict others =>
              refine .inl ⟨.inr (.inl ⟨others, rfl⟩), [], ?_, ?_⟩
              · rw [currentSets, found]
                exact setNames_noDict fun item member => by
                  obtain ⟨entry, -, rfl⟩ := List.mem_map.mp member
                  exact ⟨_, rfl⟩
              · rw [sameNames_nil some_ne, listsExactly, tableListing, found]
                rfl
          | _ =>
              refine .inr ⟨by simp, .typeError, ?_⟩
              rw [currentSets, found]
              rfl
  | _ => exact .inr ⟨by simp [WalkableListing], .attributeError, rfl⟩

section

variable {reprOf : Json → String} {names : List String}

theorem cleanable_iff {info : Json} :
    CleanableEntry reprOf info ↔
      ∃ recorded, staleInstance reprOf info = .ok recorded ∧ isArgument recorded.1 = true := by
  constructor
  · rintro ⟨entries, fwmark, table, rfl, markFound, tableFound, argument, readable⟩
    obtain ⟨number, read⟩ := Option.isSome_iff_exists.mp readable
    exact ⟨(fwmark.pyStr reprOf, number), by rw [staleInstance, markFound, tableFound]; simp [read], argument⟩
  · rintro ⟨recorded, read, argument⟩
    cases info with
    | dict entries =>
        rw [staleInstance] at read
        split at read
        · rename_i fwmark table markFound tableFound
          split at read
          · rename_i number readable
            cases read
            exact ⟨entries, fwmark, table, rfl, markFound, tableFound, argument, by rw [readable]; rfl⟩
          · cases read
        · cases read
    | _ => cases read

theorem recordedInstances_iff {items : List (String × Json)} :
    (∃ instances, recordedInstances reprOf names items = some instances) ↔
      ∀ entry ∈ items, entry.1 ∉ names → CleanableEntry reprOf entry.2 := by
  induction items with
  | nil => exact ⟨fun _ => List.forall_mem_nil _, fun _ => ⟨[], rfl⟩⟩
  | cons entry rest ih =>
      obtain ⟨name, info⟩ := entry
      rw [List.forall_mem_cons, recordedInstances]
      by_cases known : name ∈ names
      · simp only [known, if_true, ih, not_true_eq_false, false_imp_iff, true_and]
      · rw [← ih, cleanable_iff]
        simp only [known, if_false, not_false_eq_true, true_imp_iff]
        constructor
        · rintro ⟨instances, recorded⟩
          split at recorded
          · rename_i own read
            split at recorded
            · rename_i argument
              obtain ⟨more, others, -⟩ := Option.map_eq_some_iff.mp recorded
              exact ⟨⟨own, read, argument⟩, more, others⟩
            · cases recorded
          · cases recorded
        · rintro ⟨⟨own, read, argument⟩, more, others⟩
          refine ⟨own :: more, ?_⟩
          rw [read]
          simp [argument, others]

theorem cleanupItems_cases (items : List (String × Json)) (tables : PolicyTables) :
    (∃ instances, recordedInstances reprOf names items = some instances ∧
        cleanupItems reprOf names items tables = .ok (cleanupInstances instances tables)) ∨
      (recordedInstances reprOf names items = none ∧
        ∃ error, cleanupItems reprOf names items tables = .error error) := by
  induction items generalizing tables with
  | nil => exact .inl ⟨[], rfl, rfl⟩
  | cons entry rest ih =>
      obtain ⟨name, info⟩ := entry
      rw [recordedInstances, cleanupItems]
      by_cases known : name ∈ names
      · rw [if_pos known, if_pos known]
        exact ih tables
      · rw [if_neg known, if_neg known]
        cases read : staleInstance reprOf info with
        | error error => exact .inr ⟨rfl, error, rfl⟩
        | ok own =>
            obtain ⟨fwmark, table⟩ := own
            by_cases argument : isArgument fwmark = true
            · rcases ih (cleanupInstance fwmark table tables) with ⟨more, recorded, cleaned⟩ |
                ⟨unread, error, failed⟩
              · refine .inl ⟨(fwmark, table) :: more, by simp [argument, recorded], ?_⟩
                change (runCleanup fwmark table tables >>= cleanupItems reprOf names rest) = _
                rw [runCleanup, if_pos argument]
                exact cleaned
              · refine .inr ⟨by simp [argument, unread], error, ?_⟩
                change (runCleanup fwmark table tables >>= cleanupItems reprOf names rest) = _
                rw [runCleanup, if_pos argument]
                exact failed
            · refine .inr ⟨by simp [argument], .valueError "argv must contain non-empty strings", ?_⟩
              change (runCleanup fwmark table tables >>= cleanupItems reprOf names rest) = _
              rw [runCleanup, if_neg argument]
              rfl

end

section

variable (reprOf : Json → String) (config : AppConfig) (targets : List RoutingTarget)

def cleanedHost (state : StateContent) (host : HostState) : HostState :=
  { host with
    policy := cleanupInstances (usableInstances reprOf (targetNames targets) state) host.policy
    stateFiles := Function.update host.stateFiles (targetsStatePath config) (.stored (targetsState targets)) }

theorem cleanupRecorded_cases (state : StateContent) (host : HostState) :
    (UsableState reprOf (targetNames targets) state ∧
        cleanupRecorded reprOf config targets state host =
          .ok (cleanedHost reprOf config targets state host)) ∨
      (¬UsableState reprOf (targetNames targets) state ∧
        ∃ error, cleanupRecorded reprOf config targets state host = .error error) := by
  cases state with
  | missing => exact .inl ⟨trivial, rfl⟩
  | unreadable => exact .inl ⟨trivial, rfl⟩
  | text loaded =>
      cases loaded with
      | valueError => exact .inl ⟨trivial, rfl⟩
      | recursionError => exact .inr ⟨id, .recursionError, rfl⟩
      | value json =>
          cases json with
          | dict entries =>
              have usable : UsableState reprOf (targetNames targets) (.text (.value (.dict entries))) ↔
                  ∃ instances, recordedInstances reprOf (targetNames targets) (dictOf entries) =
                    some instances := by
                rw [recordedInstances_iff]
                constructor
                · rintro ⟨_, ⟨⟩, walk⟩
                  exact walk
                · exact fun walk => ⟨entries, rfl, walk⟩
              rcases @cleanupItems_cases reprOf (targetNames targets) (dictOf entries) host.policy with
                ⟨instances, recorded, cleaned⟩ | ⟨unread, error, failed⟩
              · refine .inl ⟨usable.mpr ⟨instances, recorded⟩, ?_⟩
                have own : usableInstances reprOf (targetNames targets) (.text (.value (.dict entries))) =
                    instances := by
                  rw [usableInstances, recorded]
                  rfl
                change (raising (cleanupItems reprOf (targetNames targets) (dictOf entries) host.policy) >>=
                  _) = _
                rw [cleaned, cleanedHost, own]
                rfl
              · refine .inr ⟨?_, .raised error, ?_⟩
                · rw [usable, unread]
                  rintro ⟨_, ⟨⟩⟩
                · change (raising (cleanupItems reprOf (targetNames targets) (dictOf entries) host.policy) >>=
                    _) = _
                  rw [failed]
                  rfl
          | _ => exact .inr ⟨by simp [UsableState], .raised .attributeError, rfl⟩

end

/-! An apply. -/

section Apply

variable {answers : Answers} {reprOf : Json → String} {files : Files} {config : AppConfig}
  {outbound : Option String} {probe : ProbeOutput} {state : StateContent} {host : HostState}

/-- The apply raises nothing and does what it is meant to do: it loads the ruleset anew unless the probe
lists exactly the expected sets, installs the routing of every target and takes a state file that cannot
be used for an empty one. -/
def RobustApply (answers : Answers) (reprOf : Json → String) (files : Files) (config : AppConfig)
    (outbound : Option String) (probe : ProbeOutput) (state : StateContent) (host : HostState) : Prop :=
  ∃ outcome, probedApply answers reprOf files config outbound probe state host = .ok outcome ∧
    expectedApply answers reprOf files config outbound probe state host = .ok outcome

/-- nft takes the ruleset, or the sets are as expected and it takes the refresh. -/
def RulesTaken (answers : Answers) (files : Files) (config : AppConfig) (outbound : Option String)
    (expected : List String) (ruleset : Ruleset) (probe : ProbeOutput) (host : HostState) : Prop :=
  answers.acceptsRuleset ruleset = true ∨
    (listsExactly expected probe = true ∧ ∃ refresh refreshed,
      renderStaticRefresh files config outbound = .ok refresh ∧ answers.acceptsRefresh refresh = true ∧
        host.refresh refresh = some refreshed)

theorem expectedSetNames_ne {resolved : ResolvedTargets}
    (resolution : resolveTargets files config outbound = .ok resolved) :
    setNamesOf config resolved.targets ≠ [] := by
  obtain ⟨routes, domains, named, kept, -, -, -, rfl⟩ := resolveTargets_ok resolution
  simp [setNamesOf, targetSetNames]

theorem probedSetsReady_cases {resolved : ResolvedTargets}
    (resolution : resolveTargets files config outbound = .ok resolved) (probe : ProbeOutput) :
    (UsableProbe probe ∧ probedSetsReady files config outbound probe =
        .ok (listsExactly (setNamesOf config resolved.targets) probe)) ∨
      (¬UsableProbe probe ∧ ∃ error, probedSetsReady files config outbound probe = .error error) := by
  have expected : expectedSetNames files config outbound = .ok (setNamesOf config resolved.targets) := by
    rw [expectedSetNames, resolution]
    rfl
  rw [probedSetsReady, expected]
  cases probe with
  | failed => exact .inl ⟨trivial, rfl⟩
  | undecodable => exact .inr ⟨id, _, rfl⟩
  | printed loaded =>
      cases loaded with
      | valueError => exact .inl ⟨trivial, rfl⟩
      | recursionError => exact .inr ⟨id, _, rfl⟩
      | value data =>
          rcases currentSets_cases data (expectedSetNames_ne resolution) with
            ⟨walkable, current, read, same⟩ | ⟨blocked, error, failed⟩
          · refine .inl ⟨walkable, ?_⟩
            rw [← same]
            change (raising (currentSets data) >>= _) = _
            rw [read]
            rfl
          · refine .inr ⟨blocked, .raised error, ?_⟩
            change (raising (currentSets data) >>= _) = _
            rw [failed]
            rfl

theorem recreate_rendered {ruleset : Ruleset} (rendered : render files config outbound = .ok ruleset)
    (host : HostState) : recreate answers files config outbound host =
      .ok (if answers.acceptsRuleset ruleset then (.recreated, host.load ruleset) else (.failed, host)) := by
  rw [recreate, applyFullRecreate, rendered]
  by_cases accepted : answers.acceptsRuleset ruleset = true
  · rw [if_pos accepted]
    simp only [bind, Except.bind, pure, Except.pure, accepted, if_true]
  · rw [if_neg accepted]
    simp only [bind, Except.bind, pure, Except.pure, accepted, if_false, Bool.false_eq_true]

theorem loadRuleset_taken {ruleset : Ruleset} (rendered : render files config outbound = .ok ruleset)
    (expected : List String) (probe : ProbeOutput) (host : HostState) :
    ∃ result loaded, loadRuleset answers files config outbound (listsExactly expected probe) host =
        .ok (result, loaded) ∧
      (result ≠ .failed ↔ RulesTaken answers files config outbound expected ruleset probe host) := by
  have anew : ∃ result loaded, recreate answers files config outbound host = .ok (result, loaded) ∧
      (result ≠ .failed ↔ answers.acceptsRuleset ruleset = true) := by
    rw [recreate_rendered rendered]
    by_cases accepted : answers.acceptsRuleset ruleset = true
    · exact ⟨.recreated, host.load ruleset, by rw [if_pos accepted], by simp [accepted]⟩
    · exact ⟨.failed, host, by rw [if_neg accepted], by simp [accepted]⟩
  obtain ⟨result, loaded, recreated, taken⟩ := anew
  cases exact : listsExactly expected probe with
  | false =>
      refine ⟨result, loaded, recreated, ?_⟩
      simp [RulesTaken, exact, taken]
  | true =>
      obtain ⟨resolved, split, resolution, listed, -⟩ := render_ok rendered
      have static : renderStaticRefresh files config outbound =
          .ok (refreshOf config resolved.targets split) := by
        rw [renderStaticRefresh, resolution]
        change (hostSplitRoutesOf files config >>= _) = _
        rw [listed]
        rfl
      have attempt : applyStaticRefresh answers files config outbound host =
          .ok (if answers.acceptsRefresh (refreshOf config resolved.targets split) then
            host.refresh (refreshOf config resolved.targets split) else none) := by
        rw [applyStaticRefresh, static]
        rfl
      cases refreshed : (if answers.acceptsRefresh (refreshOf config resolved.targets split) then
          host.refresh (refreshOf config resolved.targets split) else none) with
      | none =>
          rw [refreshed] at attempt
          refine ⟨result, loaded, ?_, ?_⟩
          · simp only [loadRuleset, attempt, bind, Except.bind, if_true]
            exact recreated
          · rw [taken, RulesTaken]
            refine ⟨.inl, Or.rec id ?_⟩
            rintro ⟨-, refresh, after, rendering, accepted, done⟩
            obtain rfl : _ = refresh := Except.ok.inj (static.symm.trans rendering)
            rw [if_pos accepted, done] at refreshed
            cases refreshed
      | some after =>
          rw [refreshed] at attempt
          refine ⟨.refreshed, after, ?_, ?_⟩
          · simp only [loadRuleset, attempt, bind, Except.bind, if_true]
            rfl
          · refine iff_of_true (by decide) (.inr ⟨exact, _, after, static, ?_⟩)
            split at refreshed
            · exact ⟨‹_›, refreshed⟩
            · cases refreshed

/-- An apply whose rules can be rendered copes with the two inputs exactly when both can be read, the
state file being read once the rules are loaded. -/
theorem robustApply_iff {resolved : ResolvedTargets} {ruleset : Ruleset}
    (resolution : resolveTargets files config outbound = .ok resolved)
    (rendered : render files config outbound = .ok ruleset) :
    RobustApply answers reprOf files config outbound probe state host ↔
      UsableProbe probe ∧
        (RulesTaken answers files config outbound (setNamesOf config resolved.targets) ruleset probe host →
          UsableState reprOf (targetNames resolved.targets) state) := by
  have expected : expectedSetNames files config outbound = .ok (setNamesOf config resolved.targets) := by
    rw [expectedSetNames, resolution]
    rfl
  obtain ⟨result, loaded, load, taken⟩ := @loadRuleset_taken answers files config outbound ruleset rendered
    (setNamesOf config resolved.targets) probe host
  rw [RobustApply, ← taken]
  rcases probedSetsReady_cases resolution probe with ⟨usable, ready⟩ | ⟨blocked, error, failed⟩
  · simp only [probedApply, expectedApply, resolution, expected, ready, load, raising, bind, Except.bind]
    cases result with
    | failed => exact iff_of_true ⟨_, rfl, rfl⟩ ⟨usable, fun loads => absurd rfl loads⟩
    | _ =>
        rcases cleanupRecorded_cases reprOf config resolved.targets state
            (loaded.reassert answers.links config resolved.targets) with
          ⟨usableState, cleaned⟩ | ⟨stuck, error, failed⟩
        · rw [cleaned]
          exact iff_of_true ⟨_, rfl, rfl⟩ ⟨usable, fun _ => usableState⟩
        · rw [failed]
          refine iff_of_false ?_ ?_
          · rintro ⟨outcome, ⟨⟩, -⟩
          · exact fun both => stuck (both.2 (by decide))
  · refine iff_of_false ?_ fun both => blocked both.1
    rintro ⟨outcome, ran, -⟩
    simp only [probedApply, resolution, failed, raising, bind, Except.bind] at ran
    cases ran

theorem expectedApply_loads {ruleset : Ruleset} (rendered : render files config outbound = .ok ruleset)
    (accepted : answers.acceptsRuleset ruleset = true) {result : RulesetResult} {after : HostState}
    (ran : expectedApply answers reprOf files config outbound probe state host = .ok (result, after)) :
    result ≠ .failed := by
  simp only [expectedApply, bind_ok] at ran
  obtain ⟨resolved, -, expected, -, ⟨found, loaded⟩, load, ran⟩ := ran
  obtain ⟨outcome, there, loads, taken⟩ := @loadRuleset_taken answers files config outbound ruleset rendered
    expected probe host
  rw [loads] at load
  cases load
  have never : found ≠ .failed := taken.mpr (.inl accepted)
  cases found <;> simp only [pure_ok, Prod.mk.injEq] at ran
  · rw [← ran.1]
    exact never
  · rw [← ran.1]
    exact never
  · exact absurd rfl never

def sampleListing : ProbeOutput := .printed (.value (.dict [("nftables", .list [
  .dict [("metainfo", .dict [("json_schema_version", .int 1)])],
  .dict [("set", .dict [("family", .str "inet"), ("name", .str "routes_v4")])]])]))

def sampleRecords : StateContent := .text (.value (.dict [
  ("gone", .dict [("fwmark", .str "0x17b"), ("table_id", .int 379)])]))

theorem robustApply_iff_sample :
    RobustApply willingAnswers (fun _ => "") {} sampleConfig none sampleListing sampleRecords {} := by
  refine (robustApply_iff sampleResolved_ok sampleRuleset_ok).mpr ⟨⟨_, rfl, ?_⟩, fun _ => ⟨_, rfl, ?_⟩⟩
  · rintro listing ⟨⟩
    refine Or.inr (Or.inr ⟨_, rfl, ?_⟩)
    simp only [List.forall_mem_cons]
    refine ⟨?_, ?_, List.forall_mem_nil _⟩
    · rintro entries set ⟨⟩ ⟨⟩
    · rintro entries set ⟨⟩ ⟨⟩
      exact ⟨_, _, rfl, rfl, rfl⟩
  · intro entry member _
    obtain rfl := List.mem_singleton.mp member
    exact ⟨_, _, _, rfl, rfl, rfl, by decide +kernel, by decide +kernel⟩

/-- A probe that prints a list, where a dictionary is expected. -/
theorem listOutput_raises :
    ¬∀ (answers : Answers) (reprOf : Json → String) (files : Files) (config : AppConfig)
        (outbound : Option String) (ruleset : Ruleset) (probe : ProbeOutput) (state : StateContent)
        (host : HostState), config.Valid → render files config outbound = .ok ruleset →
      RobustApply answers reprOf files config outbound probe state host := by
  intro always
  obtain ⟨outcome, ran, -⟩ := always willingAnswers (fun _ => "") {} sampleConfig none sampleRuleset
    (.printed (.value (.list []))) .missing {} sampleConfig_valid sampleRuleset_ok
  have raised : probedApply willingAnswers (fun _ => "") {} sampleConfig none (.printed (.value (.list [])))
      .missing {} = .error (.raised .attributeError) := rfl
  rw [raised] at ran
  cases ran

end Apply

/-- What nft prints of a table, and the file as an earlier apply writes it. -/
def tableOutput (table : LiveTable) : Json :=
  .dict [("nftables", .list ([.dict [("metainfo", .dict [])]] ++ table.sets.map fun set =>
    .dict [("set", .dict [("family", .str "inet"), ("name", .str set.name)])]))]

def probeOf (answers : Answers) (config : AppConfig) (host : HostState) : ProbeOutput :=
  match host.inet (filterTable config) with
  | some table => if answers.probeWorks then .printed (.value (tableOutput table)) else .failed
  | none => .failed

def recordOf (routing : PolicyRouting) : Json :=
  .dict [("fwmark", .str routing.fwmark), ("table_id", .int routing.tableId)]

def contentOf : StateFile → StateContent
  | .missing => .missing
  | .malformed => .text .valueError
  | .stored entries => .text (.value (.dict (entries.map fun entry => (entry.1, recordOf entry.2))))

/-- One record a name, with a mark for the command line and a table that `int` reads. -/
def Recordable (entries : List (String × PolicyRouting)) : Prop :=
  (entries.map Prod.fst).Nodup ∧ ∀ entry ∈ entries, isArgument entry.2.fwmark = true ∧
    readInt (Nat.repr entry.2.tableId) = some (entry.2.tableId : Int)

theorem setNames_tableOutput (sets : List SetDeclaration) :
    setNames (sets.map fun set =>
        .dict [("set", .dict [("family", .str "inet"), ("name", .str set.name)])]) =
      .ok (sets.map fun set => .str set.name) := by
  induction sets with
  | nil => rfl
  | cons set rest ih =>
      have first : setName (.dict [("set", .dict [("family", .str "inet"), ("name", .str set.name)])]) =
          .ok [.str set.name] := by
        simp [setName, lookup]
      rw [List.map_cons, setNames, first, ih]
      rfl

section

variable {answers : Answers} {reprOf : Json → String} {files : Files} {config : AppConfig}
  {outbound : Option String} {host : HostState}

theorem probedSetsReady_probeOf : probedSetsReady files config outbound (probeOf answers config host) =
    raising (staticSetsReady answers files config outbound host) := by
  rw [probedSetsReady, staticSetsReady]
  cases expected : expectedSetNames files config outbound with
  | error error => rfl
  | ok names =>
      cases live : host.inet (filterTable config) with
      | none => simp [probeOf, live, raising, bind, Except.bind, pure, Except.pure]
      | some table =>
          by_cases works : answers.probeWorks = true
          · have read : currentSets (tableOutput table) = .ok ((table.sets.map (·.name)).map Json.str) := by
              have listing (items : List Json) : lookup "nftables" [("nftables", .list items)] =
                  some (.list items) := by
                simp [lookup]
              rw [tableOutput, currentSets_list (listing _), List.singleton_append, setNames,
                setNames_tableOutput, List.map_map]
              rfl
            have same : sameNames ((table.sets.map (·.name)).map Json.str) names =
                sameMembers (table.sets.map (·.name)) names := by
              rw [sameNames_texts, allTexts_some.mpr rfl]
              rfl
            simp only [probeOf, live, works, if_true, raising, bind, Except.bind, pure, Except.pure, read,
              same, Bool.true_and]
          · simp [probeOf, live, works, raising, bind, Except.bind, pure, Except.pure]

theorem cleanupItems_recordOf {names : List String} {entries : List (String × PolicyRouting)}
    (readable : ∀ entry ∈ entries, isArgument entry.2.fwmark = true ∧
      readInt (Nat.repr entry.2.tableId) = some (entry.2.tableId : Int)) (tables : PolicyTables) :
    cleanupItems reprOf names (entries.map fun entry => (entry.1, recordOf entry.2)) tables =
      .ok (cleanupEntries names entries tables) := by
  induction entries generalizing tables with
  | nil => rfl
  | cons entry rest ih =>
      obtain ⟨name, routing⟩ := entry
      have later := ih fun other member => readable other (by simp [member])
      obtain ⟨argument, number⟩ := readable (name, routing) (by simp)
      rw [List.map_cons, cleanupItems, cleanupEntries]
      by_cases known : name ∈ names
      · rw [if_pos known, if_pos known]
        exact later tables
      · rw [if_neg known, if_neg known]
        have read : staleInstance reprOf (recordOf routing) = .ok (routing.fwmark, (routing.tableId : Int)) := by
          have markFound : lookup "fwmark"
              [("fwmark", Json.str routing.fwmark), ("table_id", Json.int routing.tableId)] =
                some (.str routing.fwmark) := by
            simp [lookup]
          have tableFound : lookup "table_id"
              [("fwmark", Json.str routing.fwmark), ("table_id", Json.int routing.tableId)] =
                some (.int routing.tableId) := by
            simp [lookup]
          have written : (Json.int routing.tableId).pyStr reprOf = Nat.repr routing.tableId := rfl
          rw [recordOf, staleInstance, markFound, tableFound]
          dsimp only
          rw [written, number]
          rfl
        rw [read]
        change (runCleanup routing.fwmark routing.tableId tables >>= cleanupItems reprOf names _) = _
        rw [runCleanup, if_pos argument]
        exact later _

theorem cleanupRecorded_contentOf (targets : List RoutingTarget)
    (recordable : ∀ entries, host.stateFiles (targetsStatePath config) = .stored entries → Recordable entries) :
    cleanupRecorded reprOf config targets (contentOf (host.stateFiles (targetsStatePath config))) host =
      .ok (cleanupStaleTargets config targets host) := by
  rw [cleanupStaleTargets]
  cases file : host.stateFiles (targetsStatePath config) with
  | missing => rfl
  | malformed => rfl
  | stored entries =>
      obtain ⟨distinct, readable⟩ := recordable entries file
      have items : dictOf (entries.map fun entry => (entry.1, recordOf entry.2)) =
          entries.map fun entry => (entry.1, recordOf entry.2) :=
        dictOf_nodup (by rw [List.map_map]; exact distinct)
      change (raising (cleanupItems reprOf (targetNames targets) (dictOf _) host.policy) >>= _) = _
      rw [items, cleanupItems_recordOf readable]
      rfl

/-- On the output of the live table and on a file of an earlier apply, it is the apply of the other
modules. -/
theorem probedApply_refines
    (recordable : ∀ entries, host.stateFiles (targetsStatePath config) = .stored entries → Recordable entries) :
    probedApply answers reprOf files config outbound (probeOf answers config host)
        (contentOf (host.stateFiles (targetsStatePath config))) host =
      raising (nftablesApply answers files config outbound host) := by
  have loads : applyRuleset answers files config outbound host =
      staticSetsReady answers files config outbound host >>= fun ready =>
        loadRuleset answers files config outbound ready host := rfl
  rw [probedApply, nftablesApply, probedSetsReady_probeOf]
  cases resolution : resolveTargets files config outbound with
  | error error => rfl
  | ok resolved =>
      cases ready : staticSetsReady answers files config outbound host with
      | error error =>
          rw [loads, ready]
          rfl
      | ok there =>
          rw [loads, ready]
          cases load : loadRuleset answers files config outbound there host with
          | error error => simp only [raising, bind, Except.bind, load]
          | ok outcome =>
              obtain ⟨result, loaded⟩ := outcome
              have applied : applyRuleset answers files config outbound host = .ok (result, loaded) := by
                rw [loads, ready]
                exact load
              have same : (loaded.reassert answers.links config resolved.targets).stateFiles =
                  host.stateFiles := (applyRuleset_frame applied).2
              have cleaned : cleanupRecorded reprOf config resolved.targets
                  (contentOf (host.stateFiles (targetsStatePath config)))
                  (loaded.reassert answers.links config resolved.targets) =
                    .ok (cleanupStaleTargets config resolved.targets
                      (loaded.reassert answers.links config resolved.targets)) := by
                rw [← same]
                exact cleanupRecorded_contentOf _ (by rw [same]; exact recordable)
              cases result with
              | failed => simp only [raising, bind, Except.bind, load, pure, Except.pure]
              | _ =>
                  simp only [raising, bind, Except.bind, load, pure, Except.pure, cleaned]

end

end Korserver
