import Korserver.Config
import Korserver.UserConfig

/-!
The group policies of `config.yaml`: the files they are rendered to, and what the group endpoints
read of these.
-/

namespace Korserver

open PythonText IpAddress PythonValue UserConfig

/-- `GroupPolicyConfig` without the name that is shown. -/
structure GroupPolicyConfig where
  name : String
  routes : List String := []
  noRoutes : List String := []
  dns : List String := []
  splitDns : List String := []
  tunnelAllDns : Option Bool := none
  maxSameClients : Option Int := none
  sessionTimeout : Option Int := none
  idleTimeout : Option Int := none
  noUdp : Option Bool := none

def isGroupNameChar (c : Char) : Bool := isAlnum c || c == '_' || c == '.' || c == '@' || c == '-'

def GroupPolicyConfig.validateName (name : String) : Except String Unit :=
  check (matchesIdentifier isGroupNameChar isGroupNameChar 63 name = true)
    "identity.group_policies.name must be ocserv group-safe"

def GroupPolicyConfig.validatePositive (number : Option Int) : Except String Unit :=
  check (number.all (1 ≤ ·) = true) "input should be greater than or equal to 1"

def GroupPolicyConfig.validate (group : GroupPolicyConfig) : Except String Unit := do
  validateName group.name
  checkAll validateCidr group.routes
  checkAll validateCidr group.noRoutes
  checkAll validateIp group.dns
  checkAll validateDomain group.splitDns
  validatePositive group.maxSameClients
  validatePositive group.sessionTimeout
  validatePositive group.idleTimeout

def writeNumber (number : Option Int) : Except PyError Unit :=
  match number with
  | some number => do let _ ← numberText number
  | none => .ok ()

/-- The lines of `render_group_policy` behind its comments. -/
def GroupPolicyConfig.lines (group : GroupPolicyConfig) : List String :=
  group.routes.map (fun item => "route" ++ " = " ++ item) ++
    group.noRoutes.map (fun item => "no-route" ++ " = " ++ item) ++
    group.dns.map (fun item => "dns" ++ " = " ++ item) ++
    group.splitDns.map (fun item => "split-dns" ++ " = " ++ item) ++
    group.tunnelAllDns.toList.map (fun value => "tunnel-all-dns" ++ " = " ++ boolText value) ++
    group.maxSameClients.toList.map (fun value => "max-same-clients" ++ " = " ++ toString value) ++
    group.sessionTimeout.toList.map (fun value => "session-timeout" ++ " = " ++ toString value) ++
    group.idleTimeout.toList.map (fun value => "idle-timeout" ++ " = " ++ toString value) ++
    group.noUdp.toList.map (fun value => "no-udp" ++ " = " ++ boolText value)

def renderGroupPolicy (group : GroupPolicyConfig) : Except PyError String := do
  writeNumber group.maxSameClients
  writeNumber group.sessionTimeout
  writeNumber group.idleTimeout
  return join "\n" (generatedComment :: ("# Group policy: " ++ group.name) :: group.lines) ++ "\n"

def GroupPolicyConfig.settings (group : GroupPolicyConfig) : UserConfig where
  lists
    | .routes => group.routes
    | .noRoutes => group.noRoutes
    | .dns => group.dns
    | .splitDns => group.splitDns
    | _ => []
  numbers
    | .maxSameClients => group.maxSameClients
    | .sessionTimeout => group.sessionTimeout
    | .idleTimeout => group.idleTimeout
    | _ => none
  flags
    | .tunnelAllDns => group.tunnelAllDns
    | .noUdp => group.noUdp
    | _ => none

/-- What the group endpoints read of the rendered policy is the policy. -/
def PolicyRereads (group : GroupPolicyConfig) : Prop :=
  ∃ text, renderGroupPolicy group = .ok text ∧ (parseUserConfigFile text).modelValidate = .ok group.settings

/-- Every text of the policy stays on its line, without blanks around it. -/
structure PolicyFits (group : GroupPolicyConfig) : Prop where
  texts : ∀ text ∈ group.routes ++ group.noRoutes ++ group.dns ++ group.splitDns, OneLine text ∧ Stripped text
  numbers : ∀ number, some number ∈ [group.maxSameClients, group.sessionTimeout, group.idleTimeout] →
    (Nat.toDigits 10 number.natAbs).length ≤ maxIntDigits

def policyFields : List ConfigField :=
  [.list .routes, .list .noRoutes, .list .dns, .list .splitDns, .flag .tunnelAllDns, .number .maxSameClients,
    .number .sessionTimeout, .number .idleTimeout, .flag .noUdp]

section

variable {group : GroupPolicyConfig}

theorem policy_lines (group : GroupPolicyConfig) : group.lines = group.settings.directiveLines policyFields := by
  simp only [directiveLines, policyFields, List.flatMap_cons, List.flatMap_nil, List.append_nil, UserConfig.values,
    GroupPolicyConfig.settings, List.map_map, GroupPolicyConfig.lines, List.append_assoc]
  rfl

theorem policy_complete (group : GroupPolicyConfig) (field : ConfigField) (absent : field ∉ policyFields) :
    group.settings.values field = [] := by
  rcases field with field | field | field | field <;> cases field <;>
    first | rfl | exact absurd (by decide) absent

theorem writeNumber_iff {number : Option Int} :
    writeNumber number = .ok () ↔
      ∀ value, number = some value → (Nat.toDigits 10 value.natAbs).length ≤ maxIntDigits := by
  cases number with
  | none => exact ⟨fun _ _ given => absurd given (Option.some_ne_none _).symm, fun _ => rfl⟩
  | some number =>
      rw [writeNumber, writes_iff]
      constructor
      · rintro short value same
        obtain rfl := Option.some.inj same
        exact short
      · exact fun all => all number rfl

def policyHeader (group : GroupPolicyConfig) : String := generatedComment ++ "\n" ++ ("# Group policy: " ++ group.name)

theorem renderGroupPolicy_iff {text : String} :
    renderGroupPolicy group = .ok text ↔
      (∀ number, some number ∈ [group.maxSameClients, group.sessionTimeout, group.idleTimeout] →
        (Nat.toDigits 10 number.natAbs).length ≤ maxIntDigits) ∧
      text = policyHeader group ++ "\n" ++ fileText (group.settings.directiveLines policyFields) := by
  have written : join "\n" (generatedComment :: ("# Group policy: " ++ group.name) :: group.lines) ++ "\n" =
      policyHeader group ++ "\n" ++ fileText (group.settings.directiveLines policyFields) := by
    have behind := join_comment ("# Group policy: " ++ group.name) group.lines
    rw [join_comment, fileText, List.isEmpty_cons, if_neg Bool.false_ne_true, behind, policy_lines, policyHeader]
    simp only [String.append_assoc]
  simp only [List.mem_cons, List.not_mem_nil, or_false]
  rw [renderGroupPolicy, written, bind_ok]
  constructor
  · rintro ⟨⟨⟩, first, rest⟩
    obtain ⟨⟨⟩, second, rest⟩ := bind_ok.mp rest
    obtain ⟨⟨⟩, third, rest⟩ := bind_ok.mp rest
    refine ⟨?_, (pure_ok.mp rest).symm⟩
    rintro number (given | given | given)
    · exact writeNumber_iff.mp first number given.symm
    · exact writeNumber_iff.mp second number given.symm
    · exact writeNumber_iff.mp third number given.symm
  · rintro ⟨short, rfl⟩
    refine ⟨(), writeNumber_iff.mpr fun number given => short number (Or.inl given.symm), ?_⟩
    refine bind_ok.mpr ⟨(), writeNumber_iff.mpr fun number given => short number (Or.inr (Or.inl given.symm)), ?_⟩
    exact bind_ok.mpr
      ⟨(), writeNumber_iff.mpr fun number given => short number (Or.inr (Or.inr given.symm)), rfl⟩

theorem readDirective_comment {line : String} (comment : line.toList.head? = some '#') :
    readDirective line = none := by
  have cut : line.toList.takeWhile (· ≠ '#') = [] := by
    cases whole : line.toList with
    | nil => rfl
    | cons c rest =>
        rw [whole] at comment
        obtain rfl := Option.some.inj comment
        rfl
  rw [readDirective, cut]
  decide

theorem groupName_chars (valid : GroupPolicyConfig.validateName group.name = .ok ()) :
    ∀ c ∈ beforeDollar group.name.toList, isGroupNameChar c = true := by
  rw [GroupPolicyConfig.validateName, check_ok] at valid
  exact (matchesIdentifier_body (fun _ plain => plain) valid).2

theorem isGroupNameChar_whole {c : Char} (plain : isGroupNameChar c = true) : isLineBreak c = false := by
  simp only [isGroupNameChar, Bool.or_eq_true, beq_iff_eq] at plain
  rcases plain with (((alnum | rfl) | rfl) | rfl) | rfl
  · have range := isAlnum_range alnum
    exact (visible_of_range (by omega) (by omega)).2
  all_goals decide

theorem policyHeader_comments (valid : GroupPolicyConfig.validateName group.name = .ok ()) :
    ∀ line ∈ splitLines (policyHeader group ++ "\n"), readDirective line = none := by
  have chars := groupName_chars valid
  have comment (name : String) : readDirective ("# Group policy: " ++ name) = none := by
    refine readDirective_comment ?_
    have opens : "# Group policy: ".toList.head? = some '#' := by decide
    rw [String.toList_append, List.head?_append, opens]
    rfl
  have whole {name : String} (plain : ∀ c ∈ name.toList, isGroupNameChar c = true) :
      splitLines ("# Group policy: " ++ name ++ "\n") = ["# Group policy: " ++ name] := by
    refine splitLines_single fun c member => ?_
    rw [String.toList_append, List.mem_append] at member
    rcases member with inComment | inName
    · have plainComment : "# Group policy: ".toList.all (fun c => !isLineBreak c) = true := by decide +kernel
      simpa using List.all_eq_true.mp plainComment c inComment
    · exact isGroupNameChar_whole (plain c inName)
  rw [policyHeader, String.append_assoc, splitLines_append, generated_plain.1, List.forall_mem_append]
  refine ⟨List.forall_mem_singleton.mpr generated_plain.2, ?_⟩
  rw [beforeDollar] at chars
  split at chars
  · rename_i closes
    have name : group.name = String.ofList group.name.toList.dropLast ++ "\n" := by
      rw [← String.toList_inj, String.toList_append, String.toList_ofList]
      exact (List.dropLast_append_getLast? '\n' closes).symm
    rw [name, ← String.append_assoc, splitLines_append, whole (by rwa [String.toList_ofList]), List.forall_mem_append]
    refine ⟨List.forall_mem_singleton.mpr (comment _), ?_⟩
    decide +kernel
  · rw [whole chars]
    exact List.forall_mem_singleton.mpr (comment _)

/-! The settings are valid. -/

theorem validateCidr_route {value : String} (valid : validateCidr value = .ok ()) (stripped : Stripped value) :
    strip value ≠ "" ∧ validateRoute (strip value) = .ok value := by
  have network : (ipNetwork value).isSome = true := check_ok.mp valid
  rw [show strip value = value from stripped]
  constructor
  · rintro rfl
    exact absurd network (by decide)
  · rw [validateRoute]
    split
    · rfl
    · split
      · rfl
      · rw [validateNetwork, if_pos network]

theorem validateIp_item {value : String} (valid : Korserver.validateIp value = .ok ()) (stripped : Stripped value) :
    strip value ≠ "" ∧ UserConfig.validateIp (strip value) = .ok value := by
  have address : (ipAddress value).isSome = true := check_ok.mp valid
  rw [show strip value = value from stripped]
  constructor
  · rintro rfl
    exact absurd address (by decide)
  · rw [UserConfig.validateIp, if_pos address]

theorem validateDomain_item {value : String} (valid : Korserver.validateDomain value = .ok ())
    (stripped : Stripped value) : strip value ≠ "" ∧ UserConfig.validateDomain value = .ok value := by
  obtain ⟨domain, undotted⟩ := check_ok.mp valid
  have some_ne : value ≠ "" := by
    rintro rfl
    exact absurd domain (by decide)
  have kept : stripEnd '.' value = value := by
    rw [stripEnd]
    rcases List.eq_nil_or_concat value.toList with none | ⟨front, last, whole⟩
    · exact absurd (String.toList_eq_nil_iff.mp none) some_ne
    · have other : (last == '.') = false := by
        rw [beq_eq_false_iff_ne]
        rintro rfl
        exact undotted (by rw [whole]; simp)
      rw [whole, List.concat_eq_append, dropEndWhile_concat (p := (· == '.')) other, ← List.concat_eq_append,
        ← whole, String.ofList_toList]
  refine ⟨by rwa [show strip value = value from stripped], ?_⟩
  simp only [UserConfig.validateDomain, show strip value = value from stripped, kept]
  exact if_pos ⟨some_ne, domain⟩

theorem validatePositive_number {field : NumberField} (least : field.bounds = (1, none)) {number : Option Int}
    (valid : GroupPolicyConfig.validatePositive number = .ok ()) : validateNumber field number = .ok number := by
  cases number with
  | none => rfl
  | some number =>
      have positive : 1 ≤ number := by
        have all := check_ok.mp valid
        rwa [Option.all_some, decide_eq_true_eq] at all
      rw [validateNumber, least, if_neg (Int.not_lt.mpr positive)]
      rfl

theorem settings_valid (valid : group.validate = .ok ())
    (fits : ∀ text ∈ group.routes ++ group.noRoutes ++ group.dns ++ group.splitDns, OneLine text ∧ Stripped text) :
    group.settings.modelValidate = .ok group.settings := by
  simp only [GroupPolicyConfig.validate, andThen_ok, checkAll_ok] at valid
  obtain ⟨-, routes, noRoutes, dns, splitDns, clients, session, idle⟩ := valid
  simp only [List.forall_mem_append] at fits
  obtain ⟨⟨⟨routeFits, noRouteFits⟩, dnsFits⟩, splitFits⟩ := fits
  refine modelValidate_iff.mpr ⟨fun field => ?_, fun given => absurd rfl given⟩
  cases field with
  | list field =>
      cases field with
      | routes =>
          exact validateItems_same fun value member => validateCidr_route (routes value member) (routeFits value member).2
      | noRoutes =>
          exact validateItems_same fun value member =>
            validateCidr_route (noRoutes value member) (noRouteFits value member).2
      | dns => exact validateItems_same fun value member => validateIp_item (dns value member) (dnsFits value member).2
      | splitDns =>
          exact validateItems_same fun value member =>
            validateDomain_item (splitDns value member) (splitFits value member).2
      | _ => rfl
  | text field => rfl
  | number field =>
      cases field with
      | maxSameClients => exact validatePositive_number rfl clients
      | sessionTimeout => exact validatePositive_number rfl session
      | idleTimeout => exact validatePositive_number rfl idle
      | _ => rfl
  | flag field => rfl

theorem settings_texts {kind : String → Prop} :
    group.settings.EveryText kind ↔
      ∀ text ∈ group.routes ++ group.noRoutes ++ group.dns ++ group.splitDns, kind text := by
  simp only [List.forall_mem_append]
  constructor
  · intro every
    exact ⟨⟨⟨every.lists .routes, every.lists .noRoutes⟩, every.lists .dns⟩, every.lists .splitDns⟩
  · rintro ⟨⟨⟨routes, noRoutes⟩, dns⟩, splitDns⟩
    refine ⟨fun field => ?_, fun _ _ given => absurd given (Option.some_ne_none _).symm⟩
    cases field with
    | routes => exact routes
    | noRoutes => exact noRoutes
    | dns => exact dns
    | splitDns => exact splitDns
    | _ => exact List.forall_mem_nil _

theorem settings_printable (valid : group.validate = .ok ())
    (short : ∀ number, some number ∈ [group.maxSameClients, group.sessionTimeout, group.idleTimeout] →
      (Nat.toDigits 10 number.natAbs).length ≤ maxIntDigits) : group.settings.Printable := by
  simp only [GroupPolicyConfig.validate, andThen_ok, GroupPolicyConfig.validatePositive, check_ok] at valid
  obtain ⟨-, -, -, -, -, clients, session, idle⟩ := valid
  have natural {given : Option Int} (positive : given.all (1 ≤ ·) = true) {number : Int} (same : given = some number) :
      0 ≤ number := by
    rw [same, Option.all_some, decide_eq_true_eq] at positive
    omega
  simp only [List.mem_cons, List.not_mem_nil, or_false] at short
  intro field number given
  cases field with
  | maxSameClients => exact ⟨natural clients given, short number (Or.inl given.symm)⟩
  | sessionTimeout => exact ⟨natural session given, short number (Or.inr (Or.inl given.symm))⟩
  | idleTimeout => exact ⟨natural idle given, short number (Or.inr (Or.inr given.symm))⟩
  | _ => cases given

/-- `render_group_policy` and `parse_user_config_file`, for every valid policy. -/
theorem policyRereads_iff (valid : group.validate = .ok ()) : PolicyRereads group ↔ PolicyFits group := by
  have comments := policyHeader_comments (andThen_ok.mp valid).1
  have rereads (short : ∀ number, some number ∈ [group.maxSameClients, group.sessionTimeout, group.idleTimeout] →
      (Nat.toDigits 10 number.natAbs).length ≤ maxIntDigits) :=
    rereads_iff (settings_printable valid short) (show policyFields.Nodup by decide) (policy_complete group) comments
      fun fits => settings_valid valid (settings_texts.mp fits)
  constructor
  · rintro ⟨text, rendered, reread⟩
    obtain ⟨short, rfl⟩ := renderGroupPolicy_iff.mp rendered
    exact ⟨settings_texts.mp ((rereads short).mp reread), short⟩
  · rintro ⟨texts, short⟩
    exact ⟨_, renderGroupPolicy_iff.mpr ⟨short, rfl⟩, (rereads short).mpr (settings_texts.mpr texts)⟩

end

def admins : GroupPolicyConfig where
  name := "admins"
  routes := ["10.40.0.0/16"]
  splitDns := ["corp.example.com"]
  maxSameClients := some 2
  noUdp := some true

theorem policyRereads_iff_sample : PolicyRereads admins ↔ PolicyFits admins :=
  policyRereads_iff (by decide +kernel)

def scopedPolicy : GroupPolicyConfig where
  name := "admins"
  dns := ["fe80::1%eth0#lan"]

theorem scopedPolicy_loses : scopedPolicy.validate = .ok () ∧ ¬PolicyRereads scopedPolicy ∧
    ∃ text, renderGroupPolicy scopedPolicy = .ok text ∧ (parseUserConfigFile text).lists .dns = ["fe80::1%eth0"] := by
  have read (text : String) (rendered : renderGroupPolicy scopedPolicy = .ok text) :
      (parseUserConfigFile text).lists .dns = ["fe80::1%eth0"] := by
    obtain ⟨-, rfl⟩ := renderGroupPolicy_iff.mp rendered
    decide +kernel
  refine ⟨by decide +kernel, ?_, _, rfl, read _ rfl⟩
  rintro ⟨text, rendered, reread⟩
  have checked := (modelValidate_iff.mp reread).1 (.list .dns)
  rw [Validates, read text rendered] at checked
  exact absurd checked (by decide +kernel)

end Korserver
