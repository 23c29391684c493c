import Korserver.UntrustedLists
import Korserver.UserConfigValidation

/-!
Which settings of a user survive being written to their file and read again.
-/

namespace Korserver

open PythonText PythonValue UserConfig

/-- The settings are read back, and the file has no line that is not one of their directives. -/
def RoundTrips (config : UserConfig) : Prop :=
  ∃ text, renderUserConfig config = .ok text ∧ (parseUserConfigFile text).modelValidate = .ok config ∧
    splitLines text = generatedComment :: config.directiveLines ConfigField.all

def ShortNumbers (config : UserConfig) : Prop :=
  ∀ field number, config.numbers field = some number → (Nat.toDigits 10 number.natAbs).length ≤ maxIntDigits

structure FitsFile (config : UserConfig) : Prop where
  texts : config.EveryText OneLine
  numbers : ShortNumbers config

theorem writes_iff (number : Int) : (do let _ ← numberText number : Except PyError Unit) = .ok () ↔
    (Nat.toDigits 10 number.natAbs).length ≤ maxIntDigits := by
  rw [discard_ok, numberText]
  split
  · rename_i long
    constructor
    · rintro ⟨_, written⟩
      cases written
    · intro short
      omega
  · rename_i short
    exact ⟨fun _ => Nat.le_of_not_lt short, fun _ => ⟨_, rfl⟩⟩

theorem writeField_iff (config : UserConfig) :
    (∀ field ∈ ConfigField.all, config.writeField field = .ok ()) ↔ ShortNumbers config := by
  constructor
  · intro all field number given
    have written := all (.number field) (ConfigField.mem_all _)
    rw [writeField, given] at written
    exact (writes_iff number).mp written
  · intro short field _
    cases field with
    | number field =>
        rw [writeField]
        split
        · rename_i number given
          exact (writes_iff number).mpr (short field number given)
        · rfl
    | _ => rfl

theorem join_comment (comment : String) (lines : List String) :
    join "\n" (comment :: lines) ++ "\n" = comment ++ "\n" ++ fileText lines := by
  rw [fileText]
  cases lines with
  | nil => simp [join]
  | cons line rest =>
      rw [join_cons (List.cons_ne_nil _ _), List.isEmpty_cons, if_neg Bool.false_ne_true, String.append_assoc]

theorem generated_plain : splitLines (generatedComment ++ "\n") = [generatedComment] ∧
    readDirective generatedComment = none := by
  decide +kernel

theorem render_iff {config : UserConfig} {text : String} :
    renderUserConfig config = .ok text ↔
      ShortNumbers config ∧ text = generatedComment ++ "\n" ++ fileText (config.directiveLines ConfigField.all) := by
  rw [renderUserConfig, bind_ok]
  constructor
  · rintro ⟨⟨⟩, written, rest⟩
    exact ⟨(writeField_iff config).mp (forM_ok.mp written), by rw [← join_comment, pure_ok.mp rest]⟩
  · rintro ⟨short, rfl⟩
    exact ⟨(), forM_ok.mpr ((writeField_iff config).mpr short), by rw [join_comment]; rfl⟩

theorem isDomainChar_visible {c : Char} (plain : isDomainChar c = true) : isSpace c = false := by
  simp only [isDomainChar, Bool.or_eq_true, beq_iff_eq] at plain
  rcases plain with (alnum | rfl) | rfl
  · have range := isAlnum_range alnum
    exact (visible_of_range (by omega) (by omega)).1
  all_goals decide

theorem domain_stripped {value : String} (domain : matchesDomain value = true) (line : OneLine value) :
    Stripped value := by
  have chars := (matchesDomain_plain domain).mpr fun newline =>
    absurd (line.plain '\n' (List.mem_of_getLast? newline)).1 (by decide)
  rw [Stripped, strip, stripChars_none fun c member => isDomainChar_visible (chars c member), String.ofList_toList]

section

variable {data config : UserConfig}

theorem validated_stripped (valid : ∀ field, Validates data config field) (lines : config.EveryText OneLine) :
    config.EveryText fun text => OneLine text ∧ Stripped text := by
  constructor
  · intro field value member
    have line := lines.lists field value member
    obtain ⟨item, -, -, checked⟩ := validateItems_origin (valid (.list field)) value member
    have shape := validateItem_shape checked
    split at shape
    · exact ⟨line, domain_stripped shape.2.2 line⟩
    · exact ⟨line, by rw [Stripped, shape, strip_strip]⟩
  · intro field value given
    have checked : validateText field (data.texts field) = .ok (config.texts field) := valid (.text field)
    rw [given] at checked
    obtain ⟨text, old⟩ := validateText_none checked
    rw [old] at checked
    exact ⟨lines.texts field value given, by rw [Stripped, (validateText_some checked).1, strip_strip]⟩

theorem validateItem_again {field : ListField} {item value : String} (some_ne : strip item ≠ "")
    (checked : validateItem field item = .ok value) (stripped : Stripped value) :
    strip value ≠ "" ∧ validateItem field value = .ok value := by
  have shape := validateItem_shape checked
  have kept : strip value = value := stripped
  cases field with
  | splitDns =>
      obtain ⟨dots, value_ne, domain⟩ := shape
      have undotted : stripEnd '.' value = value := by
        rw [dots, stripEnd, stripEnd, String.toList_ofList, dropEndWhile, dropEndWhile, List.reverse_reverse,
          List.dropWhile_idempotent]
      refine ⟨by rwa [kept], ?_⟩
      simp only [validateItem, UserConfig.validateDomain, kept, undotted]
      exact if_pos ⟨value_ne, domain⟩
  | _ =>
      obtain rfl : value = strip item := shape
      refine ⟨by rwa [kept], ?_⟩
      rw [validateItem, kept]
      exact checked

theorem modelValidate_again (valid : data.modelValidate = .ok config)
    (fits : config.EveryText fun text => OneLine text ∧ Stripped text) : config.modelValidate = .ok config := by
  obtain ⟨fields, netmask⟩ := modelValidate_iff.mp valid
  refine modelValidate_iff.mpr ⟨fun field => ?_, netmask⟩
  cases field with
  | list field =>
      refine validateItems_same fun value member => ?_
      obtain ⟨item, -, some_ne, checked⟩ := validateItems_origin (fields (.list field)) value member
      exact validateItem_again some_ne checked (fits.lists field value member).2
  | text field =>
      have checked : validateText field (data.texts field) = .ok (config.texts field) := fields (.text field)
      change validateText field (config.texts field) = .ok (config.texts field)
      cases given : config.texts field with
      | none => rfl
      | some value =>
          rw [given] at checked
          obtain ⟨text, old⟩ := validateText_none checked
          rw [old] at checked
          obtain ⟨-, some_ne, content⟩ := validateText_some checked
          exact validateText_same (fits.texts field value given).2 some_ne content
  | number field =>
      have checked : validateNumber field (data.numbers field) = .ok (config.numbers field) := fields (.number field)
      change validateNumber field (config.numbers field) = .ok (config.numbers field)
      cases given : config.numbers field with
      | none => rfl
      | some number =>
          rw [given] at checked
          rwa [(validateNumber_some checked).1] at checked
  | flag field => rfl

theorem validated_natural (valid : ∀ field, Validates data config field) {field : NumberField} {number : Int}
    (given : config.numbers field = some number) : 0 ≤ number := by
  have checked : validateNumber field (data.numbers field) = .ok (config.numbers field) := valid (.number field)
  rw [given] at checked
  exact (validateNumber_some checked).2

theorem written_rereads (valid : data.modelValidate = .ok config) (short : ShortNumbers config) :
    (parseUserConfigFile (generatedComment ++ "\n" ++
        fileText (config.directiveLines ConfigField.all))).modelValidate = .ok config ↔
      config.EveryText fun text => OneLine text ∧ Stripped text := by
  have fields := (modelValidate_iff.mp valid).1
  have comments : ∀ line ∈ splitLines (generatedComment ++ "\n"), readDirective line = none := by
    rw [generated_plain.1]
    exact List.forall_mem_singleton.mpr generated_plain.2
  exact rereads_iff (fun field number given => ⟨validated_natural fields given, short field number given⟩)
    ConfigField.all_nodup (fun field absent => absurd (ConfigField.mem_all field) absent) comments
    (modelValidate_again valid)

theorem FitsFile.rereads (fits : FitsFile config) (valid : data.modelValidate = .ok config) {text : String}
    (rendered : renderUserConfig config = .ok text) : (parseUserConfigFile text).modelValidate = .ok config := by
  obtain ⟨short, rfl⟩ := render_iff.mp rendered
  exact (written_rereads valid short).mpr (validated_stripped (modelValidate_iff.mp valid).1 fits.texts)

/-- `render_user_config` and `parse_user_config_file`, for every value that validation gives. -/
theorem roundTrips_iff (valid : data.modelValidate = .ok config) : RoundTrips config ↔ FitsFile config := by
  constructor
  · rintro ⟨text, rendered, reread, -⟩
    obtain ⟨short, rfl⟩ := render_iff.mp rendered
    have fits := (written_rereads valid short).mp reread
    exact ⟨⟨fun field value member => (fits.lists field value member).1,
      fun field value given => (fits.texts field value given).1⟩, short⟩
  · intro fits
    have rendered := render_iff.mpr ⟨fits.numbers, rfl⟩
    have plain : config.Plain :=
      ⟨fun field value member => (fits.texts.lists field value member).plain,
        fun field value given => (fits.texts.texts field value given).plain⟩
    refine ⟨_, rendered, fits.rereads valid rendered, ?_⟩
    have fields := (modelValidate_iff.mp valid).1
    rw [splitLines_written plain fun field number given =>
      ⟨validated_natural fields given, fits.numbers field number given⟩, generated_plain.1, List.singleton_append]

end

def plainUser : UserConfig where
  lists field := if field = .routes then ["10.20.0.0/16"] else []
  texts field := if field = .restrictUserToPorts then some "tcp(443), udp(443)" else none
  numbers field := if field = .maxSameClients then some 1 else none
  flags field := if field = .noUdp then some true else none

theorem plainUser_valid : plainUser.modelValidate = .ok plainUser := by
  refine modelValidate_iff.mpr ⟨fun field => ?_, ?_⟩
  · rcases field with field | field | field | field <;> cases field <;> decide +kernel
  · exact fun given => absurd rfl given

theorem roundTrips_iff_sample : RoundTrips plainUser ↔ FitsFile plainUser := roundTrips_iff plainUser_valid

def scopedUser : UserConfig where
  lists field := if field = .dns then ["fe80::1%x\nroute = default"] else []

theorem scopedUser_addsRoute : scopedUser.modelValidate = .ok scopedUser ∧ ¬RoundTrips scopedUser ∧
    ∃ text, renderUserConfig scopedUser = .ok text ∧
      (parseUserConfigFile text).lists .routes = ["default"] := by
  have routes (text : String) (rendered : renderUserConfig scopedUser = .ok text) :
      (parseUserConfigFile text).lists .routes = ["default"] := by
    obtain ⟨-, rfl⟩ := render_iff.mp rendered
    decide +kernel
  refine ⟨modelValidate_iff.mpr ⟨fun field => ?_, fun given => absurd rfl given⟩, ?_, ?_⟩
  · rcases field with field | field | field | field <;> cases field <;> decide +kernel
  · rintro ⟨text, rendered, reread, -⟩
    have checked := (modelValidate_iff.mp reread).1 (.list .routes)
    rw [Validates, routes text rendered] at checked
    exact absurd checked (by decide +kernel)
  · have short : ShortNumbers scopedUser := fun _ _ given => absurd given (Option.some_ne_none _).symm
    exact ⟨_, render_iff.mpr ⟨short, rfl⟩, routes _ (render_iff.mpr ⟨short, rfl⟩)⟩

end Korserver
