import Korserver.UserConfigLines

/-!
What the validation of the settings leaves of them, and which settings a file gives back.
-/

namespace Korserver

open PythonText PythonValue

namespace UserConfig

def Validates (data config : UserConfig) : ConfigField → Prop
  | .list field => validateItems (validateItem field) (data.lists field) = .ok (config.lists field)
  | .text field => validateText field (data.texts field) = .ok (config.texts field)
  | .number field => validateNumber field (data.numbers field) = .ok (config.numbers field)
  | .flag field => data.flags field = config.flags field

instance (data config : UserConfig) : (field : ConfigField) → Decidable (Validates data config field)
  | .list field =>
      inferInstanceAs (Decidable (validateItems (validateItem field) (data.lists field) = .ok (config.lists field)))
  | .text field => inferInstanceAs (Decidable (validateText field (data.texts field) = .ok (config.texts field)))
  | .number field =>
      inferInstanceAs (Decidable (validateNumber field (data.numbers field) = .ok (config.numbers field)))
  | .flag field => inferInstanceAs (Decidable (data.flags field = config.flags field))

def NetmaskAllowed (config : UserConfig) : Prop :=
  config.texts .ipv4Netmask ≠ none → config.texts .ipv4Network ≠ none

theorem forM_ok {ε α : Type} {items : List α} {action : α → Except ε Unit} :
    items.forM action = .ok () ↔ ∀ item ∈ items, action item = .ok () := by
  induction items with
  | nil => simp [pure, Except.pure]
  | cons item rest ih =>
      change (action item >>= fun _ => rest.forM action) = .ok () ↔ _
      rw [bind_ok, List.forall_mem_cons, ← ih]
      constructor
      · rintro ⟨⟨⟩, first, later⟩
        exact ⟨first, later⟩
      · exact fun both => ⟨(), both⟩

theorem discard_ok {α : Type} {action : Except PyError α} :
    (do let _ ← action : Except PyError Unit) = .ok () ↔ ∃ value, action = .ok value := by
  cases action with
  | ok value => exact ⟨fun _ => ⟨value, rfl⟩, fun _ => rfl⟩
  | error error => exact ⟨fun failed => (nomatch failed), fun ⟨_, failed⟩ => (nomatch failed)⟩

theorem validates_of_ok {data : UserConfig} {field : ConfigField} (valid : data.validateField field = .ok ()) :
    Validates data data.validated field := by
  cases field with
  | list field =>
      obtain ⟨values, checked⟩ := discard_ok.mp valid
      change validateItems (validateItem field) (data.lists field) = .ok (valueOr [] _)
      rw [checked]
      rfl
  | text field =>
      obtain ⟨value, checked⟩ := discard_ok.mp valid
      change validateText field (data.texts field) = .ok (valueOr none _)
      rw [checked]
      rfl
  | number field =>
      obtain ⟨value, checked⟩ := discard_ok.mp valid
      change validateNumber field (data.numbers field) = .ok (valueOr none _)
      rw [checked]
      rfl
  | flag field => rfl

theorem ok_of_validates {data config : UserConfig} {field : ConfigField} (valid : Validates data config field) :
    data.validateField field = .ok () ∧ SameAt data.validated config field := by
  cases field with
  | list field =>
      refine ⟨discard_ok.mpr ⟨_, valid⟩, ?_⟩
      change valueOr [] (validateItems (validateItem field) (data.lists field)) = _
      rw [show validateItems (validateItem field) (data.lists field) = .ok (config.lists field) from valid]
      rfl
  | text field =>
      refine ⟨discard_ok.mpr ⟨_, valid⟩, ?_⟩
      change valueOr none (validateText field (data.texts field)) = _
      rw [show validateText field (data.texts field) = .ok (config.texts field) from valid]
      rfl
  | number field =>
      refine ⟨discard_ok.mpr ⟨_, valid⟩, ?_⟩
      change valueOr none (validateNumber field (data.numbers field)) = _
      rw [show validateNumber field (data.numbers field) = .ok (config.numbers field) from valid]
      rfl
  | flag field => exact ⟨rfl, valid⟩

theorem modelValidate_iff {data config : UserConfig} :
    data.modelValidate = .ok config ↔ (∀ field, Validates data config field) ∧ NetmaskAllowed config := by
  have netmask (config : UserConfig) : ¬(config.texts .ipv4Netmask ≠ none ∧ config.texts .ipv4Network = none) ↔
      NetmaskAllowed config := by
    rw [NetmaskAllowed, not_and]
  rw [modelValidate, bind_ok]
  constructor
  · rintro ⟨⟨⟩, fields, checked⟩
    split at checked
    · cases checked
    · rename_i allowed
      obtain rfl := pure_ok.mp checked
      exact ⟨fun field => validates_of_ok (forM_ok.mp fields field (ConfigField.mem_all field)),
        (netmask _).mp allowed⟩
  · rintro ⟨valid, allowed⟩
    obtain same := ext_fields fun field => (ok_of_validates (valid field)).2
    refine ⟨(), forM_ok.mpr fun field _ => (ok_of_validates (valid field)).1, ?_⟩
    rw [same, if_neg ((netmask config).mpr allowed)]
    rfl

/-! Values that were validated before. -/

section

variable {validate : String → Except PyError String}

theorem validateItems_length {items values : List String} (valid : validateItems validate items = .ok values) :
    values.length ≤ items.length := by
  induction items generalizing values with
  | nil =>
      obtain rfl := Except.ok.inj valid
      exact Nat.le_refl _
  | cons item rest ih =>
      rw [validateItems] at valid
      split at valid
      · exact Nat.le_succ_of_le (ih valid)
      · obtain ⟨value, -, valid⟩ := bind_ok.mp valid
        obtain ⟨others, later, valid⟩ := bind_ok.mp valid
        obtain rfl := pure_ok.mp valid
        exact Nat.succ_le_succ (ih later)

theorem validateItems_origin {items values : List String} (valid : validateItems validate items = .ok values) :
    ∀ value ∈ values, ∃ item ∈ items, strip item ≠ "" ∧ validate item = .ok value := by
  induction items generalizing values with
  | nil =>
      obtain rfl := Except.ok.inj valid
      exact List.forall_mem_nil _
  | cons item rest ih =>
      have later {others : List String} (checked : validateItems validate rest = .ok others) :
          ∀ value ∈ others, ∃ item' ∈ item :: rest, strip item' ≠ "" ∧ validate item' = .ok value := by
        intro value member
        obtain ⟨old, inRest, found⟩ := ih checked value member
        exact ⟨old, List.mem_cons_of_mem _ inRest, found⟩
      rw [validateItems] at valid
      split at valid
      · exact later valid
      · rename_i some_ne
        obtain ⟨value, first, valid⟩ := bind_ok.mp valid
        obtain ⟨others, checked, valid⟩ := bind_ok.mp valid
        obtain rfl := pure_ok.mp valid
        exact List.forall_mem_cons.mpr ⟨⟨item, List.mem_cons_self, some_ne, first⟩, later checked⟩

theorem validateItems_map {read : String → String} {values : List String}
    (valid : validateItems validate (values.map read) = .ok values) :
    ∀ value ∈ values, validate (read value) = .ok value := by
  induction values with
  | nil => exact List.forall_mem_nil _
  | cons value rest ih =>
      rw [List.map_cons, validateItems] at valid
      split at valid
      · have short := validateItems_length valid
        rw [List.length_map, List.length_cons] at short
        omega
      · obtain ⟨first, checked, valid⟩ := bind_ok.mp valid
        obtain ⟨others, later, valid⟩ := bind_ok.mp valid
        obtain ⟨rfl, rfl⟩ := List.cons.inj (pure_ok.mp valid)
        exact List.forall_mem_cons.mpr ⟨checked, ih later⟩

theorem validateItems_same {values : List String}
    (same : ∀ value ∈ values, strip value ≠ "" ∧ validate value = .ok value) :
    validateItems validate values = .ok values := by
  induction values with
  | nil => rfl
  | cons value rest ih =>
      obtain ⟨first, later⟩ := List.forall_mem_cons.mp same
      rw [validateItems, if_neg first.1, first.2, ih later]
      rfl

end

theorem validateIp_same {text value : String} (valid : validateIp text = .ok value) : value = text := by
  rw [validateIp] at valid
  split at valid
  · exact (Except.ok.inj valid).symm
  · cases valid

theorem validateNetwork_same {text value : String} (valid : validateNetwork text = .ok value) : value = text := by
  rw [validateNetwork] at valid
  split at valid
  · exact (Except.ok.inj valid).symm
  · cases valid

theorem validateRoute_same {text value : String} (valid : validateRoute text = .ok value) : value = text := by
  rw [validateRoute] at valid
  split at valid
  · exact (Except.ok.inj valid).symm
  · split at valid
    · split at valid
      · exact (Except.ok.inj valid).symm
      · obtain ⟨-, -, valid⟩ := bind_ok.mp valid
        obtain ⟨-, -, valid⟩ := bind_ok.mp valid
        exact (pure_ok.mp valid).symm
    · exact validateNetwork_same valid

theorem validateDomain_ok {text value : String} (valid : validateDomain text = .ok value) :
    value = stripEnd '.' (strip text) ∧ value ≠ "" ∧ matchesDomain value = true := by
  simp only [validateDomain] at valid
  split at valid
  · rename_i accepted
    obtain rfl := Except.ok.inj valid
    exact ⟨rfl, accepted⟩
  · cases valid

/-- A validated item is the text itself without the blanks around it, and a domain without the dots behind it. -/
theorem validateItem_shape {field : ListField} {item value : String} (valid : validateItem field item = .ok value) :
    if field = .splitDns then value = stripEnd '.' (strip item) ∧ value ≠ "" ∧ matchesDomain value = true
    else value = strip item := by
  cases field with
  | dns => exact validateIp_same valid
  | nbns => exact validateIp_same valid
  | splitDns => exact validateDomain_ok valid
  | routes => exact validateRoute_same valid
  | noRoutes => exact validateRoute_same valid
  | iroutes => exact validateRoute_same valid

theorem validateItem_mem {field : ListField} {item value : String} (valid : validateItem field item = .ok value)
    {c : Char} (member : c ∈ value.toList) : c ∈ item.toList := by
  have shape := validateItem_shape valid
  split at shape
  · rw [shape.1] at member
    exact mem_strip (mem_stripEnd member)
  · exact mem_strip (shape ▸ member)

theorem length_strip_le (text : String) : (strip text).toList.length ≤ text.toList.length := by
  rw [strip, String.toList_ofList]
  exact length_stripChars_le _ _

theorem length_validateItem {field : ListField} {item value : String} (valid : validateItem field item = .ok value) :
    value.toList.length ≤ item.toList.length := by
  have shape := validateItem_shape valid
  split at shape
  · rw [shape.1, stripEnd, String.toList_ofList, dropEndWhile, List.length_reverse]
    refine (List.dropWhile_suffix _).length_le.trans ?_
    rw [List.length_reverse]
    exact length_strip_le item
  · rw [shape]
    exact length_strip_le item

theorem readValue_whole {value : String} (whole : value.toList.length ≤ (readValue value).toList.length) :
    strip value = value ∧ readValue value = value := by
  have quotes : (readValue value).toList.length ≤ (strip value).toList.length := by
    rw [readValue, stripBoth, String.toList_ofList]
    exact length_stripChars_le _ _
  have kept : strip value = value := by
    have blanks : value.toList.length ≤ (stripChars isSpace value.toList).length := by
      rw [strip, String.toList_ofList] at quotes
      omega
    rw [strip, stripChars_eq_of_length blanks, String.ofList_toList]
  refine ⟨kept, ?_⟩
  rw [readValue, kept] at whole ⊢
  rw [stripBoth, String.toList_ofList] at whole
  rw [stripBoth, stripChars_eq_of_length whole, String.ofList_toList]

theorem validateText_some {field : TextField} {text value : String}
    (valid : validateText field (some text) = .ok (some value)) :
    value = strip text ∧ value ≠ "" ∧ checkText field value = .ok () := by
  rw [validateText, stripOptional, Option.bind_some] at valid
  by_cases blank : strip text = ""
  · rw [if_pos blank] at valid
    cases valid
  · rw [if_neg blank] at valid
    obtain ⟨⟨⟩, checked, valid⟩ := bind_ok.mp valid
    obtain rfl := Option.some.inj (pure_ok.mp valid)
    exact ⟨rfl, blank, checked⟩

theorem validateText_none {field : TextField} {text : Option String} {value : String}
    (valid : validateText field text = .ok (some value)) : ∃ given, text = some given := by
  cases text with
  | none => cases valid
  | some given => exact ⟨given, rfl⟩

theorem validateText_same {field : TextField} {value : String} (stripped : strip value = value) (some_ne : value ≠ "")
    (checked : checkText field value = .ok ()) : validateText field (some value) = .ok (some value) := by
  have visible : strip value ≠ "" := by rwa [stripped]
  rw [validateText, stripOptional, Option.bind_some, if_neg visible, stripped]
  simp only [checked]
  rfl

theorem validateNumber_some {field : NumberField} {given : Option Int} {number : Int}
    (valid : validateNumber field given = .ok (some number)) : given = some number ∧ 0 ≤ number := by
  cases given with
  | none => cases valid
  | some value =>
      rw [validateNumber] at valid
      split at valid
      · cases valid
      · rename_i large
        split at valid
        · cases valid
        · obtain rfl := Option.some.inj (Except.ok.inj valid)
          refine ⟨rfl, ?_⟩
          have least : 0 ≤ field.bounds.1 := by cases field <;> decide
          omega

structure OneLine (text : String) : Prop where
  plain : PlainText text
  opening : text.toList.head? ≠ some '"'
  closing : text.toList.getLast? ≠ some '"'

def Stripped (text : String) : Prop := strip text = text

theorem oneLine_of_read {value : String} (plain : PlainText value) (stripped : strip value = value)
    (read : readValue value = value) : OneLine value := by
  rw [readValue, stripped, stripBoth] at read
  have chars : stripChars (· == '"') value.toList = value.toList := by
    have listed := congrArg String.toList read
    rwa [String.toList_ofList] at listed
  refine ⟨plain, fun opens => ?_, fun closes => ?_⟩
  · rw [← chars] at opens
    exact absurd (stripChars_head opens) (by decide)
  · rw [← chars] at closes
    exact absurd (stripChars_getLast closes) (by decide)

theorem readValue_oneLine {value : String} (line : OneLine value) (stripped : Stripped value) :
    readValue value = value := by
  have ends {c : Char} {edge : Option Char} (other : edge ≠ some '"') (found : c ∈ edge) : (c == '"') = false := by
    rw [beq_eq_false_iff_ne]
    rintro rfl
    exact other found
  have chars : stripChars (· == '"') value.toList = value.toList :=
    stripChars_edges (fun _ found => ends line.opening found) fun _ found => ends line.closing found
  rw [readValue, stripped, stripBoth, chars, String.ofList_toList]

theorem readBack_same {config : UserConfig} (fits : config.EveryText fun text => OneLine text ∧ Stripped text) :
    config.readBack = config := by
  have same {text : String} (fit : OneLine text ∧ Stripped text) : readValue text = text :=
    readValue_oneLine fit.1 fit.2
  refine ext_fields fun field => ?_
  cases field with
  | list field => exact (List.map_congr_left fun value member => same (fits.lists field value member)).trans (List.map_id _)
  | text field =>
      change (config.texts field).map readValue = config.texts field
      cases given : config.texts field with
      | none => rfl
      | some value => exact congrArg some (same (fits.texts field value given))
  | number field => rfl
  | flag field => rfl

theorem validated_plain {data config : UserConfig} (plain : data.Plain)
    (valid : ∀ field, Validates data config field) : config.Plain := by
  constructor
  · intro field value member c inValue
    obtain ⟨item, given, -, checked⟩ := validateItems_origin (valid (.list field)) value member
    exact plain.lists field item given c (validateItem_mem checked inValue)
  · intro field value given c inValue
    have checked : validateText field (data.texts field) = .ok (config.texts field) := valid (.text field)
    rw [given] at checked
    obtain ⟨text, old⟩ := validateText_none checked
    rw [old] at checked
    rw [(validateText_some checked).1] at inValue
    exact plain.texts field text old c (mem_strip inValue)

theorem everyText_fits {config : UserConfig} (plain : config.Plain)
    (valid : ∀ field, Validates config.readBack config field) :
    config.EveryText fun text => OneLine text ∧ Stripped text := by
  have fits {value : String} (plainText : PlainText value)
      (whole : value.toList.length ≤ (readValue value).toList.length) : OneLine value ∧ Stripped value := by
    obtain ⟨stripped, read⟩ := readValue_whole whole
    exact ⟨oneLine_of_read plainText stripped read, stripped⟩
  constructor
  · intro field value member
    have checked := validateItems_map (valid (.list field)) value member
    exact fits (plain.lists field value member) (length_validateItem checked)
  · intro field value given
    have checked : validateText field ((config.texts field).map readValue) = .ok (config.texts field) :=
      valid (.text field)
    rw [given] at checked
    have whole := length_strip_le (readValue value)
    rw [← (validateText_some checked).1] at whole
    exact fits (plain.texts field value given) whole

/-- A file that is written line by line gives the settings back exactly if every text stays on its line. -/
theorem rereads_iff {config : UserConfig} (printable : config.Printable) {fields : List ConfigField}
    (once : fields.Nodup) (complete : ∀ field, field ∉ fields → config.values field = []) {header : String}
    (comments : ∀ line ∈ splitLines (header ++ "\n"), readDirective line = none)
    (again : (config.EveryText fun text => OneLine text ∧ Stripped text) → config.modelValidate = .ok config) :
    (parseUserConfigFile (header ++ "\n" ++ fileText (config.directiveLines fields))).modelValidate = .ok config ↔
      config.EveryText fun text => OneLine text ∧ Stripped text := by
  constructor
  · intro reread
    have plain := validated_plain (parse_plain _) (modelValidate_iff.mp reread).1
    rw [parse_written plain printable once complete comments] at reread
    exact everyText_fits plain (modelValidate_iff.mp reread).1
  · intro fits
    have plain : config.Plain :=
      ⟨fun field value member => (fits.lists field value member).1.plain,
        fun field value given => (fits.texts field value given).1.plain⟩
    rw [parse_written plain printable once complete comments, readBack_same fits]
    exact again fits

end UserConfig

end Korserver
