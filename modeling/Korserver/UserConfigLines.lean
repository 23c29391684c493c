import Korserver.HexText
import Korserver.TextParts
import Korserver.UserConfigCore
import Korserver.UsersCore
import Mathlib.Data.List.Nodup
import Mathlib.Data.List.TakeDrop

/-!
The lines that the settings of a user or group are written to, and how they are read.
-/

namespace Korserver

open PythonText PythonValue

theorem ConfigField.mem_all (field : ConfigField) : field ∈ ConfigField.all := by
  rcases field with field | field | field | field <;> cases field <;> decide

theorem ConfigField.all_nodup : ConfigField.all.Nodup := by decide

theorem fieldOf_directive (field : ConfigField) : fieldOf field.directive = some field := by
  rcases field with field | field | field | field <;> cases field <;> decide +kernel

example : fieldOf "mtu" = some (.number .mtu) := by decide +kernel

def isKeyChar (c : Char) : Bool := c.isLower || c.isDigit || c == '-'

theorem directive_chars (field : ConfigField) :
    field.directive.toList ≠ [] ∧ field.directive.toList.all isKeyChar = true := by
  rcases field with field | field | field | field <;> cases field <;> decide +kernel

theorem isKeyChar_plain {c : Char} (key : isKeyChar c = true) :
    isSpace c = false ∧ isLineBreak c = false ∧ c ≠ '#' ∧ c ≠ '=' := by
  have plain (range : (48 ≤ c.toNat ∧ c.toNat ≤ 57) ∨ (97 ≤ c.toNat ∧ c.toNat ≤ 122)) :
      isSpace c = false ∧ isLineBreak c = false ∧ c ≠ '#' ∧ c ≠ '=' := by
    obtain ⟨visible, whole⟩ := @visible_of_range c (by omega) (by omega)
    refine ⟨visible, whole, ?_, ?_⟩ <;> rintro rfl <;> exact absurd range (by decide)
  rw [isKeyChar, Bool.or_eq_true, Bool.or_eq_true, beq_iff_eq] at key
  rcases key with (lower | digit) | rfl
  · have bounds := Bool.and_eq_true_iff.mp lower
    exact plain (.inr ⟨of_decide_eq_true bounds.1, of_decide_eq_true bounds.2⟩)
  · have bounds := Bool.and_eq_true_iff.mp digit
    exact plain (.inl ⟨of_decide_eq_true bounds.1, of_decide_eq_true bounds.2⟩)
  · decide

def PlainText (text : String) : Prop := ∀ c ∈ text.toList, isLineBreak c = false ∧ c ≠ '#'

def readValue (value : String) : String := stripBoth '"' (strip value)

theorem splitOnce_append {separator : Char} {before : List Char} (single : separator ∉ before) (rest : List Char) :
    splitOnce separator (String.ofList (before ++ separator :: rest)) =
      some (String.ofList before, String.ofList rest) := by
  have cut : (before ++ separator :: rest).span (· ≠ separator) = (before, separator :: rest) := by
    rw [List.span_eq_takeWhile_dropWhile]
    have kept : ∀ c ∈ before, decide (c ≠ separator) = true := by
      intro c member
      rw [decide_eq_true_eq]
      rintro rfl
      exact single member
    rw [List.takeWhile_append_of_pos kept, List.dropWhile_append_of_pos kept]
    simp
  rw [splitOnce, String.toList_ofList, cut]

theorem splitOnce_mem {separator : Char} {text left right : String}
    (cut : splitOnce separator text = some (left, right)) {c : Char} (member : c ∈ right.toList) :
    c ∈ text.toList := by
  rw [splitOnce, List.span_eq_takeWhile_dropWhile] at cut
  split at cut
  · cases cut
  · rename_i before first rest parts
    obtain ⟨rfl, rfl⟩ := Prod.mk.inj (Option.some.inj cut)
    rw [String.toList_ofList] at member
    have behind : c ∈ text.toList.dropWhile (· ≠ separator) := by
      rw [(Prod.mk.inj parts).2]
      exact List.mem_cons_of_mem _ member
    exact List.dropWhile_subset _ behind

theorem mem_stripBoth {quote c : Char} {text : String} (member : c ∈ (stripBoth quote text).toList) :
    c ∈ text.toList := by
  rw [stripBoth, String.toList_ofList] at member
  exact mem_stripChars member

/-- What is written behind a directive is read back but for whitespace and quotes around it. -/
theorem readDirective_line (field : ConfigField) {value : String} (plain : PlainText value) :
    readDirective (directiveLine field value) = some (field.directive, readValue value) := by
  obtain ⟨some_ne, chars⟩ := directive_chars field
  rw [List.all_eq_true] at chars
  have whole : (directiveLine field value).toList =
      field.directive.toList ++ ' ' :: '=' :: ' ' :: value.toList := by
    simp [directiveLine, String.toList_append]
  have uncut : (directiveLine field value).toList.takeWhile (· ≠ '#') = (directiveLine field value).toList := by
    rw [List.takeWhile_eq_self_iff, whole]
    intro c member
    rw [decide_eq_true_eq]
    simp only [List.mem_append, List.mem_cons] at member
    rcases member with inKey | rfl | rfl | rfl | inValue
    · exact (isKeyChar_plain (chars c inKey)).2.2.1
    all_goals first | decide | exact (plain c inValue).2
  obtain ⟨first, rest, key⟩ := List.exists_cons_of_ne_nil some_ne
  have visible : isSpace first = false := (isKeyChar_plain (chars first (by simp [key]))).1
  have clean : stripChars isSpace (directiveLine field value).toList =
      field.directive.toList ++ [' '] ++ '=' :: dropEndWhile isSpace (' ' :: value.toList) := by
    rw [whole, key, List.cons_append, ← List.nil_append (first :: _), stripChars_start (List.forall_mem_nil _) visible]
    have equals : rest ++ ' ' :: '=' :: ' ' :: value.toList = (rest ++ [' ']) ++ '=' :: ' ' :: value.toList := by
      simp
    rw [equals, dropEndWhile_append_cons (by decide)]
    simp
  have single : '=' ∉ field.directive.toList ++ [' '] := by
    rw [List.mem_append, not_or]
    exact ⟨fun inKey => (isKeyChar_plain (chars _ inKey)).2.2.2 rfl, by decide⟩
  have keyPart : strip (String.ofList (field.directive.toList ++ [' '])) = field.directive := by
    rw [strip, String.toList_ofList, key, List.cons_append, ← List.nil_append (first :: _),
      stripChars_start (List.forall_mem_nil _) visible]
    have blank : dropEndWhile isSpace (rest ++ [' ']) = dropEndWhile isSpace rest := by
      rw [dropEndWhile, List.reverse_concat, List.dropWhile_cons_of_pos (by decide), dropEndWhile]
    have kept : dropEndWhile isSpace rest = rest :=
      dropEndWhile_none fun c member => (isKeyChar_plain (chars c (by simp [key, member]))).1
    rw [blank, kept, ← key, String.ofList_toList]
  have valuePart : strip (String.ofList (dropEndWhile isSpace (' ' :: value.toList))) = strip value := by
    rw [strip, String.toList_ofList, stripChars_dropEndWhile, stripChars_cons (by decide), strip]
  rw [readDirective, uncut, String.ofList_toList, strip, clean, splitOnce_append single, Option.map_some]
  simp only [keyPart, valuePart, strip_strip, readValue]

theorem readDirective_plain {line key value : String} (whole : ∀ c ∈ line.toList, isLineBreak c = false)
    (read : readDirective line = some (key, value)) : PlainText value := by
  intro c member
  rw [readDirective, Option.map_eq_some_iff] at read
  obtain ⟨⟨left, right⟩, cut, parts⟩ := read
  obtain rfl := (Prod.mk.inj parts).2
  have inLine := mem_strip (splitOnce_mem cut (mem_strip (mem_strip (mem_stripBoth member))))
  rw [String.toList_ofList] at inLine
  exact ⟨whole c (List.takeWhile_subset _ inLine), by simpa using List.mem_takeWhile_imp inLine⟩

theorem digit_plain : ∀ digit < 10, isLineBreak (Nat.digitChar digit) = false ∧ Nat.digitChar digit ≠ '#' ∧
    isSpace (Nat.digitChar digit) = false ∧ (Nat.digitChar digit == '"') = false ∧
    isIntSpace (Nat.digitChar digit) = false ∧ asciiDecimal (Nat.digitChar digit) = Nat.digitChar digit ∧
    Nat.digitChar digit ≠ '-' ∧ Nat.digitChar digit ≠ '+' := by decide +kernel

theorem numberText_digits {number : Int} (natural : 0 ≤ number) :
    (toString number).toList = Nat.toDigits 10 number.natAbs := by
  obtain ⟨value, rfl⟩ := Int.eq_ofNat_of_zero_le natural
  exact Nat.toList_repr

theorem mem_numberText {number : Int} (natural : 0 ≤ number) {c : Char} (member : c ∈ (toString number).toList) :
    ∃ digit < 10, c = Nat.digitChar digit := by
  rw [numberText_digits natural] at member
  exact mem_toDigits (by decide) member

theorem readValue_numberText {number : Int} (natural : 0 ≤ number) :
    readValue (toString number) = toString number := by
  have visible : ∀ c ∈ (toString number).toList, isSpace c = false := by
    intro c member
    obtain ⟨digit, small, rfl⟩ := mem_numberText natural member
    exact (digit_plain digit small).2.2.1
  have unquoted : ∀ c ∈ (toString number).toList, (c == '"') = false := by
    intro c member
    obtain ⟨digit, small, rfl⟩ := mem_numberText natural member
    exact (digit_plain digit small).2.2.2.1
  have stripped : strip (toString number) = toString number := by
    rw [strip, stripChars_none visible, String.ofList_toList]
  rw [readValue, stripped, stripBoth, stripChars_none unquoted, String.ofList_toList]

theorem parseInt_numberText {number : Int} (natural : 0 ≤ number)
    (short : (Nat.toDigits 10 number.natAbs).length ≤ maxIntDigits) :
    parseInt (toString number) = some number := by
  have digits {c : Char} (member : c ∈ Nat.toDigits 10 number.natAbs) : ∃ digit < 10, c = Nat.digitChar digit :=
    mem_toDigits (by decide) member
  have visible : ∀ c ∈ (toString number).toList, isSpace c = false := by
    intro c member
    obtain ⟨digit, small, rfl⟩ := mem_numberText natural member
    exact (digit_plain digit small).2.2.1
  have stripped : strip (toString number) = toString number := by
    rw [strip, stripChars_none visible, String.ofList_toList]
  have ascii : (toString number).toList.map asciiDecimal = Nat.toDigits 10 number.natAbs := by
    rw [numberText_digits natural]
    refine (List.map_congr_left fun c member => ?_).trans (List.map_id _)
    obtain ⟨digit, small, rfl⟩ := digits member
    exact (digit_plain digit small).2.2.2.2.2.1
  have unspaced : ∀ c ∈ Nat.toDigits 10 number.natAbs, isIntSpace c = false := by
    intro c member
    obtain ⟨digit, small, rfl⟩ := digits member
    exact (digit_plain digit small).2.2.2.2.1
  have limited : ¬maxIntDigits < digitCount (Nat.toDigits 10 number.natAbs) := by
    have counted : digitCount (Nat.toDigits 10 number.natAbs) ≤ (Nat.toDigits 10 number.natAbs).length :=
      List.length_filter_le _ _
    omega
  have read : readDigits 10 (Nat.toDigits 10 number.natAbs) 0 false = some number.natAbs := by
    have whole := readDigits_toDigits (by decide) (show 10 ≤ 16 by decide) number.natAbs [] 0 false
    rw [List.append_nil, Nat.zero_mul, Nat.zero_add] at whole
    rw [whole, readDigits]
    rfl
  have unsigned : readSigned (fun digits => readDigits 10 digits 0 false) (Nat.toDigits 10 number.natAbs) =
      some (number.natAbs : Int) := by
    unfold readSigned
    split
    · rename_i rest signed
      obtain ⟨digit, small, minus⟩ := digits (c := '-') (by rw [signed]; exact List.mem_cons_self)
      exact absurd minus.symm (digit_plain digit small).2.2.2.2.2.2.1
    · rename_i rest signed
      obtain ⟨digit, small, plus⟩ := digits (c := '+') (by rw [signed]; exact List.mem_cons_self)
      exact absurd plus.symm (digit_plain digit small).2.2.2.2.2.2.2
    · exact congrArg (Option.map _) read
  rw [parseInt, stripped, readInt, ascii, if_neg limited, decimalLiteral, ascii, stripChars_none unspaced, unsigned,
    Int.natAbs_of_nonneg natural]

theorem parseBool_boolText (value : Bool) : parseBool (readValue (boolText value)) = some value := by
  cases value <;> decide +kernel

/-! A file of directives. -/

def UserConfig.SameAt (left right : UserConfig) : ConfigField → Prop
  | .list field => left.lists field = right.lists field
  | .text field => left.texts field = right.texts field
  | .number field => left.numbers field = right.numbers field
  | .flag field => left.flags field = right.flags field

namespace UserConfig

theorem SameAt.trans {first second third : UserConfig} {field : ConfigField} (left : SameAt first second field)
    (right : SameAt second third field) : SameAt first third field := by
  cases field <;> exact Eq.trans left right

theorem ext_fields {left right : UserConfig} (same : ∀ field, SameAt left right field) : left = right := by
  obtain ⟨lists, texts, numbers, flags⟩ := left
  obtain ⟨lists', texts', numbers', flags'⟩ := right
  obtain rfl : lists = lists' := funext fun field => same (.list field)
  obtain rfl : texts = texts' := funext fun field => same (.text field)
  obtain rfl : numbers = numbers' := funext fun field => same (.number field)
  obtain rfl : flags = flags' := funext fun field => same (.flag field)
  rfl

theorem assign_other {field other : ConfigField} (different : other ≠ field) (parsed : UserConfig) (value : String) :
    SameAt (parsed.assign value field) parsed other := by
  cases field <;> cases other <;> first | rfl | exact Function.update_of_ne (by simpa using different) _ _

/-- What is read back of the settings: the texts lose whitespace and quotes around them. -/
def readBack (config : UserConfig) : UserConfig where
  lists field := (config.lists field).map readValue
  texts field := (config.texts field).map readValue
  numbers := config.numbers
  flags := config.flags

structure EveryText (config : UserConfig) (kind : String → Prop) : Prop where
  lists : ∀ field, ∀ value ∈ config.lists field, kind value
  texts : ∀ field value, config.texts field = some value → kind value

abbrev Plain (config : UserConfig) : Prop := config.EveryText PlainText

def Printable (config : UserConfig) : Prop :=
  ∀ field number, config.numbers field = some number →
    0 ≤ number ∧ (Nat.toDigits 10 number.natAbs).length ≤ maxIntDigits

theorem values_plain {config : UserConfig} (plain : config.Plain) (printable : config.Printable)
    {field : ConfigField} {value : String} (member : value ∈ config.values field) : PlainText value := by
  cases field with
  | list field => exact plain.lists field value member
  | text field => exact plain.texts field value (Option.mem_toList.mp member)
  | number field =>
      obtain ⟨number, given, rfl⟩ := List.mem_map.mp member
      intro c inText
      obtain ⟨digit, small, rfl⟩ :=
        mem_numberText (printable field number (Option.mem_toList.mp given)).1 inText
      exact ⟨(digit_plain digit small).1, (digit_plain digit small).2.1⟩
  | flag field =>
      obtain ⟨flag, -, rfl⟩ := List.mem_map.mp member
      have chars : (boolText flag).toList.all (fun c => !isLineBreak c && decide (c ≠ '#')) = true := by
        cases flag <;> decide +kernel
      intro c inText
      simpa using List.all_eq_true.mp chars c inText

def readField (config parsed : UserConfig) (field : ConfigField) : UserConfig :=
  (config.values field).foldl (fun parsed value => parsed.assign (readValue value) field) parsed

theorem readField_other {config : UserConfig} {field other : ConfigField} (different : other ≠ field)
    (parsed : UserConfig) : SameAt (config.readField parsed field) parsed other := by
  rw [readField]
  induction config.values field generalizing parsed with
  | nil => cases other <;> rfl
  | cons value rest ih => exact (ih _).trans (assign_other different parsed _)

theorem readField_self {config : UserConfig} (printable : config.Printable) {field : ConfigField}
    {parsed : UserConfig} (unset : SameAt parsed {} field) :
    SameAt (config.readField parsed field) config.readBack field := by
  cases field with
  | list field =>
      have collected (items : List String) (parsed : UserConfig) :
          (items.foldl (fun parsed value => parsed.assign (readValue value) (.list field)) parsed).lists field =
            parsed.lists field ++ items.map readValue := by
        induction items generalizing parsed with
        | nil => simp
        | cons item rest ih =>
            rw [List.foldl_cons, ih]
            simp [assign]
      have none : parsed.lists field = [] := unset
      exact (collected _ _).trans (by rw [none]; rfl)
  | text field =>
      have none : parsed.texts field = .none := unset
      change (readField config parsed (.text field)).texts field = (config.texts field).map readValue
      cases given : config.texts field with
      | none => simp [readField, values, given, none]
      | some value => simp [readField, values, given, assign]
  | number field =>
      have none : parsed.numbers field = .none := unset
      change (readField config parsed (.number field)).numbers field = config.numbers field
      cases given : config.numbers field with
      | none => simp [readField, values, given, none]
      | some number =>
          obtain ⟨natural, short⟩ := printable field number given
          have read := parseInt_numberText natural short
          rw [← readValue_numberText natural] at read
          rw [readField, values, given]
          exact (Function.update_self ..).trans read
  | flag field =>
      have none : parsed.flags field = .none := unset
      change (readField config parsed (.flag field)).flags field = config.flags field
      cases given : config.flags field with
      | none => simp [readField, values, given, none]
      | some flag => simp [readField, values, given, assign, parseBool_boolText]

theorem readFields {config : UserConfig} (printable : config.Printable) {fields : List ConfigField}
    (once : fields.Nodup) (parsed : UserConfig) (other : ConfigField) :
    (other ∉ fields → SameAt (fields.foldl config.readField parsed) parsed other) ∧
      (other ∈ fields → SameAt parsed {} other →
        SameAt (fields.foldl config.readField parsed) config.readBack other) := by
  induction fields generalizing parsed with
  | nil =>
      refine ⟨fun _ => ?_, fun member => absurd member List.not_mem_nil⟩
      cases other <;> rfl
  | cons field rest ih =>
      obtain ⟨fresh, once⟩ := List.nodup_cons.mp once
      obtain ⟨outside, inside⟩ := ih once (config.readField parsed field)
      constructor
      · intro absent
        rw [List.mem_cons, not_or] at absent
        exact (outside absent.2).trans (readField_other absent.1 parsed)
      · intro member unset
        by_cases same : other = field
        · subst same
          exact (outside fresh).trans (readField_self printable unset)
        · have later := (List.mem_cons.mp member).resolve_left same
          exact inside later ((readField_other same parsed).trans unset)

theorem parseLine_known {line key value : String} {field : ConfigField} (parsed : UserConfig)
    (read : readDirective line = some (key, value)) (known : fieldOf key = some field) :
    parsed.parseLine line = parsed.assign value field := by
  rw [parseLine, read]
  simp only [known]

theorem parseLine_values (field : ConfigField) {values : List String} (plain : ∀ value ∈ values, PlainText value)
    (parsed : UserConfig) :
    (values.map (directiveLine field)).foldl parseLine parsed =
      values.foldl (fun parsed value => parsed.assign (readValue value) field) parsed := by
  induction values generalizing parsed with
  | nil => rw [List.map_nil, List.foldl_nil, List.foldl_nil]
  | cons value rest ih =>
      obtain ⟨first, later⟩ := List.forall_mem_cons.mp plain
      have known := parseLine_known parsed (readDirective_line field first) (fieldOf_directive field)
      rw [List.map_cons, List.foldl_cons, List.foldl_cons, known, ih later]

theorem parseLine_directives {config : UserConfig} (plain : config.Plain) (printable : config.Printable)
    (fields : List ConfigField) (parsed : UserConfig) :
    (config.directiveLines fields).foldl parseLine parsed = fields.foldl config.readField parsed := by
  induction fields generalizing parsed with
  | nil => rw [directiveLines, List.flatMap_nil, List.foldl_nil, List.foldl_nil]
  | cons field rest ih =>
      have plainValues : ∀ value ∈ config.values field, PlainText value := fun _ member =>
        values_plain plain printable member
      have values := parseLine_values field plainValues parsed
      rw [directiveLines, List.flatMap_cons, List.foldl_append, values, ← directiveLines, ih, List.foldl_cons,
        readField]

theorem directiveLine_whole {field : ConfigField} {value : String} (plain : PlainText value) :
    ∀ c ∈ (directiveLine field value).toList, isLineBreak c = false := by
  intro c member
  rw [directiveLine, String.toList_append, String.toList_append, List.mem_append, List.mem_append] at member
  rcases member with (inKey | middle) | inValue
  · exact (isKeyChar_plain (List.all_eq_true.mp (directive_chars field).2 c inKey)).2.1
  · have chars : " = ".toList.all (fun c => !isLineBreak c) = true := by decide
    simpa using List.all_eq_true.mp chars c middle
  · exact (plain c inValue).1

theorem directiveLines_whole {config : UserConfig} (plain : config.Plain) (printable : config.Printable)
    (fields : List ConfigField) : ∀ line ∈ config.directiveLines fields, ∀ c ∈ line.toList, isLineBreak c = false := by
  intro line member
  obtain ⟨field, -, inField⟩ := List.mem_flatMap.mp member
  obtain ⟨value, given, rfl⟩ := List.mem_map.mp inField
  exact directiveLine_whole (values_plain plain printable given)

theorem parseLine_comments {lines : List String} (comments : ∀ line ∈ lines, readDirective line = none)
    (parsed : UserConfig) : lines.foldl parseLine parsed = parsed := by
  induction lines with
  | nil => rfl
  | cons line rest ih =>
      obtain ⟨first, later⟩ := List.forall_mem_cons.mp comments
      have skipped : parsed.parseLine line = parsed := by rw [parseLine, first]
      rw [List.foldl_cons, skipped, ih later]

theorem splitLines_written {config : UserConfig} (plain : config.Plain) (printable : config.Printable)
    (fields : List ConfigField) (header : String) :
    splitLines (header ++ "\n" ++ fileText (config.directiveLines fields)) =
      splitLines (header ++ "\n") ++ config.directiveLines fields := by
  have lines : splitLines (fileText (config.directiveLines fields)) = config.directiveLines fields := by
    by_cases none : config.directiveLines fields = []
    · rw [none]
      rfl
    · rw [fileText, List.isEmpty_eq_false_iff.mpr none]
      exact splitLines_join (directiveLines_whole plain printable fields) none
  rw [splitLines_append, lines]

theorem parse_written {config : UserConfig} (plain : config.Plain) (printable : config.Printable)
    {fields : List ConfigField} (once : fields.Nodup) (complete : ∀ field, field ∉ fields → config.values field = [])
    {header : String} (comments : ∀ line ∈ splitLines (header ++ "\n"), readDirective line = none) :
    parseUserConfigFile (header ++ "\n" ++ fileText (config.directiveLines fields)) = config.readBack := by
  rw [parseUserConfigFile, splitLines_written plain printable, List.foldl_append, parseLine_comments comments,
    parseLine_directives plain printable]
  refine ext_fields fun field => ?_
  obtain ⟨outside, inside⟩ := readFields printable once {} field
  by_cases member : field ∈ fields
  · refine inside member ?_
    cases field <;> rfl
  · refine (outside member).trans ?_
    have none := complete field member
    cases field with
    | list field =>
        change [] = (config.lists field).map readValue
        rw [show config.lists field = [] from none]
        rfl
    | text field =>
        change Option.none = (config.texts field).map readValue
        rw [Option.toList_eq_nil_iff.mp none]
        rfl
    | number field => exact (Option.toList_eq_nil_iff.mp (List.map_eq_nil_iff.mp none)).symm
    | flag field => exact (Option.toList_eq_nil_iff.mp (List.map_eq_nil_iff.mp none)).symm

theorem assign_plain {parsed : UserConfig} (plain : parsed.Plain) {value : String} (text : PlainText value)
    (field : ConfigField) : (parsed.assign value field).Plain := by
  cases field with
  | list field =>
      refine ⟨fun other item member => ?_, plain.texts⟩
      by_cases same : other = field
      · subst same
        simp only [assign, Function.update_self, List.mem_append, List.mem_singleton] at member
        rcases member with old | rfl
        · exact plain.lists _ item old
        · exact text
      · simp only [assign, Function.update_of_ne same] at member
        exact plain.lists other item member
  | text field =>
      refine ⟨plain.lists, fun other item given => ?_⟩
      by_cases same : other = field
      · subst same
        simp only [assign, Function.update_self, Option.some.injEq] at given
        exact given ▸ text
      · simp only [assign, Function.update_of_ne same] at given
        exact plain.texts other item given
  | number field => exact ⟨plain.lists, plain.texts⟩
  | flag field => exact ⟨plain.lists, plain.texts⟩

theorem parseLine_plain {parsed : UserConfig} (plain : parsed.Plain) {line : String}
    (whole : ∀ c ∈ line.toList, isLineBreak c = false) : (parsed.parseLine line).Plain := by
  rw [parseLine]
  split
  · rename_i key value read
    split
    · exact assign_plain plain (readDirective_plain whole read) _
    · exact plain
  · exact plain

theorem parseLines_plain {lines : List String} (whole : ∀ line ∈ lines, ∀ c ∈ line.toList, isLineBreak c = false)
    {parsed : UserConfig} (plain : parsed.Plain) : (lines.foldl parseLine parsed).Plain := by
  induction lines generalizing parsed with
  | nil => exact plain
  | cons line rest ih =>
      obtain ⟨first, later⟩ := List.forall_mem_cons.mp whole
      rw [List.foldl_cons]
      exact ih later (parseLine_plain plain first)

theorem parse_plain (text : String) : (parseUserConfigFile text).Plain :=
  parseLines_plain (fun _ => splitLines_whole)
    ⟨fun _ _ member => absurd member List.not_mem_nil, fun _ _ given => absurd given (Option.some_ne_none _).symm⟩

end UserConfig

end Korserver
