import Korserver.HexText
import Korserver.TextParts
import Mathlib.Data.List.TakeDrop
import Mathlib.Data.List.TakeWhile

/-!
The characters of written addresses and networks: without a scope these are hexadecimal
digits, colons, dots and the slash, and a scope comes with its percent sign.
-/

namespace IpAddress

open PythonText

def isHexDigit (c : Char) : Bool :=
  ('0' ≤ c && c ≤ '9') || ('a' ≤ c && c ≤ 'f') || ('A' ≤ c && c ≤ 'F')

def isAddressChar (c : Char) : Bool := isHexDigit c || c == ':' || c == '.'

def isRouteChar (c : Char) : Bool := isAddressChar c || c == '/'

theorem percent_not_route : isRouteChar '%' = false := by decide

theorem isRouteChar_of_address {c : Char} (member : isAddressChar c = true) : isRouteChar c = true := by
  simp [isRouteChar, member]

theorem digitChar_hex : ∀ digit < 16, isHexDigit (Nat.digitChar digit) = true := by decide

theorem toDigits_hex {base : Nat} (large : 1 < base) (small : base ≤ 16) {value : Nat} {c : Char}
    (member : c ∈ Nat.toDigits base value) : isHexDigit c = true := by
  obtain ⟨digit, below, rfl⟩ := mem_toDigits large member
  exact digitChar_hex digit (by omega)

theorem mem_joinChars {separator c : Char} {parts : List (List Char)}
    (member : c ∈ joinChars separator parts) : c = separator ∨ ∃ part ∈ parts, c ∈ part := by
  induction parts with
  | nil => simp [joinChars] at member
  | cons part rest ih =>
      cases rest with
      | nil => exact Or.inr ⟨part, by simp, member⟩
      | cons next rest =>
          rcases List.mem_append.mp member with inPart | later
          · exact Or.inr ⟨part, by simp, inPart⟩
          · rcases List.mem_cons.mp later with rfl | later
            · exact Or.inl rfl
            · rcases ih later with same | ⟨other, inRest, inOther⟩
              · exact Or.inl same
              · exact Or.inr ⟨other, List.mem_cons_of_mem _ inRest, inOther⟩

example : joinChars '.' [['1'], ['2']] = ['1', '.', '2'] := by decide +kernel

theorem joinChars_ne_nil {separator : Char} {parts : List (List Char)} (two : 2 ≤ parts.length) :
    joinChars separator parts ≠ [] := by
  match parts with
  | [] => simp at two
  | [_] => simp at two
  | first :: second :: rest => simp [joinChars]

theorem mem_compressHextets {values : List Nat} {part : List Char}
    (member : part ∈ compressHextets values) : ∀ c ∈ part, isHexDigit c = true := by
  have written : ∀ text ∈ values.map (Nat.toDigits 16), ∀ c ∈ text, isHexDigit c = true := by
    intro text inTexts c inText
    obtain ⟨value, -, rfl⟩ := List.mem_map.mp inTexts
    exact toDigits_hex (by omega) (by omega) inText
  have empty : part ∈ ([[]] : List (List Char)) → ∀ c ∈ part, isHexDigit c = true := by
    intro single
    obtain rfl := List.mem_singleton.mp single
    simp
  simp only [compressHextets] at member
  split at member
  · simp only [List.mem_append] at member
    rcases member with (((edge | front) | skip) | back) | edge
    · split at edge
      · exact empty edge
      · simp at edge
    · exact written part (List.mem_of_mem_take front)
    · exact empty skip
    · exact written part (List.mem_of_mem_drop back)
    · split at edge
      · exact empty edge
      · simp at edge
  · exact written part member

example : compressHextets [1, 0, 0, 2] = [['1'], [], ['2']] := by decide +kernel

theorem compressHextets_length {values : List Nat} (two : 2 ≤ values.length) :
    2 ≤ (compressHextets values).length := by
  simp only [compressHextets]
  split
  · simp only [List.length_append, List.length_take, List.length_map]
    split
    · simp
      omega
    · simp
      omega
  · simpa using two

theorem Address.text_chars {address : Address} (plain : address.scope = none) :
    address.text ≠ "" ∧ ∀ c ∈ address.text.toList, isAddressChar c = true := by
  have written {separator : Char} (allowed : isAddressChar separator = true)
      {parts : List (List Char)} (digits : ∀ part ∈ parts, ∀ c ∈ part, isHexDigit c = true) :
      ∀ c ∈ joinChars separator parts, isAddressChar c = true := by
    intro c member
    rcases mem_joinChars member with rfl | ⟨part, inParts, inPart⟩
    · exact allowed
    · simp [isAddressChar, digits part inParts c inPart]
  unfold Address.text
  cases address.family with
  | v4 =>
      constructor
      · intro empty
        have none := congrArg String.toList empty
        rw [String.toList_ofList] at none
        exact joinChars_ne_nil (by simp [octets]) none
      · rw [String.toList_ofList]
        refine written (by decide) ?_
        intro part member c inPart
        obtain ⟨octet, -, rfl⟩ := List.mem_map.mp member
        exact toDigits_hex (by omega) (by omega) inPart
  | v6 =>
      simp only [plain, String.append_empty]
      constructor
      · intro empty
        have none := congrArg String.toList empty
        rw [String.toList_ofList] at none
        exact joinChars_ne_nil (compressHextets_length (by simp [hextets])) none
      · rw [String.toList_ofList]
        exact written (by decide) fun part member => mem_compressHextets member

example : (ipAddress "2001:DB8::1").map Address.text = some "2001:db8::1" := by decide +kernel

theorem Address.percent_mem_text {address : Address} (v6 : address.family = .v6)
    (hasScope : address.scope ≠ none) : '%' ∈ address.text.toList := by
  obtain ⟨scope, given⟩ := Option.ne_none_iff_exists'.mp hasScope
  simp [Address.text, v6, given, String.toList_append]

theorem Network.mem_base_or_char {network : Network} {c : Char} (member : c ∈ network.text.toList) :
    c ∈ network.base.text.toList ∨ isRouteChar c = true := by
  simp only [Network.text, String.toList_append, List.mem_append] at member
  rcases member with (inBase | slash) | inLength
  · exact Or.inl inBase
  · obtain rfl := List.mem_singleton.mp slash
    exact Or.inr (by decide)
  · have digit : isHexDigit c = true := by
      rw [show toString network.prefixLength = Nat.repr network.prefixLength from rfl,
        Nat.toList_repr] at inLength
      exact toDigits_hex (by omega) (by omega) inLength
    exact Or.inr (isRouteChar_of_address (by simp [isAddressChar, digit]))

theorem Network.text_chars {network : Network} (plain : network.base.scope = none) :
    network.text ≠ "" ∧ ∀ c ∈ network.text.toList, isRouteChar c = true := by
  have base := Address.text_chars plain
  constructor
  · intro empty
    have none := congrArg String.toList empty
    simp [Network.text, String.toList_append] at none
  · intro c member
    exact (Network.mem_base_or_char member).elim (fun inBase => isRouteChar_of_address (base.2 c inBase)) id

example : (ipNetwork "10.1.2.3/8").map Network.text = some "10.0.0.0/8" := by decide +kernel

theorem Network.percent_mem_text {network : Network} (v6 : network.base.family = .v6)
    (hasScope : network.base.scope ≠ none) : '%' ∈ network.text.toList := by
  simp only [Network.text, String.toList_append, List.mem_append]
  exact Or.inl (Or.inl (Address.percent_mem_text v6 hasScope))

/-! Where scopes come from. -/

theorem parseOctet_digits {octet : List Char} {value : Nat} (read : parseOctet octet = some value) :
    ∀ c ∈ octet, isAsciiDigit c = true := by
  unfold parseOctet at read
  split at read
  · rename_i accepted
    exact List.all_eq_true.mp accepted.2.1
  · simp at read

theorem parseV4_absent {text : List Char} {value : Nat} (read : parseV4 text = some value) {c : Char}
    (notDot : c ≠ '.') (notDigit : isAsciiDigit c = false) : c ∉ text := by
  unfold parseV4 at read
  split at read
  · rename_i a b d e cut
    simp only [Option.bind_eq_bind, Option.bind_eq_some_iff] at read
    obtain ⟨_, readA, _, readB, _, readD, _, readE, -⟩ := read
    have octets : ∀ part ∈ splitChar '.' text, ∀ c ∈ part, isAsciiDigit c = true := by
      rw [cut]
      simp only [List.mem_cons, List.not_mem_nil, or_false, forall_eq_or_imp, forall_eq]
      exact ⟨parseOctet_digits readA, parseOctet_digits readB, parseOctet_digits readD,
        parseOctet_digits readE⟩
    intro member
    rcases mem_splitChar.mp member with ⟨dot, -⟩ | ⟨part, inParts, inPart⟩
    · exact notDot dot
    · exact absurd ((octets part inParts c inPart).symm.trans notDigit) (by decide)
  · simp at read

example : parseV4 ("10.0.0.1".toList) = some 167772161 := by decide +kernel

theorem parseV4_plain {text : List Char} {value : Nat} (read : parseV4 text = some value) : '%' ∉ text :=
  parseV4_absent read (by decide) (by decide)

theorem addressOf_eq {family : Family} {scope : Option String} {value : Nat} {address : Address}
    (read : addressOf family scope value = some address) :
    address.family = family ∧ address.scope = scope := by
  unfold addressOf at read
  split at read
  · obtain rfl := Option.some.inj read
    exact ⟨rfl, rfl⟩
  · simp at read

theorem ipv4Address_plain {text : List Char} {address : Address}
    (read : ipv4Address text = some address) : address.scope = none ∧ '%' ∉ text := by
  unfold ipv4Address at read
  split at read
  · simp at read
  · simp only [Option.bind_eq_bind, Option.bind_eq_some_iff] at read
    obtain ⟨value, readValue, made⟩ := read
    exact ⟨(addressOf_eq made).2, parseV4_plain readValue⟩

theorem splitScope_iff {text address : List Char} {scope : Option String}
    (cut : splitScope text = some (address, scope)) : scope ≠ none ↔ '%' ∈ text := by
  unfold splitScope at cut
  have parts := List.span_eq_takeWhile_dropWhile (fun c : Char => decide (c ≠ '%')) text
  split at cut
  · rename_i whole span
    rw [parts, Prod.mk.injEq] at span
    obtain ⟨-, rfl⟩ := Prod.mk.inj (Option.some.inj cut)
    simp only [ne_eq, not_true_eq_false, false_iff]
    intro percent
    have kept := List.dropWhile_eq_nil_iff.mp span.2 '%' percent
    simp at kept
  · rename_i before percent after span
    rw [parts, Prod.mk.injEq] at span
    have rest : percent ∈ text := List.dropWhile_subset _ (by rw [span.2]; exact List.mem_cons_self ..)
    have first : percent = '%' := by
      have stopped := List.head?_dropWhile_not (fun c : Char => decide (c ≠ '%')) text
      rw [span.2] at stopped
      simpa using stopped
    split at cut
    · simp at cut
    · obtain ⟨-, rfl⟩ := Prod.mk.inj (Option.some.inj cut)
      simpa [first] using rest

example : (splitScope ("fe80::1%eth0".toList)).isSome = true := by decide +kernel

theorem ipv6Address_scope {text : List Char} {address : Address}
    (read : ipv6Address text = some address) :
    address.family = .v6 ∧ (address.scope ≠ none ↔ '%' ∈ text) := by
  unfold ipv6Address at read
  split at read
  · simp at read
  · simp only [Option.bind_eq_bind, Option.bind_eq_some_iff] at read
    obtain ⟨⟨before, scope⟩, cut, value, -, made⟩ := read
    obtain ⟨family, same⟩ := addressOf_eq made
    exact ⟨family, by rw [same]; exact splitScope_iff cut⟩

theorem orElse_some {α : Type} {first second : Option α} {value : α}
    (found : (first <|> second) = some value) :
    first = some value ∨ (first = none ∧ second = some value) := by
  cases first with
  | none => exact Or.inr ⟨rfl, found⟩
  | some other => exact Or.inl found

theorem ipAddress_scope {text : String} {address : Address} (read : ipAddress text = some address) :
    address.scope ≠ none ↔ '%' ∈ text.toList := by
  rcases orElse_some read with v4 | ⟨-, v6⟩
  · have plain := ipv4Address_plain v4
    simp [plain.1, plain.2]
  · exact (ipv6Address_scope v6).2

theorem ipAddress_family {text : String} {address : Address} (read : ipAddress text = some address)
    (hasScope : address.scope ≠ none) : address.family = .v6 := by
  rcases orElse_some read with v4 | ⟨-, v6⟩
  · exact absurd (ipv4Address_plain v4).1 hasScope
  · exact (ipv6Address_scope v6).1

def cutNetwork (family : Family) (text : List Char) : Option (List Char × Nat) :=
  match splitChar '/' text with
  | [base] => some (base, family.bits)
  | [base, mask] => (parseMask family mask).map fun length => (base, length)
  | _ => none

theorem readNetwork_iff {strict : Bool} {family : Family} {address : List Char → Option Address}
    {text : List Char} {network : Network} :
    readNetwork strict family address text = some network ↔
      ∃ part length base, cutNetwork family text = some (part, length) ∧ address part = some base ∧
        (strict = true → base.value % 2 ^ (base.family.bits - length) = 0) ∧
        ∃ short, network = networkOf base length short := by
  have rest (part : List Char) (length : Nat) :
      ((address part).bind fun base =>
        if (strict && base.value % 2 ^ (base.family.bits - length) != 0) = true then none
        else if short : length ≤ base.family.bits then some (networkOf base length short) else none) =
          some network ↔
      ∃ base, address part = some base ∧
        (strict = true → base.value % 2 ^ (base.family.bits - length) = 0) ∧
        ∃ short, network = networkOf base length short := by
    rw [Option.bind_eq_some_iff]
    refine exists_congr fun base => and_congr_right fun _ => ?_
    by_cases clean : base.value % 2 ^ (base.family.bits - length) = 0
    · simp [clean, eq_comm]
    · by_cases strictly : strict = true
      · simp [strictly, clean]
      · simp [strictly, eq_comm]
  unfold readNetwork
  split
  · rename_i base parts
    have whole : cutNetwork family text = some (base, family.bits) := by simp only [cutNetwork, parts]
    simp only [Option.bind_eq_bind, Option.bind_some, whole, Option.some.injEq, Prod.mk.injEq]
    refine (rest _ _).trans ?_
    simp
  · rename_i base mask parts
    have cut : cutNetwork family text =
        (parseMask family mask).map fun length => (base, length) := by
      simp only [cutNetwork, parts]
    rw [cut]
    cases parsed : parseMask family mask with
    | none => simp
    | some length =>
        simp only [Option.bind_eq_bind, Option.bind_some, Option.map_some, Option.some.injEq,
          Prod.mk.injEq]
        refine (rest _ _).trans ?_
        simp
  · rename_i noBase noMask
    have none : cutNetwork family text = none := by
      unfold cutNetwork
      split
      · rename_i base parts
        exact absurd parts (noBase base)
      · rename_i base mask parts
        exact absurd parts (noMask base mask)
      · rfl
    simp [none]

example : ipNetworkStrict "10.0.0.1/8" = none := by decide +kernel

theorem parseMask_plain {family : Family} {mask : List Char} {length : Nat}
    (read : parseMask family mask = some length) : '%' ∉ mask := by
  have digits : parsePrefixLength family mask = some length → '%' ∉ mask := by
    intro given percent
    unfold parsePrefixLength at given
    split at given
    · rename_i accepted
      exact absurd (List.all_eq_true.mp accepted.2.1 '%' percent) (by decide)
    · simp at given
  cases family with
  | v4 =>
      rcases orElse_some read with plain | ⟨-, dotted⟩
      · exact digits plain
      · obtain ⟨value, readValue, -⟩ := Option.bind_eq_some_iff.mp dotted
        exact parseV4_plain readValue
  | v6 => exact digits read

theorem cutNetwork_percent {family : Family} {text part : List Char} {length : Nat}
    (cut : cutNetwork family text = some (part, length)) : '%' ∈ part ↔ '%' ∈ text := by
  have outer : '%' ∈ text ↔ ∃ other ∈ splitChar '/' text, '%' ∈ other := by
    rw [@mem_splitChar '/' '%' text]
    simp
  unfold cutNetwork at cut
  split at cut
  · rename_i base parts
    obtain ⟨rfl, -⟩ := Prod.mk.inj (Option.some.inj cut)
    rw [outer, parts]
    simp
  · rename_i base mask parts
    obtain ⟨given, read, made⟩ := Option.map_eq_some_iff.mp cut
    obtain ⟨rfl, -⟩ := Prod.mk.inj made
    rw [outer, parts]
    simp [parseMask_plain read]
  · simp at cut

theorem networkOf_family (address : Address) (length : Nat) (short : length ≤ address.family.bits) :
    (networkOf address length short).base.family = address.family := by
  simp only [networkOf]
  split <;> rfl

theorem networkOf_scope (address : Address) (length : Nat) (short : length ≤ address.family.bits) :
    (networkOf address length short).base.scope ≠ none ↔
      address.scope ≠ none ∧ address.value % 2 ^ (address.family.bits - length) = 0 := by
  simp only [networkOf]
  split
  · rename_i clean
    simp [clean]
  · rename_i cleared
    simp [cleared]

theorem readNetwork_v4_plain {strict : Bool} {text : List Char} {network : Network}
    (read : readNetwork strict .v4 ipv4Address text = some network) :
    network.base.scope = none ∧ '%' ∉ text := by
  obtain ⟨part, length, base, cut, address, -, short, rfl⟩ := readNetwork_iff.mp read
  obtain ⟨plain, percent⟩ := ipv4Address_plain address
  constructor
  · by_contra hasScope
    exact ((networkOf_scope base length short).mp hasScope).1 plain
  · rwa [← cutNetwork_percent cut]

theorem ipNetwork_family {text : String} {network : Network} (read : ipNetwork text = some network)
    (hasScope : network.base.scope ≠ none) : network.base.family = .v6 := by
  rcases orElse_some read with v4 | ⟨-, v6⟩
  · exact absurd (readNetwork_v4_plain v4).1 hasScope
  · obtain ⟨part, length, base, -, address, -, short, rfl⟩ := readNetwork_iff.mp v6
    rw [networkOf_family]
    exact (ipv6Address_scope address).1

/-- An accepted network keeps a scope when its text has one and the strict reading, which
wants the host bits zero, accepts it too. -/
theorem ipNetwork_scope {text : String} {network : Network} (read : ipNetwork text = some network) :
    network.base.scope ≠ none ↔ '%' ∈ text.toList ∧ (ipNetworkStrict text).isSome = true := by
  rcases orElse_some read with v4 | ⟨noV4, v6⟩
  · have plain := readNetwork_v4_plain v4
    simp [plain.1, plain.2]
  · obtain ⟨part, length, base, cut, address, -, short, rfl⟩ := readNetwork_iff.mp v6
    rw [networkOf_scope, (ipv6Address_scope address).2, cutNetwork_percent cut]
    refine and_congr_right fun percent => ?_
    constructor
    · intro clean
      have strict : readNetwork true .v6 ipv6Address text.toList =
          some (networkOf base length short) :=
        readNetwork_iff.mpr ⟨part, length, base, cut, address, fun _ => clean, short, rfl⟩
      have noStrict : readNetwork true .v4 ipv4Address text.toList = none := by
        cases other : readNetwork true .v4 ipv4Address text.toList with
        | none => rfl
        | some network => exact absurd percent (readNetwork_v4_plain other).2
      simp [ipNetworkStrict, strict, noStrict]
    · intro accepted
      obtain ⟨network, strict⟩ := Option.isSome_iff_exists.mp accepted
      rcases orElse_some strict with v4 | ⟨-, v6⟩
      · exact absurd percent (readNetwork_v4_plain v4).2
      · obtain ⟨part', length', base', cut', address', clean, -⟩ := readNetwork_iff.mp v6
        obtain ⟨rfl, rfl⟩ := Prod.mk.inj (Option.some.inj (cut.symm.trans cut'))
        obtain rfl := Option.some.inj (address.symm.trans address')
        exact clean rfl

theorem readNetwork_of_strict {family : Family} {address : List Char → Option Address}
    {text : List Char} {network : Network} (read : readNetwork true family address text = some network) :
    readNetwork false family address text = some network := by
  obtain ⟨part, length, base, cut, given, -, short⟩ := readNetwork_iff.mp read
  exact readNetwork_iff.mpr ⟨part, length, base, cut, given, by simp, short⟩

theorem ipNetwork_of_strict {text : String} (accepted : (ipNetworkStrict text).isSome = true) :
    (ipNetwork text).isSome = true := by
  obtain ⟨network, read⟩ := Option.isSome_iff_exists.mp accepted
  rcases orElse_some read with v4 | ⟨-, v6⟩
  · simp [ipNetwork, readNetwork_of_strict v4]
  · cases other : readNetwork false .v4 ipv4Address text.toList with
    | none => simp [ipNetwork, other, readNetwork_of_strict v6]
    | some network => simp [ipNetwork, other]

theorem ipNetworkStrict_plain {text : String} {network : Network}
    (read : ipNetworkStrict text = some network) (plain : '%' ∉ text.toList) :
    network.base.scope = none := by
  rcases orElse_some read with v4 | ⟨-, v6⟩
  · exact (readNetwork_v4_plain v4).1
  · obtain ⟨part, length, base, cut, address, -, short, rfl⟩ := readNetwork_iff.mp v6
    by_contra hasScope
    have percent := (ipv6Address_scope address).2.mp ((networkOf_scope base length short).mp hasScope).1
    exact plain ((cutNetwork_percent cut).mp percent)

/-! Every character of a written network is one that networks are written with, or comes from the text. -/

theorem ipv6Address_subset {text : List Char} {address : Address} (read : ipv6Address text = some address)
    {scope : String} (given : address.scope = some scope) : scope.toList ⊆ text := by
  unfold ipv6Address at read
  split at read
  · simp at read
  · simp only [Option.bind_eq_bind, Option.bind_eq_some_iff] at read
    obtain ⟨⟨before, scopeText⟩, cut, value, -, made⟩ := read
    rw [(addressOf_eq made).2] at given
    subst given
    unfold splitScope at cut
    have parts := List.span_eq_takeWhile_dropWhile (fun c : Char => decide (c ≠ '%')) text
    split at cut
    · simp at cut
    · rename_i percent after span
      rw [parts, Prod.mk.injEq] at span
      split at cut
      · simp at cut
      · obtain rfl := Option.some.inj (Prod.mk.inj (Option.some.inj cut)).2
        rw [String.toList_ofList]
        intro c member
        exact List.dropWhile_subset _ (by rw [span.2]; exact List.mem_cons_of_mem _ member)

theorem cutNetwork_subset {family : Family} {text part : List Char} {length : Nat}
    (cut : cutNetwork family text = some (part, length)) : part ⊆ text := by
  have inText : part ∈ splitChar '/' text → part ⊆ text := fun member c inPart =>
    mem_splitChar.mpr (Or.inr ⟨part, member, inPart⟩)
  unfold cutNetwork at cut
  split at cut
  · rename_i base parts
    obtain ⟨rfl, -⟩ := Prod.mk.inj (Option.some.inj cut)
    exact inText (by rw [parts]; exact List.mem_cons_self ..)
  · rename_i base mask parts
    obtain ⟨given, -, made⟩ := Option.map_eq_some_iff.mp cut
    obtain ⟨rfl, -⟩ := Prod.mk.inj made
    exact inText (by rw [parts]; exact List.mem_cons_self ..)
  · simp at cut

theorem readNetwork_subset {strict : Bool} {text : List Char} {network : Network} {scope : String}
    (read : readNetwork strict .v4 ipv4Address text = some network ∨
      readNetwork strict .v6 ipv6Address text = some network)
    (given : network.base.scope = some scope) : scope.toList ⊆ text := by
  rcases read with v4 | v6
  · rw [(readNetwork_v4_plain v4).1] at given
    cases given
  · obtain ⟨part, length, base, cut, address, -, short, rfl⟩ := readNetwork_iff.mp v6
    have same : base.scope = some scope := by
      simp only [networkOf] at given
      split at given
      · exact given
      · cases given
    exact List.Subset.trans (ipv6Address_subset address same) (cutNetwork_subset cut)

theorem Address.mem_text {address : Address} {c : Char} (member : c ∈ address.text.toList) :
    isAddressChar c = true ∨ c = '%' ∨ ∃ scope, address.scope = some scope ∧ c ∈ scope.toList := by
  have bare := (@Address.text_chars { address with scope := none } rfl).2
  simp only [Address.text] at member bare
  cases family : address.family with
  | v4 =>
      simp only [family] at member bare
      exact Or.inl (bare c member)
  | v6 =>
      simp only [family, String.append_empty] at member bare
      rw [String.toList_append, List.mem_append] at member
      rcases member with front | back
      · exact Or.inl (bare c front)
      · cases given : address.scope with
        | none => simp [given] at back
        | some scope =>
            simp only [given, String.toList_append, List.mem_append] at back
            rcases back with percent | inScope
            · exact Or.inr (Or.inl (List.mem_singleton.mp percent))
            · exact Or.inr (Or.inr ⟨scope, rfl, inScope⟩)

theorem Network.mem_text {strict : Bool} {text : List Char} {network : Network} {c : Char}
    (read : readNetwork strict .v4 ipv4Address text = some network ∨
      readNetwork strict .v6 ipv6Address text = some network)
    (member : c ∈ network.text.toList) : isRouteChar c = true ∨ c = '%' ∨ c ∈ text := by
  rcases Network.mem_base_or_char member with inBase | char
  · rcases Address.mem_text inBase with char | percent | ⟨scope, given, inScope⟩
    · exact Or.inl (isRouteChar_of_address char)
    · exact Or.inr (Or.inl percent)
    · exact Or.inr (Or.inr (readNetwork_subset read given inScope))
  · exact Or.inl char

end IpAddress
