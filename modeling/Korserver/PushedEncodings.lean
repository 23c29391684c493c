import Korserver.PushedParserCore
import Korserver.HexText
import Korserver.UntrustedLists
import Mathlib.Data.Nat.Digits.Defs

/-!
The two ways in which an upstream server sends its lists, the environment of the handshake and the
JSON of the sync endpoint, and when the two parsers read the same from them.
-/

namespace Korserver

open PythonText IpAddress PythonValue

def entryKey (key field : String) (index : Nat) : String := key ++ "_" ++ toString index ++ field

def encodeEntry (key : String) (entry : (String × String) × Nat) : List (String × String) :=
  [(entryKey key "_ADDR" entry.2, entry.1.1), (entryKey key "_MASKLEN" entry.2, entry.1.2)]

def encodeRoutes (key : String) (entries : List (String × String)) : List (String × String) :=
  (key, toString entries.length) :: entries.zipIdx.flatMap (encodeEntry key)

def encodedVariables (v4 v6 : List (String × String)) (domains : List String) : List (String × String) :=
  encodeRoutes "CISCO_SPLIT_INC" v4 ++ encodeRoutes "CISCO_IPV6_SPLIT_INC" v6 ++
    [("CISCO_SPLIT_DNS", join "," domains)]

def encodeEnvironment (v4 v6 : List (String × String)) (domains : List String) : Environ :=
  fun name => dictGet name (encodedVariables v4 v6 domains)

def entryText (entry : String × String) : String := entry.1 ++ "/" ++ entry.2

def encodePayload (entries : List (String × String)) (domains : List String) : Json :=
  .dict [("routes", texts (entries.map entryText)), ("split_dns", texts domains)]

def Tight (entry : String × String) : Prop :=
  (∀ c ∈ entry.1.toList.getLast?, isSpace c = false) ∧ ∀ c ∈ entry.2.toList.head?, isSpace c = false

theorem tight_of_all {entry : String × String} (last : entry.1.toList.getLast?.all (fun c => !isSpace c) = true)
    (first : entry.2.toList.head?.all (fun c => !isSpace c) = true) : Tight entry := by
  constructor
  · intro c member
    simpa using (Option.all_eq_true _ _).mp last c member
  · intro c member
    simpa using (Option.all_eq_true _ _).mp first c member

structure FirstOccurrences {α : Type} [DecidableEq α] (found kept : List α) : Prop where
  nodup : kept.Nodup
  mem : ∀ item, item ∈ kept ↔ item ∈ found
  order : kept.Pairwise fun first second => found.idxOf first < found.idxOf second

section Kept

variable {α : Type} [DecidableEq α] {found kept : List α}

theorem FirstOccurrences.old (sound : FirstOccurrences found kept) {item : α} (member : item ∈ kept) :
    FirstOccurrences (found ++ [item]) kept where
  nodup := sound.nodup
  mem other := by
    rw [sound.mem, List.mem_append, List.mem_singleton]
    constructor
    · exact Or.inl
    · rintro (old | rfl)
      · exact old
      · exact (sound.mem other).mp member
  order := by
    refine sound.order.imp_of_mem fun first second before => ?_
    rwa [List.idxOf_append_of_mem ((sound.mem _).mp first), List.idxOf_append_of_mem ((sound.mem _).mp second)]

theorem FirstOccurrences.new (sound : FirstOccurrences found kept) {item : α} (fresh : item ∉ kept) :
    FirstOccurrences (found ++ [item]) (kept ++ [item]) where
  nodup := List.nodup_append.mpr ⟨sound.nodup, by simp, by
    rintro other member _ last rfl
    exact fresh (List.mem_singleton.mp last ▸ member)⟩
  mem other := by rw [List.mem_append, List.mem_append, sound.mem]
  order := by
    refine List.pairwise_append.mpr ⟨?_, List.pairwise_singleton _ _, ?_⟩
    · refine sound.order.imp_of_mem fun first second before => ?_
      rwa [List.idxOf_append_of_mem ((sound.mem _).mp first),
        List.idxOf_append_of_mem ((sound.mem _).mp second)]
    · rintro other member last single
      obtain rfl := List.mem_singleton.mp single
      have inFound := (sound.mem other).mp member
      have absent : last ∉ found := fun old => fresh ((sound.mem last).mpr old)
      rw [List.idxOf_append_of_mem inFound, List.idxOf_append_of_notMem absent]
      exact Nat.lt_of_lt_of_le (List.idxOf_lt_length_of_mem inFound) (Nat.le_add_right _ _)

end Kept

/-- What `collect` keeps of the normal forms, which are never empty. -/
theorem collect_firstOccurrences {normalize : String → Option String}
    (named : ∀ candidate, normalize candidate ≠ some "") (candidates : List String) :
    FirstOccurrences (candidates.filterMap normalize) (collect normalize candidates) := by
  induction candidates using List.reverseRecOn with
  | nil => exact ⟨List.nodup_nil, by simp [collect], List.Pairwise.nil⟩
  | append_singleton candidates candidate ih =>
      rw [collect, List.foldl_append, List.foldl_cons, List.foldl_nil, List.filterMap_append, ← collect]
      cases normal : normalize candidate with
      | none => simpa [appendUnique, normal] using ih
      | some item =>
          have nonempty : item ≠ "" := by
            rintro rfl
            exact named candidate normal
          simp only [appendUnique, nonempty, false_or, List.filterMap_cons, normal, List.filterMap_nil]
          split
          · exact ih.old ‹_›
          · exact ih.new ‹_›

theorem collect_map_firstOccurrences {α : Type} {normalize : String → Option String}
    (named : ∀ candidate, normalize candidate ≠ some "") (text : α → String) (items : List α) :
    FirstOccurrences (items.filterMap fun item => normalize (text item)) (collect normalize (items.map text)) := by
  have kept := collect_firstOccurrences named (items.map text)
  rwa [List.filterMap_map] at kept

theorem collect_congr {normalize : String → Option String} {first second : List String}
    (same : first.filterMap normalize = second.filterMap normalize) :
    collect normalize first = collect normalize second := by
  have normal (candidates : List String) : collect normalize candidates =
      (candidates.filterMap normalize).foldl (fun items item => appendUnique items (some item)) [] := by
    have folded : ∀ items, candidates.foldl (fun items candidate => appendUnique items (normalize candidate)) items =
        (candidates.filterMap normalize).foldl (fun items item => appendUnique items (some item)) items := by
      induction candidates with
      | nil => exact fun _ => rfl
      | cons candidate rest ih =>
          intro items
          rw [List.foldl_cons, ih, List.filterMap_cons]
          cases normalize candidate <;> rfl
    exact folded []
  rw [normal, normal, same]

theorem readSigned_digits (magnitude : List Char → Option Nat) {digit : Nat} (small : digit < 10) (rest : List Char) :
    readSigned magnitude (Nat.digitChar digit :: rest) =
      (magnitude (Nat.digitChar digit :: rest)).map fun (value : Nat) => (value : Int) := by
  have unsigned : ∀ digit < 10, Nat.digitChar digit ≠ '-' ∧ Nat.digitChar digit ≠ '+' := by decide
  obtain ⟨minus, plus⟩ := unsigned digit small
  unfold readSigned
  split
  · rename_i same
    exact absurd (List.cons.inj same).1 minus
  · rename_i same
    exact absurd (List.cons.inj same).1 plus
  · rfl

theorem repr_plain (number : Nat) : ∀ c ∈ (Nat.repr number).toList, isPlain c = true := by
  intro c member
  rw [Nat.toList_repr] at member
  obtain ⟨digit, small, rfl⟩ := mem_toDigits (by decide) member
  exact digitChar_plain digit (by omega)

theorem decimalLiteral_repr (number : Nat) : decimalLiteral (Nat.repr number) = some (number : Int) := by
  have plain := repr_plain number
  have ascii : (Nat.repr number).toList.map asciiDecimal = (Nat.repr number).toList := by
    refine (List.map_congr_left fun c member => ?_).trans (List.map_id _)
    have small := plain c member
    simp only [isPlain, Bool.and_eq_true, decide_eq_true_eq] at small
    simp [asciiDecimal, small.1]
  have visible : ∀ c ∈ (Nat.repr number).toList, isIntSpace c = false := by
    intro c member
    have small := plain c member
    simp only [isPlain, Bool.and_eq_true, Bool.not_eq_true'] at small
    exact small.2
  have read := @readDigits_toDigits 10 (by decide) (by decide) number [] 0 false
  rw [List.append_nil, Nat.zero_mul, Nat.zero_add] at read
  rw [decimalLiteral, ascii, stripChars_none visible, Nat.toList_repr]
  obtain ⟨first, rest, digits⟩ := List.exists_cons_of_length_pos (@Nat.length_toDigits_pos 10 number)
  obtain ⟨digit, small, rfl⟩ := mem_toDigits (by decide) (digits ▸ List.mem_cons_self : first ∈ Nat.toDigits 10 number)
  rw [digits, readSigned_digits _ small, ← digits, read]
  rfl

theorem strip_repr (number : Nat) : strip (Nat.repr number) = Nat.repr number := by
  have visible : ∀ c ∈ (Nat.repr number).toList, isSpace c = false := by
    intro c member
    rw [Nat.toList_repr] at member
    obtain ⟨digit, small, rfl⟩ := mem_toDigits (by decide) member
    have digits : ∀ digit < 10, isSpace (Nat.digitChar digit) = false := by decide
    exact digits digit small
  rw [strip, stripChars_none visible, String.ofList_toList]

/-- A printed count is read back, as long as `int` reads its digits. -/
theorem parseCount_repr {number : Nat} (short : number < 10 ^ maxIntDigits) : parseCount (toString number) = number := by
  have nonempty : Nat.repr number ≠ "" := by
    intro empty
    have positive := @Nat.length_repr_pos number
    rw [empty] at positive
    exact absurd positive (by decide)
  have few : ¬maxIntDigits < ((Nat.repr number).toList.filter fun c =>
      (digitValue (asciiDecimal c)).isSome).length := by
    refine Nat.not_lt.mpr ((List.length_filter_le _ _).trans ?_)
    rw [String.length_toList]
    exact (Nat.length_repr_le_iff (by decide)).mpr short
  change parseCount (Nat.repr number) = number
  simp only [parseCount, strip_repr, if_neg nonempty, if_neg few, decimalLiteral_repr, Option.getD_some,
    Int.toNat_natCast]

/-! The variables can be told apart. -/

theorem entryKey_injective {key field : String} {first second : Nat}
    (same : entryKey key field first = entryKey key field second) : first = second := by
  have chars := congrArg String.toList same
  simp only [entryKey, String.toList_append, List.append_assoc] at chars
  exact toString_injective (String.toList_inj.mp
    (List.append_cancel_right (List.append_cancel_left (List.append_cancel_left chars))))

theorem address_ne_masklen (key : String) (first second : Nat) :
    entryKey key "_ADDR" first ≠ entryKey key "_MASKLEN" second := by
  have address : ∀ front : String, (front ++ "_ADDR").toList.getLast? = some 'R' := by
    simp [String.toList_append, List.getLast?_append]
  have masklen : ∀ front : String, (front ++ "_MASKLEN").toList.getLast? = some 'N' := by
    simp [String.toList_append, List.getLast?_append]
  intro same
  have last := (address _).symm.trans ((congrArg (fun name : String => name.toList.getLast?) same).trans (masklen _))
  exact absurd last (by decide)

theorem key_ne_entryKey (key field : String) (index : Nat) : key ≠ entryKey key field index := by
  intro same
  have longer := congrArg (fun name : String => name.toList.length) same
  simp [entryKey, String.toList_append] at longer

theorem mem_encodeRoutes {key : String} {entries : List (String × String)} {name value : String} :
    (name, value) ∈ encodeRoutes key entries ↔
      (name = key ∧ value = toString entries.length) ∨ ∃ index entry, entries[index]? = some entry ∧
        ((name = entryKey key "_ADDR" index ∧ value = entry.1) ∨
          (name = entryKey key "_MASKLEN" index ∧ value = entry.2)) := by
  simp only [encodeRoutes, List.mem_cons, Prod.mk.injEq, List.mem_flatMap, encodeEntry, List.not_mem_nil, or_false]
  refine or_congr_right ?_
  constructor
  · rintro ⟨⟨entry, index⟩, member, same⟩
    exact ⟨index, entry, List.mem_zipIdx_iff_getElem?.mp member, same⟩
  · rintro ⟨index, entry, found, same⟩
    exact ⟨(entry, index), List.mem_zipIdx_iff_getElem?.mpr found, same⟩

theorem encodeRoutes_start {key name value : String} {entries : List (String × String)}
    (member : (name, value) ∈ encodeRoutes key entries) : key.toList <+: name.toList := by
  rcases mem_encodeRoutes.mp member with ⟨rfl, -⟩ | ⟨index, entry, -, ⟨rfl, -⟩ | ⟨rfl, -⟩⟩
  · exact List.prefix_refl _
  · simp only [entryKey, String.toList_append, List.append_assoc]
    exact List.prefix_append _ _
  · simp only [entryKey, String.toList_append, List.append_assoc]
    exact List.prefix_append _ _

theorem encodedVariables_family {v4 v6 : List (String × String)} {domains : List String} {name value : String}
    (member : (name, value) ∈ encodedVariables v4 v6 domains) :
    (name.toList.take 15 = "CISCO_SPLIT_INC".toList ∧ (name, value) ∈ encodeRoutes "CISCO_SPLIT_INC" v4) ∨
      (name.toList.take 15 = "CISCO_IPV6_SPLI".toList ∧ (name, value) ∈ encodeRoutes "CISCO_IPV6_SPLIT_INC" v6) ∨
      (name.toList.take 15 = "CISCO_SPLIT_DNS".toList ∧ value = join "," domains) := by
  simp only [encodedVariables, List.mem_append, List.mem_singleton, Prod.mk.injEq] at member
  rcases member with (inV4 | inV6) | ⟨rfl, rfl⟩
  · obtain ⟨rest, whole⟩ := encodeRoutes_start inV4
    exact Or.inl ⟨by rw [← whole]; rfl, inV4⟩
  · obtain ⟨rest, whole⟩ := encodeRoutes_start inV6
    exact Or.inr (Or.inl ⟨by rw [← whole]; rfl, inV6⟩)
  · exact Or.inr (Or.inr ⟨by decide +kernel, rfl⟩)

theorem dictGet_only {α : Type} {key : String} {value : α} {entries : List (String × α)} (member : (key, value) ∈ entries)
    (only : ∀ other, (key, other) ∈ entries → other = value) : dictGet key entries = some value := by
  cases found : dictGet key entries with
  | some other => rw [only other (mem_of_dictGet found)]
  | none =>
      exfalso
      induction entries with
      | nil => simp at member
      | cons entry rest ih =>
          rw [dictGet] at found
          split at found
          · cases found
          · rename_i other
            rcases List.mem_cons.mp member with rfl | later
            · exact other rfl
            · exact ih later (fun other member => only other (List.mem_cons_of_mem _ member)) found

/-- The environment gives the entries of a family one after the other. -/
structure Encodes (environ : Environ) (key : String) (entries : List (String × String)) : Prop where
  count : environ.get key = toString entries.length
  address : ∀ index entry, entries[index]? = some entry → environ.get (entryKey key "_ADDR" index) = entry.1
  masklen : ∀ index entry, entries[index]? = some entry → environ.get (entryKey key "_MASKLEN" index) = entry.2

theorem encodes_of_members {environ : Environ} {key : String} {entries : List (String × String)}
    (given : ∀ name value, (name, value) ∈ encodeRoutes key entries →
      (∀ other, (name, other) ∈ encodeRoutes key entries → other = value) → environ.get name = value) :
    Encodes environ key entries := by
  refine ⟨?_, ?_, ?_⟩
  · refine given _ _ (mem_encodeRoutes.mpr (Or.inl ⟨rfl, rfl⟩)) fun other member => ?_
    rcases mem_encodeRoutes.mp member with ⟨-, same⟩ | ⟨index, entry, -, ⟨same, -⟩ | ⟨same, -⟩⟩
    · exact same
    · exact absurd same (key_ne_entryKey key "_ADDR" index)
    · exact absurd same (key_ne_entryKey key "_MASKLEN" index)
  · intro index entry found
    refine given _ _ (mem_encodeRoutes.mpr (Or.inr ⟨index, entry, found, Or.inl ⟨rfl, rfl⟩⟩)) fun other member => ?_
    rcases mem_encodeRoutes.mp member with ⟨same, -⟩ | ⟨at_, there, found', ⟨same, value⟩ | ⟨same, -⟩⟩
    · exact absurd same.symm (key_ne_entryKey key "_ADDR" index)
    · obtain rfl := entryKey_injective same
      rw [value, Option.some.inj (found'.symm.trans found)]
    · exact absurd same (address_ne_masklen key index at_)
  · intro index entry found
    refine given _ _ (mem_encodeRoutes.mpr (Or.inr ⟨index, entry, found, Or.inr ⟨rfl, rfl⟩⟩)) fun other member => ?_
    rcases mem_encodeRoutes.mp member with ⟨same, -⟩ | ⟨at_, there, found', ⟨same, -⟩ | ⟨same, value⟩⟩
    · exact absurd same.symm (key_ne_entryKey key "_MASKLEN" index)
    · exact absurd same.symm (address_ne_masklen key at_ index)
    · obtain rfl := entryKey_injective same
      rw [value, Option.some.inj (found'.symm.trans found)]

example : collect normalizePushedRoute ["10.1.0.0/8", "::1"] = ["10.0.0.0/8", "::1/128"] := by decide +kernel

section Environment

variable (v4 v6 : List (String × String)) (domains : List String)

theorem encodes_v4 : Encodes (encodeEnvironment v4 v6 domains) "CISCO_SPLIT_INC" v4 := by
  refine encodes_of_members fun name value member only => ?_
  obtain ⟨rest, whole⟩ := encodeRoutes_start member
  have start : name.toList.take 15 = "CISCO_SPLIT_INC".toList := by rw [← whole]; rfl
  have found : dictGet name (encodedVariables v4 v6 domains) = some value := by
    refine dictGet_only (List.mem_append_left _ (List.mem_append_left _ member)) fun other there => ?_
    rcases encodedVariables_family there with ⟨-, same⟩ | ⟨family, -⟩ | ⟨family, -⟩
    · exact only other same
    · exact absurd (start.symm.trans family) (by decide +kernel)
    · exact absurd (start.symm.trans family) (by decide +kernel)
  rw [Environ.get, encodeEnvironment, found]
  rfl

theorem encodes_v6 : Encodes (encodeEnvironment v4 v6 domains) "CISCO_IPV6_SPLIT_INC" v6 := by
  refine encodes_of_members fun name value member only => ?_
  obtain ⟨rest, whole⟩ := encodeRoutes_start member
  have start : name.toList.take 15 = "CISCO_IPV6_SPLI".toList := by rw [← whole]; rfl
  have found : dictGet name (encodedVariables v4 v6 domains) = some value := by
    refine dictGet_only (List.mem_append_left _ (List.mem_append_right _ member)) fun other there => ?_
    rcases encodedVariables_family there with ⟨family, -⟩ | ⟨-, same⟩ | ⟨family, -⟩
    · exact absurd (start.symm.trans family) (by decide +kernel)
    · exact only other same
    · exact absurd (start.symm.trans family) (by decide +kernel)
  rw [Environ.get, encodeEnvironment, found]
  rfl

theorem encoded_domains : (encodeEnvironment v4 v6 domains).get "CISCO_SPLIT_DNS" = join "," domains := by
  have found : dictGet "CISCO_SPLIT_DNS" (encodedVariables v4 v6 domains) = some (join "," domains) := by
    refine dictGet_only (List.mem_append_right _ (List.mem_singleton.mpr rfl)) fun other there => ?_
    rcases encodedVariables_family there with ⟨family, -⟩ | ⟨family, -⟩ | ⟨-, same⟩
    · exact absurd family (by decide +kernel)
    · exact absurd family (by decide +kernel)
    · exact same
  rw [Environ.get, encodeEnvironment, found]
  rfl

end Environment

def handshakeText (entry : String × String) : Option String :=
  if strip entry.1 = "" ∨ strip entry.2 = "" then none else some (strip entry.1 ++ "/" ++ strip entry.2)

theorem stripChars_around {p : Char → Bool} {c : Char} (kept : p c = false) {front rest : List Char}
    (last : ∀ d ∈ front.getLast?, p d = false) (first : ∀ d ∈ rest.head?, p d = false) :
    stripChars p (front ++ c :: rest) = stripChars p front ++ c :: stripChars p rest := by
  have left : stripChars p (front ++ c :: rest) = front.dropWhile p ++ c :: dropEndWhile p rest := by
    rw [stripChars, ← dropEndWhile_append_cons kept, List.dropWhile_append]
    split
    · rename_i blank
      rw [List.isEmpty_iff.mp blank, List.dropWhile_cons_of_neg (by simp [kept]), List.nil_append]
    · rfl
  have front_ : stripChars p front = front.dropWhile p := by
    rcases stripChars_cases p front with ⟨blank, none⟩ | ⟨blank, start, others, blanks, visible, rfl, cut⟩
    · rw [none, List.dropWhile_eq_nil_iff.mpr blank]
    · rw [List.dropWhile_append_of_pos blanks, List.dropWhile_cons_of_neg (by simp [visible]), cut]
      have ends : (start :: others).getLast? = (blank ++ start :: others).getLast? := by
        rw [List.getLast?_append, List.getLast?_cons, Option.some_or]
      have whole := @stripChars_edges p (start :: others) (by simp [visible]) (ends ▸ last)
      rw [← whole, stripChars, List.dropWhile_cons_of_neg (by simp [visible]), dropEndWhile_cons visible]
  have rest_ : stripChars p rest = dropEndWhile p rest := by
    cases rest with
    | nil => rfl
    | cons d rest => rw [stripChars, List.dropWhile_cons_of_neg (by simp [first d rfl])]
  rw [left, front_, rest_]

theorem ipNetwork_noAddress (mask : String) : ipNetwork ("" ++ "/" ++ mask) = none := by
  have noPart : ∀ family part length, cutNetwork family ('/' :: mask.toList) = some (part, length) → part = [] := by
    intro family part length cut
    rw [cutNetwork, splitChar, if_pos rfl] at cut
    split at cut
    · rename_i parts
      exact absurd (List.cons.inj parts).2 (splitChar_ne_nil _ _)
    · rename_i parts
      obtain ⟨length, -, same⟩ := Option.map_eq_some_iff.mp cut
      rw [← (List.cons.inj parts).1] at same
      exact (Prod.mk.inj same).1.symm
    · cases cut
  have chars : ("" ++ "/" ++ mask).toList = '/' :: mask.toList := by simp [String.toList_append]
  have refused : ∀ family (address : List Char → Option Address), address [] = none →
      readNetwork false family address ('/' :: mask.toList) = none := by
    intro family address empty
    rw [Option.eq_none_iff_forall_ne_some]
    intro network read
    obtain ⟨part, length, base, cut, found, -⟩ := readNetwork_iff.mp read
    rw [noPart family part length cut, empty] at found
    cases found
  rw [ipNetwork, chars, refused .v4 ipv4Address (by decide), refused .v6 ipv6Address (by decide)]
  rfl

theorem ipNetwork_noMask (address : String) : ipNetwork (address ++ "/" ++ "") = none := by
  have noCut : ∀ family, cutNetwork family (address.toList ++ ['/']) = none := by
    intro family
    have noMask : parseMask family [] = none := by cases family <;> decide
    rw [cutNetwork, splitChar_append]
    split
    · rename_i parts
      have two := congrArg List.length parts
      have some_ := List.length_pos_of_ne_nil (splitChar_ne_nil '/' address.toList)
      rw [List.length_append] at two
      simp only [splitChar, List.length_singleton] at two
      omega
    · rename_i base mask parts
      have last := congrArg List.getLast? parts
      simp only [splitChar, List.getLast?_append, List.getLast?_singleton, Option.some_or, List.getLast?_cons_cons,
        Option.some.injEq] at last
      rw [← last, noMask]
      rfl
    · rfl
  have chars : (address ++ "/" ++ "").toList = address.toList ++ ['/'] := by simp [String.toList_append]
  have refused : ∀ family read, readNetwork false family read (address.toList ++ ['/']) = none := by
    intro family read
    rw [Option.eq_none_iff_forall_ne_some]
    intro network found
    obtain ⟨part, length, base, cut, -⟩ := readNetwork_iff.mp found
    rw [noCut] at cut
    cases cut
  rw [ipNetwork, chars, refused, refused]
  rfl

theorem strip_entryText {entry : String × String} (tight : Tight entry) :
    strip (entryText entry) = strip entry.1 ++ "/" ++ strip entry.2 := by
  have chars : (entryText entry).toList = entry.1.toList ++ '/' :: entry.2.toList := by
    simp [entryText, String.toList_append]
  rw [← String.toList_inj, strip, chars, stripChars_around (by decide) tight.1 tight.2]
  simp [strip, String.toList_append]

theorem handshakeText_normal {entry : String × String} (tight : Tight entry) :
    (handshakeText entry).bind normalizePushedRoute = normalizePushedRoute (entryText entry) := by
  have sent : normalizePushedRoute (entryText entry) =
      (ipNetwork (strip entry.1 ++ "/" ++ strip entry.2)).map Network.text := by
    rw [normalizePushedRoute, strip_entryText tight]
  rw [sent]
  unfold handshakeText
  split
  · rename_i empty
    rcases empty with address | masklen
    · rw [address, ipNetwork_noAddress]
      rfl
    · rw [masklen, ipNetwork_noMask]
      rfl
  · have stripped : Tight (strip entry.1, strip entry.2) := by
      constructor
      · intro c last
        rw [strip, String.toList_ofList] at last
        exact stripChars_getLast last
      · intro c first
        change c ∈ (strip entry.2).toList.head? at first
        rw [strip, String.toList_ofList] at first
        exact stripChars_head first
    have again := strip_entryText stripped
    rw [strip_strip, strip_strip] at again
    rw [Option.bind_some, normalizePushedRoute]
    exact congrArg (fun text => (ipNetwork text).map Network.text) again

theorem filterMap_getElem {α β : Type} (f : α → Option β) (items : List α) :
    ((List.range items.length).filterMap fun index => items[index]?.bind f) = items.filterMap f := by
  induction items with
  | nil => rfl
  | cons item rest ih =>
      rw [List.length_cons, List.range_succ_eq_map, List.filterMap_cons, List.filterMap_map, List.filterMap_cons]
      simp only [List.getElem?_cons_zero, Option.bind_some, Function.comp_apply, List.getElem?_cons_succ, ih]

theorem splitRoute_encodes {environ : Environ} {key : String} {entries : List (String × String)}
    (encodes : Encodes environ key entries) (few : entries.length < 10 ^ maxIntDigits) :
    ((List.range (parseCount (environ.get key))).filterMap (splitRoute environ key)) =
      entries.filterMap handshakeText := by
  rw [encodes.count, parseCount_repr few, ← filterMap_getElem handshakeText]
  refine List.filterMap_congr fun index member => ?_
  have found := List.getElem?_eq_getElem (List.mem_range.mp member)
  have address := encodes.address index _ found
  have masklen := encodes.masklen index _ found
  rw [entryKey] at address masklen
  rw [splitRoute, address, masklen, found, Option.bind_some, handshakeText]

theorem normalizePushedRoute_named (candidate : String) : normalizePushedRoute candidate ≠ some "" := by
  intro normal
  obtain ⟨network, -, text⟩ := Option.map_eq_some_iff.mp normal
  have chars := congrArg String.toList text
  simp [Network.text, String.toList_append] at chars

theorem normalizePushedDomain_named (candidate : String) : normalizePushedDomain candidate ≠ some "" := by
  intro normal
  rw [normalizePushedDomain] at normal
  split at normal
  · rename_i accepted
    exact accepted.1 (Option.some.inj normal)
  · cases normal

theorem splitDomains_encoded (v4 v6 : List (String × String)) {domains : List String}
    (commas : ∀ domain ∈ domains, ',' ∉ domain.toList) :
    (splitDomains (encodeEnvironment v4 v6 domains)).filterMap normalizePushedDomain =
      domains.filterMap normalizePushedDomain := by
  rw [splitDomains, encoded_domains]
  by_cases none : domains = []
  · subst none
    decide +kernel
  · rw [show "," = String.singleton ',' from rfl, splitChar_join none commas, List.map_map]
    refine congrArg _ ((List.map_congr_left fun domain _ => ?_).trans (List.map_id _))
    exact String.ofList_toList

theorem splitRoutes_encoded {v4 v6 : List (String × String)} (domains : List String)
    (tight : ∀ entry ∈ v4 ++ v6, Tight entry) (few4 : v4.length < 10 ^ maxIntDigits)
    (few6 : v6.length < 10 ^ maxIntDigits) :
    (splitRoutes (encodeEnvironment v4 v6 domains)).filterMap normalizePushedRoute =
      ((v4 ++ v6).map entryText).filterMap normalizePushedRoute := by
  have read : splitRoutes (encodeEnvironment v4 v6 domains) = (v4 ++ v6).filterMap handshakeText := by
    rw [splitRoutes, List.flatMap_cons, List.flatMap_singleton, splitRoute_encodes (encodes_v4 v4 v6 domains) few4,
      splitRoute_encodes (encodes_v6 v4 v6 domains) few6, ← List.filterMap_append]
  rw [read, List.filterMap_filterMap, List.filterMap_map]
  refine List.filterMap_congr fun entry member => ?_
  rw [Function.comp_apply]
  exact handshakeText_normal (tight entry member)

theorem parseSyncPayload_encoded (repr : Json → String) (entries : List (String × String)) (domains : List String) :
    parseSyncPayload repr (encodePayload entries domains) =
      .ok ⟨collect normalizePushedRoute (entries.map entryText), collect normalizePushedDomain domains, ""⟩ := by
  have routes (routes domains : Json) : lookup "routes" [("routes", routes), ("split_dns", domains)] = some routes := by
    simp [lookup]
  have splitDns (routes domains : Json) :
      lookup "split_dns" [("routes", routes), ("split_dns", domains)] = some domains := by simp [lookup]
  have version (routes domains : Json) : lookup "version" [("routes", routes), ("split_dns", domains)] = none := by
    simp [lookup]
  rw [encodePayload, parseSyncPayload, routes, splitDns, version, stringItems_texts, stringItems_texts]

/-- Entries without blanks around their slash are read the same from both encodings, each list once and
in the order of the first occurrences. -/
theorem encodings_agree (v4 v6 : List (String × String)) (domains : List String) (now : Int) (repr : Json → String)
    (tight : ∀ entry ∈ v4 ++ v6, Tight entry) (commas : ∀ domain ∈ domains, ',' ∉ domain.toList)
    (few4 : v4.length < 10 ^ maxIntDigits) (few6 : v6.length < 10 ^ maxIntDigits) :
    ∃ lists, parseSyncPayload repr (encodePayload (v4 ++ v6) domains) = .ok lists ∧
      (parseVpncEnvironment (encodeEnvironment v4 v6 domains) now).routes = texts lists.routes ∧
      (parseVpncEnvironment (encodeEnvironment v4 v6 domains) now).domains = texts lists.domains ∧
      FirstOccurrences ((v4 ++ v6).filterMap fun entry => normalizePushedRoute (entryText entry)) lists.routes ∧
      FirstOccurrences (domains.filterMap normalizePushedDomain) lists.domains := by
  have routes := collect_congr (splitRoutes_encoded domains tight few4 few6)
  have splitDns := collect_congr (splitDomains_encoded v4 v6 commas)
  refine ⟨_, parseSyncPayload_encoded repr _ domains, ?_, ?_, ?_, ?_⟩
  · rw [parseVpncEnvironment, routes]
  · rw [parseVpncEnvironment, splitDns]
  · exact collect_map_firstOccurrences normalizePushedRoute_named entryText (v4 ++ v6)
  · exact collect_firstOccurrences normalizePushedDomain_named domains

theorem encodings_agree_sample :
    ∃ lists, parseSyncPayload (fun _ => "") (encodePayload ([("10.0.0.1", "8")] ++ [("::1", "128")]) ["a.example"]) =
        .ok lists ∧
      (parseVpncEnvironment (encodeEnvironment [("10.0.0.1", "8")] [("::1", "128")] ["a.example"]) 0).routes =
        texts lists.routes ∧
      (parseVpncEnvironment (encodeEnvironment [("10.0.0.1", "8")] [("::1", "128")] ["a.example"]) 0).domains =
        texts lists.domains ∧
      FirstOccurrences (([("10.0.0.1", "8")] ++ [("::1", "128")]).filterMap fun entry =>
        normalizePushedRoute (entryText entry)) lists.routes ∧
      FirstOccurrences (["a.example"].filterMap normalizePushedDomain) lists.domains := by
  refine encodings_agree [("10.0.0.1", "8")] [("::1", "128")] ["a.example"] 0 _ ?_ (by decide +kernel) ?_ ?_
  · simp only [List.singleton_append, List.forall_mem_cons]
    exact ⟨tight_of_all (by decide +kernel) (by decide +kernel), tight_of_all (by decide +kernel) (by decide +kernel),
      by simp⟩
  · exact Nat.one_lt_pow (by decide) (by decide)
  · exact Nat.one_lt_pow (by decide) (by decide)

/-- The handshake trims the address alone, while a blank in front of the slash stays in the text that is sent. -/
theorem spacedAddress_dropped :
    (parseVpncEnvironment (encodeEnvironment [("10.0.0.0 ", "24")] [] []) 0).routes = texts ["10.0.0.0/24"] ∧
      ∃ lists, parseSyncPayload (fun _ => "") (encodePayload [("10.0.0.0 ", "24")] []) = .ok lists ∧
        lists.routes = [] := by
  constructor
  · have found : collect normalizePushedRoute (splitRoutes (encodeEnvironment [("10.0.0.0 ", "24")] [] [])) =
        ["10.0.0.0/24"] := by decide +kernel
    exact congrArg texts found
  · exact ⟨_, parseSyncPayload_encoded _ _ _, by decide +kernel⟩

end Korserver
