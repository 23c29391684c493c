import Korserver.AddressRoundTrip
import Korserver.ListRefreshCore
import Korserver.UntrustedLists

/-!
A refreshed list is read back as it was parsed, and its own text refreshes it to itself, exactly when
no entry is an IP address that a blocklist took for a domain: such a line is a hosts line without names.
-/

namespace Korserver

open PythonText IpAddress PythonValue

theorem mem_addUnseen {items : List String} {item other : String} :
    other ∈ addUnseen items item ↔ other ∈ items ∨ other = item := by
  unfold addUnseen
  split
  · rename_i seen
    refine (or_iff_left_of_imp ?_).symm
    rintro rfl
    exact seen
  · rw [List.mem_append, List.mem_singleton]

theorem addUnseen_nodup {items : List String} (distinct : items.Nodup) (item : String) :
    (addUnseen items item).Nodup := by
  unfold addUnseen
  split
  · exact distinct
  · rename_i unseen
    refine List.nodup_append.mpr ⟨distinct, List.nodup_singleton _, ?_⟩
    rintro known member other single rfl
    obtain rfl := List.mem_singleton.mp single
    exact unseen member

theorem mem_foldl_addUnseen {found items : List String} {item : String} :
    item ∈ found.foldl addUnseen items ↔ item ∈ items ∨ item ∈ found := by
  induction found generalizing items with
  | nil => simp
  | cons next rest ih => rw [List.foldl_cons, ih, mem_addUnseen, or_assoc, List.mem_cons]

theorem foldl_addUnseen_nodup {found items : List String} (distinct : items.Nodup) :
    (found.foldl addUnseen items).Nodup := by
  induction found generalizing items with
  | nil => exact distinct
  | cons next rest ih => exact ih (addUnseen_nodup distinct next)

section Scan

variable {found : String → List String} {limit : Nat} {refused : PyError}

/-- The items of the lines in their order, each once, as long as there are not too many. -/
def scanLines (found : String → List String) (limit : Nat) (refused : PyError) :
    List String → List String → Except PyError (List String)
  | [], items => .ok items
  | line :: rest, items =>
      let next := (found line).foldl addUnseen items
      if limit < next.length then .error refused else scanLines found limit refused rest next

theorem scanLines_ok {lines items all : List String} (scanned : scanLines found limit refused lines items = .ok all)
    (distinct : items.Nodup) (short : items.length ≤ limit) :
    all.Nodup ∧ all.length ≤ limit ∧ ∀ item ∈ all, item ∈ items ∨ ∃ line ∈ lines, item ∈ found line := by
  induction lines generalizing items with
  | nil =>
      obtain rfl := Except.ok.inj scanned
      exact ⟨distinct, short, fun item member => Or.inl member⟩
  | cons line rest ih =>
      rw [scanLines] at scanned
      split at scanned
      · nomatch scanned
      · rename_i fits
        obtain ⟨nodup, bounded, origins⟩ := ih scanned (foldl_addUnseen_nodup distinct) (Nat.le_of_not_lt fits)
        refine ⟨nodup, bounded, fun item member => ?_⟩
        rcases origins item member with early | ⟨later, inRest, inFound⟩
        · rcases mem_foldl_addUnseen.mp early with known | here
          · exact Or.inl known
          · exact Or.inr ⟨line, List.mem_cons_self, here⟩
        · exact Or.inr ⟨later, List.mem_cons_of_mem _ inRest, inFound⟩

theorem scanLines_own {keep : String → Bool} {lines items : List String}
    (own : ∀ line ∈ lines, found line = if keep line = true then [line] else []) (distinct : (items ++ lines).Nodup)
    (short : (items ++ lines).length ≤ limit) :
    scanLines found limit refused lines items = .ok (items ++ lines.filter keep) := by
  induction lines generalizing items with
  | nil => simp [scanLines]
  | cons line rest ih =>
      obtain ⟨first, others⟩ := List.forall_mem_cons.mp own
      have unseen : line ∉ items := fun seen =>
        (List.nodup_append.mp distinct).2.2 line seen line List.mem_cons_self rfl
      rw [List.length_append, List.length_cons] at short
      rw [scanLines, first]
      by_cases kept : keep line = true
      · have next : items ++ line :: rest = (items ++ [line]) ++ rest := by simp
        have fits : ¬limit < (items ++ [line]).length := by
          rw [List.length_append, List.length_singleton]
          omega
        rw [if_pos kept, List.filter_cons_of_pos kept]
        simp only [List.foldl_cons, List.foldl_nil, addUnseen, if_neg unseen]
        rw [if_neg fits, ih others (next ▸ distinct), List.append_assoc, List.singleton_append]
        rw [List.length_append, List.length_append, List.length_singleton]
        omega
      · have skipped : (items ++ rest).Nodup :=
          distinct.sublist (List.Sublist.append_left (List.sublist_cons_self line rest) items)
        rw [if_neg kept, List.filter_cons_of_neg kept, List.foldl_nil, if_neg (by omega), ih others skipped]
        rw [List.length_append]
        omega

end Scan

/-! The two parsers as scans. -/

def listEntries (normalize : String → Option String) (rawLine : String) : List String :=
  if isCommentLine (strip rawLine) = true ∨ lineCandidate (strip rawLine) = "" then []
  else (normalize (lineCandidate (strip rawLine))).toList

def blocklistEntries (rawLine : String) : List String :=
  if isCommentLine (strip rawLine) = true then []
  else (lineCandidates (uncommented (strip rawLine))).filterMap normalizeBlocklistDomain

def tooManyEntries : PyError := .valueError "list exceeds the safety limit of 500000 entries"

def tooManyDomains : PyError := .valueError "blocklist exceeds the safety limit of 500000 entries"

theorem scanLines_line {found : String → List String} {limit : Nat} {refused : PyError} {line : String}
    {entries : List String} (given : found line = entries) (items : List String) :
    scanLines found limit refused [line] items =
      if limit < (entries.foldl addUnseen items).length then .error refused
      else .ok (entries.foldl addUnseen items) := by
  subst given
  rfl

theorem parseListLine_scan (normalize : String → Option String) (result : ExternalListParseResult) (line : String)
    (short : result.items.length ≤ maxListEntries) :
    (parseListLine normalize result line).map (·.items) =
      scanLines (listEntries normalize) maxListEntries tooManyEntries [line] result.items := by
  have unchanged : ¬maxListEntries < result.items.length := Nat.not_lt_of_le short
  have skipped (none : listEntries normalize line = []) :
      scanLines (listEntries normalize) maxListEntries tooManyEntries [line] result.items = .ok result.items := by
    rw [scanLines_line none, List.foldl_nil, if_neg unchanged]
  simp only [parseListLine]
  by_cases comment : isCommentLine (strip line) = true
  · rw [if_pos comment, skipped (if_pos (Or.inl comment))]
    rfl
  · by_cases empty : lineCandidate (strip line) = ""
    · rw [if_neg comment, if_pos empty, skipped (if_pos (Or.inr empty))]
      rfl
    · have entries : listEntries normalize line = (normalize (lineCandidate (strip line))).toList :=
        if_neg (not_or.mpr ⟨comment, empty⟩)
      rw [if_neg comment, if_neg empty]
      cases normal : normalize (lineCandidate (strip line)) with
      | none =>
          rw [normal] at entries
          rw [skipped entries]
          rfl
      | some item =>
          rw [normal] at entries
          have one : listEntries normalize line = [item] := entries
          rw [scanLines_line one, List.foldl_cons, List.foldl_nil]
          change Except.map _ (if maxListEntries < (addUnseen result.items item).length then _ else
            Except.ok { result with totalLines := _, items := addUnseen result.items item }) = _
          by_cases exceeds : maxListEntries < (addUnseen result.items item).length
          · rw [if_pos exceeds, if_pos exceeds]
            rfl
          · rw [if_neg exceeds, if_neg exceeds]
            rfl

theorem parseBlocklistLine_scan (result : ExternalListParseResult) (line : String)
    (short : result.items.length ≤ maxBlocklistEntries) :
    (parseBlocklistLine result line).map (·.items) =
      scanLines blocklistEntries maxBlocklistEntries tooManyDomains [line] result.items := by
  have unchanged : ¬maxBlocklistEntries < result.items.length := Nat.not_lt_of_le short
  have skipped (none : blocklistEntries line = []) :
      scanLines blocklistEntries maxBlocklistEntries tooManyDomains [line] result.items = .ok result.items := by
    rw [scanLines_line none, List.foldl_nil, if_neg unchanged]
  simp only [parseBlocklistLine]
  by_cases comment : isCommentLine (strip line) = true
  · rw [if_pos comment, skipped (if_pos comment)]
    rfl
  · have entries : blocklistEntries line =
        (lineCandidates (uncommented (strip line))).filterMap normalizeBlocklistDomain := if_neg comment
    rw [if_neg comment]
    cases candidates : lineCandidates (uncommented (strip line)) with
    | nil =>
        rw [candidates] at entries
        rw [skipped entries]
        rfl
    | cons first rest =>
        rw [candidates] at entries
        rw [scanLines_line entries]
        simp only
        generalize ((first :: rest).filterMap normalizeBlocklistDomain).foldl addUnseen result.items = items
        by_cases exceeds : maxBlocklistEntries < items.length
        · rw [if_pos exceeds, if_pos exceeds]
          rfl
        · rw [if_neg exceeds, if_neg exceeds]
          rfl

theorem scanLines_cons {found : String → List String} {limit : Nat} {refused : PyError} (line : String)
    (rest items : List String) : scanLines found limit refused (line :: rest) items =
      (scanLines found limit refused [line] items).bind (scanLines found limit refused rest) := by
  simp only [scanLines]
  split <;> rfl

section Lines

variable {parseLine : ExternalListParseResult → String → Except PyError ExternalListParseResult}
  {parseLines : List String → ExternalListParseResult → Except PyError ExternalListParseResult}
  {found : String → List String} {limit : Nat} {refused : PyError}

theorem parseLines_scan (done : ∀ result, parseLines [] result = .ok result)
    (more : ∀ line rest result, parseLines (line :: rest) result = (parseLine result line).bind (parseLines rest))
    (step : ∀ result line, result.items.length ≤ limit →
      (parseLine result line).map (·.items) = scanLines found limit refused [line] result.items)
    (lines : List String) (result : ExternalListParseResult) (distinct : result.items.Nodup)
    (short : result.items.length ≤ limit) :
    (parseLines lines result).map (·.items) = scanLines found limit refused lines result.items := by
  induction lines generalizing result with
  | nil =>
      rw [done]
      rfl
  | cons line rest ih =>
      have first := step result line short
      rw [more, scanLines_cons, ← first]
      cases parsed : parseLine result line with
      | error => rfl
      | ok next =>
          rw [parsed] at first
          obtain ⟨nodup, bounded, -⟩ := scanLines_ok first.symm distinct short
          exact ih next nodup bounded

end Lines

namespace ListSource

def entries : ListSource → String → List String
  | route => listEntries normalizeRoute
  | domain => listEntries normalizeDomain
  | hostRoute => listEntries normalizeRoute
  | hostDomain => listEntries normalizeDomain
  | blocklist => blocklistEntries

def refusal : ListSource → PyError
  | blocklist => tooManyDomains
  | _ => tooManyEntries

theorem parse_scan (source : ListSource) (text : String) :
    (source.parse text).map (·.items) = scanLines source.entries 500000 source.refusal (splitLines text) [] := by
  have list (normalize : String → Option String) : (parseListText text normalize).map (·.items) =
      scanLines (listEntries normalize) maxListEntries tooManyEntries (splitLines text) [] :=
    parseLines_scan (fun _ => rfl) (fun _ _ _ => rfl) (parseListLine_scan normalize) (splitLines text) {}
      List.nodup_nil (Nat.zero_le _)
  cases source with
  | route => exact list normalizeRoute
  | domain => exact list normalizeDomain
  | hostRoute => exact list normalizeRoute
  | hostDomain => exact list normalizeDomain
  | blocklist =>
      exact parseLines_scan (fun _ => rfl) (fun _ _ _ => rfl) parseBlocklistLine_scan (splitLines text) {}
        List.nodup_nil (Nat.zero_le _)

end ListSource

/-! Entries that are words of their own. -/

structure IsWord (item : String) : Prop where
  some_ne : item.toList ≠ []
  visible : ∀ c ∈ item.toList, isSpace c = false ∧ c ≠ '#'
  start : ∀ c ∈ item.toList.head?, c ≠ '!' ∧ c ≠ ';' ∧ c ≠ '|'

namespace IsWord

variable {item : String} (word : IsWord item)

include word

theorem strip_eq : strip item = item := by
  have edges : stripChars isSpace item.toList = item.toList := stripChars_edges
    (fun c first => (word.visible c (List.mem_of_head? first)).1)
    fun c last => (word.visible c (List.mem_of_getLast? last)).1
  rw [strip, edges, String.ofList_toList]

theorem ne_empty : item ≠ "" := fun empty => word.some_ne (String.toList_eq_nil_iff.mpr empty)

theorem noComment : isCommentLine item = false := by
  obtain ⟨first, rest, chars⟩ := List.exists_cons_of_ne_nil word.some_ne
  have sharp := (word.visible first (by rw [chars]; exact List.mem_cons_self)).2
  have start := word.start first (by rw [chars]; rfl)
  simp [isCommentLine, word.ne_empty, chars, sharp, start]

theorem isEntry : IsEntry item :=
  ⟨word.ne_empty, fun sharp => (word.visible '#' (List.mem_of_head? sharp)).2 rfl⟩

theorem whole : ∀ c ∈ item.toList, isLineBreak c = false := fun c member => not_isLineBreak (word.visible c member).1

theorem takeWhile_eq : item.toList.takeWhile (· ≠ '#') = item.toList :=
  List.takeWhile_eq_self_iff.mpr fun c member => decide_eq_true (word.visible c member).2

theorem uncommented_eq : uncommented item = item := by
  have kept := word.strip_eq
  rw [strip] at kept
  rw [uncommented, word.takeWhile_eq, kept]

theorem splitSpace_eq : splitSpace item.toList = [item.toList] :=
  splitSpace_word word.some_ne fun c member => (word.visible c member).1

theorem candidate_eq : lineCandidate item = item := by
  have kept := congrArg String.toList word.strip_eq
  rw [strip, String.toList_ofList] at kept
  rw [lineCandidate, word.takeWhile_eq, kept, word.splitSpace_eq]
  exact String.ofList_toList

theorem candidates_eq : lineCandidates item = if (ipAddress item).isSome = true then [] else [item] := by
  have alone : (splitSpace item.toList).map String.ofList = [item] := by
    rw [word.splitSpace_eq, List.map_singleton, String.ofList_toList]
  have noRule : ¬(['|', '|'] <+: item.toList ∧ item.toList.getLast? = some '^') := by
    rintro ⟨⟨rest, chars⟩, -⟩
    exact (word.start '|' (by rw [← chars]; rfl)).2.2 rfl
  rw [lineCandidates, alone]
  simp only [noRule, ne_eq, not_true_eq_false, if_false]

theorem append {rest : String} (visible : ∀ c ∈ rest.toList, isSpace c = false ∧ c ≠ '#') : IsWord (item ++ rest) := by
  obtain ⟨first, others, chars⟩ := List.exists_cons_of_ne_nil word.some_ne
  refine ⟨?_, ?_, ?_⟩
  · rw [String.toList_append, chars]
    exact List.cons_ne_nil _ _
  · intro c member
    rw [String.toList_append, List.mem_append] at member
    exact member.elim (word.visible c) (visible c)
  · have start := word.start
    rw [chars] at start
    rw [String.toList_append, chars]
    exact start

end IsWord

def isItemChar (c : Char) : Bool := isAlnum c || c == '-' || c == '.' || c == ':' || c == '/' || c == '_'

theorem isItemChar_range {c : Char} (plain : isItemChar c = true) : 45 ≤ c.toNat ∧ c.toNat ≤ 122 ∧ c.toNat ≠ 59 := by
  simp only [isItemChar, Bool.or_eq_true, beq_iff_eq] at plain
  rcases plain with ((((letter | rfl) | rfl) | rfl) | rfl) | rfl
  · rcases isAlnum_range letter with digit | other <;> omega
  all_goals decide

theorem isWord_of_plain {item : String} (some_ne : item ≠ "") (plain : ∀ c ∈ item.toList, isItemChar c = true) :
    IsWord item := by
  have distinct {c d : Char} (member : c ∈ item.toList) (outside : d.toNat < 45 ∨ 122 < d.toNat ∨ d.toNat = 59) :
      c ≠ d := by
    rintro rfl
    have range := isItemChar_range (plain c member)
    omega
  refine ⟨fun empty => some_ne (String.toList_eq_nil_iff.mp empty), fun c member => ?_, fun c first => ?_⟩
  · have range := isItemChar_range (plain c member)
    exact ⟨(visible_of_range (by omega) (by omega)).1, distinct member (by decide)⟩
  · have member := List.mem_of_head? first
    exact ⟨distinct member (by decide), distinct member (by decide), distinct member (by decide)⟩

theorem isItemChar_of_address {c : Char} (address : isAddressChar c = true) : isItemChar c = true := by
  simp only [isAddressChar, Bool.or_eq_true, beq_iff_eq] at address
  rcases address with (hex | rfl) | rfl
  · simp [isItemChar, isAlnum_of_hex hex]
  all_goals decide

theorem isItemChar_of_domain {c : Char} (plain : isDomainChar c = true) : isItemChar c = true := by
  simp only [isDomainChar, Bool.or_eq_true, beq_iff_eq] at plain
  rcases plain with (alnum | rfl) | rfl
  · simp [isItemChar, alnum]
  all_goals decide

/-! Normalizing twice. -/

def IsCandidate (candidate : String) : Prop := ∀ c ∈ candidate.toList, isSpace c = false ∧ c ≠ '#'

theorem word_of_address {address : Address}
    (scopes : ∀ scope ∈ address.scope, ∀ c ∈ scope.toList, isSpace c = false ∧ c ≠ '#') : IsWord address.text := by
  obtain ⟨rest, cut, origins⟩ := address.text_split
  obtain ⟨some_ne, chars⟩ := @Address.text_chars { address with scope := none } rfl
  have front := isWord_of_plain some_ne fun c member => isItemChar_of_address (chars c member)
  have visible : ∀ c ∈ (String.ofList rest).toList, isSpace c = false ∧ c ≠ '#' := by
    intro c member
    rw [String.toList_ofList] at member
    rcases origins c member with rfl | ⟨scope, given, inScope⟩
    · decide
    · exact scopes scope given c inScope
  have same : address.text = ({ address with scope := none } : Address).text ++ String.ofList rest := by
    rw [← String.toList_inj, cut, String.toList_append, String.toList_ofList]
  rw [same]
  exact front.append visible

theorem word_of_network {network : Network}
    (scopes : ∀ scope ∈ network.base.scope, ∀ c ∈ scope.toList, isSpace c = false ∧ c ≠ '#') :
    IsWord network.text := by
  rw [Network.text, String.append_assoc]
  refine (word_of_address scopes).append fun c member => ?_
  have plain : isItemChar c = true := by
    rw [String.toList_append, List.mem_append] at member
    rcases member with slash | digit
    · obtain rfl := List.mem_singleton.mp slash
      decide
    · have digits : c ∈ Nat.toDigits 10 network.prefixLength := by
        rwa [show toString network.prefixLength = Nat.repr network.prefixLength from rfl, Nat.toList_repr] at digit
      refine isItemChar_of_address ?_
      simp [isAddressChar, toDigits_hex (by decide) (by decide) digits]
  have range := isItemChar_range plain
  refine ⟨(visible_of_range (by omega) (by omega)).1, ?_⟩
  rintro rfl
  exact absurd range.1 (by decide)

theorem normalizeRoute_normal {candidate item : String} (normal : normalizeRoute candidate = some item) :
    normalizeRoute item = some item := by
  unfold normalizeRoute at normal
  split at normal
  · obtain ⟨network, read, rfl⟩ := Option.map_eq_some_iff.mp normal
    have slash : '/' ∈ network.text.toList := by
      simp [Network.text, String.toList_append]
    rw [normalizeRoute, if_pos slash, ipNetwork_text (ipNetwork_readable read)]
    rfl
  · obtain ⟨address, read, rfl⟩ := Option.map_eq_some_iff.mp normal
    have again := ipAddress_text (ipAddress_readable read)
    rw [normalizeRoute, if_neg (ipAddress_noSlash again), again]
    rfl

theorem normalizeRoute_word {candidate item : String} (isCandidate : IsCandidate candidate)
    (normal : normalizeRoute candidate = some item) : IsWord item := by
  unfold normalizeRoute at normal
  split at normal
  · obtain ⟨network, read, rfl⟩ := Option.map_eq_some_iff.mp normal
    exact word_of_network fun scope given c member => isCandidate c (ipNetwork_scopeChars read scope given c member)
  · obtain ⟨address, read, rfl⟩ := Option.map_eq_some_iff.mp normal
    have read := (ipAddress_cases read).imp And.right fun v6 => v6.2.2
    exact word_of_address fun scope given c member => isCandidate c (ipAddress_scopeChars read scope given c member)

theorem stripEnd_stripEnd (c : Char) (text : String) : stripEnd c (stripEnd c text) = stripEnd c text := by
  rw [stripEnd, stripEnd, String.toList_ofList, dropEndWhile, dropEndWhile, List.reverse_reverse,
    List.dropWhile_idempotent]

theorem domain_own (value : String) (word : IsWord (stripEnd '.' (lower value))) :
    stripEnd '.' (lower (strip (stripEnd '.' (lower value)))) = stripEnd '.' (lower value) := by
  have lowered : lower (stripEnd '.' (lower value)) = stripEnd '.' (lower value) :=
    lower_eq_iff.mpr fun c member => lower_fixed (mem_stripEnd member)
  rw [word.strip_eq, lowered, stripEnd_stripEnd]

theorem normalizeDomain_word {candidate item : String} (isCandidate : IsCandidate candidate)
    (normal : normalizeDomain candidate = some item) : IsWord item := by
  have whole : '\n' ∉ candidate.toList := fun newline => absurd (isCandidate '\n' newline).1 (by decide)
  obtain ⟨some_ne, chars⟩ := normalizeDomain_plain normal whole
  exact isWord_of_plain some_ne fun c member => isItemChar_of_domain (chars c member)

theorem normalizeDomain_normal {candidate item : String} (isCandidate : IsCandidate candidate)
    (normal : normalizeDomain candidate = some item) : normalizeDomain item = some item := by
  have word := normalizeDomain_word isCandidate normal
  simp only [normalizeDomain] at normal ⊢
  split at normal
  · rename_i accepted
    obtain rfl := Option.some.inj normal
    rw [domain_own _ word, if_pos accepted]
  · cases normal

theorem serviceLabel_chars {label : List Char} (matched : matchesServiceLabel label = true) :
    ∀ c ∈ label, isItemChar c = true := by
  simp only [matchesServiceLabel, Bool.and_eq_true, List.all_eq_true] at matched
  intro c member
  have letter := matched.2.2 c member
  simp only [isWordChar, Bool.or_eq_true, beq_iff_eq] at letter
  rcases letter with (alnum | rfl) | rfl
  · simp [isItemChar, alnum]
  all_goals decide

theorem blocklistDomain_chars {domain : String} (matched : matchesBlocklistDomain domain = true)
    (whole : '\n' ∉ domain.toList) : ∀ c ∈ domain.toList, isItemChar c = true := by
  have closed : domain.toList.getLast? ≠ some '\n' := fun last => whole (List.mem_of_getLast? last)
  simp only [matchesBlocklistDomain, beforeDollar, if_neg closed, Bool.and_eq_true, List.all_eq_true] at matched
  obtain ⟨⟨-, services⟩, top⟩ := matched
  have last := List.dropLast_append_getLast (splitChar_ne_nil '.' domain.toList)
  rw [List.getLast?_eq_some_getLast (splitChar_ne_nil '.' domain.toList), Option.any_some] at top
  intro c member
  rcases (@mem_splitChar '.' c domain.toList).mp member with ⟨rfl, -⟩ | ⟨label, cut, inLabel⟩
  · decide
  · rw [← last, List.mem_append] at cut
    rcases cut with service | final
    · exact serviceLabel_chars (services label service) c inLabel
    · obtain rfl := List.mem_singleton.mp final
      exact isItemChar_of_domain (matchesLabel_chars top c inLabel)

theorem normalizeBlocklistDomain_word {candidate item : String} (isCandidate : IsCandidate candidate)
    (normal : normalizeBlocklistDomain candidate = some item) : IsWord item := by
  simp only [normalizeBlocklistDomain] at normal
  split at normal
  · rename_i accepted
    obtain rfl := Option.some.inj normal
    refine isWord_of_plain accepted.1 (blocklistDomain_chars accepted.2.2 fun newline => ?_)
    exact absurd (isCandidate '\n' (mem_strip (newline_mem_lower (mem_stripEnd newline)))).1 (by decide)
  · nomatch normal

theorem normalizeBlocklistDomain_normal {candidate item : String} (isCandidate : IsCandidate candidate)
    (normal : normalizeBlocklistDomain candidate = some item) : normalizeBlocklistDomain item = some item := by
  have word := normalizeBlocklistDomain_word isCandidate normal
  simp only [normalizeBlocklistDomain] at normal ⊢
  split at normal
  · rename_i accepted
    obtain rfl := Option.some.inj normal
    rw [domain_own _ word, if_pos accepted]
  · nomatch normal

/-! What a line gives, and what that gives again. -/

theorem isCandidate_of_word {line : String} {word : List Char}
    (cut : word ∈ splitSpace (stripChars isSpace (line.toList.takeWhile (· ≠ '#')))) :
    ∀ c ∈ word, isSpace c = false ∧ c ≠ '#' := by
  intro c member
  refine ⟨splitSpace_visible cut c member, ?_⟩
  have front := List.mem_takeWhile_imp (mem_stripChars (splitSpace_mem cut member))
  exact of_decide_eq_true front

theorem lineCandidate_isCandidate (line : String) : IsCandidate (lineCandidate line) := by
  intro c member
  simp only [lineCandidate] at member
  split at member
  · rename_i word words cut
    rw [String.toList_ofList] at member
    exact isCandidate_of_word (by rw [cut]; exact List.mem_cons_self) c member
  · cases member

theorem lineCandidates_isCandidate {line candidate : String} (given : candidate ∈ lineCandidates (uncommented line)) :
    IsCandidate candidate := by
  have words : ∀ word ∈ (splitSpace (uncommented line).toList).map String.ofList, IsCandidate word := by
    intro word member c inWord
    obtain ⟨chars, cut, rfl⟩ := List.mem_map.mp member
    rw [uncommented, String.toList_ofList] at cut
    rw [String.toList_ofList] at inWord
    exact isCandidate_of_word cut c inWord
  unfold lineCandidates at given
  split at given
  · nomatch given
  · rename_i first rest cut
    rw [cut] at words
    obtain ⟨isFirst, others⟩ := List.forall_mem_cons.mp words
    split at given
    · exact others candidate given
    · split at given
      · nomatch given
      · split at given
        · obtain rfl := List.mem_singleton.mp given
          intro c member
          rw [String.toList_ofList] at member
          exact isFirst c (List.mem_of_mem_drop (List.dropLast_subset _ member))
        · obtain rfl := List.mem_singleton.mp given
          exact isFirst

theorem listEntries_own {normalize : String → Option String} {line item : String}
    (words : ∀ candidate, IsCandidate candidate → ∀ item, normalize candidate = some item →
      IsWord item ∧ normalize item = some item)
    (member : item ∈ listEntries normalize line) : IsWord item ∧ listEntries normalize item = [item] := by
  unfold listEntries at member
  split at member
  · nomatch member
  · obtain ⟨word, own⟩ := words _ (lineCandidate_isCandidate _) item (Option.mem_toList.mp member)
    refine ⟨word, ?_⟩
    rw [listEntries, word.strip_eq, word.candidate_eq, word.noComment, own]
    simp only [Bool.false_eq_true, word.ne_empty, or_self, if_false, Option.toList_some]

theorem blocklistEntries_own {line item : String} (member : item ∈ blocklistEntries line) :
    IsWord item ∧ blocklistEntries item = if (ipAddress item).isSome = true then [] else [item] := by
  unfold blocklistEntries at member
  split at member
  · nomatch member
  · obtain ⟨candidate, given, normal⟩ := List.mem_filterMap.mp member
    have isCandidate := lineCandidates_isCandidate given
    have word := normalizeBlocklistDomain_word isCandidate normal
    have own := normalizeBlocklistDomain_normal isCandidate normal
    refine ⟨word, ?_⟩
    rw [blocklistEntries, word.strip_eq, word.noComment, word.uncommented_eq, word.candidates_eq, if_neg nofun]
    split
    · rfl
    · rw [List.filterMap_cons_some own, List.filterMap_nil]

namespace ListSource

def rereads (source : ListSource) (item : String) : Bool := source ≠ blocklist || (ipAddress item).isNone

theorem entries_own (source : ListSource) {line item : String} (member : item ∈ source.entries line) :
    IsWord item ∧ source.entries item = if source.rereads item = true then [item] else [] := by
  have routes := @listEntries_own normalizeRoute line item fun candidate isCandidate item normal =>
    ⟨normalizeRoute_word isCandidate normal, normalizeRoute_normal normal⟩
  have domains := @listEntries_own normalizeDomain line item fun candidate isCandidate item normal =>
    ⟨normalizeDomain_word isCandidate normal, normalizeDomain_normal isCandidate normal⟩
  cases source with
  | route => exact routes member
  | domain => exact domains member
  | hostRoute => exact routes member
  | hostDomain => exact domains member
  | blocklist =>
      obtain ⟨word, own⟩ := blocklistEntries_own member
      refine ⟨word, own.trans ?_⟩
      rw [rereads]
      cases ipAddress item <;> rfl

theorem parse_own {source : ListSource} {text : String} {parsed : ExternalListParseResult}
    (read : source.parse text = .ok parsed) :
    parsed.items.Nodup ∧ parsed.items.length ≤ 500000 ∧ ∀ item ∈ parsed.items,
      IsWord item ∧ source.entries item = if source.rereads item = true then [item] else [] := by
  have scanned := source.parse_scan text
  rw [read] at scanned
  obtain ⟨distinct, short, origins⟩ := scanLines_ok scanned.symm List.nodup_nil (Nat.zero_le _)
  refine ⟨distinct, short, fun item member => ?_⟩
  obtain ⟨line, -, given⟩ := (origins item member).resolve_left List.not_mem_nil
  exact source.entries_own given

theorem parse_again {source : ListSource} {text later : String} {parsed : ExternalListParseResult}
    (read : source.parse text = .ok parsed) (lines : splitLines later = parsed.items) :
    ∃ again, source.parse later = .ok again ∧ again.items = parsed.items.filter source.rereads := by
  obtain ⟨distinct, short, own⟩ := parse_own read
  have scanned := source.parse_scan later
  rw [lines, @scanLines_own _ _ _ _ parsed.items [] (fun item member => (own item member).2) distinct short,
    List.nil_append] at scanned
  cases parsedAgain : source.parse later with
  | error => rw [parsedAgain] at scanned; nomatch scanned
  | ok again =>
      rw [parsedAgain] at scanned
      exact ⟨again, rfl, Except.ok.inj scanned⟩

variable {source : ListSource} {config : AppConfig}

/-- Later reads give the items, and a refresh with the cache file's own text leaves every list file. -/
def ReadsBack (source : ListSource) (config : AppConfig) (blocklistUrls : List String) (saved : Files) (url : String)
    (items : List String) : Prop :=
  source.cachedItems config saved url = .ok items ∧
    ∃ content, saved.text (saved.cachePath (source.cacheDir config) url) = .text content ∧
      ∀ later, ∃ result again,
        source.refreshUrl config blocklistUrls saved url (.ok content) false later = .ok (result, again) ∧
          result.valid = items.length ∧ again.text = saved.text

theorem refreshUrl_saved {blocklistUrls : List String} {url text : String} (files : Files) (now : Int)
    {parsed : ExternalListParseResult} (listed : url ∈ source.urls config blocklistUrls)
    (read : source.parse text = .ok parsed) (some_items : parsed.items ≠ []) :
    ∃ result, result.valid = parsed.items.length ∧
      source.refreshUrl config blocklistUrls files url (.ok text) false now =
        .ok (result, source.save config files url parsed now) := by
  refine ⟨{
    url, totalLines := parsed.totalLines, valid := parsed.items.length, skipped := parsed.skipped
    sample := parsed.items.take 20, saved := true }, rfl, ?_⟩
  simp only [refreshUrl, not_not_intro listed, if_false, read, bind, Except.bind, some_items]
  rfl

theorem save_text (files : Files) (url : String) (parsed : ExternalListParseResult) (now : Int) :
    (source.save config files url parsed now).text = Function.update files.text
      (files.cachePath (source.cacheDir config) url) (.text (uniqueLinesText parsed.items)) := rfl

theorem cachedItems_saved (files : Files) (url : String) (now : Int) {text : String}
    {parsed : ExternalListParseResult} (read : source.parse text = .ok parsed) :
    source.cachedItems config (source.save config files url parsed now) url =
      .ok (parsed.items.filter source.rereads) := by
  obtain ⟨distinct, -, own⟩ := parse_own read
  have whole : ∀ item ∈ parsed.items, ∀ c ∈ item.toList, isLineBreak c = false :=
    fun item member => (own item member).1.whole
  have unique : uniqueLines parsed.items = parsed.items :=
    uniqueLines_entries (fun item member => ⟨(own item member).1.strip_eq, (own item member).1.isEntry⟩) distinct
  have lines : (source.save config files url parsed now).readLines
      ((source.save config files url parsed now).cachePath (source.cacheDir config) url) = .ok parsed.items := by
    have written := files.readLines_writeUniqueLines (files.cachePath (source.cacheDir config) url) whole
    rw [unique] at written
    exact written
  obtain ⟨again, parsedAgain, items⟩ := parse_again read
    (splitLines_joined whole fun item member => (own item member).1.ne_empty)
  simp only [cachedItems, lines, parsedAgain, items, bind, Except.bind, pure, Except.pure]

/-- A refreshed list survives its own file when no item is an address in the place of a domain. -/
theorem readsBack_iff {blocklistUrls : List String} (files : Files) {url text : String} (now : Int)
    {parsed : ExternalListParseResult} (listed : url ∈ source.urls config blocklistUrls)
    (read : source.parse text = .ok parsed) (some_items : parsed.items ≠ []) :
    ∃ result saved, source.refreshUrl config blocklistUrls files url (.ok text) false now = .ok (result, saved) ∧
      (source.ReadsBack config blocklistUrls saved url parsed.items ↔
        (source = blocklist → ∀ item ∈ parsed.items, ipAddress item = none)) := by
  obtain ⟨result, -, refreshed⟩ := refreshUrl_saved files now listed read some_items
  refine ⟨result, _, refreshed, ?_⟩
  have condition : (source = blocklist → ∀ item ∈ parsed.items, ipAddress item = none) ↔
      parsed.items.filter source.rereads = parsed.items := by
    rw [List.filter_eq_self]
    simp only [rereads, ne_eq, decide_not, Bool.or_eq_true, Bool.not_eq_true', decide_eq_false_iff_not,
      Option.isNone_iff_eq_none]
    constructor
    · intro plain item member
      by_cases isBlocklist : source = blocklist
      · exact Or.inr (plain isBlocklist item member)
      · exact Or.inl isBlocklist
    · intro plain isBlocklist item member
      exact (plain item member).resolve_left (not_not_intro isBlocklist)
  rw [condition, ReadsBack, cachedItems_saved files url now read]
  constructor
  · rintro ⟨same, -⟩
    exact Except.ok.inj same
  · intro kept
    obtain ⟨distinct, -, own⟩ := parse_own read
    have unique : uniqueLines parsed.items = parsed.items :=
      uniqueLines_entries (fun item member => ⟨(own item member).1.strip_eq, (own item member).1.isEntry⟩) distinct
    have lines : splitLines (uniqueLinesText parsed.items) = parsed.items := by
      rw [splitLines_uniqueLinesText fun item member => (own item member).1.whole, unique]
    obtain ⟨again, parsedAgain, items⟩ := parse_again read lines
    rw [kept] at items
    refine ⟨congrArg _ kept, uniqueLinesText parsed.items, Function.update_self .., fun later => ?_⟩
    obtain ⟨report, valid, done⟩ := refreshUrl_saved (source.save config files url parsed now) later listed
      parsedAgain (items ▸ some_items)
    refine ⟨report, _, done, by rw [valid, items], ?_⟩
    rw [save_text, items, save_text]
    exact Function.update_idem ..

theorem readsBack_iff_sample : ∃ result saved,
    blocklist.refreshUrl {} ["https://lists.example.com/ads"] {} "https://lists.example.com/ads"
        (.ok "# ads\n0.0.0.0 ads.example.com\n||track.example.com^\n") false 0 = .ok (result, saved) ∧
      blocklist.ReadsBack {} ["https://lists.example.com/ads"] saved "https://lists.example.com/ads"
        ["ads.example.com", "track.example.com"] := by
  have read : blocklist.parse "# ads\n0.0.0.0 ads.example.com\n||track.example.com^\n" =
      .ok { items := ["ads.example.com", "track.example.com"], totalLines := 2 } := by decide +kernel
  have listed : "https://lists.example.com/ads" ∈ blocklist.urls {} ["https://lists.example.com/ads"] :=
    List.mem_singleton.mpr rfl
  obtain ⟨result, saved, refreshed, reads⟩ := readsBack_iff {} 0 listed read (List.cons_ne_nil _ _)
  refine ⟨result, saved, refreshed, reads.mpr fun _ => ?_⟩
  decide +kernel

/-- A blocked address is saved as a domain and read as a hosts line. -/
theorem blockedAddress_lost : ∃ result saved,
    blocklist.refreshUrl {} ["https://lists.example.com/ads"] {} "https://lists.example.com/ads"
        (.ok "0.0.0.0 192.0.2.7 ads.example.com\n") false 0 = .ok (result, saved) ∧
      result.valid = 2 ∧ blocklist.cachedItems {} saved "https://lists.example.com/ads" = .ok ["ads.example.com"] ∧
        ¬blocklist.ReadsBack {} ["https://lists.example.com/ads"] saved "https://lists.example.com/ads"
          ["192.0.2.7", "ads.example.com"] := by
  have read : blocklist.parse "0.0.0.0 192.0.2.7 ads.example.com\n" =
      .ok { items := ["192.0.2.7", "ads.example.com"], totalLines := 1 } := by decide +kernel
  have rest : ["192.0.2.7", "ads.example.com"].filter blocklist.rereads = ["ads.example.com"] := by decide +kernel
  have listed : "https://lists.example.com/ads" ∈ blocklist.urls {} ["https://lists.example.com/ads"] :=
    List.mem_singleton.mpr rfl
  have cached := @cachedItems_saved blocklist {} {} "https://lists.example.com/ads" 0 _ _ read
  obtain ⟨result, valid, refreshed⟩ := refreshUrl_saved {} 0 listed read (List.cons_ne_nil _ _)
  rw [rest] at cached
  refine ⟨result, _, refreshed, valid, cached, fun reads => ?_⟩
  rw [ReadsBack, cached] at reads
  exact absurd (Except.ok.inj reads.1) (by decide)

end ListSource

end Korserver
