import Korserver.DockerCompatCore
import Korserver.HexText
import Korserver.NftablesService
import Korserver.Runs
import Korserver.TextParts
import Mathlib.Data.List.Nodup

/-!
The rules that korserver inserts into the chain of a Docker host, over any number of applies and cleanups.
-/

namespace Korserver

open PythonText PythonValue IpAddress Runs

namespace DockerUser

variable (chain : DockerUser)

def ownTexts : List String := (chain.rules.filter (·.own)).map (·.text)

def foreign : List ChainRule := chain.rules.filter fun rule => !rule.own

def count (text : String) : Nat := chain.rules.countP (·.text = text)

end DockerUser

/-- One rule a direction accepts the network, and no other rule is korserver's. -/
def ForwardsOnly (nft : Nft) (config : AppConfig) (chain : DockerUser) : Prop :=
  ∃ listed, nft.network (splitSpace config.server.ipv4Network.toList) = some listed ∧
    (∀ direction ∈ forwardDirections, chain.count (forwardExpr direction listed) = 1) ∧
      ∀ text ∈ chain.ownTexts, ∃ direction ∈ forwardDirections, text = forwardExpr direction listed

inductive FirewallCall
  | apply (answers : Answers) (docker : DockerAnswers) (files : Files) (config : AppConfig)
      (outbound : Option String)
  | cleanup (answers : CleanupAnswers) (config : AppConfig)

/-- A call that raises changes nothing. -/
def FirewallHost.call (nft : Nft) (host : FirewallHost) : FirewallCall → FirewallHost
  | .apply answers docker files config outbound =>
      match host.apply nft answers docker files config outbound with
      | .ok (_, after) => after
      | .error _ => host
  | .cleanup answers config => host.cleanup answers config

/-- The ruleset is loaded, and the Docker chain is listed. -/
def FirewallHost.reaches (host : FirewallHost) (answers : Answers) (docker : DockerAnswers) (files : Files)
    (config : AppConfig) (outbound : Option String) : Bool :=
  match nftablesApply answers files config outbound host.tables with
  | .ok (.failed, _) => false
  | .ok _ => docker.lists
  | .error _ => false

/-- What holds of the chain after a call whose commands succeed, and of the rules of others after any. -/
def ExactAfterCall (nft : Nft) (foreign : List ChainRule) (host : FirewallHost) (call : FirewallCall) : Prop :=
  (match call with
    | .apply answers docker files config outbound =>
        host.reaches answers docker files config outbound = true →
          (∀ expr, docker.inserts expr = true) → ForwardsOnly nft config (host.call nft call).dockerUser
    | .cleanup answers _ =>
        answers.docker.lists = true → (∀ handle, answers.docker.deletes handle = true) →
          (host.call nft call).dockerUser.ownTexts = []) ∧
    (host.call nft call).dockerUser.foreign = foreign

def OwnsOnly (config : AppConfig) (chain : DockerUser) : Prop :=
  ∀ text ∈ chain.ownTexts, text ∈ forwardExprs config

structure ApplyKnows (nft : Nft) (config : AppConfig) (chain : DockerUser) : Prop where
  written : nft.network (splitSpace config.server.ipv4Network.toList) = some config.server.ipv4Network
  owns : OwnsOnly config chain
  apart : ∀ rule ∈ chain.foreign, ∀ expr ∈ forwardExprs config, contains expr rule.text = false

structure CleanupKnows (config : AppConfig) (chain : DockerUser) : Prop where
  owns : OwnsOnly config chain
  apart : ∀ rule ∈ chain.foreign, ∀ line ∈ splitLines (rule.line true ++ "\n"), handleToDelete config line = none

def CallKnows (nft : Nft) (host : FirewallHost) : FirewallCall → Prop
  | .apply answers docker files config outbound =>
      host.reaches answers docker files config outbound = true → ApplyKnows nft config host.dockerUser
  | .cleanup answers config => answers.docker.lists = true → CleanupKnows config host.dockerUser

section

variable {chain : DockerUser}

@[simp] theorem ownTexts_insert (text : String) : (chain.insert text).ownTexts = text :: chain.ownTexts := rfl

@[simp] theorem foreign_insert (text : String) : (chain.insert text).foreign = chain.foreign := rfl

theorem count_eq (text : String) :
    chain.count text = chain.ownTexts.count text + (chain.foreign.map (·.text)).count text := by
  simp only [DockerUser.count, DockerUser.ownTexts, DockerUser.foreign, List.count_eq_countP, List.countP_map,
    List.countP_filter]
  induction chain.rules with
  | nil => rfl
  | cons rule rest ih =>
      simp only [List.countP_cons, ih, Function.comp_apply]
      cases rule.own <;> by_cases same : rule.text = text <;> simp [same] <;> omega

end

theorem contains_listing {part : String} (whole : '\n' ∉ part.toList) (lines : List String) :
    contains part (printLines lines) = true ↔ part = "" ∨ ∃ line ∈ lines, contains part line = true := by
  simp only [contains, decide_eq_true_eq]
  induction lines with
  | nil => simp [printLines]
  | cons line rest ih =>
      have cut : (printLines (line :: rest)).toList = line.toList ++ '\n' :: (printLines rest).toList := by
        simp [printLines, String.toList_append]
      rw [cut, infix_append_cons_iff whole, ih]
      simp only [List.exists_mem_cons_iff]
      tauto

theorem splitLines_listing (line : String) (lines : List String) :
    splitLines (printLines (line :: lines)) = splitLines (line ++ "\n") ++ splitLines (printLines lines) := by
  have cut : (printLines (line :: lines)).toList = line.toList ++ '\n' :: (printLines lines).toList := by
    simp [printLines, String.toList_append]
  have alone : (line ++ "\n").toList = line.toList ++ ['\n'] := by simp [String.toList_append]
  rw [splitLines, cut, splitLinesFrom_append, List.map_append, splitLines, alone, splitLines]

theorem mem_splitLines_listing {piece : String} {lines : List String} :
    piece ∈ splitLines (printLines lines) ↔ ∃ line ∈ lines, piece ∈ splitLines (line ++ "\n") := by
  induction lines with
  | nil => simp [printLines, splitLines, splitLinesFrom]
  | cons line rest ih => rw [splitLines_listing, List.mem_append, ih, List.exists_mem_cons_iff]

/-! How the expressions are spelled. -/

def isExprChar (c : Char) : Bool := decide (c ≠ '#') && decide (32 ≤ c.toNat) && decide (c.toNat ≤ 122)

theorem isExprChar_of_route {c : Char} (route : isRouteChar c = true) : isExprChar c = true := by
  have range (low : 46 ≤ c.toNat) (high : c.toNat ≤ 102) : isExprChar c = true := by
    have notHash : c ≠ '#' := by
      rintro rfl
      exact absurd low (by decide)
    simp only [isExprChar, Bool.and_eq_true, decide_eq_true_eq]
    exact ⟨⟨notHash, by omega⟩, by omega⟩
  simp only [isRouteChar, isAddressChar, isHexDigit, Bool.or_eq_true, Bool.and_eq_true, decide_eq_true_eq,
    beq_iff_eq] at route
  rcases route with ((((digit | lower) | upper) | rfl) | rfl) | rfl
  · have low : 48 ≤ c.toNat := digit.1
    have high : c.toNat ≤ 57 := digit.2
    exact range (by omega) (by omega)
  · have low : 97 ≤ c.toNat := lower.1
    exact range (by omega) lower.2
  · have low : 65 ≤ c.toNat := upper.1
    have high : c.toNat ≤ 70 := upper.2
    exact range (by omega) (by omega)
  · decide
  · decide
  · decide

theorem isExprChar_whole {c : Char} (plain : isExprChar c = true) : isLineBreak c = false ∧ c ≠ '#' := by
  simp only [isExprChar, Bool.and_eq_true, decide_eq_true_eq] at plain
  obtain ⟨⟨notHash, low⟩, high⟩ := plain
  refine ⟨?_, notHash⟩
  simp only [isLineBreak, Bool.or_eq_false_iff, Bool.and_eq_false_iff, decide_eq_false_iff_not, beq_eq_false_iff_ne]
  omega

/-- The network of an expression, as nft lists one. -/
def PlainNetwork (network : String) : Prop := ∀ c ∈ network.toList, isRouteChar c = true

section

variable {direction other network : String}

theorem forwardExpr_toList (direction network : String) :
    (forwardExpr direction network).toList =
      'i' :: 'p' :: ' ' :: (direction.toList ++ ' ' :: (network.toList ++ " accept".toList)) := by
  simp [forwardExpr, String.toList_append]

theorem direction_cases (known : direction ∈ forwardDirections) : direction = "saddr" ∨ direction = "daddr" := by
  simpa [forwardDirections] using known

theorem forwardExpr_chars (known : direction ∈ forwardDirections) (plain : PlainNetwork network) :
    ∀ c ∈ (forwardExpr direction network).toList, isExprChar c = true := by
  have word : direction.toList.all isExprChar = true := by
    rcases direction_cases known with rfl | rfl <;> decide
  have last : " accept".toList.all isExprChar = true := by decide
  intro c member
  simp only [forwardExpr_toList, List.mem_cons, List.mem_append] at member
  rcases member with rfl | rfl | rfl | inWord | rfl | inNetwork | inLast
  · decide
  · decide
  · decide
  · exact List.all_eq_true.mp word c inWord
  · decide
  · exact isExprChar_of_route (plain c inNetwork)
  · exact List.all_eq_true.mp last c inLast

theorem forwardExpr_length (known : direction ∈ forwardDirections) :
    (forwardExpr direction network).toList.length = network.toList.length + 16 := by
  rcases direction_cases known with rfl | rfl <;> simp [forwardExpr_toList]

theorem contains_forwardExpr (known : direction ∈ forwardDirections) (also : other ∈ forwardDirections) :
    contains (forwardExpr direction network) (forwardExpr other network) = true ↔
      forwardExpr direction network = forwardExpr other network := by
  rw [contains, decide_eq_true_eq]
  constructor
  · intro inside
    exact String.toList_inj.mp (inside.eq_of_length (by rw [forwardExpr_length known, forwardExpr_length also]))
  · intro same
    exact same ▸ List.infix_refl (forwardExpr direction network).toList

theorem forwardExpr_mem (known : direction ∈ forwardDirections) : 'd' ∈ (forwardExpr direction network).toList := by
  rw [forwardExpr_toList]
  rcases direction_cases known with rfl | rfl <;> simp

theorem contains_absent {c : Char} {part text : String} (inPart : c ∈ part.toList) (absent : c ∉ text.toList) :
    contains part text = false := by
  rw [contains, decide_eq_false_iff_not]
  exact fun inside => absent (inside.subset inPart)

theorem contains_line (rule : ChainRule) :
    contains (forwardExpr direction network) (rule.line false) =
      contains (forwardExpr direction network) rule.text := by
  have spelled : (rule.line false).toList = '\t' :: '\t' :: rule.text.toList := by
    simp [ChainRule.line, handleNote, String.toList_append]
  have start (rest : List Char) : ¬(forwardExpr direction network).toList <+: '\t' :: rest := by
    rw [forwardExpr_toList, List.cons_prefix_cons]
    exact fun same => absurd same.1 (by decide)
  rw [contains, contains, spelled]
  refine decide_eq_decide.mpr ?_
  simp only [List.infix_cons_iff, start, false_or]

end

theorem digitChar_decimal : ∀ digit < 10, isDecimal (Nat.digitChar digit) = true ∧
    isSpace (Nat.digitChar digit) = false ∧ isExprChar (Nat.digitChar digit) = true := by decide +kernel

theorem toString_ends (handle : Nat) : ∃ front last, (toString handle).toList = front ++ [last] := by
  rcases List.eq_nil_or_concat (toString handle).toList with none | ⟨front, last, same⟩
  · rw [show toString handle = Nat.repr handle from rfl, Nat.toList_repr] at none
    exact absurd none Nat.toDigits_ne_nil
  · exact ⟨front, last, by rw [same, List.concat_eq_append]⟩

theorem searchHandle_append {before : List Char} (plain : '#' ∉ before) (rest : List Char) :
    searchHandle (before ++ '#' :: rest) = (handleAfterHash rest).orElse fun _ => searchHandle rest := by
  induction before with
  | nil => rw [List.nil_append, searchHandle, if_pos rfl]
  | cons c before ih =>
      have other : c ≠ '#' := fun same => plain (same ▸ List.mem_cons_self)
      rw [List.cons_append, searchHandle, if_neg other, ih (List.not_mem_of_not_mem_cons plain)]

theorem handleAfterHash_note (handle : Nat) :
    handleAfterHash (" handle ".toList ++ (toString handle).toList) = some (toString handle) := by
  have digits : ∀ c ∈ (toString handle).toList, isDecimal c = true ∧ isSpace c = false := by
    intro c member
    obtain ⟨digit, below, rfl⟩ := digit_toString member
    exact ⟨(digitChar_decimal digit below).1, (digitChar_decimal digit below).2.1⟩
  have visible : (toString handle).toList.dropWhile isSpace = (toString handle).toList := by
    cases spelled : (toString handle).toList with
    | nil => rfl
    | cons c rest =>
        have first := (digits c (spelled ▸ List.mem_cons_self)).2
        exact List.dropWhile_cons_of_neg (by rw [first]; exact Bool.false_ne_true)
  have blank : (' ' :: (toString handle).toList).takeWhile isSpace ≠ [] := by
    rw [List.takeWhile_cons_of_pos (by decide)]
    exact List.cons_ne_nil _ _
  have some_ne : (toString handle).toList ≠ [] := by
    obtain ⟨front, last, same⟩ := toString_ends handle
    rw [same]
    exact List.concat_ne_nil _ _
  have all : (toString handle).toList.takeWhile isDecimal = (toString handle).toList :=
    List.takeWhile_eq_self_iff.mpr fun c member => (digits c member).1
  have none : (toString handle).toList.dropWhile isDecimal = [] :=
    List.dropWhile_eq_nil_iff.mpr fun c member => (digits c member).1
  have word : (" handle ".toList ++ (toString handle).toList).dropWhile isSpace =
      "handle".toList ++ ' ' :: (toString handle).toList := by
    rw [show " handle ".toList = ' ' :: "handle ".toList from rfl, List.cons_append,
      List.dropWhile_cons_of_pos (by decide)]
    exact List.dropWhile_cons_of_neg (by decide)
  have after : ("handle".toList ++ ' ' :: (toString handle).toList).drop 6 = ' ' :: (toString handle).toList :=
    rfl
  have start : (' ' :: (toString handle).toList).dropWhile isSpace = (toString handle).toList := by
    rw [List.dropWhile_cons_of_pos (by decide), visible]
  simp only [handleAfterHash, word, if_pos (List.prefix_append _ _), after, start, all, none]
  rw [if_pos ⟨blank, some_ne, rfl⟩, String.ofList_toList]

theorem handleToDelete_other (config : AppConfig) {line : String} {blank rest : List Char} {first : Char}
    (spelled : line.toList = blank ++ first :: rest) (blanks : ∀ c ∈ blank, isSpace c = true)
    (visible : isSpace first = false) (other : first ≠ 'i') : handleToDelete config line = none := by
  have stripped : (strip line).toList = first :: dropEndWhile isSpace rest := by
    rw [strip, String.toList_ofList, spelled, stripChars_start blanks visible]
  rw [handleToDelete, if_neg]
  simp only [List.any_eq_true, decide_eq_true_eq, forwardExprs, List.mem_map, stripped]
  rintro ⟨expr, ⟨direction, -, rfl⟩, start⟩
  rw [forwardExpr_toList, List.cons_prefix_cons] at start
  exact other start.1.symm

theorem handleToDelete_own (config : AppConfig) {rule : ChainRule} {direction network : String}
    (known : direction ∈ forwardDirections) (plain : PlainNetwork network)
    (spelled : rule.text = forwardExpr direction network) (listed : rule.text ∈ forwardExprs config) :
    splitLines (rule.line true ++ "\n") = [rule.line true] ∧
      handleToDelete config (rule.line true) = some (toString rule.handle) := by
  have chars : ∀ c ∈ rule.text.toList, isExprChar c = true := spelled ▸ forwardExpr_chars known plain
  have line : (rule.line true).toList =
      ['\t', '\t'] ++ (rule.text.toList ++ ' ' :: '#' :: (" handle ".toList ++ (toString rule.handle).toList)) := by
    simp [ChainRule.line, handleNote, String.toList_append]
  constructor
  · refine splitLines_single fun c member => ?_
    rw [line] at member
    simp only [List.mem_append, List.mem_cons, List.not_mem_nil, or_false] at member
    have note : " handle ".toList.all (fun c => !isLineBreak c) = true := by decide
    rcases member with (rfl | rfl) | inText | rfl | rfl | inNote | inHandle
    · decide
    · decide
    · exact (isExprChar_whole (chars c inText)).1
    · decide
    · decide
    · simpa using List.all_eq_true.mp note c inNote
    · obtain ⟨digit, below, rfl⟩ := digit_toString inHandle
      exact (isExprChar_whole (digitChar_decimal digit below).2.2).1
  · obtain ⟨front, last, ends⟩ := toString_ends rule.handle
    have visible : isSpace last = false := by
      obtain ⟨digit, below, same⟩ := digit_toString (c := last) (by rw [ends]; simp)
      rw [same]
      exact (digitChar_decimal digit below).2.1
    have stripped : (strip (rule.line true)).toList =
        rule.text.toList ++ ' ' :: '#' :: (" handle ".toList ++ (toString rule.handle).toList) := by
      rw [strip, String.toList_ofList, line, spelled, forwardExpr_toList, @List.cons_append _ 'i',
        stripChars_start (List.all_eq_true.mp (by decide)) (by decide), ends]
      simp only [← List.cons_append, ← List.append_assoc]
      rw [dropEndWhile_concat visible]
      simp only [List.cons_append]
    have hash : '#' ∉ rule.text.toList ++ [' '] := by
      rw [List.mem_append, not_or]
      exact ⟨fun member => (isExprChar_whole (chars _ member)).2 rfl, by decide⟩
    have cut : rule.text.toList ++ ' ' :: '#' :: (" handle ".toList ++ (toString rule.handle).toList) =
        (rule.text.toList ++ [' ']) ++ '#' :: (" handle ".toList ++ (toString rule.handle).toList) := by simp
    rw [handleToDelete, if_pos, stripped, cut, searchHandle_append hash, handleAfterHash_note, Option.orElse_some]
    rw [List.any_eq_true]
    refine ⟨rule.text, listed, ?_⟩
    rw [decide_eq_true_eq, stripped]
    exact List.prefix_append _ _

/-! One call. -/

/-- What korserver keeps: its rules are told apart by their texts. -/
structure OwnsOnce (chain : DockerUser) : Prop where
  once : chain.ownTexts.Nodup
  plain : ∀ text ∈ chain.ownTexts, ∃ direction ∈ forwardDirections, ∃ network, PlainNetwork network ∧
    text = forwardExpr direction network

section

variable {nft : Nft} {config : AppConfig} {chain : DockerUser}

theorem mem_ownTexts {text : String} :
    text ∈ chain.ownTexts ↔ ∃ rule ∈ chain.rules, rule.own = true ∧ rule.text = text := by
  simp [DockerUser.ownTexts, and_assoc]

theorem mem_foreign {rule : ChainRule} : rule ∈ chain.foreign ↔ rule ∈ chain.rules ∧ rule.own = false := by
  simp [DockerUser.foreign]

theorem header_contains {direction network header : String} (known : direction ∈ forwardDirections)
    (plain : header.toList.all (· ≠ 'd') = true) : contains (forwardExpr direction network) header = false :=
  contains_absent (forwardExpr_mem known) fun member => by
    have absent := List.all_eq_true.mp plain _ member
    exact absurd rfl (of_decide_eq_true absent)

theorem listed_iff (knows : ApplyKnows nft config chain) {direction : String}
    (known : direction ∈ forwardDirections) :
    contains (forwardExpr direction config.server.ipv4Network) (chain.listing false) = true ↔
      forwardExpr direction config.server.ipv4Network ∈ chain.ownTexts := by
  have plain : PlainNetwork config.server.ipv4Network := nft.plain _ _ knows.written
  have whole : '\n' ∉ (forwardExpr direction config.server.ipv4Network).toList := by
    intro member
    have char := (isExprChar_whole (forwardExpr_chars known plain _ member)).1
    exact absurd char (by decide)
  have listed : forwardExpr direction config.server.ipv4Network ∈ forwardExprs config :=
    List.mem_map_of_mem known
  have some_ne : forwardExpr direction config.server.ipv4Network ≠ "" := by
    intro none
    have spelled := congrArg String.toList none
    rw [forwardExpr_toList] at spelled
    cases spelled
  rw [DockerUser.listing, contains_listing whole, or_iff_right some_ne]
  simp only [DockerUser.lines, handleNote, Bool.false_eq_true, if_false, String.append_empty, List.mem_append,
    List.mem_map, List.not_mem_nil, List.mem_cons, or_false]
  constructor
  · rintro ⟨line, rfl | rfl | ⟨rule, member, rfl⟩ | rfl | rfl, inside⟩
    · rw [header_contains known (by decide)] at inside
      cases inside
    · rw [header_contains known (by decide)] at inside
      cases inside
    · rw [contains_line] at inside
      cases own : rule.own with
      | false =>
          rw [knows.apart rule (mem_foreign.mpr ⟨member, own⟩) _ listed] at inside
          cases inside
      | true =>
          have text := mem_ownTexts.mpr ⟨rule, member, own, rfl⟩
          obtain ⟨other, also, same⟩ := List.mem_map.mp (knows.owns _ text)
          rw [← same, contains_forwardExpr known also] at inside
          rwa [inside, same]
    · rw [header_contains known (by decide)] at inside
      cases inside
    · rw [header_contains known (by decide)] at inside
      cases inside
  · intro text
    obtain ⟨rule, member, -, same⟩ := mem_ownTexts.mp text
    refine ⟨rule.line false, Or.inr (Or.inr (Or.inl ⟨rule, member, rfl⟩)), ?_⟩
    rw [contains_line, same]
    exact decide_eq_true (List.infix_refl _)

theorem ownTexts_step (knows : ApplyKnows nft config chain) (answers : DockerAnswers) {direction : String}
    (known : direction ∈ forwardDirections) (current : DockerUser) :
    (if contains (forwardExpr direction config.server.ipv4Network) (chain.listing false) = true then current
      else nft.insert answers config direction current) =
      if forwardExpr direction config.server.ipv4Network ∉ chain.ownTexts ∧
          answers.inserts (forwardExpr direction config.server.ipv4Network) = true
        then current.insert (forwardExpr direction config.server.ipv4Network) else current := by
  simp only [listed_iff knows known, Nft.insert, knows.written]
  by_cases present : forwardExpr direction config.server.ipv4Network ∈ chain.ownTexts
  · rw [if_pos present, if_neg fun both => both.1 present]
  · rw [if_neg present]
    by_cases works : answers.inserts (forwardExpr direction config.server.ipv4Network) = true
    · rw [if_pos works, if_pos ⟨present, works⟩]
    · rw [if_neg works, if_neg fun both => works both.2]

theorem saddr_ne_daddr (network : String) : forwardExpr "saddr" network ≠ forwardExpr "daddr" network := by
  intro same
  have spelled := congrArg String.toList same
  rw [forwardExpr_toList, forwardExpr_toList] at spelled
  simp at spelled

theorem forwardExprs_eq (config : AppConfig) : forwardExprs config =
    [forwardExpr "saddr" config.server.ipv4Network, forwardExpr "daddr" config.server.ipv4Network] :=
  rfl

/-- A chain with korserver's rules for the network, each once, and with the rules of others as they were. -/
structure Tidy (config : AppConfig) (foreign : List ChainRule) (chain : DockerUser) : Prop where
  once : OwnsOnce chain
  owns : OwnsOnly config chain
  foreign : chain.foreign = foreign

theorem Tidy.insert {foreign : List ChainRule} {direction : String} (tidy : Tidy config foreign chain)
    (plain : PlainNetwork config.server.ipv4Network) (known : direction ∈ forwardDirections)
    (absent : forwardExpr direction config.server.ipv4Network ∉ chain.ownTexts) :
    Tidy config foreign (chain.insert (forwardExpr direction config.server.ipv4Network)) := by
  constructor
  · constructor
    · exact List.nodup_cons.mpr ⟨absent, tidy.once.once⟩
    · exact List.forall_mem_cons.mpr ⟨⟨direction, known, _, plain, rfl⟩, tidy.once.plain⟩
  · exact List.forall_mem_cons.mpr ⟨List.mem_map_of_mem known, tidy.owns⟩
  · exact tidy.foreign

theorem ensure_outcome (knows : ApplyKnows nft config chain) (once : OwnsOnce chain) {answers : DockerAnswers}
    (lists : answers.lists = true) :
    Tidy config chain.foreign (ensureDockerForwardCompat nft answers config chain) ∧
      ((∀ expr, answers.inserts expr = true) → ∀ expr ∈ forwardExprs config,
        expr ∈ (ensureDockerForwardCompat nft answers config chain).ownTexts) := by
  have plain : PlainNetwork config.server.ipv4Network := nft.plain _ _ knows.written
  have source : "saddr" ∈ forwardDirections := List.mem_cons_self
  have destination : "daddr" ∈ forwardDirections := List.mem_cons_of_mem _ List.mem_cons_self
  have apart := saddr_ne_daddr config.server.ipv4Network
  have tidy : Tidy config chain.foreign chain := ⟨once, knows.owns, rfl⟩
  rw [ensureDockerForwardCompat, if_pos lists]
  simp only [forwardDirections, List.foldl_cons, List.foldl_nil]
  rw [ownTexts_step knows answers source, ownTexts_step knows answers destination]
  constructor
  · by_cases first : forwardExpr "saddr" config.server.ipv4Network ∉ chain.ownTexts ∧
        answers.inserts (forwardExpr "saddr" config.server.ipv4Network) = true
    · rw [if_pos first]
      have inserted := tidy.insert plain source first.1
      split
      · rename_i second
        refine inserted.insert plain destination ?_
        rw [ownTexts_insert, List.mem_cons, not_or]
        exact ⟨apart.symm, second.1⟩
      · exact inserted
    · rw [if_neg first]
      split
      · rename_i second
        exact tidy.insert plain destination second.1
      · exact tidy
  · intro works
    simp only [works, and_true, forwardExprs_eq, List.forall_mem_cons, List.not_mem_nil, false_implies,
      implies_true]
    by_cases first : forwardExpr "saddr" config.server.ipv4Network ∈ chain.ownTexts <;>
      by_cases second : forwardExpr "daddr" config.server.ipv4Network ∈ chain.ownTexts <;>
        simp [first, second]

theorem forwardsOnly_of (knows : ApplyKnows nft config chain) {after : DockerUser}
    (tidy : Tidy config chain.foreign after) (both : ∀ expr ∈ forwardExprs config, expr ∈ after.ownTexts) :
    ForwardsOnly nft config after := by
  refine ⟨config.server.ipv4Network, knows.written, fun direction known => ?_, fun text member => ?_⟩
  · have listed : forwardExpr direction config.server.ipv4Network ∈ forwardExprs config :=
      List.mem_map_of_mem known
    have others : forwardExpr direction config.server.ipv4Network ∉ after.foreign.map (·.text) := by
      intro member
      obtain ⟨rule, foreign, same⟩ := List.mem_map.mp member
      have absent := knows.apart rule (tidy.foreign ▸ foreign) _ listed
      rw [same, contains, decide_eq_false_iff_not] at absent
      exact absent (List.infix_refl _)
    rw [count_eq, List.count_eq_one_of_mem tidy.once.once (both _ listed), List.count_eq_zero.mpr others]
  · obtain ⟨direction, known, same⟩ := List.mem_map.mp (tidy.owns text member)
    exact ⟨direction, known, same.symm⟩

theorem removed_rules (answers : DockerAnswers) (handles : List String) (chain : DockerUser) :
    (handles.foldl (fun current handle =>
      if answers.deletes handle then current.delete handle else current) chain).rules =
      chain.rules.filter fun rule =>
        !(handles.any fun handle => answers.deletes handle && decide (toString rule.handle = handle)) := by
  induction handles generalizing chain with
  | nil => simp
  | cons handle rest ih =>
      rw [List.foldl_cons, ih]
      by_cases works : answers.deletes handle = true
      · rw [if_pos works, DockerUser.delete, List.filter_filter]
        refine List.filter_congr fun rule _ => ?_
        by_cases same : toString rule.handle = handle <;> simp [works, same, Bool.and_comm]
      · rw [if_neg works]
        refine List.filter_congr fun rule _ => ?_
        simp [works]

theorem handle_unique {rule other : ChainRule} (inChain : rule ∈ chain.rules) (also : other ∈ chain.rules)
    (same : toString rule.handle = toString other.handle) : rule = other := by
  have handles : rule.handle = other.handle := toString_injective same
  exact List.inj_on_of_nodup_map chain.distinct inChain also handles

theorem handleNote_whole (handle : Nat) : ∀ c ∈ (handleNote true handle).toList, isLineBreak c = false := by
  have note : " # handle ".toList.all (fun c => !isLineBreak c) = true := by decide
  intro c member
  rw [handleNote, if_pos rfl, String.toList_append, List.mem_append] at member
  rcases member with inNote | inHandle
  · simpa using List.all_eq_true.mp note c inNote
  · obtain ⟨digit, below, rfl⟩ := digit_toString inHandle
    exact (isExprChar_whole (digitChar_decimal digit below).2.2).1

theorem quiet_line (config : AppConfig) {head note : String} {blank rest : List Char} {first : Char}
    (spelled : head.toList = blank ++ first :: rest) (blanks : blank.all isSpace = true)
    (visible : isSpace first = false) (other : first ≠ 'i')
    (whole : head.toList.all (fun c => !isLineBreak c) = true)
    (noteWhole : ∀ c ∈ note.toList, isLineBreak c = false) :
    ∀ line ∈ splitLines (head ++ note ++ "\n"), handleToDelete config line = none := by
  have single : ∀ c ∈ (head ++ note).toList, isLineBreak c = false := by
    intro c member
    rw [String.toList_append, List.mem_append] at member
    rcases member with inHead | inNote
    · simpa using List.all_eq_true.mp whole c inHead
    · exact noteWhole c inNote
  have all : (head ++ note).toList = blank ++ first :: (rest ++ note.toList) := by
    rw [String.toList_append, spelled, List.append_assoc, List.cons_append]
  intro line member
  rw [splitLines_single single] at member
  obtain rfl := List.mem_singleton.mp member
  exact handleToDelete_other config all (List.all_eq_true.mp blanks) visible other

theorem found_handles (knows : CleanupKnows config chain) (once : OwnsOnce chain) (handle : String) :
    handle ∈ (splitLines (chain.listing true)).filterMap (handleToDelete config) ↔
      ∃ rule ∈ chain.rules, rule.own = true ∧ toString rule.handle = handle := by
  have own {rule : ChainRule} (member : rule ∈ chain.rules) (mine : rule.own = true) :
      splitLines (rule.line true ++ "\n") = [rule.line true] ∧
        handleToDelete config (rule.line true) = some (toString rule.handle) := by
    have text := mem_ownTexts.mpr ⟨rule, member, mine, rfl⟩
    obtain ⟨direction, known, network, plain, spelled⟩ := once.plain _ text
    exact handleToDelete_own config known plain spelled (knows.owns _ text)
  have table := @quiet_line config "table ip filter \x7b" (handleNote true chain.tableHandle) [] _ _ rfl
    (by decide) (by decide) (by decide) (by decide) (handleNote_whole _)
  have start := @quiet_line config "\tchain DOCKER-USER \x7b" (handleNote true chain.chainHandle) ['\t'] _ _ rfl
    (by decide) (by decide) (by decide) (by decide) (handleNote_whole _)
  have stop := @quiet_line config "\t\x7d" "" ['\t'] _ _ rfl
    (by decide) (by decide) (by decide) (by decide) nofun
  have last := @quiet_line config "\x7d" "" [] _ _ rfl
    (by decide) (by decide) (by decide) (by decide) nofun
  rw [List.mem_filterMap]
  constructor
  · rintro ⟨line, listed, found⟩
    rw [DockerUser.listing, mem_splitLines_listing] at listed
    simp only [DockerUser.lines, List.mem_append, List.mem_map, List.not_mem_nil, List.mem_cons, or_false]
      at listed
    obtain ⟨printed, rfl | rfl | ⟨rule, member, rfl⟩ | rfl | rfl, piece⟩ := listed
    · cases found.symm.trans (table line piece)
    · cases found.symm.trans (start line piece)
    · cases mine : rule.own with
      | false => cases found.symm.trans (knows.apart rule (mem_foreign.mpr ⟨member, mine⟩) line piece)
      | true =>
          obtain ⟨single, given⟩ := own member mine
          rw [single] at piece
          obtain rfl := List.mem_singleton.mp piece
          exact ⟨rule, member, mine, Option.some.inj (given.symm.trans found)⟩
    · cases found.symm.trans (stop line piece)
    · cases found.symm.trans (last line piece)
  · rintro ⟨rule, member, mine, rfl⟩
    obtain ⟨single, given⟩ := own member mine
    refine ⟨rule.line true, ?_, given⟩
    rw [DockerUser.listing, mem_splitLines_listing]
    refine ⟨rule.line true, ?_, single ▸ List.mem_singleton_self _⟩
    simp only [DockerUser.lines, List.mem_append, List.mem_map, List.mem_cons]
    exact Or.inr (Or.inr (Or.inl ⟨rule, member, rfl⟩))

/-- Removing takes korserver's rules only, and all of them when nft deletes what it is told to. -/
theorem remove_outcome (knows : CleanupKnows config chain) (once : OwnsOnce chain) {answers : DockerAnswers}
    (lists : answers.lists = true) :
    Tidy config chain.foreign (removeDockerForwardCompat answers config chain) ∧
      ((∀ handle, answers.deletes handle = true) →
        (removeDockerForwardCompat answers config chain).ownTexts = []) := by
  have found := found_handles knows once
  rw [removeDockerForwardCompat, if_pos lists]
  have rules := removed_rules answers ((splitLines (chain.listing true)).filterMap (handleToDelete config)) chain
  generalize ((splitLines (chain.listing true)).filterMap (handleToDelete config)).foldl (fun current handle =>
    if answers.deletes handle then current.delete handle else current) chain = after at rules ⊢
  have fewer : after.ownTexts.Sublist chain.ownTexts := by
    rw [DockerUser.ownTexts, rules]
    exact (List.filter_sublist.filter _).map _
  have foreign : after.foreign = chain.foreign := by
    rw [DockerUser.foreign, DockerUser.foreign, rules, List.filter_filter]
    refine List.filter_congr fun rule member => ?_
    cases mine : rule.own with
    | true => rfl
    | false =>
        rw [Bool.not_false, Bool.true_and, Bool.not_eq_true', List.any_eq_false]
        intro handle deleted
        obtain ⟨other, also, own, same⟩ := (found handle).mp deleted
        simp only [Bool.and_eq_true, decide_eq_true_eq, not_and]
        intro _ taken
        have one := handle_unique member also (taken.trans same.symm)
        rw [one, own] at mine
        cases mine
  refine ⟨⟨⟨once.once.sublist fewer, fun text member => once.plain text (fewer.subset member)⟩,
    fun text member => knows.owns text (fewer.subset member), foreign⟩, fun works => ?_⟩
  rw [List.eq_nil_iff_forall_not_mem]
  intro text member
  obtain ⟨rule, kept, own, -⟩ := mem_ownTexts.mp member
  rw [rules, List.mem_filter, Bool.not_eq_true', List.any_eq_false] at kept
  have untouched := kept.2 (toString rule.handle) ((found _).mpr ⟨rule, kept.1, own, rfl⟩)
  simp [works] at untouched

theorem ensure_exact {answers : DockerAnswers} (knows : answers.lists = true → ApplyKnows nft config chain)
    (once : OwnsOnce chain) :
    (answers.lists = true → (∀ expr, answers.inserts expr = true) →
        ForwardsOnly nft config (ensureDockerForwardCompat nft answers config chain)) ∧
      OwnsOnce (ensureDockerForwardCompat nft answers config chain) ∧
        (ensureDockerForwardCompat nft answers config chain).foreign = chain.foreign := by
  by_cases lists : answers.lists = true
  · obtain ⟨tidy, both⟩ := ensure_outcome (knows lists) once lists
    exact ⟨fun _ works => forwardsOnly_of (knows lists) tidy (both works), tidy.once, tidy.foreign⟩
  · have same : ensureDockerForwardCompat nft answers config chain = chain := by
      rw [ensureDockerForwardCompat, if_neg lists]
    rw [same]
    exact ⟨fun works => absurd works lists, once, rfl⟩

/-- A call whose chain meets the condition leaves the chain exact, and keeps what the next call needs. -/
theorem call_exact (nft : Nft) {host : FirewallHost} {call : FirewallCall} (knows : CallKnows nft host call)
    (once : OwnsOnce host.dockerUser) :
    ExactAfterCall nft host.dockerUser.foreign host call ∧ OwnsOnce (host.call nft call).dockerUser ∧
      (host.call nft call).dockerUser.foreign = host.dockerUser.foreign := by
  cases call with
  | apply answers docker files config outbound =>
      simp only [CallKnows, FirewallHost.reaches] at knows
      simp only [ExactAfterCall, FirewallHost.call, FirewallHost.apply, FirewallHost.reaches]
      cases applied : nftablesApply answers files config outbound host.tables with
      | error problem => exact ⟨⟨nofun, rfl⟩, once, rfl⟩
      | ok outcome =>
          obtain ⟨result, tables⟩ := outcome
          rw [applied] at knows
          cases result with
          | failed => exact ⟨⟨nofun, rfl⟩, once, rfl⟩
          | refreshed =>
              obtain ⟨exactly, still, foreign⟩ := ensure_exact knows once
              exact ⟨⟨exactly, foreign⟩, still, foreign⟩
          | recreated =>
              obtain ⟨exactly, still, foreign⟩ := ensure_exact knows once
              exact ⟨⟨exactly, foreign⟩, still, foreign⟩
  | cleanup answers config =>
      simp only [CallKnows] at knows
      simp only [ExactAfterCall, FirewallHost.call, FirewallHost.cleanup]
      by_cases lists : answers.docker.lists = true
      · obtain ⟨tidy, gone⟩ := remove_outcome (knows lists) once lists
        exact ⟨⟨fun _ => gone, tidy.foreign⟩, tidy.once, tidy.foreign⟩
      · have same : removeDockerForwardCompat answers.docker config host.dockerUser = host.dockerUser := by
          rw [removeDockerForwardCompat, if_neg lists]
        rw [same]
        exact ⟨⟨fun works => absurd works lists, rfl⟩, once, rfl⟩

end

/-- From a chain without rules of korserver, in a run whose calls find the chain as they know it: after every
call whose commands succeed the chain is exact, and nobody else's rule is touched. -/
theorem dockerRules_exact (nft : Nft) (host : FirewallHost) (calls : List FirewallCall)
    (clean : host.dockerUser.ownTexts = [])
    (knows : Throughout (FirewallHost.call nft) (CallKnows nft) host calls) :
    Throughout (FirewallHost.call nft) (ExactAfterCall nft host.dockerUser.foreign) host calls := by
  have once : OwnsOnce host.dockerUser := by
    constructor
    · rw [clean]
      exact List.nodup_nil
    · rw [clean]
      exact nofun
  generalize kept : host.dockerUser.foreign = foreign
  clear clean
  induction calls generalizing host with
  | nil => trivial
  | cons call rest ih =>
      obtain ⟨first, others⟩ := knows
      obtain ⟨exactly, still, same⟩ := call_exact nft first once
      exact ⟨kept ▸ exactly, ih (host.call nft call) others still (same.trans kept)⟩

/-! A network with host bits. -/

/-- The network with its host bits cleared; an address of the other family is refused. -/
def clearedNetwork (words : List (List Char)) : Option String :=
  match words with
  | [word] =>
      match ipNetwork (String.ofList word) with
      | some network => if network.family = .v4 ∧ network.base.scope = none then some network.text else none
      | none => none
  | _ => none

theorem clearedNetwork_plain {words : List (List Char)} {listed : String}
    (found : clearedNetwork words = some listed) : ∀ c ∈ listed.toList, isRouteChar c = true := by
  cases words with
  | nil => cases found
  | cons word rest =>
      cases rest with
      | cons other more => cases found
      | nil =>
          simp only [clearedNetwork] at found
          cases read : ipNetwork (String.ofList word) with
          | none => rw [read] at found; cases found
          | some network =>
              simp only [read, Option.ite_none_right_eq_some] at found
              obtain ⟨plain, same⟩ := found
              obtain rfl := Option.some.inj same
              exact (Network.text_chars plain.2).2

def clearingNft : Nft where
  network := clearedNetwork
  plain := fun _ _ found => clearedNetwork_plain found

def dockerReturn : ChainRule where
  handle := 5
  text := "counter packets 0 bytes 0 return"

def dockerHost : FirewallHost where
  dockerUser :=
    { rules := [dockerReturn], next := 6, below := by decide, distinct := by decide }

def hostBitsConfig : AppConfig where
  server := { ipv4Network := "10.10.10.5/24" }

theorem hostBitsConfig_valid : hostBitsConfig.Valid := ⟨fun _ => false, by decide +kernel⟩

def applyTo (config : AppConfig) : FirewallCall := .apply willingAnswers {} {} config none

def FirewallCall.config : FirewallCall → AppConfig
  | .apply _ _ _ config _ => config
  | .cleanup _ config => config

theorem hostBits_accumulate :
    ¬∀ (host : FirewallHost) (calls : List FirewallCall), host.dockerUser.ownTexts = [] →
      (∀ call ∈ calls, call.config.Valid) →
        Throughout (FirewallHost.call clearingNft) (ExactAfterCall clearingNft host.dockerUser.foreign) host
          calls := by
  intro exactly
  have valid : ∀ call ∈ [applyTo hostBitsConfig, applyTo hostBitsConfig], call.config.Valid := by
    simp only [List.forall_mem_cons]
    exact ⟨hostBitsConfig_valid, hostBitsConfig_valid, List.forall_mem_nil _⟩
  obtain ⟨-, second, -⟩ := exactly dockerHost _ rfl valid
  obtain ⟨listed, written, once, -⟩ := second.1 (by decide +kernel) (fun _ => rfl)
  have named : clearingNft.network (splitSpace hostBitsConfig.server.ipv4Network.toList) =
      some "10.10.10.0/24" := by
    decide +kernel
  obtain rfl := Option.some.inj (written.symm.trans named)
  have twice := once "saddr" List.mem_cons_self
  revert twice
  decide +kernel

def appliedTwice : List FirewallCall := [applyTo {}, applyTo {}, .cleanup {} {}]

example : clearingNft.network (splitSpace "10.10.10.7/24".toList) = some "10.10.10.0/24" := by decide +kernel

theorem dockerRules_exact_sample :
    Throughout (FirewallHost.call clearingNft) (ExactAfterCall clearingNft dockerHost.dockerUser.foreign)
      dockerHost appliedTwice := by
  refine dockerRules_exact clearingNft dockerHost appliedTwice rfl ?_
  have apart (chain : DockerUser) (only : chain.foreign = [dockerReturn]) :
      ∀ rule ∈ chain.foreign, ∀ expr ∈ forwardExprs {}, contains expr rule.text = false := by
    rw [only]
    decide +kernel
  refine ⟨fun _ => ⟨by decide +kernel, ?_, apart _ (by decide +kernel)⟩,
    fun _ => ⟨by decide +kernel, ?_, apart _ (by decide +kernel)⟩, fun _ => ⟨?_, ?_⟩, trivial⟩
  · exact nofun
  · rw [OwnsOnly]
    decide +kernel
  · rw [OwnsOnly]
    decide +kernel
  · decide +kernel

end Korserver
