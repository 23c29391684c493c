import Korserver.AddressText
import Korserver.ScriptTextCore

/-!
Plain entries are words of their own: a script into which they are pasted is read as the
template's tokens with one token for each entry, whatever the entries are.
-/

namespace Korserver

open PythonText IpAddress PacketFilter Tokens

def isDomainChar (c : Char) : Bool := isAlnum c || c == '-' || c == '.'

def PlainRoute (entry : String) : Prop := entry ≠ "" ∧ ∀ c ∈ entry.toList, isRouteChar c = true

def PlainServer (entry : String) : Prop := entry ≠ "" ∧ ∀ c ∈ entry.toList, isAddressChar c = true

def PlainDomain (entry : String) : Prop := entry ≠ "" ∧ ∀ c ∈ entry.toList, isDomainChar c = true

theorem isAlnum_of_hex {c : Char} (hex : isHexDigit c = true) : isAlnum c = true := by
  simp only [isHexDigit, Bool.or_eq_true, Bool.and_eq_true, decide_eq_true_eq] at hex
  simp only [isAlnum, Bool.or_eq_true, Bool.and_eq_true, decide_eq_true_eq]
  rcases hex with (digit | ⟨lower, upper⟩) | ⟨lower, upper⟩
  · exact Or.inr digit
  · exact Or.inl (Or.inr ⟨lower, Char.le_trans upper (by decide)⟩)
  · exact Or.inl (Or.inl ⟨lower, Char.le_trans upper (by decide)⟩)

theorem isDnsmasqWord_of_address {c : Char} (address : isAddressChar c = true) :
    isDnsmasqWord c = true := by
  simp only [isAddressChar, Bool.or_eq_true] at address
  simp only [isDnsmasqWord, Bool.or_eq_true]
  rcases address with (hex | colon) | dot
  · simp [isAlnum_of_hex hex]
  · simp [colon]
  · simp [dot]

theorem isNftWord_of_route {c : Char} (route : isRouteChar c = true) : isNftWord c = true := by
  simp only [isRouteChar, isAddressChar, Bool.or_eq_true] at route
  simp only [isNftWord, Bool.or_eq_true]
  rcases route with ((hex | colon) | dot) | slash
  · simp [isAlnum_of_hex hex]
  · simp [colon]
  · simp [dot]
  · simp [slash]

theorem isDnsmasqWord_of_domain {c : Char} (domain : isDomainChar c = true) :
    isDnsmasqWord c = true := by
  simp only [isDomainChar, Bool.or_eq_true] at domain
  simp only [isDnsmasqWord, Bool.or_eq_true]
  rcases domain with (alnum | dash) | dot
  · simp [alnum]
  · simp [dash]
  · simp [dot]

theorem linesText_append (first second : List String) :
    linesText (first ++ second) = linesText first ++ linesText second := by
  simp [linesText]

theorem linesText_singleton (line : String) : linesText [line] = line.toList ++ ['\n'] := by
  simp [linesText]

theorem tokens_linesText {isWord isBlank : Char → Bool} (newline : isWord '\n' = false)
    (lines : List String) :
    tokens isWord isBlank (linesText lines) =
      lines.flatMap fun line => tokens isWord isBlank (linesText [line]) := by
  induction lines with
  | nil => rfl
  | cons line rest ih =>
      rw [List.flatMap_cons, ← ih, ← List.singleton_append, linesText_append, linesText_singleton,
        tokens_append newline]

theorem nftTokens_lines (lines : List String) :
    nftTokens (linesText lines) = lines.flatMap fun line => nftTokens (linesText [line]) :=
  tokens_linesText (by decide) lines

theorem nftTokens_append_lines (first second : List String) :
    nftTokens (linesText (first ++ second)) =
      nftTokens (linesText first) ++ nftTokens (linesText second) := by
  rw [nftTokens_lines, List.flatMap_append, ← nftTokens_lines, ← nftTokens_lines]

theorem PlainRoute.tokens {entry : String} (plain : PlainRoute entry) :
    nftTokens entry.toList = [entry.toList] := by
  refine tokens_word (fun c member => isNftWord_of_route (plain.2 c member)) ?_
  simpa using plain.1

theorem nftTokens_join {entries : List String} (plain : ∀ entry ∈ entries, PlainRoute entry) :
    nftTokens (join ", " entries).toList = entryTokens entries := by
  induction entries with
  | nil => rfl
  | cons entry rest ih =>
      cases rest with
      | nil => exact (plain entry (by simp)).tokens
      | cons next rest =>
          have others := ih fun other member => plain other (List.mem_cons_of_mem _ member)
          have text : (join ", " (entry :: next :: rest)).toList =
              entry.toList ++ ',' :: ([] ++ ' ' :: (join ", " (next :: rest)).toList) := by
            simp [join, String.toList_append]
          rw [text, nftTokens, tokens_separator (by decide), tokens_separator (by decide)]
          rw [nftTokens] at others
          rw [others, ← nftTokens, (plain entry (by simp)).tokens]
          rfl

theorem nftTokens_elements (opening : List Char) {entries : List String}
    (plain : ∀ entry ∈ entries, PlainRoute entry) :
    nftTokens (opening ++ (elementsText entries).toList ++ ['\n']) =
      nftTokens (opening ++ "\x7b ".toList) ++ entryTokens entries ++ nftTokens " \x7d\n".toList := by
  have text : opening ++ (elementsText entries).toList ++ ['\n'] =
      (opening ++ ['{'] ++ [' ']) ++ ((join ", " entries).toList ++ ' ' :: ['}', '\n']) := by
    simp [elementsText, String.toList_append]
  have start : opening ++ "\x7b ".toList = opening ++ ['{'] ++ [' '] := by simp
  have front := @tokens_append isNftWord (· == ' ') ' ' (by decide) (opening ++ ['{'])
    ((join ", " entries).toList ++ ' ' :: ['}', '\n'])
  have back := @tokens_append_cons isNftWord (· == ' ') ' ' (by decide) (join ", " entries).toList
    ['}', '\n']
  have middle := nftTokens_join plain
  rw [nftTokens] at middle
  rw [text, start, nftTokens, front, back, middle, ← List.append_assoc]
  rfl

theorem nftTokens_setLines {set : SetDeclaration} (plain : ∀ entry ∈ set.elements, PlainRoute entry) :
    nftTokens (linesText (setLines set)) = setTokens set := by
  have closing : linesText ["  \x7d"] = "  \x7d\n".toList := by decide
  rw [setLines, setTokens, nftTokens_append_lines, nftTokens_append_lines, closing]
  congr 2
  split
  · rfl
  · rw [linesText_singleton, String.toList_append, nftTokens_elements _ plain,
      ← String.toList_append]
    rfl

theorem nftTokens_setsText {sets : List SetDeclaration}
    (plain : ∀ set ∈ sets, ∀ entry ∈ set.elements, PlainRoute entry) :
    nftTokens (setsText sets) = sets.flatMap setTokens := by
  induction sets with
  | nil => rfl
  | cons set rest ih =>
      rw [setsText, List.flatMap_cons, nftTokens_append_lines, nftTokens_setLines (plain set (by simp)),
        List.flatMap_cons]
      rw [← setsText, ih fun other member => plain other (List.mem_cons_of_mem _ member)]

theorem SetCommand.add_text (table name : String) (entries : List String) :
    (SetCommand.add name entries).text table =
      "add element inet " ++ table ++ " " ++ name ++ " " ++ elementsText entries := rfl

theorem nftTokens_add (table name : String) {entries : List String}
    (plain : ∀ entry ∈ entries, PlainRoute entry) :
    nftTokens (linesText [(SetCommand.add name entries).text table]) =
      (SetCommand.add name entries).tokens table := by
  have read := nftTokens_elements ("add element inet " ++ table ++ " " ++ name ++ " ").toList plain
  have whole : linesText [(SetCommand.add name entries).text table] =
      ("add element inet " ++ table ++ " " ++ name ++ " ").toList ++ (elementsText entries).toList ++
        ['\n'] := by
    rw [SetCommand.add_text, linesText_singleton, String.toList_append]
  have opening : ("add element inet " ++ table ++ " " ++ name ++ " \x7b ").toList =
      ("add element inet " ++ table ++ " " ++ name ++ " ").toList ++ "\x7b ".toList := by
    simp [String.toList_append]
  rw [whole, read, SetCommand.tokens, opening]

theorem nftTokens_refresh {refresh : StaticRefresh}
    (plain : ∀ name entries, .add name entries ∈ refresh.commands →
      ∀ entry ∈ entries, PlainRoute entry) :
    nftTokens refresh.text = refresh.commands.flatMap (SetCommand.tokens refresh.table) := by
  rw [StaticRefresh.text, nftTokens_lines, List.flatMap_map]
  refine List.flatMap_congr ?_
  intro command member
  cases command with
  | flush name => simp only [SetCommand.tokens]
  | add name entries => exact nftTokens_add refresh.table name (plain name entries member)

theorem dnsmasqTokens_entry (opening closing : List Char) {entry : String} {first last : Char}
    (before : isDnsmasqWord first = false) (after : isDnsmasqWord last = false)
    (some : entry ≠ "") (letters : ∀ c ∈ entry.toList, isDnsmasqWord c = true) :
    dnsmasqTokens (opening ++ [first] ++ entry.toList ++ last :: closing) =
      dnsmasqTokens (opening ++ [first]) ++ [entry.toList] ++ dnsmasqTokens (last :: closing) := by
  have word : dnsmasqTokens entry.toList = [entry.toList] :=
    tokens_word letters (by simpa using some)
  rw [dnsmasqTokens, tokens_append_cons after, tokens_append before]
  rw [← dnsmasqTokens, word]

theorem Directive.nftset_text (domain table setV4 setV6 : String) :
    (Directive.nftset domain table setV4 setV6).text =
      "nftset=/" ++ domain ++ "/4#inet#" ++ table ++ "#" ++ setV4 ++ ",6#inet#" ++ table ++ "#" ++
        setV6 := rfl

theorem Directive.serverFor_text (domain dns : String) :
    (Directive.serverFor domain dns).text = "server=/" ++ domain ++ "/" ++ dns := rfl

theorem dnsmasqTokens_nftset {domain : String} (plain : PlainDomain domain)
    (table setV4 setV6 : String) :
    dnsmasqTokens (linesText [(Directive.nftset domain table setV4 setV6).text]) =
      (Directive.nftset domain table setV4 setV6).tokens := by
  have entry := @dnsmasqTokens_entry "nftset=".toList
    ("4#inet#" ++ table ++ "#" ++ setV4 ++ ",6#inet#" ++ table ++ "#" ++ setV6 ++ "\n").toList
    domain '/' '/' (by decide) (by decide) plain.1
    fun c member => isDnsmasqWord_of_domain (plain.2 c member)
  have whole : linesText [(Directive.nftset domain table setV4 setV6).text] =
      "nftset=".toList ++ ['/'] ++ domain.toList ++
        '/' :: ("4#inet#" ++ table ++ "#" ++ setV4 ++ ",6#inet#" ++ table ++ "#" ++ setV6 ++
          "\n").toList := by
    simp [Directive.nftset_text, linesText, String.toList_append]
  rw [whole, entry, Directive.tokens]
  simp [String.toList_append]

theorem dnsmasqTokens_serverFor {domain dns : String} (plain : PlainDomain domain)
    (server : PlainServer dns) :
    dnsmasqTokens (linesText [(Directive.serverFor domain dns).text]) =
      (Directive.serverFor domain dns).tokens := by
  have first := @dnsmasqTokens_entry "server=".toList (dns.toList ++ ['\n']) domain '/' '/'
    (by decide) (by decide) plain.1 fun c member => isDnsmasqWord_of_domain (plain.2 c member)
  have second := @dnsmasqTokens_entry [] [] dns '/' '\n' (by decide) (by decide) server.1
    fun c member => isDnsmasqWord_of_address (server.2 c member)
  have whole : linesText [(Directive.serverFor domain dns).text] =
      "server=".toList ++ ['/'] ++ domain.toList ++ '/' :: (dns.toList ++ ['\n']) := by
    simp [Directive.serverFor_text, linesText, String.toList_append]
  simp only [List.nil_append, List.cons_append] at second
  rw [whole, first, second, Directive.tokens]
  simp [List.append_assoc]

def Directive.Plain : Directive → Prop
  | .serverFor domain dns => PlainDomain domain ∧ PlainServer dns
  | .nftset domain _ _ _ => PlainDomain domain
  | _ => True

theorem dnsmasqTokens_directive {directive : Directive} (plain : directive.Plain) :
    dnsmasqTokens (linesText [directive.text]) = directive.tokens := by
  cases directive with
  | serverFor domain dns => exact dnsmasqTokens_serverFor plain.1 plain.2
  | nftset domain table setV4 setV6 => exact dnsmasqTokens_nftset plain table setV4 setV6
  | option name => simp [Directive.tokens]
  | setting name value => simp [Directive.tokens]
  | server dns => simp [Directive.tokens]
  | address host ip => simp [Directive.tokens]

theorem dnsmasqTokens_text {directives : List Directive}
    (plain : ∀ directive ∈ directives, directive.Plain) :
    dnsmasqTokens (dnsmasqText directives) = directives.flatMap Directive.tokens := by
  rw [dnsmasqText, dnsmasqTokens, tokens_linesText (by decide), List.flatMap_map]
  refine List.flatMap_congr ?_
  intro directive member
  exact dnsmasqTokens_directive (plain directive member)

end Korserver
