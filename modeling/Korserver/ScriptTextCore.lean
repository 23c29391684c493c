import Korserver.DnsmasqCore
import Korserver.Tokens

/-!
The text of the places in the two nftables templates and in `dnsmasq.conf.j2` where list
entries are pasted, and how nft and dnsmasq cut it into words.
-/

namespace Korserver

open PythonText IpAddress PacketFilter Tokens

def linesText (lines : List String) : List Char := lines.flatMap fun line => line.toList ++ ['\n']

def typeText : Family → String
  | .v4 => "ipv4_addr"
  | .v6 => "ipv6_addr"

def setOpening (set : SetDeclaration) : List String := [
  "  set " ++ set.name ++ " \x7b", "    type " ++ typeText set.type, "    flags interval",
  "    auto-merge"]

/-- `{ {{ elements | join(", ") }} }`. -/
def elementsText (elements : List String) : String := "\x7b " ++ join ", " elements ++ " \x7d"

def setLines (set : SetDeclaration) : List String :=
  setOpening set ++
  (if set.elements.isEmpty then [] else ["    elements = " ++ elementsText set.elements]) ++ ["  \x7d"]

def setsText (sets : List SetDeclaration) : List Char := linesText (sets.flatMap setLines)

def SetCommand.text (table : String) : SetCommand → String
  | .flush set => "flush set inet " ++ table ++ " " ++ set
  | .add set elements =>
      "add element inet " ++ table ++ " " ++ set ++ " " ++ elementsText elements

def StaticRefresh.text (refresh : StaticRefresh) : List Char :=
  linesText (refresh.commands.map (SetCommand.text refresh.table))

def Directive.text : Directive → String
  | .option name => name
  | .setting name value => name ++ "=" ++ value
  | .server dns => "server=" ++ dns
  | .serverFor domain dns => "server=/" ++ domain ++ "/" ++ dns
  | .nftset domain table setV4 setV6 =>
      "nftset=/" ++ domain ++ "/4#inet#" ++ table ++ "#" ++ setV4 ++ ",6#inet#" ++ table ++ "#" ++ setV6
  | .address host ip => "address=/" ++ host ++ "/" ++ ip

def dnsmasqText (directives : List Directive) : List Char :=
  linesText (directives.map Directive.text)

def isNftWord (c : Char) : Bool :=
  isAlnum c || c == '_' || c == '.' || c == ':' || c == '/' || c == '-'

def isDnsmasqWord (c : Char) : Bool := isAlnum c || c == '_' || c == '.' || c == ':' || c == '-'

def nftTokens : List Char → List (List Char) := tokens isNftWord (· == ' ')

def dnsmasqTokens : List Char → List (List Char) := tokens isDnsmasqWord (· == ' ')

def entryTokens : List String → List (List Char)
  | [] => []
  | [entry] => [entry.toList]
  | entry :: rest => entry.toList :: [','] :: entryTokens rest

/-- What nft should read: entries are words, and the rest is what the template says. -/
def setTokens (set : SetDeclaration) : List (List Char) :=
  nftTokens (linesText (setOpening set)) ++
  (if set.elements.isEmpty then []
    else nftTokens "    elements = \x7b ".toList ++ entryTokens set.elements ++ nftTokens " \x7d\n".toList) ++
  nftTokens "  \x7d\n".toList

def SetCommand.tokens (table : String) : SetCommand → List (List Char)
  | .flush set => nftTokens (linesText [(SetCommand.flush set).text table])
  | .add set elements =>
      nftTokens ("add element inet " ++ table ++ " " ++ set ++ " \x7b ").toList ++ entryTokens elements ++
        nftTokens " \x7d\n".toList

def Directive.tokens : Directive → List (List Char)
  | .serverFor domain dns =>
      dnsmasqTokens "server=/".toList ++ [domain.toList] ++ dnsmasqTokens "/".toList ++
        [dns.toList] ++ dnsmasqTokens "\n".toList
  | .nftset domain table setV4 setV6 =>
      dnsmasqTokens "nftset=/".toList ++ [domain.toList] ++
        dnsmasqTokens ("/4#inet#" ++ table ++ "#" ++ setV4 ++ ",6#inet#" ++ table ++ "#" ++ setV6 ++
          "\n").toList
  | directive => dnsmasqTokens (linesText [directive.text])

end Korserver
