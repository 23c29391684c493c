import Korserver.AddressText
import Korserver.NftablesServiceCore
import Mathlib.Data.List.Infix

/-!
`services/nftables.py`: the rules for clients that a Docker host gets in its `DOCKER-USER` chain, next to
the ruleset that `apply` loads and `cleanup` deletes.
-/

namespace Korserver

open PythonText PythonValue IpAddress

/-- A rule as nft lists it. `own` is whether korserver inserted it, which nft does not tell. -/
structure ChainRule where
  handle : Nat
  text : String
  own : Bool := false
  deriving DecidableEq

/-- `ip filter DOCKER-USER`. A handle is given once. -/
structure DockerUser where
  rules : List ChainRule
  tableHandle : Nat := 1
  chainHandle : Nat := 2
  next : Nat
  below : ∀ rule ∈ rules, rule.handle < next
  distinct : (rules.map (·.handle)).Nodup

/-- nft is not under the sources: the network it lists for the words of one, `none` when it refuses it. -/
structure Nft where
  network : List (List Char) → Option String
  plain : ∀ words listed, network words = some listed →
    ∀ c ∈ listed.toList, isRouteChar c = true

structure DockerAnswers where
  lists : Bool := true
  inserts : String → Bool := fun _ => true
  deletes : String → Bool := fun _ => true

namespace DockerUser

variable (chain : DockerUser)

/-- `nft insert rule`: at the head. -/
def insert (text : String) : DockerUser :=
  { chain with
    rules := { handle := chain.next, text, own := true } :: chain.rules
    next := chain.next + 1
    below := by
      refine List.forall_mem_cons.mpr ⟨Nat.lt_succ_self _, fun rule member => ?_⟩
      exact Nat.lt_succ_of_lt (chain.below rule member)
    distinct := by
      refine List.nodup_cons.mpr ⟨fun taken => ?_, chain.distinct⟩
      obtain ⟨rule, member, same⟩ := List.mem_map.mp taken
      exact absurd same (Nat.ne_of_lt (chain.below rule member)) }

/-- `nft delete rule ... handle`. -/
def delete (handle : String) : DockerUser :=
  { chain with
    rules := chain.rules.filter fun rule => decide (toString rule.handle ≠ handle)
    below := fun rule member => chain.below rule (List.mem_filter.mp member).1
    distinct := chain.distinct.sublist (List.filter_sublist.map _) }

end DockerUser

def handleNote (handles : Bool) (handle : Nat) : String :=
  if handles then " # handle " ++ toString handle else ""

def ChainRule.line (handles : Bool) (rule : ChainRule) : String :=
  "\t\t" ++ rule.text ++ handleNote handles rule.handle

def DockerUser.lines (handles : Bool) (chain : DockerUser) : List String :=
  ("table ip filter \x7b" ++ handleNote handles chain.tableHandle) ::
    ("\tchain DOCKER-USER \x7b" ++ handleNote handles chain.chainHandle) ::
      (chain.rules.map (ChainRule.line handles) ++ ["\t\x7d", "\x7d"])

def printLines : List String → String
  | [] => ""
  | line :: rest => line ++ "\n" ++ printLines rest

def DockerUser.listing (handles : Bool) (chain : DockerUser) : String := printLines (chain.lines handles)

def forwardExpr (direction network : String) : String := "ip " ++ direction ++ " " ++ network ++ " accept"

def forwardDirections : List String := ["saddr", "daddr"]

/-- `_docker_forward_compat_exprs`. -/
def forwardExprs (config : AppConfig) : List String :=
  forwardDirections.map fun direction => forwardExpr direction config.server.ipv4Network

/-- The rule is passed on as `expr.split()`. -/
def Nft.insert (nft : Nft) (answers : DockerAnswers) (config : AppConfig) (direction : String)
    (chain : DockerUser) : DockerUser :=
  match nft.network (splitSpace config.server.ipv4Network.toList) with
  | some listed =>
      if answers.inserts (forwardExpr direction config.server.ipv4Network) then
        chain.insert (forwardExpr direction listed)
      else chain
  | none => chain

def contains (part text : String) : Bool := decide (part.toList <:+: text.toList)

/-- `_ensure_docker_forward_compat`: both expressions are looked for in what was listed first. -/
def ensureDockerForwardCompat (nft : Nft) (answers : DockerAnswers) (config : AppConfig)
    (chain : DockerUser) : DockerUser :=
  if answers.lists then
    forwardDirections.foldl (fun current direction =>
      if contains (forwardExpr direction config.server.ipv4Network) (chain.listing false) then current
      else nft.insert answers config direction current) chain
  else chain

/-- What follows the `#` in `_HANDLE_RE`. -/
def handleAfterHash (rest : List Char) : Option String :=
  let word := rest.dropWhile isSpace
  if "handle".toList <+: word then
    let after := word.drop 6
    let digits := after.dropWhile isSpace
    let handle := digits.takeWhile isDecimal
    if after.takeWhile isSpace ≠ [] ∧ handle ≠ [] ∧ (digits.dropWhile isDecimal).all isSpace = true then
      some (String.ofList handle)
    else none
  else none

/-- `_HANDLE_RE.search`. -/
def searchHandle : List Char → Option String
  | [] => none
  | c :: rest => if c = '#' then (handleAfterHash rest).orElse fun _ => searchHandle rest else searchHandle rest

/-- The handle of a line that `_remove_docker_forward_compat` takes for a rule of korserver. -/
def handleToDelete (config : AppConfig) (line : String) : Option String :=
  let stripped := strip line
  if (forwardExprs config).any fun expr => decide (expr.toList <+: stripped.toList) then
    searchHandle stripped.toList
  else none

def removeDockerForwardCompat (answers : DockerAnswers) (config : AppConfig) (chain : DockerUser) :
    DockerUser :=
  if answers.lists then
    ((splitLines (chain.listing true)).filterMap (handleToDelete config)).foldl (fun current handle =>
      if answers.deletes handle then current.delete handle else current) chain
  else chain

structure FirewallHost where
  tables : HostState := {}
  dockerUser : DockerUser

structure CleanupAnswers where
  deletesFilter : Bool := true
  deletesNat : Bool := true
  docker : DockerAnswers := {}

def FirewallHost.apply (nft : Nft) (answers : Answers) (docker : DockerAnswers) (files : Files)
    (config : AppConfig) (outbound : Option String) (host : FirewallHost) :
    Except PyError (RulesetResult × FirewallHost) := do
  let (result, tables) ← nftablesApply answers files config outbound host.tables
  match result with
  | .failed => return (.failed, { host with tables })
  | _ => return (result,
      { tables, dockerUser := ensureDockerForwardCompat nft docker config host.dockerUser })

/-- `NftablesService.cleanup`. -/
def FirewallHost.cleanup (answers : CleanupAnswers) (config : AppConfig) (host : FirewallHost) :
    FirewallHost where
  tables :=
    { host.tables with
      inet := if answers.deletesFilter then Function.update host.tables.inet (filterTable config) none
        else host.tables.inet
      ip := if answers.deletesNat then Function.update host.tables.ip (natTable config) none
        else host.tables.ip }
  dockerUser := removeDockerForwardCompat answers.docker config host.dockerUser

end Korserver
