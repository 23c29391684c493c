import Korserver.PushedParserCore
import Korserver.ScriptText

/-!
The lists that come from outside (handshake environment, sync response, downloaded list files)
and what is asked of them: plain entries, so that the scripts they are pasted into keep their
shape. The condition under which they are plain is a condition on the input.
-/

namespace Korserver

open PythonText IpAddress PacketFilter PythonValue

/-- Entries that end up in nftables sets and in dnsmasq.conf. -/
structure PastedLists where
  routes : List String
  servers : List String
  domains : List String

/-- The servers are pasted twice: behind pushed domains and, as routes, into the host sets. -/
def PushedRouting.pasted (pushed : PushedRouting) : Except PyError PastedLists := do
  let routes ← pushed.routes.items
  let routes ← textsOf routes
  let dnsRoutes ← pushed.dnsHostRoutes
  let servers ← pushed.dns.items
  let servers ← textsOf servers
  let domains ← pushed.domains.items
  let domains ← textsOf domains
  return { routes := routes ++ dnsRoutes, servers, domains }

inductive UntrustedInput
  | handshake (environ : Environ) (now : Int)
  | syncPayload (payload : Json)
  | routeList (text : String)
  | domainList (text : String)

def UntrustedInput.pasted (repr : Json → String) : UntrustedInput → Except PyError PastedLists
  | .handshake environ now => (parseVpncEnvironment environ now).pasted
  | .syncPayload payload => do
      let lists ← parseSyncPayload repr payload
      return { routes := lists.routes, servers := [], domains := lists.domains }
  | .routeList text => do
      let parsed ← parseListText text normalizeRoute
      return { routes := parsed.items, servers := [], domains := [] }
  | .domainList text => do
      let parsed ← parseListText text normalizeDomain
      return { routes := [], servers := [], domains := parsed.items }

def Directive.PastedFrom (lists : PastedLists) : Directive → Prop
  | .serverFor domain dns =>
      (domain ∈ lists.domains ∨ PlainDomain domain) ∧ (dns ∈ lists.servers ∨ PlainServer dns)
  | .nftset domain _ _ _ => domain ∈ lists.domains ∨ PlainDomain domain
  | _ => True

/-- Whatever is pasted from the lists, next to plain entries, leaves the tokens of the
templates as they are. -/
structure KeepsShape (lists : PastedLists) : Prop where
  sets : ∀ sets : List SetDeclaration,
    (∀ set ∈ sets, ∀ entry ∈ set.elements, entry ∈ lists.routes ∨ PlainRoute entry) →
    nftTokens (setsText sets) = sets.flatMap setTokens
  refresh : ∀ refresh : StaticRefresh,
    (∀ name entries, .add name entries ∈ refresh.commands →
      ∀ entry ∈ entries, entry ∈ lists.routes ∨ PlainRoute entry) →
    nftTokens refresh.text = refresh.commands.flatMap (SetCommand.tokens refresh.table)
  directives : ∀ directives : List Directive,
    (∀ directive ∈ directives, directive.PastedFrom lists) →
    dnsmasqTokens (dnsmasqText directives) = directives.flatMap Directive.tokens

structure SafeLists (lists : PastedLists) : Prop where
  elements : ∀ entry ∈ lists.routes ++ lists.servers, ∀ c ∈ entry.toList, isRouteChar c = true
  domains : ∀ domain ∈ lists.domains, ∀ c ∈ domain.toList, isDomainChar c = true
  shape : KeepsShape lists

/-- A network with a scope that `ip_network` keeps: no host bit is set. -/
def ScopedRoute (text : String) : Prop :=
  '%' ∈ text.toList ∧ (ipNetworkStrict text).isSome = true

instance (text : String) : Decidable (ScopedRoute text) := inferInstanceAs (Decidable (_ ∧ _))

def ScopedServer (text : String) : Prop := '%' ∈ text.toList ∧ (ipAddress text).isSome = true

instance (text : String) : Decidable (ScopedServer text) := inferInstanceAs (Decidable (_ ∧ _))

/-- A domain with a line break at its end, in front of the dots that are stripped. -/
def BrokenDomain (text : String) : Prop :=
  matchesDomain (stripEnd '.' (lower (strip text))) = true ∧
    (stripEnd '.' (lower (strip text))).toList.getLast? = some '\n'

instance (text : String) : Decidable (BrokenDomain text) := inferInstanceAs (Decidable (_ ∧ _))

/-- What the list parser hands to `normalize`. -/
def listCandidates (text : String) : List String :=
  ((((splitLines text).map strip).filter fun line => !isCommentLine line).map lineCandidate).filter
    fun candidate => decide (candidate ≠ "")

def UntrustedInput.Harmless : UntrustedInput → Prop
  | .handshake environ _ =>
      (∀ route ∈ splitRoutes environ, ¬ScopedRoute (strip route)) ∧
      (∀ server ∈ pushedServers environ, ¬ScopedServer (strip server)) ∧
      ∀ domain ∈ splitDomains environ, ¬BrokenDomain domain
  | .syncPayload (.dict payload) =>
      (∀ route ∈ stringItems (lookup "routes" payload), ¬ScopedRoute (strip route)) ∧
      ∀ domain ∈ stringItems (lookup "split_dns" payload), ¬BrokenDomain domain
  | .syncPayload _ => True
  | .routeList text => ∀ entry ∈ listCandidates text,
      if '/' ∈ entry.toList then ¬ScopedRoute entry else ¬ScopedServer entry
  | .domainList _ => True

end Korserver
