import Korserver.IpAddressCore
import Mathlib.Data.List.Basic

/-!
A packet filter in the manner of nftables: rules with conditions and one action, chains
that are traversed rule by rule, and named sets of addresses. Networks and marks are
parameters of a rule, so that a script and what it loads share one type.
-/

namespace PacketFilter

open IpAddress

inductive Outcome (Packet : Type)
  | pass (packet : Packet)
  | accept (packet : Packet)
  | drop
  deriving DecidableEq

section Traversal

variable {Packet Rule Item : Type}

def traverse (effect : Rule → Packet → Outcome Packet) : List Rule → Packet → Outcome Packet
  | [], packet => .pass packet
  | rule :: rest, packet =>
      match effect rule packet with
      | .pass next => traverse effect rest next
      | .accept final => .accept final
      | .drop => .drop

@[simp] theorem traverse_nil (effect : Rule → Packet → Outcome Packet) (packet : Packet) :
    traverse effect [] packet = .pass packet := rfl

theorem traverse_cons_pass {effect : Rule → Packet → Outcome Packet} {rule : Rule}
    {packet next : Packet} (passes : effect rule packet = .pass next) (rest : List Rule) :
    traverse effect (rule :: rest) packet = traverse effect rest next := by
  simp only [traverse, passes]

theorem traverse_append_pass {effect : Rule → Packet → Outcome Packet} {rules : List Rule}
    {packet next : Packet} (passes : traverse effect rules packet = .pass next)
    (more : List Rule) :
    traverse effect (rules ++ more) packet = traverse effect more next := by
  induction rules generalizing packet with
  | nil =>
      simp only [traverse_nil, Outcome.pass.injEq] at passes
      simp [passes]
  | cons rule rest ih =>
      cases step : effect rule packet with
      | pass middle =>
          rw [traverse_cons_pass step] at passes
          rw [List.cons_append, traverse_cons_pass step]
          exact ih passes
      | accept final => simp [traverse, step] at passes
      | drop => simp [traverse, step] at passes

def rewriteBy (rewrite : Item → Packet → Packet) (last : Option Item) (packet : Packet) : Packet :=
  match last with
  | some item => rewrite item packet
  | none => packet

/-- Blocks of rules that each rewrite the packet when their item applies: the last item
that applies decides, because rewriting changes neither what applies nor any later
rewriting. -/
theorem traverse_lastApplies (effect : Rule → Packet → Outcome Packet)
    (block : Item → List Rule) (applies : Item → Packet → Bool) (rewrite : Item → Packet → Packet)
    (items : List Item)
    (blocks : ∀ item ∈ items, ∀ packet, traverse effect (block item) packet =
      .pass (if applies item packet then rewrite item packet else packet))
    (stable : ∀ item other packet, applies other (rewrite item packet) = applies other packet)
    (overwrites : ∀ item other packet, rewrite other (rewrite item packet) = rewrite other packet)
    (packet : Packet) :
    traverse effect (items.flatMap block) packet =
      .pass (rewriteBy rewrite (items.filter fun item => applies item packet).getLast? packet) := by
  induction items generalizing packet with
  | nil => rfl
  | cons item rest ih =>
      have restBlocks : ∀ other ∈ rest, ∀ packet, traverse effect (block other) packet =
          .pass (if applies other packet then rewrite other packet else packet) :=
        fun other member => blocks other (by simp [member])
      rw [List.flatMap_cons, traverse_append_pass (blocks item (by simp) packet),
        ih restBlocks]
      by_cases applied : applies item packet = true
      · simp only [applied, if_true, stable, List.filter_cons]
        cases last : (rest.filter fun other => applies other packet).getLast? with
        | none =>
            have empty := List.getLast?_eq_none_iff.mp last
            simp [empty, rewriteBy]
        | some other => simp [List.getLast?_cons, last, overwrites, rewriteBy]
      · simp [applied]

end Traversal

structure Packet where
  family : Family
  source : Nat
  destination : Nat
  /-- A packet of the connection's own direction, not a reply. -/
  original : Bool
  mark : Int := 0
  output : String := ""
  deriving DecidableEq

def Packet.setMark (mark : Int) (packet : Packet) : Packet := { packet with mark := mark }

@[simp] theorem Packet.setMark_setMark (first second : Int) (packet : Packet) :
    (packet.setMark first).setMark second = packet.setMark second := rfl

inductive Test (Net Mark : Type)
  | ipSource (network : Net)
  | ipDestinationNot (network : Net)
  | ipDestinationIn (set : String)
  | ip6DestinationIn (set : String)
  | ip6
  | markIs (mark : Mark)
  | markIsNot (mark : Mark)
  | outputIs (device : String)
  | outputIsNot (device : String)
  | directionOriginal
  deriving DecidableEq

inductive Action (Mark : Type)
  | setMark (mark : Mark)
  | accept
  | drop
  | masquerade
  deriving DecidableEq

structure Rule (Net Mark : Type) where
  tests : List (Test Net Mark)
  counter : Bool := false
  action : Action Mark
  deriving DecidableEq

inductive Hook
  | prerouting
  | output
  | forward
  | postrouting
  deriving DecidableEq, Repr

inductive ChainType
  | filter
  | route
  | nat
  deriving DecidableEq, Repr

structure Chain (Net Mark : Type) where
  name : String
  type : ChainType
  hook : Hook
  priority : String
  rules : List (Rule Net Mark)
  deriving DecidableEq

/-- An interval set with merging; `type` is the family of the addresses it holds. -/
structure SetDeclaration where
  name : String
  type : Family
  elements : List String := []
  deriving DecidableEq

structure Table (Net Mark : Type) where
  name : String
  sets : List SetDeclaration := []
  chains : List (Chain Net Mark)
  deriving DecidableEq

section Reading

variable {Net Mark Net' Mark' : Type} (net : Net → Net') (mark : Mark → Mark')

def Test.map : Test Net Mark → Test Net' Mark'
  | .ipSource network => .ipSource (net network)
  | .ipDestinationNot network => .ipDestinationNot (net network)
  | .ipDestinationIn set => .ipDestinationIn set
  | .ip6DestinationIn set => .ip6DestinationIn set
  | .ip6 => .ip6
  | .markIs value => .markIs (mark value)
  | .markIsNot value => .markIsNot (mark value)
  | .outputIs device => .outputIs device
  | .outputIsNot device => .outputIsNot device
  | .directionOriginal => .directionOriginal

def Action.map : Action Mark → Action Mark'
  | .setMark value => .setMark (mark value)
  | .accept => .accept
  | .drop => .drop
  | .masquerade => .masquerade

def Rule.map (rule : Rule Net Mark) : Rule Net' Mark' where
  tests := rule.tests.map (Test.map net mark)
  counter := rule.counter
  action := rule.action.map mark

def Chain.map (chain : Chain Net Mark) : Chain Net' Mark' :=
  { chain with rules := chain.rules.map (Rule.map net mark) }

def Table.map (table : Table Net Mark) : Table Net' Mark' :=
  { table with chains := table.chains.map (Chain.map net mark) }

end Reading

/-! What a loaded rule does. A network or mark that could not be read is `none`. -/

abbrev LiveRule := Rule (Option Network) (Option Int)
abbrev LiveChain := Chain (Option Network) (Option Int)
abbrev LiveTable := Table (Option Network) (Option Int)

abbrev SetContents := String → Nat → Bool

def inNetwork (network : Option Network) (packet : Packet) (value : Nat) : Bool :=
  match network with
  | some network =>
      packet.family == network.family &&
        value / 2 ^ (network.family.bits - network.prefixLength) ==
          network.base.value / 2 ^ (network.family.bits - network.prefixLength)
  | none => false

/-- A condition on IPv4 fields only holds of IPv4 packets, a bare `ip6` of every IPv6 packet. -/
def Test.holds (contents : SetContents) (packet : Packet) : Test (Option Network) (Option Int) → Bool
  | .ipSource network => packet.family == .v4 && inNetwork network packet packet.source
  | .ipDestinationNot network => packet.family == .v4 && !inNetwork network packet packet.destination
  | .ipDestinationIn set => packet.family == .v4 && contents set packet.destination
  | .ip6DestinationIn set => packet.family == .v6 && contents set packet.destination
  | .ip6 => packet.family == .v6
  | .markIs mark => mark == some packet.mark
  | .markIsNot mark => mark != some packet.mark
  | .outputIs device => packet.output == device
  | .outputIsNot device => packet.output != device
  | .directionOriginal => packet.original

def Rule.matches (contents : SetContents) (rule : LiveRule) (packet : Packet) : Bool :=
  rule.tests.all (Test.holds contents packet)

def Rule.effect (contents : SetContents) (rule : LiveRule) (packet : Packet) : Outcome Packet :=
  if rule.matches contents packet then
    match rule.action with
    | .setMark mark => .pass (packet.setMark (mark.getD packet.mark))
    | .accept => .accept packet
    | .drop => .drop
    | .masquerade => .accept packet
  else .pass packet

def runChain (contents : SetContents) (rules : List LiveRule) (packet : Packet) : Outcome Packet :=
  traverse (Rule.effect contents) rules packet

/-- The rules of a table's chain; a hook without a chain has none. -/
def Table.rulesOf {Net Mark : Type} (table : Table Net Mark) (name : String) :
    List (Rule Net Mark) :=
  ((table.chains.find? (·.name = name)).map (·.rules)).getD []

/-- With policy accept, a packet is lost only through a drop. -/
def Outcome.accepted {Packet : Type} : Outcome Packet → Bool
  | .drop => false
  | _ => true

def Outcome.packet {Packet : Type} (before : Packet) : Outcome Packet → Packet
  | .pass packet => packet
  | .accept packet => packet
  | .drop => before

/-! Rules that mark, and rules that police a mark. -/

def Test.readsMark {Net Mark : Type} : Test Net Mark → Bool
  | .markIs _ => true
  | .markIsNot _ => true
  | _ => false

def Rule.markBlind {Net Mark : Type} (rule : Rule Net Mark) : Bool :=
  rule.tests.all fun test => !test.readsMark

theorem Rule.matches_mark {rule : LiveRule} (blind : rule.markBlind = true)
    (contents : SetContents) (packet : Packet) (mark : Int) :
    rule.matches contents (packet.setMark mark) = rule.matches contents packet := by
  have same : ∀ test ∈ rule.tests,
      test.holds contents (packet.setMark mark) = test.holds contents packet := by
    intro test member
    have unread := List.all_eq_true.mp blind test member
    cases test with
    | markIs _ => simp [Test.readsMark] at unread
    | markIsNot _ => simp [Test.readsMark] at unread
    | _ => rfl
  unfold Rule.matches
  rw [Bool.eq_iff_iff]
  simp only [List.all_eq_true]
  exact forall₂_congr fun test member => by rw [same test member]

def Marks (mark : Int) (rules : List LiveRule) : Prop :=
  ∀ rule ∈ rules, rule.markBlind = true ∧ rule.action = .setMark (some mark)

def anyMatches (contents : SetContents) (rules : List LiveRule) (packet : Packet) : Bool :=
  rules.any fun rule => rule.matches contents packet

theorem anyMatches_mark {rules : List LiveRule} (blind : ∀ rule ∈ rules, rule.markBlind = true)
    (contents : SetContents) (packet : Packet) (mark : Int) :
    anyMatches contents rules (packet.setMark mark) = anyMatches contents rules packet := by
  unfold anyMatches
  induction rules with
  | nil => rfl
  | cons rule rest ih =>
      have head := Rule.matches_mark (blind rule (by simp)) contents packet mark
      have tail := ih fun other member => blind other (by simp [member])
      simp only [List.any_cons, head, tail]

theorem runChain_marks {mark : Int} {rules : List LiveRule} (marks : Marks mark rules)
    (contents : SetContents) (packet : Packet) :
    runChain contents rules packet =
      .pass (if anyMatches contents rules packet then packet.setMark mark else packet) := by
  induction rules generalizing packet with
  | nil => rfl
  | cons rule rest ih =>
      obtain ⟨blind, sets⟩ := marks rule (by simp)
      have restMarks : Marks mark rest := fun other member => marks other (by simp [member])
      have restBlind : ∀ other ∈ rest, other.markBlind = true :=
        fun other member => (restMarks other member).1
      by_cases matched : rule.matches contents packet = true
      · have step : rule.effect contents packet = .pass (packet.setMark mark) := by
          simp [Rule.effect, matched, sets]
        have applied : anyMatches contents (rule :: rest) packet = true := by
          simp [anyMatches, matched]
        rw [runChain, traverse_cons_pass step, if_pos applied, ← runChain, ih restMarks,
          anyMatches_mark restBlind]
        simp
      · have step : rule.effect contents packet = .pass packet := by
          simp [Rule.effect, matched]
        rw [runChain, traverse_cons_pass step, ← runChain, ih restMarks]
        simp [anyMatches, matched]

/-- Blocks of marking rules, one for each item: the last item whose block matches gives the
packet its mark. -/
theorem runChain_lastMarks {Item : Type} (contents : SetContents) (block : Item → List LiveRule)
    (mark : Item → Int) (items : List Item)
    (blind : ∀ item, ∀ rule ∈ block item, rule.markBlind = true)
    (marks : ∀ item ∈ items, Marks (mark item) (block item)) (packet : Packet) :
    runChain contents (items.flatMap block) packet =
      .pass (rewriteBy (fun item => Packet.setMark (mark item))
        (items.filter fun item => anyMatches contents (block item) packet).getLast? packet) :=
  traverse_lastApplies (Rule.effect contents) block
    (fun item packet => anyMatches contents (block item) packet)
    (fun item => Packet.setMark (mark item)) items
    (fun item member packet => runChain_marks (marks item member) contents packet)
    (fun _ other packet => anyMatches_mark (blind other) contents packet _)
    (fun _ _ _ => rfl) packet

def policing (mark : Int) (device : String) : LiveRule :=
  { tests := [.markIs (some mark), .outputIsNot device], counter := true, action := .drop }

def violates (packet : Packet) (mark : Int) (device : String) : Bool :=
  mark == packet.mark && packet.output != device

theorem effect_policing (contents : SetContents) (mark : Int) (device : String) (packet : Packet) :
    Rule.effect contents (policing mark device) packet =
      if violates packet mark device then .drop else .pass packet := by
  simp [Rule.effect, Rule.matches, Test.holds, policing, violates]

theorem runChain_policing {Item : Type} (contents : SetContents) (mark : Item → Int)
    (device : Item → String) (items : List Item) (packet : Packet) :
    (runChain contents (items.map fun item => policing (mark item) (device item)) packet).accepted =
        true ↔
      ∀ item ∈ items, mark item = packet.mark → packet.output = device item := by
  have traversal : runChain contents (items.map fun item => policing (mark item) (device item))
      packet = if items.any fun item => violates packet (mark item) (device item)
        then .drop else .pass packet := by
    induction items with
    | nil => rfl
    | cons item rest ih =>
        have first := effect_policing contents (mark item) (device item) packet
        by_cases violated : violates packet (mark item) (device item) = true
        · rw [if_pos violated] at first
          simp [runChain, traverse, first, violated]
        · rw [if_neg violated] at first
          rw [List.map_cons, runChain, traverse_cons_pass first, ← runChain, ih, List.any_cons,
            Bool.eq_false_iff.mpr violated, Bool.false_or]
  rw [traversal]
  by_cases broken : (items.any fun item => violates packet (mark item) (device item)) = true
  · rw [if_pos broken]
    obtain ⟨item, member, violated⟩ := List.any_eq_true.mp broken
    simp only [violates, Bool.and_eq_true, beq_iff_eq, bne_iff_ne] at violated
    simp only [Outcome.accepted, Bool.false_eq_true, false_iff]
    intro kept
    exact violated.2 (kept item member violated.1)
  · rw [if_neg broken]
    simp only [Outcome.accepted, true_iff]
    intro item member same
    by_contra other
    exact broken (List.any_eq_true.mpr ⟨item, member, by simp [violates, same, other]⟩)

end PacketFilter
