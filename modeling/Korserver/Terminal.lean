import Korserver.Interleavings
import Korserver.Runs
import Korserver.TerminalCore

/-!
Every slot of the web terminal is accounted for: it is free, promised by a ticket, or held by a
handler.
-/

namespace Korserver

open Interleavings PythonValue Runs

def TerminalStage.registry : TerminalStage → Option Nat
  | .registered index => some index
  | .accepting index _ => some index
  | .accepted index _ => some index
  | .running index _ => some index
  | _ => none

/-- A handler past `consume` that has not come to its end. -/
def TerminalStage.holdsSlot : TerminalStage → Bool
  | .accepting .. => true
  | .accepted .. => true
  | .running .. => true
  | _ => false

def TerminalStage.slots (stage : TerminalStage) : Nat := if stage.holdsSlot then 1 else 0

namespace TerminalRace

def active (race : TerminalRace) : Nat :=
  (race.registries.map TerminalRegistry.activeSessions).sum

def unexpired (race : TerminalRace) (now : ℚ) : Nat :=
  (race.registries.map fun registry =>
    registry.tickets.countP fun entry => decide (now < entry.2.expiresAt)).sum

def handlers (race : TerminalRace) : Nat :=
  race.requests.countP fun entry => entry.2.holdsSlot

end TerminalRace

structure SlotsAccounted (race : TerminalRace) : Prop where
  withinLimit : ∀ registry ∈ race.registries, ∀ now,
    race.active + race.unexpired now ≤ registry.maxSessions
  consumedOnce : (race.consumed.map Prod.fst).Nodup
  consumedInTime : ∀ token time, (token, time) ∈ race.consumed →
    ∃ expiresAt, (token, expiresAt) ∈ race.issued ∧ time < expiresAt
  counted : race.active = race.handlers

/-- The registry is created by one request only, and a handler that has consumed its ticket is
accepted and writes that its session was opened. -/
def TerminalRace.orderly (race : TerminalRace) (turn : TerminalTurn) : Bool :=
  match race.requests[turn.request]? with
  | some (_, .unregistered) => race.published.isNone
  | some (_, .accepting ..) => turn.succeeds
  | some (_, .accepted ..) => turn.succeeds
  | _ => true

def OrderlySession (race : TerminalRace) (turn : TerminalTurn) : Prop := race.orderly turn = true

def DrawsFresh (race : TerminalRace) (turn : TerminalTurn) : Prop :=
  turn.token ∉ race.issued.map Prod.fst

instance (race : TerminalRace) (turn : TerminalTurn) : Decidable (DrawsFresh race turn) :=
  inferInstanceAs (Decidable (turn.token ∉ race.issued.map Prod.fst))

instance (race : TerminalRace) (turn : TerminalTurn) : Decidable (OrderlySession race turn) :=
  inferInstanceAs (Decidable (race.orderly turn = true))

namespace TerminalRegistry

variable {registry : TerminalRegistry}

theorem prune_mem {now : ℚ} {entry : String × TerminalTicket}
    (member : entry ∈ (registry.prune now).tickets) :
    entry ∈ registry.tickets ∧ now < entry.2.expiresAt := by
  simpa [prune] using member

theorem issue_error {cwd : String} {rows cols : Int} {actor : String} {sourceIp : Option String}
    {checked now : ℚ} {token detail : String} {next : TerminalRegistry}
    (refused : registry.issue cwd rows cols actor sourceIp checked now token = (.error detail, next)) :
    next = registry.prune checked := by
  simp only [issue] at refused
  split at refused
  · exact (Prod.mk.inj refused).2.symm
  · cases refused

theorem issue_ok {cwd : String} {rows cols : Int} {actor : String} {sourceIp : Option String}
    {checked now : ℚ} {token : String} {ticket : TerminalTicket} {next : TerminalRegistry}
    (issued : registry.issue cwd rows cols actor sourceIp checked now token = (.ok ticket, next)) :
    next.activeSessions = registry.activeSessions ∧
      next.tickets = dictSet token ticket (registry.prune checked).tickets := by
  simp only [issue] at issued
  split at issued
  · cases issued
  · obtain ⟨sameTicket, rfl⟩ := Prod.mk.inj issued
    obtain rfl := Except.ok.inj sameTicket
    exact ⟨rfl, rfl⟩

theorem consume_none {token : String} {now : ℚ} {next : TerminalRegistry}
    (refused : registry.consume token now = (none, next)) : next = registry.prune now := by
  simp only [consume] at refused
  split at refused
  · exact (Prod.mk.inj refused).2.symm
  · cases refused

theorem consume_some {token : String} {now : ℚ} {ticket : TerminalTicket} {next : TerminalRegistry}
    (taken : registry.consume token now = (some ticket, next)) :
    (token, ticket) ∈ (registry.prune now).tickets ∧
      next.activeSessions = registry.activeSessions + 1 ∧
      next.tickets = (registry.prune now).tickets.filter fun entry => decide (entry.1 ≠ token) := by
  simp only [consume] at taken
  split at taken
  · cases taken
  · rename_i found
    obtain ⟨sameTicket, rfl⟩ := Prod.mk.inj taken
    obtain rfl := Option.some.inj sameTicket
    exact ⟨mem_of_dictGet found, rfl, rfl⟩

end TerminalRegistry

/-- What a step of a request does: it moves on, creates the registry, finds no place or no ticket,
issues a ticket, consumes one, or gives its slot back. -/
inductive TerminalEffect (race : TerminalRace) :
    TerminalStage → TerminalRace → TerminalStage → Prop
  | moved {stage after : TerminalStage} (sameSlot : after.holdsSlot = stage.holdsSlot)
      (known : ∀ index, after.registry = some index →
        stage.registry = some index ∨ race.published = some index) :
      TerminalEffect race stage race after
  | created (maxSessions : Nat) (first : race.published = none) :
      TerminalEffect race .unregistered
        { race with
          registries := race.registries ++ [{ maxSessions }]
          published := some race.registries.length } (.registered race.registries.length)
  | refused {index : Nat} {registry : TerminalRegistry} {after : TerminalStage} (now : ℚ)
      (found : race.registries[index]? = some registry) (gone : after.registry = none)
      (noSlot : after.holdsSlot = false) :
      TerminalEffect race (.registered index)
        { race with registries := race.registries.set index (registry.prune now) } after
  | issued {index : Nat} {registry next : TerminalRegistry} {token : String}
      {ticket : TerminalTicket} (found : race.registries[index]? = some registry)
      (sameActive : next.activeSessions = registry.activeSessions)
      (added : ∀ entry ∈ next.tickets, entry = (token, ticket) ∨ entry ∈ registry.tickets)
      (fresh : token ∉ race.issued.map Prod.fst) :
      TerminalEffect race (.registered index)
        { race with
          registries := race.registries.set index next
          issued := (token, ticket.expiresAt) :: race.issued } (.issued token)
  | consumed {index : Nat} {registry next : TerminalRegistry} {token : String}
      {ticket : TerminalTicket} {now : ℚ} (found : race.registries[index]? = some registry)
      (held : (token, ticket) ∈ registry.tickets) (inTime : now < ticket.expiresAt)
      (oneMore : next.activeSessions = registry.activeSessions + 1)
      (removed : ∀ entry ∈ next.tickets, entry ∈ registry.tickets ∧ entry.1 ≠ token) :
      TerminalEffect race (.registered index)
        { race with
          registries := race.registries.set index next
          consumed := (token, now) :: race.consumed } (.accepting index ticket)
  | released {index : Nat} {ticket : TerminalTicket} {after : TerminalStage}
      (gone : after.registry = none) (noSlot : after.holdsSlot = false) :
      TerminalEffect race (.running index ticket)
        { race with registries := race.registries.modify index TerminalRegistry.release } after

section

variable {race : TerminalRace} {turn : TerminalTurn} {request : TerminalRequest}
  {stage : TerminalStage}

theorem call_effect {index : Nat} {registry : TerminalRegistry}
    (found : race.registries[index]? = some registry) (fresh : DrawsFresh race turn) :
    TerminalEffect race (.registered index) (race.call turn index registry request).1
      (race.call turn index registry request).2 := by
  cases request with
  | create cwd rows cols actor sourceIp =>
      simp only [TerminalRace.call]
      split
      · rename_i issue
        rw [TerminalRegistry.issue_error issue]
        exact .refused turn.checked found rfl rfl
      · rename_i issue
        obtain ⟨sameActive, tickets⟩ := TerminalRegistry.issue_ok issue
        refine .issued found sameActive ?_ fresh
        intro entry member
        rw [tickets] at member
        exact (mem_dictSet member).imp_right fun old => (TerminalRegistry.prune_mem old).1
  | connect token =>
      simp only [TerminalRace.call]
      split
      · rename_i consume
        rw [TerminalRegistry.consume_none consume]
        exact .refused turn.checked found rfl rfl
      · rename_i consume
        obtain ⟨member, oneMore, tickets⟩ := TerminalRegistry.consume_some consume
        obtain ⟨held, inTime⟩ := TerminalRegistry.prune_mem member
        refine .consumed found held inTime oneMore ?_
        intro entry inNext
        rw [tickets, List.mem_filter, decide_eq_true_eq] at inNext
        exact ⟨(TerminalRegistry.prune_mem inNext.1).1, inNext.2⟩

theorem admitted_error {after : TerminalStage} (refused : request.admitted turn = .error after) :
    after.registry = none ∧ after.holdsSlot = false := by
  cases request with
  | create cwd rows cols actor sourceIp =>
      simp only [TerminalRequest.admitted] at refused
      split at refused
      · obtain rfl := Except.error.inj refused
        exact ⟨rfl, rfl⟩
      · split at refused
        · cases refused
        · obtain rfl := Except.error.inj refused
          exact ⟨rfl, rfl⟩
  | connect token =>
      simp only [TerminalRequest.admitted] at refused
      split at refused
      · obtain rfl := Except.error.inj refused
        exact ⟨rfl, rfl⟩
      · cases refused

theorem advance_effect (found : race.requests[turn.request]? = some (request, stage))
    (orderly : OrderlySession race turn) (fresh : DrawsFresh race turn) :
    TerminalEffect race stage (race.advance turn request stage).1
      (race.advance turn request stage).2 := by
  simp only [OrderlySession, TerminalRace.orderly, found] at orderly
  cases stage with
  | called =>
      simp only [TerminalRace.advance]
      split
      · rename_i refused
        obtain ⟨gone, noSlot⟩ := admitted_error refused
        exact .moved noSlot fun index some => by simp [gone] at some
      · cases published : race.published with
        | none => exact .moved rfl nofun
        | some index => exact .moved rfl fun other same => Or.inr (published.trans same)
  | unregistered => exact .created turn.terminalMaxSessions (Option.isNone_iff_eq_none.mp orderly)
  | registered index =>
      simp only [TerminalRace.advance]
      split
      · exact .moved rfl fun other same => Or.inl same
      · rename_i registry inPlace
        exact call_effect inPlace fresh
  | accepting index ticket =>
      simp only [TerminalRace.advance, if_pos orderly]
      exact .moved rfl fun other same => Or.inl same
  | accepted index ticket =>
      simp only [TerminalRace.advance, if_pos orderly]
      exact .moved rfl fun other same => Or.inl same
  | running index ticket =>
      simp only [TerminalRace.advance]
      split <;> exact .released rfl rfl
  | issued token => exact .moved rfl nofun
  | closed code => exact .moved rfl nofun
  | finished => exact .moved rfl nofun
  | aborted => exact .moved rfl nofun
  | failed error => exact .moved rfl nofun

end

structure TerminalAccounts (race : TerminalRace) : Prop where
  single : race.registries.length ≤ 1
  published : race.published = none → race.registries = []
  publishedInPlace : ∀ index, race.published = some index → index < race.registries.length
  registered : ∀ entry ∈ race.requests, ∀ index, entry.2.registry = some index →
    index < race.registries.length
  counted : race.active = race.handlers
  ticketsIssued : ∀ registry ∈ race.registries, ∀ entry ∈ registry.tickets,
    (entry.1, entry.2.expiresAt) ∈ race.issued
  ticketsFresh : ∀ registry ∈ race.registries, ∀ entry ∈ registry.tickets,
    entry.1 ∉ race.consumed.map Prod.fst
  consumedOnce : (race.consumed.map Prod.fst).Nodup
  consumedInTime : ∀ token time, (token, time) ∈ race.consumed →
    ∃ expiresAt, (token, expiresAt) ∈ race.issued ∧ time < expiresAt

namespace TerminalAccounts

variable {race : TerminalRace} {turn : TerminalTurn}

theorem alone (accounts : TerminalAccounts race) {index : Nat} {registry : TerminalRegistry}
    (found : race.registries[index]? = some registry) : race.registries = [registry] ∧ index = 0 := by
  obtain ⟨bound, rfl⟩ := List.getElem?_eq_some_iff.mp found
  have single := accounts.single
  obtain rfl : index = 0 := by omega
  obtain ⟨only, same⟩ := List.length_eq_one_iff.mp (by omega : race.registries.length = 1)
  exact ⟨by simp [same], rfl⟩

theorem slotsAccounted (accounts : TerminalAccounts race) : SlotsAccounted race := by
  refine ⟨?_, accounts.consumedOnce, accounts.consumedInTime, accounts.counted⟩
  intro registry member now
  obtain ⟨index, found⟩ := List.mem_iff_getElem?.mp member
  obtain ⟨only, -⟩ := accounts.alone found
  have fewer : registry.tickets.countP (fun entry => decide (now < entry.2.expiresAt)) ≤
      registry.tickets.length := List.countP_le_length
  have limit := registry.withinLimit
  simp only [TerminalRace.active, TerminalRace.unexpired, only, List.map_cons, List.map_nil,
    List.sum_cons, List.sum_nil]
  omega

theorem handlers_set {request : TerminalRequest} {stage : TerminalStage}
    (found : race.requests[turn.request]? = some (request, stage)) {after : TerminalStage}
    {next : TerminalRace} (moved : next.requests = race.requests.set turn.request (request, after)) :
    next.handlers = race.handlers - stage.slots + after.slots := by
  rw [TerminalRace.handlers, moved]
  exact countP_set_of_getElem? found (fun entry => entry.2.holdsSlot) (request, after)

theorem slots_le_handlers {request : TerminalRequest} {stage : TerminalStage}
    (found : race.requests[turn.request]? = some (request, stage)) : stage.slots ≤ race.handlers := by
  rw [TerminalStage.slots]
  split
  · rename_i holds
    exact countP_pos_of_getElem? found holds
  · exact Nat.zero_le _

theorem registered_set (accounts : TerminalAccounts race) {bound : Nat}
    (grown : race.registries.length ≤ bound) (request : TerminalRequest) {after : TerminalStage}
    (known : ∀ index, after.registry = some index → index < bound) :
    ∀ entry ∈ race.requests.set turn.request (request, after), ∀ index,
      entry.2.registry = some index → index < bound := by
  intro entry member index found
  rcases List.mem_or_eq_of_mem_set member with old | rfl
  · exact (accounts.registered entry old index found).trans_le grown
  · exact known index found

theorem replaced (accounts : TerminalAccounts race) {request : TerminalRequest} {stage after : TerminalStage}
    {registry next : TerminalRegistry} (found : race.requests[turn.request]? = some (request, stage))
    (only : race.registries = [registry]) (kept : ∀ entry ∈ next.tickets, entry ∈ registry.tickets)
    (gone : after.registry = none)
    (counted : next.activeSessions = registry.activeSessions - stage.slots + after.slots) :
    TerminalAccounts { race with
      registries := [next]
      requests := race.requests.set turn.request (request, after) } where
  single := by simp
  published none := by simpa [only] using accounts.published none
  publishedInPlace index same := by simpa [only] using accounts.publishedInPlace index same
  registered := accounts.registered_set (by simp [only]) request (by simp [gone])
  counted := by
    have before := accounts.counted
    simp only [TerminalRace.active, only, List.map_cons, List.map_nil, List.sum_cons, List.sum_nil] at before
    rw [handlers_set found rfl, ← before, TerminalRace.active]
    simp [counted]
  ticketsIssued other member entry held := by
    obtain rfl := List.mem_singleton.mp member
    exact accounts.ticketsIssued registry (by simp [only]) entry (kept entry held)
  ticketsFresh other member entry held := by
    obtain rfl := List.mem_singleton.mp member
    exact accounts.ticketsFresh registry (by simp [only]) entry (kept entry held)
  consumedOnce := accounts.consumedOnce
  consumedInTime := accounts.consumedInTime

theorem effect (accounts : TerminalAccounts race) {request : TerminalRequest}
    {stage after : TerminalStage} {next : TerminalRace}
    (found : race.requests[turn.request]? = some (request, stage))
    (effect : TerminalEffect race stage next after) :
    TerminalAccounts { next with requests := next.requests.set turn.request (request, after) } := by
  cases effect with
  | moved sameSlot known =>
      refine { accounts with registered := ?_, counted := ?_ }
      · refine accounts.registered_set le_rfl request fun index same => ?_
        rcases known index same with old | published
        · exact accounts.registered _ (List.mem_of_getElem? found) index old
        · exact accounts.publishedInPlace index published
      · have slots := slots_le_handlers found
        have same : after.slots = stage.slots := by rw [TerminalStage.slots, sameSlot, TerminalStage.slots]
        rw [handlers_set found rfl, same, Nat.sub_add_cancel slots]
        exact accounts.counted
  | created maxSessions first =>
      have none := accounts.published first
      have idle : race.handlers = 0 := by
        rw [← accounts.counted, TerminalRace.active, none]
        rfl
      constructor
      · simp [none]
      · nofun
      · simp
      · exact accounts.registered_set (by simp) request (by simp [TerminalStage.registry])
      · rw [handlers_set found rfl, idle, TerminalRace.active]
        simp [none, TerminalStage.slots, TerminalStage.holdsSlot]
      · simp [none]
      · simp [none]
      · exact accounts.consumedOnce
      · exact accounts.consumedInTime
  | refused now inPlace gone noSlot =>
      obtain ⟨only, rfl⟩ := accounts.alone inPlace
      simp only [only, List.set_cons_zero]
      refine accounts.replaced found only ?_ gone ?_
      · exact fun entry member => (TerminalRegistry.prune_mem member).1
      · rw [TerminalStage.slots, TerminalStage.slots, noSlot]
        rfl
  | @issued index registry next token ticket inPlace sameActive added fresh =>
      obtain ⟨only, rfl⟩ := accounts.alone inPlace
      have before := accounts.counted
      have issuedBefore := accounts.ticketsIssued registry (by simp [only])
      have freshBefore := accounts.ticketsFresh registry (by simp [only])
      simp only [TerminalRace.active, only, List.map_cons, List.map_nil, List.sum_cons, List.sum_nil] at before
      simp only [only, List.set_cons_zero]
      constructor
      · simp
      · intro none
        simpa [only] using accounts.published none
      · intro other same
        simpa [only] using accounts.publishedInPlace other same
      · exact accounts.registered_set (by simp [only]) request (by simp [TerminalStage.registry])
      · rw [handlers_set found rfl, ← before, TerminalRace.active]
        simp [sameActive, TerminalStage.slots, TerminalStage.holdsSlot]
      · intro other member entry held
        obtain rfl := List.mem_singleton.mp member
        rcases added entry held with rfl | old
        · exact List.mem_cons_self
        · exact List.mem_cons_of_mem _ (issuedBefore entry old)
      · intro other member entry held consumed
        obtain rfl := List.mem_singleton.mp member
        rcases added entry held with rfl | old
        · obtain ⟨⟨earlier, time⟩, inLog, rfl⟩ := List.mem_map.mp consumed
          obtain ⟨expiresAt, issued, -⟩ := accounts.consumedInTime earlier time inLog
          exact fresh (List.mem_map.mpr ⟨_, issued, rfl⟩)
        · exact freshBefore entry old consumed
      · exact accounts.consumedOnce
      · intro earlier time inLog
        obtain ⟨expiresAt, issued, inTime⟩ := accounts.consumedInTime earlier time inLog
        exact ⟨expiresAt, List.mem_cons_of_mem _ issued, inTime⟩
  | @consumed index registry next token ticket now inPlace held inTime oneMore removed =>
      obtain ⟨only, rfl⟩ := accounts.alone inPlace
      have before := accounts.counted
      have issuedBefore := accounts.ticketsIssued registry (by simp [only])
      have freshBefore := accounts.ticketsFresh registry (by simp [only])
      simp only [TerminalRace.active, only, List.map_cons, List.map_nil, List.sum_cons, List.sum_nil] at before
      simp only [only, List.set_cons_zero]
      constructor
      · simp
      · intro none
        simpa [only] using accounts.published none
      · intro other same
        simpa [only] using accounts.publishedInPlace other same
      · exact accounts.registered_set (by simp [only]) request (by simp [TerminalStage.registry])
      · rw [handlers_set found rfl, ← before, TerminalRace.active]
        simp [oneMore, TerminalStage.slots, TerminalStage.holdsSlot]
      · intro other member entry remains
        obtain rfl := List.mem_singleton.mp member
        exact issuedBefore entry (removed entry remains).1
      · intro other member entry remains consumed
        obtain rfl := List.mem_singleton.mp member
        rcases List.mem_cons.mp consumed with same | earlier
        · exact (removed entry remains).2 same
        · exact freshBefore entry (removed entry remains).1 earlier
      · exact List.nodup_cons.mpr ⟨freshBefore _ held, accounts.consumedOnce⟩
      · intro earlier time inLog
        rcases List.mem_cons.mp inLog with same | old
        · obtain ⟨rfl, rfl⟩ := Prod.mk.inj same
          exact ⟨ticket.expiresAt, issuedBefore _ held, inTime⟩
        · exact accounts.consumedInTime earlier time old
  | @released index ticket after gone noSlot =>
      have bound : index < race.registries.length :=
        accounts.registered _ (List.mem_of_getElem? found) index rfl
      obtain ⟨only, rfl⟩ := accounts.alone (List.getElem?_eq_getElem bound)
      generalize race.registries[0] = registry at only
      simp only [only]
      refine accounts.replaced found only (fun entry held => held) gone ?_
      rw [TerminalStage.slots, TerminalStage.slots, noSlot]
      rfl

theorem step (accounts : TerminalAccounts race) (orderly : OrderlySession race turn)
    (fresh : DrawsFresh race turn) : TerminalAccounts (race.step turn) := by
  cases found : race.requests[turn.request]? with
  | none => simpa only [TerminalRace.step, found] using accounts
  | some entry =>
      obtain ⟨request, stage⟩ := entry
      simp only [TerminalRace.step, found]
      exact accounts.effect found (advance_effect found orderly fresh)

theorem initial (requests : List TerminalRequest) : TerminalAccounts (terminalStart requests) := by
  have idle : (terminalStart requests).handlers = 0 := by
    simp [TerminalRace.handlers, terminalStart, List.countP_eq_zero, TerminalStage.holdsSlot]
  constructor
  · simp [terminalStart]
  · simp [terminalStart]
  · nofun
  · intro entry member index found
    obtain ⟨request, -, rfl⟩ := List.mem_map.mp member
    cases found
  · rw [idle]
    rfl
  · nofun
  · nofun
  · simp [terminalStart]
  · nofun

end TerminalAccounts

/-- In a run of orderly steps of any number of requests, whatever the order, every slot is accounted
for. -/
theorem terminalSlots (requests : List TerminalRequest) (turns : List TerminalTurn)
    (fresh : Throughout TerminalRace.step DrawsFresh (terminalStart requests) turns)
    (orderly : Throughout TerminalRace.step OrderlySession (terminalStart requests) turns) :
    SlotsAccounted (run TerminalRace.step (terminalStart requests) turns) :=
  (run_throughout (fun _ _ accounts each => TerminalAccounts.step accounts each.1 each.2)
    (TerminalAccounts.initial requests) (orderly.and fresh)).slotsAccounted

def terminalOpening : TerminalRequest := .create "/root" 30 100 "admin" (some "192.0.2.1")

def terminalOpened : List TerminalTurn :=
  [{ request := 0, checked := 0, now := 0 }, { request := 0, checked := 0, now := 0 },
    { request := 0, checked := 0, now := 0, token := "Zq3" }, { request := 1, checked := 5, now := 5 },
    { request := 1, checked := 5, now := 5 }]

def terminalLost : List TerminalTurn :=
  terminalOpened ++ [{ request := 1, checked := 6, now := 6, succeeds := false }]

theorem lostWebsocket_leaksSlot :
    ¬∀ (requests : List TerminalRequest) (turns : List TerminalTurn),
      Throughout TerminalRace.step DrawsFresh (terminalStart requests) turns →
        SlotsAccounted (run TerminalRace.step (terminalStart requests) turns) := by
  intro accounted
  have counted := (accounted [terminalOpening, .connect "Zq3"] terminalLost (by decide +kernel)).counted
  revert counted
  decide +kernel

def terminalClosed : List TerminalTurn :=
  terminalOpened ++ [{ request := 1, checked := 6, now := 6 }, { request := 1, checked := 6, now := 6 },
    { request := 1, checked := 9, now := 9, succeeds := false }]

theorem terminalSlots_sample :
    SlotsAccounted (run TerminalRace.step (terminalStart [terminalOpening, .connect "Zq3"])
      terminalClosed) := by
  refine terminalSlots _ terminalClosed ?_ ?_ <;> decide +kernel

end Korserver
