import Korserver.AdminAccessCore
import Mathlib.Algebra.Order.Ring.Nat

/-!
The web terminal (`api/routes_terminal.py`): tickets, the sessions they open, and the steps of the
endpoint and of the websocket handler.
-/

namespace Korserver

open PythonValue

structure TerminalTicket where
  cwd : String
  rows : Int
  cols : Int
  expiresAt : ℚ
  actor : String
  sourceIp : Option String
  deriving DecidableEq

structure TerminalRegistry where
  tickets : List (String × TerminalTicket) := []
  activeSessions : Nat := 0
  maxSessions : Nat
  distinct : (tickets.map Prod.fst).Nodup := by simp
  withinLimit : activeSessions + tickets.length ≤ maxSessions := by simp

namespace TerminalRegistry

/-- `_prune`, at a reading of the monotonic clock. -/
def prune (registry : TerminalRegistry) (now : ℚ) : TerminalRegistry :=
  { registry with
    tickets := registry.tickets.filter fun entry => decide (now < entry.2.expiresAt)
    distinct := registry.distinct.sublist (List.filter_sublist.map _)
    withinLimit := (Nat.add_le_add_left (List.length_filter_le _ _) _).trans registry.withinLimit }

/-- `checked` is the reading of `_prune`; `now` and the token are drawn for the ticket. -/
def issue (registry : TerminalRegistry) (cwd : String) (rows cols : Int) (actor : String)
    (sourceIp : Option String) (checked now : ℚ) (token : String) (ttl : ℚ := 60) :
    Except String TerminalTicket × TerminalRegistry :=
  let pruned := registry.prune checked
  if full : pruned.maxSessions ≤ pruned.activeSessions + pruned.tickets.length then
    (.error "terminal session limit reached", pruned)
  else
    let ticket : TerminalTicket := { cwd, rows, cols, expiresAt := now + ttl, actor, sourceIp }
    (.ok ticket,
      { pruned with
        tickets := dictSet token ticket pruned.tickets
        distinct := distinct_dictSet pruned.distinct
        withinLimit := by
          have longer := length_dictSet_le token ticket pruned.tickets
          omega })

theorem pop_length {token : String} {ticket : TerminalTicket}
    {tickets : List (String × TerminalTicket)} (found : dictGet token tickets = some ticket) :
    (tickets.filter fun entry => decide (entry.1 ≠ token)).length + 1 ≤ tickets.length := by
  refine List.length_filter_lt_length_iff_exists.mpr ⟨(token, ticket), mem_of_dictGet found, ?_⟩
  simp

def consume (registry : TerminalRegistry) (token : String) (now : ℚ) :
    Option TerminalTicket × TerminalRegistry :=
  let pruned := registry.prune now
  match found : dictGet token pruned.tickets with
  | none => (none, pruned)
  | some ticket =>
      (some ticket,
        { pruned with
          tickets := pruned.tickets.filter fun entry => decide (entry.1 ≠ token)
          activeSessions := pruned.activeSessions + 1
          distinct := pruned.distinct.sublist (List.filter_sublist.map _)
          withinLimit := by
            have shorter := pop_length found
            have before := pruned.withinLimit
            omega })

def release (registry : TerminalRegistry) : TerminalRegistry :=
  { registry with
    activeSessions := registry.activeSessions - 1
    withinLimit := by
      have before := registry.withinLimit
      omega }

end TerminalRegistry

/-- A call of `create_terminal_session`, its directory as `Path` writes it, or a connection of the
websocket. -/
inductive TerminalRequest
  | create (cwd : String) (rows cols : Int) (actor : String) (sourceIp : Option String)
  | connect (token : String)

/-- How far a request has come. `unregistered` has looked for a registry in vain, `registered` has
the one with that number; a handler past `consume` accepts the websocket, writes that the session
was opened, and runs the terminal; it is aborted by an exception that leaves it. -/
inductive TerminalStage
  | called
  | unregistered
  | registered (registry : Nat)
  | accepting (registry : Nat) (ticket : TerminalTicket)
  | accepted (registry : Nat) (ticket : TerminalTicket)
  | running (registry : Nat) (ticket : TerminalTicket)
  | issued (token : String)
  | closed (code : Nat)
  | finished
  | aborted
  | failed (error : RequestError)

/-- Whose turn it is and what it finds: the configuration in use, the clock as `_prune` and as the
ticket read it, the token drawn, whether a path is a directory, and whether the step that awaits
the websocket or writes the audit trail succeeds. -/
structure TerminalTurn where
  request : Nat
  terminalEnabled : Bool := true
  terminalMaxSessions : Nat := 2
  checked : ℚ
  now : ℚ
  token : String := ""
  isDirectory : Bool := true
  succeeds : Bool := true

/-- The registries that requests hold, of which `app.state` names the last one that was put there;
what was issued, with its expiry; and what was consumed, with the time. -/
structure TerminalRace where
  registries : List TerminalRegistry := []
  published : Option Nat := none
  requests : List (TerminalRequest × TerminalStage)
  issued : List (String × ℚ) := []
  consumed : List (String × ℚ) := []

def terminalStart (requests : List TerminalRequest) : TerminalRace :=
  { requests := requests.map fun request => (request, .called) }

def validateCwd (turn : TerminalTurn) (cwd : String) : Except RequestError String :=
  if cwd.toList.head? ≠ some '/' then .error (.http 400 "cwd must be an absolute path")
  else if !turn.isDirectory then .error (.http 400 "cwd does not exist or is not a directory")
  else .ok cwd

def TerminalRequest.admitted (turn : TerminalTurn) : TerminalRequest → Except TerminalStage Unit
  | .create cwd .. =>
      if !turn.terminalEnabled then .error (.failed (.http 403 "web terminal is disabled"))
      else match validateCwd turn cwd with
        | .ok _ => .ok ()
        | .error error => .error (.failed error)
  | .connect _ => if !turn.terminalEnabled then .error (.closed 1008) else .ok ()

/-- The call on a registry, and what of it is remembered. -/
def TerminalRace.call (race : TerminalRace) (turn : TerminalTurn) (index : Nat)
    (registry : TerminalRegistry) : TerminalRequest → TerminalRace × TerminalStage
  | .create cwd rows cols actor sourceIp =>
      match registry.issue cwd rows cols actor sourceIp turn.checked turn.now turn.token with
      | (.error detail, registry) =>
          ({ race with registries := race.registries.set index registry }, .failed (.http 429 detail))
      | (.ok ticket, registry) =>
          ({ race with
              registries := race.registries.set index registry
              issued := (turn.token, ticket.expiresAt) :: race.issued }, .issued turn.token)
  | .connect token =>
      match registry.consume token turn.checked with
      | (none, registry) =>
          ({ race with registries := race.registries.set index registry }, .closed 1008)
      | (some ticket, registry) =>
          ({ race with
              registries := race.registries.set index registry
              consumed := (token, turn.checked) :: race.consumed }, .accepting index ticket)

/-- The next step of one request. The `finally` of the handler awaits nothing: the slot is released,
and the audit record fails or not. -/
def TerminalRace.advance (race : TerminalRace) (turn : TerminalTurn) (request : TerminalRequest) :
    TerminalStage → TerminalRace × TerminalStage
  | .called =>
      match request.admitted turn with
      | .error stage => (race, stage)
      | .ok _ => (race, race.published.elim .unregistered .registered)
  | .unregistered =>
      ({ race with
          registries := race.registries ++ [{ maxSessions := turn.terminalMaxSessions }]
          published := some race.registries.length }, .registered race.registries.length)
  | .registered index =>
      match race.registries[index]? with
      | none => (race, .registered index)
      | some registry => race.call turn index registry request
  | .accepting index ticket =>
      if turn.succeeds then (race, .accepted index ticket) else (race, .aborted)
  | .accepted index ticket =>
      if turn.succeeds then (race, .running index ticket) else (race, .aborted)
  | .running index _ =>
      ({ race with registries := race.registries.modify index TerminalRegistry.release },
        if turn.succeeds then .finished else .aborted)
  | stage => (race, stage)

def TerminalRace.step (race : TerminalRace) (turn : TerminalTurn) : TerminalRace :=
  match race.requests[turn.request]? with
  | none => race
  | some (request, stage) =>
      let (next, after) := race.advance turn request stage
      { next with requests := next.requests.set turn.request (request, after) }

end Korserver
