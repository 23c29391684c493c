import Korserver.Doubles
import Korserver.UpstreamServiceCore

/-!
`cli.py`: the loop of `upstream_watch`. A tick re-reads the configuration, looks at the active
connection, recovers it when it has failed often enough, and enforces what is enabled.
-/

namespace Korserver

open PythonText PythonValue Effects Doubles

structure WatchState where
  consecutiveFailures : Nat := 0
  settledUntil : ℚ := 0
  everConnected : Bool := false
  deriving DecidableEq

/-- What a tick finds. `meanwhile` is what happened since the last one, `answers` whether the check
host answers, and the times are the two readings of the clock. -/
structure Tick where
  config : AppConfig
  meanwhile : Runtime → Runtime := id
  answers : Bool := true
  checkedAt : ℚ := 0
  recoveredAt : ℚ := 0
  healing : Surroundings
  recovering : Environment
  enforcing : Environment
  refreshing : Surroundings

def isHealthy (config : AppConfig) (answers : Bool) (state : Runtime) : Except PyError Bool := do
  match ← runtimeProfile config state.marker with
  | some profile =>
      return state.connected profile.name && ((truthy profile.checkHost).isNone || answers)
  | none => return false

inductive Branch
  | disabled
  | unselected
  | healthy
  | waiting
  | settling
  | counting
  | recovering
  deriving DecidableEq, Repr

section

variable (tick : Tick) (watch : WatchState)

def unhealthyBranch : Branch :=
  if !tick.config.upstream.connectOnBoot && !watch.everConnected then .waiting
  else if tick.checkedAt < watch.settledUntil then .settling
  else if tick.config.upstream.checkThreshold ≤ watch.consecutiveFailures + 1 then .recovering
  else .counting

def tickBranch (state : Runtime) : Except PyError Branch :=
  if tick.config.upstream.enabled then do
    match ← runtimeProfile tick.config state.marker with
    | some _ => do
        let healthy ← isHealthy tick.config tick.answers state
        return if healthy then .healthy else unhealthyBranch tick watch
    | none => return .unselected
  else .ok .disabled

/-- `time.monotonic() + config.upstream.check_settle_seconds`. -/
def Tick.settleDeadline : Except PyError ℚ :=
  if integerLimit ≤ tick.config.upstream.checkSettleSeconds then .error .overflowError
  else .ok (plus tick.recoveredAt tick.config.upstream.checkSettleSeconds)

def WatchState.afterRecovery (recovered : Bool) : Except PyError WatchState :=
  if recovered then do
    let settledUntil ← tick.settleDeadline
    return { consecutiveFailures := 0, settledUntil, everConnected := true }
  else .ok { watch with consecutiveFailures := 0 }

def Branch.run : Branch → Service WatchState
  | .healthy => do
      ensurePolicyRouting tick.config tick.healing
      pure { watch with consecutiveFailures := 0, everConnected := true }
  | .settling => pure watch
  | .counting => pure { watch with consecutiveFailures := watch.consecutiveFailures + 1 }
  | .recovering => do
      let recovered ← recover tick.config tick.recovering
      Program.fromExcept fun _ => watch.afterRecovery tick recovered
  | .disabled | .unselected | .waiting => pure { watch with consecutiveFailures := 0 }

/-- `refresh_server_routes`, of which every exception is caught. A sync shows in the fingerprint of
its surroundings. -/
def refreshServerRoutes : Service Unit := do
  let _ ← (applyServerRouting tick.config tick.refreshing).succeeds fun _ => true

def watchTick : Service WatchState := do
  let branch ← Program.fromExcept (tickBranch tick watch)
  let next ← branch.run tick watch
  Program.when tick.config.upstream.enabled do
    enforceProfileEnablement tick.config tick.enforcing
    refreshServerRoutes tick
  pure next

end

/-- A tick as it went. An exception that nobody catches ends the process. -/
structure TickRecord where
  tick : Tick
  watch : WatchState
  before : Runtime
  outcome : Outcome Runtime ApplyEvent PyError WatchState

def TickRecord.branch (record : TickRecord) : Except PyError Branch :=
  tickBranch record.tick record.watch record.before

def recordTick (watch : WatchState) (state : Runtime) (tick : Tick) : TickRecord where
  tick := tick
  watch := watch
  before := tick.meanwhile state
  outcome := watchTick tick watch (tick.meanwhile state)

def watchTrace : WatchState → Runtime → List Tick → List TickRecord
  | _, _, [] => []
  | watch, state, tick :: rest =>
      let record := recordTick watch state tick
      record :: match record.outcome.result with
        | .ok next => watchTrace next record.outcome.state rest
        | .error _ => []

end Korserver
