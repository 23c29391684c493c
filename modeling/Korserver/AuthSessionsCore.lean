import Korserver.Doubles
import Mathlib.Logic.Function.Basic

/-!
`api/auth.py`: `AuthSessionRegistry`. Each call holds the lock of the registry throughout, and the
times are what it reads of the monotonic clock. A lifetime is a day at most, so it can be added to them.
-/

namespace Korserver

structure AdminSession where
  username : String
  csrfToken : String
  expiresAt : ℚ
  createdAt : ℚ
  deriving DecidableEq

def absoluteSessionLifetimeMultiplier : Int := 4

/-- A source without failures and one with an empty list are not told apart. -/
structure AuthSessionRegistry where
  lifetimeSeconds : Int := 3600
  sessions : String → Option AdminSession := fun _ => none
  failures : String → List ℚ := fun _ => []

namespace AuthSessionRegistry

def absoluteLifetimeSeconds (registry : AuthSessionRegistry) : Int :=
  registry.lifetimeSeconds * absoluteSessionLifetimeMultiplier

def isExpired (registry : AuthSessionRegistry) (now : ℚ) (session : AdminSession) : Bool :=
  decide (session.expiresAt ≤ now) ||
    decide ((registry.absoluteLifetimeSeconds : ℚ) < Doubles.minus now session.createdAt)

def prune (registry : AuthSessionRegistry) (now : ℚ) : AuthSessionRegistry :=
  { registry with
    sessions := fun token => (registry.sessions token).filter fun session =>
      !registry.isExpired now session }

/-- `checked` is the reading of `_prune`, and the tokens are those that were drawn. -/
def create (registry : AuthSessionRegistry) (username token csrfToken : String) (checked now : ℚ) :
    AdminSession × AuthSessionRegistry :=
  let pruned := registry.prune checked
  let session : AdminSession :=
    { username, csrfToken, expiresAt := Doubles.plus now registry.lifetimeSeconds, createdAt := now }
  (session, { pruned with sessions := Function.update pruned.sessions token (some session) })

def get (registry : AuthSessionRegistry) (token : String) (checked renewed : ℚ) :
    Option AdminSession × AuthSessionRegistry :=
  let pruned := registry.prune checked
  match pruned.sessions token with
  | none => (none, pruned)
  | some found =>
      let session := { found with expiresAt := Doubles.plus renewed registry.lifetimeSeconds }
      (some session, { pruned with sessions := Function.update pruned.sessions token (some session) })

def revoke (registry : AuthSessionRegistry) (token : String) : AuthSessionRegistry :=
  { registry with sessions := Function.update registry.sessions token none }

def attempts (registry : AuthSessionRegistry) (source : String) (now : ℚ) (windowSeconds : ℚ := 300) :
    List ℚ :=
  (registry.failures source).filter fun item => decide (now - windowSeconds ≤ item)

def loginAllowed (registry : AuthSessionRegistry) (source : String) (now : ℚ) (limit : Nat := 5)
    (windowSeconds : ℚ := 300) : Bool × AuthSessionRegistry :=
  let attempts := registry.attempts source now windowSeconds
  (decide (attempts.length < limit),
    { registry with failures := Function.update registry.failures source attempts })

def recordFailure (registry : AuthSessionRegistry) (source : String) (now : ℚ) :
    AuthSessionRegistry :=
  { registry with
    failures := Function.update registry.failures source (registry.failures source ++ [now]) }

def clearFailures (registry : AuthSessionRegistry) (source : String) : AuthSessionRegistry :=
  { registry with failures := Function.update registry.failures source [] }

end AuthSessionRegistry

end Korserver
