import Korserver.Interleavings
import Korserver.UsersCore

/-!
Requests of `services/users.py` that change the ocpasswd file at the same time. The file is rewritten
by the ocpasswd program, and under `_PASSWD_REWRITE_LOCK` by the service itself.
-/

namespace Korserver

open PythonValue

/-- What a run of ocpasswd makes of the file, by its arguments behind `-c` and the file, and by what it
reads. -/
structure Ocpasswd where
  rewrite : List String → String → TextFile → TextFile

inductive UserOperation
  | createUser (username password : String)
  | changePassword (username password : String)
  | disableUser (username : String)
  | enableUser (username : String)
  | setUserGroups (username : String) (groups : List String)
  | deleteUser (username : String)

namespace UserOperation

def validate : UserOperation → Except PyError Unit
  | createUser username _ => (validateUsername username).map fun _ => ()
  | changePassword username _ => (validateUsername username).map fun _ => ()
  | disableUser username => (validateUsername username).map fun _ => ()
  | enableUser username => (validateUsername username).map fun _ => ()
  | setUserGroups username groups => do
      let _ ← validateUsername username
      let _ ← cleanGroups groups
      return ()
  | deleteUser username => (validateUsername username).map fun _ => ()

/-- The arguments and the input of ocpasswd, for the operations that run it. -/
def command : UserOperation → Option (List String × String)
  | createUser username password => some ([username], s!"{password}\n{password}\n")
  | changePassword username password => some ([username], s!"{password}\n{password}\n")
  | disableUser username => some (["-l", username], "")
  | enableUser username => some (["-u", username], "")
  | _ => none

def computed (operation : UserOperation) (file : TextFile) : Except PyError (Option String) :=
  match operation with
  | setUserGroups username groups => do
      let clean ← cleanGroups groups
      let lines ← passwdLines file
      return regroupedText username clean lines
  | deleteUser username => do
      let lines ← passwdLines file
      return remainingText username lines
  | _ => .ok none

def perform (ocpasswd : Ocpasswd) (file : TextFile) (operation : UserOperation) : TextFile :=
  match operation.command with
  | some (arguments, input) => ocpasswd.rewrite arguments input file
  | none =>
      match operation.computed file with
      | .ok (some text) => .text text
      | _ => file

end UserOperation

/-- How far a request has come: it holds the lock, or has read the file and computed what to write. -/
inductive PasswdStage
  | called
  | locked
  | computed (next : Option String)
  | returned
  | failed (error : PyError)

structure PasswdRace where
  file : TextFile
  lock : Option Nat := none
  requests : List (UserOperation × PasswdStage)

def passwdStart (file : TextFile) (operations : List UserOperation) : PasswdRace :=
  { file, requests := operations.map fun operation => (operation, .called) }

/-- The next step of a request. One that waits for the lock stays where it is. -/
def PasswdRace.advance (ocpasswd : Ocpasswd) (race : PasswdRace) (number : Nat)
    (operation : UserOperation) : PasswdStage → PasswdRace × PasswdStage
  | .called =>
      match operation.validate with
      | .error error => (race, .failed error)
      | .ok _ =>
          match operation.command with
          | some (arguments, input) =>
              ({ race with file := ocpasswd.rewrite arguments input race.file }, .returned)
          | none =>
              if race.lock = none then ({ race with lock := some number }, .locked)
              else (race, .called)
  | .locked =>
      match operation.computed race.file with
      | .error error => ({ race with lock := none }, .failed error)
      | .ok next => (race, .computed next)
  | .computed next =>
      ({ race with file := next.elim race.file .text, lock := none }, .returned)
  | stage => (race, stage)

def PasswdRace.step (ocpasswd : Ocpasswd) (race : PasswdRace) (number : Nat) : PasswdRace :=
  match race.requests[number]? with
  | none => race
  | some (operation, stage) =>
      let (next, after) := race.advance ocpasswd number operation stage
      { next with requests := next.requests.set number (operation, after) }

end Korserver
