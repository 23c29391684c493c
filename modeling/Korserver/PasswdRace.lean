import Korserver.PasswdRaceCore
import Korserver.Runs
import Mathlib.Data.List.Permutation

/-!
Which requests to change users are lost when they run at the same time.
-/

namespace Korserver

open Interleavings PythonText PythonValue Runs

def PasswdRace.returned (race : PasswdRace) : List UserOperation :=
  race.requests.filterMap fun entry =>
    match entry.2 with
    | .returned => some entry.1
    | _ => none

def PasswdStage.isOver : PasswdStage → Bool
  | .returned => true
  | .failed _ => true
  | _ => false

def PasswdRace.finished (race : PasswdRace) : Bool := race.requests.all fun entry => entry.2.isOver

def PasswdStage.writes : PasswdStage → Bool
  | .computed next => next.isSome
  | _ => false

def PasswdRace.disturbed (ocpasswd : Ocpasswd) (race : PasswdRace) (number : Nat) : Bool :=
  match race.requests[number]? with
  | some (operation, .called) =>
      match operation.validate, operation.command with
      | .ok _, some (arguments, input) =>
          race.requests.any (fun entry => entry.2.writes) &&
            decide (ocpasswd.rewrite arguments input race.file ≠ race.file)
      | _, _ => false
  | _ => false

def UndisturbedPasswd (ocpasswd : Ocpasswd) (race : PasswdRace) (number : Nat) : Prop :=
  race.disturbed ocpasswd number = false

instance (ocpasswd : Ocpasswd) (race : PasswdRace) (number : Nat) :
    Decidable (UndisturbedPasswd ocpasswd race number) :=
  inferInstanceAs (Decidable (race.disturbed ocpasswd number = false))

/-- The operations that have taken effect: one that finds nothing to change has when it has read. -/
def effective (entry : UserOperation × PasswdStage) : Option UserOperation :=
  match entry.2 with
  | .returned => some entry.1
  | .computed none => some entry.1
  | _ => none

def PasswdStage.holdsLock : PasswdStage → Bool
  | .locked => true
  | .computed _ => true
  | _ => false

/-- The file is what the operations so far make of it one after the other, and what a request is
going to write is still what it would compute. -/
structure Reflected (ocpasswd : Ocpasswd) (initial : TextFile) (race : PasswdRace) : Prop where
  sequential : Sequential (UserOperation.perform ocpasswd) initial race.file
    (race.requests.filterMap effective)
  holder : ∀ (number : Nat) (operation : UserOperation) (stage : PasswdStage),
    race.requests[number]? = some (operation, stage) → stage.holdsLock = true →
      race.lock = some number ∧ operation.command = none
  current : ∀ (operation : UserOperation) (text : String),
    (operation, PasswdStage.computed (some text)) ∈ race.requests →
      operation.computed race.file = .ok (some text)

theorem perform_computed (ocpasswd : Ocpasswd) {file : TextFile} {operation : UserOperation}
    {next : Option String} (edits : operation.command = none)
    (computed : operation.computed file = .ok next) :
    operation.perform ocpasswd file = next.elim file .text := by
  simp only [UserOperation.perform, edits, computed]
  cases next <;> rfl

theorem perform_command {ocpasswd : Ocpasswd} {file : TextFile} {operation : UserOperation}
    {arguments : List String} {input : String} (runs : operation.command = some (arguments, input)) :
    operation.perform ocpasswd file = ocpasswd.rewrite arguments input file := by
  simp only [UserOperation.perform, runs]

namespace Reflected

variable {ocpasswd : Ocpasswd} {initial : TextFile} {race : PasswdRace} {number : Nat}
  {operation : UserOperation} {stage after : PasswdStage}

theorem alone (reflected : Reflected ocpasswd initial race) (free : race.lock = none ∨ race.lock = some number)
    {other : Nat} (different : other ≠ number) {operation : UserOperation} {stage : PasswdStage}
    (found : race.requests[other]? = some (operation, stage)) : stage.holdsLock = false := by
  cases holds : stage.holdsLock with
  | false => rfl
  | true =>
      have lock := (reflected.holder other operation stage found holds).1
      rcases free with free | free
      · rw [lock] at free
        cases free
      · rw [lock] at free
        exact absurd (Option.some.inj free) different

theorem set_cases {entries : List (UserOperation × PasswdStage)} {other : Nat}
    {entry new : UserOperation × PasswdStage} (found : (entries.set number new)[other]? = some entry) :
    (other = number ∧ entry = new) ∨ (other ≠ number ∧ entries[other]? = some entry) := by
  by_cases same : other = number
  · subst same
    rw [List.getElem?_set_self'] at found
    cases inside : entries[other]? with
    | none => simp [inside] at found
    | some old =>
        simp only [inside, Option.map_eq_map, Option.map_some, Option.some.injEq] at found
        exact Or.inl ⟨rfl, found.symm⟩
  · rw [List.getElem?_set_ne (Ne.symm same)] at found
    exact Or.inr ⟨same, found⟩

theorem transition (reflected : Reflected ocpasswd initial race) {file : TextFile} {lock : Option Nat}
    (sequential : Sequential (UserOperation.perform ocpasswd) initial file
      ((race.requests.set number (operation, after)).filterMap effective))
    (holds : after.holdsLock = true → lock = some number ∧ operation.command = none)
    (lockOthers : lock = race.lock ∨ race.lock = none ∨ race.lock = some number)
    (fileOthers : ∀ (other : Nat) (operation : UserOperation) (text : String), other ≠ number →
      race.requests[other]? = some (operation, .computed (some text)) → file = race.file)
    (computed : ∀ text, after = .computed (some text) → operation.computed file = .ok (some text)) :
    Reflected ocpasswd initial
      { race with file, lock, requests := race.requests.set number (operation, after) } := by
  refine ⟨sequential, ?_, ?_⟩
  · intro other operation' stage' inPlace holdsLock
    rcases set_cases inPlace with ⟨rfl, same⟩ | ⟨different, old⟩
    · obtain ⟨rfl, rfl⟩ := Prod.mk.inj same
      exact holds holdsLock
    · rcases lockOthers with same | free
      · exact same ▸ reflected.holder other operation' stage' old holdsLock
      · rw [reflected.alone free different old] at holdsLock
        cases holdsLock
  · intro operation' text member
    obtain ⟨other, inPlace⟩ := List.mem_iff_getElem?.mp member
    rcases set_cases inPlace with ⟨rfl, same⟩ | ⟨different, old⟩
    · obtain ⟨rfl, stage⟩ := Prod.mk.inj same
      exact computed text stage.symm
    · rw [fileOthers other operation' text different old]
      exact reflected.current operation' text (List.mem_of_getElem? old)

theorem effective_set (found : race.requests[number]? = some (operation, stage)) (after : PasswdStage)
    (same : effective (operation, after) = effective (operation, stage)) :
    (race.requests.set number (operation, after)).filterMap effective =
      race.requests.filterMap effective :=
  filterMap_set_same found same

theorem effective_more (found : race.requests[number]? = some (operation, stage)) (after : PasswdStage)
    (before : effective (operation, stage) = none) (done : effective (operation, after) = some operation) :
    ((race.requests.set number (operation, after)).filterMap effective).Perm
      (operation :: race.requests.filterMap effective) :=
  filterMap_set_perm found before done

theorem called (reflected : Reflected ocpasswd initial race)
    (found : race.requests[number]? = some (operation, .called))
    (undisturbed : UndisturbedPasswd ocpasswd race number) :
    Reflected ocpasswd initial (race.step ocpasswd number) := by
  simp only [PasswdRace.step, found, PasswdRace.advance]
  cases valid : operation.validate with
  | error error =>
      refine reflected.transition ?_ nofun (Or.inl rfl) (fun _ _ _ _ _ => rfl) nofun
      rw [effective_set found (.failed error) rfl]
      exact reflected.sequential
  | ok checked =>
      cases command : operation.command with
      | some words =>
          obtain ⟨arguments, input⟩ := words
          refine reflected.transition ?_ nofun (Or.inl rfl) ?_ nofun
          · have more := reflected.sequential.next operation
              (effective_more found .returned rfl rfl)
            rwa [perform_command command] at more
          · intro other operation' text _ inPlace
            have pending : race.requests.any (fun entry => entry.2.writes) = true :=
              List.any_eq_true.mpr ⟨_, List.mem_of_getElem? inPlace, rfl⟩
            simpa [UndisturbedPasswd, PasswdRace.disturbed, found, valid, command, pending] using undisturbed
      | none =>
          by_cases free : race.lock = none
          · simp only [if_pos free]
            refine reflected.transition ?_ (fun _ => ⟨rfl, command⟩) (Or.inr (Or.inl free))
              (fun _ _ _ _ _ => rfl) nofun
            rw [effective_set found .locked rfl]
            exact reflected.sequential
          · simp only [if_neg free]
            refine reflected.transition ?_ nofun (Or.inl rfl) (fun _ _ _ _ _ => rfl) nofun
            rw [effective_set found .called rfl]
            exact reflected.sequential

theorem locked (reflected : Reflected ocpasswd initial race)
    (found : race.requests[number]? = some (operation, .locked)) :
    Reflected ocpasswd initial (race.step ocpasswd number) := by
  obtain ⟨lock, edits⟩ := reflected.holder number operation .locked found rfl
  simp only [PasswdRace.step, found, PasswdRace.advance]
  cases computed : operation.computed race.file with
  | error error =>
      refine reflected.transition ?_ nofun (Or.inr (Or.inr lock)) (fun _ _ _ _ _ => rfl) nofun
      dsimp only
      rw [effective_set found (.failed error) rfl]
      exact reflected.sequential
  | ok next =>
      refine reflected.transition ?_ (fun _ => ⟨lock, edits⟩) (Or.inl rfl) (fun _ _ _ _ _ => rfl) ?_
      · cases next with
        | none =>
            -- Nothing is going to be written: the operation is over as far as the file is concerned.
            have kept := perform_computed ocpasswd edits computed
            have more := reflected.sequential.next operation (effective_more found (.computed none) rfl rfl)
            rwa [kept] at more
        | some text =>
            dsimp only
            rw [effective_set found (.computed (some text)) rfl]
            exact reflected.sequential
      · rintro text same
        obtain rfl := PasswdStage.computed.inj same
        exact computed

theorem computed (reflected : Reflected ocpasswd initial race) {next : Option String}
    (found : race.requests[number]? = some (operation, .computed next)) :
    Reflected ocpasswd initial (race.step ocpasswd number) := by
  obtain ⟨lock, edits⟩ := reflected.holder number operation (.computed next) found rfl
  simp only [PasswdRace.step, found, PasswdRace.advance]
  refine reflected.transition ?_ nofun (Or.inr (Or.inr lock)) ?_ nofun
  · cases next with
    | none =>
        rw [effective_set found .returned rfl]
        exact reflected.sequential
    | some text =>
        have computed := reflected.current operation text (List.mem_of_getElem? found)
        have more := reflected.sequential.next operation (effective_more found .returned rfl rfl)
        rwa [perform_computed ocpasswd edits computed] at more
  · intro other operation' text different inPlace
    have idle := reflected.alone (Or.inr lock) different inPlace
    cases idle

theorem step (reflected : Reflected ocpasswd initial race)
    (undisturbed : UndisturbedPasswd ocpasswd race number) :
    Reflected ocpasswd initial (race.step ocpasswd number) := by
  cases found : race.requests[number]? with
  | none => simpa only [PasswdRace.step, found] using reflected
  | some entry =>
      obtain ⟨operation, stage⟩ := entry
      have inPlace : race.requests.set number (operation, stage) = race.requests := by
        obtain ⟨bound, same⟩ := List.getElem?_eq_some_iff.mp found
        rw [← same, List.set_getElem_self bound]
      cases stage with
      | called => exact reflected.called found undisturbed
      | locked => exact reflected.locked found
      | computed next => exact reflected.computed found
      | returned => simpa only [PasswdRace.step, found, PasswdRace.advance, inPlace] using reflected
      | failed error => simpa only [PasswdRace.step, found, PasswdRace.advance, inPlace] using reflected

theorem start (ocpasswd : Ocpasswd) (initial : TextFile) (operations : List UserOperation) :
    Reflected ocpasswd initial (passwdStart initial operations) := by
  have called : ∀ entry ∈ (passwdStart initial operations).requests, entry.2 = .called := by
    intro entry member
    obtain ⟨operation, -, rfl⟩ := List.mem_map.mp member
    rfl
  refine ⟨?_, ?_, ?_⟩
  · have none : (passwdStart initial operations).requests.filterMap effective = [] := by
      refine List.filterMap_eq_nil_iff.mpr fun entry member => ?_
      rw [effective, called entry member]
    rw [none]
    exact Sequential.nil
  · intro number operation stage found holds
    obtain rfl := called _ (List.mem_of_getElem? found)
    cases holds
  · intro operation text member
    cases called _ member

end Reflected

theorem effective_finished {race : PasswdRace} (finished : race.finished = true) :
    race.requests.filterMap effective = race.returned := by
  refine List.filterMap_congr fun entry member => ?_
  have ended := List.all_eq_true.mp finished entry member
  obtain ⟨operation, stage⟩ := entry
  cases stage with
  | computed next => cases ended
  | _ => rfl

/-- Requests that are not disturbed take effect one after the other, whatever their interleaving. -/
theorem passwdUpdates_kept (ocpasswd : Ocpasswd) (file : TextFile) (operations : List UserOperation)
    (turns : List Nat)
    (undisturbed : Throughout (PasswdRace.step ocpasswd) (UndisturbedPasswd ocpasswd)
      (passwdStart file operations) turns)
    (finished : (run (PasswdRace.step ocpasswd) (passwdStart file operations) turns).finished = true) :
    Sequential (UserOperation.perform ocpasswd) file
      (run (PasswdRace.step ocpasswd) (passwdStart file operations) turns).file
      (run (PasswdRace.step ocpasswd) (passwdStart file operations) turns).returned := by
  rw [← effective_finished finished]
  exact (run_throughout (fun _ _ reflected each => Reflected.step reflected each)
    (Reflected.start ocpasswd file operations) undisturbed).sequential

def withPassword (change : String → String) (line : String) : String :=
  let fields := splitText ':' line
  join ":" (fields.dropLast ++ [change (fields.getLastD "")])

def plainOcpasswd : Ocpasswd where
  rewrite arguments input file :=
    match passwdLines file with
    | .error _ => file
    | .ok lines =>
        let change (username : String) (change : String → String) :=
          lines.map fun line =>
            if (splitText ':' line).headD "" = username then withPassword change line else line
        match arguments with
        | ["-l", username] => .text (fileText (change username fun hash => "!" ++ unlocked hash))
        | ["-u", username] => .text (fileText (change username unlocked))
        | [username] =>
            let hash := "$5$" ++ (splitLines input).headD ""
            if lines.any fun line => (splitText ':' line).headD "" = username then
              .text (fileText (change username fun _ => hash))
            else .text (fileText (lines ++ [join ":" [username, "*", hash]]))
        | _ => file

def alice : TextFile := .text "alice:*:$5$one\n"

def groupsAndCreation : List UserOperation := [.setUserGroups "alice" ["staff"], .createUser "bob" "two"]

theorem createdBetween :
    (run (PasswdRace.step plainOcpasswd) (passwdStart alice groupsAndCreation) [0, 0, 1, 0]).file =
      .text "alice:staff:$5$one\n" := by
  decide +kernel

theorem createdUser_lost :
    ¬∀ (ocpasswd : Ocpasswd) (file : TextFile) (operations : List UserOperation) (turns : List Nat),
      (run (PasswdRace.step ocpasswd) (passwdStart file operations) turns).finished = true →
        Sequential (UserOperation.perform ocpasswd) file
          (run (PasswdRace.step ocpasswd) (passwdStart file operations) turns).file
          (run (PasswdRace.step ocpasswd) (passwdStart file operations) turns).returned := by
  intro kept
  obtain ⟨order, same, reached⟩ := kept plainOcpasswd alice groupsAndCreation [0, 0, 1, 0] (by decide +kernel)
  rw [createdBetween] at reached
  have all : order.Perm groupsAndCreation := same
  rcases List.perm_pair.mp all with rfl | rfl
  all_goals revert reached; decide +kernel

theorem passwdUpdates_kept_sample :
    Sequential (UserOperation.perform plainOcpasswd) alice
      (run (PasswdRace.step plainOcpasswd) (passwdStart alice groupsAndCreation) [0, 0, 0, 1]).file
      (run (PasswdRace.step plainOcpasswd) (passwdStart alice groupsAndCreation) [0, 0, 0, 1]).returned := by
  refine passwdUpdates_kept plainOcpasswd alice groupsAndCreation [0, 0, 0, 1] ?_ ?_
  · decide +kernel
  · decide +kernel

end Korserver
