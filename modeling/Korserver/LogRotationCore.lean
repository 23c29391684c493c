import Korserver.PythonValue
import Korserver.TextParts
import Korserver.ConfigCore
import Mathlib.Algebra.Order.Ring.Rat
import Mathlib.Data.String.Basic

/-!
`services/logs.py`: the rotation of the files under `system.log_dir`. A name is the path of a file from
there on, and directories are left out.
-/

namespace Korserver

open PythonText PythonValue

/-- `system.log_rotation`, with the age in seconds. -/
structure LogRotationConfig where
  enabled : Bool := false
  maxSizeMb : Nat := 50
  maxAgeSeconds : Nat := 0
  keepFiles : Nat := 5
  keepFiles_ge : 1 ≤ keepFiles := by decide

def LogRotationConfig.maxSizeBytes (settings : LogRotationConfig) : Nat :=
  settings.maxSizeMb * 1024 * 1024

abbrev LogFiles := List (String × List UInt8)

abbrev RotationState := List (String × ℚ)

def removeFile (name : String) (files : LogFiles) : LogFiles :=
  files.filter fun file => file.1 ≠ name

/-- `_ROTATED_SUFFIX_RE.search(path.name)`. -/
def isRotatedName (name : String) : Bool :=
  let chars := beforeDollar (name.toList.rtakeWhile (· != '/'))
  let stem := dropEndWhile isDecimal chars
  decide (stem.length < chars.length) && stem.getLast? == some '.'

def copyName (name : String) (index : Nat) : String := name ++ "." ++ toString index

def moveCopy (name : String) (index : Nat) (files : LogFiles) : LogFiles :=
  match dictGet (copyName name index) files with
  | none => files
  | some content =>
      dictSet (copyName name (index + 1)) content (removeFile (copyName name index) files)

/-- The loop of `_rotate_file` from an index down. -/
def shiftCopies (name : String) : Nat → LogFiles → LogFiles
  | 0, files => files
  | index + 1, files => shiftCopies name index (moveCopy name (index + 1) files)

/-- `_rotate_file`: the writers keep the file open, so it is copied and then emptied. -/
def rotateFile (keep : Nat) (name : String) (files : LogFiles) : LogFiles :=
  let files := shiftCopies name (keep - 1) (removeFile (copyName name keep) files)
  dictSet name [] (dictSet (copyName name 1) ((dictGet name files).getD []) files)

structure LogRotation where
  files : LogFiles
  state : RotationState := []
  rotated : List String := []

def isDue (settings : LogRotationConfig) (force : Bool) (now since : ℚ) (size : Nat) : Bool :=
  if force then decide (0 < size)
  else (decide (0 < settings.maxSizeMb) && decide (settings.maxSizeBytes ≤ size)) ||
    (decide (0 < settings.maxAgeSeconds) && decide ((settings.maxAgeSeconds : ℚ) ≤ now - since))

/-- What the loop of `rotate` does with one of the paths it found. -/
def rotatePath (settings : LogRotationConfig) (force : Bool) (now : ℚ) (rotation : LogRotation)
    (name : String) : LogRotation :=
  match dictGet name rotation.files with
  | none => rotation
  | some content =>
      if isRotatedName name then rotation
      else
        let since := (dictGet name rotation.state).getD now
        let seen := dictSet name since rotation.state
        if isDue settings force now since content.length then
          { files := rotateFile settings.keepFiles name rotation.files
            state := dictSet name now seen
            rotated := rotation.rotated ++ [name] }
        else { rotation with state := seen }

/-- Paths are sorted by their parts. -/
def pathLe (first second : String) : Bool :=
  decide (splitChar '/' first.toList ≤ splitChar '/' second.toList)

/-- `LogRotationService.rotate`; the paths are those that are there when it begins. -/
def rotate (settings : LogRotationConfig) (force : Bool) (now : ℚ) (state : RotationState)
    (files : LogFiles) : LogRotation :=
  if !settings.enabled && !force then { files, state }
  else
    let paths := (files.map Prod.fst).mergeSort pathLe
    let rotation := paths.foldl (rotatePath settings force now) { files, state }
    { rotation with
      state := rotation.state.filter fun entry => (dictGet entry.1 rotation.files).isSome }

end Korserver
