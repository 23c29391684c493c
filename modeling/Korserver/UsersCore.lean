import Korserver.FileStore

/-!
`services/users.py`: names, groups and the lines of the ocpasswd file.
-/

namespace Korserver

open PythonText PythonValue

def usernameChar (c : Char) : Bool :=
  c.isAlphanum || c == '_' || c == '.' || c == '@' || c == '-'

/-- `USERNAME_RE`. -/
def matchesUsername (text : String) : Bool :=
  let body := beforeDollar text.toList
  body.all usernameChar && decide (1 ≤ body.length ∧ body.length ≤ 64) &&
    decide (body ≠ ".".toList ∧ body ≠ "..".toList)

def validateUsername (username : String) : Except PyError String :=
  if matchesUsername username then .ok username
  else .error (.valueError s!"username '{username}' may contain letters, numbers, _, ., @ and - only")

def validateGroupName (group : String) : Except PyError String :=
  if matchesUsername group then .ok group
  else .error (.valueError s!"group '{group}' may contain letters, numbers, _, ., @ and - only")

structure PasswdRecord where
  username : String
  fields : List String
  disabled : Bool
  groups : List String
  deriving DecidableEq

def isLocked (field : String) : Bool := field.toList.head? == some '!'

/-- `field.lstrip("!")`. -/
def unlocked (field : String) : String := String.ofList (field.toList.dropWhile (· == '!'))

def splitText (separator : Char) (text : String) : List String :=
  (splitChar separator text.toList).map String.ofList

def looksLikePasswordHash (value : String) : Bool :=
  let stripped := (unlocked value).toList
  if stripped = [] then false
  else stripped.head? == some '$' || decide (32 < stripped.length)

/-- The items are cut at commas and semicolons; a single character is no group. -/
def parseGroupsField (value : String) : List String :=
  ((splitText ',' (unlocked value)).flatMap (splitText ';')).filterMap fun item =>
    let stripped := strip item
    if 1 < stripped.length then some stripped else none

/-- Where the groups of a record are, by the fields behind the name. -/
def groupField : List String → String
  | first :: second :: _ =>
      let secondFieldIsLegacyLock := isLocked second && !looksLikePasswordHash second
      if !secondFieldIsLegacyLock && !looksLikePasswordHash first then first else ""
  | _ => ""

def parsePasswdRecord (line : String) : PasswdRecord :=
  let fields := splitText ':' line
  let name := fields.headD ""
  let tail := fields.tail
  { username := unlocked name
    fields
    disabled := isLocked name || tail.any isLocked
    groups := parseGroupsField (groupField tail) }

def renderPasswdRecord (record : PasswdRecord) (groups : List String) : String :=
  let groupValue := join "," groups
  match record.fields with
  | [name, last] => if groupValue ≠ "" then join ":" [name, groupValue, last] else join ":" [name, last]
  | name :: _ :: rest =>
      if groupValue = "" then join ":" (name :: rest) else join ":" (name :: groupValue :: rest)
  | fields => join ":" fields

/-- `UserRecord` without what it says of certificate files. -/
structure UserRecord where
  username : String
  disabled : Bool
  groups : List String
  deriving DecidableEq

/-- `read_lines` on the ocpasswd file. -/
def passwdLines : TextFile → Except PyError (List String)
  | .missing => .ok []
  | .unreadable => .error .osError
  | .text content => .ok (splitLines content)

def isUserLine (line : String) : Bool :=
  line ≠ "" && line.toList.head? ≠ some '#' && line.toList.contains ':'

def listUsers (file : TextFile) : Except PyError (List UserRecord) := do
  let lines ← passwdLines file
  return (lines.filter isUserLine).map fun line =>
    let record := parsePasswdRecord line
    { username := record.username, disabled := record.disabled, groups := record.groups }

/-- The groups that `set_user_groups` is given, stripped and checked. -/
def cleanGroups : List String → Except PyError (List String)
  | [] => .ok []
  | group :: rest => do
      let stripped := strip group
      if stripped = "" then cleanGroups rest
      else
        let clean ← validateGroupName stripped
        let others ← cleanGroups rest
        return clean :: others

def fileText (lines : List String) : String :=
  join "\n" lines ++ if lines.isEmpty then "" else "\n"

/-- The file that `set_user_groups` writes, if it changes a line. -/
def regroupedText (username : String) (groups : List String) (lines : List String) : Option String :=
  if lines.any fun line => (parsePasswdRecord line).username = username then
    some (fileText (lines.map fun line =>
      let record := parsePasswdRecord line
      if record.username = username then renderPasswdRecord record groups else line))
  else none

def setUserGroups (username : String) (groups : List String) (file : TextFile) : Except PyError TextFile := do
  let _ ← validateUsername username
  let clean ← cleanGroups groups
  let lines ← passwdLines file
  return (regroupedText username clean lines).elim file .text

def readUserGroups (username : String) (file : TextFile) : Except PyError (List String) := do
  let _ ← validateUsername username
  let records ← listUsers file
  return ((records.find? (·.username = username)).map (·.groups)).getD []

def isLineOf (username line : String) : Bool :=
  (username ++ ":").toList.isPrefixOf line.toList || ("!" ++ username ++ ":").toList.isPrefixOf line.toList

/-- The file that `delete_user` writes, if it removes a line. -/
def remainingText (username : String) (lines : List String) : Option String :=
  let kept := lines.filter fun line => !isLineOf username line
  if kept.length ≠ lines.length then some (fileText kept) else none

def deleteUser (username : String) (file : TextFile) : Except PyError (Bool × TextFile) := do
  let _ ← validateUsername username
  let lines ← passwdLines file
  return match remainingText username lines with
    | some text => (true, .text text)
    | none => (false, file)

end Korserver
