import Korserver.GroupEdit
import Korserver.GroupPolicy
import Korserver.Marker
import Korserver.PosixPaths

/-!
What the validators of names accept, and the paths that are built from such names.
-/

namespace Korserver

open PythonText PythonValue PosixPaths

/-- `GroupConfigService.validate_group_name`. -/
def validateGroupConfigName (name : String) : Except PyError String :=
  if matchesUsername name then .ok name
  else .error (.valueError s!"group '{name}' may contain letters, numbers, _, ., @ and - only")

structure NameDirectories where
  dataDir : PosixPath
  generatedDir : PosixPath
  secretsDir : PosixPath
  configPerUserDir : Option PosixPath := none
  configPerGroupDir : Option PosixPath := none

def userConfigDir (directories : NameDirectories) : PosixPath :=
  directories.configPerUserDir.getD (directories.generatedDir.join "config-per-user")

def groupConfigDir (directories : NameDirectories) : PosixPath :=
  directories.configPerGroupDir.getD (directories.generatedDir.join "config-per-group")

def userCertDir (directories : NameDirectories) : PosixPath := (directories.dataDir.join "certs").join "users"

inductive NameValidator
  | username
  | userGroup
  | groupConfig
  | upstreamProfile
  | groupPolicy
  | interface
  deriving DecidableEq

def NameValidator.Accepts : NameValidator → String → Prop
  | .username, name => validateUsername name = .ok name
  | .userGroup, name => validateGroupName name = .ok name
  | .groupConfig, name => validateGroupConfigName name = .ok name
  | .upstreamProfile, name => UpstreamProfileConfig.validateName name = .ok ()
  | .groupPolicy, name => GroupPolicyConfig.validateName name = .ok ()
  | .interface, name => validateInterfaceName name = .ok ()

def NameValidator.documented : NameValidator → Char → Bool
  | .upstreamProfile | .interface => isNameChar
  | .groupPolicy => isGroupNameChar
  | .username | .userGroup | .groupConfig => usernameChar

/-- The directories that a name is joined to, each with the text that is joined. -/
def NameValidator.derived (directories : NameDirectories) (name : String) :
    NameValidator → List (PosixPath × String)
  | .username =>
      (userConfigDir directories, name) ::
        [".p12", ".crt", ".key"].map fun suffix => (userCertDir directories, name ++ suffix)
  | .userGroup | .groupConfig | .groupPolicy => [(groupConfigDir directories, name)]
  | .upstreamProfile =>
      [(directories.secretsDir.join "upstream", name),
        (directories.generatedDir.join "upstream-pushed", profileSafeName name ++ ".json")]
  | .interface => []

/-- Only documented characters, and only paths right below their directory. -/
structure SafeName (validator : NameValidator) (name : String) : Prop where
  chars : ∀ c ∈ name.toList, validator.documented c = true
  paths : ∀ directories workingDir, ∀ path ∈ validator.derived directories name,
    DirectChild workingDir path.1 (path.1.join path.2)

section

variable {validator : NameValidator} {name : String}

theorem documented_plain {c : Char} (plain : validator.documented c = true) :
    c ≠ '\n' ∧ c ≠ '/' ∧ c ≠ ':' ∧ isSpace c = false := by
  cases validator
  all_goals
    refine ⟨?_, ?_, ?_, ?_⟩
    iterate 3 (rintro rfl; revert plain; decide +kernel)
  · exact (usernameChar_visible plain).1
  · exact (usernameChar_visible plain).1
  · exact (usernameChar_visible plain).1
  · exact (nameChar_visible plain).1
  · simp only [NameValidator.documented, isGroupNameChar, Bool.or_eq_true, beq_iff_eq] at plain
    rcases plain with (((alnum | rfl) | rfl) | rfl) | rfl
    · exact (nameChar_visible (isNameChar_of_alnum alnum)).1
    all_goals decide
  · exact (nameChar_visible plain).1

def NameValidator.pattern : NameValidator → String → Bool
  | .username | .userGroup | .groupConfig => matchesUsername
  | .upstreamProfile => matchesIdentifier isAlnum isNameChar 63
  | .groupPolicy => matchesIdentifier isGroupNameChar isGroupNameChar 63
  | .interface => matchesIdentifier isNameChar isNameChar 14

theorem accepts_iff : validator.Accepts name ↔ validator.pattern name = true := by
  have username_ok (message : String) :
      (if matchesUsername name then Except.ok name else .error (PyError.valueError message)) = .ok name ↔
        matchesUsername name = true := by
    split
    · rename_i matched
      exact ⟨fun _ => matched, fun _ => rfl⟩
    · rename_i refused
      exact ⟨fun accepted => (nomatch accepted), fun matched => absurd matched refused⟩
  cases validator with
  | username | userGroup | groupConfig => exact username_ok _
  | upstreamProfile | groupPolicy | interface => exact check_ok

theorem accepts_body (accepted : validator.Accepts name) :
    beforeDollar name.toList ≠ [] ∧ ∀ c ∈ beforeDollar name.toList, validator.documented c = true := by
  rw [accepts_iff] at accepted
  cases validator with
  | username | userGroup | groupConfig => exact matchesUsername_chars accepted
  | upstreamProfile => exact name_chars accepted
  | groupPolicy | interface => exact matchesIdentifier_body (fun _ plain => plain) accepted

theorem dots_refused (others : validator ≠ .groupPolicy ∧ validator ≠ .interface) :
    ¬validator.Accepts "." ∧ ¬validator.Accepts ".." := by
  rw [accepts_iff, accepts_iff]
  cases validator with
  | groupPolicy => exact absurd rfl others.1
  | interface => exact absurd rfl others.2
  | username | userGroup | groupConfig | upstreamProfile => decide +kernel

theorem suffix_directChild {name suffix : String} (single : '/' ∉ name.toList) (plain : '/' ∉ suffix.toList)
    (long : 2 < suffix.toList.length) (directory : PosixPath) (workingDir : List (List Char)) :
    DirectChild workingDir directory (directory.join (name ++ suffix)) := by
  have longer : 2 < (name ++ suffix).toList.length := by
    rw [String.toList_append, List.length_append]
    omega
  refine (join_directChild ?_ (List.ne_nil_of_length_pos (by omega))).mpr ⟨?_, ?_⟩
  · rw [String.toList_append, List.mem_append]
    rintro (inName | inSuffix)
    · exact single inName
    · exact plain inSuffix
  all_goals
    intro dots
    rw [dots] at longer
    exact absurd longer (by decide)

theorem profileSafeName_single (name : String) : '/' ∉ (profileSafeName name).toList := by
  rw [profileSafeName, String.toList_ofList, List.mem_map]
  rintro ⟨c, -, slash⟩
  split at slash
  · rename_i safe
    subst slash
    revert safe
    decide
  · revert slash
    decide

end

/-- A name that a validator accepts is safe unless it ends in a line feed, or is the dotted name of a
group policy. -/
theorem acceptedName_safe_iff (validator : NameValidator) (name : String) (accepted : validator.Accepts name) :
    SafeName validator name ↔
      name.toList.getLast? ≠ some '\n' ∧ (validator = .groupPolicy → name ≠ "." ∧ name ≠ "..") := by
  obtain ⟨some_body, body_chars⟩ := accepts_body accepted
  have some_ne : name.toList ≠ [] := by
    intro none
    rw [none] at some_body
    exact some_body rfl
  constructor
  · intro safe
    refine ⟨fun newline => ?_, fun policy => ?_⟩
    · have last := safe.chars '\n' (List.mem_of_getLast? newline)
      exact (documented_plain last).1 rfl
    · have single : '/' ∉ name.toList := fun slash => (documented_plain (safe.chars '/' slash)).2.1 rfl
      subst policy
      have direct := safe.paths ⟨.ofText "/", .ofText "/", .ofText "/", none, none⟩ [] _ (List.mem_singleton_self _)
      obtain ⟨dot, dots⟩ := (join_directChild single some_ne).mp direct
      exact ⟨fun same => dot (by rw [same]; rfl), fun same => dots (by rw [same]; rfl)⟩
  · rintro ⟨closed, policy⟩
    rw [beforeDollar, if_neg closed] at body_chars
    have single : '/' ∉ name.toList := fun slash => (documented_plain (body_chars '/' slash)).2.1 rfl
    refine ⟨body_chars, fun directories workingDir => ?_⟩
    have plain (other : validator ≠ .interface) (directory : PosixPath) :
        DirectChild workingDir directory (directory.join name) := by
      refine (join_directChild single some_ne).mpr ?_
      have dotted : name ≠ "." ∧ name ≠ ".." := by
        by_cases group : validator = .groupPolicy
        · exact policy group
        · obtain ⟨dot, dots⟩ := dots_refused ⟨group, other⟩
          exact ⟨fun same => dot (same ▸ accepted), fun same => dots (same ▸ accepted)⟩
      exact ⟨fun dot => dotted.1 (String.toList_inj.mp dot), fun dots => dotted.2 (String.toList_inj.mp dots)⟩
    cases validator with
    | interface => exact fun _ none => by cases none
    | userGroup | groupConfig | groupPolicy => exact List.forall_mem_singleton.mpr (plain (by decide) _)
    | upstreamProfile =>
        refine List.forall_mem_cons.mpr ⟨plain (by decide) _, List.forall_mem_singleton.mpr ?_⟩
        exact suffix_directChild (profileSafeName_single name) (by decide +kernel) (by decide +kernel) _ _
    | username =>
        refine List.forall_mem_cons.mpr ⟨plain (by decide) _, ?_⟩
        intro path member
        obtain ⟨suffix, isSuffix, rfl⟩ := List.mem_map.mp member
        have long : ∀ suffix ∈ [".p12", ".crt", ".key"], '/' ∉ suffix.toList ∧ 2 < suffix.toList.length := by
          decide +kernel
        exact suffix_directChild single (long suffix isSuffix).1 (long suffix isSuffix).2 _ _

theorem acceptedName_safe_sample : SafeName .upstreamProfile "4laddin" :=
  (acceptedName_safe_iff .upstreamProfile "4laddin" (accepts_iff.mpr (by decide +kernel))).mpr
    ⟨by decide +kernel, nofun⟩

/-- A line feed passes every pattern at the end, and a group policy may be named as the parent directory. -/
theorem acceptedNames_unsafe :
    (NameValidator.username.Accepts "alice\n" ∧ ¬SafeName .username "alice\n") ∧
      NameValidator.groupPolicy.Accepts ".." ∧ ¬SafeName .groupPolicy ".." := by
  refine ⟨⟨accepts_iff.mpr (by decide +kernel), fun safe => ?_⟩, accepts_iff.mpr (by decide +kernel),
    fun safe => ?_⟩
  · exact absurd (safe.chars '\n' (by decide +kernel)) (by decide)
  · have direct := safe.paths ⟨.ofText "/data", .ofText "/data", .ofText "/data", none, none⟩ [] _
      (List.mem_singleton_self _)
    exact direct.ne_parent (by decide +kernel)

end Korserver
