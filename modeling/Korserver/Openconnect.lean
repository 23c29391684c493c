import Korserver.Connections
import Korserver.SecretText
import Korserver.TextParts

/-!
Whether what is recorded of an openconnect run shows the secrets of its profile.
-/

namespace Korserver

open PythonText PythonValue Redaction

def CommandResult.texts (result : CommandResult) : List String := result.argv ++ [result.stdout, result.stderr]

def DialReport.texts (report : DialReport) : List String :=
  report.header.toList ++
    match report.outcome with
    | .ok result => result.texts
    | .error (.command result) => result.message :: commandErrorDetail result :: result.texts
    | .error (.other _) => []

def DialedProfile.secrets (profile : DialedProfile) : List String :=
  [profile.password, profile.certPass, profile.camouflageSecret].filterMap truthy

def DialReport.Leakless (report : DialReport) (profile : DialedProfile) : Prop :=
  ∀ secret ∈ profile.secrets, ∀ text ∈ report.texts, ¬Occurs secret text

/-- The text begins in a word of a line and goes on over the blank behind it. -/
def Across (text : List Char) : List String → Prop
  | [] => False
  | [_] => False
  | word :: next :: rest =>
      (∃ front back, text = front ++ ' ' :: back ∧ front <:+ word.toList ∧
        back <+: (join " " (next :: rest)).toList) ∨ Across text (next :: rest)

def failureWords (returncode : Int) : List String := ["command", "failed", "(" ++ toString returncode ++ "):"]

/-- No word that `connect` adds to masked arguments has the secret in it, and it does not stretch over
words of theirs either. -/
structure Unspoken (argv : List String) (paths : DialPaths) (secret : String) : Prop where
  header : ¬Occurs secret "---\n" ∧ ¬Across secret.toList (("---" :: argv) ++ ["---\n"])
  message : ∀ status : ExitStatus, status.1 ≠ 0 → (∀ word ∈ failureWords status.1, ¬Occurs secret word) ∧
    ¬Across secret.toList (failureWords status.1 ++ argv)
  notice : ¬Occurs secret (goneNotice paths)

/-- When openconnect is run, the words around the arguments do not spell a secret, and the one that is not
masked is hidden by those that are. When the server's certificate cannot be read, the server, the port and
the reason do not spell one. -/
def DialedProfile.Covered (profile : DialedProfile) (config : AppConfig) (paths : DialPaths)
    (source : PinSource) : Prop :=
  match profile.acceptedPin source with
  | .ok pin => (∀ secret ∈ profile.secrets,
      Unspoken (maskedArgv profile.extraSecrets (openconnectArgv config paths profile pin)) paths secret) ∧
        ∀ secret ∈ truthy profile.camouflageSecret, Hidden profile.extraSecrets secret
  | .error (.commandError reason) => ∀ secret ∈ profile.secrets, ¬Occurs secret reason ∧
      ¬Occurs secret ("command failed (1): openconnect " ++ profile.server)
  | .error _ => True

theorem infix_over {α : Type} {text left right : List α} {separator : α} (nonempty : text ≠ []) :
    text <:+: left ++ separator :: right ↔ text <:+: left ∨ text <:+: right ∨
      ∃ front back, text = front ++ separator :: back ∧ front <:+ left ∧ back <+: right := by
  rw [List.infix_append_iff]
  constructor
  · rintro (inLeft | behind | ⟨front, back, whole, isSuffix, isPrefix⟩)
    · exact Or.inl inLeft
    · rcases List.infix_cons_iff.mp behind with start | inRight
      · rcases List.prefix_cons_iff.mp start with empty | ⟨back, whole, isPrefix⟩
        · exact absurd empty nonempty
        · exact Or.inr (Or.inr ⟨[], back, whole, List.nil_suffix, isPrefix⟩)
      · exact Or.inr (Or.inl inRight)
    · rcases List.prefix_cons_iff.mp isPrefix with rfl | ⟨back, rfl, isPrefix⟩
      · rw [whole, List.append_nil]
        exact Or.inl isSuffix.isInfix
      · exact Or.inr (Or.inr ⟨front, back, whole, isSuffix, (List.cons_prefix_cons.mp isPrefix).2⟩)
  · rintro (inLeft | inRight | ⟨front, back, whole, isSuffix, isPrefix⟩)
    · exact Or.inl inLeft
    · exact Or.inr (Or.inl (List.infix_cons inRight))
    · exact Or.inr (Or.inr ⟨front, separator :: back, whole, isSuffix, List.cons_prefix_cons.mpr ⟨rfl, isPrefix⟩⟩)

theorem occurs_join {text : String} (nonempty : text ≠ "") (words : List String) :
    Occurs text (join " " words) ↔ (∃ word ∈ words, Occurs text word) ∨ Across text.toList words := by
  induction words with
  | nil =>
      have absent : ¬Occurs text (join " " []) :=
        fun inside => toList_ne_nil nonempty (List.eq_nil_of_infix_nil inside)
      simp [absent, Across]
  | cons word rest ih =>
      cases rest with
      | nil => simp [join, Across]
      | cons next rest =>
          have line : (join " " (word :: next :: rest)).toList =
              word.toList ++ ' ' :: (join " " (next :: rest)).toList := by
            rw [join_cons (List.cons_ne_nil _ _), String.toList_append, String.toList_append,
              List.append_assoc]
            rfl
          rw [Occurs, line, infix_over (toList_ne_nil nonempty)]
          change _ ∨ Occurs text (join " " (next :: rest)) ∨ _ ↔ _
          rw [ih, Across]
          have ordered : ∀ own first later across : Prop,
              (own ∨ (first ∨ later) ∨ across ↔ (own ∨ first) ∨ across ∨ later) := by tauto
          rw [List.exists_mem_cons_iff (a := word)]
          exact ordered ..

theorem Across.blank {text : List Char} {words : List String} (across : Across text words) : ' ' ∈ text := by
  induction words with
  | nil => exact absurd across id
  | cons word rest ih =>
      cases rest with
      | nil => exact absurd across id
      | cons next rest =>
          rcases across with ⟨front, back, rfl, -, -⟩ | later
          · simp
          · exact ih later

theorem join_concat (items : List String) (some_ : items ≠ []) (last : String) :
    join " " (items ++ [last]) = join " " items ++ " " ++ last := by
  induction items with
  | nil => exact absurd rfl some_
  | cons first rest ih =>
      cases rest with
      | nil => rfl
      | cons next rest =>
          rw [List.cons_append, join_cons (by simp), ih (by simp), join_cons (List.cons_ne_nil _ _)]
          simp only [String.append_assoc]

theorem message_words {argv : List String} (some_ : argv ≠ []) (returncode : Int) (stdout stderr : String) :
    CommandResult.message { argv, returncode, stdout, stderr } = join " " (failureWords returncode ++ argv) := by
  have opening : "command" ++ " " ++ ("failed" ++ " " ++ "(") = "command failed (" := by decide +kernel
  have closing : "):" ++ " " = "): " := by decide +kernel
  have line : join " " (failureWords returncode ++ argv) =
      "command" ++ " " ++ ("failed" ++ " " ++ ("(" ++ toString returncode ++ "):" ++ " " ++ join " " argv)) := by
    simp only [failureWords, List.cons_append, List.nil_append]
    rw [join_cons (List.cons_ne_nil _ _), join_cons (List.cons_ne_nil _ _), join_cons some_]
  have grouped :
      "command" ++ " " ++ ("failed" ++ " " ++ ("(" ++ toString returncode ++ "):" ++ " " ++ join " " argv)) =
        ("command" ++ " " ++ ("failed" ++ " " ++ "(")) ++ toString returncode ++ ("):" ++ " ") ++
          join " " argv := by
    simp only [String.append_assoc]
  rw [line, grouped, opening, closing]
  rfl

theorem pinMessage (server reason : String) : CommandResult.message ⟨["openconnect", server], 1, "", reason⟩ =
    "command failed (1): openconnect " ++ server := by
  have opening : "command failed (" ++ toString (1 : Int) ++ "): " ++ ("openconnect" ++ " ") =
      "command failed (1): openconnect " := by decide +kernel
  change "command failed (" ++ toString (1 : Int) ++ "): " ++ ("openconnect" ++ " " ++ server) = _
  rw [← opening]
  exact String.append_assoc.symm

section

variable {secret : String} (nonempty : secret ≠ "") {argv : List String}

include nonempty

theorem occurs_header (some_ : argv ≠ []) (masked : ∀ word ∈ argv, ¬Occurs secret word) :
    Occurs secret (logHeader argv) ↔
      Occurs secret "---\n" ∨ Across secret.toList (("---" :: argv) ++ ["---\n"]) := by
  have line : logHeader argv = join " " (("---" :: argv) ++ ["---\n"]) := by
    have opening : "--- " = "---" ++ " " := by decide +kernel
    have closing : " ---\n" = " " ++ "---\n" := by decide +kernel
    rw [join_concat _ (by simp), join_cons some_, logHeader, opening, closing]
    simp only [String.append_assoc]
  rw [line, occurs_join nonempty]
  refine or_congr_left ⟨?_, fun last => ⟨_, by simp, last⟩⟩
  rintro ⟨word, member, inside⟩
  simp only [List.cons_append, List.mem_cons, List.mem_append, List.not_mem_nil, or_false] at member
  rcases member with rfl | inArgv | rfl
  · exact inside.trans ⟨[], ['\n'], rfl⟩
  · exact absurd inside (masked word inArgv)
  · exact inside

theorem occurs_message (some_ : argv ≠ []) (masked : ∀ word ∈ argv, ¬Occurs secret word) (returncode : Int)
    (stdout stderr : String) : Occurs secret (CommandResult.message { argv, returncode, stdout, stderr }) ↔
      (∃ word ∈ failureWords returncode, Occurs secret word) ∨
        Across secret.toList (failureWords returncode ++ argv) := by
  rw [message_words some_, occurs_join nonempty]
  refine or_congr_left (Iff.intro ?_ ?_)
  · rintro ⟨word, member, inside⟩
    rcases List.mem_append.mp member with own | inArgv
    · exact ⟨word, own, inside⟩
    · exact absurd inside (masked word inArgv)
  · rintro ⟨word, own, inside⟩
    exact ⟨word, List.mem_append_left _ own, inside⟩

/-- Around masked arguments nothing shows the secret exactly if no word does and it stretches over none. -/
theorem unspoken_iff (some_ : argv ≠ []) (masked : ∀ word ∈ argv, ¬Occurs secret word) {paths : DialPaths} :
    Unspoken argv paths secret ↔ ¬Occurs secret (logHeader argv) ∧
      (∀ status : ExitStatus, status.1 ≠ 0 → ∀ stdout stderr,
        ¬Occurs secret (CommandResult.message { argv, returncode := status.1, stdout, stderr })) ∧
      ¬Occurs secret (goneNotice paths) := by
  simp only [occurs_header nonempty some_ masked, occurs_message nonempty some_ masked, not_or, not_exists, not_and]
  constructor
  · exact fun unspoken => ⟨unspoken.header, fun status failed _ _ => unspoken.message status failed, unspoken.notice⟩
  · exact fun ⟨header, message, notice⟩ => ⟨header, fun status failed => message status failed "" "", notice⟩

end

theorem truthy_some {value : Option String} {text : String} (given : truthy value = some text) :
    value = some text ∧ text ≠ "" := by
  cases value with
  | none => cases given
  | some other =>
      rw [truthy] at given
      split at given
      · cases given
      · rename_i nonempty
        obtain rfl := Option.some.inj given
        exact ⟨rfl, nonempty⟩

example : truthy (some "") = none := by decide +kernel

theorem AppConfig.Valid.interface {config : AppConfig} (valid : config.Valid) : config.upstream.interface ≠ "" := by
  obtain ⟨pathExists, valid⟩ := valid
  simp only [AppConfig.validate, UpstreamConfig.validate, validateInterfaceName, andThen_ok, check_ok] at valid
  exact matchesIdentifier_ne valid.2.2.2.1.2.1

theorem append_ne_empty {left right : String} (nonempty : left ≠ "" ∨ right ≠ "") : left ++ right ≠ "" := by
  intro empty
  have chars := congrArg String.toList empty
  rw [String.toList_append] at chars
  obtain ⟨noLeft, noRight⟩ := List.append_eq_nil_iff.mp chars
  exact nonempty.elim (toList_ne_nil · noLeft) (toList_ne_nil · noRight)

theorem optionArgument_nonempty {option : String} (some : option ≠ "") {value : Option String}
    (given : value ≠ Option.some "") : "" ∉ optionArgument option value := by
  cases value with
  | none => simp [optionArgument]
  | some text =>
      have different : text ≠ "" := fun empty => given (congrArg Option.some empty)
      simp [optionArgument, some.symm, different.symm]

theorem truthy_ne_empty (value : Option String) : truthy value ≠ some "" :=
  fun given => (truthy_some given).2 rfl

theorem materializeCert_nonempty (paths : DialPaths) (profile : DialedProfile) :
    (materializeCert paths profile).1 ≠ some "" ∧ (materializeCert paths profile).2 ≠ some "" := by
  constructor
  · simp only [materializeCert]
    split
    · exact fun same => append_ne_empty (Or.inr (by decide)) (Option.some.inj same)
    · exact profile.certFileText
  · simp only [materializeCert]
    split
    · exact fun same => append_ne_empty (Or.inr (by decide)) (Option.some.inj same)
    · exact profile.keyFileText

theorem certificateArguments_nonempty (paths : DialPaths) (profile : DialedProfile) :
    "" ∉ certificateArguments paths profile := by
  obtain ⟨cert, key⟩ := materializeCert_nonempty paths profile
  rw [certificateArguments]
  generalize (materializeCert paths profile) = found at cert key
  obtain ⟨certPath, keyPath⟩ := found
  cases certPath with
  | none => simp
  | some path =>
      have config : "--config=" ++ profileSecretsDir paths profile ++ "/openconnect.conf" ≠ "" :=
        append_ne_empty (Or.inr (by decide))
      have pathText : path ≠ "" := fun empty => cert (congrArg some empty)
      simp only [List.mem_append, List.mem_cons, List.not_mem_nil, or_false]
      rintro ((first | second) | last)
      · exact first.elim (by decide) pathText.symm
      · exact optionArgument_nonempty (by decide) key second
      · split at last
        · exact config (List.mem_singleton.mp last).symm
        · nomatch last

theorem argv_nonempty {config : AppConfig} (valid : config.Valid) (paths : DialPaths) (profile : DialedProfile)
    (acceptedPin : Option String) : "" ∉ openconnectArgv config paths profile acceptedPin := by
  have device : config.upstream.profileInterface profile.toUpstreamProfileConfig ≠ "" :=
    fun empty => valid.interface (profileInterface_empty empty)
  have pid : "--pid-file=" ++ pidFile config profile ≠ "" := append_ne_empty (Or.inl (by decide))
  have script : "--script=" ++ config.system.generatedDir ++ "/vpnc-script-korserver" ≠ "" :=
    append_ne_empty (Or.inr (by decide))
  have server : dialedServer profile ≠ "" := append_ne_empty (Or.inl (append_ne_empty (Or.inl
    (append_ne_empty (Or.inr (by decide))))))
  have pin : (truthy profile.serverCertPin).or (truthy acceptedPin) ≠ some "" := by
    intro given
    rcases Option.or_eq_some_iff.mp given with first | ⟨-, second⟩
    · exact truthy_ne_empty _ first
    · exact truthy_ne_empty _ second
  rw [openconnectArgv]
  simp only [List.mem_append]
  rintro (((((fixed | pinned) | password) | user) | certificate) | last)
  · simp [device.symm, pid.symm, script.symm] at fixed
  · exact optionArgument_nonempty (by decide) pin pinned
  · split at password
    · simp at password
    · nomatch password
  · exact optionArgument_nonempty (by decide) (truthy_ne_empty _) user
  · split at certificate
    · nomatch certificate
    · exact certificateArguments_nonempty paths profile certificate
  · exact server (List.mem_singleton.mp last).symm

/-! The texts. -/

theorem occurs_strip {secret text : String} (left : Occurs secret (strip text)) : Occurs secret text := by
  have whole : (strip text).toList <:+: text.toList := by
    rw [strip, String.toList_ofList, stripChars, dropEndWhile, ← List.reverse_infix, List.reverse_reverse]
    refine (List.dropWhile_suffix _).isInfix.trans ?_
    rw [List.reverse_infix]
    exact (List.dropWhile_suffix _).isInfix
  exact left.trans whole

theorem append_edges {first middle last : String} {start stop : Char} (opening : first.toList.head? = some start)
    (closing : last.toList.getLast? = some stop) : (first ++ middle ++ last).toList.head? = some start ∧
      (first ++ middle ++ last).toList.getLast? = some stop := by
  simp [List.head?_append, List.getLast?_append, opening, closing]

theorem notice_opening :
    "openconnect backgrounded but the process was gone moments later; see ".toList.head? = some 'o' := by
  decide +kernel

theorem notice_closing :
    " for the actual failure (e.g. the tun interface name already in use)".toList.getLast? = some ')' := by
  decide +kernel

theorem goneNotice_edges (paths : DialPaths) :
    (goneNotice paths).toList.head? = some 'o' ∧ (goneNotice paths).toList.getLast? = some ')' := by
  unfold goneNotice
  exact append_edges notice_opening notice_closing

theorem strip_notice (paths : DialPaths) : strip ("" ++ "\n" ++ goneNotice paths) = goneNotice paths := by
  obtain ⟨first, last⟩ := goneNotice_edges paths
  have kept : stripChars isSpace (goneNotice paths).toList = (goneNotice paths).toList := by
    refine stripChars_edges ?_ ?_
    · simp only [first, Option.mem_some_iff]
      rintro c rfl
      decide
    · simp only [last, Option.mem_some_iff]
      rintro c rfl
      decide
  have start : stripChars isSpace ("" ++ "\n" ++ goneNotice paths).toList =
      stripChars isSpace (goneNotice paths).toList := by
    rw [String.toList_append]
    rfl
  rw [strip, start, kept, String.ofList_toList]

theorem occurs_empty {secret : String} (nonempty : secret ≠ "") : ¬Occurs secret "" :=
  fun inside => toList_ne_nil nonempty (List.eq_nil_of_infix_nil inside)

theorem mem_secrets {profile : DialedProfile} {secret : String} (member : secret ∈ profile.secrets) :
    secret ≠ "" ∧ (secret ∈ profile.extraSecrets ∨ truthy profile.camouflageSecret = some secret) := by
  obtain ⟨value, listed, given⟩ := List.mem_filterMap.mp member
  obtain ⟨same, nonempty⟩ := truthy_some given
  refine ⟨nonempty, ?_⟩
  simp only [List.mem_cons, List.not_mem_nil, or_false] at listed
  rcases listed with rfl | rfl | rfl
  · exact Or.inl (by simp [DialedProfile.extraSecrets, same])
  · exact Or.inl (by simp [DialedProfile.extraSecrets, same])
  · exact Or.inr given

section

variable {config : AppConfig} {paths : DialPaths} {profile : DialedProfile} {source : PinSource}
  {argv : List String} {secret : String}

theorem masked_secret (hidden : ∀ secret ∈ truthy profile.camouflageSecret, Hidden profile.extraSecrets secret)
    (starless : ∀ secret ∈ profile.secrets, '*' ∉ secret.toList) (member : secret ∈ profile.secrets)
    (text : String) : ¬Occurs secret (maskText profile.extraSecrets text) := by
  obtain ⟨nonempty, given | camouflage⟩ := mem_secrets member
  · exact maskText_secret (starless secret member) nonempty given text
  · exact (hidden secret camouflage).masked (starless secret member) text

theorem masked_arguments {secrets : List String} (masked : ∀ text, ¬Occurs secret (maskText secrets text)) :
    ∀ word ∈ maskedArgv secrets argv, ¬Occurs secret word := by
  intro word member
  obtain ⟨item, -, rfl⟩ := List.mem_map.mp member
  exact masked item

theorem error_texts {result : CommandResult} {text : String} (message : ¬Occurs secret result.message)
    (texts : ∀ text ∈ result.texts, ¬Occurs secret text)
    (member : text ∈ result.message :: commandErrorDetail result :: result.texts) : ¬Occurs secret text := by
  have stderr := texts result.stderr (by simp [CommandResult.texts])
  have stdout := texts result.stdout (by simp [CommandResult.texts])
  rcases List.mem_cons.mp member with rfl | member
  · exact message
  · rcases List.mem_cons.mp member with rfl | member
    · rw [commandErrorDetail]
      split
      · exact fun left => stderr (occurs_strip left)
      · split
        · exact fun left => stdout (occurs_strip left)
        · exact message
    · exact texts text member

/-- What `_run_to_file` makes of a run, with masked texts only. -/
theorem runToFile_texts {secrets : List String} {timeout : Nat} {execution : Execution}
    (nonempty : secret ≠ "") (masked : ∀ text, ¬Occurs secret (maskText secrets text)) :
    match runToFile secrets argv timeout execution with
    | .ok result => result.argv = maskedArgv secrets argv ∧ result.stderr = "" ∧
        ∀ text ∈ result.texts, ¬Occurs secret text
    | .error (.command result) => result.argv = maskedArgv secrets argv ∧
        (∃ status : ExitStatus, status.1 ≠ 0 ∧ result.returncode = status.1) ∧
          ∀ text ∈ result.texts, ¬Occurs secret text
    | .error (.other _) => True := by
  have empty := occurs_empty nonempty
  have texts {returncode : Int} {stdout stderr : String} (noStdout : ¬Occurs secret stdout)
      (noStderr : ¬Occurs secret stderr) :
      ∀ text ∈ CommandResult.texts { argv := maskedArgv secrets argv, returncode, stdout, stderr },
        ¬Occurs secret text := by
    intro text member
    rcases List.mem_append.mp member with argument | output
    · exact masked_arguments masked text argument
    · simp only [List.mem_cons, List.not_mem_nil, or_false] at output
      rcases output with rfl | rfl
      · exact noStdout
      · exact noStderr
  cases execution with
  | notStarted reason =>
      exact ⟨rfl, ⟨⟨127, by decide⟩, by decide, rfl⟩, texts empty (masked _)⟩
  | interrupted error => trivial
  | timedOut logged => exact ⟨rfl, ⟨⟨124, by decide⟩, by decide, rfl⟩, texts empty (masked _)⟩
  | exited status logged =>
      simp only [runToFile]
      split
      · rename_i result same
        split at same
        · obtain rfl := Except.ok.inj same
          exact ⟨rfl, rfl, texts (masked _) empty⟩
        · nomatch same
      · rename_i result same
        split at same
        · nomatch same
        · rename_i failed
          obtain rfl := DialError.command.inj (Except.error.inj same)
          exact ⟨rfl, ⟨status, failed, rfl⟩, texts (masked _) empty⟩
      · trivial

theorem maskedArgv_ne_nil {secrets : List String} (some_ : argv ≠ []) : maskedArgv secrets argv ≠ [] := by
  simpa [maskedArgv] using some_

theorem runOpenconnect_leakless (some_ : argv ≠ []) (nonempty : secret ≠ "")
    (masked : ∀ text, ¬Occurs secret (maskText profile.extraSecrets text))
    (unspoken : Unspoken (maskedArgv profile.extraSecrets argv) paths secret) (run : OpenconnectRun) :
    ∀ text ∈ (runOpenconnect paths profile argv run).texts, ¬Occurs secret text := by
  intro text inReport
  obtain ⟨header, message, notice⟩ :=
    (unspoken_iff nonempty (maskedArgv_ne_nil some_) (masked_arguments masked)).mp unspoken
  have spoken {result : CommandResult} (isArgv : result.argv = maskedArgv profile.extraSecrets argv)
      (failed : ∃ status : ExitStatus, status.1 ≠ 0 ∧ result.returncode = status.1) :
      ¬Occurs secret result.message := by
    obtain ⟨status, some_, isStatus⟩ := failed
    have whole : result = ⟨maskedArgv profile.extraSecrets argv, status.1, result.stdout, result.stderr⟩ := by
      rw [← isArgv, ← isStatus]
    rw [whole]
    exact message status some_ _ _
  rw [runOpenconnect] at inReport
  split at inReport
  · simp [DialReport.texts] at inReport
  · rcases List.mem_append.mp inReport with isHeader | rest
    · obtain rfl := List.mem_singleton.mp isHeader
      exact header
    · have ended := @runToFile_texts argv secret profile.extraSecrets 60 run.execution nonempty masked
      revert rest ended
      cases runToFile profile.extraSecrets argv 60 run.execution with
      | error problem =>
          cases problem with
          | command result =>
              rintro rest ⟨isArgv, failed, texts⟩
              exact error_texts (spoken isArgv failed) texts rest
          | other error => exact fun rest _ => absurd rest List.not_mem_nil
      | ok result =>
          rintro rest ⟨isArgv, stderr, texts⟩
          simp only [bind, Except.bind, verifyBackgrounded] at rest
          split at rest
          · rename_i result' same
            split at same
            · obtain rfl := Except.ok.inj same
              exact texts text rest
            · cases same
          · rename_i result' same
            split at same
            · cases same
            · obtain rfl := DialError.command.inj (Except.error.inj same)
              have isOne : ∃ status : ExitStatus, status.1 ≠ 0 ∧ (1 : Int) = status.1 :=
                ⟨⟨1, by decide⟩, by decide, rfl⟩
              refine error_texts ?_ (fun other shown => ?_) rest
              · exact spoken isArgv isOne
              simp only [CommandResult.texts, List.mem_append, List.mem_cons, List.not_mem_nil, or_false] at shown
              rcases shown with argument | rfl | rfl
              · exact texts other (by simp [CommandResult.texts, argument])
              · exact texts _ (by simp [CommandResult.texts])
              · rw [stderr, strip_notice]
                exact notice
          · cases rest

theorem pinError_leakless {reason : String} (nonempty : secret ≠ "") (noReason : ¬Occurs secret reason)
    (noMessage : ¬Occurs secret ("command failed (1): openconnect " ++ profile.server)) :
    ∀ text ∈ DialReport.texts { header := none, outcome := .error (profile.pinError (.commandError reason)) },
      ¬Occurs secret text := by
  intro text member
  have whole : "command failed (1): openconnect " ++ profile.server =
      "command failed (1): " ++ ("openconnect" ++ " " ++ profile.server) := by
    rw [← String.append_assoc, ← String.append_assoc]
    exact congrArg (· ++ profile.server) (by decide +kernel)
  have word {other : String} (inside : other.toList <:+: ("openconnect" ++ " " ++ profile.server).toList) :
      ¬Occurs secret other := by
    refine fun shown => noMessage ?_
    rw [whole, Occurs, String.toList_append]
    exact (shown.trans inside).trans (List.suffix_append _ _).isInfix
  have first : ¬Occurs secret "openconnect" := word (by
    rw [String.toList_append, String.toList_append, List.append_assoc]
    exact (List.prefix_append _ _).isInfix)
  have second : ¬Occurs secret profile.server := word (by
    rw [String.toList_append]
    exact (List.suffix_append _ _).isInfix)
  have texts : ∀ text ∈ CommandResult.texts ⟨["openconnect", profile.server], 1, "", reason⟩,
      ¬Occurs secret text := by
    intro other shown
    simp only [CommandResult.texts, List.cons_append, List.nil_append, List.mem_cons, List.not_mem_nil,
      or_false] at shown
    rcases shown with rfl | rfl | rfl | rfl
    · exact first
    · exact second
    · exact occurs_empty nonempty
    · exact noReason
  refine error_texts ?_ texts member
  rw [pinMessage]
  exact noMessage

theorem dialOpenconnect_accepted {pin : Option String} (accepted : profile.acceptedPin source = .ok pin)
    (run : OpenconnectRun) : dialOpenconnect config paths profile source run =
      runOpenconnect paths profile (openconnectArgv config paths profile pin) run := by
  rw [dialOpenconnect, accepted]

theorem leakless_of_covered (covered : profile.Covered config paths source)
    (starless : ∀ secret ∈ profile.secrets, '*' ∉ secret.toList) (run : OpenconnectRun) :
    (dialOpenconnect config paths profile source run).Leakless profile := by
  intro secret member text inReport
  have nonempty := (mem_secrets member).1
  unfold DialedProfile.Covered at covered
  cases accepted : profile.acceptedPin source with
  | ok pin =>
      rw [dialOpenconnect_accepted accepted] at inReport
      rw [accepted] at covered
      exact runOpenconnect_leakless (by simp [openconnectArgv]) nonempty
        (masked_secret covered.2 starless member) (covered.1 secret member) run text inReport
  | error error =>
      rw [dialOpenconnect, accepted] at inReport
      rw [accepted] at covered
      cases error with
      | commandError reason =>
          obtain ⟨noReason, noMessage⟩ := covered secret member
          exact pinError_leakless nonempty noReason noMessage text inReport
      | _ => exact absurd inReport List.not_mem_nil

theorem runOpenconnect_started (some_ : "" ∉ argv) (run : OpenconnectRun) :
    runOpenconnect paths profile argv run =
      { header := some (logHeader (maskedArgv profile.extraSecrets argv))
        outcome := runToFile profile.extraSecrets argv 60 run.execution >>= verifyBackgrounded paths run.alive } := by
  rw [runOpenconnect, if_neg some_]

theorem runToFile_zero (secrets argv : List String) (timeout : Nat) (logged : String) :
    runToFile secrets argv timeout (.exited ⟨0, by decide⟩ logged) =
      .ok ⟨maskedArgv secrets argv, 0, maskText secrets (strip logged), ""⟩ := by
  simp only [runToFile, if_true]

theorem verifyBackgrounded_gone (result : CommandResult) (silent : result.stderr = "") :
    verifyBackgrounded paths false result =
      .error (.command ⟨result.argv, 1, result.stdout, goneNotice paths⟩) := by
  rw [verifyBackgrounded, if_neg (by decide), silent, strip_notice]

theorem runOpenconnect_shows (some_ : "" ∉ argv)
    (leakless : ∀ run, ∀ text ∈ (runOpenconnect paths profile argv run).texts, ¬Occurs secret text) :
    ¬Occurs secret (logHeader (maskedArgv profile.extraSecrets argv)) ∧
      (∀ status : ExitStatus, status.1 ≠ 0 → ¬Occurs secret (CommandResult.message
        ⟨maskedArgv profile.extraSecrets argv, status.1, maskText profile.extraSecrets (strip ""), ""⟩)) ∧
      ¬Occurs secret (goneNotice paths) ∧
      ∀ text, ¬Occurs secret (maskText profile.extraSecrets (strip text)) := by
  refine ⟨?_, fun status failed => ?_, ?_, fun text => ?_⟩
  · refine leakless ⟨.interrupted .osError, true⟩ _ ?_
    rw [runOpenconnect_started some_]
    exact List.mem_cons_self
  · refine leakless ⟨.exited status "", true⟩ _ ?_
    rw [runOpenconnect_started some_]
    simp only [runToFile, if_neg failed]
    exact List.mem_cons_of_mem _ List.mem_cons_self
  · refine leakless ⟨.exited ⟨0, by decide⟩ "", false⟩ _ ?_
    rw [runOpenconnect_started some_, runToFile_zero]
    simp only [bind, Except.bind, verifyBackgrounded_gone, DialReport.texts, CommandResult.texts,
      List.mem_append, List.mem_cons, true_or, or_true]
  · refine leakless ⟨.exited ⟨0, by decide⟩ text, true⟩ _ ?_
    rw [runOpenconnect_started some_, runToFile_zero]
    simp only [bind, Except.bind, verifyBackgrounded, if_true, DialReport.texts, CommandResult.texts,
      List.mem_append, List.mem_cons, true_or, or_true]

theorem covered_of_leakless (valid : config.Valid) (starless : ∀ secret ∈ profile.secrets, '*' ∉ secret.toList)
    (leakless : ∀ run, (dialOpenconnect config paths profile source run).Leakless profile) :
    profile.Covered config paths source := by
  unfold DialedProfile.Covered
  cases accepted : profile.acceptedPin source with
  | error error =>
      cases error with
      | commandError reason =>
          intro secret member
          have shown := leakless ⟨.interrupted .osError, true⟩ secret member
          rw [dialOpenconnect, accepted] at shown
          refine ⟨shown reason ?_, pinMessage profile.server reason ▸ shown _ ?_⟩
          · simp [DialReport.texts, DialedProfile.pinError, CommandResult.texts]
          · simp [DialReport.texts, DialedProfile.pinError]
      | _ => trivial
  | ok pin =>
      have runs (run : OpenconnectRun) (secret : String) (member : secret ∈ profile.secrets) : ∀ text ∈
          (runOpenconnect paths profile (openconnectArgv config paths profile pin) run).texts,
            ¬Occurs secret text := by
        have shown := leakless run secret member
        rw [dialOpenconnect_accepted accepted] at shown
        exact shown
      have hidden : ∀ secret ∈ truthy profile.camouflageSecret, Hidden profile.extraSecrets secret := by
        intro secret camouflage
        have member : secret ∈ profile.secrets := List.mem_filterMap.mpr ⟨_, by simp, camouflage⟩
        by_contra seen
        obtain ⟨other, stripped, left⟩ := exists_unmasked (starless secret member)
          (show profile.extraSecrets.length < pads.length by simp [DialedProfile.extraSecrets, pads]) seen
        obtain ⟨-, -, -, output⟩ := runOpenconnect_shows (argv_nonempty valid paths profile pin)
          fun run => runs run secret member
        exact output other (stripped.symm ▸ left)
      refine ⟨fun secret member => ?_, hidden⟩
      obtain ⟨header, message, notice, -⟩ := runOpenconnect_shows (argv_nonempty valid paths profile pin)
        fun run => runs run secret member
      refine (unspoken_iff (mem_secrets member).1 (maskedArgv_ne_nil (by simp [openconnectArgv]))
        (masked_arguments (masked_secret hidden starless member))).mpr ⟨header, ?_, notice⟩
      exact fun status failed _ _ => message status failed

/-- No outcome of the run shows a secret exactly when every secret is covered. -/
theorem neverLeaks_iff (valid : config.Valid) (starless : ∀ secret ∈ profile.secrets, '*' ∉ secret.toList)
    (source : PinSource) : (∀ run, (dialOpenconnect config paths profile source run).Leakless profile) ↔
      profile.Covered config paths source :=
  ⟨covered_of_leakless valid starless, fun covered run => leakless_of_covered covered starless run⟩

end

def uncamouflaged : DialedProfile where
  name := "first"
  server := "vpn.example.net"
  username := some "korserver"
  password := some "alpha"

def camouflaged : DialedProfile := { uncamouflaged with camouflageSecret := some "opensesame" }

def dialingConfig : AppConfig where
  upstream := { profiles := [uncamouflaged.toUpstreamProfileConfig] }

theorem dialingConfig_valid : dialingConfig.Valid := ⟨fun _ => false, by decide +kernel⟩

theorem uncamouflaged_covered : uncamouflaged.Covered dialingConfig {} { sha256 := id } := by
  have blankless : ' ' ∉ "alpha".toList := by decide
  refine ⟨fun secret member => ?_, fun secret member => by simp [uncamouflaged, truthy] at member⟩
  obtain rfl : secret = "alpha" := by simpa [DialedProfile.secrets, uncamouflaged, truthy] using member
  have apart {words : List String} : ¬Across "alpha".toList words := fun across => blankless across.blank
  refine ⟨⟨by unfold Occurs; decide +kernel, apart⟩, fun status _ => ⟨?_, apart⟩, by unfold Occurs; decide +kernel⟩
  have apartFromWords : ∀ word ∈ ["command", "failed"], ¬Occurs "alpha" word := by unfold Occurs; decide +kernel
  have apartFromCode : ∀ code : Nat, code < 320 → ¬Occurs "alpha" ("(" ++ toString ((code : Int) - 64) ++ "):") := by
    unfold Occurs
    decide +kernel
  intro word member
  rcases List.mem_append.mp (show word ∈ ["command", "failed"] ++ ["(" ++ toString status.1 ++ "):"] from member)
    with fixed | code
  · exact apartFromWords word fixed
  · obtain rfl := List.mem_singleton.mp code
    obtain ⟨low, high⟩ := status.2
    have shifted : status.1 = ((status.1 + 64).toNat : Int) - 64 := by omega
    rw [shifted]
    exact apartFromCode (status.1 + 64).toNat (by omega)

theorem neverLeaks_iff_sample :
    uncamouflaged.toUpstreamProfileConfig ∈ dialingConfig.upstream.profiles ∧ dialingConfig.Valid ∧
      ∀ run, (dialOpenconnect dialingConfig {} uncamouflaged { sha256 := id } run).Leakless uncamouflaged :=
  ⟨by decide +kernel, dialingConfig_valid,
    (neverLeaks_iff dialingConfig_valid (by decide +kernel) { sha256 := id }).mpr uncamouflaged_covered⟩

/-- The address in the arguments of a successful run shows the camouflage secret. -/
theorem camouflageSecret_shown :
    camouflaged.toUpstreamProfileConfig ∈ dialingConfig.upstream.profiles ∧ dialingConfig.Valid ∧
      (∀ secret ∈ camouflaged.secrets, '*' ∉ secret.toList) ∧
      ∃ result, (dialOpenconnect dialingConfig {} camouflaged { sha256 := id }
          ⟨.exited ⟨0, by decide⟩ "", true⟩).outcome = .ok result ∧ ∃ text ∈ result.argv, Occurs "opensesame" text := by
  have address : maskText camouflaged.extraSecrets (dialedServer camouflaged) ∈
      maskedArgv camouflaged.extraSecrets (openconnectArgv dialingConfig {} camouflaged none) :=
    List.mem_map_of_mem (List.mem_append_right _ List.mem_cons_self)
  have shown : Occurs "opensesame" (maskText camouflaged.extraSecrets (dialedServer camouflaged)) := by
    unfold Occurs
    decide +kernel
  have accepted : camouflaged.acceptedPin { sha256 := id } = .ok none := rfl
  have succeeded : (dialOpenconnect dialingConfig {} camouflaged { sha256 := id }
      ⟨.exited ⟨0, by decide⟩ "", true⟩).outcome =
      .ok ⟨maskedArgv camouflaged.extraSecrets (openconnectArgv dialingConfig {} camouflaged none), 0,
        maskText camouflaged.extraSecrets (strip ""), ""⟩ := by
    rw [dialOpenconnect_accepted accepted, runOpenconnect_started (argv_nonempty dialingConfig_valid _ _ _),
      runToFile_zero]
    rfl
  exact ⟨List.mem_cons_self, dialingConfig_valid, by decide +kernel, _, succeeded, _, address, shown⟩

end Korserver
