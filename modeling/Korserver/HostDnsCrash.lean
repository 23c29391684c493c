import Korserver.HostDns
import Korserver.Runs

/-!
Whether the host's own resolv.conf survives: operations of the service one after the other, with a
crash between any two of their writes, and rewrites by the host.
-/

namespace Korserver

open Effects Effects.Program PythonText PythonValue Runs HostDnsConfig

/-- The files, what the operation that is under way has yet to write, whether the resolv.conf was
truncated and not written since, and what the host itself wrote. -/
structure HostDnsHistory where
  files : HostFiles
  pending : List FileWrite := []
  torn : Bool := false
  newest : Contents
  written : List Contents

inductive HostDnsEvent
  | apply (config : HostDnsConfig) (pathExists : String → Bool)
  | restore (config : HostDnsConfig)
  | write
  | crash
  | hostWrites (contents : Contents)

def FileWrite.tears (torn : Bool) : FileWrite → Bool
  | .truncateResolvConf => true
  | .writeResolvConf _ => false
  | _ => torn

namespace HostDnsHistory

def perform (history : HostDnsHistory) (write : FileWrite) : HostDnsHistory :=
  { history with files := history.files.perform write, torn := write.tears history.torn }

/-- An operation, or a rewrite by the host, begins when the operation before it has come to its end or
has crashed. -/
def step (history : HostDnsHistory) : HostDnsEvent → HostDnsHistory
  | .apply config pathExists =>
      if history.pending = [] then
        { history with pending := (config.apply pathExists history.files).events }
      else history
  | .restore config =>
      if history.pending = [] then { history with pending := (config.restore history.files).events }
      else history
  | .write =>
      match history.pending with
      | [] => history
      | write :: rest => { history.perform write with pending := rest }
  | .crash => { history with pending := [] }
  | .hostWrites contents =>
      if history.pending = [] then
        { history with
          files := { history.files with resolvConf := history.files.resolvConf.map fun _ => contents }
          torn := false
          newest := contents
          written := contents :: history.written }
      else history

/-- The host has a resolv.conf of its own, which is mounted, and no backup was made. -/
def start (original : Contents) (resolved : Option (Option Contents)) : HostDnsHistory :=
  { files := { resolvConf := some original, resolved }, newest := original, written := [original] }

end HostDnsHistory

/-- Text that carries no mark of korserver and is read as it is written; what cannot be decoded is never
touched. -/
def Contents.Plain : Contents → Prop
  | .text chars => universalNewlines chars = chars ∧ ours chars = false
  | .undecodable _ => True

/-- The newest content of the host is in the file or in the backup, and the backup is one of the
contents that the host wrote. -/
structure OriginalKept (backupPath : String) (history : HostDnsHistory) : Prop where
  held : history.files.resolvConf = some history.newest ∨
    history.files.backups backupPath = some history.newest
  clean : ∀ contents, history.files.backups backupPath = some contents →
    contents ∈ history.written ∧ ∀ chars, contents = .text chars → ours chars = false

/-- `apply` is going to point the resolv.conf at dnsmasq. -/
def HostDnsConfig.points (config : HostDnsConfig) (pathExists : String → Bool) : Bool :=
  config.wanted pathExists && decide (config.hostDns = .resolvConf ∧ config.internalDns.port = 53)

/-- One data directory, plain contents, and no redirect over a file that a crash left truncated. -/
def CarefulEvent (backupPath : String) (history : HostDnsHistory) : HostDnsEvent → Prop
  | .apply config pathExists =>
      config.backupPath = backupPath ∧ (history.torn = true → config.points pathExists = false)
  | .restore config => config.backupPath = backupPath
  | .hostWrites contents => contents.Plain
  | _ => True

/-- The file is the host's, or the backup has what the host wrote and the file is korserver's or torn. -/
structure KeptHistory (backupPath : String) (history : HostDnsHistory) : Prop where
  newestWritten : history.newest ∈ history.written
  plain : ∀ contents ∈ history.written, contents.Plain
  backup : ∀ contents, history.files.backups backupPath = some contents → contents ∈ history.written
  held : (history.torn = false ∧ history.files.resolvConf = some history.newest) ∨
    history.files.backups backupPath = some history.newest ∧
      ((history.torn = true ∧ history.files.resolvConf = some (.text "")) ∨
        ∃ chars, history.torn = false ∧ history.files.resolvConf = some (.text chars) ∧
          ours (universalNewlines chars) = true)

def SafeWrite (backupPath : String) (history : HostDnsHistory) : FileWrite → Prop
  | .replaceBackup path content => path = backupPath ∧ history.newest = .text content
  | .truncateResolvConf => history.files.backups backupPath = some history.newest
  | .writeResolvConf content =>
      history.files.backups backupPath = some history.newest ∧
        (ours (universalNewlines content) = true ∨ history.newest = .text content)
  | _ => True

theorem KeptHistory.inHand {backupPath : String} {history : HostDnsHistory}
    (kept : KeptHistory backupPath history) : OriginalKept backupPath history := by
  refine ⟨?_, fun contents found => ⟨kept.backup contents found, ?_⟩⟩
  · rcases kept.held with ⟨-, live⟩ | ⟨backup, -⟩
    · exact Or.inl live
    · exact Or.inr backup
  · rintro chars rfl
    exact (kept.plain _ (kept.backup _ found)).2

theorem KeptHistory.mounted {backupPath : String} {history : HostDnsHistory}
    (kept : KeptHistory backupPath history) : ∃ contents, history.files.resolvConf = some contents := by
  rcases kept.held with ⟨-, live⟩ | ⟨-, ⟨-, live⟩ | ⟨chars, -, live, -⟩⟩
  all_goals exact ⟨_, live⟩

theorem KeptHistory.perform {backupPath : String} {history : HostDnsHistory} {write : FileWrite}
    (kept : KeptHistory backupPath history) (safe : SafeWrite backupPath history write) :
    KeptHistory backupPath (history.perform write) := by
  cases write with
  | unlinkDropin => exact { kept with }
  | replaceDropin content => exact { kept with }
  | replaceBackup path content =>
      obtain ⟨rfl, newest⟩ := safe
      have replaced : (history.perform (.replaceBackup path content)).files.backups path =
          some history.newest := by
        simp [HostDnsHistory.perform, HostFiles.perform, newest]
      refine ⟨kept.newestWritten, kept.plain, ?_, ?_⟩
      · intro contents found
        rw [replaced] at found
        obtain rfl := Option.some.inj found
        exact kept.newestWritten
      · rcases kept.held with live | ⟨-, rest⟩
        · exact Or.inl live
        · exact Or.inr ⟨replaced, rest⟩
  | truncateResolvConf =>
      obtain ⟨contents, live⟩ := kept.mounted
      refine ⟨kept.newestWritten, kept.plain, kept.backup, Or.inr ⟨safe, Or.inl ⟨rfl, ?_⟩⟩⟩
      simp [HostDnsHistory.perform, HostFiles.perform, live]
  | writeResolvConf content =>
      obtain ⟨contents, live⟩ := kept.mounted
      have replaced : (history.perform (.writeResolvConf content)).files.resolvConf =
          some (.text content) := by
        simp [HostDnsHistory.perform, HostFiles.perform, live]
      refine ⟨kept.newestWritten, kept.plain, kept.backup, ?_⟩
      rcases safe.2 with mine | newest
      · exact Or.inr ⟨safe.1, Or.inr ⟨content, rfl, replaced, mine⟩⟩
      · refine Or.inl ⟨rfl, replaced.trans ?_⟩
        exact congrArg some newest.symm

/-! Programs whose writes are all safe. -/

/-- The program does what its writes say, and each of them is safe where it is made. -/
structure Safely {α : Type} (backupPath : String) (history : HostDnsHistory) (program : HostDns α) : Prop where
  effect : (program history.files).state =
    (run HostDnsHistory.perform history (program history.files).events).files
  safe : Throughout HostDnsHistory.perform (SafeWrite backupPath) history (program history.files).events

/-- The history after what a program has written. -/
def HostDnsHistory.after {α : Type} (history : HostDnsHistory) (program : HostDns α) : HostDnsHistory :=
  run HostDnsHistory.perform history (program history.files).events

section

variable {α β : Type} {backupPath : String} {history : HostDnsHistory} {config : HostDnsConfig}

theorem Safely.pure (value : α) : Safely backupPath history (Pure.pure value : HostDns α) :=
  ⟨rfl, trivial⟩

theorem Safely.bind {first : HostDns α} {next : α → HostDns β} (safely : Safely backupPath history first)
    (rest : ∀ value, Safely backupPath (history.after first) (next value)) :
    Safely backupPath history (first >>= next) := by
  obtain ⟨effect, safe⟩ := safely
  cases result : (first history.files).result with
  | error error =>
      have outcome : (first >>= next) history.files =
          ⟨.error error, (first history.files).state, (first history.files).events⟩ := by
        rw [bind_run, result]
      exact ⟨by rw [outcome]; exact effect, by rw [outcome]; exact safe⟩
  | ok value =>
      have outcome : (first >>= next) history.files =
          ⟨(next value (history.after first).files).result, (next value (history.after first).files).state,
            (first history.files).events ++ (next value (history.after first).files).events⟩ := by
        rw [bind_run, result]
        dsimp only
        rw [effect]
        rfl
      obtain ⟨effect', safe'⟩ := rest value
      refine ⟨?_, ?_⟩
      · rw [outcome, run_append]
        exact effect'
      · rw [outcome, throughout_append]
        exact ⟨safe, safe'⟩

theorem Safely.still {program : HostDns α} (result : Except PyError α)
    (outcome : program history.files = ⟨result, history.files, []⟩) : Safely backupPath history program := by
  refine ⟨?_, ?_⟩
  · rw [outcome]
    rfl
  · rw [outcome]
    trivial

theorem KeptHistory.after {program : HostDns α} (kept : KeptHistory backupPath history)
    (safely : Safely backupPath history program) : KeptHistory backupPath (history.after program) :=
  run_throughout (fun _ _ kept safe => KeptHistory.perform kept safe) kept safely.safe

theorem removeDropin_safely : Safely backupPath history removeDropin := by
  cases there : history.files.resolved with
  | none => exact .still _ (by rw [removeDropin_eq, there])
  | some dropin =>
      cases dropin with
      | none => exact .still _ (by rw [removeDropin_eq, there])
      | some contents =>
          cases text : contents.readText with
          | error error => exact .still _ (by rw [removeDropin_eq, there]; simp only [text]; rfl)
          | ok current =>
              by_cases mine : ours current = true
              · have outcome : removeDropin history.files =
                    ⟨.ok true, { history.files with resolved := some none }, [.unlinkDropin]⟩ := by
                  rw [removeDropin_eq, there]
                  simp only [text, mine, if_true]
                refine ⟨?_, ?_⟩
                · rw [outcome]
                  simp [run, HostDnsHistory.perform, HostFiles.perform, there]
                · rw [outcome]
                  exact ⟨trivial, trivial⟩
              · exact .still _ (by rw [removeDropin_eq, there]; simp only [text, mine]; rfl)

theorem after_removeDropin : (history.after removeDropin).torn = history.torn := by
  have events : (removeDropin history.files).events = [] ∨
      (removeDropin history.files).events = [.unlinkDropin] := by
    rw [removeDropin_eq]
    repeat' split
    all_goals first | exact Or.inl rfl | exact Or.inr rfl
  rw [HostDnsHistory.after]
  rcases events with none | unlinked
  · rw [none]
    rfl
  · rw [unlinked]
    rfl

theorem writeDropin_safely : Safely backupPath history config.writeDropin := by
  have write (content : String) (result : Except PyError HostDnsResult) {dropin : Option Contents}
      (there : history.files.resolved = some dropin)
      (outcome : config.writeDropin history.files =
        ⟨result, { history.files with resolved := some (some (.text content)) }, [.replaceDropin content]⟩) :
      Safely backupPath history config.writeDropin := by
    refine ⟨?_, ?_⟩
    · rw [outcome]
      simp [run, HostDnsHistory.perform, HostFiles.perform, there]
    · rw [outcome]
      exact ⟨trivial, trivial⟩
  cases there : history.files.resolved with
  | none => exact .still _ (by rw [writeDropin_eq, there])
  | some dropin =>
      cases text : dropin.map Contents.readText with
      | none =>
          refine write config.desiredDropin (.ok (config.answer true dropinWritten)) there ?_
          rw [writeDropin_eq, there]
          simp only [text]
          rfl
      | some read =>
          cases read with
          | error error => exact .still (.error error) (by rw [writeDropin_eq, there]; simp only [text])
          | ok current =>
              by_cases same : current = config.desiredDropin
              · exact .still _ (by rw [writeDropin_eq, there]; simp only [text, same, if_true]; rfl)
              · refine write config.desiredDropin (.ok (config.answer true dropinWritten)) there ?_
                rw [writeDropin_eq, there]
                simp only [text, Option.some.injEq, Except.ok.injEq, if_neg same]

theorem KeptHistory.backupOf (kept : KeptHistory backupPath history) {chars : String}
    (live : history.files.resolvConf = some (.text chars))
    (mine : ours (universalNewlines chars) = true) :
    history.files.backups backupPath = some history.newest := by
  rcases kept.held with ⟨-, host⟩ | ⟨backup, -⟩
  · have own := Option.some.inj (live.symm.trans host)
    have plain : Contents.Plain (.text chars) := kept.plain _ (by rw [own]; exact kept.newestWritten)
    rw [plain.1, plain.2] at mine
    cases mine
  · exact backup

theorem KeptHistory.hostText (kept : KeptHistory backupPath history) (whole : history.torn = false)
    {chars : String} (live : history.files.resolvConf = some (.text chars))
    (foreign : ours (universalNewlines chars) = false) :
    history.newest = .text chars ∧ universalNewlines chars = chars := by
  rcases kept.held with ⟨-, host⟩ | ⟨-, ⟨torn, -⟩ | ⟨other, -, written, mine⟩⟩
  · have own := Option.some.inj (live.symm.trans host)
    have plain : Contents.Plain (.text chars) := kept.plain _ (by rw [own]; exact kept.newestWritten)
    exact ⟨own.symm, plain.1⟩
  · rw [whole] at torn
    cases torn
  · obtain rfl := Contents.text.inj (Option.some.inj (live.symm.trans written))
    rw [foreign] at mine
    cases mine

/-- What `_restore_resolv_conf` writes is the backup, over a file that is korserver's. -/
theorem restoreResolvConf_safely (kept : KeptHistory backupPath history)
    (same : config.backupPath = backupPath) : Safely backupPath history config.restoreResolvConf := by
  cases live : history.files.resolvConf with
  | none => exact .still _ (by rw [restoreResolvConf_eq, live]; rfl)
  | some contents =>
      cases contents with
      | undecodable bytes => exact .still _ (by rw [restoreResolvConf_eq, live]; rfl)
      | text chars =>
          by_cases mine : ours (universalNewlines chars) = true
          · have backup := kept.backupOf live mine
            cases newest : history.newest with
            | undecodable bytes =>
                refine .still (.error (.valueError "'utf-8' codec can't decode bytes")) ?_
                rw [restoreResolvConf_eq, live, same, backup, newest]
                simp only [Option.map_some, Contents.readText, mine, if_true]
            | text original =>
                have plain := kept.plain _ kept.newestWritten
                rw [newest] at plain
                have outcome : config.restoreResolvConf history.files =
                    ⟨.ok true, { history.files with resolvConf := some (.text original) },
                      [.truncateResolvConf, .writeResolvConf original]⟩ := by
                  rw [restoreResolvConf_eq, live, same, backup, newest]
                  simp only [Option.map_some, Contents.readText, mine, if_true, plain.1]
                refine ⟨?_, ?_⟩
                · rw [outcome]
                  simp [run, HostDnsHistory.perform, HostFiles.perform, live]
                · rw [outcome]
                  exact ⟨backup, ⟨backup, Or.inr newest⟩, trivial⟩
          · refine .still (.ok false) ?_
            rw [restoreResolvConf_eq, live]
            simp only [Option.map_some, Contents.readText, mine]
            rfl

theorem pointResolvConf_safely (kept : KeptHistory backupPath history)
    (same : config.backupPath = backupPath)
    (whole : config.internalDns.port = 53 → history.torn = false) :
    Safely backupPath history config.pointResolvConf := by
  obtain ⟨contents, live⟩ := kept.mounted
  by_cases standard : config.internalDns.port = 53
  · specialize whole standard
    cases contents with
    | undecodable bytes =>
        refine .still (.error (.valueError "'utf-8' codec can't decode bytes")) ?_
        rw [pointResolvConf_eq, live]
        simp [Contents.readText, standard]
    | text chars =>
        by_cases pointed : universalNewlines chars = config.desiredResolvConf
        · refine .still (.ok (config.answer false resolvConfInPlace)) ?_
          rw [pointResolvConf_eq, live]
          simp [Contents.readText, standard, pointed]
        · have mine' := @ours_desiredResolvConf config
          cases mine : ours (universalNewlines chars) with
          | true =>
              have backup := kept.backupOf live mine
              have outcome : config.pointResolvConf history.files =
                  ⟨.ok (config.answer true resolvConfPointed),
                    { history.files with resolvConf := some (.text config.desiredResolvConf) },
                    [.truncateResolvConf, .writeResolvConf config.desiredResolvConf]⟩ := by
                rw [pointResolvConf_eq, live]
                simp [Contents.readText, standard, pointed, mine]
              refine ⟨?_, ?_⟩
              · rw [outcome]
                simp [run, HostDnsHistory.perform, HostFiles.perform, live]
              · rw [outcome]
                exact ⟨backup, ⟨backup, Or.inl mine'⟩, trivial⟩
          | false =>
              obtain ⟨newest, plain⟩ := kept.hostText whole live mine
              rw [plain] at mine pointed
              have outcome : config.pointResolvConf history.files =
                  ⟨.ok (config.answer true resolvConfPointed),
                    { history.files.perform (.replaceBackup backupPath chars) with
                      resolvConf := some (.text config.desiredResolvConf) },
                    [.replaceBackup backupPath chars, .truncateResolvConf,
                      .writeResolvConf config.desiredResolvConf]⟩ := by
                rw [pointResolvConf_eq, live, same]
                simp [Contents.readText, standard, pointed, mine, plain]
              have replaced : (history.perform (.replaceBackup backupPath chars)).files.backups backupPath =
                  some history.newest := by
                simp [HostDnsHistory.perform, HostFiles.perform, newest]
              refine ⟨?_, ?_⟩
              · rw [outcome]
                simp [run, HostDnsHistory.perform, HostFiles.perform, live]
              · rw [outcome]
                exact ⟨⟨rfl, newest⟩, replaced, ⟨replaced, Or.inl mine'⟩, trivial⟩
  · refine .still (.ok (config.answer false portNotStandard)) ?_
    rw [pointResolvConf_eq, live]
    simp [standard]

theorem apply_safely (kept : KeptHistory backupPath history) {pathExists : String → Bool}
    (same : config.backupPath = backupPath)
    (whole : history.torn = true → config.points pathExists = false) :
    Safely backupPath history (config.apply pathExists) := by
  rw [HostDnsConfig.apply]
  cases wanted : config.wanted pathExists with
  | false =>
      exact .bind (restoreResolvConf_safely kept same) fun _ =>
        .bind removeDropin_safely fun _ => .pure _
  | true =>
      by_cases inFile : config.hostDns = .resolvConf
      · rw [if_pos inFile]
        refine .bind removeDropin_safely fun _ => .bind ?_ fun _ => .pure _
        refine pointResolvConf_safely (kept.after removeDropin_safely) same fun standard => ?_
        rw [after_removeDropin]
        cases torn : history.torn with
        | false => rfl
        | true => simpa [HostDnsConfig.points, wanted, inFile, standard] using whole torn
      · rw [if_neg inFile]
        exact .bind (restoreResolvConf_safely kept same) fun _ => .bind writeDropin_safely fun _ => .pure _

theorem restore_safely (kept : KeptHistory backupPath history) (same : config.backupPath = backupPath) :
    Safely backupPath history config.restore :=
  .bind (restoreResolvConf_safely kept same) fun _ => .pure _

/-- What is known between any two writes: the ones to come are safe. -/
structure SoundHistory (backupPath : String) (history : HostDnsHistory) : Prop where
  kept : KeptHistory backupPath history
  safe : Throughout HostDnsHistory.perform (SafeWrite backupPath) history history.pending

theorem throughout_pending (pending writes : List FileWrite) :
    Throughout HostDnsHistory.perform (SafeWrite backupPath) { history with pending } writes ↔
      Throughout HostDnsHistory.perform (SafeWrite backupPath) history writes := by
  induction writes generalizing history with
  | nil => exact Iff.rfl
  | cons write rest ih =>
      have first : SafeWrite backupPath { history with pending } write ↔ SafeWrite backupPath history write := by
        cases write <;> exact Iff.rfl
      exact and_congr first (@ih (history.perform write))

theorem SoundHistory.begin {α : Type} {program : HostDns α} (kept : KeptHistory backupPath history)
    (safely : Safely backupPath history program) :
    SoundHistory backupPath { history with pending := (program history.files).events } :=
  ⟨{ kept with }, (throughout_pending _ _).mpr safely.safe⟩

theorem SoundHistory.step {event : HostDnsEvent} (sound : SoundHistory backupPath history)
    (careful : CarefulEvent backupPath history event) : SoundHistory backupPath (history.step event) := by
  obtain ⟨kept, safe⟩ := sound
  cases event with
  | apply config pathExists =>
      simp only [HostDnsHistory.step]
      split
      · exact .begin kept (apply_safely kept careful.1 careful.2)
      · exact ⟨kept, safe⟩
  | restore config =>
      simp only [HostDnsHistory.step]
      split
      · exact .begin kept (restore_safely kept careful)
      · exact ⟨kept, safe⟩
  | write =>
      simp only [HostDnsHistory.step]
      split
      · exact ⟨kept, safe⟩
      · rename_i write rest next
        rw [next] at safe
        exact ⟨{ kept.perform safe.1 with }, (throughout_pending _ _).mpr safe.2⟩
  | crash => exact ⟨{ kept with }, trivial⟩
  | hostWrites contents =>
      simp only [HostDnsHistory.step]
      split
      · rename_i idle
        obtain ⟨old, live⟩ := kept.mounted
        refine ⟨⟨List.mem_cons_self, ?_, ?_, Or.inl ⟨rfl, by rw [live]; rfl⟩⟩, ?_⟩
        · exact List.forall_mem_cons.mpr ⟨careful, kept.plain⟩
        · exact fun backup found => List.mem_cons_of_mem _ (kept.backup backup found)
        · simp only [idle]
          trivial
      · exact ⟨kept, safe⟩

theorem SoundHistory.start {original : Contents} (plain : original.Plain)
    (resolved : Option (Option Contents)) :
    SoundHistory backupPath (HostDnsHistory.start original resolved) := by
  refine ⟨⟨List.mem_singleton_self _, ?_, nofun, Or.inl ⟨rfl, rfl⟩⟩, trivial⟩
  intro contents member
  obtain rfl := List.mem_singleton.mp member
  exact plain

end

/-- In a run of careful events, with crashes wherever they are, the original is never lost. -/
theorem originalKept (backupPath : String) (original : Contents) (resolved : Option (Option Contents))
    (events : List HostDnsEvent) (plain : original.Plain)
    (careful : Throughout HostDnsHistory.step (CarefulEvent backupPath)
      (HostDnsHistory.start original resolved) events) :
    OriginalKept backupPath (run HostDnsHistory.step (HostDnsHistory.start original resolved) events) :=
  (run_throughout (fun _ _ sound careful => SoundHistory.step sound careful) (SoundHistory.start plain resolved)
    careful).kept.inHand

/-! A crash between truncating the file and writing it, and the service that runs again. -/

def redirecting : HostDnsConfig where
  internalDns := { resolverEnabled := true }
  hostDns := .resolvConf

def lanResolver : Contents := .text "nameserver 192.168.1.1\nsearch lan\n"

def truncatedRedirect : List HostDnsEvent :=
  [.apply redirecting fun _ => false, .write, .write, .crash, .apply redirecting fun _ => false, .write]

theorem truncatedRedirect_losesOriginal :
    ¬∀ (original : Contents) (events : List HostDnsEvent),
      OriginalKept redirecting.backupPath
        (run HostDnsHistory.step (HostDnsHistory.start original none) events) := by
  intro kept
  have held := (kept lanResolver truncatedRedirect).held
  revert held
  decide +kernel

/-- The crash comes after the backup, the service runs again, and is stopped in the end. -/
def restartedRedirect : List HostDnsEvent :=
  [.apply redirecting fun _ => false, .write, .crash, .apply redirecting fun _ => false, .write, .write,
    .write, .restore redirecting, .write, .write]

theorem originalKept_sample :
    OriginalKept redirecting.backupPath
      (run HostDnsHistory.step (HostDnsHistory.start lanResolver none) restartedRedirect) := by
  refine originalKept redirecting.backupPath lanResolver none restartedRedirect ?_ ?_
  · exact ⟨by decide +kernel, by decide +kernel⟩
  · refine ⟨⟨rfl, fun torn => ?_⟩, trivial, trivial, ⟨rfl, fun torn => ?_⟩, trivial, trivial, trivial, rfl,
      trivial, trivial, trivial⟩
    · cases torn
    · revert torn
      decide +kernel

end Korserver
