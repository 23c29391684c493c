import Korserver.HexText
import Korserver.HostDnsCrash
import Korserver.Runs
import Korserver.TextParts

/-!
Where the host's lookups are sent, over any number of calls of the service and rewrites of the host's
resolv.conf.
-/

namespace Korserver

open Effects Effects.Program PythonText PythonValue Runs HostDnsConfig

/-- The text of a file that can be decoded and carries the mark of korserver. -/
def Contents.redirect (contents : Contents) : Option String :=
  match contents.readText with
  | .ok chars => if ours chars then some chars else none
  | .error _ => none

def Contents.readable (contents : Contents) : Bool :=
  match contents.readText with
  | .ok _ => true
  | .error _ => false

namespace HostFiles

variable (files : HostFiles)

def redirect : Option String := files.resolvConf.bind Contents.redirect

def dropin : Option Contents := files.resolved.bind id

def dropinRedirect : Option String := files.dropin.bind Contents.redirect

end HostFiles

/-- A line names the address, which is one word. -/
def NamesResolver (text address : String) : Prop :=
  (∀ c ∈ address.toList, isSpace c = false) ∧
    ("nameserver " ++ address).toList ∈ splitChar '\n' text.toList

/-- A word of systemd-resolved for an address and a port: the port stands behind a colon, an address
with colons of its own then between brackets. -/
def ServerWord (word : List Char) (address : String) (port : Nat) : Prop :=
  (word = address.toList ∧ port = 53) ∨
    (word = address.toList ++ ':' :: (toString port).toList ∧ ':' ∉ address.toList) ∨
      word = '[' :: address.toList ++ ']' :: ':' :: (toString port).toList

def NamesDropin (text address : String) (port : Nat) : Prop :=
  (∀ c ∈ address.toList, isSpace c = false) ∧
    ∃ word, "DNS=".toList ++ word ∈ splitChar '\n' text.toList ∧ ServerWord word address port

/-- A redirect is there only in the file of the mode that is wanted, and names the address and a port
that dnsmasq serves. -/
structure RedirectSafe (config : HostDnsConfig) (pathExists : String → Bool) (files : HostFiles) : Prop where
  resolvConf : ∀ text, files.redirect = some text →
    config.wanted pathExists = true ∧ config.hostDns = .resolvConf ∧ config.internalDns.port = 53 ∧
      NamesResolver text config.internalDns.listen
  dropin : ∀ text, files.dropinRedirect = some text →
    config.wanted pathExists = true ∧ config.hostDns = .resolved ∧
      NamesDropin text config.internalDns.listen config.internalDns.port

def RestoreSafe (config : HostDnsConfig) (files : HostFiles) : Prop :=
  files.backups config.backupPath ≠ none → files.redirect = none ∧ files.dropinRedirect = none

/-- What stands in for a redirect in the resolv.conf is in the backup. -/
def Restorable (config : HostDnsConfig) (files : HostFiles) : Prop :=
  files.redirect ≠ none → ∃ backup, files.backups config.backupPath = some backup ∧
    backup.readable = true ∧ backup.redirect = none

def OneWord (address : String) : Prop := ∀ c ∈ address.toList, isSpace c = false

def unreadable (contents : Option Contents) : Bool := contents.any fun found => !found.readable

structure ApplyMeets (config : HostDnsConfig) (pathExists : String → Bool) (files : HostFiles) : Prop where
  idle : config.wanted pathExists = false →
    Restorable config files ∧ (unreadable files.resolvConf = true → files.dropinRedirect = none)
  resolvConf : config.wanted pathExists = true → config.hostDns = .resolvConf →
    (files.redirect ≠ none → config.internalDns.port = 53) ∧
      (unreadable files.dropin = false → files.resolvConf ≠ none → unreadable files.resolvConf = false →
        config.internalDns.port = 53 → OneWord config.internalDns.listen) ∧
      (unreadable files.dropin = true → ∀ text, files.redirect = some text →
        NamesResolver text config.internalDns.listen)
  resolved : config.wanted pathExists = true → config.hostDns = .resolved →
    Restorable config files ∧
      (unreadable files.resolvConf = true → ∀ text, files.dropinRedirect = some text →
        NamesDropin text config.internalDns.listen config.internalDns.port) ∧
      (unreadable files.resolvConf = false → files.resolved ≠ none → unreadable files.dropin = false →
        OneWord config.internalDns.listen ∧
          (config.internalDns.port ≠ 53 → ':' ∉ config.internalDns.listen.toList))

def RestoreMeets (config : HostDnsConfig) (files : HostFiles) : Prop :=
  files.backups config.backupPath ≠ none → Restorable config files ∧ files.dropinRedirect = none

inductive HostDnsCall
  | apply (config : HostDnsConfig) (pathExists : String → Bool)
  | restore (config : HostDnsConfig)
  | hostWrites (contents : Contents)

def HostFiles.call (files : HostFiles) : HostDnsCall → HostFiles
  | .apply config pathExists => (config.apply pathExists files).state
  | .restore config => (config.restore files).state
  | .hostWrites contents => { files with resolvConf := files.resolvConf.map fun _ => contents }

def SafeAfterCall (files : HostFiles) : HostDnsCall → Prop
  | .apply config pathExists => RedirectSafe config pathExists files
  | .restore config => RestoreSafe config files
  | .hostWrites _ => True

def CallMeets (files : HostFiles) : HostDnsCall → Prop
  | .apply config pathExists => ApplyMeets config pathExists files
  | .restore config => RestoreMeets config files
  | .hostWrites _ => True

/-! Redirects that are written, and what they name. -/

theorem Contents.redirect_ok {contents : Contents} {chars : String} (read : contents.readText = .ok chars) :
    contents.redirect = if ours chars then some chars else none := by
  simp only [Contents.redirect, read]

theorem Contents.redirect_text (chars : String) :
    (Contents.text chars).redirect =
      if ours (universalNewlines chars) then some (universalNewlines chars) else none :=
  Contents.redirect_ok rfl

theorem Contents.redirect_reread {contents : Contents} {chars : String}
    (read : contents.readText = .ok chars) : (Contents.text chars).redirect = contents.redirect := by
  cases contents with
  | undecodable bytes => cases read
  | text raw =>
      obtain rfl := Except.ok.inj read
      rw [Contents.redirect_text, Contents.redirect_text, universalNewlines_idem]

theorem Contents.redirect_inPlace {chars desired : String} (mine : ours (universalNewlines desired) = true)
    (same : universalNewlines chars = desired) :
    (Contents.text chars).redirect = some (universalNewlines desired) := by
  subst same
  rw [universalNewlines_idem] at mine ⊢
  rw [Contents.redirect_text, if_pos mine]

theorem Contents.readable_iff {contents : Contents} :
    contents.readable = true ↔ ∃ chars, contents.readText = .ok chars := by
  cases contents with
  | text chars => simp [Contents.readable, Contents.readText]
  | undecodable bytes => simp [Contents.readable, Contents.readText]

section

variable {config : HostDnsConfig} {files : HostFiles}

theorem ours_desiredDropin : ours (universalNewlines config.desiredDropin) = true := by
  simp only [desiredDropin, String.append_assoc]
  exact ours_marked _

theorem redirect_desiredResolvConf :
    (Contents.text config.desiredResolvConf).redirect = some (universalNewlines config.desiredResolvConf) := by
  rw [Contents.redirect_text, if_pos ours_desiredResolvConf]

theorem redirect_desiredDropin :
    (Contents.text config.desiredDropin).redirect = some (universalNewlines config.desiredDropin) := by
  rw [Contents.redirect_text, if_pos ours_desiredDropin]

theorem OneWord.plain {address : String} (word : OneWord address) {c : Char} (blank : isSpace c = true) :
    c ∉ address.toList := by
  intro member
  rw [word c member] at blank
  cases blank

theorem names_desiredResolvConf :
    NamesResolver (universalNewlines config.desiredResolvConf) config.internalDns.listen ↔
      OneWord config.internalDns.listen := by
  refine ⟨fun names => names.1, fun word => ⟨word, ?_⟩⟩
  have line : '\r' ∉ ("nameserver " ++ config.internalDns.listen).toList := by
    rw [String.toList_append, List.mem_append, not_or]
    exact ⟨by decide, word.plain (by decide)⟩
  have single : '\n' ∉ ("nameserver " ++ config.internalDns.listen).toList := by
    rw [String.toList_append, List.mem_append, not_or]
    exact ⟨by decide, word.plain (by decide)⟩
  obtain ⟨before, split⟩ : ∃ before : List Char, config.desiredResolvConf.toList =
      before ++ '\n' :: (("nameserver " ++ config.internalDns.listen).toList ++ '\n' :: []) := by
    refine ⟨(mark ++ ": host lookups go through the korserver dnsmasq.\n# The original is kept in " ++
      config.backupPath ++
        " and restored when\n# korserver stops or routing.host_dns is turned off.").toList, ?_⟩
    simp [desiredResolvConf, String.toList_append]
  obtain ⟨read, same⟩ := universalNewlinesFrom_line before
    (("nameserver " ++ config.internalDns.listen).toList ++ '\n' :: [])
  rw [universalNewlines, String.toList_ofList, split, same, universalNewlinesFrom_append line,
    splitChar_append, List.mem_append]
  refine Or.inr ?_
  rw [show universalNewlinesFrom ['\n'] = ['\n'] from rfl, splitChar_line single]
  exact List.mem_cons_self

theorem digitChar_visible : ∀ digit < 10, isSpace (Nat.digitChar digit) = false := by decide

theorem toString_plain (port : Nat) {c : Char} (blank : isSpace c = true) : c ∉ (toString port).toList := by
  intro member
  change c ∈ (Nat.repr port).toList at member
  rw [Nat.repr, String.toList_ofList] at member
  obtain ⟨digit, below, rfl⟩ := mem_toDigits (by decide) member
  rw [digitChar_visible digit below] at blank
  cases blank

theorem dropinServer_plain (word : OneWord config.internalDns.listen) {c : Char} (blank : isSpace c = true) :
    c ∉ config.dropinServer.toList := by
  rw [dropinServer]
  split
  · exact word.plain blank
  · have different : c ≠ ':' := by
      rintro rfl
      cases blank
    simp only [String.toList_append, List.mem_append, not_or]
    exact ⟨⟨word.plain blank, by simpa using different⟩, toString_plain _ blank⟩

theorem lines_desiredDropin (word : OneWord config.internalDns.listen) :
    splitChar '\n' (universalNewlines config.desiredDropin).toList =
      [(mark ++ ": send all host DNS to the korserver dnsmasq.").toList,
        "# Delete this file and restart systemd-resolved to undo.".toList, "[Resolve]".toList, "DNS=".toList,
        "DNS=".toList ++ config.dropinServer.toList, "Domains=~.".toList, []] := by
  have split : config.desiredDropin.toList =
      (mark ++ ": send all host DNS to the korserver dnsmasq.").toList ++ '\n' ::
        ("# Delete this file and restart systemd-resolved to undo.".toList ++ '\n' ::
          ("[Resolve]".toList ++ '\n' :: ("DNS=".toList ++ '\n' ::
            (("DNS=".toList ++ config.dropinServer.toList) ++ '\n' ::
              ("Domains=~.".toList ++ '\n' :: []))))) := by
    simp [desiredDropin, String.toList_append]
  have single : '\n' ∉ "DNS=".toList ++ config.dropinServer.toList := by
    rw [List.mem_append, not_or]
    exact ⟨by decide, dropinServer_plain word (by decide)⟩
  have plain : '\r' ∉ config.desiredDropin.toList := by
    rw [split]
    simp only [List.mem_append, List.mem_cons, not_or]
    refine ⟨by decide +kernel, by decide, by decide, by decide, by decide, by decide, by decide, by decide,
      ⟨by decide, dropinServer_plain word (by decide)⟩, by decide, by decide, by decide, by simp⟩
  rw [universalNewlines, String.toList_ofList, universalNewlinesFrom_plain plain, split,
    splitChar_line (by decide +kernel), splitChar_line (by decide), splitChar_line (by decide),
    splitChar_line (by decide), splitChar_line single, splitChar_line (by decide)]
  rfl

theorem names_desiredDropin :
    NamesDropin (universalNewlines config.desiredDropin) config.internalDns.listen config.internalDns.port ↔
      OneWord config.internalDns.listen ∧
        (config.internalDns.port ≠ 53 → ':' ∉ config.internalDns.listen.toList) := by
  refine ⟨fun ⟨word, server, named, means⟩ => ⟨word, fun other => ?_⟩, fun ⟨word, apart⟩ => ⟨word, ?_⟩⟩
  · rw [lines_desiredDropin word] at named
    have words : server = [] ∨ server = config.dropinServer.toList := by
      simp [mark] at named
      rcases named with none | same
      · exact Or.inl none
      · exact Or.inr same
    rcases words with rfl | rfl
    · rcases means with ⟨-, standard⟩ | ⟨same, -⟩ | same
      · exact absurd standard other
      · simp at same
      · cases same
    · rw [dropinServer, if_neg other] at means
      rcases means with ⟨-, standard⟩ | ⟨-, apart⟩ | same
      · exact absurd standard other
      · exact apart
      · have lengths := congrArg List.length same
        simp at lengths
        omega
  · refine ⟨config.dropinServer.toList, ?_, ?_⟩
    · rw [lines_desiredDropin word]
      simp
    · by_cases standard : config.internalDns.port = 53
      · exact Or.inl ⟨by rw [dropinServer, if_pos standard], standard⟩
      · refine Or.inr (Or.inl ⟨?_, apart standard⟩)
        rw [dropinServer, if_neg standard]
        simp [String.toList_append]

theorem removeDropin_outcome (files : HostFiles) :
    (unreadable files.dropin = true ∧ ∃ error, removeDropin files = ⟨.error error, files, []⟩) ∨
      (unreadable files.dropin = false ∧ ∃ removed, (removeDropin files).result = .ok removed ∧
        (removeDropin files).state.resolvConf = files.resolvConf ∧
          (removeDropin files).state.backups = files.backups ∧
            (removeDropin files).state.dropinRedirect = none) := by
  rw [removeDropin_eq]
  cases there : files.resolved with
  | none => exact Or.inr ⟨by simp [unreadable, HostFiles.dropin, there], false, rfl, rfl, rfl,
      by simp [HostFiles.dropinRedirect, HostFiles.dropin, there]⟩
  | some dropin =>
      cases dropin with
      | none => exact Or.inr ⟨by simp [unreadable, HostFiles.dropin, there], false, rfl, rfl, rfl,
          by simp [HostFiles.dropinRedirect, HostFiles.dropin, there]⟩
      | some contents =>
          have found : files.dropin = some contents := by simp [HostFiles.dropin, there]
          rw [found]
          cases contents with
          | undecodable bytes => exact Or.inl ⟨rfl, _, rfl⟩
          | text chars =>
              refine Or.inr ⟨rfl, ?_⟩
              simp only [Contents.readText]
              split
              · exact ⟨true, rfl, rfl, rfl, rfl⟩
              · rename_i foreign
                refine ⟨false, rfl, rfl, rfl, ?_⟩
                simp only [HostFiles.dropinRedirect, found, Option.bind_some, Contents.redirect_text,
                  if_neg foreign]

/-- Restoring succeeds on what can be decoded, and leaves no redirect; without a usable backup the
redirect stays. -/
theorem restoreResolvConf_outcome (config : HostDnsConfig) (files : HostFiles) :
    (config.restoreResolvConf files).state.resolved = files.resolved ∧
      (config.restoreResolvConf files).state.backups = files.backups ∧
        ((config.restoreResolvConf files).state.redirect = none ↔ Restorable config files) ∧
          (Restorable config files → if unreadable files.resolvConf = true
            then (∃ error, (config.restoreResolvConf files).result = .error error)
            else ∃ changed, (config.restoreResolvConf files).result = .ok changed) := by
  rw [restoreResolvConf_eq]
  cases live : files.resolvConf with
  | none =>
      have clear : files.redirect = none := by simp [HostFiles.redirect, live]
      exact ⟨rfl, rfl, ⟨fun _ some => absurd clear some, fun _ => clear⟩, fun _ => ⟨false, rfl⟩⟩
  | some contents =>
      cases contents with
      | undecodable bytes =>
          have clear : files.redirect = none := by
            simp [HostFiles.redirect, live, Contents.redirect, Contents.readText]
          exact ⟨rfl, rfl, ⟨fun _ some => absurd clear some, fun _ => clear⟩, fun _ => ⟨_, rfl⟩⟩
      | text chars =>
          have now : files.redirect = if ours (universalNewlines chars) then some (universalNewlines chars)
              else none := by
            simp only [HostFiles.redirect, live, Option.bind_some, Contents.redirect_text]
          simp only [Option.map_some, Contents.readText]
          by_cases mine : ours (universalNewlines chars) = true
          · rw [if_pos mine] at now ⊢
            have marked : files.redirect ≠ none := by simp [now]
            cases kept : files.backups config.backupPath with
            | none =>
                have lost : ¬Restorable config files := by
                  intro restorable
                  obtain ⟨backup, found, -⟩ := restorable marked
                  cases kept.symm.trans found
                exact ⟨rfl, rfl, ⟨fun clear => absurd clear marked, fun yes => absurd yes lost⟩,
                  fun yes => absurd yes lost⟩
            | some backup =>
                have restorable : Restorable config files ↔
                    backup.readable = true ∧ backup.redirect = none := by
                  refine ⟨fun yes => ?_, fun usable _ => ⟨backup, kept, usable⟩⟩
                  obtain ⟨other, found, usable⟩ := yes marked
                  obtain rfl := Option.some.inj (kept.symm.trans found)
                  exact usable
                cases original : backup.readText with
                | error error =>
                    have lost : ¬Restorable config files := by
                      rw [restorable, Contents.readable_iff]
                      rintro ⟨⟨chars, read⟩, -⟩
                      cases original.symm.trans read
                    simp only [Option.map_some, original]
                    exact ⟨trivial, trivial, ⟨fun clear => absurd clear marked, fun yes => absurd yes lost⟩,
                      fun yes => absurd yes lost⟩
                | ok text =>
                    simp only [Option.map_some, original]
                    refine ⟨trivial, trivial, ?_, fun _ => ⟨true, rfl⟩⟩
                    rw [restorable, Contents.readable_iff]
                    simp only [HostFiles.redirect, Option.bind_some, Contents.redirect_reread original]
                    exact ⟨fun clear => ⟨⟨text, original⟩, clear⟩, fun usable => usable.2⟩
          · rw [if_neg mine] at now ⊢
            exact ⟨rfl, rfl, ⟨fun _ some => absurd now some, fun _ => now⟩, fun _ => ⟨false, rfl⟩⟩

theorem pointResolvConf_outcome (config : HostDnsConfig) (files : HostFiles) :
    (config.pointResolvConf files).state.resolved = files.resolved ∧
      (config.pointResolvConf files).state.redirect =
        if config.internalDns.port = 53 ∧ files.resolvConf ≠ none ∧ unreadable files.resolvConf = false
        then some (universalNewlines config.desiredResolvConf) else files.redirect := by
  rw [pointResolvConf_eq]
  cases live : files.resolvConf with
  | none => simp
  | some contents =>
      by_cases standard : config.internalDns.port = 53
      · cases contents with
        | undecodable bytes =>
            simp [standard, Contents.readText, unreadable, Contents.readable]
        | text chars =>
            have readable : unreadable (some (Contents.text chars)) = false := rfl
            rw [readable, if_pos ⟨standard, by simp, rfl⟩]
            simp only [Option.map_some, Contents.readText, standard, ne_eq, not_true, if_false]
            by_cases pointed : universalNewlines chars = config.desiredResolvConf
            · rw [if_pos pointed]
              refine ⟨rfl, ?_⟩
              rw [HostFiles.redirect, live, Option.bind_some]
              exact Contents.redirect_inPlace ours_desiredResolvConf pointed
            · rw [if_neg pointed]
              refine ⟨?_, ?_⟩
              · cases ours (universalNewlines chars) <;> rfl
              · simp only [HostFiles.redirect, Option.bind_some, redirect_desiredResolvConf]
      · simp [standard]

theorem writeDropin_outcome (config : HostDnsConfig) (files : HostFiles) :
    (config.writeDropin files).state.resolvConf = files.resolvConf ∧
      (config.writeDropin files).state.dropinRedirect =
        if files.resolved ≠ none ∧ unreadable files.dropin = false
        then some (universalNewlines config.desiredDropin) else none := by
  rw [writeDropin_eq]
  cases there : files.resolved with
  | none => simp [HostFiles.dropinRedirect, HostFiles.dropin, there]
  | some dropin =>
      have found : files.dropin = dropin := by simp [HostFiles.dropin, there]
      rw [found]
      cases text : dropin.map Contents.readText with
      | none =>
          obtain rfl := Option.map_eq_none_iff.mp text
          rw [if_pos ⟨by simp, rfl⟩]
          simp only [Option.map_none, reduceCtorEq, if_false]
          refine ⟨trivial, ?_⟩
          simp only [HostFiles.dropinRedirect, HostFiles.dropin, Option.bind_some, id,
            redirect_desiredDropin]
      | some read =>
          obtain ⟨contents, rfl, same⟩ := Option.map_eq_some_iff.mp text
          cases contents with
          | undecodable bytes =>
              obtain rfl := same
              refine ⟨rfl, ?_⟩
              rw [if_neg (by simp [unreadable, Contents.readable, Contents.readText])]
              simp [HostFiles.dropinRedirect, found, Contents.redirect, Contents.readText]
          | text chars =>
              obtain rfl := same
              rw [if_pos ⟨by simp, rfl⟩]
              simp only [Option.map_some, Contents.readText, Option.some.injEq, Except.ok.injEq]
              by_cases present : universalNewlines chars = config.desiredDropin
              · rw [if_pos present]
                refine ⟨rfl, ?_⟩
                rw [HostFiles.dropinRedirect, found, Option.bind_some]
                exact Contents.redirect_inPlace ours_desiredDropin present
              · rw [if_neg present]
                refine ⟨rfl, ?_⟩
                simp only [HostFiles.dropinRedirect, HostFiles.dropin, Option.bind_some, id,
                  redirect_desiredDropin]

/-! One call. -/

theorem dropinRedirect_unreadable (hidden : unreadable files.dropin = true) : files.dropinRedirect = none := by
  cases found : files.dropin with
  | none => simp [HostFiles.dropinRedirect, found]
  | some contents =>
      cases contents with
      | text chars => simp [found, unreadable, Contents.readable, Contents.readText] at hidden
      | undecodable bytes => simp [HostFiles.dropinRedirect, found, Contents.redirect, Contents.readText]

theorem redirect_readable {text : String} (found : files.redirect = some text) :
    files.resolvConf ≠ none ∧ unreadable files.resolvConf = false := by
  cases live : files.resolvConf with
  | none => simp [HostFiles.redirect, live] at found
  | some contents =>
      cases contents with
      | text chars => exact ⟨by simp, rfl⟩
      | undecodable bytes => simp [HostFiles.redirect, live, Contents.redirect, Contents.readText] at found

theorem redirect_congr {other : HostFiles} (same : other.resolvConf = files.resolvConf) :
    other.redirect = files.redirect := by
  rw [HostFiles.redirect, HostFiles.redirect, same]

theorem dropinRedirect_congr {other : HostFiles} (same : other.resolved = files.resolved) :
    other.dropinRedirect = files.dropinRedirect := by
  rw [HostFiles.dropinRedirect, HostFiles.dropinRedirect, HostFiles.dropin, HostFiles.dropin, same]

theorem removeDropin_redirects (files : HostFiles) :
    (removeDropin files).state.redirect = files.redirect ∧ (removeDropin files).state.dropinRedirect = none := by
  rcases removeDropin_outcome files with ⟨hidden, error, outcome⟩ | ⟨-, removed, -, same, -, gone⟩
  · rw [outcome]
    exact ⟨rfl, dropinRedirect_unreadable hidden⟩
  · exact ⟨redirect_congr same, gone⟩

variable {pathExists : String → Bool}

theorem redirectSafe_idle (idle : config.wanted pathExists = false) {after : HostFiles} :
    RedirectSafe config pathExists after ↔ after.redirect = none ∧ after.dropinRedirect = none := by
  refine ⟨fun safe => ⟨?_, ?_⟩, fun ⟨clear, gone⟩ => ⟨?_, ?_⟩⟩
  · refine Option.eq_none_iff_forall_ne_some.mpr fun text found => ?_
    have wanted := (safe.resolvConf text found).1
    cases idle.symm.trans wanted
  · refine Option.eq_none_iff_forall_ne_some.mpr fun text found => ?_
    have wanted := (safe.dropin text found).1
    cases idle.symm.trans wanted
  · intro text found
    cases clear.symm.trans found
  · intro text found
    cases gone.symm.trans found

theorem redirectSafe_resolvConf (wanted : config.wanted pathExists = true)
    (mode : config.hostDns = .resolvConf) {after : HostFiles} :
    RedirectSafe config pathExists after ↔ (∀ text, after.redirect = some text →
      config.internalDns.port = 53 ∧ NamesResolver text config.internalDns.listen) ∧
        after.dropinRedirect = none := by
  refine ⟨fun safe => ⟨fun text found => (safe.resolvConf text found).2.2, ?_⟩, fun ⟨served, gone⟩ =>
    ⟨fun text found => ⟨wanted, mode, served text found⟩, ?_⟩⟩
  · refine Option.eq_none_iff_forall_ne_some.mpr fun text found => ?_
    cases mode.symm.trans (safe.dropin text found).2.1
  · intro text found
    cases gone.symm.trans found

theorem redirectSafe_resolved (wanted : config.wanted pathExists = true) (mode : config.hostDns = .resolved)
    {after : HostFiles} :
    RedirectSafe config pathExists after ↔ after.redirect = none ∧ ∀ text, after.dropinRedirect = some text →
      NamesDropin text config.internalDns.listen config.internalDns.port := by
  refine ⟨fun safe => ⟨?_, fun text found => (safe.dropin text found).2.2⟩, fun ⟨clear, served⟩ =>
    ⟨?_, fun text found => ⟨wanted, mode, served text found⟩⟩⟩
  · refine Option.eq_none_iff_forall_ne_some.mpr fun text found => ?_
    cases mode.symm.trans (safe.resolvConf text found).2.1
  · intro text found
    cases clear.symm.trans found

theorem apply_idle (idle : config.wanted pathExists = false) :
    RedirectSafe config pathExists (config.apply pathExists files).state ↔
      Restorable config files ∧ (unreadable files.resolvConf = true → files.dropinRedirect = none) := by
  obtain ⟨sameDropin, -, clear, ended⟩ := restoreResolvConf_outcome config files
  rw [redirectSafe_idle idle, apply, idle, Bool.not_false, if_pos rfl]
  by_cases hidden : unreadable files.resolvConf = true
  · have nothing : files.redirect = none := by
      refine Option.eq_none_iff_forall_ne_some.mpr fun text found => ?_
      cases (redirect_readable found).2.symm.trans hidden
    have restorable : Restorable config files := fun there => absurd nothing there
    obtain ⟨error, raised⟩ : ∃ error, (config.restoreResolvConf files).result = .error error := by
      have outcome := ended restorable
      rwa [if_pos hidden] at outcome
    rw [bind_state_error raised, clear, dropinRedirect_congr sameDropin]
    exact ⟨fun safe => ⟨restorable, fun _ => safe.2⟩, fun meets => ⟨restorable, meets.2 hidden⟩⟩
  · cases outcome : (config.restoreResolvConf files).result with
    | ok restored =>
        obtain ⟨same, gone⟩ := removeDropin_redirects (config.restoreResolvConf files).state
        rw [bind_state_ok outcome, bind_pure_state, same, gone, clear]
        exact ⟨fun safe => ⟨safe.1, fun yes => absurd yes hidden⟩, fun meets => ⟨meets.1, rfl⟩⟩
    | error error =>
        have lost : ¬Restorable config files := by
          intro restorable
          have returned := ended restorable
          rw [if_neg hidden, outcome] at returned
          obtain ⟨changed, same⟩ := returned
          cases same
        rw [bind_state_error outcome, clear]
        exact ⟨fun safe => absurd safe.1 lost, fun meets => absurd meets.1 lost⟩

theorem apply_resolvConf (wanted : config.wanted pathExists = true) (mode : config.hostDns = .resolvConf) :
    RedirectSafe config pathExists (config.apply pathExists files).state ↔
      (files.redirect ≠ none → config.internalDns.port = 53) ∧
        (unreadable files.dropin = false → files.resolvConf ≠ none → unreadable files.resolvConf = false →
          config.internalDns.port = 53 → OneWord config.internalDns.listen) ∧
        (unreadable files.dropin = true → ∀ text, files.redirect = some text →
          NamesResolver text config.internalDns.listen) := by
  rw [redirectSafe_resolvConf wanted mode, apply, wanted, Bool.not_true, if_neg Bool.false_ne_true,
    if_pos mode]
  rcases removeDropin_outcome files with ⟨hidden, error, outcome⟩ | ⟨readable, removed, outcome, same, -, gone⟩
  · have raised : (removeDropin files).result = .error error := by rw [outcome]
    rw [bind_state_error raised, outcome]
    constructor
    · rintro ⟨served, -⟩
      refine ⟨fun there => ?_, fun readable => ?_, fun _ text found => (served text found).2⟩
      · obtain ⟨text, found⟩ := Option.ne_none_iff_exists'.mp there
        exact (served text found).1
      · cases hidden.symm.trans readable
    · rintro ⟨standard, -, named⟩
      refine ⟨fun text found => ⟨?_, named hidden text found⟩, dropinRedirect_unreadable hidden⟩
      exact standard (by simp [found])
  · obtain ⟨sameDropin, redirect⟩ := pointResolvConf_outcome config (removeDropin files).state
    rw [bind_state_ok outcome, bind_pure_state, redirect, dropinRedirect_congr sameDropin, gone, same,
      redirect_congr same]
    by_cases pointed : config.internalDns.port = 53 ∧ files.resolvConf ≠ none ∧
        unreadable files.resolvConf = false
    · obtain ⟨standard, there, decoded⟩ := pointed
      rw [if_pos ⟨standard, there, decoded⟩]
      constructor
      · rintro ⟨served, -⟩
        refine ⟨fun _ => standard, fun _ _ _ _ => ?_, fun hidden => ?_⟩
        · exact names_desiredResolvConf.mp (served _ rfl).2
        · cases readable.symm.trans hidden
      · rintro ⟨-, word, -⟩
        refine ⟨fun text found => ⟨standard, ?_⟩, rfl⟩
        obtain rfl := Option.some.inj found
        exact names_desiredResolvConf.mpr (word readable there decoded standard)
    · rw [if_neg pointed]
      constructor
      · rintro ⟨served, -⟩
        refine ⟨fun there => ?_, fun _ there decoded standard => ?_, fun hidden => ?_⟩
        · obtain ⟨text, found⟩ := Option.ne_none_iff_exists'.mp there
          exact (served text found).1
        · exact absurd ⟨standard, there, decoded⟩ pointed
        · cases readable.symm.trans hidden
      · rintro ⟨standard, -, -⟩
        refine ⟨fun text found => ?_, rfl⟩
        have port := standard (by simp [found])
        exact absurd ⟨port, redirect_readable found⟩ pointed

theorem apply_resolved (wanted : config.wanted pathExists = true) (mode : config.hostDns = .resolved) :
    RedirectSafe config pathExists (config.apply pathExists files).state ↔
      Restorable config files ∧
        (unreadable files.resolvConf = true → ∀ text, files.dropinRedirect = some text →
          NamesDropin text config.internalDns.listen config.internalDns.port) ∧
        (unreadable files.resolvConf = false → files.resolved ≠ none → unreadable files.dropin = false →
          OneWord config.internalDns.listen ∧
            (config.internalDns.port ≠ 53 → ':' ∉ config.internalDns.listen.toList)) := by
  obtain ⟨sameDropin, -, clear, ended⟩ := restoreResolvConf_outcome config files
  have other : config.hostDns ≠ .resolvConf := by rw [mode]; exact nofun
  rw [redirectSafe_resolved wanted mode, apply, wanted, Bool.not_true, if_neg Bool.false_ne_true, if_neg other]
  cases outcome : (config.restoreResolvConf files).result with
  | error error =>
      rw [bind_state_error outcome, clear, dropinRedirect_congr sameDropin]
      by_cases hidden : unreadable files.resolvConf = true
      · refine ⟨fun safe => ⟨safe.1, fun _ => safe.2, fun decoded => ?_⟩, fun meets => ⟨meets.1, meets.2.1 hidden⟩⟩
        cases hidden.symm.trans decoded
      · have lost : ¬Restorable config files := by
          intro restorable
          have returned := ended restorable
          rw [if_neg hidden, outcome] at returned
          obtain ⟨changed, same⟩ := returned
          cases same
        exact ⟨fun safe => absurd safe.1 lost, fun meets => absurd meets.1 lost⟩
  | ok restored =>
      obtain ⟨sameConf, redirect⟩ := writeDropin_outcome config (config.restoreResolvConf files).state
      rw [bind_state_ok outcome, bind_pure_state, redirect_congr sameConf, clear, redirect, sameDropin,
        HostFiles.dropin, sameDropin, ← HostFiles.dropin]
      refine and_congr_right fun restorable => ?_
      have decoded : unreadable files.resolvConf = false := by
        rw [Bool.eq_false_iff]
        intro hidden
        have raised := ended restorable
        rw [if_pos hidden, outcome] at raised
        obtain ⟨error, same⟩ := raised
        cases same
      by_cases written : files.resolved ≠ none ∧ unreadable files.dropin = false
      · rw [if_pos written]
        refine ⟨fun named => ⟨fun hidden => ?_, fun _ _ _ => ?_⟩, fun meets text found => ?_⟩
        · cases decoded.symm.trans hidden
        · exact names_desiredDropin.mp (named _ rfl)
        · obtain rfl := Option.some.inj found
          exact names_desiredDropin.mpr (meets.2 decoded written.1 written.2)
      · rw [if_neg written]
        refine ⟨fun _ => ⟨fun hidden => ?_, fun _ there readable => ?_⟩, fun _ text found => ?_⟩
        · cases decoded.symm.trans hidden
        · exact absurd ⟨there, readable⟩ written
        · cases found

theorem restore_iff :
    RestoreSafe config (config.restore files).state ↔ RestoreMeets config files := by
  obtain ⟨sameDropin, sameBackups, clear, -⟩ := restoreResolvConf_outcome config files
  rw [RestoreSafe, RestoreMeets, restore, bind_pure_state, sameBackups, clear, dropinRedirect_congr sameDropin]

theorem apply_iff :
    RedirectSafe config pathExists (config.apply pathExists files).state ↔
      ApplyMeets config pathExists files := by
  cases wanted : config.wanted pathExists with
  | false =>
      rw [apply_idle wanted]
      refine ⟨fun meets => ⟨fun _ => meets, fun other => ?_, fun other => ?_⟩, fun meets => meets.idle wanted⟩
      · cases wanted.symm.trans other
      · cases wanted.symm.trans other
  | true =>
      have awake : config.wanted pathExists ≠ false := by simp [wanted]
      cases mode : config.hostDns with
      | off => simp [HostDnsConfig.wanted, mode] at wanted
      | resolvConf =>
          rw [apply_resolvConf wanted mode]
          refine ⟨fun meets => ⟨fun idle => absurd idle awake, fun _ _ => meets, fun _ other => ?_⟩,
            fun meets => meets.resolvConf wanted mode⟩
          cases mode.symm.trans other
      | resolved =>
          rw [apply_resolved wanted mode]
          refine ⟨fun meets => ⟨fun idle => absurd idle awake, fun _ other => ?_, fun _ _ => meets⟩,
            fun meets => meets.resolved wanted mode⟩
          cases mode.symm.trans other

theorem call_iff (files : HostFiles) (call : HostDnsCall) :
    SafeAfterCall (files.call call) call ↔ CallMeets files call := by
  cases call with
  | apply config pathExists => exact apply_iff
  | restore config => exact restore_iff
  | hostWrites contents => exact Iff.rfl

/-- From any files, after every call the redirects are safe if and only if the files before each call
meet its condition. -/
theorem redirects_iff (files : HostFiles) (calls : List HostDnsCall) :
    AfterEach HostFiles.call SafeAfterCall files calls ↔ Throughout HostFiles.call CallMeets files calls :=
  throughout_iff call_iff files calls

end

def HostDnsCall.Valid : HostDnsCall → Prop
  | .apply config _ => config.toAppConfig.Valid
  | .restore config => config.toAppConfig.Valid
  | .hostWrites _ => True

/-- `redirecting` with another port. -/
def movedPort : HostDnsConfig :=
  { redirecting with internalDns := { resolverEnabled := true, port := 5353 } }

def lanHost : HostFiles where
  resolvConf := some lanResolver

def movedPortCalls : List HostDnsCall :=
  [.apply redirecting fun _ => false, .apply movedPort fun _ => false]

def movedHost : HostFiles :=
  (lanHost.call (.apply redirecting fun _ => false)).call (.apply movedPort fun _ => false)

example : (movedHost.redirect).isSome = true := by decide +kernel

theorem redirecting_valid : redirecting.toAppConfig.Valid := ⟨fun _ => false, by decide +kernel⟩

theorem movedPort_valid : movedPort.toAppConfig.Valid := ⟨fun _ => false, by decide +kernel⟩

theorem movedPort_keepsRedirect :
    ¬∀ (files : HostFiles) (calls : List HostDnsCall), (∀ call ∈ calls, call.Valid) →
      AfterEach HostFiles.call SafeAfterCall files calls := by
  intro safe
  have valid : ∀ call ∈ movedPortCalls, call.Valid := by
    simp only [movedPortCalls, List.forall_mem_cons, HostDnsCall.Valid]
    exact ⟨redirecting_valid, movedPort_valid, List.forall_mem_nil _⟩
  have second : RedirectSafe movedPort (fun _ => false) movedHost := (safe lanHost movedPortCalls valid).2.1
  have text : movedHost.redirect = some redirecting.desiredResolvConf := by decide +kernel
  have port := (second.resolvConf _ text).2.2.1
  exact absurd port (by decide)

end Korserver
