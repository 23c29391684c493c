import Korserver.HostDnsCore

/-!
What the parts of the host DNS service do to the files, case by case.
-/

namespace Korserver

open Effects Effects.Program PythonText PythonValue

theorem universalNewlinesFrom_append {plain : List Char} (none : '\r' ∉ plain) (rest : List Char) :
    universalNewlinesFrom (plain ++ rest) = plain ++ universalNewlinesFrom rest := by
  induction plain with
  | nil => rfl
  | cons c later ih =>
      simp only [List.mem_cons, not_or] at none
      rw [List.cons_append, universalNewlinesFrom, ih none.2, List.cons_append]
      · exact fun _ same => absurd same.symm none.1
      · exact fun same => absurd same.symm none.1

example : universalNewlinesFrom ['a', '\r', '\n', '\r'] = ['a', '\n', '\n'] := by decide +kernel

theorem universalNewlinesFrom_plain {chars : List Char} (none : '\r' ∉ chars) :
    universalNewlinesFrom chars = chars := by
  have whole := universalNewlinesFrom_append none []
  rwa [List.append_nil, universalNewlinesFrom, List.append_nil] at whole

theorem return_notMem_universalNewlinesFrom (chars : List Char) : '\r' ∉ universalNewlinesFrom chars := by
  fun_induction universalNewlinesFrom chars with
  | case1 => simp
  | case2 rest ih => simp [ih]
  | case3 rest _ ih => simp [ih]
  | case4 c rest _ notReturn ih =>
      simp only [List.mem_cons, not_or]
      exact ⟨fun same => notReturn same.symm, ih⟩

theorem universalNewlines_idem (text : String) :
    universalNewlines (universalNewlines text) = universalNewlines text := by
  rw [universalNewlines, universalNewlines, String.toList_ofList,
    universalNewlinesFrom_plain (return_notMem_universalNewlinesFrom _)]

theorem universalNewlinesFrom_line (before rest : List Char) :
    ∃ read, universalNewlinesFrom (before ++ '\n' :: rest) = read ++ '\n' :: universalNewlinesFrom rest := by
  fun_induction universalNewlinesFrom before with
  | case1 => exact ⟨[], by simp [universalNewlinesFrom]⟩
  | case2 later ih =>
      obtain ⟨read, same⟩ := ih
      exact ⟨'\n' :: read, by rw [List.cons_append, List.cons_append, universalNewlinesFrom, same]; rfl⟩
  | case3 later notFeed ih =>
      cases later with
      | nil => exact ⟨[], by simp [universalNewlinesFrom]⟩
      | cons d more =>
          obtain ⟨read, same⟩ := ih
          refine ⟨'\n' :: read, ?_⟩
          rw [List.cons_append, List.cons_append, universalNewlinesFrom, ← List.cons_append, same,
            List.cons_append]
          exact fun _ feed => notFeed more (by rw [(List.cons.inj feed).1])
  | case4 c later notPair notReturn ih =>
      obtain ⟨read, same⟩ := ih
      refine ⟨c :: read, ?_⟩
      rw [List.cons_append, universalNewlinesFrom, same]
      · rfl
      · exact fun _ same => absurd same notReturn
      · exact notReturn

theorem ours_marked (rest : String) : ours (universalNewlines (mark ++ rest)) = true := by
  have plain : '\r' ∉ mark.toList := by decide
  rw [ours, universalNewlines, String.toList_append, universalNewlinesFrom_append plain, decide_eq_true_eq,
    String.toList_ofList]
  exact (List.prefix_append _ _).isInfix

namespace HostDnsConfig

variable {config : HostDnsConfig} {files : HostFiles}

theorem ours_desiredResolvConf : ours (universalNewlines config.desiredResolvConf) = true := by
  simp only [desiredResolvConf, String.append_assoc]
  exact ours_marked _

/-- `_restore_resolv_conf`: everything stays as it is, unless the file is korserver's and there is a
backup. -/
theorem restoreResolvConf_eq (config : HostDnsConfig) (files : HostFiles) :
    config.restoreResolvConf files =
      match files.resolvConf.map Contents.readText with
      | none => ⟨.ok false, files, []⟩
      | some (.error error) => ⟨.error error, files, []⟩
      | some (.ok current) =>
          if ours current = true then
            match (files.backups config.backupPath).map Contents.readText with
            | none => ⟨.ok false, files, []⟩
            | some (.error error) => ⟨.error error, files, []⟩
            | some (.ok original) =>
                ⟨.ok true, { files with resolvConf := some (.text original) },
                  [.truncateResolvConf, .writeResolvConf original]⟩
          else ⟨.ok false, files, []⟩ := by
  cases live : files.resolvConf with
  | none => simp [restoreResolvConf, bind_run, read_run, pure_run, live]
  | some contents =>
      cases text : contents.readText with
      | error error =>
          simp [restoreResolvConf, readContents, bind_run, read_run, fromExcept_run, live, text]
      | ok current =>
          by_cases mine : ours current = true
          · cases kept : files.backups config.backupPath with
            | none =>
                simp [restoreResolvConf, readContents, bind_run, read_run, fromExcept_run, pure_run,
                  live, text, mine, kept]
            | some backup =>
                cases original : backup.readText <;>
                  simp [restoreResolvConf, readContents, writeInPlace, change, HostFiles.perform, bind_run,
                    read_run, fromExcept_run, pure_run, live, text, mine, kept, original]
          · simp [restoreResolvConf, readContents, bind_run, read_run, fromExcept_run, pure_run, live, text,
              mine]

theorem removeDropin_eq (files : HostFiles) :
    removeDropin files =
      match files.resolved with
      | some (some contents) =>
          match contents.readText with
          | .error error => ⟨.error error, files, []⟩
          | .ok current =>
              if ours current = true then ⟨.ok true, { files with resolved := some none }, [.unlinkDropin]⟩
              else ⟨.ok false, files, []⟩
      | _ => ⟨.ok false, files, []⟩ := by
  cases there : files.resolved with
  | none => simp [removeDropin, bind_run, read_run, pure_run, there]
  | some dropin =>
      cases dropin with
      | none => simp [removeDropin, bind_run, read_run, pure_run, there]
      | some contents =>
          cases text : contents.readText with
          | error error => simp [removeDropin, readContents, bind_run, read_run, fromExcept_run, there, text]
          | ok current =>
              by_cases mine : ours current = true <;>
                simp [removeDropin, readContents, change, HostFiles.perform, bind_run, read_run,
                  fromExcept_run, pure_run, there, text, mine]

/-- What the file holds before korserver points it at dnsmasq goes into the backup, unless it is
korserver's own. -/
theorem pointResolvConf_eq (config : HostDnsConfig) (files : HostFiles) :
    config.pointResolvConf files =
      match files.resolvConf.map Contents.readText with
      | none =>
          ⟨.ok (config.answer false resolvConfUnmounted), files, []⟩
      | some text =>
          if config.internalDns.port ≠ 53 then
            ⟨.ok (config.answer false portNotStandard), files, []⟩
          else match text with
            | .error error => ⟨.error error, files, []⟩
            | .ok current =>
                if current = config.desiredResolvConf then
                  ⟨.ok (config.answer false resolvConfInPlace), files, []⟩
                else
                  let backup := if ours current then [] else [.replaceBackup config.backupPath current]
                  let kept := backup.foldl HostFiles.perform files
                  ⟨.ok (config.answer true resolvConfPointed),
                    { kept with resolvConf := some (.text config.desiredResolvConf) },
                    backup ++ [.truncateResolvConf, .writeResolvConf config.desiredResolvConf]⟩ := by
  cases live : files.resolvConf with
  | none => simp [pointResolvConf, bind_run, read_run, pure_run, live]
  | some contents =>
      by_cases standard : config.internalDns.port = 53
      · cases text : contents.readText with
        | error error =>
            simp [pointResolvConf, readContents, bind_run, read_run, fromExcept_run, live, text, standard]
        | ok current =>
            by_cases same : current = config.desiredResolvConf
            · simp [pointResolvConf, readContents, bind_run, read_run, fromExcept_run, pure_run, live, text,
                standard, same]
            · cases mine : ours current <;>
                simp [pointResolvConf, readContents, writeInPlace, change, Program.when, HostFiles.perform,
                  bind_run, read_run, fromExcept_run, pure_run, live, text, standard, same, mine]
      · simp [pointResolvConf, bind_run, read_run, pure_run, live, standard]

theorem writeDropin_eq (config : HostDnsConfig) (files : HostFiles) :
    config.writeDropin files =
      match files.resolved with
      | none =>
          ⟨.ok (config.answer false resolvedUnmounted), files, []⟩
      | some dropin =>
          match dropin.map Contents.readText with
          | some (.error error) => ⟨.error error, files, []⟩
          | present =>
              if present = some (.ok config.desiredDropin) then
                ⟨.ok (config.answer false dropinInPlace), files, []⟩
              else
                ⟨.ok (config.answer true dropinWritten),
                  { files with resolved := some (some (.text config.desiredDropin)) },
                  [.replaceDropin config.desiredDropin]⟩ := by
  cases there : files.resolved with
  | none => simp [writeDropin, bind_run, read_run, pure_run, there]
  | some dropin =>
      cases dropin with
      | none => simp [writeDropin, change, HostFiles.perform, bind_run, read_run, pure_run, there]
      | some contents =>
          cases text : contents.readText with
          | error error => simp [writeDropin, readContents, bind_run, read_run, fromExcept_run, there, text]
          | ok current =>
              by_cases same : current = config.desiredDropin <;>
                simp [writeDropin, readContents, change, HostFiles.perform, bind_run, read_run,
                  fromExcept_run, pure_run, there, text, same]

end HostDnsConfig

end Korserver
