import Korserver.Connections
import Korserver.HexText
import Korserver.TextParts

/-!
Reading back the marker file that `switch_profile` writes. A name is read as itself, unless it
ends in the line break that the `$` of its pattern lets through.
-/

namespace Korserver

open PythonText PythonValue

theorem nameChar_visible {c : Char} (letter : isNameChar c = true) :
    isSpace c = false ∧ isLineBreak c = false := by
  simp only [isNameChar, Bool.or_eq_true, beq_iff_eq] at letter
  rcases letter with ((alnum | rfl) | rfl) | rfl
  · have range := isAlnum_range alnum
    exact visible_of_range (by omega) (by omega)
  all_goals decide

theorem isNameChar_of_alnum {c : Char} (letter : isAlnum c = true) : isNameChar c = true := by
  simp [isNameChar, letter]

theorem name_chars {name : String} (matched : matchesIdentifier isAlnum isNameChar 63 name = true) :
    beforeDollar name.toList ≠ [] ∧ ∀ c ∈ beforeDollar name.toList, isNameChar c = true :=
  matchesIdentifier_body (fun _ => isNameChar_of_alnum) matched

theorem markerLines_name {name : String}
    (matched : matchesIdentifier isAlnum isNameChar 63 name = true) :
    markerLines (markerOf name) = .ok
      (if name.toList.getLast? = some '\n' then [String.ofList (beforeDollar name.toList), ""]
      else [name]) := by
  have chars := (name_chars matched).2
  have whole : ∀ c ∈ beforeDollar name.toList, isLineBreak c = false :=
    fun c member => (nameChar_visible (chars c member)).2
  rw [markerOf, markerLines, splitLines, String.toList_append]
  split
  · rename_i newline
    have body : beforeDollar name.toList = name.toList.dropLast := by rw [beforeDollar, if_pos newline]
    have text : name.toList = beforeDollar name.toList ++ ['\n'] := by
      rw [body, List.dropLast_append_getLast? '\n' newline]
    have parts := splitLinesFrom_line whole ['\n'] []
    rw [← List.singleton_append, ← List.append_assoc, ← text] at parts
    change Except.ok ((splitLinesFrom (name.toList ++ ['\n']) []).map String.ofList) = _
    rw [parts]
    rfl
  · rename_i plain
    have body : beforeDollar name.toList = name.toList := by rw [beforeDollar, if_neg plain]
    rw [body] at whole
    change Except.ok ((splitLinesFrom (name.toList ++ '\n' :: []) []).map String.ofList) = _
    rw [splitLinesFrom_line whole]
    simp [splitLinesFrom]

theorem strip_word {text : String} (letters : ∀ c ∈ text.toList, isNameChar c = true) :
    strip text = text := by
  rw [strip, stripChars_none fun c member => (nameChar_visible (letters c member)).1, String.ofList_toList]

theorem runtimeProfile_lines {config : AppConfig} {marker : TextFile} {lines : List String}
    (read : markerLines marker = .ok lines) :
    runtimeProfile config marker = .ok (match markedProfile config.upstream lines with
      | some profile => if profile.enabled then some profile else none
      | none => config.upstream.selectedProfile) := by
  unfold runtimeProfile
  rw [read]
  simp only [bind, Except.bind, pure, Except.pure]
  cases markedProfile config.upstream lines <;> rfl

theorem markedProfile_blank (upstream : UpstreamConfig) : markedProfile upstream [""] = none := by
  have blank : truthy (some (strip "")) = none := by decide +kernel
  simp only [markedProfile, blank, Option.bind_none]

/-- The profile's name, written to the marker, is read as the profile's. -/
def NamesItself (config : AppConfig) (profile : UpstreamProfileConfig) : Prop :=
  profile.name.toList.getLast? ≠ some '\n' ∨
    (profileNamed config.upstream (String.ofList (beforeDollar profile.name.toList)) = none ∧
      config.upstream.selectedProfile = some profile)

section

variable {config : AppConfig} (facts : config.Facts) {profile : UpstreamProfileConfig}
  (member : profile ∈ config.upstream.profiles)

include facts member

theorem profileNamed_member : profileNamed config.upstream profile.name = some profile := by
  have some : (config.upstream.profiles.reverse.find? (·.name = profile.name)).isSome = true :=
    List.find?_isSome.mpr ⟨profile, List.mem_reverse.mpr member, by simp⟩
  obtain ⟨other, found⟩ := Option.isSome_iff_exists.mp some
  have same : other.name = profile.name := by simpa using List.find?_some found
  have inProfiles := List.mem_reverse.mp (List.mem_of_find?_eq_some found)
  rw [profileNamed, found, facts.profile_unique_name inProfiles member same]

theorem name_valid : matchesIdentifier isAlnum isNameChar 63 profile.name = true :=
  (UpstreamProfileConfig.validate_ok (facts.profiles profile member)).1

omit facts member in
theorem markedProfile_word {body : String} (letters : ∀ c ∈ body.toList, isNameChar c = true)
    (some : body ≠ "") (rest : List String) :
    markedProfile config.upstream (body :: rest) =
      (profileNamed config.upstream body).or (markedProfile config.upstream rest) := by
  have named : truthy (Option.some (strip body)) = Option.some body := by
    rw [strip_word letters]
    exact if_neg some
  rw [markedProfile, named, Option.bind_some]
  cases profileNamed config.upstream body <;> rfl

theorem markedProfile_newline (newline : profile.name.toList.getLast? = some '\n') {body : String}
    (isBody : body = String.ofList (beforeDollar profile.name.toList)) :
    markedProfile config.upstream [body, ""] = profileNamed config.upstream body ∧ body ≠ profile.name := by
  obtain ⟨nonempty, letters⟩ := name_chars (name_valid facts member)
  have chars : body.toList = beforeDollar profile.name.toList := by rw [isBody, String.toList_ofList]
  rw [← chars] at letters nonempty
  have word : body ≠ "" := by
    rintro rfl
    exact nonempty rfl
  refine ⟨by rw [markedProfile_word letters word, markedProfile_blank, Option.or_none], ?_⟩
  rintro rfl
  exact absurd (letters '\n' (List.mem_of_getLast? newline)) (by decide)

theorem runtimeProfile_newline (newline : profile.name.toList.getLast? = some '\n') {body : String}
    (isBody : body = String.ofList (beforeDollar profile.name.toList)) :
    runtimeProfile config (markerOf profile.name) =
      .ok (match profileNamed config.upstream body with
        | some other => if other.enabled then some other else none
        | none => config.upstream.selectedProfile) ∧ body ≠ profile.name := by
  have read := markerLines_name (name_valid facts member)
  rw [if_pos newline, ← isBody] at read
  obtain ⟨marked, different⟩ := markedProfile_newline facts member newline isBody
  rw [runtimeProfile_lines read, marked]
  exact ⟨rfl, different⟩

theorem markedProfile_plain (plain : profile.name.toList.getLast? ≠ some '\n') :
    markedProfile config.upstream [profile.name] = some profile := by
  have letters := (name_chars (name_valid facts member)).2
  rw [beforeDollar, if_neg plain] at letters
  rw [markedProfile_word letters (matchesIdentifier_ne (name_valid facts member)),
    profileNamed_member facts member, Option.some_or]

theorem runtimeProfile_plain (plain : profile.name.toList.getLast? ≠ some '\n')
    (enabled : profile.enabled = true) :
    runtimeProfile config (markerOf profile.name) = .ok (some profile) := by
  have read := markerLines_name (name_valid facts member)
  rw [if_neg plain] at read
  rw [runtimeProfile_lines read, markedProfile_plain facts member plain]
  simp only [enabled, if_true]

/-- After a switch to an enabled profile it is selected exactly when its name is read back. -/
theorem runtimeProfile_markerOf (enabled : profile.enabled = true) :
    runtimeProfile config (markerOf profile.name) = .ok (some profile) ↔ NamesItself config profile := by
  by_cases newline : profile.name.toList.getLast? = some '\n'
  · obtain ⟨read, different⟩ := runtimeProfile_newline facts member newline rfl
    rw [read, NamesItself]
    cases named : profileNamed config.upstream (String.ofList (beforeDollar profile.name.toList)) with
    | some other =>
        have otherName : other.name = String.ofList (beforeDollar profile.name.toList) := by
          simpa using List.find?_some named
        have differs : other ≠ profile := by
          rintro rfl
          exact different otherName.symm
        constructor
        · intro same
          have same := Except.ok.inj same
          simp only at same
          split at same
          · exact absurd (Option.some.inj same) differs
          · simp at same
        · rintro (plain | ⟨none, -⟩)
          · exact absurd newline plain
          · simp at none
    | none => simp [newline]
  · exact iff_of_true (runtimeProfile_plain facts member newline enabled) (Or.inl newline)

end

end Korserver
