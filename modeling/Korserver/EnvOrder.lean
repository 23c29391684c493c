import Korserver.ConfigPrecedence

/-!
When the overrides from the environment do not depend on the order of the variables: what a variable
leaves in the tree, and what is in the tree after all of them.
-/

namespace Korserver

open PythonValue

inductive TreeStep
  | key (name : String)
  | item (index : Nat)
  deriving DecidableEq

def shapeOf : Json → Json
  | .dict _ => .dict []
  | .list items => .list (items.map fun _ => .null)
  | value => value

def shapeAt : List TreeStep → Json → Option Json
  | [], value => some (shapeOf value)
  | .key name :: steps, .dict entries => (dictGet name entries).bind (shapeAt steps)
  | .item index :: steps, .list items => items[index]?.bind (shapeAt steps)
  | _ :: _, _ => none

def SameTree (first second : Json) : Prop := ∀ steps, shapeAt steps first = shapeAt steps second

def SameOutcome : Except PyError (List (String × Json)) → Except PyError (List (String × Json)) → Prop
  | .error _, .error _ => True
  | .ok first, .ok second => SameTree (.dict first) (.dict second)
  | _, _ => False

def keySteps (path : List String) : List TreeStep := path.map .key

/-- Where the path of one override begins with the path of another, the value of that one holds the
same at the rest of the path. -/
def OverridesAgree (first second : List String × Json) : Prop :=
  ∀ rest, second.1 = first.1 ++ rest →
    ∀ steps, shapeAt (keySteps rest ++ steps) first.2 = shapeAt steps second.2

theorem shapeAt_mapping {steps more : List TreeStep} {name : String} {value : Json}
    (found : shapeAt (steps ++ .key name :: more) value ≠ none) :
    shapeAt steps value = some (.dict []) := by
  induction steps generalizing value with
  | nil =>
      cases value with
      | dict entries => rfl
      | _ => exact absurd rfl found
  | cons step steps ih =>
      cases step with
      | key other =>
          cases value with
          | dict entries =>
              rw [List.cons_append, shapeAt] at found
              rw [shapeAt]
              cases held : dictGet other entries with
              | none => rw [held] at found; exact absurd rfl found
              | some child =>
                  rw [held] at found
                  exact ih found
          | _ => exact absurd rfl found
      | item index =>
          cases value with
          | list items =>
              rw [List.cons_append, shapeAt] at found
              rw [shapeAt]
              cases held : items[index]? with
              | none => rw [held] at found; exact absurd rfl found
              | some child =>
                  rw [held] at found
                  exact ih found
          | _ => exact absurd rfl found

/-! One override. -/

section

variable {key : String} {value : Json}

/-- The walk goes through where every step of it is a mapping or is not there yet. -/
def Passable (path : List String) (current : List (String × Json)) : Prop :=
  ∀ front name rest, path = front ++ name :: rest → front ≠ [] →
    shapeAt (keySteps front) (.dict current) = none ∨
      shapeAt (keySteps front) (.dict current) = some (.dict [])

theorem shapeAt_empty {steps : List TreeStep} (nonempty : steps ≠ []) : shapeAt steps (.dict []) = none := by
  match steps with
  | [] => exact absurd rfl nonempty
  | .key name :: rest => rfl
  | .item index :: rest => rfl

theorem setOverride_two (first second : String) (path : List String) (current : List (String × Json)) :
    setOverride key value (first :: second :: path) current =
      match dictGet first current with
      | some (.dict child) => do
          let child ← setOverride key value (second :: path) child
          return dictSet first (.dict child) current
      | some _ => .error (.valueError ("conflicting environment override at " ++ key))
      | none => do
          let child ← setOverride key value (second :: path) []
          return dictSet first (.dict child) current := rfl

theorem setOverride_passes {path : List String} {current : List (String × Json)}
    (passable : Passable path current) : ∃ after, setOverride key value path current = .ok after := by
  induction path generalizing current with
  | nil => exact ⟨current, rfl⟩
  | cons first path ih =>
      cases path with
      | nil => exact ⟨_, rfl⟩
      | cons second path =>
          rw [setOverride_two]
          have below {child : List (String × Json)} (held : dictGet first current = some (.dict child)) :
              Passable (second :: path) child := by
            intro front name rest whole nonempty
            have here := passable (first :: front) name rest (by rw [whole]; rfl) (by simp)
            simpa only [keySteps, List.map_cons, shapeAt, held, Option.bind_some] using here
          have fresh : Passable (second :: path) [] := by
            intro front name rest _ nonempty
            exact Or.inl (shapeAt_empty (by simpa [keySteps] using nonempty))
          have start := passable [first] second path rfl (by simp)
          simp only [keySteps, List.map_cons, List.map_nil, shapeAt] at start
          cases held : dictGet first current with
          | none =>
              obtain ⟨child, made⟩ := ih fresh
              exact ⟨_, by simp only [made]; rfl⟩
          | some old =>
              cases old with
              | dict entries =>
                  obtain ⟨child, made⟩ := ih (below held)
                  exact ⟨_, by simp only [made]; rfl⟩
              | _ => rw [held] at start; simp [shapeOf] at start

theorem keySteps_cons (name : String) (path : List String) :
    keySteps (name :: path) = .key name :: keySteps path := rfl

theorem keySteps_append (front back : List String) :
    keySteps (front ++ back) = keySteps front ++ keySteps back := List.map_append ..

theorem shapeAt_dictSet (name : String) (child : Json) (current : List (String × Json))
    (steps : List TreeStep) :
    shapeAt (.key name :: steps) (.dict (dictSet name child current)) = shapeAt steps child := by
  rw [shapeAt, dictGet_dictSet_same, Option.bind_some]

theorem shapeAt_dictSet_other {name : String} {step : TreeStep} (other : step ≠ .key name) (child : Json)
    (current : List (String × Json)) (steps : List TreeStep) :
    shapeAt (step :: steps) (.dict (dictSet name child current)) = shapeAt (step :: steps) (.dict current) := by
  cases step with
  | key found => rw [shapeAt, shapeAt, dictGet_dictSet_other fun same => other (by rw [same])]
  | item index => rfl

theorem setOverride_cons {first second : String} {path : List String} {current after : List (String × Json)}
    (set : setOverride key value (first :: second :: path) current = .ok after) :
    ∃ old child, setOverride key value (second :: path) old = .ok child ∧
      after = dictSet first (.dict child) current ∧
        ∀ steps, steps ≠ [] → shapeAt steps (.dict old) = shapeAt (.key first :: steps) (.dict current) := by
  rw [setOverride_two] at set
  cases held : dictGet first current with
  | none =>
      rw [held] at set
      obtain ⟨child, made, same⟩ := bind_ok.mp set
      obtain rfl := pure_ok.mp same
      refine ⟨[], child, made, rfl, fun steps nonempty => ?_⟩
      rw [shapeAt, held, shapeAt_empty nonempty]
      rfl
  | some found =>
      rw [held] at set
      cases found with
      | dict entries =>
          obtain ⟨child, made, same⟩ := bind_ok.mp set
          obtain rfl := pure_ok.mp same
          exact ⟨entries, child, made, rfl, fun steps _ => by rw [shapeAt, held, Option.bind_some]⟩
      | _ => nomatch set

theorem shapeAt_set {path : List String} (nonempty : path ≠ []) {current after : List (String × Json)}
    (set : setOverride key value path current = .ok after) (steps : List TreeStep) :
    shapeAt (keySteps path ++ steps) (.dict after) = shapeAt steps value := by
  induction path generalizing current after with
  | nil => exact absurd rfl nonempty
  | cons first path ih =>
      cases path with
      | nil =>
          obtain rfl := Except.ok.inj set
          exact shapeAt_dictSet ..
      | cons second path =>
          obtain ⟨old, child, made, rfl, -⟩ := setOverride_cons set
          rw [keySteps_cons, List.cons_append, shapeAt_dictSet]
          exact ih (by simp) made

theorem shapeAt_set_above {front back : List String} (nonempty : back ≠ []) {current after : List (String × Json)}
    (set : setOverride key value (front ++ back) current = .ok after) :
    shapeAt (keySteps front) (.dict after) = some (.dict []) := by
  obtain ⟨name, rest, rfl⟩ := List.exists_cons_of_ne_nil nonempty
  cases front with
  | nil => rfl
  | cons first front =>
      have here := shapeAt_set (by simp) set
      induction front generalizing first current after with
      | nil =>
          obtain ⟨old, child, made, rfl, -⟩ := setOverride_cons set
          exact shapeAt_dictSet ..
      | cons second front ih =>
          obtain ⟨old, child, made, rfl, -⟩ := setOverride_cons set
          rw [keySteps_cons, shapeAt_dictSet]
          exact ih second made (shapeAt_set (by simp) made)

theorem shapeAt_set_apart {path : List String} {current after : List (String × Json)}
    (set : setOverride key value path current = .ok after) {steps : List TreeStep}
    (notBelow : ¬keySteps path <+: steps) (notAbove : ¬steps <+: keySteps path) :
    shapeAt steps (.dict after) = shapeAt steps (.dict current) := by
  induction path generalizing current after steps with
  | nil => exact absurd (List.nil_prefix) notBelow
  | cons first path ih =>
      cases steps with
      | nil => exact absurd (List.nil_prefix) notAbove
      | cons step steps =>
          by_cases same : step = .key first
          · subst same
            rw [keySteps_cons, List.cons_prefix_cons] at notBelow notAbove
            simp only [true_and] at notBelow notAbove
            cases path with
            | nil => exact absurd (List.nil_prefix) notBelow
            | cons second path =>
                obtain ⟨old, child, made, rfl, kept⟩ := setOverride_cons set
                have nonempty : steps ≠ [] := fun empty => notAbove (empty ▸ List.nil_prefix)
                rw [shapeAt_dictSet, ih made notBelow notAbove, kept steps nonempty]
          · cases path with
            | nil =>
                obtain rfl := Except.ok.inj set
                exact shapeAt_dictSet_other same ..
            | cons second path =>
                obtain ⟨old, child, made, rfl, -⟩ := setOverride_cons set
                exact shapeAt_dictSet_other same ..

end

/-- What is in the tree: the values at and below their paths, mappings above them, and nothing else. -/
def Holds (overrides : List (List String × Json)) (tree : List (String × Json)) : Prop :=
  (∀ override ∈ overrides, ∀ steps,
    shapeAt (keySteps override.1 ++ steps) (.dict tree) = shapeAt steps override.2) ∧
  ∀ steps, (∀ override ∈ overrides, ¬keySteps override.1 <+: steps) →
    ((steps = [] ∨ ∃ override ∈ overrides, steps <+: keySteps override.1) →
      shapeAt steps (.dict tree) = some (.dict [])) ∧
    (¬(steps = [] ∨ ∃ override ∈ overrides, steps <+: keySteps override.1) →
      shapeAt steps (.dict tree) = none)

theorem holds_empty : Holds [] [] := by
  refine ⟨by simp, fun steps _ => ⟨?_, ?_⟩⟩
  · rintro (rfl | ⟨override, member, -⟩)
    · rfl
    · simp at member
  · intro nothing
    exact shapeAt_empty fun empty => nothing (Or.inl empty)

theorem Holds.same {overrides others : List (List String × Json)} {first second : List (String × Json)}
    (holds : Holds overrides first) (other : Holds others second)
    (same : ∀ override, override ∈ overrides ↔ override ∈ others) : SameTree (.dict first) (.dict second) := by
  intro steps
  by_cases below : ∃ override ∈ overrides, keySteps override.1 <+: steps
  · obtain ⟨override, member, rest, rfl⟩ := below
    rw [holds.1 override member, other.1 override ((same override).mp member)]
  · have free : ∀ override ∈ overrides, ¬keySteps override.1 <+: steps :=
      fun override member whole => below ⟨override, member, whole⟩
    have otherFree : ∀ override ∈ others, ¬keySteps override.1 <+: steps :=
      fun override member => free override ((same override).mpr member)
    have reached : (steps = [] ∨ ∃ override ∈ overrides, steps <+: keySteps override.1) ↔
        (steps = [] ∨ ∃ override ∈ others, steps <+: keySteps override.1) := by
      simp only [same]
    by_cases above : steps = [] ∨ ∃ override ∈ overrides, steps <+: keySteps override.1
    · rw [(holds.2 steps free).1 above, (other.2 steps otherFree).1 (reached.mp above)]
    · rw [(holds.2 steps free).2 above, (other.2 steps otherFree).2 (mt reached.mpr above)]

theorem keySteps_prefix {first second : List String} (before : keySteps first <+: keySteps second) :
    ∃ rest, second = first ++ rest := by
  induction first generalizing second with
  | nil => exact ⟨second, rfl⟩
  | cons name first ih =>
      cases second with
      | nil => exact absurd (List.prefix_nil.mp before) (by simp [keySteps])
      | cons other second =>
          rw [keySteps_cons, keySteps_cons, List.cons_prefix_cons, TreeStep.key.injEq] at before
          obtain ⟨rest, rfl⟩ := ih before.2
          exact ⟨rest, by rw [before.1]; rfl⟩

theorem prefix_keySteps {steps : List TreeStep} {path : List String} (before : steps <+: keySteps path) :
    ∃ front back, path = front ++ back ∧ steps = keySteps front := by
  obtain ⟨rest, whole⟩ := before
  obtain ⟨front, back, rfl, rfl, -⟩ := List.map_eq_append_iff.mp whole.symm
  exact ⟨front, back, rfl, rfl⟩

section

variable {overrides : List (List String × Json)} {override : List String × Json}
  {tree : List (String × Json)}

theorem Holds.passable (holds : Holds overrides tree)
    (agrees : ∀ other ∈ overrides, OverridesAgree other override) : Passable override.1 tree := by
  intro front name rest whole nonempty
  by_cases below : ∃ other ∈ overrides, keySteps other.1 <+: keySteps front
  · obtain ⟨other, member, before⟩ := below
    obtain ⟨middle, rfl⟩ := keySteps_prefix before
    right
    rw [keySteps_append, holds.1 other member]
    have same := agrees other member (middle ++ name :: rest) (by rw [whole, List.append_assoc]) []
    rw [keySteps_append, keySteps_cons, List.append_assoc, List.cons_append] at same
    exact shapeAt_mapping (by rw [same]; simp [shapeAt])
  · have free : ∀ other ∈ overrides, ¬keySteps other.1 <+: keySteps front :=
      fun other member before => below ⟨other, member, before⟩
    by_cases above : keySteps front = [] ∨ ∃ other ∈ overrides, keySteps front <+: keySteps other.1
    · exact Or.inr ((holds.2 _ free).1 above)
    · exact Or.inl ((holds.2 _ free).2 above)

theorem Holds.set {key : String} {after : List (String × Json)} (holds : Holds overrides tree)
    (nonempty : override.1 ≠ []) (set : setOverride key override.2 override.1 tree = .ok after)
    (agrees : ∀ other ∈ overrides, OverridesAgree other override ∧ OverridesAgree override other) :
    Holds (overrides ++ [override]) after := by
  constructor
  · intro other member steps
    rcases List.mem_append.mp member with earlier | last
    · by_cases below : keySteps override.1 <+: keySteps other.1 ++ steps
      · rcases List.prefix_or_prefix_of_prefix below (List.prefix_append ..) with inner | outer
        · obtain ⟨rest, longer⟩ := keySteps_prefix inner
          rw [longer, keySteps_append, List.append_assoc, shapeAt_set nonempty set]
          exact (agrees other earlier).2 rest longer steps
        · obtain ⟨rest, longer⟩ := keySteps_prefix outer
          obtain ⟨more, whole⟩ := below
          rw [longer, keySteps_append, List.append_assoc, List.append_cancel_left_eq] at whole
          rw [← whole, ← List.append_assoc, ← keySteps_append, ← longer, shapeAt_set nonempty set]
          exact ((agrees other earlier).1 rest longer more).symm
      · by_cases above : keySteps other.1 ++ steps <+: keySteps override.1
        · obtain ⟨front, back, whole, reached⟩ := prefix_keySteps above
          have strict : back ≠ [] := by
            rintro rfl
            rw [List.append_nil] at whole
            exact below (reached ▸ whole ▸ List.prefix_rfl)
          rw [whole] at set
          rw [reached, shapeAt_set_above strict set]
          obtain ⟨middle, rfl⟩ := keySteps_prefix (reached ▸ List.prefix_append _ steps)
          rw [keySteps_append, List.append_cancel_left_eq] at reached
          obtain ⟨name, back, rfl⟩ := List.exists_cons_of_ne_nil strict
          have same := (agrees other earlier).1 (middle ++ name :: back) (by rw [whole, List.append_assoc]) []
          rw [keySteps_append, keySteps_cons, List.append_assoc, List.cons_append] at same
          rw [reached]
          exact (shapeAt_mapping (by rw [same]; simp [shapeAt])).symm
        · rw [shapeAt_set_apart set below above]
          exact holds.1 other earlier steps
    · obtain rfl := List.mem_singleton.mp last
      exact shapeAt_set nonempty set steps
  · intro steps free
    have notBelow := free override (by simp)
    have earlierFree : ∀ other ∈ overrides, ¬keySteps other.1 <+: steps :=
      fun other member => free other (by simp [member])
    by_cases above : steps <+: keySteps override.1
    · obtain ⟨front, back, whole, rfl⟩ := prefix_keySteps above
      have strict : back ≠ [] := by
        rintro rfl
        rw [List.append_nil] at whole
        exact notBelow (whole ▸ List.prefix_rfl)
      rw [whole] at set
      exact ⟨fun _ => shapeAt_set_above strict set,
        fun nothing => absurd (Or.inr ⟨override, by simp, above⟩) nothing⟩
    · rw [shapeAt_set_apart set notBelow above]
      have reached : (steps = [] ∨ ∃ other ∈ overrides ++ [override], steps <+: keySteps other.1) ↔
          (steps = [] ∨ ∃ other ∈ overrides, steps <+: keySteps other.1) := by
        simp [or_and_right, exists_or, above]
      rw [reached]
      exact holds.2 steps earlierFree

end

section

variable {jsonLoads : String → JsonLoaded}

theorem envOverridesFrom_append (first second : List (String × String)) (current : List (String × Json)) :
    envOverridesFrom jsonLoads (first ++ second) current =
      envOverridesFrom jsonLoads first current >>= envOverridesFrom jsonLoads second := by
  induction first generalizing current with
  | nil => rfl
  | cons variable_ first ih =>
      rw [List.cons_append, envOverridesFrom, envOverridesFrom]
      cases overridePath variable_.1 with
      | none => exact ih current
      | some path =>
          cases set : setVariable jsonLoads variable_.1 variable_.2 path current with
          | error error => simp only [set]; rfl
          | ok after => simp only [set]; exact ih after

theorem holds_run {done : List (List String × Json)} {current : List (String × Json)}
    (holds : Holds done current) (variables_ : List (String × String))
    (readable : ∀ variable_ ∈ variables_, Readable jsonLoads variable_)
    (agrees : ∀ first ∈ done ++ variables_.filterMap (overrideOf jsonLoads),
      ∀ second ∈ done ++ variables_.filterMap (overrideOf jsonLoads), OverridesAgree first second) :
    ∃ after, envOverridesFrom jsonLoads variables_ current = .ok after ∧
      Holds (done ++ variables_.filterMap (overrideOf jsonLoads)) after := by
  induction variables_ generalizing done current with
  | nil => exact ⟨current, rfl, by simpa using holds⟩
  | cons variable_ rest ih =>
      obtain ⟨here, readable⟩ := List.forall_mem_cons.mp readable
      cases found : overrideOf jsonLoads variable_ with
      | none =>
          rw [List.filterMap_cons_none found] at agrees ⊢
          rw [envOverridesFrom_skip (overridePath_none here found)]
          exact ih holds readable agrees
      | some override =>
          rw [List.filterMap_cons_some found] at agrees ⊢
          have own : override ∈ done ++ override :: rest.filterMap (overrideOf jsonLoads) := by simp
          have earlier {other : List String × Json} (member : other ∈ done) :
              other ∈ done ++ override :: rest.filterMap (overrideOf jsonLoads) := by simp [member]
          obtain ⟨after, set⟩ := @setOverride_passes variable_.1 override.2 _ _
            (holds.passable fun other member => agrees other (earlier member) override own)
          have later := holds.set (overrideOf_nonempty found) set fun other member =>
            ⟨agrees other (earlier member) override own, agrees override own other (earlier member)⟩
          rw [envOverridesFrom_set found, set]
          have whole : done ++ override :: rest.filterMap (overrideOf jsonLoads) =
              (done ++ [override]) ++ rest.filterMap (overrideOf jsonLoads) := by simp
          rw [whole] at agrees ⊢
          exact ih later readable agrees

/-! Some order never conflicts: the longer paths first. -/

def ClearAbove (depth : Nat) (tree : List (String × Json)) : Prop :=
  ∀ steps : List TreeStep, steps.length < depth →
    shapeAt steps (.dict tree) = none ∨ shapeAt steps (.dict tree) = some (.dict [])

theorem ClearAbove.set {key : String} {value : Json} {path : List String} {depth : Nat}
    {current : List (String × Json)} (clear : ClearAbove depth current) (short : path.length ≤ depth) :
    ∃ after, setOverride key value path current = .ok after ∧ ClearAbove path.length after := by
  have passable : Passable path current := by
    intro front name rest whole _
    refine clear (keySteps front) ?_
    have lengths := congrArg List.length whole
    rw [List.length_append, List.length_cons] at lengths
    rw [keySteps, List.length_map]
    omega
  obtain ⟨after, set⟩ := @setOverride_passes key value path current passable
  refine ⟨after, set, fun steps above => ?_⟩
  have notBelow : ¬keySteps path <+: steps := by
    intro before
    have lengths := before.length_le
    rw [keySteps, List.length_map] at lengths
    omega
  by_cases reached : steps <+: keySteps path
  · obtain ⟨front, back, whole, rfl⟩ := prefix_keySteps reached
    have strict : back ≠ [] := by
      rintro rfl
      rw [List.append_nil] at whole
      exact notBelow (whole ▸ List.prefix_rfl)
    rw [whole] at set
    exact Or.inr (shapeAt_set_above strict set)
  · rw [shapeAt_set_apart set notBelow reached]
    exact clear steps (by omega)

def pathLength (jsonLoads : String → JsonLoaded) (variable_ : String × String) : Nat :=
  (overrideOf jsonLoads variable_).elim 0 fun override => override.1.length

theorem sorted_run {depth : Nat} {current : List (String × Json)} (clear : ClearAbove depth current)
    {variables_ : List (String × String)} (readable : ∀ variable_ ∈ variables_, Readable jsonLoads variable_)
    (short : ∀ variable_ ∈ variables_, pathLength jsonLoads variable_ ≤ depth)
    (sorted : variables_.Pairwise fun first second => pathLength jsonLoads second ≤ pathLength jsonLoads first) :
    ∃ after, envOverridesFrom jsonLoads variables_ current = .ok after := by
  induction variables_ generalizing depth current with
  | nil => exact ⟨current, rfl⟩
  | cons variable_ rest ih =>
      obtain ⟨first, later⟩ := List.pairwise_cons.mp sorted
      obtain ⟨here, readable⟩ := List.forall_mem_cons.mp readable
      cases found : overrideOf jsonLoads variable_ with
      | none =>
          rw [envOverridesFrom_skip (overridePath_none here found)]
          exact ih clear readable (fun other member => short other (List.mem_cons_of_mem _ member)) later
      | some override =>
          have length : pathLength jsonLoads variable_ = override.1.length := by rw [pathLength, found]; rfl
          obtain ⟨after, set, clearAfter⟩ := @ClearAbove.set variable_.1 override.2 override.1 _ _ clear
            (length ▸ short variable_ (List.mem_cons_self ..))
          rw [envOverridesFrom_set found, set]
          exact ih clearAfter readable (fun other member => length ▸ first other member) later

theorem some_order_runs {variables_ : List (String × String)}
    (readable : ∀ variable_ ∈ variables_, Readable jsonLoads variable_) :
    ∃ order after, variables_.Perm order ∧ envOverrides jsonLoads order = .ok after := by
  let longer (first second : String × String) : Bool :=
    decide (pathLength jsonLoads second ≤ pathLength jsonLoads first)
  have sorted : (variables_.mergeSort longer).Pairwise fun first second => longer first second = true :=
    List.pairwise_mergeSort
      (fun a b c ab bc => by simp only [longer, decide_eq_true_eq] at *; omega)
      (fun a b => by simp only [longer, Bool.or_eq_true, decide_eq_true_eq]; omega) _
  obtain ⟨depth, bounded⟩ : ∃ depth, ∀ variable_ ∈ variables_.mergeSort longer,
      pathLength jsonLoads variable_ ≤ depth := by
    cases order : variables_.mergeSort longer with
    | nil => exact ⟨0, nofun⟩
    | cons first rest =>
        rw [order] at sorted
        refine ⟨pathLength jsonLoads first, fun variable_ member => ?_⟩
        rcases List.mem_cons.mp member with rfl | later
        · exact Nat.le_refl _
        · exact of_decide_eq_true ((List.pairwise_cons.mp sorted).1 variable_ later)
  have clear : ClearAbove depth [] := by
    intro steps _
    by_cases empty : steps = []
    · exact Or.inr (by rw [empty]; rfl)
    · exact Or.inl (shapeAt_empty empty)
  have all : ∀ variable_ ∈ variables_.mergeSort longer, Readable jsonLoads variable_ :=
    fun variable_ member => readable variable_ ((List.mergeSort_perm variables_ longer).mem_iff.mp member)
  obtain ⟨after, runs⟩ := sorted_run clear all bounded (sorted.imp fun holds => of_decide_eq_true holds)
  exact ⟨_, after, (List.mergeSort_perm variables_ longer).symm, runs⟩

end

def OrderFree (jsonLoads : String → JsonLoaded) (variables_ : List (String × String)) : Prop :=
  ∀ order, variables_.Perm order →
    SameOutcome (envOverrides jsonLoads variables_) (envOverrides jsonLoads order)

theorem SameTree.trans {first second third : Json} (one : SameTree first second)
    (other : SameTree second third) : SameTree first third :=
  fun steps => (one steps).trans (other steps)

theorem SameTree.symm {first second : Json} (same : SameTree first second) : SameTree second first :=
  fun steps => (same steps).symm

section

variable {jsonLoads : String → JsonLoaded} {variables_ : List (String × String)}

theorem OrderFree.runs (free : OrderFree jsonLoads variables_)
    (readable : ∀ variable_ ∈ variables_, Readable jsonLoads variable_) :
    ∃ tree, ∀ order, variables_.Perm order → ∃ after, envOverrides jsonLoads order = .ok after ∧
      SameTree (.dict tree) (.dict after) := by
  obtain ⟨sorted, last, perm, runs⟩ := some_order_runs readable
  have same := free sorted perm
  rw [runs] at same
  cases first : envOverrides jsonLoads variables_ with
  | error error =>
      rw [first] at same
      exact absurd same id
  | ok tree =>
      refine ⟨tree, fun order other => ?_⟩
      have outcome := free order other
      rw [first] at outcome
      cases result : envOverrides jsonLoads order with
      | error error =>
          rw [result] at outcome
          exact absurd outcome id
      | ok after =>
          rw [result] at outcome
          exact ⟨after, rfl, outcome⟩

theorem last_set {front : List (String × String)} {variable_ : String × String}
    {override : List String × Json} {after : List (String × Json)}
    (found : overrideOf jsonLoads variable_ = some override)
    (runs : envOverrides jsonLoads (front ++ [variable_]) = .ok after) (steps : List TreeStep) :
    shapeAt (keySteps override.1 ++ steps) (.dict after) = shapeAt steps override.2 := by
  rw [envOverrides, envOverridesFrom_append] at runs
  obtain ⟨before, -, runs⟩ := bind_ok.mp runs
  rw [envOverridesFrom_set found] at runs
  obtain ⟨made, set, same⟩ := bind_ok.mp runs
  obtain rfl := Except.ok.inj same
  exact shapeAt_set (overrideOf_nonempty found) set steps

theorem OrderFree.agrees (free : OrderFree jsonLoads variables_)
    (readable : ∀ variable_ ∈ variables_, Readable jsonLoads variable_) {first second : String × String}
    (firstMember : first ∈ variables_) (secondMember : second ∈ variables_) {one other : List String × Json}
    (found : overrideOf jsonLoads first = some one) (otherFound : overrideOf jsonLoads second = some other) :
    OverridesAgree one other := by
  intro rest longer steps
  obtain ⟨tree, runs⟩ := free.runs readable
  by_cases same : first = second
  · subst same
    obtain rfl := Option.some.inj (found.symm.trans otherFound)
    rw [List.self_eq_append_right] at longer
    rw [longer]
    rfl
  · have perm := List.perm_cons_erase firstMember
    have later : second ∈ variables_.erase first := (List.mem_erase_of_ne fun equal => same equal.symm).mpr secondMember
    have both := perm.trans ((List.perm_cons_erase later).cons first)
    have firstLast : variables_.Perm ((second :: (variables_.erase first).erase second) ++ [first]) :=
      both.trans (List.perm_append_singleton first _).symm
    have secondLast : variables_.Perm ((first :: (variables_.erase first).erase second) ++ [second]) :=
      both.trans ((List.Perm.swap ..).trans (List.perm_append_singleton second _).symm)
    obtain ⟨after, ran, sameTree⟩ := runs _ firstLast
    obtain ⟨otherAfter, otherRan, otherTree⟩ := runs _ secondLast
    have here := last_set found ran (keySteps rest ++ steps)
    have there := last_set otherFound otherRan steps
    rw [← here, ← there, longer, keySteps_append, List.append_assoc, ← sameTree, ← otherTree]

theorem orderFree_unreadable {unread : String × String} (member : unread ∈ variables_)
    (unreadable : ¬Readable jsonLoads unread) : OrderFree jsonLoads variables_ := by
  have raises : ∀ order, variables_.Perm order → ∃ error, envOverrides jsonLoads order = .error error := by
    intro order perm
    cases result : envOverrides jsonLoads order with
    | error error => exact ⟨error, rfl⟩
    | ok tree => exact absurd (readable_of_set result unread (perm.mem_iff.mp member)) unreadable
  intro order perm
  obtain ⟨first, fails⟩ := raises variables_ (List.Perm.refl _)
  obtain ⟨second, otherFails⟩ := raises order perm
  rw [fails, otherFails]
  trivial

end

/-- The variables that overrides come from in any order. -/
theorem orderFree_iff (jsonLoads : String → JsonLoaded) (variables_ : List (String × String)) :
    OrderFree jsonLoads variables_ ↔
      (∃ variable_ ∈ variables_, ¬Readable jsonLoads variable_) ∨
      ∀ first ∈ variables_, ∀ second ∈ variables_, ∀ one other, overrideOf jsonLoads first = some one →
        overrideOf jsonLoads second = some other → OverridesAgree one other := by
  by_cases readable : ∀ variable_ ∈ variables_, Readable jsonLoads variable_
  · have read : ¬∃ variable_ ∈ variables_, ¬Readable jsonLoads variable_ := by simpa using readable
    rw [or_iff_right read]
    constructor
    · intro free first firstMember second secondMember one other found otherFound
      exact free.agrees readable firstMember secondMember found otherFound
    · intro agrees order perm
      have all : ∀ one ∈ variables_.filterMap (overrideOf jsonLoads),
          ∀ other ∈ variables_.filterMap (overrideOf jsonLoads), OverridesAgree one other := by
        intro one oneMember other otherMember
        obtain ⟨first, firstMember, found⟩ := List.mem_filterMap.mp oneMember
        obtain ⟨second, secondMember, otherFound⟩ := List.mem_filterMap.mp otherMember
        exact agrees first firstMember second secondMember one other found otherFound
      have members (override : List String × Json) : override ∈ variables_.filterMap (overrideOf jsonLoads) ↔
          override ∈ order.filterMap (overrideOf jsonLoads) := (perm.filterMap _).mem_iff
      have otherReadable : ∀ variable_ ∈ order, Readable jsonLoads variable_ :=
        fun variable_ member => readable variable_ (perm.mem_iff.mpr member)
      obtain ⟨first, firstRuns, firstHolds⟩ := holds_run holds_empty variables_ readable all
      obtain ⟨second, secondRuns, secondHolds⟩ := holds_run holds_empty order otherReadable
        fun one oneMember other otherMember =>
          all one ((members one).mpr oneMember) other ((members other).mpr otherMember)
      rw [envOverrides, envOverrides, firstRuns, secondRuns]
      exact firstHolds.same secondHolds members
  · obtain ⟨unread, unreadable⟩ := not_forall.mp readable
    rw [Classical.not_imp] at unreadable
    exact iff_of_true (orderFree_unreadable unreadable.1 unreadable.2) (Or.inl ⟨unread, unreadable⟩)

def nestedVariables : List (String × String) :=
  [("KORSERVER_SERVER__PORT", "443"), ("KORSERVER_SERVER__PORT__NUMBER", "444")]

theorem nestedVariables_ordered :
    ¬∀ (jsonLoads : String → JsonLoaded) (variables_ : List (String × String)),
      (variables_.map Prod.fst).Nodup → OrderFree jsonLoads variables_ := by
  intro free
  have outcome := free (fun _ => .undecodable) nestedVariables (by decide) nestedVariables.reverse
    (List.reverse_perm _).symm
  have conflict : envOverrides (fun _ => .undecodable) nestedVariables = .error
      (.valueError "conflicting environment override at KORSERVER_SERVER__PORT__NUMBER") := by rfl
  have replaced : envOverrides (fun _ => .undecodable) nestedVariables.reverse =
      .ok [("server", .dict [("port", .int 443)])] := by rfl
  rw [conflict, replaced] at outcome
  exact outcome

end Korserver
