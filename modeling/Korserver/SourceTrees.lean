import Korserver.ConfigMapping

/-!
Nested mappings seen as the values at their paths, and what merging leaves at a path when no mapping
gives a leaf where another gives a mapping. A leaf is anything that is no mapping.
-/

namespace Korserver

open PythonValue

def nodeAt : List String → Json → Option Json
  | [], value => some value
  | key :: path, .dict entries => (dictGet key entries).bind (nodeAt path)
  | _ :: _, _ => none

def leafAt (path : List String) (value : Json) : Option Json :=
  (nodeAt path value).filter fun node => !isDict node

def mappingAt (path : List String) (value : Json) : Bool := (nodeAt path value).any isDict

def LeafCompatible (first second : Json) : Prop :=
  ∀ path, ¬((leafAt path first).isSome ∧ mappingAt path second) ∧
    ¬((leafAt path second).isSome ∧ mappingAt path first)

theorem LeafCompatible.symm {first second : Json} (compatible : LeafCompatible first second) :
    LeafCompatible second first := fun path => ⟨(compatible path).2, (compatible path).1⟩

@[simp] theorem leafAt_nil (value : Json) : leafAt [] value = if isDict value then none else some value := by
  cases value <;> rfl

@[simp] theorem mappingAt_nil (value : Json) : mappingAt [] value = isDict value := rfl

theorem leafAt_cons (key : String) (path : List String) (entries : List (String × Json)) :
    leafAt (key :: path) (.dict entries) = (dictGet key entries).bind (leafAt path) := by
  rw [leafAt, nodeAt]
  cases dictGet key entries <;> rfl

theorem mappingAt_cons (key : String) (path : List String) (entries : List (String × Json)) :
    mappingAt (key :: path) (.dict entries) = (dictGet key entries).any (mappingAt path) := by
  rw [mappingAt, nodeAt]
  cases dictGet key entries <;> rfl

theorem leafAt_below_leaf {value : Json} (leaf : isDict value = false) (key : String) (path : List String) :
    leafAt (key :: path) value = none := by
  cases value <;> first | rfl | nomatch leaf

theorem mappingAt_below_leaf {value : Json} (leaf : isDict value = false) (key : String) (path : List String) :
    mappingAt (key :: path) value = false := by
  cases value <;> first | rfl | nomatch leaf

theorem leafAt_empty (path : List String) : leafAt path (.dict []) = none := by
  cases path <;> rfl

theorem LeafCompatible.empty {others : List (String × Json)} : LeafCompatible (.dict []) (.dict others) := by
  intro path
  cases path with
  | nil => simp [isDict]
  | cons key path => simp [leafAt_cons, mappingAt_cons, dictGet]

section Merge

variable {entries others : List (String × Json)}

theorem LeafCompatible.child (compatible : LeafCompatible (.dict entries) (.dict others)) {key : String}
    {first second : Json} (found : dictGet key entries = some first) (other : dictGet key others = some second) :
    LeafCompatible first second := by
  intro path
  have here := compatible (key :: path)
  rwa [leafAt_cons, leafAt_cons, mappingAt_cons, mappingAt_cons, found, other] at here

theorem leafAt_mergeValue (path : List String) {old value : Json} (compatible : LeafCompatible old value)
    (distinct : DistinctKeys value) :
    leafAt path (mergeValue (some old) value) = (leafAt path value).or (leafAt path old) := by
  induction path generalizing old value with
  | nil =>
      have here := compatible []
      rw [mergeValue.eq_def]
      cases value <;> cases old <;> simp_all [isDict]
  | cons key path ih =>
      have here := compatible []
      cases value with
      | dict changes =>
          cases old with
          | dict base =>
              rw [mergeValue, leafAt_cons, leafAt_cons, leafAt_cons, dictGet_deepMerge distinct.1]
              cases changed : dictGet key changes with
              | none => simp
              | some change =>
                  cases kept : dictGet key base with
                  | none => simp [@mergeValue_plain none rfl change]
                  | some old =>
                      have changeDistinct : DistinctKeys change :=
                        distinctEntries_mem distinct.2 (mem_of_dictGet changed)
                      exact ih (compatible.child kept changed) changeDistinct
          | _ => simp [isDict] at here
      | _ =>
          cases old with
          | dict base => simp [isDict] at here
          | _ => rfl

theorem mappingAt_mergeValue (path : List String) {old value : Json} (compatible : LeafCompatible old value)
    (distinct : DistinctKeys value) :
    mappingAt path (mergeValue (some old) value) = (mappingAt path value || mappingAt path old) := by
  induction path generalizing old value with
  | nil =>
      have here := compatible []
      rw [mergeValue.eq_def]
      cases value <;> cases old <;> simp_all [isDict]
  | cons key path ih =>
      have here := compatible []
      cases value with
      | dict changes =>
          cases old with
          | dict base =>
              rw [mergeValue, mappingAt_cons, mappingAt_cons, mappingAt_cons, dictGet_deepMerge distinct.1]
              cases changed : dictGet key changes with
              | none => simp
              | some change =>
                  cases kept : dictGet key base with
                  | none => simp [@mergeValue_plain none rfl change]
                  | some old =>
                      have changeDistinct : DistinctKeys change :=
                        distinctEntries_mem distinct.2 (mem_of_dictGet changed)
                      exact ih (compatible.child kept changed) changeDistinct
          | _ => simp [isDict] at here
      | _ =>
          cases old with
          | dict base => simp [isDict] at here
          | _ => rfl

theorem leafAt_deepMerge (path : List String) (compatible : LeafCompatible (.dict entries) (.dict others))
    (mapping : IsMapping others) :
    leafAt path (.dict (deepMerge entries others)) =
      (leafAt path (.dict others)).or (leafAt path (.dict entries)) :=
  leafAt_mergeValue path compatible mapping

theorem mappingAt_deepMerge (path : List String) (compatible : LeafCompatible (.dict entries) (.dict others))
    (mapping : IsMapping others) :
    mappingAt path (.dict (deepMerge entries others)) =
      (mappingAt path (.dict others) || mappingAt path (.dict entries)) :=
  mappingAt_mergeValue path compatible mapping

theorem LeafCompatible.merged {third : Json} (compatible : LeafCompatible (.dict entries) (.dict others))
    (mapping : IsMapping others) (first : LeafCompatible (.dict entries) third)
    (second : LeafCompatible (.dict others) third) : LeafCompatible (.dict (deepMerge entries others)) third := by
  intro path
  rw [leafAt_deepMerge path compatible mapping, mappingAt_deepMerge path compatible mapping]
  simp only [Option.isSome_or, Bool.or_eq_true]
  constructor
  · rintro ⟨leaf | leaf, below⟩
    · exact (second path).1 ⟨leaf, below⟩
    · exact (first path).1 ⟨leaf, below⟩
  · rintro ⟨leaf, below | below⟩
    · exact (second path).2 ⟨leaf, below⟩
    · exact (first path).2 ⟨leaf, below⟩

end Merge

def mergeAll (base : List (String × Json)) (trees : List (List (String × Json))) : List (String × Json) :=
  trees.foldl deepMerge base

theorem mergeAll_append (base : List (String × Json)) (trees others : List (List (String × Json))) :
    mergeAll base (trees ++ others) = mergeAll (mergeAll base trees) others := List.foldl_append

theorem LeafCompatible.pairwise_merged {base tree : List (String × Json)} {trees : List (List (String × Json))}
    (mapping : IsMapping tree)
    (compatible : (base :: tree :: trees).Pairwise fun first second =>
      LeafCompatible (.dict first) (.dict second)) :
    LeafCompatible (.dict base) (.dict tree) ∧
      (deepMerge base tree :: trees).Pairwise fun first second => LeafCompatible (.dict first) (.dict second) := by
  obtain ⟨withBase, withTree⟩ := List.pairwise_cons.mp compatible
  obtain ⟨treeCompatible, others⟩ := List.pairwise_cons.mp withTree
  have together := withBase tree (List.mem_cons_self ..)
  exact ⟨together, List.pairwise_cons.mpr ⟨fun other member => together.merged mapping
    (withBase other (List.mem_cons_of_mem _ member)) (treeCompatible other member), others⟩⟩

section MergeAll

variable {base : List (String × Json)} {trees : List (List (String × Json))}
  (compatible : (base :: trees).Pairwise fun first second => LeafCompatible (.dict first) (.dict second))
  (mappings : ∀ tree ∈ trees, IsMapping tree) (path : List String)

include compatible mappings

theorem leafAt_mergeAll : leafAt path (.dict (mergeAll base trees)) =
    (base :: trees).reverse.findSome? fun tree => leafAt path (.dict tree) := by
  induction trees generalizing base with
  | nil => cases leaf : leafAt path (.dict base) <;> simp [mergeAll, leaf]
  | cons tree trees ih =>
      have mapping := mappings tree (List.mem_cons_self ..)
      obtain ⟨together, merged⟩ := LeafCompatible.pairwise_merged mapping compatible
      have later := ih merged fun other member => mappings other (List.mem_cons_of_mem _ member)
      rw [mergeAll, List.foldl_cons, ← mergeAll, later]
      simp only [List.reverse_cons, List.findSome?_append, Option.or_assoc, List.findSome?_singleton,
        leafAt_deepMerge path together mapping]

theorem mappingAt_mergeAll : mappingAt path (.dict (mergeAll base trees)) =
    (base :: trees).any fun tree => mappingAt path (.dict tree) := by
  induction trees generalizing base with
  | nil => simp [mergeAll]
  | cons tree trees ih =>
      have mapping := mappings tree (List.mem_cons_self ..)
      obtain ⟨together, merged⟩ := LeafCompatible.pairwise_merged mapping compatible
      have later := ih merged fun other member => mappings other (List.mem_cons_of_mem _ member)
      rw [mergeAll, List.foldl_cons, ← mergeAll, later]
      simp only [List.any_cons, mappingAt_deepMerge path together mapping, ← Bool.or_assoc]
      rw [Bool.or_comm (mappingAt path (.dict tree))]

theorem LeafCompatible.mergeAll {third : Json} (each : ∀ tree ∈ base :: trees, LeafCompatible third (.dict tree)) :
    LeafCompatible third (.dict (mergeAll base trees)) := by
  intro path
  rw [leafAt_mergeAll compatible mappings, mappingAt_mergeAll compatible mappings]
  constructor
  · rintro ⟨leaf, below⟩
    obtain ⟨tree, member, below⟩ := List.any_eq_true.mp below
    exact (each tree member path).1 ⟨leaf, below⟩
  · rintro ⟨leaf, below⟩
    obtain ⟨tree, member, leaf⟩ := List.findSome?_isSome_iff.mp leaf
    exact (each tree (List.mem_reverse.mp member) path).2 ⟨leaf, below⟩

end MergeAll

def pathTree : List String → Json → Json
  | [], value => value
  | key :: path, value => .dict [(key, pathTree path value)]

def pathEntries : List String → Json → List (String × Json)
  | [], _ => []
  | key :: path, value => [(key, pathTree path value)]

theorem pathTree_dict {path : List String} (some_ : path ≠ []) (value : Json) :
    pathTree path value = .dict (pathEntries path value) := by
  cases path with
  | nil => exact absurd rfl some_
  | cons key path => rfl

theorem distinct_pathTree (path : List String) {value : Json} (distinct : DistinctKeys value) :
    DistinctKeys (pathTree path value) := by
  induction path with
  | nil => exact distinct
  | cons key path ih => exact ⟨by simp, ih, trivial⟩

theorem prefix_of_leaf {path at_ : List String} {value : Json}
    (leaf : (leafAt at_ (pathTree path value)).isSome) : path <+: at_ := by
  induction path generalizing at_ with
  | nil => exact List.nil_prefix
  | cons key path ih =>
      cases at_ with
      | nil => simp [pathTree, isDict] at leaf
      | cons first at_ =>
          rw [pathTree, leafAt_cons, dictGet] at leaf
          by_cases same : key = first
          · rw [if_pos same] at leaf
            exact List.cons_prefix_cons.mpr ⟨same, ih leaf⟩
          · simp [same, dictGet] at leaf

theorem prefix_of_mapping {path at_ : List String} {value : Json}
    (mapping : mappingAt at_ (pathTree path value)) : at_ <+: path ∨ path <+: at_ := by
  induction path generalizing at_ with
  | nil => exact Or.inr List.nil_prefix
  | cons key path ih =>
      cases at_ with
      | nil => exact Or.inl List.nil_prefix
      | cons first at_ =>
          rw [pathTree, mappingAt_cons, dictGet] at mapping
          by_cases same : key = first
          · rw [if_pos same] at mapping
            exact (ih mapping).imp (fun above => List.cons_prefix_cons.mpr ⟨same.symm, above⟩)
              fun below => List.cons_prefix_cons.mpr ⟨same, below⟩
          · simp [same, dictGet] at mapping

def Apart (path other : List String) : Prop := ¬path <+: other ∧ ¬other <+: path

theorem Apart.compatible {path other : List String} (apart : Apart path other) (value otherValue : Json) :
    LeafCompatible (pathTree path value) (pathTree other otherValue) := by
  have never : ∀ {path other at_ : List String} {value otherValue : Json}, Apart path other →
      ¬((leafAt at_ (pathTree path value)).isSome ∧ mappingAt at_ (pathTree other otherValue)) := by
    rintro path other at_ value otherValue apart ⟨leaf, mapping⟩
    rcases prefix_of_mapping mapping with above | below
    · exact apart.1 ((prefix_of_leaf leaf).trans above)
    · exact (List.prefix_or_prefix_of_prefix (prefix_of_leaf leaf) below).elim apart.1 apart.2
  exact fun at_ => ⟨never apart, never ⟨apart.2, apart.1⟩⟩

def FreePath (path : List String) (current : List (String × Json)) : Prop :=
  (∀ at_, at_ <+: path → leafAt at_ (.dict current) = none) ∧ mappingAt path (.dict current) = false

theorem FreePath.child {key : String} {path : List String} {current child : List (String × Json)}
    (free : FreePath (key :: path) current) (found : dictGet key current = some (.dict child)) :
    FreePath path child := by
  constructor
  · intro at_ above
    have leaf := free.1 (key :: at_) (List.cons_prefix_cons.mpr ⟨rfl, above⟩)
    rwa [leafAt_cons, found] at leaf
  · have mapping := free.2
    rwa [mappingAt_cons, found] at mapping

theorem FreePath.nothing {key : String} {path : List String} : FreePath (key :: path) [] := by
  refine ⟨fun at_ above => ?_, by simp [mappingAt_cons, dictGet]⟩
  cases at_ with
  | nil => rfl
  | cons first at_ => simp [leafAt_cons, dictGet]

theorem pathEntries_alone (key : String) (path : List String) (value : Json) :
    deepMerge [] (pathEntries (key :: path) value) = pathEntries (key :: path) value := by
  rw [pathEntries, deepMerge_cons, dictGet, @mergeValue_plain none rfl]
  rfl

theorem setOverride_free (name : String) (value : Json) {path : List String} (some_ : path ≠ [])
    {current : List (String × Json)} (free : FreePath path current) :
    setOverride name value path current = .ok (deepMerge current (pathEntries path value)) := by
  induction path generalizing current with
  | nil => exact absurd rfl some_
  | cons key path ih =>
      have noLeaf := free.1 [key] (List.cons_prefix_cons.mpr ⟨rfl, List.nil_prefix⟩)
      rw [leafAt_cons] at noLeaf
      cases path with
      | nil =>
          have noMapping := free.2
          rw [mappingAt_cons] at noMapping
          cases found : dictGet key current with
          | none =>
              rw [setOverride, pathEntries, pathTree, deepMerge_cons, found, @mergeValue_plain none rfl value]
              rfl
          | some old =>
              rw [found] at noLeaf noMapping
              cases old <;> simp [isDict] at noLeaf noMapping
      | cons next path =>
          have merges := deepMerge_cons current [] key (pathTree (next :: path) value)
          cases found : dictGet key current with
          | none =>
              have nested := ih (List.cons_ne_nil next path) FreePath.nothing
              rw [found] at merges
              rw [pathEntries_alone] at nested
              simp only [setOverride, found, nested]
              exact congrArg Except.ok merges.symm
          | some old =>
              rw [found] at noLeaf merges
              cases old with
              | dict child =>
                  have nested := ih (List.cons_ne_nil next path) (free.child found)
                  simp only [setOverride, found, nested]
                  exact congrArg Except.ok merges.symm
              | _ => simp [isDict] at noLeaf

end Korserver
