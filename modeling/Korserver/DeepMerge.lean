import Korserver.ConfigLoader

/-!
What a merge leaves at each key, that it holds its changes, and that it keeps the changes of
others at other keys.
-/

namespace Korserver

open PythonValue

section Dictionaries

variable {α : Type} {key other : String} {value : α} {entries : List (String × α)}

theorem dictGet_dictSet_same : dictGet key (dictSet key value entries) = some value := by
  induction entries with
  | nil => simp [dictSet, dictGet]
  | cons entry rest ih =>
      rw [dictSet]
      by_cases same : entry.1 = key
      · rw [if_pos same, dictGet, if_pos rfl]
      · rw [if_neg same, dictGet, if_neg same, ih]

theorem dictGet_dictSet_other (different : other ≠ key) :
    dictGet key (dictSet other value entries) = dictGet key entries := by
  induction entries with
  | nil => simp [dictSet, dictGet, different]
  | cons entry rest ih =>
      rw [dictSet]
      by_cases same : entry.1 = other
      · rw [if_pos same, dictGet, if_neg different, dictGet, if_neg (same ▸ different)]
      · rw [if_neg same, dictGet, dictGet, ih]

theorem dictGet_absent (absent : key ∉ entries.map Prod.fst) : dictGet key entries = none := by
  cases found : dictGet key entries with
  | none => rfl
  | some value => exact absurd (List.mem_map_of_mem (f := Prod.fst) (mem_of_dictGet found)) absent

end Dictionaries

mutual

/-- No mapping in the value has a key twice; items of lists are never merged. -/
def DistinctKeys : Json → Prop
  | .dict entries => (entries.map Prod.fst).Nodup ∧ DistinctEntries entries
  | _ => True

def DistinctEntries : List (String × Json) → Prop
  | [] => True
  | entry :: rest => DistinctEntry entry ∧ DistinctEntries rest

def DistinctEntry : String × Json → Prop
  | (_, value) => DistinctKeys value

end

def IsMapping (entries : List (String × Json)) : Prop := DistinctKeys (.dict entries)

theorem distinctEntries_mem {entries : List (String × Json)} (distinct : DistinctEntries entries)
    {key : String} {value : Json} (member : (key, value) ∈ entries) : DistinctKeys value := by
  induction entries with
  | nil => simp at member
  | cons entry rest ih =>
      rcases List.mem_cons.mp member with rfl | later
      · exact distinct.1
      · exact ih distinct.2 later

theorem deepMerge_cons (base rest : List (String × Json)) (key : String) (value : Json) :
    deepMerge base ((key, value) :: rest) =
      deepMerge (dictSet key (mergeValue (dictGet key base) value) base) rest := rfl

theorem dictGet_deepMerge {changes : List (String × Json)} (distinct : (changes.map Prod.fst).Nodup)
    (base : List (String × Json)) (key : String) :
    dictGet key (deepMerge base changes) =
      (dictGet key changes).elim (dictGet key base) fun value =>
        some (mergeValue (dictGet key base) value) := by
  induction changes generalizing base with
  | nil => rfl
  | cons change rest ih =>
      obtain ⟨first, value⟩ := change
      rw [List.map_cons, List.nodup_cons] at distinct
      rw [deepMerge_cons, ih distinct.2, dictGet]
      by_cases same : first = key
      · subst same
        rw [if_pos rfl, dictGet_absent distinct.1, dictGet_dictSet_same]
        rfl
      · rw [if_neg same, dictGet_dictSet_other same]

mutual

/-- The value is there: a mapping's entries somewhere in a mapping, anything else as it is. -/
def HoldsValue (found : Option Json) : Json → Prop
  | .dict changes => ∃ entries, found = some (.dict entries) ∧ HoldsEntries entries changes
  | value => found = some value

def HoldsEntries (data : List (String × Json)) : List (String × Json) → Prop
  | [] => True
  | change :: rest => HoldsEntry data change ∧ HoldsEntries data rest

def HoldsEntry (data : List (String × Json)) : String × Json → Prop
  | (key, value) => HoldsValue (dictGet key data) value

end

theorem holdsEntries_iff {data changes : List (String × Json)} :
    HoldsEntries data changes ↔ ∀ key value, (key, value) ∈ changes → HoldsValue (dictGet key data) value := by
  induction changes with
  | nil => simp [HoldsEntries]
  | cons change rest ih =>
      obtain ⟨first, value⟩ := change
      simp only [HoldsEntries, HoldsEntry, ih, List.mem_cons, Prod.mk.injEq]
      constructor
      · rintro ⟨holds, others⟩ key other (⟨rfl, rfl⟩ | later)
        · exact holds
        · exact others key other later
      · exact fun all => ⟨all first value (Or.inl ⟨rfl, rfl⟩), fun key other later =>
          all key other (Or.inr later)⟩

mutual

theorem holdsValue_merged (value : Json) (distinct : DistinctKeys value) :
    HoldsValue (some value) value ∧ ∀ old, HoldsValue (some (mergeValue old value)) value := by
  cases value with
  | dict changes =>
      have each := holdsEach_merged changes distinct.2
      have itself : HoldsValue (some (.dict changes)) (.dict changes) := by
        refine ⟨changes, rfl, holdsEntries_iff.mpr fun key value member => ?_⟩
        rw [dictGet_of_mem distinct.1 member]
        exact (each key value member).1
      refine ⟨itself, fun old => ?_⟩
      cases old with
      | none => exact itself
      | some old =>
          cases old with
          | dict base =>
              refine ⟨deepMerge base changes, rfl, holdsEntries_iff.mpr fun key value member => ?_⟩
              rw [dictGet_deepMerge distinct.1, dictGet_of_mem distinct.1 member]
              exact (each key value member).2 _
          | null => exact itself
          | bool value => exact itself
          | int value => exact itself
          | float text => exact itself
          | str text => exact itself
          | list items => exact itself
  | null => exact ⟨rfl, fun _ => rfl⟩
  | bool value => exact ⟨rfl, fun _ => rfl⟩
  | int value => exact ⟨rfl, fun _ => rfl⟩
  | float text => exact ⟨rfl, fun _ => rfl⟩
  | str text => exact ⟨rfl, fun _ => rfl⟩
  | list items => exact ⟨rfl, fun _ => rfl⟩
termination_by structural value

theorem holdsEach_merged (changes : List (String × Json)) (distinct : DistinctEntries changes) :
    ∀ key value, (key, value) ∈ changes →
      HoldsValue (some value) value ∧ ∀ old, HoldsValue (some (mergeValue old value)) value := by
  intro key value member
  cases changes with
  | nil => simp at member
  | cons change rest =>
      rcases List.mem_cons.mp member with same | later
      · have pair := holdsPair_merged change distinct.1
        rw [← same] at pair
        exact pair
      · exact holdsEach_merged rest distinct.2 key value later
termination_by structural changes

theorem holdsPair_merged (change : String × Json) (distinct : DistinctEntry change) :
    HoldsValue (some change.2) change.2 ∧
      ∀ old, HoldsValue (some (mergeValue old change.2)) change.2 := by
  obtain ⟨key, value⟩ := change
  exact holdsValue_merged value distinct
termination_by structural change

end

theorem holdsEntries_merged {changes : List (String × Json)} (mapping : IsMapping changes)
    (base : List (String × Json)) : HoldsEntries (deepMerge base changes) changes := by
  refine holdsEntries_iff.mpr fun key value member => ?_
  rw [dictGet_deepMerge mapping.1, dictGet_of_mem mapping.1 member]
  exact (holdsEach_merged changes mapping.2 key value member).2 _

mutual

def DisjointValue (found : Option Json) : Json → Prop
  | .dict changes =>
      match found with
      | some (.dict others) => DisjointEntries others changes
      | some _ => False
      | none => True
  | _ => found = none

def DisjointEntries (others : List (String × Json)) : List (String × Json) → Prop
  | [] => True
  | change :: rest => DisjointEntry others change ∧ DisjointEntries others rest

def DisjointEntry (others : List (String × Json)) : String × Json → Prop
  | (key, value) => DisjointValue (dictGet key others) value

end

theorem disjointEntries_mem {others changes : List (String × Json)}
    (disjoint : DisjointEntries others changes) {key : String} {value : Json}
    (member : (key, value) ∈ changes) : DisjointValue (dictGet key others) value := by
  induction changes with
  | nil => simp at member
  | cons change rest ih =>
      rcases List.mem_cons.mp member with rfl | later
      · exact disjoint.1
      · exact ih disjoint.2 later

mutual

theorem holdsValue_kept (value : Json) (found other : Option Json) (holds : HoldsValue found value)
    (disjoint : DisjointValue other value) (distinct : ∀ theirs ∈ other, DistinctKeys theirs) :
    HoldsValue (other.elim found fun theirs => some (mergeValue found theirs)) value := by
  cases value with
  | dict changes =>
      obtain ⟨entries, rfl, holds⟩ := holds
      cases other with
      | none => exact ⟨entries, rfl, holds⟩
      | some theirs =>
          cases theirs with
          | dict others =>
              have mapping : DistinctKeys (.dict others) := distinct _ rfl
              refine ⟨deepMerge entries others, rfl, holdsEntries_iff.mpr fun key value member => ?_⟩
              rw [dictGet_deepMerge mapping.1]
              exact holdsEach_kept changes key value member _ _ (holdsEntries_iff.mp holds key value member)
                (disjointEntries_mem disjoint member) fun theirs there =>
                  distinctEntries_mem mapping.2 (mem_of_dictGet there)
          | null => exact disjoint.elim
          | bool value => exact disjoint.elim
          | int value => exact disjoint.elim
          | float text => exact disjoint.elim
          | str text => exact disjoint.elim
          | list items => exact disjoint.elim
  | null => exact disjoint ▸ holds
  | bool value => exact disjoint ▸ holds
  | int value => exact disjoint ▸ holds
  | float text => exact disjoint ▸ holds
  | str text => exact disjoint ▸ holds
  | list items => exact disjoint ▸ holds
termination_by structural value

theorem holdsEach_kept (changes : List (String × Json)) (key : String) (value : Json)
    (member : (key, value) ∈ changes) (found other : Option Json) (holds : HoldsValue found value)
    (disjoint : DisjointValue other value) (distinct : ∀ theirs ∈ other, DistinctKeys theirs) :
    HoldsValue (other.elim found fun theirs => some (mergeValue found theirs)) value := by
  cases changes with
  | nil => simp at member
  | cons change rest =>
      rcases List.mem_cons.mp member with same | later
      · have pair := holdsPair_kept change found other
        rw [← same] at pair
        exact pair holds disjoint distinct
      · exact holdsEach_kept rest key value later found other holds disjoint distinct
termination_by structural changes

theorem holdsPair_kept (change : String × Json) (found other : Option Json)
    (holds : HoldsValue found change.2) (disjoint : DisjointValue other change.2)
    (distinct : ∀ theirs ∈ other, DistinctKeys theirs) :
    HoldsValue (other.elim found fun theirs => some (mergeValue found theirs)) change.2 := by
  obtain ⟨key, value⟩ := change
  exact holdsValue_kept value found other holds disjoint distinct
termination_by structural change

end

theorem holdsEntries_kept {data changes others : List (String × Json)}
    (holds : HoldsEntries data changes) (disjoint : DisjointEntries others changes)
    (mapping : IsMapping others) : HoldsEntries (deepMerge data others) changes := by
  refine holdsEntries_iff.mpr fun key value member => ?_
  rw [dictGet_deepMerge mapping.1]
  exact holdsValue_kept value _ _ (holdsEntries_iff.mp holds key value member)
    (disjointEntries_mem disjoint member) fun theirs there =>
      distinctEntries_mem mapping.2 (mem_of_dictGet there)

end Korserver
