import Korserver.TextParts

/-!
Paths as `pathlib` joins them, and where they lead in a tree without links.
-/

namespace PosixPaths

open PythonText

def dotDot : List Char := ['.', '.']

/-- A `PurePosixPath`: its root, which is empty for a relative path, and its parts. -/
structure PosixPath where
  root : String
  parts : List (List Char)
  deriving DecidableEq

/-- Exactly two slashes are a root of their own. -/
def rootOf : List Char → String
  | '/' :: '/' :: '/' :: _ => "/"
  | '/' :: '/' :: _ => "//"
  | '/' :: _ => "/"
  | _ => ""

def partsOf (text : List Char) : List (List Char) :=
  (splitChar '/' text).filter fun part => decide (part ≠ [] ∧ part ≠ ['.'])

def PosixPath.ofText (text : String) : PosixPath :=
  { root := rootOf text.toList, parts := partsOf text.toList }

/-- `path / text`. -/
def PosixPath.join (path : PosixPath) (text : String) : PosixPath :=
  if rootOf text.toList = "" then { path with parts := path.parts ++ partsOf text.toList }
  else PosixPath.ofText text

example : ((PosixPath.ofText "/etc/ocserv/").join "a//./b") = PosixPath.ofText "/etc/ocserv/a/b" := by
  decide +kernel
example : ((PosixPath.ofText "/etc/ocserv").join "/tmp") = PosixPath.ofText "/tmp" := by decide +kernel

/-- One step down, or up. A place in the tree is told by the names of the directories from there to the root. -/
def enter (place : List (List Char)) (part : List Char) : List (List Char) :=
  if part = dotDot then place.tail else part :: place

def PosixPath.place (workingDir : List (List Char)) (path : PosixPath) : List (List Char) :=
  path.parts.foldl enter (if path.root = "" then workingDir else [])

structure DirectChild (workingDir : List (List Char)) (directory path : PosixPath) : Prop where
  child : ∃ entry, path.place workingDir = entry :: directory.place workingDir
  ne_directory : path.place workingDir ≠ directory.place workingDir
  ne_parent : path.place workingDir ≠ (directory.place workingDir).tail

variable {workingDir : List (List Char)} {directory : PosixPath} {name : String}

theorem directChild_of_entry {path : PosixPath} {entry : List Char}
    (child : path.place workingDir = entry :: directory.place workingDir) :
    DirectChild workingDir directory path := by
  have below (shorter : List (List Char)) (length : shorter.length ≤ (directory.place workingDir).length) :
      path.place workingDir ≠ shorter := by
    rw [child]
    rintro rfl
    exact absurd length (by simp)
  exact ⟨⟨entry, child⟩, below _ (Nat.le_refl _), below _ (by simp)⟩

theorem join_name (single : '/' ∉ name.toList) (some_ne : name.toList ≠ []) :
    directory.join name =
      if name.toList = ['.'] then directory
      else { directory with parts := directory.parts ++ [name.toList] } := by
  have relative : rootOf name.toList = "" := by
    unfold rootOf
    split
    all_goals first | rfl | (rename_i starts; exact absurd (by rw [starts]; simp) single)
  rw [PosixPath.join, if_pos relative, partsOf, splitChar_last single]
  split
  · rename_i dot
    rw [List.filter_cons_of_neg (by simp [dot]), List.filter_nil, List.append_nil]
  · rename_i dot
    rw [List.filter_cons_of_pos (by simpa using ⟨by simpa using some_ne, dot⟩), List.filter_nil]

theorem join_directChild (single : '/' ∉ name.toList) (some_ne : name.toList ≠ []) :
    DirectChild workingDir directory (directory.join name) ↔ name.toList ≠ ['.'] ∧ name.toList ≠ dotDot := by
  rw [join_name single some_ne]
  constructor
  · intro direct
    refine ⟨fun dot => ?_, fun dots => ?_⟩
    · rw [if_pos dot] at direct
      exact direct.ne_directory rfl
    · rw [if_neg (by rw [dots]; decide)] at direct
      refine direct.ne_parent ?_
      rw [PosixPath.place, List.foldl_append, List.foldl_cons, List.foldl_nil, enter, if_pos dots]
      rfl
  · rintro ⟨dot, dots⟩
    rw [if_neg dot]
    refine @directChild_of_entry _ _ _ name.toList ?_
    rw [PosixPath.place, List.foldl_append, List.foldl_cons, List.foldl_nil, enter, if_neg dots]
    rfl

end PosixPaths
