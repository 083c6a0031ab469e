import DirectTransfer.Library.Text
import Mathlib.Data.List.SplitBy

/-! Lexical paths under the two path syntaxes. A path below some directory is
the list of its components; nothing here looks at a disk. -/

set_option autoImplicit false

namespace DirectTransfer.Library

inductive Flavour where
  | posix
  | windows
  deriving DecidableEq, Repr

/-- The components of a path text: empty ones and `.` are dropped. -/
def pathComponents (isSeparator : CodePoint → Bool) (text : PyStr) : List PyStr :=
  (text.splitBy fun left right => !isSeparator left && !isSeparator right).filter fun part =>
    part ≠ py "." && !part.any isSeparator

namespace Flavour

def isSeparator : Flavour → CodePoint → Bool
  | .posix, point => point = chr '/'
  | .windows, point => point = chr '/' || point = chr '\\'

/-- A text with a root or a drive of its own. -/
def isAnchored (flavour : Flavour) : PyStr → Bool
  | [] => false
  | first :: rest =>
      flavour.isSeparator first || (flavour = .windows && rest.head? = some (chr ':'))

/-- `directory / text`; `none` where the text may leave the directory by its root or drive. -/
def join (flavour : Flavour) (directory : List PyStr) (text : PyStr) : Option (List PyStr) :=
  if flavour.isAnchored text then none
  else some (directory ++ pathComponents flavour.isSeparator text)

/-- Whether two ASCII names of one directory name the same entry. -/
def SameName : Flavour → PyStr → PyStr → Prop
  | .posix, left, right => left = right
  | .windows, left, right => asciiLower left = asciiLower right

/-- A text that names an entry of its own directory. -/
structure Component (flavour : Flavour) (text : PyStr) : Prop where
  nonempty : text ≠ []
  unseparated : ∀ point ∈ text, flavour.isSeparator point = false
  undriven : flavour.isAnchored text = false
  notDot : text ≠ py "."
  notDotDot : text ≠ py ".."
  uncontrolled : ∀ point ∈ text, CodePoint.isControl point = false

end Flavour

theorem last_mem_pathComponents {isSeparator : CodePoint → Bool} {text last : PyStr}
    (nonempty : last ≠ []) (found : (pathComponents isSeparator text).getLastD [] = last) :
    last ∈ pathComponents isSeparator text := by
  rw [List.getLastD_eq_getLast?] at found
  cases final : (pathComponents isSeparator text).getLast? with
  | none =>
      rw [final] at found
      exact absurd found.symm nonempty
  | some part =>
      rw [final, Option.getD_some] at found
      exact List.mem_of_getLast? (found ▸ final)

theorem length_le_of_mem_pathComponents {isSeparator : CodePoint → Bool} {text part : PyStr}
    (member : part ∈ pathComponents isSeparator text) : part.length ≤ text.length := by
  have within := (List.sublist_flatten_of_mem (List.mem_filter.mp member).1).length_le
  rwa [List.flatten_splitBy] at within

/-- A path that is its own last component has no separator. -/
theorem unseparated_of_last {isSeparator : CodePoint → Bool} {text : PyStr} (nonempty : text ≠ [])
    (last : (pathComponents isSeparator text).getLastD [] = text) :
    ∀ point ∈ text, isSeparator point = false := by
  have kept := (List.mem_filter.mp (last_mem_pathComponents nonempty last)).2
  simp only [Bool.and_eq_true, Bool.not_eq_true', List.any_eq_false, Bool.not_eq_true] at kept
  exact kept.2

theorem pathComponents_single {isSeparator : CodePoint → Bool} {text : PyStr}
    (nonempty : text ≠ []) (notDot : text ≠ py ".")
    (unseparated : ∀ point ∈ text, isSeparator point = false) :
    pathComponents isSeparator text = [text] := by
  have chained : text.IsChain fun left right =>
      (!isSeparator left && !isSeparator right) = true := by
    refine List.Pairwise.isChain (List.pairwise_of_forall_mem_list ?_)
    intro left leftMember right rightMember
    simp [unseparated left leftMember, unseparated right rightMember]
  rw [pathComponents, List.splitBy_of_isChain nonempty chained]
  simpa using ⟨notDot, unseparated⟩

/-- An entry's name is joined to a directory as its direct child. -/
theorem Flavour.Component.join {flavour : Flavour} {text : PyStr}
    (component : flavour.Component text) (directory : List PyStr) :
    flavour.join directory text = some (directory ++ [text]) := by
  rw [Flavour.join, component.undriven, pathComponents_single component.nonempty component.notDot
    component.unseparated]
  rfl

end DirectTransfer.Library
