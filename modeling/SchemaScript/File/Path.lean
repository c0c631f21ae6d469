namespace SchemaScript

/-!
# Paths of files

A path names the steps to a file, with slashes between them.  Steps that stay
where they are, empty ones and single points, do not count as the last step.
Steps and paths are limited in length.
-/

namespace FilePath

/-- The steps of a path. -/
def steps (path : String) : List String :=
  path.splitOn "/"

/-- Whether a step stays where it is. -/
def stays (step : String) : Bool :=
  step = "" || step = "."

/-- Steps without those at the end that stay where they are; the first one is kept. -/
def trimmed : List String → List String
  | [] => []
  | first :: rest => first :: (rest.reverse.dropWhile stays).reverse

/-- The path of some steps: a single empty one is the root. -/
def ofSteps : List String → String
  | [""] => "/"
  | steps => "/".intercalate steps

/-- The steps to the directory that steps lie in; there are none for a single step. -/
def above (steps : List String) : List String :=
  trimmed (trimmed steps).dropLast

/-- The path of the directory that a path lies in; it is empty for a single step. -/
def parent? (path : String) : Option String :=
  if trimmed (steps path) = [""] then
    none
  else
    some (ofSteps (above (steps path)))

/-- Leaving steps out does not make a path longer. -/
theorem length_trimmed_le (steps : List String) : (trimmed steps).length ≤ steps.length := by
  cases steps with
  | nil => simp [trimmed]
  | cons first rest =>
      have shorter := (List.dropWhile_sublist stays (l := rest.reverse)).length_le
      simp only [List.length_reverse] at shorter
      simp only [trimmed, List.length_cons, List.length_reverse]
      omega

/-- The directory that steps lie in has fewer of them. -/
theorem length_above_lt
    {steps : List String}
    (some_step : steps ≠ []) :
    (above steps).length < steps.length := by
  have trimmedOnce := length_trimmed_le steps
  have trimmedTwice := length_trimmed_le (trimmed steps).dropLast
  have positive := List.length_pos_iff.mpr some_step
  simp only [List.length_dropLast] at trimmedTwice
  simp only [above]
  omega

/-- The bytes that a step can have at most. -/
def stepLimit : Nat := 255

/-- The bytes that a path can have at most. -/
def lengthLimit : Nat := 4095

/-- The path of something in a directory. -/
def within (directory name : String) : String :=
  if directory = "" ∨ directory.endsWith "/" then
    directory ++ name
  else
    directory ++ "/" ++ name

end FilePath

end SchemaScript
