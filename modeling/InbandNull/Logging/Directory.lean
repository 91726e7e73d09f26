/-!
# The files of a directory

A file is a text under a name. `Directory` holds the files of the working directory in the order in
which they were created. Files are only ever created and appended to, so the text of a file is an
initial part of what it is later on.
-/

namespace InbandNull.Logging

/-- The text of some lines, each ended by a line feed. -/
def unlines (lines : List String) : String := String.join (lines.map (· ++ "\n"))

@[simp] theorem unlines_nil : unlines [] = "" := rfl

theorem unlines_singleton (line : String) : unlines [line] = line ++ "\n" := by
  simp [unlines]

theorem unlines_append (lines lines' : List String) :
    unlines (lines ++ lines') = unlines lines ++ unlines lines' := by
  rw [unlines, List.map_append, String.join_append, unlines, unlines]

structure Directory where
  files : List (String × String) := []
deriving DecidableEq, Repr

namespace Directory

def text? (d : Directory) (name : String) : Option String := d.files.lookup name

def contains (d : Directory) (name : String) : Bool := (d.text? name).isSome

/-- Makes sure that there is a file of this name. One that is there stays as it is. -/
def create (d : Directory) (name : String) : Directory :=
  if d.contains name then d else ⟨d.files ++ [(name, "")]⟩

/-- Adds to the end of a file, if there is one of this name. -/
def append (d : Directory) (name added : String) : Directory :=
  ⟨d.files.map fun file => if file.1 = name then (file.1, file.2 ++ added) else file⟩

theorem text?_create (d : Directory) (name other : String) :
    (d.create name).text? other =
      if other = name then some ((d.text? name).getD "") else d.text? other := by
  unfold create contains
  cases h : d.text? name with
  | some text =>
    simp only [Option.isSome_some, if_true, Option.getD_some]
    split
    · subst other; exact h
    · rfl
  | none =>
    simp only [Option.isSome_none, Bool.false_eq_true, if_false, Option.getD_none]
    unfold text? at h ⊢
    by_cases eq : other = name
    · simp [List.lookup_append, eq, h]
    · have : (other == name) = false := by simpa using eq
      simp [List.lookup_append, List.lookup_cons, this, eq]

theorem text?_append (d : Directory) (name added other : String) :
    (d.append name added).text? other =
      if other = name then (d.text? name).map (· ++ added) else d.text? other := by
  unfold append text?
  induction d.files with
  | nil => simp
  | cons file files ih =>
    rw [List.map_cons, List.lookup_cons, List.lookup_cons, List.lookup_cons, ih]
    by_cases eq : other = name
    · subst other
      by_cases here : file.1 = name
      · simp [here]
      · have : (name == file.1) = false := by simpa using Ne.symm here
        simp [here, this]
    · by_cases here : file.1 = name
      · have : (other == name) = false := by simpa using eq
        simp [here, this, eq]
      · simp [here, eq]

end Directory

end InbandNull.Logging
