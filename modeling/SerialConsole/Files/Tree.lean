import SerialConsole.Fault

/-!
# The directory tree

Transcripts are saved to and loaded from a tree of directories, files, sockets
and devices.  A path is walked from the working directory or, if it starts with
a slash, from the root; every name on the way must be a directory.  Operations
report the fault that the operating system gives for the path.  What names
temporary files get is up to the system; they are free in their directory, and
all of one form.
-/

namespace SerialConsole.Files

/-- The names that lead from the root to a place. -/
abbrev Place := List String

local instance (priority := high) decidableEqContent : DecidableEq ByteArray :=
  ByteArray.instDecidableEq

inductive Node where
  | directory
  | file (content : ByteArray)
  /-- A socket; one that is not served refuses to connect. -/
  | socket (served : Bool)
  /-- A device that is no terminal: it reads as empty. -/
  | device
  | terminal
  deriving DecidableEq

structure Tree where
  /-- The working directory. -/
  base : Place
  /-- What is at each place; the last entry put at a place counts.  The root is
  always a directory. -/
  nodes : List (Place × Node)

/-- What a path leads to: a node, or a free place in a directory. -/
inductive Target where
  | present (place : Place) (node : Node)
  | free (place : Place)

/-- The longest name of a directory entry, in bytes. -/
def maxNameBytes : Nat := 255

/-- The longest path, in bytes. -/
def maxPathBytes : Nat := 4095

/-- A path below a directory; one that starts with a slash stands for
itself. -/
def join (dir path : String) : String :=
  if path.startsWith "/" || dir.isEmpty then path
  else if dir.endsWith "/" then dir ++ path
  else dir ++ "/" ++ path

def hasNul (path : String) : Bool :=
  path.toList.contains '\x00'

/-- The names between the slashes of a path. -/
def components (path : String) : List String :=
  (path.toList.splitOn '/').map String.ofList

namespace Tree

def empty : Tree where
  base := []
  nodes := []

def find? (t : Tree) (place : Place) : Option Node :=
  if place = [] then some .directory else t.nodes.lookup place

def erase (t : Tree) (place : Place) : Tree :=
  { t with nodes := t.nodes.filter fun entry => entry.1 != place }

/-- Put a node at a place, over what was there. -/
def put (t : Tree) (place : Place) (node : Node) : Tree :=
  { t with nodes := (place, node) :: (t.erase place).nodes }

@[simp]
theorem base_erase (t : Tree) (place : Place) : (t.erase place).base = t.base := rfl

@[simp]
theorem base_put (t : Tree) (place : Place) (node : Node) : (t.put place node).base = t.base := rfl

/-! ### What is at a place after a change -/

theorem lookup_filter_ne {nodes : List (Place × Node)} {erased place : Place}
    (hplace : place ≠ erased) :
    (nodes.filter fun entry => entry.1 != erased).lookup place = nodes.lookup place := by
  induction nodes with
  | nil => rfl
  | cons entry rest ih =>
      obtain ⟨found, node⟩ := entry
      by_cases hkept : found = erased
      · have hother : (place == found) = false := beq_false_of_ne (hkept ▸ hplace)
        simpa [hkept, List.lookup_cons, hkept ▸ hother] using ih
      · simp [hkept, List.lookup_cons, ih]

theorem lookup_filter_self {nodes : List (Place × Node)} {erased : Place} :
    (nodes.filter fun entry => entry.1 != erased).lookup erased = none := by
  rw [List.lookup_eq_none_iff]
  intro entry hentry
  have hkept := (List.mem_filter.mp hentry).2
  exact bne_iff_ne.mpr (Ne.symm (bne_iff_ne.mp hkept))

theorem find?_erase_self {t : Tree} {place : Place} (hplace : place ≠ []) :
    (t.erase place).find? place = none := by
  simp [find?, erase, hplace, lookup_filter_self]

theorem find?_erase_ne {t : Tree} {erased place : Place} (hplace : place ≠ erased) :
    (t.erase erased).find? place = t.find? place := by
  simp [find?, erase, lookup_filter_ne hplace]

theorem find?_put_self {t : Tree} {place : Place} {node : Node} (hplace : place ≠ []) :
    (t.put place node).find? place = some node := by
  simp [find?, put, hplace]

theorem find?_put_ne {t : Tree} {put place : Place} {node : Node} (hplace : place ≠ put) :
    (t.put put node).find? place = t.find? place := by
  have hother : (place == put) = false := beq_false_of_ne hplace
  simp [find?, Tree.put, erase, List.lookup_cons, hother, lookup_filter_ne hplace]

/-! ### Paths -/

/-- Walk the names of a path from a place whose node is known. -/
def walk (t : Tree) (place : Place) (node : Node) : List String → Except Errno Target
  | [] => .ok (.present place node)
  | name :: rest =>
      if node ≠ .directory then .error .notADirectory
      else if name = "" ∨ name = "." then t.walk place node rest
      else if name = ".." then t.walk place.dropLast .directory rest
      else if maxNameBytes < name.utf8ByteSize then .error .nameTooLong
      else
        let child := place ++ [name]
        match t.find? child, rest with
        | some found, _ => t.walk child found rest
        | none, [] => .ok (.free child)
        | none, _ :: _ => .error .noEntry

/-- What a path leads to. -/
def resolve (t : Tree) (path : String) : Except Fault Target :=
  if hasNul path then .error .nulInName
  else if path.isEmpty then .error (.system .noEntry)
  else if maxPathBytes < path.utf8ByteSize then .error (.system .nameTooLong)
  else
    let start := if path.startsWith "/" then [] else t.base
    (t.walk start .directory (components path)).mapError .system

/-- The node at the end of a path, which has to exist. -/
def stat (t : Tree) (path : String) : Except Fault Node :=
  match t.resolve path with
  | .error fault => .error fault
  | .ok (.free _) => .error (.system .noEntry)
  | .ok (.present _ node) => .ok node

/-- Everything that can be read at the end of a path. -/
def read (t : Tree) (path : String) : Except Fault ByteArray :=
  match t.stat path with
  | .error fault => .error fault
  | .ok (.file content) => .ok content
  | .ok .directory => .error (.system .isADirectory)
  | .ok (.socket _) => .error (.system .noDevice)
  | .ok .device => .ok ByteArray.empty
  | .ok .terminal => .ok ByteArray.empty

end Tree

/-! ### Temporary files -/

/-- What the names of temporary files begin with. -/
def temporaryStart : List Char := ['.', 't', 'm', 'p']

/-- Nothing but letters and digits comes after the start. -/
def IsTemporaryName (name : String) : Prop :=
  ∃ letters : List Char, name.toList = temporaryStart ++ letters ∧ ∀ c ∈ letters, c.isAlphanum

/-- A way to name temporary files. -/
structure TemporaryNames where
  name : Tree → Place → String
  formed : ∀ (t : Tree) (dir : Place), IsTemporaryName (name t dir)
  free : ∀ (t : Tree) (dir : Place), t.find? (dir ++ [name t dir]) = none

namespace TemporaryNames

/-- A temporary name with a given number of letters. -/
def lettered (count : Nat) : String :=
  String.ofList (temporaryStart ++ List.replicate count 'x')

theorem lt_length_lettered (count : Nat) : count < (lettered count).length := by
  rw [lettered, String.length_ofList, List.length_append, List.length_replicate]
  exact Nat.lt_add_of_pos_left (by decide)

/-- How long the last name of a place is. -/
def lastLength (place : Place) : Nat :=
  (place.getLast?.getD "").length

/-- How long the last names of all places are together. -/
def totalLength : List (Place × Node) → Nat
  | [] => 0
  | entry :: rest => lastLength entry.1 + totalLength rest

theorem lastLength_le_totalLength {nodes : List (Place × Node)} {place : Place} {node : Node}
    (hfound : nodes.lookup place = some node) : lastLength place ≤ totalLength nodes := by
  induction nodes with
  | nil => cases hfound
  | cons entry rest ih =>
      rw [totalLength]
      rw [List.lookup_cons] at hfound
      split at hfound
      · rename_i hsame
        rw [beq_iff_eq.mp hsame]
        exact Nat.le_add_right _ _
      · exact Nat.le_trans (ih hfound) (Nat.le_add_left _ _)

/-- Every temporary file gets a name that is longer than all in the tree. -/
def longer : TemporaryNames where
  name t _ := lettered (totalLength t.nodes)
  formed t _ := by
    refine ⟨List.replicate (totalLength t.nodes) 'x', String.toList_ofList, fun c hc => ?_⟩
    rw [List.eq_of_mem_replicate hc]
    rfl
  free t dir := by
    have hroot : dir ++ [lettered (totalLength t.nodes)] ≠ [] := by simp
    rw [Tree.find?, if_neg hroot]
    cases hfound : t.nodes.lookup (dir ++ [lettered (totalLength t.nodes)]) with
    | none => rfl
    | some node =>
        have hle := lastLength_le_totalLength hfound
        have hlength : lastLength (dir ++ [lettered (totalLength t.nodes)]) =
            (lettered (totalLength t.nodes)).length := by
          rw [lastLength, List.getLast?_concat, Option.getD_some]
        rw [hlength] at hle
        exact absurd hle (Nat.not_le_of_lt (lt_length_lettered _))

end TemporaryNames

namespace Tree

/-- Create an empty file in a directory, under the name that it gets. -/
def createTemporary (t : Tree) (names : TemporaryNames) (dir : String) :
    Except Fault (Place × Tree) :=
  match t.resolve (join dir ".") with
  | .error fault => .error fault
  | .ok (.free _) => .error (.system .noEntry)
  | .ok (.present place .directory) =>
      let file := place ++ [names.name t place]
      .ok (file, t.put file (.file ByteArray.empty))
  | .ok (.present _ _) => .error (.system .notADirectory)

/-- Move the file at a place to the end of a path, over a plain file that may
be there but not over a directory. -/
def rename (t : Tree) (source : Place) (path : String) : Except Fault Tree :=
  match t.resolve path with
  | .error fault => .error (if hasNul path then .system .invalidArgument else fault)
  | .ok (.present _ .directory) => .error (.system .isADirectory)
  | .ok (.present place _) | .ok (.free place) =>
      match t.find? source with
      | none => .error (.system .noEntry)
      | some node => .ok ((t.erase source).put place node)

/-- Remove the file at the end of a path, if there is one. -/
def remove (t : Tree) (path : String) : Tree :=
  match t.resolve path with
  | .ok (.present place node) => if node = .directory then t else t.erase place
  | _ => t

/-- Put a node at a path below the working directory, with the directories
that lead to it. -/
def plant (t : Tree) (path : String) (node : Node) : Tree :=
  let names := (components path).filter fun name => name != "" && name != "."
  let place := t.base ++ names
  let above := (List.range names.length).map fun depth => t.base ++ names.take depth
  let rooted := above.foldl
    (fun t dir => if (t.find? dir).isSome then t else t.put dir .directory) t
  rooted.put place node

/-- The nodes below the working directory, by their names from there. -/
def listing (t : Tree) : List (Place × Node) :=
  t.nodes.filterMap fun (place, node) =>
    if t.base.isPrefixOf place ∧ place ≠ t.base then some (place.drop t.base.length, node)
    else none

end Tree

end SerialConsole.Files
