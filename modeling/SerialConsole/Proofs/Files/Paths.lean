import Mathlib.Data.List.Nodup
import Std.Data.String.ToNat
import SerialConsole.Files.Tree

/-!
# Where paths lead

A file can be put where a path leads, unless a directory is there.  The walk to
such a place passes directories only, and so a change of the tree that keeps
the directories keeps the way.
-/

namespace SerialConsole.Files

namespace Target

def place : Target → Place
  | .present place _ => place
  | .free place => place

/-- Not a directory. -/
def TakesFile : Target → Prop
  | .present _ node => node ≠ .directory
  | .free _ => True

theorem takesFile_or_directory (target : Target) :
    target.TakesFile ∨ ∃ place, target = .present place .directory := by
  cases target with
  | present place node =>
      by_cases hnode : node = .directory
      · exact .inr ⟨place, by rw [hnode]⟩
      · exact .inl hnode
  | free place => exact .inl trivial

end Target

/-- A name that an entry of a directory can have. -/
def IsEntryName (name : String) : Prop :=
  name ≠ "" ∧ name ≠ "." ∧ name ≠ ".." ∧ name.utf8ByteSize ≤ maxNameBytes

namespace Tree

/-- The names lead from a directory to a place for a file. -/
inductive Leads (t : Tree) : Place → List String → Place → Prop where
  | here {place : Place} {name : String} (hname : IsEntryName name)
      (hfile : t.find? (place ++ [name]) ≠ some .directory) :
      Leads t place [name] (place ++ [name])
  | stay {place file : Place} {name : String} {rest : List String}
      (hname : name = "" ∨ name = ".") (hrest : Leads t place rest file) :
      Leads t place (name :: rest) file
  | up {place file : Place} {rest : List String} (hrest : Leads t place.dropLast rest file) :
      Leads t place (".." :: rest) file
  | down {place file : Place} {name : String} {rest : List String} (hname : IsEntryName name)
      (hchild : t.find? (place ++ [name]) = some .directory)
      (hrest : Leads t (place ++ [name]) rest file) :
      Leads t place (name :: rest) file

/-- What a path to the place leads to. -/
def target (t : Tree) (file : Place) : Target :=
  match t.find? file with
  | some node => .present file node
  | none => .free file

/-- From a file there is no way on. -/
theorem walk_eq_ok_of_ne_directory {t : Tree} {place : Place} {node : Node}
    {names : List String} {target : Target} (hnode : node ≠ .directory)
    (hwalk : t.walk place node names = .ok target) :
    names = [] ∧ target = .present place node := by
  cases names with
  | nil =>
      rw [walk] at hwalk
      exact ⟨rfl, (Except.ok.inj hwalk).symm⟩
  | cons name rest =>
      rw [walk, if_pos hnode] at hwalk
      cases hwalk

theorem walk_down {t : Tree} {place : Place} {name : String} {rest : List String}
    (hname : IsEntryName name) :
    t.walk place .directory (name :: rest) =
      match t.find? (place ++ [name]), rest with
      | some found, _ => t.walk (place ++ [name]) found rest
      | none, [] => .ok (.free (place ++ [name]))
      | none, _ :: _ => .error .noEntry := by
  obtain ⟨hempty, hdot, hdots, hlength⟩ := hname
  rw [walk]
  exact (if_neg (not_not_intro rfl)).trans ((if_neg (not_or_intro hempty hdot)).trans
    ((if_neg hdots).trans (if_neg (Nat.not_lt.mpr hlength))))

/-- A walk that ends with a file, or where one can be, was a way to it. -/
theorem leads_of_walk {t : Tree} {names : List String} {place : Place} {target : Target}
    (hwalk : t.walk place .directory names = .ok target) (htakes : target.TakesFile) :
    t.Leads place names target.place := by
  induction names generalizing place with
  | nil =>
      rw [walk] at hwalk
      cases hwalk
      exact absurd rfl htakes
  | cons name rest ih =>
      by_cases hstay : name = "" ∨ name = "."
      · simp only [walk, ne_eq, not_true_eq_false, if_false, hstay, if_true] at hwalk
        exact .stay hstay (ih hwalk)
      obtain ⟨hempty, hdot⟩ := not_or.mp hstay
      by_cases hup : name = ".."
      · subst hup
        simp only [walk, ne_eq, not_true_eq_false, if_false, hstay, if_true] at hwalk
        exact .up (ih hwalk)
      by_cases hlength : name.utf8ByteSize ≤ maxNameBytes
      · have hname : IsEntryName name := ⟨hempty, hdot, hup, hlength⟩
        rw [walk_down hname] at hwalk
        cases hfound : t.find? (place ++ [name]) with
        | none =>
            cases rest with
            | nil =>
                rw [hfound] at hwalk
                cases hwalk
                exact .here hname (by simp [hfound])
            | cons next rest =>
                rw [hfound] at hwalk
                cases hwalk
        | some found =>
            rw [hfound] at hwalk
            by_cases hdirectory : found = .directory
            · subst hdirectory
              exact .down hname hfound (ih hwalk)
            · obtain ⟨hrest, htarget⟩ := walk_eq_ok_of_ne_directory hdirectory hwalk
              subst hrest htarget
              exact .here hname (by simpa [hfound] using hdirectory)
      · rw [walk, if_neg (by simp), if_neg hstay, if_neg hup,
          if_pos (Nat.lt_of_not_le hlength)] at hwalk
        cases hwalk

namespace Leads

variable {t : Tree} {place file : Place} {names : List String}

theorem find?_ne_directory (hway : t.Leads place names file) :
    t.find? file ≠ some .directory := by
  induction hway with
  | here hname hfile => exact hfile
  | stay hname hrest ih => exact ih
  | up hrest ih => exact ih
  | down hname hchild hrest ih => exact ih

/-- The last name of a path is the name of the file. -/
theorem exists_name (hway : t.Leads place names file) :
    ∃ before dir name, names = before ++ [name] ∧ file = dir ++ [name] := by
  induction hway with
  | @here place name hname hfile => exact ⟨[], place, name, rfl, rfl⟩
  | @stay place file skipped rest hname hrest ih =>
      obtain ⟨before, dir, name, hnames, hplace⟩ := ih
      exact ⟨skipped :: before, dir, name, by rw [hnames]; rfl, hplace⟩
  | up hrest ih =>
      obtain ⟨before, dir, name, hnames, hplace⟩ := ih
      exact ⟨".." :: before, dir, name, by rw [hnames]; rfl, hplace⟩
  | @down place file passed rest hname hchild hrest ih =>
      obtain ⟨before, dir, name, hnames, hplace⟩ := ih
      exact ⟨passed :: before, dir, name, by rw [hnames]; rfl, hplace⟩

theorem getLast?_eq (hway : t.Leads place names file) : file.getLast? = names.getLast? := by
  obtain ⟨before, dir, name, hnames, hplace⟩ := hway.exists_name
  rw [hnames, hplace, List.getLast?_concat, List.getLast?_concat]

theorem ne_root (hway : t.Leads place names file) : file ≠ [] := by
  obtain ⟨before, dir, name, hnames, hplace⟩ := hway.exists_name
  rw [hplace]
  exact List.append_ne_nil_of_right_ne_nil dir (List.cons_ne_nil name [])

/-- A way stays as long as its directories do and its end does not become
one. -/
theorem mono (hway : t.Leads place names file) {later : Tree}
    (hkept : ∀ dir, t.find? dir = some .directory → later.find? dir = some .directory)
    (hfile : later.find? file ≠ some .directory) : later.Leads place names file := by
  induction hway with
  | here hname hbefore => exact .here hname hfile
  | stay hname hrest ih => exact .stay hname (ih hfile)
  | up hrest ih => exact .up (ih hfile)
  | down hname hchild hrest ih => exact .down hname (hkept _ hchild) (ih hfile)

theorem walk_eq_ok (hway : t.Leads place names file) :
    t.walk place .directory names = .ok (t.target file) := by
  induction hway with
  | @here place name hname hfile =>
      rw [walk_down hname, target]
      cases t.find? (place ++ [name]) <;> rfl
  | stay hname hrest ih =>
      rw [walk, if_neg (by simp), if_pos hname]
      exact ih
  | up hrest ih =>
      rw [walk, if_neg (by simp), if_neg (by decide), if_pos rfl]
      exact ih
  | down hname hchild hrest ih =>
      rw [walk_down hname, hchild]
      exact ih

end Leads

/-! ### Paths in a tree -/

/-- Where the walk along a path starts. -/
def start (t : Tree) (path : String) : Place :=
  if path.startsWith "/" then [] else t.base

/-- The path leads to a place for a file. -/
structure LeadsTo (t : Tree) (path : String) (file : Place) : Prop where
  noNul : hasNul path = false
  nonempty : path.isEmpty = false
  short : path.utf8ByteSize ≤ maxPathBytes
  way : t.Leads (t.start path) (components path) file

/-- A path that can be looked up at all is walked from its start. -/
theorem resolve_eq_ok_iff {t : Tree} {path : String} {target : Target} :
    t.resolve path = .ok target ↔
      hasNul path = false ∧ path.isEmpty = false ∧ path.utf8ByteSize ≤ maxPathBytes ∧
        t.walk (t.start path) .directory (components path) = .ok target := by
  rw [resolve]
  change (if _ then _ else if _ then _ else if _ then _ else
    (t.walk (t.start path) .directory (components path)).mapError _) = _ ↔ _
  split
  · rename_i hnul
    simp [hnul]
  split
  · rename_i hempty
    simp [hempty]
  split
  · rename_i hlength
    simp [Nat.not_le.mpr hlength]
  · rename_i hnul hempty hlength
    rw [Bool.not_eq_true] at hnul hempty
    simp only [hnul, hempty, Nat.le_of_not_lt hlength, true_and]
    cases t.walk (t.start path) .directory (components path) <;> simp [Except.mapError]

theorem leadsTo_of_resolve {t : Tree} {path : String} {target : Target}
    (hresolve : t.resolve path = .ok target) (htakes : target.TakesFile) :
    t.LeadsTo path target.place := by
  obtain ⟨hnul, hempty, hlength, hwalk⟩ := resolve_eq_ok_iff.mp hresolve
  exact {
    noNul := hnul
    nonempty := hempty
    short := hlength
    way := leads_of_walk hwalk htakes }

namespace LeadsTo

variable {t : Tree} {path : String} {file : Place}

theorem resolve_eq_ok (hpath : t.LeadsTo path file) : t.resolve path = .ok (t.target file) :=
  resolve_eq_ok_iff.mpr ⟨hpath.noNul, hpath.nonempty, hpath.short, hpath.way.walk_eq_ok⟩

theorem read_eq_ok (hpath : t.LeadsTo path file) {content : ByteArray}
    (hfile : t.find? file = some (.file content)) : t.read path = .ok content := by
  simp only [read, stat, hpath.resolve_eq_ok, target, hfile]

theorem stat_eq_noEntry (hpath : t.LeadsTo path file) (hfile : t.find? file = none) :
    t.stat path = .error (.system .noEntry) := by
  simp only [stat, hpath.resolve_eq_ok, target, hfile]

theorem mono (hpath : t.LeadsTo path file) {later : Tree} (hbase : later.base = t.base)
    (hkept : ∀ dir, t.find? dir = some .directory → later.find? dir = some .directory)
    (hfile : later.find? file ≠ some .directory) : later.LeadsTo path file where
  noNul := hpath.noNul
  nonempty := hpath.nonempty
  short := hpath.short
  way := by
    have hstart : later.start path = t.start path := by rw [start, start, hbase]
    rw [hstart]
    exact hpath.way.mono hkept hfile

end LeadsTo

theorem rename_of_resolve {t : Tree} {source : Place} {path : String} {target : Target}
    (hresolve : t.resolve path = .ok target) (htakes : target.TakesFile) :
    t.rename source path =
      match t.find? source with
      | none => .error (.system .noEntry)
      | some node => .ok ((t.erase source).put target.place node) := by
  rw [rename, hresolve]
  cases target with
  | present place node =>
      cases node with
      | directory => exact absurd rfl htakes
      | file content | socket served | device | terminal => rfl
  | free place => rfl

/-- What moving a file into place has done, if it succeeded. -/
theorem rename_eq_ok {t after : Tree} {source : Place} {path : String}
    (hrename : t.rename source path = .ok after) :
    ∃ file node, t.LeadsTo path file ∧ t.find? source = some node ∧
      after = (t.erase source).put file node := by
  cases hresolve : t.resolve path with
  | error fault =>
      rw [rename, hresolve] at hrename
      cases hrename
  | ok target =>
      obtain htakes | ⟨place, rfl⟩ := target.takesFile_or_directory
      swap
      · rw [rename, hresolve] at hrename
        cases hrename
      rw [rename_of_resolve hresolve htakes] at hrename
      cases hsource : t.find? source with
      | none =>
          rw [hsource] at hrename
          cases hrename
      | some node =>
          rw [hsource] at hrename
          exact ⟨target.place, node, leadsTo_of_resolve hresolve htakes, rfl,
            (Except.ok.inj hrename).symm⟩

/-! ### Temporary files -/

/-- What creating a temporary file has done, if it succeeded. -/
theorem createTemporary_eq_ok {t after : Tree} {names : TemporaryNames} {dir : String}
    {file : Place} (hcreate : t.createTemporary names dir = .ok (file, after)) :
    ∃ place name, file = place ++ [name] ∧ IsTemporaryName name ∧ t.find? file = none ∧
      after = t.put file (.file ByteArray.empty) := by
  unfold createTemporary at hcreate
  split at hcreate
  · cases hcreate
  · cases hcreate
  · rename_i place hresolve
    cases hcreate
    exact ⟨place, names.name t place, rfl, names.formed t place, names.free t place, rfl⟩
  · cases hcreate

end Tree

theorem IsTemporaryName.underscore_notMem {name : String} (hname : IsTemporaryName name) :
    '_' ∉ name.toList := by
  obtain ⟨letters, hchars, hletters⟩ := hname
  rw [hchars, List.mem_append, not_or]
  refine ⟨by decide, fun hmem => ?_⟩
  exact absurd (hletters '_' hmem) (by decide)

end SerialConsole.Files
