import SerialConsole.Proofs.Files.Paths

/-!
# What a change of the tree leaves alone

A change that touches a few places, none of them a directory before or after,
leaves every path leading where it led.  A tree that has lost nodes and gained
none reads nothing that could not be read before.
-/

namespace SerialConsole.Files.Tree

variable {before after : Tree} {path : String}

theorem ne_root_of_find?_eq_none {t : Tree} {place : Place} (hnone : t.find? place = none) :
    place ≠ [] := by
  rintro rfl
  cases hnone

/-- Removing the file that a path leads to empties its place. -/
theorem remove_eq_erase {t : Tree} {file : Place} {node : Node} (hpath : t.LeadsTo path file)
    (hnode : t.find? file = some node) : t.remove path = t.erase file := by
  have hdirectory : node ≠ .directory := by
    rintro rfl
    exact hpath.way.find?_ne_directory hnode
  simp only [remove, hpath.resolve_eq_ok, target, hnode]
  exact if_neg hdirectory

/-- The trees differ at the given places at most. -/
structure SameBut (before after : Tree) (places : List Place) : Prop where
  base_eq : after.base = before.base
  find?_eq : ∀ place, place ∉ places → after.find? place = before.find? place

/-- Every node of the tree is in the other one, at the same place. -/
structure Within (t whole : Tree) : Prop where
  base_eq : whole.base = t.base
  find?_eq : ∀ place node, t.find? place = some node → whole.find? place = some node

namespace SameBut

variable {places : List Place}

theorem refl (t : Tree) : t.SameBut t [] where
  base_eq := rfl
  find?_eq := fun _ _ => rfl

theorem symm (hsame : before.SameBut after places) : after.SameBut before places where
  base_eq := hsame.base_eq.symm
  find?_eq := fun place hplace => (hsame.find?_eq place hplace).symm

theorem trans {middle : Tree} {others : List Place} (hfirst : before.SameBut middle places)
    (hsecond : middle.SameBut after others) : before.SameBut after (places ++ others) where
  base_eq := by rw [hsecond.base_eq, hfirst.base_eq]
  find?_eq := by
    intro place hplace
    obtain ⟨hplaces, hothers⟩ := not_or.mp (mt List.mem_append.mpr hplace)
    rw [hsecond.find?_eq place hothers, hfirst.find?_eq place hplaces]

/-- Places that came out as they were need not be counted. -/
theorem shrink {fewer : List Place} (hsame : before.SameBut after places)
    (hback : ∀ place ∈ places, place ∉ fewer → after.find? place = before.find? place) :
    before.SameBut after fewer where
  base_eq := hsame.base_eq
  find?_eq := by
    intro place hfewer
    by_cases hplace : place ∈ places
    · exact hback place hplace hfewer
    · exact hsame.find?_eq place hplace

theorem erase {place : Place} (hsame : before.SameBut after places) (hplace : place ∈ places) :
    before.SameBut (after.erase place) places where
  base_eq := hsame.base_eq
  find?_eq := by
    intro other hother
    have hne : other ≠ place := fun heq => hother (heq ▸ hplace)
    rw [find?_erase_ne hne, hsame.find?_eq other hother]

/-- A new file that is removed again leaves no trace. -/
theorem erase_fresh {place : Place} (hsame : before.SameBut after (place :: places))
    (hfresh : before.find? place = none) : before.SameBut (after.erase place) places := by
  refine (hsame.erase List.mem_cons_self).shrink ?_
  intro other hother hplaces
  obtain rfl | hmem := List.mem_cons.mp hother
  · rw [find?_erase_self (ne_root_of_find?_eq_none hfresh), hfresh]
  · exact absurd hmem hplaces

/-- Where paths lead does not change as long as no directory does. -/
theorem leadsTo (hsame : before.SameBut after places)
    (hbefore : ∀ place ∈ places, before.find? place ≠ some .directory)
    (hafter : ∀ place ∈ places, after.find? place ≠ some .directory) {file : Place}
    (hpath : before.LeadsTo path file) : after.LeadsTo path file := by
  refine hpath.mono hsame.base_eq ?_ ?_
  · intro dir hdir
    have huntouched : dir ∉ places := fun hmem => hbefore dir hmem hdir
    rw [hsame.find?_eq dir huntouched, hdir]
  · by_cases hfile : file ∈ places
    · exact hafter file hfile
    · rw [hsame.find?_eq file hfile]
      exact hpath.way.find?_ne_directory

/-- If the touched places are empty now, nothing was gained. -/
theorem within (hsame : before.SameBut after places)
    (hgone : ∀ place ∈ places, after.find? place = none) : after.Within before where
  base_eq := hsame.base_eq.symm
  find?_eq := by
    intro place node hnode
    have huntouched : place ∉ places := by
      intro hmem
      rw [hgone place hmem] at hnode
      cases hnode
    rw [← hsame.find?_eq place huntouched, hnode]

theorem walk_eq (hsame : before.SameBut after []) (place : Place) (node : Node)
    (names : List String) : after.walk place node names = before.walk place node names := by
  have hfind : after.find? = before.find? := funext fun other => hsame.find?_eq other nofun
  induction names generalizing place node with
  | nil => rfl
  | cons name rest ih => simp only [walk, hfind, ih]

/-- Trees that differ nowhere show the same at every path. -/
theorem stat_eq (hsame : before.SameBut after []) (path : String) :
    after.stat path = before.stat path := by
  simp only [stat, resolve, hsame.base_eq, hsame.walk_eq]

end SameBut

namespace Within

variable {t whole : Tree}

/-- A walk that arrives at a node arrives there in the larger tree too. -/
theorem walk_eq_ok (hwithin : t.Within whole) {names : List String} {place found : Place}
    {node reached : Node} (hwalk : t.walk place node names = .ok (.present found reached)) :
    whole.walk place node names = .ok (.present found reached) := by
  fun_induction t.walk place node names with
  | case1 place node => exact hwalk
  | case2 place node name rest hnode => cases hwalk
  | case3 place node name rest hnode hstay ih =>
      rw [walk, if_neg hnode, if_pos hstay]
      exact ih hwalk
  | case4 place node rest hnode hstay ih =>
      rw [walk, if_neg hnode, if_neg hstay, if_pos rfl]
      exact ih hwalk
  | case5 place node name rest hnode hstay hup hlength => cases hwalk
  | case6 place node name rest hnode hstay hup hlength child next hchild ih =>
      rw [walk, if_neg hnode, if_neg hstay, if_neg hup, if_neg hlength]
      have hkept : whole.find? (place ++ [name]) = some next := hwithin.find?_eq _ _ hchild
      simp only [hkept]
      exact ih hwalk
  | case7 => cases hwalk
  | case8 => cases hwalk

theorem resolve_eq_ok (hwithin : t.Within whole) {found : Place} {reached : Node}
    (hresolve : t.resolve path = .ok (.present found reached)) :
    whole.resolve path = .ok (.present found reached) := by
  obtain ⟨hnul, hempty, hlength, hwalk⟩ := resolve_eq_ok_iff.mp hresolve
  have hstart : whole.start path = t.start path := by rw [start, start, hwithin.base_eq]
  exact resolve_eq_ok_iff.mpr ⟨hnul, hempty, hlength, by rw [hstart, hwithin.walk_eq_ok hwalk]⟩

theorem stat_eq_ok (hwithin : t.Within whole) {node : Node} (hstat : t.stat path = .ok node) :
    whole.stat path = .ok node := by
  rw [stat] at hstat
  split at hstat
  · cases hstat
  · cases hstat
  · rename_i place found hresolve
    rw [stat, hwithin.resolve_eq_ok hresolve]
    exact hstat

theorem read_eq_ok (hwithin : t.Within whole) {content : ByteArray}
    (hread : t.read path = .ok content) : whole.read path = .ok content := by
  rw [read] at hread
  cases hstat : t.stat path with
  | error fault =>
      rw [hstat] at hread
      cases hread
  | ok node =>
      rw [read, hwithin.stat_eq_ok hstat, ← hread, hstat]

end Within

end SerialConsole.Files.Tree
