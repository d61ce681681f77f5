import Mathlib.Logic.Function.Iterate
import SerialConsole.Log.Selection

/-!
# A selection switch by switch

A selection is a switch for every category and every subsystem.  A change sets
some of them or flips one, and what it does to a switch does not depend on the
others: how a switch ends up is told by what the changes have done to it alone.
-/

namespace SerialConsole.Log

inductive Switch where
  | category (category : Category)
  | subsystem (subsystem : Subsystem)
  deriving DecidableEq, Repr

inductive Change where
  | setCategory (category : Category) (enabled : Bool)
  | toggleCategory (category : Category)
  | setSubsystem (subsystem : Subsystem) (enabled : Bool)
  | toggleSubsystem (subsystem : Subsystem)
  | setAllSubsystems (enabled : Bool)
  deriving DecidableEq, Repr

/-- What is done to one switch. -/
inductive Flick where
  | set (enabled : Bool)
  | flip
  deriving DecidableEq, Repr

def Flick.apply : Flick → Bool → Bool
  | .set enabled, _ => enabled
  | .flip, enabled => !enabled

/-- To change one value of a family is to change what stands at its place. -/
theorem Flick.apply_at {α : Type} [DecidableEq α] (flick : Flick) (enabled : α → Bool) (x y : α) :
    (if y = x then flick.apply (enabled x) else enabled y) =
      (if x = y then some flick else none).elim (enabled y) fun f => f.apply (enabled y) := by
  by_cases hxy : x = y
  · subst hxy
    rw [if_pos rfl, if_pos rfl, Option.elim_some]
  · rw [if_neg (Ne.symm hxy), if_neg hxy, Option.elim_none]

/-- What a change does to a switch, if it concerns it. -/
def Change.flick? : Change → Switch → Option Flick
  | .setCategory category enabled, .category c =>
      if category = c then some (.set enabled) else none
  | .toggleCategory category, .category c => if category = c then some .flip else none
  | .setSubsystem subsystem enabled, .subsystem m =>
      if subsystem = m then some (.set enabled) else none
  | .toggleSubsystem subsystem, .subsystem m => if subsystem = m then some .flip else none
  | .setAllSubsystems enabled, .subsystem _ => some (.set enabled)
  | _, _ => none

/-- The change that flips a switch. -/
def Switch.toggle : Switch → Change
  | .category c => .toggleCategory c
  | .subsystem m => .toggleSubsystem m

theorem Switch.flick?_toggle (switch other : Switch) :
    switch.toggle.flick? other = if switch = other then some .flip else none := by
  cases switch <;> cases other <;> simp [toggle, Change.flick?]

namespace Selection

def isOn (s : Selection) : Switch → Bool
  | .category category => s.categories category
  | .subsystem subsystem => s.subsystems subsystem

def change (s : Selection) : Change → Selection
  | .setCategory category enabled => s.setCategory category enabled
  | .toggleCategory category => s.toggleCategory category
  | .setSubsystem subsystem enabled => s.setSubsystem subsystem enabled
  | .toggleSubsystem subsystem => s.toggleSubsystem subsystem
  | .setAllSubsystems enabled => s.setAllSubsystems enabled

/-- The selection after changes made one after the other. -/
def changed (s : Selection) (changes : List Change) : Selection :=
  changes.foldl change s

end Selection

/-- Where a switch ends up that is set and flipped in turn. -/
def settle (start : Bool) (flicks : List Flick) : Bool :=
  flicks.foldl (fun enabled flick => flick.apply enabled) start

/-- All that changes do to one switch, in order. -/
def flicksOf (switch : Switch) (changes : List Change) : List Flick :=
  changes.filterMap (·.flick? switch)

/-- How often changes flip a switch. -/
def flipsOf (switch : Switch) (changes : List Change) : Nat :=
  (flicksOf switch changes).count .flip

/-- No change sets the switch. -/
def NeverSet (switch : Switch) (changes : List Change) : Prop :=
  ∀ change ∈ changes, ∀ enabled, change.flick? switch ≠ some (.set enabled)

/-! ### One switch -/

section Settling

variable {start : Bool} {flicks : List Flick}

/-- What was done to a switch before it was set does not count. -/
theorem settle_append_set (before after : List Flick) (enabled : Bool) :
    settle start (before ++ .set enabled :: after) = settle enabled after := by
  rw [settle, List.foldl_append, List.foldl_cons]
  rfl

theorem settle_of_flips (hflips : ∀ flick ∈ flicks, flick = .flip) :
    settle start flicks = not^[flicks.count .flip] start := by
  induction flicks generalizing start with
  | nil => rfl
  | cons flick later ih =>
      obtain ⟨rfl, hlater⟩ := List.forall_mem_cons.mp hflips
      rw [List.count_cons_self, Function.iterate_succ_apply, ← ih hlater]
      rfl

theorem NeverSet.flips {switch : Switch} {changes : List Change}
    (hunset : NeverSet switch changes) : ∀ flick ∈ flicksOf switch changes, flick = .flip := by
  intro flick hflick
  obtain ⟨change, hchange, hthere⟩ := List.mem_filterMap.mp hflick
  cases flick with
  | set enabled => exact absurd hthere (hunset change hchange enabled)
  | flip => rfl

end Settling

namespace Selection

variable (s : Selection) {t : Selection} {switch : Switch} {changes others : List Change}

theorem ext_isOn (hsame : ∀ switch, s.isOn switch = t.isOn switch) : s = t :=
  ext (fun category => hsame (.category category)) fun subsystem => hsame (.subsystem subsystem)

/-- A change does to a switch what concerns it, and nothing else. -/
theorem isOn_change (change : Change) (switch : Switch) :
    (s.change change).isOn switch =
      (change.flick? switch).elim (s.isOn switch) fun flick => flick.apply (s.isOn switch) := by
  cases change with
  | setCategory category enabled =>
      cases switch with
      | category c => exact (Flick.set enabled).apply_at s.categories category c
      | subsystem m => rfl
  | toggleCategory category =>
      cases switch with
      | category c => exact Flick.flip.apply_at s.categories category c
      | subsystem m => rfl
  | setSubsystem subsystem enabled =>
      cases switch with
      | category c => rfl
      | subsystem m => exact (Flick.set enabled).apply_at s.subsystems subsystem m
  | toggleSubsystem subsystem =>
      cases switch with
      | category c => rfl
      | subsystem m => exact Flick.flip.apply_at s.subsystems subsystem m
  | setAllSubsystems enabled => cases switch <;> rfl

theorem isOn_changed (changes : List Change) (switch : Switch) :
    (s.changed changes).isOn switch = settle (s.isOn switch) (flicksOf switch changes) := by
  induction changes generalizing s with
  | nil => rfl
  | cons change later ih =>
      rw [changed, List.foldl_cons, ← changed, ih, isOn_change, flicksOf, flicksOf,
        List.filterMap_cons]
      cases change.flick? switch <;> rfl

theorem isOn_changed_of_neverSet (hunset : NeverSet switch changes) :
    (s.changed changes).isOn switch = not^[flipsOf switch changes] (s.isOn switch) := by
  rw [isOn_changed, settle_of_flips hunset.flips, flipsOf]

theorem isOn_changed_of_set (before after : List Change) {change : Change} {enabled : Bool}
    (hset : change.flick? switch = some (.set enabled)) (hunset : NeverSet switch after) :
    (s.changed (before ++ change :: after)).isOn switch = not^[flipsOf switch after] enabled := by
  have hflicks : flicksOf switch (before ++ change :: after) =
      flicksOf switch before ++ .set enabled :: flicksOf switch after := by
    rw [flicksOf, List.filterMap_append, List.filterMap_cons, hset]
    rfl
  rw [isOn_changed, hflicks, settle_append_set, settle_of_flips hunset.flips, flipsOf]

/-- Changes that do the same to every switch come to the same. -/
theorem changed_congr (hflicks : ∀ switch, flicksOf switch changes = flicksOf switch others) :
    s.changed changes = s.changed others := by
  apply ext_isOn
  intro switch
  rw [isOn_changed, isOn_changed, hflicks]

theorem changed_toggle_toggle (switch : Switch) : s.changed [switch.toggle, switch.toggle] = s := by
  apply ext_isOn
  intro other
  rw [isOn_changed, flicksOf, List.filterMap_cons, List.filterMap_cons, List.filterMap_nil,
    switch.flick?_toggle]
  by_cases hother : switch = other
  · rw [if_pos hother]
    exact Bool.not_not _
  · rw [if_neg hother]
    rfl

end Selection

/-! ### Changes in another order -/

/-- No switch is concerned by both changes. -/
def Change.Apart (first second : Change) : Prop :=
  ∀ switch, first.flick? switch = none ∨ second.flick? switch = none

/-- The same changes, where neighbours that are apart may have changed places. -/
inductive Reordered : List Change → List Change → Prop where
  | refl (changes : List Change) : Reordered changes changes
  | swap (before after : List Change) {first second : Change} (hapart : first.Apart second) :
      Reordered (before ++ first :: second :: after) (before ++ second :: first :: after)
  | trans {changes between others : List Change} (hfront : Reordered changes between)
      (hback : Reordered between others) : Reordered changes others

theorem Reordered.flicksOf_eq {changes others : List Change} (hreordered : Reordered changes others)
    (switch : Switch) : flicksOf switch changes = flicksOf switch others := by
  induction hreordered with
  | refl => rfl
  | swap before after hapart =>
      simp only [flicksOf, List.filterMap_append, List.filterMap_cons]
      rcases hapart switch with hnone | hnone <;> rw [hnone]
  | trans _ _ hfront hback => exact hfront.trans hback

/-- How each switch of a selection ends up after changes: as it was last set,
or else as it was, and flipped once for each time it was flipped since. -/
structure ToldBySwitches (s : Selection) (changes : List Change) : Prop where
  neverSet : ∀ switch, NeverSet switch changes →
    (s.changed changes).isOn switch = not^[flipsOf switch changes] (s.isOn switch)
  lastSet : ∀ switch before change after enabled, changes = before ++ change :: after →
    change.flick? switch = some (.set enabled) → NeverSet switch after →
    (s.changed changes).isOn switch = not^[flipsOf switch after] enabled
  /-- What is done to other switches does not count. -/
  alone : ∀ switch others, flicksOf switch changes = flicksOf switch others →
    (s.changed changes).isOn switch = (s.changed others).isOn switch

theorem toldBySwitches (s : Selection) (changes : List Change) : ToldBySwitches s changes := by
  constructor
  case neverSet => exact fun switch hunset => s.isOn_changed_of_neverSet hunset
  case lastSet =>
    rintro switch before change after enabled rfl hset hunset
    exact s.isOn_changed_of_set before after hset hunset
  case alone =>
    intro switch others hflicks
    rw [Selection.isOn_changed, Selection.isOn_changed, hflicks]

end SerialConsole.Log
