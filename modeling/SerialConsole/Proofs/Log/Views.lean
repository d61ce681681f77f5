import Mathlib.Data.List.Induction
import SerialConsole.Proofs.Log.Switches

/-!
# Views of a history

A view is asked for one record at a time and passes over those that are not
shown.  Wherever it has got to, what it has given and what it would still give
are together all that is shown, and a copy goes on from the same place on its
own.  History and selection lie beside each other: no change to the one touches
the other.
-/

namespace SerialConsole.Log

/-- A record is admitted if its category is on, and its subsystem if it has one. -/
def Selection.Admits (s : Selection) (entry : Entry) : Prop :=
  s.isOn (.category entry.category) = true ∧
    ∀ subsystem ∈ entry.subsystem, s.isOn (.subsystem subsystem) = true

instance (s : Selection) (entry : Entry) : Decidable (s.Admits entry) :=
  inferInstanceAs (Decidable (_ ∧ _))

theorem Selection.shows_eq (s : Selection) (entry : Entry) :
    s.shows entry = decide (s.Admits entry) := by
  rw [Bool.eq_iff_iff, decide_eq_true_iff, shows, allows, Bool.and_eq_true, Option.all_eq_true]
  rfl

/-- The records of a history that a selection admits. -/
def History.admitted (h : History) (s : Selection) : List Entry :=
  h.entries.toList.filter fun entry => decide (s.Admits entry)

/-! ### One view -/

namespace Visible

/-- All that asking a view for the next record can come to. -/
inductive Advance (v : Visible) : Option (Entry × Visible) → Prop where
  | found (hidden later : List Entry) (entry : Entry)
      (hremaining : v.remaining = hidden ++ entry :: later)
      (hhidden : hidden.filter v.selection.shows = [])
      (hshown : v.selection.shows entry = true) :
      Advance v (some (entry, { v with remaining := later }))
  | ended (hhidden : v.remaining.filter v.selection.shows = []) : Advance v none

theorem advance_next? (v : Visible) : v.Advance v.next? := by
  have hsplit := List.takeWhile_append_dropWhile (p := fun entry => !v.selection.shows entry)
    (l := v.remaining)
  have hhidden : (v.remaining.takeWhile fun entry => !v.selection.shows entry).filter
      v.selection.shows = [] := by
    rw [List.filter_eq_nil_iff]
    intro entry hentry
    have hnot := List.all_takeWhile (p := fun entry => !v.selection.shows entry) (l := v.remaining)
    simpa using List.all_eq_true.mp hnot entry hentry
  have hhead := List.head?_dropWhile_not (fun entry => !v.selection.shows entry) v.remaining
  unfold next?
  generalize hrest : v.remaining.dropWhile (fun entry => !v.selection.shows entry) = rest at *
  cases rest with
  | nil =>
      rw [List.append_nil] at hsplit
      rw [hsplit] at hhidden
      exact .ended hhidden
  | cons entry later =>
      refine .found _ later entry hsplit.symm hhidden ?_
      simpa using hhead

variable {v : Visible} {count : Nat}

/-- A view gives the front of what is still to come, and then has the rest. -/
theorem take_eq (v : Visible) (count : Nat) :
    (v.take count).1 = v.toList.take count ∧ (v.take count).2.toList = v.toList.drop count := by
  induction count generalizing v with
  | zero => exact ⟨rfl, rfl⟩
  | succ count ih =>
      unfold take
      generalize hnext : v.next? = next
      have hadvance := v.advance_next?
      rw [hnext] at hadvance
      cases hadvance with
      | ended hhidden =>
          rw [toList, hhidden]
          exact ⟨rfl, rfl⟩
      | found hidden later entry hremaining hhidden hshown =>
          obtain ⟨htaken, hleft⟩ := ih { v with remaining := later }
          have hlist : v.toList = entry :: toList { v with remaining := later } := by
            rw [toList, hremaining, List.filter_append, hhidden, List.nil_append,
              List.filter_cons_of_pos hshown]
            rfl
          rw [hlist, List.take_succ_cons, List.drop_succ_cons]
          exact ⟨congrArg _ htaken, hleft⟩

/-- Asked for its next record, a view gives the first of those still to come. -/
theorem map_fst_next? (v : Visible) : v.next?.map Prod.fst = v.toList.head? := by
  generalize hnext : v.next? = next
  have hadvance := v.advance_next?
  rw [hnext] at hadvance
  cases hadvance with
  | ended hhidden =>
      rw [toList, hhidden]
      rfl
  | found hidden later entry hremaining hhidden hshown =>
      rw [toList, hremaining, List.filter_append, hhidden, List.nil_append,
        List.filter_cons_of_pos hshown]
      rfl

theorem length_toList_le (v : Visible) : v.toList.length ≤ v.sizeBounds.2 :=
  List.length_filter_le _ _

end Visible

/-! ### Views that are held at once -/

/-- A view, and what has been taken from it or, before it was copied, from the
one it is a copy of. -/
structure Held where
  view : Visible
  taken : List Entry

inductive Handling where
  /-- Ask the view at an index for its next record. -/
  | next (index : Nat)
  /-- Copy the view at an index; the copy is held behind all others. -/
  | copy (index : Nat)
  deriving DecidableEq, Repr

/-- Ask a view for its next record.  One that has none left stands at the end. -/
def Held.next (held : Held) : Held :=
  match held.view.next? with
  | none => { held with view := { held.view with remaining := [] } }
  | some (entry, rest) => { view := rest, taken := held.taken ++ [entry] }

def handle (views : List Held) : Handling → List Held
  | .next index => views.modify index Held.next
  | .copy index => views ++ views[index]?.toList

def handleAll (views : List Held) (steps : List Handling) : List Held :=
  steps.foldl handle views

/-- The view stands where exactly the records it has given have been passed. -/
structure Held.InPlace (held : Held) (h : History) (s : Selection) : Prop where
  selection : held.view.selection = s
  scanned : ∃ scanned, h.entries.toList = scanned ++ held.view.remaining ∧
    held.taken = scanned.filter s.shows

namespace Held.InPlace

variable {held : Held} {h : History} {s : Selection}

theorem start (h : History) (s : Selection) : InPlace ⟨h.visible s, []⟩ h s where
  selection := rfl
  scanned := ⟨[], rfl, rfl⟩

theorem next (hplace : held.InPlace h s) : held.next.InPlace h s := by
  obtain ⟨hselection, scanned, hentries, htaken⟩ := hplace
  unfold Held.next
  generalize hnext : held.view.next? = next
  have hadvance := held.view.advance_next?
  rw [hnext] at hadvance
  cases hadvance with
  | ended hhidden =>
      rw [hselection] at hhidden
      refine ⟨hselection, scanned ++ held.view.remaining, ?_, ?_⟩
      · rw [List.append_nil, hentries]
      · rw [List.filter_append, hhidden, List.append_nil, htaken]
  | found hidden later entry hremaining hhidden hshown =>
      rw [hselection] at hhidden hshown
      refine ⟨hselection, scanned ++ hidden ++ [entry], ?_, ?_⟩
      · rw [hentries, hremaining]
        simp only [List.append_assoc, List.singleton_append]
      · rw [List.filter_append, List.filter_append, hhidden, List.append_nil,
          List.filter_cons_of_pos hshown, List.filter_nil, htaken]

theorem handle {views : List Held} (hviews : ∀ held ∈ views, held.InPlace h s)
    (step : Handling) : ∀ held ∈ Log.handle views step, held.InPlace h s := by
  intro held hheld
  cases step with
  | next index =>
      obtain ⟨position, hposition⟩ := List.mem_iff_getElem?.mp hheld
      rw [Log.handle, List.getElem?_modify] at hposition
      obtain ⟨earlier, hearlier, rfl⟩ := Option.map_eq_some_iff.mp hposition
      have hplace := hviews earlier (List.mem_of_getElem? hearlier)
      split
      · exact hplace.next
      · exact hplace
  | copy index =>
      rcases List.mem_append.mp hheld with hold | hnew
      · exact hviews held hold
      · exact hviews held (List.mem_of_getElem? (Option.mem_toList.mp hnew))

theorem handleAll {views : List Held} (hviews : ∀ held ∈ views, held.InPlace h s)
    (steps : List Handling) : ∀ held ∈ Log.handleAll views steps, held.InPlace h s := by
  induction steps generalizing views with
  | nil => exact hviews
  | cons step later ih => exact ih (handle hviews step)

end Held.InPlace

theorem length_le_length_handle (views : List Held) (step : Handling) :
    views.length ≤ (handle views step).length := by
  cases step with
  | next index => exact Nat.le_of_eq (List.length_modify Held.next views index).symm
  | copy index =>
      rw [handle, List.length_append]
      exact Nat.le_add_right _ _

/-- A view that is not asked itself stays where it is. -/
theorem getElem?_handleAll {views : List Held} {index : Nat} {steps : List Handling}
    (hindex : index < views.length) (hothers : .next index ∉ steps) :
    (handleAll views steps)[index]? = views[index]? := by
  induction steps generalizing views with
  | nil => rfl
  | cons step later ih =>
      obtain ⟨hstep, hlater⟩ := not_or.mp (mt List.mem_cons.mpr hothers)
      have hkept : (handle views step)[index]? = views[index]? := by
        cases step with
        | next position =>
            have hother : position ≠ index := fun hsame => hstep (congrArg _ hsame.symm)
            rw [handle, List.getElem?_modify]
            simp only [if_neg hother]
            exact Option.map_id'
        | copy position => exact List.getElem?_append_left hindex
      have hlength := Nat.lt_of_lt_of_le hindex (length_le_length_handle views step)
      calc
        (handleAll views (step :: later))[index]? = (handleAll (handle views step) later)[index]? :=
          rfl
        _ = (handle views step)[index]? := ih hlength hlater
        _ = views[index]? := hkept

/-! ### A history and a selection beside each other -/

/-- What can be done to a history. -/
inductive Keeping where
  | record (text : String)
  | shell (text : String)
  | reset
  deriving DecidableEq, Repr

def History.keep (h : History) : Keeping → History
  | .record text => h.append text
  | .shell text => h.appendShell text
  | .reset => .empty

/-- A history, and the selection of what is shown of it. -/
structure Shelf where
  history : History
  selection : Selection

inductive Deed where
  | keep (keeping : Keeping)
  | change (change : Change)
  deriving DecidableEq, Repr

def Deed.keeping? : Deed → Option Keeping
  | .keep keeping => some keeping
  | .change _ => none

def Deed.change? : Deed → Option Change
  | .keep _ => none
  | .change made => some made

namespace Shelf

def empty : Shelf where
  history := .empty
  selection := .everything

def perform (shelf : Shelf) : Deed → Shelf
  | .keep keeping => { shelf with history := shelf.history.keep keeping }
  | .change change => { shelf with selection := shelf.selection.change change }

/-- The shelf after deeds done one after the other. -/
def after (shelf : Shelf) (deeds : List Deed) : Shelf :=
  deeds.foldl perform shelf

def shown (shelf : Shelf) : List Entry :=
  shelf.history.admitted shelf.selection

def view (shelf : Shelf) : Visible :=
  shelf.history.visible shelf.selection

variable (shelf : Shelf)

/-- What is done to the history and what is done to the selection leave each
other alone. -/
theorem after_eq (deeds : List Deed) :
    shelf.after deeds =
      { history := (deeds.filterMap Deed.keeping?).foldl History.keep shelf.history,
        selection := shelf.selection.changed (deeds.filterMap Deed.change?) } := by
  induction deeds generalizing shelf with
  | nil => rfl
  | cons deed later ih =>
      rw [after, List.foldl_cons, ← after, ih]
      cases deed <;> rfl

theorem after_changes (changes : List Change) :
    shelf.after (changes.map .change) =
      { shelf with selection := shelf.selection.changed changes } := by
  have hnone : (changes.map Deed.change).filterMap Deed.keeping? = [] := by
    rw [List.filterMap_map]
    exact List.filterMap_eq_nil_iff.mpr fun change hchange => rfl
  have hall : (changes.map Deed.change).filterMap Deed.change? = changes := by
    rw [List.filterMap_map]
    exact List.filterMap_some
  rw [after_eq, hnone, hall]
  rfl

/-- Records are numbered as they came. -/
theorem map_sequence_after (deeds : List Deed) :
    (empty.after deeds).history.entries.toList.map Entry.sequence =
      List.range (empty.after deeds).history.size := by
  have hkeep : ∀ (h : History) (keeping : Keeping),
      h.entries.toList.map Entry.sequence = List.range h.size →
        (h.keep keeping).entries.toList.map Entry.sequence = List.range (h.keep keeping).size := by
    intro h keeping hnumbered
    cases keeping with
    | record text =>
        have hsize : (h.append text).size = h.size + 1 := Array.size_push _
        rw [History.keep, History.toList_append, List.map_append, hnumbered, hsize,
          List.range_succ]
        rfl
    | shell text => exact hnumbered
    | reset => rfl
  rw [after_eq]
  generalize deeds.filterMap Deed.keeping? = keepings
  induction keepings using List.reverseRecOn with
  | nil => rfl
  | append_singleton keepings keeping ih =>
      rw [List.foldl_append]
      exact hkeep _ keeping ih

/-- What is shown is in order of arrival, and nothing is shown twice. -/
theorem pairwise_sequence_shown (deeds : List Deed) :
    (empty.after deeds).shown.Pairwise fun former latter => former.sequence < latter.sequence := by
  refine List.Pairwise.filter _ (List.pairwise_map.mp ?_)
  rw [map_sequence_after]
  exact List.pairwise_lt_range

end Shelf

theorem toList_visible (h : History) (s : Selection) : (h.visible s).toList = h.admitted s :=
  List.filter_congr fun entry _ => s.shows_eq entry

/-- More switches on show more records. -/
theorem History.admitted_sublist (h : History) {s wider : Selection}
    (hwider : ∀ switch, s.isOn switch = true → wider.isOn switch = true) :
    (h.admitted s).Sublist (h.admitted wider) := by
  have hadmits : ∀ entry, s.Admits entry → wider.Admits entry := by
    intro entry hentry
    exact ⟨hwider _ hentry.1, fun subsystem hsubsystem => hwider _ (hentry.2 subsystem hsubsystem)⟩
  have hboth : h.admitted s = (h.admitted wider).filter fun entry => decide (s.Admits entry) := by
    rw [History.admitted, History.admitted, List.filter_filter]
    apply List.filter_congr
    intro entry _
    rw [Bool.eq_iff_iff, Bool.and_eq_true, decide_eq_true_iff, decide_eq_true_iff]
    exact ⟨fun hentry => ⟨hentry, hadmits entry hentry⟩, And.left⟩
  rw [hboth]
  exact List.filter_sublist

/-! ### What is shown, whoever asks -/

/-- A view has given the front of what is shown, and will give the rest. -/
structure Held.KeepsPlace (held : Held) (shelf : Shelf) : Prop where
  whole : held.taken ++ held.view.toList = shelf.shown
  next : held.view.next?.map Prod.fst = shelf.shown[held.taken.length]?
  /-- The records passed so far, and at most how many are to come: all those not
  passed yet. -/
  scanned : ∃ scanned, shelf.history.entries.toList = scanned ++ held.view.remaining ∧
    held.taken = (scanned.filter fun entry => decide (shelf.selection.Admits entry)) ∧
    scanned.length + held.view.sizeBounds.2 = shelf.history.size
  atLeast : held.view.sizeBounds.1 ≤ shelf.shown.length - held.taken.length
  atMost : shelf.shown.length - held.taken.length ≤ held.view.sizeBounds.2

theorem Held.InPlace.keepsPlace {held : Held} {shelf : Shelf}
    (hplace : held.InPlace shelf.history shelf.selection) : held.KeepsPlace shelf := by
  obtain ⟨hselection, scanned, hentries, htaken⟩ := hplace
  have hwhole : held.taken ++ held.view.toList = shelf.shown := by
    rw [htaken, Visible.toList, hselection, ← List.filter_append, ← hentries]
    exact toList_visible shelf.history shelf.selection
  have hlength : shelf.shown.length - held.taken.length = held.view.toList.length := by
    rw [← hwhole, List.length_append, Nat.add_sub_cancel_left]
  constructor
  case whole => exact hwhole
  case next =>
    rw [held.view.map_fst_next?, ← hwhole, List.getElem?_append_right (Nat.le_refl _),
      Nat.sub_self, List.head?_eq_getElem?]
  case scanned =>
    refine ⟨scanned, hentries, ?_, ?_⟩
    · rw [htaken]
      exact List.filter_congr fun entry _ => shelf.selection.shows_eq entry
    · rw [Visible.sizeBounds, ← List.length_append, ← hentries]
      rfl
  case atLeast => exact Nat.zero_le _
  case atMost =>
    rw [hlength]
    exact held.view.length_toList_le

/-- Views show what the selection admits, and nothing else. -/
structure ShowsAdmitted (shelf : Shelf) : Prop where
  /-- However the first view and copies of views are asked, each keeps its place. -/
  keepsPlace : ∀ steps, ∀ held ∈ handleAll [⟨shelf.view, []⟩] steps, held.KeepsPlace shelf
  /-- To ask a view moves no other. -/
  alone : ∀ views index steps, index < views.length → .next index ∉ steps →
    (handleAll views steps)[index]? = views[index]?
  /-- Some records taken, and the rest taken from a copy. -/
  rest : ∀ count, (shelf.view.take count).1 ++
    ((shelf.view.take count).2.take (shelf.view.take count).2.sizeBounds.2).1 = shelf.shown
  inOrder : shelf.shown.Pairwise fun former latter => former.sequence < latter.sequence

/-- A selection is changed switch by switch, whatever history it stands beside. -/
structure ChangesFreely (shelf : Shelf) : Prop where
  told : ∀ changes : List Change, ToldBySwitches shelf.selection changes
  reordered : ∀ changes others : List Change, Reordered changes others →
    (shelf.after (changes.map .change)).view = (shelf.after (others.map .change)).view
  twice : ∀ switch : Switch, shelf.selection.changed [switch.toggle, switch.toggle] = shelf.selection
  wider : ∀ wider : Selection,
    (∀ switch, shelf.selection.isOn switch = true → wider.isOn switch = true) →
    shelf.shown.Sublist { shelf with selection := wider }.shown
  kept : ∀ changes : List Change, (shelf.after (changes.map .change)).history = shelf.history

theorem take_append_take (shelf : Shelf) (count : Nat) :
    (shelf.view.take count).1 ++
      ((shelf.view.take count).2.take (shelf.view.take count).2.sizeBounds.2).1 = shelf.shown := by
  obtain ⟨htaken, hleft⟩ := shelf.view.take_eq count
  generalize (shelf.view.take count).2 = rest at hleft ⊢
  have hrest : (rest.take rest.sizeBounds.2).1 = rest.toList := by
    rw [(rest.take_eq _).1, List.take_of_length_le rest.length_toList_le]
  calc
    (shelf.view.take count).1 ++ (rest.take rest.sizeBounds.2).1 =
        shelf.view.toList.take count ++ shelf.view.toList.drop count := by
      rw [htaken, hrest, hleft]
    _ = shelf.view.toList := List.take_append_drop count _
    _ = shelf.shown := toList_visible shelf.history shelf.selection

/-- Any copy handed on is in place, since the first view is and every step keeps it. -/
theorem showsAdmitted {shelf : Shelf}
    (hinOrder : shelf.shown.Pairwise fun former latter => former.sequence < latter.sequence) :
    ShowsAdmitted shelf := by
  constructor
  case keepsPlace =>
    intro steps held hheld
    have hstart : ∀ held ∈ [Held.mk shelf.view []], held.InPlace shelf.history shelf.selection :=
      List.forall_mem_singleton.mpr (.start shelf.history shelf.selection)
    exact (Held.InPlace.handleAll hstart steps held hheld).keepsPlace
  case alone => exact fun views index steps hindex hothers => getElem?_handleAll hindex hothers
  case rest => exact take_append_take shelf
  case inOrder => exact hinOrder

theorem changesFreely (shelf : Shelf) : ChangesFreely shelf := by
  constructor
  case told => exact toldBySwitches shelf.selection
  case reordered =>
    intro changes others hreordered
    rw [Shelf.after_changes, Shelf.after_changes,
      shelf.selection.changed_congr hreordered.flicksOf_eq]
  case twice => exact shelf.selection.changed_toggle_toggle
  case wider => exact fun wider hwider => shelf.history.admitted_sublist hwider
  case kept =>
    intro changes
    rw [Shelf.after_changes]

/-- Whatever has been kept and chosen, in whatever order: what is shown is what
the switches admit, and the switches are moved one by one and move no record. -/
theorem shelf_shows_what_switches_admit (deeds : List Deed) :
    ShowsAdmitted (Shelf.empty.after deeds) ∧ ChangesFreely (Shelf.empty.after deeds) := by
  constructor
  · exact showsAdmitted (Shelf.pairwise_sequence_shown deeds)
  · exact changesFreely (Shelf.empty.after deeds)

example : (Shelf.empty.after [.change (.setAllSubsystems false), .keep (.record "[dl] d"),
    .keep (.record "[warn] w"), .change (.toggleSubsystem .im), .keep (.record "[im] i")]).shown.map
      Entry.sequence = [1, 2] := by decide

end SerialConsole.Log
