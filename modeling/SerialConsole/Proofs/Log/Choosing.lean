import SerialConsole.Log.Selection

/-!
# The selection that was asked for

Categories are hidden one after the other, and if subsystems are listed, all of
them are hidden before those listed are shown again.  What comes of this is the
same in any order and with any repetitions: the lists count as sets.
-/

namespace SerialConsole.Log

/-- A record so classified is asked for: its category is not hidden, and its
subsystem, if it has one, is listed, if any are. -/
def IsAskedFor (hidden : List Category) (only : Option (List Subsystem)) (category : Category)
    (subsystem : Option Subsystem) : Prop :=
  category ∉ hidden ∧ ∀ m ∈ subsystem, ∀ listed ∈ only, m ∈ listed

instance (hidden : List Category) (only : Option (List Subsystem)) (category : Category)
    (subsystem : Option Subsystem) : Decidable (IsAskedFor hidden only category subsystem) :=
  inferInstanceAs (Decidable (_ ∧ _))

namespace Selection

variable (s : Selection)

/-- A selection with some categories hidden. -/
theorem foldl_setCategory (hidden : List Category) :
    hidden.foldl (fun s category => s.setCategory category false) s =
      { s with categories := fun c => s.categories c && decide (c ∉ hidden) } := by
  induction hidden generalizing s with
  | nil => exact ext (fun c => by simp) fun m => rfl
  | cons category rest ih =>
      rw [List.foldl_cons, ih]
      refine ext (fun c => ?_) fun m => rfl
      by_cases hc : c = category <;> simp [setCategory, hc]

/-- A selection with some subsystems shown. -/
theorem foldl_setSubsystem (listed : List Subsystem) :
    listed.foldl (fun s subsystem => s.setSubsystem subsystem true) s =
      { s with subsystems := fun m => s.subsystems m || decide (m ∈ listed) } := by
  induction listed generalizing s with
  | nil => exact ext (fun c => rfl) fun m => by simp
  | cons subsystem rest ih =>
      rw [List.foldl_cons, ih]
      refine ext (fun c => rfl) fun m => ?_
      by_cases hm : m = subsystem <;> simp [setSubsystem, hm]

variable {hidden others : List Category} {only instead : Option (List Subsystem)}

theorem choose_eq (hidden : List Category) (only : Option (List Subsystem)) :
    choose hidden only =
      { categories := fun c => decide (c ∉ hidden),
        subsystems := fun m => only.all fun listed => decide (m ∈ listed) } := by
  cases only with
  | none =>
      rw [choose, foldl_setCategory]
      exact ext (fun c => Bool.true_and _) fun m => rfl
  | some listed =>
      simp only [choose, foldl_setSubsystem, foldl_setCategory]
      exact ext (fun c => Bool.true_and _) fun m => Bool.false_or _

theorem allows_choose_iff {category : Category} {subsystem : Option Subsystem} :
    (choose hidden only).allows category subsystem = true ↔
      IsAskedFor hidden only category subsystem := by
  rw [choose_eq, allows, IsAskedFor, Bool.and_eq_true, decide_eq_true_iff, Option.all_eq_true]
  refine and_congr_right fun _ => forall₂_congr fun m _ => ?_
  rw [Option.all_eq_true]
  exact forall₂_congr fun listed _ => decide_eq_true_iff

/-- Only which categories and which subsystems are named counts, and whether
subsystems are named at all. -/
theorem choose_congr (hhidden : ∀ c, c ∈ hidden ↔ c ∈ others)
    (hgiven : only.isSome = instead.isSome)
    (hlisted : ∀ m, m ∈ only.getD [] ↔ m ∈ instead.getD []) :
    choose hidden only = choose others instead := by
  rw [choose_eq, choose_eq]
  refine ext (fun c => decide_eq_decide.mpr (not_congr (hhidden c))) fun m => ?_
  cases only with
  | none =>
      obtain rfl := Option.isNone_iff_eq_none.mp (Option.isSome_eq_false_iff.mp hgiven.symm)
      rfl
  | some listed =>
      obtain ⟨named, rfl⟩ := Option.isSome_iff_exists.mp hgiven.symm
      exact decide_eq_decide.mpr (hlisted m)

end Selection

end SerialConsole.Log
