import SerialConsole.Proofs.Log.Tags

/-!
# The most urgent tag tells

Every tag in a text counts, wherever it stands, and the one of highest rank
tells.  So a classification is the least one that covers all tags of the text,
and of this one fact all others are consequences: lines can be classified one by
one and joined, more text never makes a record less urgent, and neither the case
of letters nor how a line ends makes a difference.
-/

namespace SerialConsole.Log

open Text (Recased)

/-- How urgent a category is.  An untagged record is as urgent as `info`. -/
def Category.urgency : Category → Nat
  | .error => 4
  | .warn => 3
  | .silabs => 2
  | .detail => 1
  | .info => 0

/-- How much a subsystem takes precedence over others. -/
def Subsystem.precedence : Subsystem → Nat
  | .zcl => 8
  | .dl => 7
  | .im => 6
  | .ot => 5
  | .svr => 4
  | .dis => 3
  | .swu => 2
  | .tst => 1

/-- Every subsystem takes precedence over none. -/
def precedenceOf (subsystem : Option Subsystem) : Nat :=
  subsystem.elim 0 Subsystem.precedence

theorem Category.urgency_injective : Function.Injective Category.urgency := by
  intro left right
  cases left <;> cases right <;> decide

theorem precedenceOf_injective : Function.Injective precedenceOf := by
  rintro (_ | left) (_ | right)
  · decide
  · cases right <;> decide
  · cases left <;> decide
  · cases left <;> cases right <;> decide

/-! ### The first of a list in order of rank -/

section Ranked

variable {α : Type*} {order : List α} {rank : α → Nat} {chosen : α → Bool} {bound : Nat}

/-- In a list that goes down in rank, the first that is chosen ranks highest. -/
theorem rank_find?_le_iff (hdown : order.Pairwise fun x y => rank y ≤ rank x) :
    (order.find? chosen).elim 0 rank ≤ bound ↔
      ∀ x ∈ order, chosen x = true → rank x ≤ bound := by
  induction order with
  | nil => simp
  | cons first rest ih =>
      obtain ⟨hfirst, hrest⟩ := List.pairwise_cons.mp hdown
      rw [List.forall_mem_cons]
      cases hchosen : chosen first with
      | true =>
          rw [List.find?_cons_of_pos hchosen, Option.elim_some]
          refine ⟨fun hbound => ⟨fun _ => hbound, fun x hx _ => ?_⟩, fun hbound => hbound.1 rfl⟩
          exact Nat.le_trans (hfirst x hx) hbound
      | false =>
          rw [List.find?_cons_of_neg (by rw [hchosen]; decide), ih hrest]
          exact ⟨fun hbound => ⟨fun hfirst => absurd hfirst Bool.false_ne_true, hbound⟩, And.right⟩

/-- The higher of two; the first of them if they rank the same. -/
def higher (rank : α → Nat) (x y : α) : α :=
  if rank x < rank y then y else x

theorem rank_higher_le_iff {x y : α} :
    rank (higher rank x y) ≤ bound ↔ rank x ≤ bound ∧ rank y ≤ bound := by
  rw [higher]
  split <;> omega

end Ranked

/-! ### The order of classifications -/

namespace Classification

/-- The higher of two classifications, in either component. -/
def join (left right : Classification) : Classification where
  category := higher Category.urgency left.category right.category
  subsystem := higher precedenceOf left.subsystem right.subsystem

/-- In neither component higher. -/
structure AtMost (left right : Classification) : Prop where
  category : left.category.urgency ≤ right.category.urgency
  subsystem : precedenceOf left.subsystem ≤ precedenceOf right.subsystem

/-- What a tag stands for ranks no higher than the classification. -/
structure Covers (c : Classification) (tag : String) : Prop where
  category : ∀ category : Category, tag ∈ category.spellings →
    category.urgency ≤ c.category.urgency
  subsystem : ∀ subsystem : Subsystem, tag = subsystem.spelling →
    subsystem.precedence ≤ precedenceOf c.subsystem

variable {left right c : Classification}

theorem AtMost.refl (c : Classification) : c.AtMost c :=
  ⟨Nat.le_refl _, Nat.le_refl _⟩

theorem AtMost.antisymm (hleft : left.AtMost right) (hright : right.AtMost left) :
    left = right := by
  have hcategory := Category.urgency_injective (Nat.le_antisymm hleft.category hright.category)
  have hsubsystem := precedenceOf_injective (Nat.le_antisymm hleft.subsystem hright.subsystem)
  cases left
  cases right
  exact congrArg₂ Classification.mk hcategory hsubsystem

/-- A classification is told by what it is at most. -/
theorem eq_of_atMost_iff (hsame : ∀ c, left.AtMost c ↔ right.AtMost c) : left = right :=
  ((hsame right).mpr (.refl right)).antisymm ((hsame left).mp (.refl left))

theorem join_atMost_iff : (left.join right).AtMost c ↔ left.AtMost c ∧ right.AtMost c := by
  constructor
  · rintro ⟨hcategory, hsubsystem⟩
    obtain ⟨hleft, hright⟩ := rank_higher_le_iff.mp hcategory
    obtain ⟨hleft', hright'⟩ := rank_higher_le_iff.mp hsubsystem
    exact ⟨⟨hleft, hleft'⟩, ⟨hright, hright'⟩⟩
  · rintro ⟨hleft, hright⟩
    exact ⟨rank_higher_le_iff.mpr ⟨hleft.category, hright.category⟩,
      rank_higher_le_iff.mpr ⟨hleft.subsystem, hright.subsystem⟩⟩

/-- An untagged record ranks lowest. -/
theorem untagged_atMost (c : Classification) : AtMost ⟨.info, none⟩ c :=
  ⟨Nat.zero_le _, Nat.zero_le _⟩

end Classification

/-! ### What a classification is told by -/

section Told

variable {text other later : String} {bound : Nat}

theorem urgency_categoryOf_le_iff :
    (categoryOf text).urgency ≤ bound ↔
      ∀ category : Category, ∀ tag ∈ category.spellings, Bears text tag →
        category.urgency ≤ bound := by
  have hdown : Category.byUrgency.Pairwise fun c d => d.urgency ≤ c.urgency := by decide
  have hlowest : ∀ found : Option Category,
      (found.getD .info).urgency = found.elim 0 Category.urgency := by
    rintro (_ | category) <;> rfl
  rw [categoryOf, categoryIn, hlowest, rank_find?_le_iff hdown]
  apply forall_congr'
  intro category
  have hmem : category ∈ Category.byUrgency := by cases category <;> decide
  rw [category.any_tags_iff]
  constructor
  · exact fun hbound tag htag hbears => hbound hmem ⟨tag, htag, hbears⟩
  · rintro hbound - ⟨tag, htag, hbears⟩
    exact hbound tag htag hbears

theorem precedenceOf_subsystemOf_le_iff :
    precedenceOf (subsystemOf text) ≤ bound ↔
      ∀ subsystem : Subsystem, Bears text subsystem.spelling → subsystem.precedence ≤ bound := by
  have hdown : Subsystem.all.Pairwise fun m n => n.precedence ≤ m.precedence := by decide
  rw [precedenceOf, subsystemOf, subsystemIn, rank_find?_le_iff hdown]
  apply forall_congr'
  intro subsystem
  rw [subsystem.occursIn_tag_iff]
  exact ⟨fun hbound => hbound subsystem.mem_all, fun hbound _ => hbound⟩

/-- The classification of a text is the least that covers all tags in it. -/
theorem classify_atMost_iff {c : Classification} :
    (classify text).AtMost c ↔ ∀ tag, Bears text tag → c.Covers tag := by
  constructor
  · rintro ⟨hcategory, hsubsystem⟩ tag hbears
    refine ⟨fun category htag => ?_, fun subsystem htag => ?_⟩
    · exact urgency_categoryOf_le_iff.mp hcategory category tag htag hbears
    · subst htag
      exact precedenceOf_subsystemOf_le_iff.mp hsubsystem subsystem hbears
  · intro hcovers
    refine ⟨urgency_categoryOf_le_iff.mpr ?_, precedenceOf_subsystemOf_le_iff.mpr ?_⟩
    · exact fun category tag htag hbears => (hcovers tag hbears).category category htag
    · exact fun subsystem hbears => (hcovers _ hbears).subsystem subsystem rfl

/-- More tags never rank lower. -/
theorem classify_atMost_classify (hmore : ∀ tag, Bears text tag → Bears other tag) :
    (classify text).AtMost (classify other) :=
  classify_atMost_iff.mpr fun tag hbears =>
    classify_atMost_iff.mp (.refl (classify other)) tag (hmore tag hbears)

theorem classify_congr (hcase : Recased text.toList other.toList) :
    classify other = classify text :=
  (classify_atMost_classify fun _ => (bears_congr hcase).mpr).antisymm
    (classify_atMost_classify fun _ => (bears_congr hcase).mp)

/-- What stands on either side of the end of a line is classified on its own. -/
theorem classify_append_append {separator : Char} (hseparator : separator ∈ lineEnds) :
    classify (text ++ String.singleton separator ++ later) =
      (classify text).join (classify later) := by
  apply Classification.eq_of_atMost_iff
  intro c
  rw [Classification.join_atMost_iff, classify_atMost_iff, classify_atMost_iff, classify_atMost_iff]
  constructor
  · intro hcovers
    refine ⟨fun tag hbears => hcovers tag ?_, fun tag hbears => hcovers tag (hbears.append_left _)⟩
    exact (hbears.append_right _).append_right later
  · rintro ⟨htext, hlater⟩ tag hbears
    refine ⟨fun category htag => ?_, fun subsystem htag => ?_⟩
    · have hnotMem := category.lineEnd_notMem_spellings tag htag separator hseparator
      rcases (bears_append_append hnotMem).mp hbears with hthere | hthere
      · exact (htext tag hthere).category category htag
      · exact (hlater tag hthere).category category htag
    · have hnotMem := subsystem.lineEnd_notMem_spelling separator hseparator
      rw [← htag] at hnotMem
      rcases (bears_append_append hnotMem).mp hbears with hthere | hthere
      · exact (htext tag hthere).subsystem subsystem htag
      · exact (hlater tag hthere).subsystem subsystem htag

/-- An untagged text after the end of a line changes nothing. -/
theorem classify_append_untagged {separator : Char} (hseparator : separator ∈ lineEnds)
    (hlater : classify later = ⟨.info, none⟩) :
    classify (text ++ String.singleton separator ++ later) = classify text := by
  rw [classify_append_append hseparator, hlater]
  apply Classification.eq_of_atMost_iff
  intro c
  rw [Classification.join_atMost_iff]
  exact and_iff_left c.untagged_atMost

/-- A line feed at the end changes nothing about a record's tags. -/
theorem classify_append_lineFeed (text : String) : classify (text ++ "\n") = classify text := by
  have hend : text ++ "\n" = text ++ String.singleton '\n' ++ "" := (String.append_empty).symm
  rw [hend]
  exact classify_append_untagged (by decide) (by decide)

theorem classify_append_crLf (text : String) : classify (text ++ "\r\n") = classify text := by
  have hend : text ++ "\r\n" = text ++ String.singleton '\r' ++ "\n" := by
    rw [String.append_assoc]
    rfl
  rw [hend]
  exact classify_append_untagged (by decide) (by decide)

/-! ### The tag that tells -/

/-- The most urgent category that is tagged, or `info` if none is. -/
structure Category.LeadsIn (category : Category) (text : String) : Prop where
  tagged : (∃ tag ∈ category.spellings, Bears text tag) ∨
    category = .info ∧ ∀ other : Category, ∀ tag ∈ other.spellings, ¬Bears text tag
  highest : ∀ other : Category, ∀ tag ∈ other.spellings, Bears text tag →
    other.urgency ≤ category.urgency

/-- The subsystem that is tagged and takes precedence over all others that are. -/
structure Subsystem.LeadsIn (subsystem : Subsystem) (text : String) : Prop where
  tagged : Bears text subsystem.spelling
  highest : ∀ other : Subsystem, Bears text other.spelling →
    other.precedence ≤ subsystem.precedence

theorem Category.LeadsIn.urgency_le {category rival : Category} (hleads : category.LeadsIn text)
    (hrival : rival.LeadsIn text) : category.urgency ≤ rival.urgency := by
  rcases hleads.tagged with ⟨tag, htag, hbears⟩ | ⟨rfl, -⟩
  · exact hrival.highest category tag htag hbears
  · exact Nat.zero_le _

theorem leadsIn_categoryOf (text : String) : (categoryOf text).LeadsIn text := by
  refine ⟨?_, urgency_categoryOf_le_iff.mp (Nat.le_refl _)⟩
  rw [categoryOf, categoryIn]
  cases hfound : Category.byUrgency.find? fun category =>
      category.tags.any fun tag => Text.occursIn tag.toList (text.toList.map Text.lowerAscii) with
  | some category =>
      have htagged := List.find?_some hfound
      exact .inl ((category.any_tags_iff text).mp htagged)
  | none =>
      refine .inr ⟨rfl, fun other tag htag hbears => ?_⟩
      have hmem : other ∈ Category.byUrgency := by cases other <;> decide
      have hnone := List.find?_eq_none.mp hfound other hmem
      exact hnone ((other.any_tags_iff text).mpr ⟨tag, htag, hbears⟩)

theorem categoryOf_eq_iff {category : Category} :
    categoryOf text = category ↔ category.LeadsIn text := by
  constructor
  · rintro rfl
    exact leadsIn_categoryOf text
  · intro hleads
    exact Category.urgency_injective (Nat.le_antisymm
      ((leadsIn_categoryOf text).urgency_le hleads) (hleads.urgency_le (leadsIn_categoryOf text)))

theorem subsystemOf_eq_none_iff :
    subsystemOf text = none ↔ ∀ subsystem : Subsystem, ¬Bears text subsystem.spelling := by
  rw [subsystemOf, subsystemIn, List.find?_eq_none]
  apply forall_congr'
  intro subsystem
  rw [subsystem.occursIn_tag_iff]
  exact ⟨fun hnone => hnone subsystem.mem_all, fun hnone _ => hnone⟩

theorem leadsIn_of_subsystemOf {subsystem : Subsystem} (hfound : subsystemOf text = some subsystem) :
    subsystem.LeadsIn text := by
  constructor
  · rw [subsystemOf, subsystemIn] at hfound
    have htagged := List.find?_some hfound
    exact (subsystem.occursIn_tag_iff text).mp htagged
  · refine precedenceOf_subsystemOf_le_iff.mp ?_
    rw [hfound]
    exact Nat.le_refl _

theorem subsystemOf_eq_some_iff {subsystem : Subsystem} :
    subsystemOf text = some subsystem ↔ subsystem.LeadsIn text := by
  refine ⟨leadsIn_of_subsystemOf, fun hleads => ?_⟩
  cases hfound : subsystemOf text with
  | none => exact absurd hleads.tagged (subsystemOf_eq_none_iff.mp hfound subsystem)
  | some rival =>
      have hrival := leadsIn_of_subsystemOf hfound
      exact precedenceOf_injective (Nat.le_antisymm (hleads.highest rival hrival.tagged)
        (hrival.highest subsystem hleads.tagged))

/-- A classification says which tags lead, and nothing else. -/
structure SaysWhichLead (text : String) : Prop where
  category : ∀ category, categoryOf text = category ↔ category.LeadsIn text
  subsystem : ∀ subsystem, subsystemOf text = some subsystem ↔ subsystem.LeadsIn text
  untagged : subsystemOf text = none ↔ ∀ subsystem : Subsystem, ¬Bears text subsystem.spelling
  both : classify text = ⟨categoryOf text, subsystemOf text⟩

/-- The leading tags of a text are those of its lines, whichever ranks higher.
What is put before or after a text only adds tags, and neither the case of
letters nor the end of the last line counts. -/
theorem classification_joins_lines (text later : String) :
    SaysWhichLead text ∧
      classify (text ++ "\n" ++ later) = (classify text).join (classify later) ∧
      (classify text).AtMost (classify (text ++ later)) ∧
      (classify later).AtMost (classify (text ++ later)) ∧
      (∀ other, Recased text.toList other.toList → classify other = classify text) ∧
      classify (text ++ "\n") = classify text ∧
      classify (text ++ "\r\n") = classify text := by
  refine ⟨?_, ?_, ?_, ?_, ?_, ?_, ?_⟩
  · exact
      { category := fun category => categoryOf_eq_iff
        subsystem := fun subsystem => subsystemOf_eq_some_iff
        untagged := subsystemOf_eq_none_iff
        both := rfl }
  · have hlineFeed : "\n" = String.singleton '\n' := rfl
    rw [hlineFeed]
    exact classify_append_append (by decide)
  · exact classify_atMost_classify fun tag hbears => hbears.append_right later
  · exact classify_atMost_classify fun tag hbears => hbears.append_left text
  · exact fun other hcase => classify_congr hcase
  · exact classify_append_lineFeed text
  · exact classify_append_crLf text

example : classify "[svr] [warn ]\n[Dl][info]" = ⟨.warn, some .dl⟩ := by decide

end Told

end SerialConsole.Log
