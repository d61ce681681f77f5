/-!
# Lists and their pieces

Where a list is cut at a separator, no piece contains the separator; and where
pieces are put together with separators between them, there is nothing else in
the result, and cutting gives the pieces back.
-/

namespace SerialConsole.Text

variable {α : Type} {p : α → Bool} {x : α} {front rest separator piece : List α}
  {pieces : List (List α)}

/-- What stands in front is dropped down to the first that stays. -/
theorem dropWhile_append_of_head (hfront : ∀ y ∈ front, p y = true)
    (hrest : ∀ y ∈ rest.head?, p y = false) : (front ++ rest).dropWhile p = rest := by
  rw [List.dropWhile_append_of_pos hfront]
  cases rest with
  | nil => rfl
  | cons first others =>
      have hfirst := hrest first rfl
      rw [List.dropWhile_cons_of_neg (by rw [hfirst]; decide)]

theorem takeWhile_append_of_head (hfront : ∀ y ∈ front, p y = true)
    (hrest : ∀ y ∈ rest.head?, p y = false) : (front ++ rest).takeWhile p = front := by
  rw [List.takeWhile_append_of_pos hfront]
  cases rest with
  | nil => rw [List.takeWhile_nil, List.append_nil]
  | cons first others =>
      have hfirst := hrest first rfl
      rw [List.takeWhile_cons_of_neg (by rw [hfirst]; decide), List.append_nil]

theorem head?_dropWhile_eq_false (p : α → Bool) (xs : List α) :
    ∀ y ∈ (xs.dropWhile p).head?, p y = false := by
  intro y hy
  have hhead := List.head?_dropWhile_not p xs
  rw [Option.mem_def.mp hy] at hhead
  simpa using hhead

/-- No piece contains what the list was cut at. -/
theorem notMem_of_mem_splitOn [BEq α] [LawfulBEq α] {xs : List α}
    (hpiece : piece ∈ xs.splitOn x) : x ∉ piece := by
  induction xs generalizing piece with
  | nil =>
      rw [List.splitOn_nil, List.mem_singleton] at hpiece
      rw [hpiece]
      exact List.not_mem_nil
  | cons y xs ih =>
      rw [List.splitOn_cons_eq_if_modifyHead] at hpiece
      obtain ⟨first, others, hpieces⟩ := List.exists_cons_of_ne_nil (List.splitOn_ne_nil x xs)
      rw [hpieces] at ih hpiece
      split at hpiece
      · rcases List.mem_cons.mp hpiece with rfl | hlater
        · exact List.not_mem_nil
        · exact ih hlater
      · rename_i hy
        rw [List.modifyHead_cons] at hpiece
        rcases List.mem_cons.mp hpiece with rfl | hlater
        · intro hmem
          rcases List.mem_cons.mp hmem with rfl | hfirst
          · exact hy BEq.rfl
          · exact ih List.mem_cons_self hfirst
        · exact ih (List.mem_cons_of_mem first hlater)

/-- Where pieces are put together, there is nothing but the separator and the pieces. -/
theorem mem_intercalate (hx : x ∈ separator.intercalate pieces) :
    x ∈ separator ∨ ∃ piece ∈ pieces, x ∈ piece := by
  induction pieces with
  | nil => cases hx
  | cons first others ih =>
      cases others with
      | nil =>
          rw [List.intercalate_singleton] at hx
          exact .inr ⟨first, List.mem_cons_self, hx⟩
      | cons second others =>
          rw [List.intercalate_cons_cons, List.mem_append, List.mem_append] at hx
          rcases hx with (hfirst | hseparator) | hlater
          · exact .inr ⟨first, List.mem_cons_self, hfirst⟩
          · exact .inl hseparator
          · rcases ih hlater with hseparator | ⟨piece, hpiece, hmem⟩
            · exact .inl hseparator
            · exact .inr ⟨piece, List.mem_cons_of_mem first hpiece, hmem⟩

/-- Cutting takes apart what was put together. -/
theorem splitOnP_intercalate (hx : p x = true)
    (hpieces : ∀ piece ∈ pieces, ∀ y ∈ piece, p y = false) (hnonempty : pieces ≠ []) :
    ([x].intercalate pieces).splitOnP p = pieces := by
  induction pieces with
  | nil => exact absurd rfl hnonempty
  | cons first others ih =>
      obtain ⟨hfirst, hothers⟩ := List.forall_mem_cons.mp hpieces
      cases others with
      | nil => rw [List.intercalate_singleton, List.splitOnP_eq_singleton hfirst]
      | cons second others =>
          rw [List.intercalate_cons_cons, List.append_assoc, List.singleton_append,
            List.splitOnP_append_cons_of_forall_mem hfirst x hx,
            ih hothers (List.cons_ne_nil second others)]

end SerialConsole.Text
