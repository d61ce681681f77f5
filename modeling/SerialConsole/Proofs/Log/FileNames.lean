import SerialConsole.Log.Capture
import SerialConsole.Proofs.Time.Stamps

/-!
# Names of captures

The name of a saved file is a stem of any kind, a word for what the file holds, and
a stamp whose length depends on the year.  It is taken apart from its end: the time
of day has a fixed width, the date has no underscore, and the word before it ends in
a letter of its own.  So no two captures get the same name but for one stem and one
second, and no name is that of both kinds of file.
-/

namespace SerialConsole.Log

open Time (Stamp)

def stampTail (stamp : Stamp) : List Char :=
  '_' :: stamp.chars ++ ['.', 't', 'x', 't']

/-- How the name of every log file saved at a given second ends. -/
def logTail (stamp : Stamp) : List Char :=
  ['_', 'l', 'o', 'g', 's'] ++ stampTail stamp

/-- How the name of every shell file saved at a given second ends. -/
def shellTail (stamp : Stamp) : List Char :=
  ['_', 'i', 'n', 't', 'e', 'r', 'a', 'c', 't', 'i', 'v', 'e'] ++ stampTail stamp

theorem toList_logName (stem : String) (stamp : Stamp) :
    (logName stem stamp).toList = stem.toList ++ logTail stamp := by
  have hmiddle : "_logs_".toList = ['_', 'l', 'o', 'g', 's'] ++ ['_'] := rfl
  have hending : ".txt".toList = ['.', 't', 'x', 't'] := rfl
  simp only [logName, logTail, stampTail, String.toList_append, Stamp.text,
    String.toList_ofList, List.append_assoc, hmiddle, hending, List.cons_append, List.nil_append]

theorem toList_shellName (stem : String) (stamp : Stamp) :
    (shellName stem stamp).toList = stem.toList ++ shellTail stamp := by
  have hmiddle : "_interactive_".toList =
      ['_', 'i', 'n', 't', 'e', 'r', 'a', 'c', 't', 'i', 'v', 'e'] ++ ['_'] := rfl
  have hending : ".txt".toList = ['.', 't', 'x', 't'] := rfl
  simp only [shellName, shellTail, stampTail, String.toList_append, Stamp.text,
    String.toList_ofList, List.append_assoc, hmiddle, hending, List.cons_append, List.nil_append]

theorem stampTail_suffix_logTail (stamp : Stamp) : stampTail stamp <:+ logTail stamp :=
  List.suffix_append _ _

theorem stampTail_suffix_shellTail (stamp : Stamp) : stampTail stamp <:+ shellTail stamp :=
  List.suffix_append _ _

/-! ### Names taken apart -/

section Names

variable {stamp later : Stamp} {front back left right : List Char} {c : Char}

theorem eq_nil_of_cons_eq_append_cons (hleft : c ∉ left)
    (hsame : c :: left = front ++ c :: right) : front = [] := by
  cases front with
  | nil => rfl
  | cons first middle =>
      rw [List.cons_append, List.cons.injEq] at hsame
      rw [hsame.2] at hleft
      exact absurd (List.mem_append_right middle List.mem_cons_self) hleft

/-- A text is cut at the last of its separators in one way only. -/
theorem append_cons_inj_of_last (hleft : c ∉ left) (hright : c ∉ right)
    (hsame : front ++ c :: left = back ++ c :: right) : front = back ∧ left = right := by
  have hfront : front = back := by
    rcases List.append_eq_append_iff.mp hsame with ⟨middle, rfl, hrest⟩ | ⟨middle, rfl, hrest⟩
    · rw [eq_nil_of_cons_eq_append_cons hleft hrest, List.append_nil]
    · rw [eq_nil_of_cons_eq_append_cons hright hrest, List.append_nil]
  subst hfront
  exact ⟨rfl, (List.cons.inj (List.append_cancel_left hsame)).2⟩

theorem stampTail_eq (stamp : Stamp) :
    stampTail stamp =
      '_' :: stamp.dateChars ++ '_' :: (stamp.timeChars ++ ['.', 't', 'x', 't']) := by
  rw [stampTail, Stamp.chars_eq, List.cons_append, List.append_assoc, List.cons_append,
    List.cons_append]

/-- Whatever stands before a stamp, an underscore or another stamp, it is read. -/
theorem append_stampTail_inj (hsame : front ++ stampTail stamp = back ++ stampTail later) :
    front = back ∧ stamp = later := by
  rw [stampTail_eq, stampTail_eq, ← List.append_assoc, ← List.append_assoc] at hsame
  obtain ⟨hdated, htimed⟩ := List.append_inj' hsame (by
    simp only [List.length_cons, List.length_append, Stamp.length_timeChars])
  obtain ⟨hfront, hdate⟩ := append_cons_inj_of_last stamp.underscore_notMem_dateChars
    later.underscore_notMem_dateChars hdated
  have htime := List.append_cancel_right (List.cons.inj htimed).2
  exact ⟨hfront, Stamp.eq_of_dateChars_of_timeChars hdate htime⟩

/-- No name is that of a log file and that of a shell file. -/
theorem not_shellTail_of_logTail {name : List Char} (hlog : logTail stamp <:+ name) :
    ¬shellTail later <:+ name := by
  rintro ⟨back, hback⟩
  obtain ⟨front, hfront⟩ := hlog
  rw [← hback, logTail, shellTail, ← List.append_assoc, ← List.append_assoc] at hfront
  have hlast := congrArg List.getLast? (append_stampTail_inj hfront).1
  rw [List.getLast?_append, List.getLast?_append] at hlast
  cases hlast

/-- Behind the same word, a stem and a second make one name. -/
theorem append_word_inj {stem other : String} {word : List Char} :
    stem.toList ++ (word ++ stampTail stamp) = other.toList ++ (word ++ stampTail later) ↔
      stem = other ∧ stamp = later := by
  constructor
  · intro hsame
    rw [← List.append_assoc, ← List.append_assoc] at hsame
    obtain ⟨hstems, hstamps⟩ := append_stampTail_inj hsame
    exact ⟨String.toList_injective (List.append_cancel_right hstems), hstamps⟩
  · rintro ⟨rfl, rfl⟩
    rfl

end Names

/-- The names of two log files are the same only for one stem and one second, and so
are those of two shell files; and a log file never has the name of a shell file. -/
theorem file_names_tell_stem_and_second :
    (∀ stem other stamp later,
      logName stem stamp = logName other later ↔ stem = other ∧ stamp = later) ∧
    (∀ stem other stamp later,
      shellName stem stamp = shellName other later ↔ stem = other ∧ stamp = later) ∧
    ∀ stem other stamp later, logName stem stamp ≠ shellName other later := by
  refine ⟨?_, ?_, ?_⟩
  · intro stem other stamp later
    rw [← String.toList_inj, toList_logName, toList_logName]
    exact append_word_inj
  · intro stem other stamp later
    rw [← String.toList_inj, toList_shellName, toList_shellName]
    exact append_word_inj
  · intro stem other stamp later hsame
    have hlog : logTail stamp <:+ (logName stem stamp).toList := by
      rw [toList_logName]
      exact List.suffix_append stem.toList (logTail stamp)
    have hshell : shellTail later <:+ (logName stem stamp).toList := by
      rw [hsame, toList_shellName]
      exact List.suffix_append other.toList (shellTail later)
    exact not_shellTail_of_logTail hlog hshell

end SerialConsole.Log
