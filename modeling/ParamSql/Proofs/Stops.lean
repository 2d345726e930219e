import Mathlib.Data.List.Basic
import ParamSql.Placeholder.Occurrence

/-!
# Where the scan stands

Between two lexemes the scan of a statement stands at a stop: some of the text has been read and the
rest lies ahead. The lexemes, and the placeholders with their stretches, are those read from the
stops; the stretches of the stops follow one another and cover the whole text.
-/

namespace ParamSql
namespace Placeholder

/-- A place in a text before its character `first`. -/
structure Stop where
  read : List Char
  first : Char
  rest : List Char

namespace Stop

variable (sought : Sought) (s : Stop)

def text : List Char := s.read ++ s.first :: s.rest

def offset : Nat := s.read.length

def lexeme : Lexeme := .next sought s.read.getLast? s.first s.rest

def finish : Nat := s.offset + (s.lexeme sought).size

def occurrence? : Option Occurrence :=
  (s.lexeme sought).name?.map fun name => ⟨String.ofList name, s.offset, s.finish sought⟩

end Stop

/-- The stops of the scan of `text`, before which `read` has been read. -/
def stops (sought : Sought) (read text : List Char) : List Stop :=
  match text with
  | [] => []
  | first :: rest =>
    let l := Lexeme.next sought read.getLast? first rest
    ⟨read, first, rest⟩ :: stops sought (read ++ l.chars) (rest.drop (l.size - 1))
termination_by text.length
decreasing_by simp only [List.length_drop, List.length_cons]; omega

@[simp] theorem stops_nil (sought : Sought) (read : List Char) : stops sought read [] = [] := by
  rw [stops]

namespace Lexeme

theorem size_next_pos (sought : Sought) (before : Option Char) (first : Char) (rest : List Char) :
    0 < (next sought before first rest).size := by
  obtain ⟨n, h⟩ := chars_next sought before first rest
  rw [size, h]
  exact Nat.succ_pos _

theorem chars_next_ne_nil (sought : Sought) (before : Option Char) (first : Char)
    (rest : List Char) : (next sought before first rest).chars ≠ [] :=
  List.ne_nil_of_length_pos (size_next_pos sought before first rest)

end Lexeme

theorem getLast?_append_chars (sought : Sought) (read : List Char) (first : Char)
    (rest : List Char) :
    (read ++ (Lexeme.next sought read.getLast? first rest).chars).getLast? =
      (Lexeme.next sought read.getLast? first rest).chars.getLast? :=
  List.getLast?_append_of_ne_nil _ (by exact Lexeme.chars_next_ne_nil _ _ _ _)

theorem text_of_mem_stops {sought : Sought} {read text : List Char} {s : Stop}
    (hs : s ∈ stops sought read text) : s.text = read ++ text := by
  fun_induction stops sought read text with
  | case1 read => simp at hs
  | case2 read first rest l ih =>
    rcases List.mem_cons.mp hs with rfl | hs
    · rfl
    · rw [ih hs, List.append_assoc, Lexeme.chars_next_append]

theorem offset_of_mem_stops {sought : Sought} {read text : List Char} {s : Stop}
    (hs : s ∈ stops sought read text) : read.length ≤ s.offset := by
  fun_induction stops sought read text with
  | case1 read => simp at hs
  | case2 read first rest l ih =>
    rcases List.mem_cons.mp hs with rfl | hs
    · exact Nat.le_refl _
    · have h := ih hs
      rw [List.length_append] at h
      omega

/-- No stop stands inside the lexeme read from an earlier one. -/
theorem pairwise_stops (sought : Sought) (read text : List Char) :
    (stops sought read text).Pairwise fun s t => s.finish sought ≤ t.offset := by
  fun_induction stops sought read text with
  | case1 read => exact List.Pairwise.nil
  | case2 read first rest l ih =>
    refine List.Pairwise.cons ?_ ih
    intro t ht
    have h := offset_of_mem_stops ht
    rwa [List.length_append] at h

/-- Every character ahead belongs to the lexeme of some stop. -/
theorem exists_stop_at (sought : Sought) (read text : List Char) {p : Nat}
    (lower : read.length ≤ p) (upper : p < (read ++ text).length) :
    ∃ s ∈ stops sought read text, s.offset ≤ p ∧ p < s.finish sought := by
  fun_induction stops sought read text with
  | case1 read =>
    rw [List.append_nil] at upper
    omega
  | case2 read first rest l ih =>
    by_cases h : p < read.length + l.size
    · exact ⟨⟨read, first, rest⟩, by simp, lower, h⟩
    · have hall : read ++ l.chars ++ rest.drop (l.size - 1) = read ++ first :: rest := by
        rw [List.append_assoc, Lexeme.chars_next_append]
      obtain ⟨s, hs, hp⟩ := ih (by rw [List.length_append]; exact Nat.le_of_not_lt h)
        (by rw [hall]; exact upper)
      exact ⟨s, List.mem_cons_of_mem _ hs, hp⟩

/-- A stop with text before it stands behind the lexeme of another stop. -/
theorem exists_stop_before {sought : Sought} {read text : List Char} {t : Stop}
    (ht : t ∈ stops sought read text) (hoffset : read.length < t.offset) :
    ∃ s ∈ stops sought read text, s.finish sought = t.offset := by
  fun_induction stops sought read text with
  | case1 read => simp at ht
  | case2 read first rest l ih =>
    rcases List.mem_cons.mp ht with rfl | ht
    · exact absurd hoffset (Nat.lt_irrefl _)
    · have hle := offset_of_mem_stops ht
      by_cases hlt : (read ++ l.chars).length < t.offset
      · obtain ⟨s, hs, hfinish⟩ := ih ht hlt
        exact ⟨s, List.mem_cons_of_mem _ hs, hfinish⟩
      · refine ⟨⟨read, first, rest⟩, List.mem_cons_self, ?_⟩
        rw [List.length_append] at hle hlt
        exact Nat.le_antisymm hle (Nat.le_of_not_lt hlt)

/-- What has been read at a stop ends with the lexeme of the stop before. -/
theorem exists_stop_ending {sought : Sought} {done after : List Char} {t : Stop}
    (ht : t ∈ stops sought [] (done ++ after)) (hdone : done ≠ [])
    (hoffset : t.offset = done.length) :
    ∃ s ∈ stops sought [] (done ++ after), s.read ++ (s.lexeme sought).chars = done ∧
      s.rest.drop ((s.lexeme sought).size - 1) = after := by
  obtain ⟨s, hs, hfinish⟩ := exists_stop_before ht (by
    rw [hoffset]
    exact List.length_pos_of_ne_nil hdone)
  have htext : s.read ++ (s.lexeme sought).chars ++ s.rest.drop ((s.lexeme sought).size - 1) =
      done ++ after := by
    rw [List.append_assoc, Stop.lexeme, Lexeme.chars_next_append]
    exact (text_of_mem_stops hs).trans (List.nil_append _)
  have hlength : (s.read ++ (s.lexeme sought).chars).length = done.length := by
    rw [List.length_append, ← hoffset, ← hfinish]
    rfl
  exact ⟨s, hs, List.append_inj htext hlength⟩

theorem finish_le_length {sought : Sought} {read text : List Char} {s : Stop}
    (hs : s ∈ stops sought read text) : s.finish sought ≤ (read ++ text).length := by
  have h := congrArg List.length
    (Lexeme.chars_next_append sought s.read.getLast? s.first s.rest)
  rw [List.length_append] at h
  rw [← text_of_mem_stops hs, Stop.finish, Stop.text, List.length_append, Stop.offset]
  exact Nat.add_le_add_left (by rw [← h]; exact Nat.le_add_right _ _) _

theorem occurrences_cons (offset : Nat) (l : Lexeme) (ls : List Lexeme) :
    occurrences offset (l :: ls) =
      (l.name?.map fun name => ⟨String.ofList name, offset, offset + l.size⟩).toList ++
        occurrences (offset + l.size) ls := by
  cases l with
  | plain c => rfl
  | token t => rfl
  | placeholder name => rfl

theorem occurrences_eq_filterMap_stops (sought : Sought) (read text : List Char) :
    occurrences read.length (lexemes sought read.getLast? text) =
      (stops sought read text).filterMap (Stop.occurrence? sought) := by
  fun_induction stops sought read text with
  | case1 read => rw [lexemes_nil, List.filterMap_nil, occurrences]
  | case2 read first rest l ih =>
    rw [getLast?_append_chars, List.length_append] at ih
    rw [lexemes_cons, occurrences_cons, List.filterMap_cons, ← ih]
    cases h : Stop.occurrence? sought ⟨read, first, rest⟩ with
    | none =>
      have hnone : l.name? = none := Option.map_eq_none_iff.mp h
      rw [show (Lexeme.next sought read.getLast? first rest).name? = none from hnone]
      rfl
    | some o =>
      obtain ⟨name, hname, rfl⟩ := Option.map_eq_some_iff.mp h
      rw [show (Lexeme.next sought read.getLast? first rest).name? = some name from hname]
      rfl

theorem findAll_eq_filterMap_stops (sought : Sought) (sql : String) :
    findAll sought sql = (stops sought [] sql.toList).filterMap (Stop.occurrence? sought) :=
  occurrences_eq_filterMap_stops sought [] sql.toList

/-- A placeholder is found where the scan stands before its colon and reads it. -/
theorem mem_findAll {sought : Sought} {sql : String} {o : Occurrence} :
    o ∈ findAll sought sql ↔
      ∃ s ∈ stops sought [] sql.toList, s.occurrence? sought = some o := by
  rw [findAll_eq_filterMap_stops, List.mem_filterMap]

theorem occurrence?_eq_some {sought : Sought} {s : Stop} {o : Occurrence} :
    s.occurrence? sought = some o ↔ s.lexeme sought = .placeholder o.name.toList ∧
      o.start = s.offset ∧ o.stop = s.finish sought := by
  obtain ⟨name, start, stop⟩ := o
  unfold Stop.occurrence?
  cases s.lexeme sought with
  | plain c => simp [Lexeme.name?]
  | token t => simp [Lexeme.name?]
  | placeholder n =>
    simp only [Lexeme.name?, Option.map_some, Option.some.injEq, Occurrence.mk.injEq,
      Lexeme.placeholder.injEq, eq_comm (a := s.offset), eq_comm (a := s.finish sought)]
    rw [← String.toList_inj, String.toList_ofList]

end Placeholder
end ParamSql
