/-!
# Finding and replacing

The first place where a text holds another one, and the replacement of every occurrence, taken from
left to right without overlap.
-/

namespace ParamSql
namespace Text

/-- How many characters stand before the first occurrence of `pattern`. -/
def find? (pattern : List Char) : List Char → Option Nat
  | [] => if pattern = [] then some 0 else none
  | c :: rest =>
    if pattern.isPrefixOf (c :: rest) then some 0 else (find? pattern rest).map (· + 1)

def holdsText (pattern text : List Char) : Bool := (find? pattern text).isSome

theorem find?_spec {pattern text : List Char} {n : Nat} (h : find? pattern text = some n) :
    ∃ after, text = text.take n ++ pattern ++ after := by
  induction text generalizing n with
  | nil =>
    obtain ⟨rfl, rfl⟩ : pattern = [] ∧ 0 = n := by simpa [find?] using h
    exact ⟨[], rfl⟩
  | cons c rest ih =>
    rw [find?] at h
    split at h
    · next first =>
      obtain rfl : 0 = n := by simpa using h
      obtain ⟨after, same⟩ := List.isPrefixOf_iff_prefix.1 first
      exact ⟨after, by simpa using same.symm⟩
    · obtain ⟨m, found, rfl⟩ := Option.map_eq_some_iff.1 h
      obtain ⟨after, same⟩ := ih found
      exact ⟨after, by simpa using same⟩

theorem holdsText_iff {pattern text : List Char} :
    holdsText pattern text = true ↔ pattern <:+: text := by
  induction text with
  | nil => simp [holdsText, find?]
  | cons c rest ih =>
    rw [List.infix_cons_iff, ← ih, holdsText, find?, ← List.isPrefixOf_iff_prefix]
    cases pattern.isPrefixOf (c :: rest) <;> simp [holdsText]

/-- The text with every occurrence of `old` replaced. An empty `old` occurs nowhere. -/
def replaceAll (old new text : List Char) : List Char :=
  match text with
  | [] => []
  | c :: rest =>
    if old ≠ [] ∧ old.isPrefixOf (c :: rest) = true then
      new ++ replaceAll old new (rest.drop (old.length - 1))
    else
      c :: replaceAll old new rest
termination_by text.length

@[simp] theorem replaceAll_nil (old new : List Char) : replaceAll old new [] = [] := by
  rw [replaceAll]

@[simp] theorem replaceAll_empty (new text : List Char) : replaceAll [] new text = text := by
  induction text with
  | nil => simp
  | cons c rest ih => rw [replaceAll]; simp [ih]

theorem replaceAll_singleton (q : Char) (new text : List Char) :
    replaceAll [q] new text = text.flatMap fun c => if c = q then new else [c] := by
  induction text with
  | nil => simp
  | cons c rest ih =>
    rw [replaceAll]
    by_cases h : c = q
    · simp [h, ih]
    · simp [h, Ne.symm h, ih]

theorem replaceAll_singleton_append (q : Char) (new s t : List Char) :
    replaceAll [q] new (s ++ t) = replaceAll [q] new s ++ replaceAll [q] new t := by
  rw [replaceAll_singleton, replaceAll_singleton, replaceAll_singleton, List.flatMap_append]

theorem replaceAll_of_not_mem {c : Char} (old new : List Char) {text : List Char} (h : c ∉ text) :
    replaceAll (c :: old) new text = text := by
  induction text with
  | nil => exact replaceAll_nil _ _
  | cons d text ih =>
    obtain ⟨hd, htext⟩ : c ≠ d ∧ c ∉ text := by simpa using h
    rw [replaceAll, ih htext, if_neg]
    simp [hd]

end Text
end ParamSql
