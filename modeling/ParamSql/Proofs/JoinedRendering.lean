import ParamSql.Proofs.PieceScan
import ParamSql.Proofs.PositionalRendering

/-!
# Rendering two statements as one

When the lexemes of a statement are those of one statement, some text, and those of another one with
names of its own, its arguments are the arguments of the first followed by those of the second. Its
text is made of the rendered texts, in which the numbers of the second are counted on.
-/

namespace ParamSql
namespace Placeholder

open Text

/-- The statement with numbers in the place of the placeholders, counted on after `count`. -/
def numberedAfter (count : Nat) (sql : String) (parameters : Table Value) : String :=
  String.ofList (splice sql.toList 0 (patches (boundPlaceholders sql parameters)
    ((placeholderNumbers sql parameters).map fun n => numberMark (count + n))))

theorem numberedAfter_zero (sql : String) (parameters : Table Value) :
    numberedAfter 0 sql parameters = (convert sql parameters .numeric).text := by
  have htext := text_convert_numeric sql parameters
  rw [← String.toList_inj, htext, numberedAfter, String.toList_ofList]
  simp only [Nat.zero_add]

theorem numberedAfter_eq_marked (count : Nat) (sql : String) (parameters : Table Value) :
    numberedAfter count sql parameters =
      String.ofList (marked
        (fun name => numberMark (count + numberOf (firstUses (boundLexemes sql parameters)) name))
        (boundLexemes sql parameters)) := by
  rw [numberedAfter, ← marked_numbers sql parameters fun n => numberMark (count + n)]

theorem marked_congr {f g : List Char → List Char} {ls : List Lexeme}
    (h : ∀ name ∈ uses ls, f name = g name) : marked f ls = marked g ls := by
  apply List.flatMap_congr
  intro l hl
  cases l with
  | plain c => rfl
  | token t => rfl
  | placeholder name => exact h name (List.mem_filterMap.mpr ⟨_, hl, rfl⟩)

theorem mem_firstUses {ls : List Lexeme} {name : List Char} :
    name ∈ firstUses ls ↔ name ∈ uses ls := List.mem_eraseDups

theorem numberOf_append_left {xs : List (List Char)} (ys : List (List Char)) {name : List Char}
    (h : name ∈ xs) : numberOf (xs ++ ys) name = numberOf xs name := by
  unfold numberOf
  rw [List.idxOf_append, if_pos h]

/-- A name that comes later is counted on. -/
theorem numberOf_append_right {xs : List (List Char)} (ys : List (List Char)) {name : List Char}
    (h : name ∉ xs) : numberOf (xs ++ ys) name = xs.length + numberOf ys name := by
  unfold numberOf
  rw [List.idxOf_append, if_neg h]
  omega

section Join

variable {merged own other : Table Value} {ls ms gap tail : List Lexeme}

theorem uses_join (hgap : uses gap = []) (htail : uses tail = []) :
    uses (ls ++ (gap ++ (ms ++ tail))) = uses ls ++ uses ms := by
  rw [uses_append, uses_append, uses_append, hgap, htail, List.nil_append, List.append_nil]

theorem marked_join (hgap : uses gap = []) (htail : uses tail = []) (mark : List Char → List Char) :
    marked mark (ls ++ (gap ++ (ms ++ tail))) =
      marked mark ls ++ (gap.flatMap Lexeme.chars ++
        (marked mark ms ++ tail.flatMap Lexeme.chars)) := by
  rw [marked_append, marked_append, marked_append, marked_of_uses_eq_nil hgap,
    marked_of_uses_eq_nil htail]

theorem firstUses_join (hgap : uses gap = []) (htail : uses tail = [])
    (hapart : ∀ name ∈ uses ms, name ∉ uses ls) :
    firstUses (ls ++ (gap ++ (ms ++ tail))) = firstUses ls ++ firstUses ms := by
  unfold firstUses
  rw [uses_join hgap htail, eraseDups_append_of_disjoint hapart]

variable (hgap : uses gap = []) (htail : uses tail = [])
variable (hapart : ∀ name ∈ uses ms, name ∉ uses ls)
variable (hown : ∀ name ∈ uses ls, valueOf merged name = valueOf own name)
variable (hother : ∀ name ∈ uses ms, valueOf merged name = valueOf other name)

include hgap htail hown hother

theorem ofLexemes_join_questionMark :
    Rendering.ofLexemes merged .questionMark (ls ++ (gap ++ (ms ++ tail))) =
      ⟨(Rendering.ofLexemes own .questionMark ls).text ++
          String.ofList (gap.flatMap Lexeme.chars) ++
            (Rendering.ofLexemes other .questionMark ms).text ++
              String.ofList (tail.flatMap Lexeme.chars),
        (Rendering.ofLexemes own .questionMark ls).args ++
          (Rendering.ofLexemes other .questionMark ms).args⟩ := by
  simp only [Rendering.ofLexemes, uses_join hgap htail, marked_join hgap htail, List.map_append,
    List.map_congr_left hown, List.map_congr_left hother, String.ofList_append, String.append_assoc]

include hapart

theorem ofLexemes_join_numeric :
    Rendering.ofLexemes merged .numeric (ls ++ (gap ++ (ms ++ tail))) =
      ⟨(Rendering.ofLexemes own .numeric ls).text ++
          String.ofList (gap.flatMap Lexeme.chars) ++
            String.ofList (marked
              (fun name => numberMark ((firstUses ls).length + numberOf (firstUses ms) name)) ms) ++
              String.ofList (tail.flatMap Lexeme.chars),
        (Rendering.ofLexemes own .numeric ls).args ++
          (Rendering.ofLexemes other .numeric ms).args⟩ := by
  have hfirst := firstUses_join hgap htail hapart
  -- The names of the first statement keep their numbers, and those of the second come after them.
  have hownMarks : marked (numericMarker (firstUses ls ++ firstUses ms)) ls =
      marked (numericMarker (firstUses ls)) ls := by
    apply marked_congr
    intro name hname
    unfold numericMarker
    rw [numberOf_append_left _ (mem_firstUses.mpr hname)]
  have hotherMarks : marked (numericMarker (firstUses ls ++ firstUses ms)) ms =
      marked (fun name => numberMark ((firstUses ls).length + numberOf (firstUses ms) name))
        ms := by
    apply marked_congr
    intro name hname
    have hnew : name ∉ firstUses ls := fun h => hapart name hname (mem_firstUses.mp h)
    unfold numericMarker numberMark
    rw [numberOf_append_right _ hnew]
  have hownArgs : (firstUses ls).map (valueOf merged) = (firstUses ls).map (valueOf own) :=
    List.map_congr_left fun name hname => hown name (mem_firstUses.mp hname)
  have hotherArgs : (firstUses ms).map (valueOf merged) = (firstUses ms).map (valueOf other) :=
    List.map_congr_left fun name hname => hother name (mem_firstUses.mp hname)
  simp only [Rendering.ofLexemes, hfirst, marked_join hgap htail, hownMarks, hotherMarks,
    List.map_append, hownArgs, hotherArgs, String.ofList_append, String.append_assoc]

end Join

end Placeholder
end ParamSql
