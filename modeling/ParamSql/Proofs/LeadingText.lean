import ParamSql.Proofs.PieceScan

/-!
# Text before a statement

Text that is read by itself and holds no placeholder may stand before a statement. The placeholders
of the whole are then those of the statement, further on by the length of the text, and rendering
leaves the text as it is and takes no argument from it.
-/

namespace ParamSql
namespace Placeholder

def Occurrence.shift (n : Nat) (o : Occurrence) : Occurrence := ⟨o.name, n + o.start, n + o.stop⟩

def Rendering.after (text : String) (r : Rendering) : Rendering := ⟨text ++ r.text, r.args⟩

theorem occurrences_add (n offset : Nat) (ls : List Lexeme) :
    occurrences (n + offset) ls = (occurrences offset ls).map (Occurrence.shift n) := by
  induction ls generalizing offset with
  | nil => rfl
  | cons l ls ih =>
    rw [occurrences_cons, occurrences_cons, List.map_append, Nat.add_assoc, ih]
    cases l.name? with
    | none => rfl
    | some name => rfl

/-- Lexemes without placeholders only move those behind them. -/
theorem occurrences_append_of_uses_eq_nil {ls : List Lexeme} (h : uses ls = []) (offset : Nat)
    (ms : List Lexeme) :
    occurrences offset (ls ++ ms) = occurrences (offset + (ls.flatMap Lexeme.chars).length) ms := by
  induction ls generalizing offset with
  | nil => rfl
  | cons l ls ih =>
    have hname : l.name? = none := List.filterMap_eq_nil_iff.mp h l List.mem_cons_self
    have hrest : uses ls = [] := by
      apply List.filterMap_eq_nil_iff.mpr
      intro m hm
      exact List.filterMap_eq_nil_iff.mp h m (List.mem_cons_of_mem _ hm)
    rw [List.cons_append, occurrences_cons, hname, ih hrest, List.flatMap_cons, List.length_append,
      ← Nat.add_assoc]
    rfl

theorem ofLexemes_append_of_uses_eq_nil {ls : List Lexeme} (h : uses ls = [])
    (parameters : Table Value) (style : MarkerStyle) (ms : List Lexeme) :
    Rendering.ofLexemes parameters style (ls ++ ms) =
      (Rendering.ofLexemes parameters style ms).after
        (String.ofList (ls.flatMap Lexeme.chars)) := by
  have huses : uses (ls ++ ms) = uses ms := by
    rw [uses_append, h, List.nil_append]
  have hmarked (mark : List Char → List Char) :
      marked mark (ls ++ ms) = ls.flatMap Lexeme.chars ++ marked mark ms := by
    rw [marked_append, marked_of_uses_eq_nil h]
  unfold Rendering.after
  cases style with
  | namedColon => simp only [Rendering.ofLexemes, List.flatMap_append, String.ofList_append]
  | questionMark => simp only [Rendering.ofLexemes, huses, hmarked, String.ofList_append]
  | numeric => simp only [Rendering.ofLexemes, firstUses, huses, hmarked, String.ofList_append]

/-- What stands before a statement matters only as far as a placeholder may open after it. -/
theorem lexemes_of_opens {before : Option Char} (h : opens before = true) (sought : Sought)
    (text : List Char) : lexemes sought before text = lexemes sought none text := by
  have hscan : Scans sought none text [] (lexemes sought none text) := by
    unfold Scans
    rw [List.append_nil, lexemes_nil, List.append_nil]
  have hsame : opens before = opens none := by rw [h]; rfl
  have hall := hscan.of_opens_eq hsame
  unfold Scans at hall
  rwa [List.append_nil, lexemes_nil, List.append_nil] at hall

section Lead

variable {lead rest : String}

theorem lexemes_append_of_passes {sought : Sought}
    (hopens : opens lead.toList.getLast? = true)
    (h : Passes sought none lead.toList rest.toList) :
    ∃ ls, uses ls = [] ∧ ls.flatMap Lexeme.chars = lead.toList ∧
      lexemes sought none (lead ++ rest).toList = ls ++ lexemes sought none rest.toList := by
  obtain ⟨ls, huses, hscan⟩ := h
  refine ⟨ls, huses, hscan.flatMap_chars, ?_⟩
  rw [String.toList_append, hscan, Option.or_none, lexemes_of_opens hopens]

/-- The placeholders behind such a text are those of what follows, further on. -/
theorem findAll_append_of_passes {sought : Sought} (hopens : opens lead.toList.getLast? = true)
    (h : Passes sought none lead.toList rest.toList) :
    findAll sought (lead ++ rest) = (findAll sought rest).map (Occurrence.shift lead.length) := by
  obtain ⟨ls, huses, hchars, hlexemes⟩ := lexemes_append_of_passes hopens h
  unfold findAll
  rw [hlexemes, occurrences_append_of_uses_eq_nil huses, hchars, String.length_toList,
    Nat.zero_add]
  exact occurrences_add lead.length 0 _

theorem convert_append_of_passes {parameters : Table Value}
    (hopens : opens lead.toList.getLast? = true)
    (h : Passes (.ofNames (boundNames parameters)) none lead.toList rest.toList)
    (style : MarkerStyle) :
    convert (lead ++ rest) parameters style = (convert rest parameters style).after lead := by
  obtain ⟨ls, huses, hchars, hlexemes⟩ := lexemes_append_of_passes hopens h
  unfold convert
  rw [hlexemes, ofLexemes_append_of_uses_eq_nil huses, hchars, String.ofList_toList]

end Lead

end Placeholder
end ParamSql
