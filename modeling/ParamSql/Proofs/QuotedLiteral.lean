import ParamSql.Proofs.LeadingText

/-!
# Quoted literals in a statement

Between its quotes a literal holds characters as they are and characters behind a backslash, among
which the quote itself may be. Such a literal is read as one token and hides every colon in it, with
one exception: a backslash at the end of a line makes the scan miss the closing quote.
-/

namespace ParamSql
namespace Placeholder

open Text

/-- A character as it is, or a character behind a backslash. -/
inductive LiteralItem where
  | plain (c : Char)
  | escaped (c : Char)
  deriving DecidableEq, Repr

namespace LiteralItem

def chars : LiteralItem → List Char
  | plain c => [c]
  | escaped c => ['\\', c]

def mayStand (quote : Char) : LiteralItem → Bool
  | plain c => c != quote && c != '\\'
  | escaped _ => true

end LiteralItem

/-- A literal between two single or two double quotes. -/
structure QuotedLiteral where
  quote : Char
  items : List LiteralItem
  quote_eq : quote = '"' ∨ quote = '\''
  mayStand : ∀ item ∈ items, item.mayStand quote = true

namespace QuotedLiteral

variable (l : QuotedLiteral)

def body : List Char := l.items.flatMap LiteralItem.chars

def text : String := String.ofList (l.quote :: (l.body ++ [l.quote]))

def breaksLine : Bool := l.items.contains (.escaped '\n')

theorem toList_text : l.text.toList = l.quote :: (l.body ++ [l.quote]) := String.toList_ofList

theorem isQuote : IsQuote l.quote := l.quote_eq.imp_right Or.inl

theorem opens_getLast?_text : opens l.text.toList.getLast? = true := by
  rw [toList_text, ← List.cons_append, List.getLast?_concat]
  rcases l.quote_eq with h | h
  · rw [h]
    decide
  · rw [h]
    decide

end QuotedLiteral

/-- The search for the closing quote reads on over items, but not over the end of a line behind a
backslash. -/
theorem tokenTail?_items {quote : Char} (hquote : quote = '"' ∨ quote = '\'')
    {items : List LiteralItem} (hitems : ∀ item ∈ items, item.mayStand quote = true)
    (rest : List Char) :
    tokenTail? quote (items.flatMap LiteralItem.chars ++ rest) =
      if items.contains (.escaped '\n') then none
      else (tokenTail? quote rest).map (· + (items.flatMap LiteralItem.chars).length) := by
  induction items with
  | nil => simp
  | cons item items ih =>
    have htail := ih fun i hi => hitems i (List.mem_cons_of_mem _ hi)
    rw [List.flatMap_cons, List.append_assoc, List.contains_cons]
    by_cases hitem : item = .escaped '\n'
    · have hnone : tokenTail? quote ('\\' :: '\n' :: (items.flatMap LiteralItem.chars ++ rest)) =
          none := by
        rcases hquote with rfl | rfl <;> rfl
      rw [hitem, beq_self_eq_true, Bool.true_or, if_pos rfl]
      exact hnone
    · have hthrough : GoesOn quote item.chars := by
        cases item with
        | plain c =>
          obtain ⟨hc, hback⟩ : c ≠ quote ∧ c ≠ '\\' := by
            simpa [LiteralItem.mayStand] using hitems _ List.mem_cons_self
          exact GoesOn.plain (hquote.imp_right Or.inl) hc fun heq => absurd heq hback
        | escaped c => exact GoesOn.escaped hquote fun heq => hitem (by rw [heq])
      rw [hthrough, htail, beq_eq_false_iff_ne.mpr (Ne.symm hitem), Bool.false_or]
      split_ifs
      · rfl
      · rw [Option.map_map, List.length_append]
        congr 1
        funext n
        simp only [Function.comp_apply]
        omega

/-- A literal is read to its closing quote exactly when no backslash in it stands at the end of a
line. -/
theorem QuotedLiteral.tokenTail?_eq (l : QuotedLiteral) (rest : List Char) :
    tokenTail? l.quote (l.body ++ l.quote :: rest) =
      if l.breaksLine then none else some (l.body.length + 1) := by
  rw [QuotedLiteral.body, tokenTail?_items l.quote_eq l.mayStand, tokenTail?_close l.isQuote,
    Option.map_some, Nat.add_comm 1]
  rfl

section Statement

variable (l : QuotedLiteral) {lead rest : String}

/-- Text in which nothing begins and a literal are read by themselves. -/
theorem QuotedLiteral.passes (hl : l.breaksLine = false)
    (hlead : ∀ c ∈ lead.toList, isIdle c = true) (sought : Sought) (rest : List Char) :
    Passes sought none (lead ++ l.text).toList rest := by
  have htail : tokenTail? l.quote (l.body ++ [l.quote] ++ rest) =
      some (l.body ++ [l.quote]).length := by
    rw [List.append_assoc, List.singleton_append, l.tokenTail?_eq, hl, List.length_append]
    rfl
  rw [String.toList_append, l.toList_text]
  exact (Passes.idle hlead).append (Passes.token htail)

theorem QuotedLiteral.opens_getLast?_append (lead : String) :
    opens (lead ++ l.text).toList.getLast? = true := by
  rw [String.toList_append, List.getLast?_append_of_ne_nil]
  · exact l.opens_getLast?_text
  · rw [l.toList_text]
    exact List.cons_ne_nil _ _

/-- No placeholder begins in a literal in which no backslash stands at the end of a line: the
placeholders are those of the text behind it, and rendering keeps the literal as it is. -/
theorem literal_hides_placeholders (lead rest : String) (hl : l.breaksLine = false)
    (hlead : ∀ c ∈ lead.toList, isIdle c = true) :
    (∀ sought : Sought,
      findAll sought (lead ++ l.text ++ rest) =
          (findAll sought rest).map (Occurrence.shift (lead ++ l.text).length) ∧
        ∀ o ∈ findAll sought (lead ++ l.text ++ rest),
          ¬ (lead.length ≤ o.start ∧ o.start < lead.length + l.text.length)) ∧
      ∀ (parameters : Table Value) (style : MarkerStyle),
        convert (lead ++ l.text ++ rest) parameters style =
          ⟨lead ++ l.text ++ (convert rest parameters style).text,
            (convert rest parameters style).args⟩ := by
  have hopens := l.opens_getLast?_append lead
  constructor
  · intro sought
    have hall := findAll_append_of_passes hopens (l.passes hl hlead sought rest.toList)
    refine ⟨hall, fun o ho hinside => ?_⟩
    rw [hall] at ho
    obtain ⟨o', _, rfl⟩ := List.mem_map.mp ho
    have hstart : (lead ++ l.text).length + o'.start < lead.length + l.text.length := hinside.2
    rw [String.length_append] at hstart
    omega
  · intro parameters style
    exact convert_append_of_passes hopens (l.passes hl hlead _ rest.toList) style

theorem literal_hides_placeholders_of_escaped_quote :
    let l : QuotedLiteral :=
      ⟨'\'', [.escaped '\'', .plain ':', .plain 'i', .plain 'd'], Or.inr rfl, by decide⟩
    l.text = "'\\':id'" ∧ l.breaksLine = false ∧
      findAll .identifiers ("SET a = " ++ l.text ++ ", b = :id") = [⟨"id", 21, 24⟩] := by
  intro l
  have hl : l.breaksLine = false := by decide
  have hfound := ((literal_hides_placeholders l "SET a = " ", b = :id" hl
    (List.all_eq_true.mp (by decide))).1 .identifiers).1
  refine ⟨by decide, hl, ?_⟩
  rw [hfound]
  decide +kernel

/-- A backslash at the end of a line hides the end of the literal from the scan, which then finds a
placeholder in it. -/
theorem broken_line_opens_literal :
    let l : QuotedLiteral :=
      ⟨'\'', [.plain 'a', .escaped '\n', .plain ':', .plain 'i', .plain 'd'], Or.inr rfl, by decide⟩
    let sql := "UPDATE t SET note = " ++ l.text ++ " WHERE id = :id"
    sql = "UPDATE t SET note = 'a\\\n:id' WHERE id = :id" ∧
      findAll (.ofNames ["id"]) sql = [⟨"id", 24, 27⟩, ⟨"id", 40, 43⟩] ∧
      (convert sql (.ofList [("id", .int 5)]) .questionMark).text =
        "UPDATE t SET note = 'a\\\n?' WHERE id = ?" ∧
      (convert sql (.ofList [("id", .int 5)]) .questionMark).args.length = 2 := by
  intro l sql
  refine ⟨by decide, by decide +kernel, by decide +kernel, by decide +kernel⟩

end Statement

end Placeholder
end ParamSql
