import ParamSql.Dialect

/-!
# Reading quoted identifiers

A database that meets an opening quote takes two quotes in a row for one that belongs to the
identifier, and the first quote that is not doubled for the closing one. Whatever an identifier
consists of, it is read back as it was before it was quoted, up to its last character and no
further.
-/

namespace ParamSql

/-- Reads what stands before the first quote that is not doubled, and gives it with the text behind
that quote. A text without such a quote is not read. -/
def readToClosingQuote (q : Char) : List Char → Option (List Char × List Char)
  | [] => none
  | c :: rest =>
    if c = q then
      match rest with
      | [] => some ([], [])
      | d :: more =>
        if d = q then (readToClosingQuote q more).map fun r => (q :: r.1, r.2)
        else some ([], d :: more)
    else (readToClosingQuote q rest).map fun r => (c :: r.1, r.2)

def readQuoted (q : Char) : List Char → Option (List Char × List Char)
  | [] => none
  | c :: rest => if c = q then readToClosingQuote q rest else none

section Reading

variable {q : Char}

theorem readToClosingQuote_pair (rest : List Char) :
    readToClosingQuote q (q :: q :: rest) =
      (readToClosingQuote q rest).map fun r => (q :: r.1, r.2) := by
  simp [readToClosingQuote]

theorem readToClosingQuote_of_ne {c : Char} (hc : c ≠ q) (rest : List Char) :
    readToClosingQuote q (c :: rest) =
      (readToClosingQuote q rest).map fun r => (c :: r.1, r.2) := by
  cases rest <;> simp [readToClosingQuote, hc]

theorem readToClosingQuote_closing {rest : List Char} (hrest : rest.head? ≠ some q) :
    readToClosingQuote q (q :: rest) = some ([], rest) := by
  cases rest with
  | nil => simp [readToClosingQuote]
  | cons d more =>
    have hd : d ≠ q := fun h => hrest (congrArg some h)
    simp [readToClosingQuote, hd]

/-- The reader goes through the doubled text as through the text itself, whatever comes behind. -/
theorem readToClosingQuote_doubled (text rest : List Char) :
    readToClosingQuote q (Text.replaceAll [q] [q, q] text ++ rest) =
      (readToClosingQuote q rest).map fun r => (text ++ r.1, r.2) := by
  induction text with
  | nil => simp
  | cons c text ih =>
    rw [Text.replaceAll_singleton] at ih ⊢
    rw [List.flatMap_cons, List.append_assoc]
    by_cases hc : c = q
    · rw [if_pos hc, List.cons_append, List.singleton_append, readToClosingQuote_pair, ih, hc,
        Option.map_map]
      rfl
    · rw [if_neg hc, List.singleton_append, readToClosingQuote_of_ne hc, ih,
        Option.map_map]
      rfl

theorem suffix_of_readToClosingQuote {text read left : List Char}
    (h : readToClosingQuote q text = some (read, left)) : left <:+ text.tail := by
  fun_induction readToClosingQuote q text generalizing read with
  | case1 => cases h
  | case2 =>
    cases h
    exact List.suffix_rfl
  | case3 more ih =>
    obtain ⟨⟨read', left'⟩, hmore, heq⟩ := Option.map_eq_some_iff.mp h
    obtain ⟨-, rfl⟩ := Prod.mk.inj heq
    exact (ih hmore).trans ((List.tail_suffix _).trans (List.suffix_cons _ _))
  | case4 d more hd =>
    cases h
    exact List.suffix_rfl
  | case5 c rest hc ih =>
    obtain ⟨⟨read', left'⟩, hrest, heq⟩ := Option.map_eq_some_iff.mp h
    obtain ⟨-, rfl⟩ := Prod.mk.inj heq
    exact (ih hrest).trans (List.tail_suffix _)

end Reading

section Quoting

variable {d : Dialect} {q : Char} (hq : d.identifierQuote.toList = [q])

include hq

/-- Once the identifier has been read, what comes next is decided at the closing quote. -/
theorem readQuoted_quote (identifier : String) (rest : List Char) :
    readQuoted q ((d.quote identifier).toList ++ rest) =
      (readToClosingQuote q (q :: rest)).map fun r => (identifier.toList ++ r.1, r.2) := by
  have hchars : (d.quote identifier).toList ++ rest =
      q :: (Text.replaceAll [q] [q, q] identifier.toList ++ q :: rest) := by
    simp [Dialect.quote, Dialect.quoteChars, hq]
  rw [hchars, readQuoted, if_pos rfl, readToClosingQuote_doubled]

theorem readQuoted_quote_of_head (identifier : String) {rest : List Char}
    (hrest : rest.head? ≠ some q) :
    readQuoted q ((d.quote identifier).toList ++ rest) = some (identifier.toList, rest) := by
  rw [readQuoted_quote hq, readToClosingQuote_closing hrest]
  simp

theorem quote_injective : Function.Injective d.quote := by
  intro identifier other hquote
  have hread (name : String) : readQuoted q (d.quote name).toList = some (name.toList, []) := by
    have hnothing : ([] : List Char).head? ≠ some q := by simp
    simpa using readQuoted_quote_of_head hq name hnothing
  have hsame : some (identifier.toList, []) = some (other.toList, ([] : List Char)) := by
    rw [← hread identifier, ← hread other, hquote]
  exact String.toList_inj.mp (Prod.mk.inj (Option.some.inj hsame)).1

/-- A quoted identifier is read as the identifier, and the text behind it is left over. So different
identifiers are quoted differently, and whatever the text behind it may be, a quotation is read to
its end at least. -/
theorem quoted_identifier_read_back :
    (∀ (identifier : String) (rest : List Char), rest.head? ≠ some q →
      readQuoted q ((d.quote identifier).toList ++ rest) = some (identifier.toList, rest)) ∧
    Function.Injective d.quote ∧
    ∀ (identifier : String) (rest read left : List Char),
      readQuoted q ((d.quote identifier).toList ++ rest) = some (read, left) →
        identifier.toList <+: read ∧ left <:+ rest := by
  refine ⟨fun identifier rest hrest => readQuoted_quote_of_head hq identifier hrest,
    quote_injective hq, ?_⟩
  intro identifier rest read left hread
  rw [readQuoted_quote hq] at hread
  obtain ⟨⟨more, left'⟩, hclosing, heq⟩ := Option.map_eq_some_iff.mp hread
  obtain ⟨rfl, rfl⟩ := Prod.mk.inj heq
  exact ⟨List.prefix_append _ _, suffix_of_readToClosingQuote hclosing⟩

end Quoting

/-- Quotes at both ends of the identifier, next to the quotes around it. -/
theorem quoted_identifier_read_back_of_quotes :
    let d := Database.mySql.dialect
    let identifier := "\x60\x60id\x60 OR 1=1 -- \x60"
    d.identifierQuote.toList = ['\x60'] ∧ " = 1".toList.head? ≠ some '\x60' ∧
      readQuoted '\x60' ((d.quote identifier).toList ++ " = 1".toList) =
        some (identifier.toList, " = 1".toList) := by
  intro d identifier
  have hquote : d.identifierQuote.toList = ['\x60'] := by decide
  have hrest : " = 1".toList.head? ≠ some '\x60' := by decide
  exact ⟨hquote, hrest, (quoted_identifier_read_back hquote).1 identifier _ hrest⟩

end ParamSql
