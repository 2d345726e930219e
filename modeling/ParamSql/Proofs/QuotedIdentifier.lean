import ParamSql.Proofs.LeadingText

/-!
# Quoted identifiers in a statement

A quoted identifier has its quotes doubled, and the scan reads it as one token for each stretch
between them. Between backquotes nothing else matters. Between double quotes a backslash hides the
character after it, so an identifier is read by itself exactly when no backslash in it stands before
a double quote, at the end of a line or at the very end.
-/

namespace ParamSql
namespace Placeholder

open Text

/-- Whether every backslash stands before a character that it may hide. -/
def hidesNoQuote : List Char → Bool
  | [] => true
  | '\\' :: [] => false
  | '\\' :: c :: rest => c != '"' && c != '\n' && hidesNoQuote rest
  | _ :: rest => hidesNoQuote rest

theorem quotable_of_hidesNoQuote {identifier : List Char} (h : hidesNoQuote identifier = true) :
    Quotable '"' identifier := by
  fun_induction hidesNoQuote identifier with
  | case1 => exact Quotable.nil
  | case2 => simp at h
  | case3 c rest ih =>
    obtain ⟨⟨hc, hline⟩, hrest⟩ : (c ≠ '"' ∧ c ≠ '\n') ∧ hidesNoQuote rest = true := by
      simpa using h
    apply @Quotable.part '"' ['\\', c] rest _ (GoesOn.escaped (Or.inl rfl) hline) (ih hrest)
    simpa using Ne.symm hc
  | case4 c rest hend hback ih =>
    by_cases hc : c = '"'
    · rw [hc]
      exact Quotable.quote (ih h)
    · have hplain : GoesOn '"' [c] := by
        apply GoesOn.plain (Or.inl rfl) hc
        rintro rfl
        cases rest with
        | nil => exact absurd rfl (hend rfl)
        | cons d rest => exact absurd rfl (hback d rest rfl)
      apply @Quotable.part '"' [c] rest _ hplain (ih h)
      simpa using Ne.symm hc

/-- An identifier is read by itself when the scan takes for a quote what the database does. -/
theorem passes_quoteChars_of_hidesNoQuote {db : Database} {identifier : List Char}
    (h : db = .mySql ∨ hidesNoQuote identifier = true) {sought : Sought} {before : Option Char}
    {rest : List Char} : Passes sought before (db.dialect.quoteChars identifier) rest := by
  cases db with
  | mySql =>
    exact Passes.quoted (Or.inr (Or.inr rfl)) GoesOn.nil
      (Quotable.of_not_mem (Or.inr (Or.inr rfl)) fun _ => rfl)
  | postgreSql =>
    exact Passes.quoted (Or.inl rfl) GoesOn.nil (quotable_of_hidesNoQuote (by simpa using h))
  | sqlite =>
    exact Passes.quoted (Or.inl rfl) GoesOn.nil (quotable_of_hidesNoQuote (by simpa using h))

theorem hidesNoQuote_append {s t : List Char} (hs : hidesNoQuote s = true)
    (ht : hidesNoQuote t = true) : hidesNoQuote (s ++ '"' :: t) = true := by
  fun_induction hidesNoQuote s with
  | case1 => exact ht
  | case2 => simp at hs
  | case3 c rest ih =>
    obtain ⟨hc, hrest⟩ := Bool.and_eq_true_iff.mp hs
    rw [List.cons_append, List.cons_append, hidesNoQuote, hc, ih hrest, Bool.true_and]
  | case4 c rest hend hback ih =>
    rw [List.cons_append, hidesNoQuote, ih hs]
    · intro hc hnil
      simp at hnil
    · intro d more hc hmore
      cases rest with
      | nil => exact hend hc rfl
      | cons e rest => exact hback e rest hc rfl

section Doubled

def doubled (identifier : List Char) : List Char := replaceAll ['"'] ['"', '"'] identifier

@[simp] theorem doubled_nil : doubled [] = [] := replaceAll_nil _ _

@[simp] theorem doubled_quote (rest : List Char) :
    doubled ('"' :: rest) = '"' :: '"' :: doubled rest := by
  simp [doubled, replaceAll_singleton]

theorem doubled_cons {c : Char} (hc : c ≠ '"') (rest : List Char) :
    doubled (c :: rest) = c :: doubled rest := by
  simp [doubled, replaceAll_singleton, hc]

theorem doubled_append (s t : List Char) : doubled (s ++ t) = doubled s ++ doubled t :=
  replaceAll_singleton_append _ _ _ _

/-- A quote of the doubled text is the first or the second of a pair. -/
theorem doubled_eq_append {identifier u v : List Char} (h : doubled identifier = u ++ '"' :: v) :
    ∃ s t, identifier = s ++ '"' :: t ∧
      (u = doubled s ∧ v = '"' :: doubled t ∨ u = doubled s ++ ['"'] ∧ v = doubled t) := by
  induction identifier generalizing u with
  | nil => simp at h
  | cons c identifier ih =>
    have hlater (u' : List Char) (hu : u = doubled [c] ++ u')
        (htail : doubled identifier = u' ++ '"' :: v) :
        ∃ s t, c :: identifier = s ++ '"' :: t ∧
          (u = doubled s ∧ v = '"' :: doubled t ∨ u = doubled s ++ ['"'] ∧ v = doubled t) := by
      obtain ⟨s, t, rfl, hsplit⟩ := ih htail
      have hcons : doubled (c :: s) = doubled [c] ++ doubled s := doubled_append [c] s
      refine ⟨c :: s, t, rfl, ?_⟩
      rcases hsplit with ⟨rfl, hv⟩ | ⟨rfl, hv⟩
      · exact Or.inl ⟨by rw [hu, hcons], hv⟩
      · exact Or.inr ⟨by rw [hu, hcons, List.append_assoc], hv⟩
    by_cases hc : c = '"'
    · subst hc
      rw [doubled_quote] at h
      rcases u with _ | ⟨d, _ | ⟨e, u⟩⟩
      · exact ⟨[], identifier, rfl, Or.inl ⟨doubled_nil.symm, (List.cons.inj h).2.symm⟩⟩
      · obtain ⟨rfl, htail⟩ := List.cons.inj h
        refine ⟨[], identifier, rfl, Or.inr ⟨by rw [doubled_nil, List.nil_append], ?_⟩⟩
        exact (List.cons.inj htail).2.symm
      · simp only [List.cons_append, List.cons.injEq] at h
        obtain ⟨rfl, rfl, htail⟩ := h
        exact hlater u (by rw [doubled_quote, doubled_nil]; rfl) htail
    · rw [doubled_cons hc] at h
      rcases u with _ | ⟨d, u⟩
      · exact absurd (List.cons.inj h).1 hc
      · obtain ⟨rfl, htail⟩ := List.cons.inj h
        exact hlater u (by rw [doubled_cons hc, doubled_nil]; rfl) htail

/-- When the only free quote is the last one, the backslashes hide no quote. -/
theorem hidesNoQuote_of_quotedTail {identifier : List Char}
    (h : QuotedTail '"' (doubled identifier ++ ['"'])) : hidesNoQuote identifier = true := by
  fun_induction hidesNoQuote identifier with
  | case1 => rfl
  | case2 =>
    rw [doubled_cons (by decide), doubled_nil] at h
    obtain ⟨c, more, heq, _, hrest⟩ := h.of_escaped (by decide)
    obtain rfl := (List.cons.inj heq).2
    cases hrest
  | case3 c rest ih =>
    rw [doubled_cons (by decide)] at h
    obtain ⟨d, more, heq, hd, hrest⟩ := h.of_escaped (by decide)
    by_cases hc : c = '"'
    · -- The first quote of the pair is hidden, and the second one is free.
      rw [hc, doubled_quote] at heq
      obtain rfl := (List.cons.inj heq).2
      have hnil := hrest.eq_nil_of_quote (by decide)
      simp at hnil
    · rw [doubled_cons hc] at heq
      obtain ⟨rfl, rfl⟩ := List.cons.inj heq
      simp [hc, hd, ih hrest]
  | case4 c rest hend hback ih =>
    by_cases hc : c = '"'
    · rw [hc, doubled_quote] at h
      have hnil := h.eq_nil_of_quote (by decide)
      simp at hnil
    · rw [doubled_cons hc] at h
      apply ih
      apply h.of_plain hc
      rintro rfl
      cases rest with
      | nil => exact hend rfl rfl
      | cons d rest => exact hback d rest rfl rfl

end Doubled

/-- Of the tokens that end inside a line, only those between double quotes end with one. -/
theorem first_of_token_ending_with_quote {first c : Char} {tail after : List Char}
    (h : tokenTail? first (tail ++ c :: after) = some tail.length)
    (hlast : (first :: tail).getLast? = some '"') (hc : c ≠ '\r' ∧ c ≠ '\n') :
    first = '"' ∧ QuotedTail '"' tail := by
  have hends {body : List Char} {d : Char} (htail : first :: tail = body ++ [d]) : d = '"' := by
    rw [htail, List.getLast?_concat] at hlast
    exact Option.some.inj hlast
  have htoken := isToken_of_tokenTail? h
  rw [List.take_left] at htoken
  generalize htext : first :: tail = text at htoken
  cases htoken with
  | doubleQuoted htail =>
    obtain ⟨rfl, rfl⟩ := List.cons.inj htext
    exact ⟨rfl, htail⟩
  | singleQuoted htail =>
    obtain ⟨body, rfl⟩ := htail.exists_eq_append
    exact absurd (@hends ('\'' :: body) _ htext) (by decide)
  | @backquoted body _ => exact absurd (@hends ('\x60' :: body) _ htext) (by decide)
  | @dollarQuoted tag body _ =>
    have hsplit : '$' :: (tag ++ '$' :: (body ++ ('$' :: tag ++ ['$']))) =
        '$' :: (tag ++ '$' :: (body ++ '$' :: tag)) ++ ['$'] := by simp
    exact absurd (hends (htext.trans hsplit)) (by decide)
  | @lineComment body hbody =>
    -- A comment does not end before the line does.
    obtain ⟨rfl, rfl⟩ := List.cons.inj htext
    have hinside : ∀ d ∈ body, (d != '\r' && d != '\n') = true := by
      intro d hd
      simpa using hbody d hd
    have hmore : ((body ++ c :: after).takeWhile fun d => d != '\r' && d != '\n').length =
        body.length := by
      have hlen := Option.some.inj h
      rw [List.length_cons, Nat.add_comm] at hlen
      exact Nat.succ.inj hlen
    rw [List.takeWhile_append_of_pos hinside, List.takeWhile_cons_of_pos (by simpa using hc),
      List.length_append, List.length_cons] at hmore
    omega
  | @blockComment body _ =>
    have hsplit : '/' :: '*' :: (body ++ ['*', '/']) = '/' :: '*' :: (body ++ ['*']) ++ ['/'] := by
      simp
    exact absurd (hends (htext.trans hsplit)) (by decide)
  | @cast type hne hword =>
    have hmem : '"' ∈ type := by
      rw [htext, List.getLast?_cons_cons, List.getLast?_cons] at hlast
      apply List.mem_of_getLast?
      cases htype : type.getLast? with
      | none => exact absurd (List.getLast?_eq_none_iff.mp htype) hne
      | some d => simpa [htype] using hlast
    exact absurd (hword _ hmem) (by decide)

/-- A double quote that is read as a character is never closed. -/
theorem tokenTail?_of_lexeme_plain {sought : Sought} {s : Stop} {c : Char}
    (h : s.lexeme sought = .plain c) : s.first = c ∧ tokenTail? s.first s.rest = none := by
  unfold Stop.lexeme Lexeme.next at h
  split at h
  · simp at h
  · next htail =>
    refine ⟨?_, htail⟩
    split_ifs at h with hcolon
    · split at h
      · simp at h
      · exact Lexeme.plain.inj h
    · exact Lexeme.plain.inj h

theorem tokenTail?_of_lexeme_token {sought : Sought} {s : Stop} {t : List Char}
    (h : s.lexeme sought = .token t) :
    ∃ n, tokenTail? s.first s.rest = some n ∧ t = s.first :: s.rest.take n := by
  unfold Stop.lexeme Lexeme.next at h
  split at h
  · next n htail => exact ⟨n, htail, (Lexeme.token.inj h).symm⟩
  · split_ifs at h
    split at h <;> simp at h

section Behind

variable {identifier more : List Char} {c : Char} {t : Stop}

/-- When the scan stands behind a quoted identifier, it has read the last of it as a token, before
which it stood where the identifier begins or between the two quotes of a pair. What follows the
identifier closes a double quote and goes on in the line. -/
theorem quotedTail_of_stop (hclosed : (closingQuote? '"' (c :: more)).isSome)
    (hc : c ≠ '\r' ∧ c ≠ '\n')
    (ht : t ∈ stops (.among [['x']]) [] ('"' :: (doubled identifier ++ ['"']) ++ c :: more))
    (hoffset : t.offset = (doubled identifier).length + 2) :
    QuotedTail '"' (doubled identifier ++ ['"']) ∨
      ∃ front back, identifier = front ++ '"' :: back ∧ QuotedTail '"' (doubled back ++ ['"']) ∧
        ∃ s ∈ stops (.among [['x']]) [] ('"' :: (doubled identifier ++ ['"']) ++ c :: more),
          s.offset = (doubled front).length + 2 := by
  obtain ⟨s, hs, hread, hrest⟩ := exists_stop_ending ht (List.cons_ne_nil _ _) (by simp [hoffset])
  -- The lexeme before ends with the quote that closes the identifier.
  have hlast : (s.lexeme (.among [['x']])).chars.getLast? = some '"' := by
    have hne : (s.lexeme (.among [['x']])).chars ≠ [] := Lexeme.chars_next_ne_nil _ _ _ _
    rw [← List.getLast?_append_of_ne_nil s.read hne, hread, ← List.cons_append,
      List.getLast?_concat]
  cases hlexeme : s.lexeme (.among [['x']]) with
  | plain d =>
    obtain ⟨hfirst, hnone⟩ := tokenTail?_of_lexeme_plain hlexeme
    rw [hlexeme] at hlast hrest
    obtain rfl : d = '"' := by simpa [Lexeme.chars] using hlast
    have hafter : s.rest = c :: more := hrest
    rw [hfirst, hafter] at hnone
    rw [show closingQuote? '"' (c :: more) = none from hnone] at hclosed
    simp at hclosed
  | placeholder name =>
    obtain ⟨hname, -⟩ := Stop.standsAt_of_lexeme hlexeme
    obtain rfl : name = ['x'] := by simpa using hname
    rw [hlexeme] at hlast
    exact absurd hlast (by decide)
  | token text =>
    obtain ⟨n, htail, rfl⟩ := tokenTail?_of_lexeme_token hlexeme
    obtain ⟨tail, after, hsplit, rfl, -⟩ := tokenTail?_eq_some htail
    have hchars : (s.lexeme (.among [['x']])).chars = s.first :: tail := by
      rw [hlexeme, hsplit, List.take_left]
      rfl
    have hafter : after = c :: more := by
      rw [← hrest, Lexeme.size, hchars, hsplit, List.length_cons, Nat.add_sub_cancel,
        List.drop_left]
    rw [hsplit, hafter] at htail
    rw [hchars] at hlast hread
    obtain ⟨hfirst, hquoted⟩ := first_of_token_ending_with_quote htail hlast hc
    obtain ⟨body, rfl⟩ := hquoted.exists_eq_append
    rw [hfirst, ← List.cons_append, ← List.append_assoc, ← List.cons_append] at hread
    have hread := List.append_cancel_right hread
    rcases hbefore : s.read with _ | ⟨d, u⟩
    · -- The token begins where the identifier does.
      rw [hbefore] at hread
      obtain rfl := (List.cons.inj hread).2
      exact Or.inl hquoted
    · rw [hbefore, List.cons_append] at hread
      obtain ⟨front, back, hidentifier, hpair⟩ := doubled_eq_append (List.cons.inj hread).2.symm
      rcases hpair with ⟨-, hbody⟩ | ⟨hu, hbody⟩
      · rw [hbody] at hquoted
        exact absurd (hquoted.eq_nil_of_quote (by decide)) (by simp)
      · rw [hbody] at hquoted
        refine Or.inr ⟨front, back, hidentifier, hquoted, s, hs, ?_⟩
        rw [Stop.offset, hbefore, hu]
        simp

theorem hidesNoQuote_of_stop (hclosed : (closingQuote? '"' (c :: more)).isSome)
    (hc : c ≠ '\r' ∧ c ≠ '\n')
    (ht : t ∈ stops (.among [['x']]) [] ('"' :: (doubled identifier ++ ['"']) ++ c :: more))
    (hoffset : t.offset = (doubled identifier).length + 2) : hidesNoQuote identifier = true := by
  induction hlength : identifier.length using Nat.strong_induction_on
    generalizing identifier more c t with
  | _ n ih =>
    rcases quotedTail_of_stop hclosed hc ht hoffset with
      hquoted | ⟨front, back, rfl, hquoted, s, hs, hbehind⟩
    · exact hidesNoQuote_of_quotedTail hquoted
    · have hfront : hidesNoQuote front = true := by
        refine @ih front.length ?_ front (doubled back ++ '"' :: c :: more) '"' s rfl (by decide)
          ?_ hbehind rfl
        · rw [← hlength, List.length_append, List.length_cons]
          omega
        · rw [doubled_append, doubled_quote] at hs
          simpa using hs
      exact hidesNoQuote_append hfront (hidesNoQuote_of_quotedTail hquoted)

end Behind

/-- The placeholders behind a quoted identifier are those of the text that follows it, whatever that
is, exactly when the database is MySQL or the backslashes of the identifier hide no quote. -/
theorem quoted_identifier_scanned_alone_iff (db : Database) (identifier : String) :
    (∀ (sought : Sought) (rest : String),
      findAll sought (db.dialect.quote identifier ++ rest) =
        (findAll sought rest).map (Occurrence.shift (db.dialect.quote identifier).length)) ↔
      db = .mySql ∨ hidesNoQuote identifier.toList = true := by
  have htext : (db.dialect.quote identifier).toList = db.dialect.quoteChars identifier.toList :=
    String.toList_ofList
  constructor
  · intro hall
    by_cases hdb : db = .mySql
    · exact Or.inl hdb
    · right
      have hquote : db.dialect.quoteChars identifier.toList =
          '"' :: (doubled identifier.toList ++ ['"']) := by
        cases db with
        | mySql => exact absurd rfl hdb
        | postgreSql => rfl
        | sqlite => rfl
      -- A placeholder that follows at once, and a quote after it.
      have hrest : findAll (.ofNames ["x"]) ":x\"" = [⟨"x", 0, 2⟩] := by decide +kernel
      have hfound : (⟨"x", 0, 2⟩ : Occurrence).shift (db.dialect.quote identifier).length ∈
          findAll (.ofNames ["x"]) (db.dialect.quote identifier ++ ":x\"") := by
        rw [hall, hrest]
        exact List.mem_cons_self
      obtain ⟨t, ht, hsome⟩ := mem_findAll.mp hfound
      obtain ⟨-, hstart, -⟩ := occurrence?_eq_some.mp hsome
      rw [String.toList_append, htext, hquote] at ht
      have hlength : (db.dialect.quote identifier).length =
          (doubled identifier.toList).length + 2 := by
        rw [← String.length_toList, htext, hquote]
        simp
      have hoffset : t.offset = (doubled identifier.toList).length + 2 := by
        rw [← hlength, ← hstart, Occurrence.shift, Nat.add_zero]
      exact hidesNoQuote_of_stop rfl (by decide) ht hoffset
  · intro h sought rest
    apply findAll_append_of_passes
    · have hopens := opens_quoteChars db identifier.toList none
      rwa [Option.or_none, ← htext] at hopens
    · rw [htext]
      exact passes_quoteChars_of_hidesNoQuote h

/-- A backslash at the end of a column hides the placeholder that is written behind it. -/
theorem backslash_hides_placeholder :
    let rest := "=:x AND \"b\"=:y"
    let sql := Database.postgreSql.dialect.quote "a\\" ++ rest
    sql = "\"a\\\"=:x AND \"b\"=:y" ∧
      findAll (.ofNames ["x", "y"]) rest = [⟨"x", 1, 3⟩, ⟨"y", 12, 14⟩] ∧
      findAll (.ofNames ["x", "y"]) sql = [⟨"y", 16, 18⟩] := by
  intro rest sql
  refine ⟨by decide +kernel, by decide +kernel, by decide +kernel⟩

end Placeholder
end ParamSql
