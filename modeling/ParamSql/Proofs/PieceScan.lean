import ParamSql.Operator
import ParamSql.Placeholder.Positional
import ParamSql.Proofs.BoundNames

/-!
# Scanning a text piece by piece

A text that stands before more text is read by itself when none of its lexemes reaches over the
seam. This holds of text in which no token and no placeholder can begin, of a quoted identifier and
of a placeholder, so what is put together from such pieces is read as the pieces are.
-/

namespace ParamSql
namespace Placeholder

open Text

/-- Before `rest` the text is read as the given lexemes, and the last of them ends where it ends. -/
def Scans (sought : Sought) (before : Option Char) (text rest : List Char) (ls : List Lexeme) :
    Prop :=
  lexemes sought before (text ++ rest) = ls ++ lexemes sought (text.getLast?.or before) rest

/-- A character with which neither a token nor a placeholder begins. -/
def isIdle (c : Char) : Bool := c ∉ ['"', '\'', '\x60', '$', '-', '/', ':']

theorem isIdle_of_class {p : Char → Bool}
    (hp : ['"', '\'', '\x60', '$', '-', '/', ':'].all (fun c => !p c) = true) {c : Char}
    (h : p c = true) : isIdle c = true := by
  by_contra hnot
  rw [isIdle, decide_eq_true_eq, not_not] at hnot
  have hc := List.all_eq_true.mp hp c hnot
  rw [h] at hc
  cases hc

theorem uses_append (ls ms : List Lexeme) : uses (ls ++ ms) = uses ls ++ uses ms :=
  List.filterMap_append

theorem marked_append (mark : List Char → List Char) (ls ms : List Lexeme) :
    marked mark (ls ++ ms) = marked mark ls ++ marked mark ms :=
  List.flatMap_append

theorem marked_of_uses_eq_nil {ls : List Lexeme} (h : uses ls = []) (mark : List Char → List Char) :
    marked mark ls = ls.flatMap Lexeme.chars := by
  apply List.flatMap_congr
  intro l hl
  cases l with
  | plain c => rfl
  | token t => rfl
  | placeholder name =>
    have hname := List.filterMap_eq_nil_iff.mp h _ hl
    simp [Lexeme.name?] at hname

theorem tokenTail?_of_isIdle {c : Char} (h : isIdle c = true) (rest : List Char) :
    tokenTail? c rest = none := by
  unfold tokenTail?
  split
  any_goals simp [isIdle] at h
  rfl

theorem closingQuote?_close {quote : Char} (hquote : quote ≠ '\\') (rest : List Char) :
    closingQuote? quote (quote :: rest) = some 1 := by
  rw [closingQuote?, if_pos rfl]
  · intro hback _
    exact hquote hback
  · intro c more hback _
    exact hquote hback

theorem closingQuote?_plain {quote c : Char} (hc : c ≠ quote) (hback : c ≠ '\\')
    (rest : List Char) :
    closingQuote? quote (c :: rest) = (closingQuote? quote rest).map (· + 1) := by
  rw [closingQuote?, if_neg hc]
  · intro heq _
    exact hback heq
  · intro d more heq _
    exact hback heq

theorem closingQuote?_escaped {quote c : Char} (hc : c ≠ '\n') (rest : List Char) :
    closingQuote? quote ('\\' :: c :: rest) = (closingQuote? quote rest).map (· + 2) := by
  rw [closingQuote?, if_neg hc]

theorem upTo?_append {c : Char} {body : List Char} (rest : List Char) (h : c ∉ body) :
    upTo? c (body ++ c :: rest) = some (body.length + 1) := by
  have hbody : body.findIdx? (· == c) = none := by
    apply List.findIdx?_eq_none_iff.mpr
    intro d hd
    exact beq_eq_false_iff_ne.mpr fun heq => h (heq ▸ hd)
  rw [upTo?, List.findIdx?_append, hbody, List.findIdx?_cons]
  simp

/-- The three quotes, between which a token holds text. -/
def IsQuote (q : Char) : Prop := q = '"' ∨ q = '\'' ∨ q = '\x60'

/-- The search for the quote that closes a token goes on behind the text as if it began there. -/
def GoesOn (q : Char) (text : List Char) : Prop :=
  ∀ rest, tokenTail? q (text ++ rest) = (tokenTail? q rest).map (· + text.length)

/-- An identifier in which only the quotes themselves, which are doubled, can close a token. -/
inductive Quotable (q : Char) : List Char → Prop
  | nil : Quotable q []
  | quote {rest} : Quotable q rest → Quotable q (q :: rest)
  | part {part rest} : q ∉ part → GoesOn q part → Quotable q rest → Quotable q (part ++ rest)

theorem tokenTail?_close {q : Char} (hq : IsQuote q) (rest : List Char) :
    tokenTail? q (q :: rest) = some 1 := by
  rcases hq with rfl | rfl | rfl
  · exact closingQuote?_close (by decide) rest
  · exact closingQuote?_close (by decide) rest
  · exact @upTo?_append '\x60' [] rest List.not_mem_nil

namespace GoesOn

variable {q : Char}

theorem nil : GoesOn q [] := by
  intro rest
  simp

theorem append {s t : List Char} (first : GoesOn q s) (last : GoesOn q t) : GoesOn q (s ++ t) := by
  intro rest
  rw [List.append_assoc, first, last, Option.map_map, List.length_append]
  congr 1
  funext n
  simp only [Function.comp_apply]
  omega

theorem plain (hq : IsQuote q) {c : Char} (hc : c ≠ q) (hback : c = '\\' → q = '\x60') :
    GoesOn q [c] := by
  intro rest
  rcases hq with rfl | rfl | rfl
  · exact closingQuote?_plain hc (fun heq => absurd (hback heq) (by decide)) rest
  · exact closingQuote?_plain hc (fun heq => absurd (hback heq) (by decide)) rest
  · change upTo? _ (c :: rest) = (upTo? _ rest).map (· + 1)
    unfold upTo?
    rw [List.findIdx?_cons, if_neg (by simpa using hc)]

theorem escaped (hq : q = '"' ∨ q = '\'') {c : Char} (hc : c ≠ '\n') : GoesOn q ['\\', c] := by
  intro rest
  rcases hq with rfl | rfl
  · exact closingQuote?_escaped hc rest
  · exact closingQuote?_escaped hc rest

end GoesOn

theorem Quotable.of_not_mem {q : Char} (hq : IsQuote q) {identifier : List Char}
    (h : '\\' ∈ identifier → q = '\x60') : Quotable q identifier := by
  induction identifier with
  | nil => exact Quotable.nil
  | cons c identifier ih =>
    have hrest := ih fun hmem => h (List.mem_cons_of_mem _ hmem)
    by_cases hc : c = q
    · rw [hc]
      exact Quotable.quote hrest
    · apply @Quotable.part q [c] identifier _ (GoesOn.plain hq hc _) hrest
      · simpa using Ne.symm hc
      · intro heq
        exact h (by simp [heq])

/-- A name does not reach into text that continues no name. -/
theorem prefix_of_prefix_append {name text more : List Char}
    (hname : ∀ c ∈ name, isNameChar c = true) (hmore : ∀ c ∈ more.head?, isNameChar c = false)
    (h : name <+: text ++ more) : name <+: text := by
  by_cases hlen : name.length ≤ text.length
  · exact List.prefix_of_prefix_length_le h (List.prefix_append text more) hlen
  · obtain ⟨tail, rfl⟩ :=
      List.prefix_of_prefix_length_le (List.prefix_append text more) h (by omega)
    rw [List.prefix_append_right_inj] at h
    cases tail with
    | nil => simp at hlen
    | cons c tail =>
      obtain ⟨after, rfl⟩ := h
      have hc := hname c (by simp)
      rw [hmore c rfl] at hc
      simp at hc

namespace Scans

variable {sought : Sought} {before : Option Char} {rest : List Char}

theorem nil : Scans sought before [] rest [] := rfl

theorem append {s t : List Char} {ls ms : List Lexeme}
    (first : Scans sought before s (t ++ rest) ls)
    (last : Scans sought (s.getLast?.or before) t rest ms) :
    Scans sought before (s ++ t) rest (ls ++ ms) := by
  unfold Scans at first last ⊢
  rw [List.append_assoc, first, last, List.getLast?_append, Option.or_assoc, List.append_assoc]

/-- What stands before a text matters only for a placeholder at its very start. -/
theorem of_opens_eq {before' : Option Char} {text : List Char} {ls : List Lexeme}
    (hopens : opens before' = opens before) (h : Scans sought before text rest ls) :
    Scans sought before' text rest ls := by
  have hlexemes (more : List Char) : lexemes sought before' more = lexemes sought before more := by
    cases more with
    | nil => rw [lexemes_nil, lexemes_nil]
    | cons first more =>
      have hnext :
          Lexeme.next sought before' first more = Lexeme.next sought before first more := by
        unfold Lexeme.next
        rw [hopens]
      rw [lexemes_cons, lexemes_cons, hnext]
  unfold Scans at h ⊢
  rw [hlexemes, h]
  cases hlast : text.getLast? with
  | none => rw [Option.none_or, Option.none_or, hlexemes]
  | some c => rw [Option.some_or, Option.some_or]

theorem flatMap_chars {text : List Char} {ls : List Lexeme} (h : Scans sought before text rest ls) :
    ls.flatMap Lexeme.chars = text := by
  have hall := congrArg (List.flatMap Lexeme.chars) h
  rw [List.flatMap_append, flatMap_chars_lexemes, flatMap_chars_lexemes] at hall
  exact (List.append_cancel_right hall).symm

theorem of_next {first : Char} {tail : List Char} {l : Lexeme}
    (h : Lexeme.next sought before first (tail ++ rest) = l) (hchars : l.chars = first :: tail) :
    Scans sought before (first :: tail) rest [l] := by
  have hlast : l.chars.getLast? = (first :: tail).getLast?.or before := by
    rw [hchars, List.getLast?_cons, Option.some_or]
  have hdrop : (tail ++ rest).drop (l.size - 1) = rest := by
    rw [Lexeme.size, hchars, List.length_cons, Nat.add_sub_cancel, List.drop_left]
  unfold Scans
  rw [List.cons_append, lexemes_cons, h, hdrop, hlast]
  rfl

theorem token {first : Char} {tail : List Char}
    (h : tokenTail? first (tail ++ rest) = some tail.length) :
    Scans sought before (first :: tail) rest [.token (first :: tail)] := by
  apply of_next
  · simp only [Lexeme.next, h, List.take_left]
  · rfl

theorem plain {c : Char} (htail : tokenTail? c rest = none) (hc : c ≠ ':') :
    Scans sought before [c] rest [.plain c] := by
  refine @of_next _ _ _ c [] _ ?_ rfl
  rw [List.nil_append, Lexeme.next, htail]
  simp [hc]

theorem placeholder {names : List (List Char)} {name : List Char} (hbefore : opens before = true)
    (hname : name ∈ names) (hne : name ≠ [])
    (hchars : ∀ n ∈ names, ∀ c ∈ n, isNameChar c = true) (hcloses : closes rest = true) :
    Scans (.among names) before (':' :: name) rest [.placeholder name] := by
  have hfits : fits (name ++ rest) name = true :=
    fits_iff.mpr ⟨hne, List.prefix_append _ _, by rwa [List.drop_left]⟩
  have hend : ∀ c ∈ rest.head?, isNameChar c = false := by
    intro c hc
    rw [List.head?_eq_getElem?] at hc
    have hstop := (closes_iff _).mp hcloses c hc
    simp [isNameChar, hstop]
  have hlongest : ∀ other ∈ names, fits (name ++ rest) other = true →
      other.length ≤ name.length := by
    intro other hother hfits
    obtain ⟨_, hprefix, _⟩ := fits_iff.mp hfits
    exact (prefix_of_prefix_append (hchars other hother) hend hprefix).length_le
  have hlen : (Sought.among names).nameLength? (name ++ rest) = some name.length :=
    Sought.nameLength?_among_eq_some.mpr ⟨⟨name, hname, hfits, rfl⟩, hlongest⟩
  have htail : tokenTail? ':' (name ++ rest) = none := by
    cases name with
    | nil => exact absurd rfl hne
    | cons c name =>
      have hc := hchars _ hname c List.mem_cons_self
      change cast? (c :: (name ++ rest)) = none
      unfold cast?
      split
      · next more heq =>
        obtain rfl : c = ':' := (List.cons.inj heq).1
        exact absurd hc (by decide)
      · rfl
  refine of_next ?_ rfl
  simp only [Lexeme.next, htail, hbefore, and_self, if_true, hlen, List.take_left]

end Scans

/-- Before `rest` the text is read by itself and holds no placeholder. -/
def Passes (sought : Sought) (before : Option Char) (text rest : List Char) : Prop :=
  ∃ ls, uses ls = [] ∧ Scans sought before text rest ls

namespace Passes

variable {sought : Sought} {before : Option Char} {rest : List Char}

theorem append {s t : List Char} (first : Passes sought before s (t ++ rest))
    (last : Passes sought (s.getLast?.or before) t rest) : Passes sought before (s ++ t) rest := by
  obtain ⟨ls, hls, hs⟩ := first
  obtain ⟨ms, hms, ht⟩ := last
  refine ⟨ls ++ ms, ?_, hs.append ht⟩
  rw [uses_append, hls, hms, List.append_nil]

theorem idle {text : List Char} (h : ∀ c ∈ text, isIdle c = true) :
    Passes sought before text rest := by
  induction text generalizing before with
  | nil => exact ⟨[], rfl, Scans.nil⟩
  | cons c text ih =>
    have hc := h c List.mem_cons_self
    have hcolon : c ≠ ':' := by
      rintro rfl
      simp [isIdle] at hc
    have hfirst : Passes sought before [c] (text ++ rest) :=
      ⟨[.plain c], rfl, Scans.plain (tokenTail?_of_isIdle hc _) hcolon⟩
    exact hfirst.append (ih fun d hd => h d (List.mem_cons_of_mem _ hd))

theorem token {first : Char} {tail : List Char}
    (h : tokenTail? first (tail ++ rest) = some tail.length) :
    Passes sought before (first :: tail) rest :=
  ⟨[.token (first :: tail)], rfl, Scans.token h⟩

/-- Two quotes inside a quoted identifier end one token and begin the next. `body` has been read
since the last quote. -/
theorem quoted {q : Char} (hq : IsQuote q) {body identifier : List Char} (hbody : GoesOn q body)
    (hidentifier : Quotable q identifier) :
    Passes sought before (q :: (body ++ (replaceAll [q] [q, q] identifier ++ [q]))) rest := by
  have hclose (body more : List Char) (before : Option Char) (hbody : GoesOn q body) :
      Passes sought before (q :: (body ++ [q])) more := by
    apply token
    rw [List.append_assoc, hbody, List.singleton_append, tokenTail?_close hq, List.length_append]
    exact congrArg some (Nat.add_comm 1 _)
  -- Each quote of the identifier closes what has been read and opens the token of what is left.
  induction hidentifier generalizing before body with
  | nil =>
    rw [replaceAll_nil, List.nil_append]
    exact hclose body rest before hbody
  | @quote identifier _ ih =>
    have hnext := @ih (some q) [] GoesOn.nil
    have hlast : (q :: (body ++ [q])).getLast?.or before = some q := by
      rw [← List.cons_append, List.getLast?_concat, Option.some_or]
    rw [← hlast] at hnext
    have hall := (hclose body _ before hbody).append hnext
    simpa [replaceAll_singleton] using hall
  | @part part identifier hmem hpart _ ih =>
    have hnext := @ih before (body ++ part) (hbody.append hpart)
    rw [replaceAll_singleton_append, replaceAll_of_not_mem _ _ hmem, List.append_assoc part]
    rwa [List.append_assoc] at hnext

end Passes

section QuoteChars

variable (db : Database) {identifier : List Char}

theorem exists_quoteChars_eq (identifier : List Char) :
    ∃ q, (q = '"' ∨ q = '\x60') ∧
      db.dialect.quoteChars identifier = q :: (replaceAll [q] [q, q] identifier ++ [q]) := by
  have hquote : ∃ q, (q = '"' ∨ q = '\x60') ∧ db.dialect.identifierQuote.toList = [q] := by
    cases db with
    | mySql => exact ⟨'\x60', Or.inr rfl, by decide⟩
    | postgreSql => exact ⟨'"', Or.inl rfl, by decide⟩
    | sqlite => exact ⟨'"', Or.inl rfl, by decide⟩
  obtain ⟨q, hq, hlist⟩ := hquote
  refine ⟨q, hq, ?_⟩
  unfold Dialect.quoteChars
  rw [hlist]
  rfl

/-- A quoted identifier holds no placeholder, whatever is quoted. -/
theorem passes_quoteChars (h : '\\' ∉ identifier) {sought : Sought} {before : Option Char}
    {rest : List Char} : Passes sought before (db.dialect.quoteChars identifier) rest := by
  obtain ⟨q, hq, hchars⟩ := exists_quoteChars_eq db identifier
  have hquote : IsQuote q := hq.imp_right Or.inr
  rw [hchars]
  exact Passes.quoted hquote GoesOn.nil (Quotable.of_not_mem hquote fun hmem => absurd hmem h)

theorem closes_quoteChars (identifier rest : List Char) :
    closes (db.dialect.quoteChars identifier ++ rest) = true := by
  obtain ⟨q, hq, hchars⟩ := exists_quoteChars_eq db identifier
  rw [hchars, List.cons_append, closes]
  rcases hq with rfl | rfl <;> decide

theorem opens_quoteChars (identifier : List Char) (before : Option Char) :
    opens ((db.dialect.quoteChars identifier).getLast?.or before) = true := by
  obtain ⟨q, hq, hchars⟩ := exists_quoteChars_eq db identifier
  rw [hchars, ← List.cons_append, List.getLast?_concat, Option.some_or]
  rcases hq with rfl | rfl <;> decide

end QuoteChars

theorem isIdle_of_mem_beforeList {operator : String} (h : ∀ c ∈ operator.toList, isIdle c = true) :
    ∀ c ∈ (Operator.beforeList operator).toList, isIdle c = true := by
  unfold Operator.beforeList Operator.membership?
  split
  · exact List.all_eq_true.mp (by decide : " IN ".toList.all isIdle = true)
  · exact List.all_eq_true.mp (by decide : " NOT IN ".toList.all isIdle = true)
  · exact h

end Placeholder
end ParamSql
