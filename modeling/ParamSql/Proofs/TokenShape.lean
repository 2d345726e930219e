import Mathlib.Data.List.Infix
import Mathlib.Data.List.TakeWhile
import ParamSql.Placeholder.Token

/-!
# The shapes of tokens

What a token without placeholders looks like, told apart from how the scanner measures one: quoted
text with its escapes, text between dollar tags, comments and casts. Whatever the scanner takes for
a token has one of these shapes.
-/

namespace ParamSql
namespace Placeholder

open Text

/-- Text that ends with the one quote in it that no backslash hides. -/
inductive QuotedTail (quote : Char) : List Char → Prop
  | close : QuotedTail quote [quote]
  | plain {c rest} : c ≠ quote → c ≠ '\\' → QuotedTail quote rest → QuotedTail quote (c :: rest)
  | escaped {c rest} : c ≠ '\n' → QuotedTail quote rest → QuotedTail quote ('\\' :: c :: rest)

namespace QuotedTail

variable {quote c : Char} {rest : List Char}

theorem eq_nil_of_quote (hquote : quote ≠ '\\') (h : QuotedTail quote (quote :: rest)) :
    rest = [] := by
  cases h with
  | close => rfl
  | plain hc _ _ => exact absurd rfl hc
  | escaped _ _ => exact absurd rfl hquote

theorem of_plain (hc : c ≠ quote) (hback : c ≠ '\\') (h : QuotedTail quote (c :: rest)) :
    QuotedTail quote rest := by
  cases h with
  | close => exact absurd rfl hc
  | plain _ _ hrest => exact hrest
  | escaped _ _ => exact absurd rfl hback

theorem of_escaped (hquote : quote ≠ '\\') (h : QuotedTail quote ('\\' :: rest)) :
    ∃ c more, rest = c :: more ∧ c ≠ '\n' ∧ QuotedTail quote more := by
  cases h with
  | close => exact absurd rfl hquote
  | plain _ hback _ => exact absurd rfl hback
  | escaped hc hrest => exact ⟨_, _, rfl, hc, hrest⟩

theorem exists_eq_append {tail : List Char} (h : QuotedTail quote tail) :
    ∃ body, tail = body ++ [quote] := by
  induction h with
  | close => exact ⟨[], rfl⟩
  | @plain c rest _ _ _ ih =>
    obtain ⟨body, rfl⟩ := ih
    exact ⟨c :: body, rfl⟩
  | @escaped c rest _ _ ih =>
    obtain ⟨body, rfl⟩ := ih
    exact ⟨'\\' :: c :: body, rfl⟩

end QuotedTail

/-- The seven shapes of a token. -/
inductive IsToken : List Char → Prop
  | doubleQuoted {tail} : QuotedTail '"' tail → IsToken ('"' :: tail)
  | singleQuoted {tail} : QuotedTail '\'' tail → IsToken ('\'' :: tail)
  | backquoted {body} : '\x60' ∉ body → IsToken ('\x60' :: (body ++ ['\x60']))
  | dollarQuoted {tag body} : (∀ c ∈ tag, isWord c = true) →
      IsToken ('$' :: (tag ++ '$' :: (body ++ ('$' :: tag ++ ['$']))))
  | lineComment {body} : (∀ c ∈ body, c ≠ '\r' ∧ c ≠ '\n') → IsToken ('-' :: '-' :: body)
  | blockComment {body} : ¬ ['*', '/'] <:+: body → IsToken ('/' :: '*' :: (body ++ ['*', '/']))
  | cast {type} : type ≠ [] → (∀ c ∈ type, isWord c = true) → IsToken (':' :: ':' :: type)

theorem closingQuote?_eq_some {quote : Char} {text : List Char} {n : Nat}
    (h : closingQuote? quote text = some n) :
    ∃ tail after, text = tail ++ after ∧ tail.length = n ∧ QuotedTail quote tail := by
  fun_induction closingQuote? quote text generalizing n with
  | case1 => simp at h
  | case2 => simp at h
  | case3 => simp at h
  | case4 c rest hc ih =>
    obtain ⟨m, hm, rfl⟩ := Option.map_eq_some_iff.mp h
    obtain ⟨tail, after, rfl, rfl, ht⟩ := ih hm
    exact ⟨'\\' :: c :: tail, after, rfl, rfl, .escaped hc ht⟩
  | case5 rest =>
    obtain rfl : 1 = n := by simpa using h
    exact ⟨[quote], rest, rfl, rfl, .close⟩
  | case6 c rest hend hescape hc ih =>
    obtain ⟨m, hm, rfl⟩ := Option.map_eq_some_iff.mp h
    obtain ⟨tail, after, rfl, rfl, ht⟩ := ih hm
    have hback : c ≠ '\\' := by
      rintro rfl
      cases htail : tail ++ after with
      | nil => exact hend rfl htail
      | cons d more => exact hescape d more rfl htail
    exact ⟨c :: tail, after, rfl, rfl, .plain hc hback ht⟩

theorem upTo?_eq_some {c : Char} {text : List Char} {n : Nat} (h : upTo? c text = some n) :
    ∃ body after, text = body ++ c :: after ∧ n = body.length + 1 ∧ c ∉ body := by
  obtain ⟨i, hi, rfl⟩ := Option.map_eq_some_iff.mp h
  obtain ⟨hlt, hat, hbefore⟩ := List.findIdx?_eq_some_iff_getElem.mp hi
  refine ⟨text.take i, text.drop (i + 1), ?_, ?_, ?_⟩
  · have hc : text[i] = c := by simpa using hat
    rw [← hc, List.cons_getElem_drop_succ, List.take_append_drop]
  · rw [List.length_take_of_le (Nat.le_of_lt hlt)]
  · intro hc
    obtain ⟨j, hj, hjc⟩ := List.mem_iff_getElem.mp hc
    rw [List.getElem_take] at hjc
    rw [List.length_take] at hj
    exact hbefore j (by omega) (by simp [hjc])

/-- Before the place that is found the pattern stands nowhere. -/
theorem not_prefix_of_lt_find? {pattern text : List Char} {n : Nat}
    (h : find? pattern text = some n) {m : Nat} (hm : m < n) : ¬ pattern <+: text.drop m := by
  induction text generalizing n m with
  | nil =>
    have : n = 0 := by
      unfold find? at h
      split_ifs at h
      exact (Option.some.inj h).symm
    omega
  | cons c rest ih =>
    rw [find?] at h
    split_ifs at h with hhere
    · simp only [Option.some.injEq] at h
      omega
    · obtain ⟨k, hk, rfl⟩ := Option.map_eq_some_iff.mp h
      cases m with
      | zero => exact fun hp => hhere (List.isPrefixOf_iff_prefix.mpr hp)
      | succ m => exact ih hk (by omega)

/-- What stands before the place that is found does not hold the pattern. -/
theorem not_infix_take_find? {pattern text : List Char} {n : Nat} (hpos : 0 < pattern.length)
    (h : find? pattern text = some n) : ¬ pattern <:+: text.take n := by
  rintro ⟨u, v, huv⟩
  have hlen := congrArg List.length huv
  simp only [List.length_append, List.length_take] at hlen
  refine not_prefix_of_lt_find? h (m := u.length) (by omega) ⟨v ++ text.drop n, ?_⟩
  have hall : u ++ (pattern ++ (v ++ text.drop n)) = text := by
    conv_rhs => rw [← List.take_append_drop n text, ← huv]
    simp only [List.append_assoc]
  have hdrop := congrArg (List.drop u.length) hall
  rwa [List.drop_left] at hdrop

theorem dollarQuoted?_eq_some {text : List Char} {n : Nat} (h : dollarQuoted? text = some n) :
    ∃ tail after, text = tail ++ after ∧ tail.length = n ∧ IsToken ('$' :: tail) := by
  unfold dollarQuoted? at h
  dsimp only at h
  generalize htag : text.takeWhile isWord = tag at h
  have hword : ∀ c ∈ tag, isWord c = true := by
    intro c hc
    rw [← htag] at hc
    exact List.mem_takeWhile_imp hc
  have htext : tag ++ text.drop tag.length = text := by
    conv_lhs => rw [← List.takeWhile_append_dropWhile (p := isWord) (l := text), htag,
      List.drop_left]
    rw [← htag, List.takeWhile_append_dropWhile]
  split at h
  · next body hbody =>
    obtain ⟨i, hi, rfl⟩ := Option.map_eq_some_iff.mp h
    obtain ⟨after, hafter⟩ := find?_spec hi
    have hlen := congrArg List.length hafter
    simp only [List.length_append, List.length_take, List.length_cons, List.length_nil] at hlen
    refine ⟨tag ++ '$' :: (body.take i ++ ('$' :: tag ++ ['$'])), after, ?_, ?_,
      .dollarQuoted hword⟩
    · rw [← htext, hbody]
      conv_lhs => rw [hafter]
      simp only [List.append_assoc, List.cons_append]
    · simp only [List.length_append, List.length_cons, List.length_take, List.length_nil]
      omega
  · simp at h

theorem lineComment?_eq_some {text : List Char} {n : Nat} (h : lineComment? text = some n) :
    ∃ tail after, text = tail ++ after ∧ tail.length = n ∧ IsToken ('-' :: tail) := by
  unfold lineComment? at h
  split at h
  · next rest =>
    obtain rfl := Option.some.inj h
    let inside := fun c : Char => c != '\r' && c != '\n'
    refine ⟨'-' :: rest.takeWhile inside, rest.dropWhile inside, ?_, ?_, .lineComment ?_⟩
    · rw [List.cons_append, List.takeWhile_append_dropWhile]
    · rw [List.length_cons, Nat.add_comm]
    · intro c hc
      simpa [inside] using List.mem_takeWhile_imp hc
  · simp at h

theorem blockComment?_eq_some {text : List Char} {n : Nat} (h : blockComment? text = some n) :
    ∃ tail after, text = tail ++ after ∧ tail.length = n ∧ IsToken ('/' :: tail) := by
  unfold blockComment? at h
  split at h
  · next rest =>
    obtain ⟨i, hi, rfl⟩ := Option.map_eq_some_iff.mp h
    obtain ⟨after, hafter⟩ := find?_spec hi
    have hlen := congrArg List.length hafter
    simp only [List.length_append, List.length_take, List.length_cons, List.length_nil] at hlen
    refine ⟨'*' :: (rest.take i ++ ['*', '/']), after, ?_, ?_,
      .blockComment (not_infix_take_find? (by decide) hi)⟩
    · rw [List.cons_append, ← hafter]
    · simp only [List.length_append, List.length_cons, List.length_take, List.length_nil]
      omega
  · simp at h

theorem cast?_eq_some {text : List Char} {n : Nat} (h : cast? text = some n) :
    ∃ tail after, text = tail ++ after ∧ tail.length = n ∧ IsToken (':' :: tail) := by
  unfold cast? at h
  split at h
  · next rest =>
    dsimp only at h
    split_ifs at h with hempty
    obtain rfl := Option.some.inj h
    refine ⟨':' :: rest.takeWhile isWord, rest.dropWhile isWord, ?_, ?_,
      .cast hempty fun c hc => List.mem_takeWhile_imp hc⟩
    · rw [List.cons_append, List.takeWhile_append_dropWhile]
    · rw [List.length_cons, Nat.add_comm]
  · simp at h

/-- A token ends inside the text and has one of the seven shapes. -/
theorem tokenTail?_eq_some {first : Char} {rest : List Char} {n : Nat}
    (h : tokenTail? first rest = some n) :
    ∃ tail after, rest = tail ++ after ∧ tail.length = n ∧ IsToken (first :: tail) := by
  unfold tokenTail? at h
  split at h
  · obtain ⟨tail, after, htext, hlen, ht⟩ := closingQuote?_eq_some h
    exact ⟨tail, after, htext, hlen, .doubleQuoted ht⟩
  · obtain ⟨tail, after, htext, hlen, ht⟩ := closingQuote?_eq_some h
    exact ⟨tail, after, htext, hlen, .singleQuoted ht⟩
  · obtain ⟨body, after, htext, hlen, hbody⟩ := upTo?_eq_some h
    exact ⟨body ++ ['\x60'], after, by simp [htext], by simp [hlen], .backquoted hbody⟩
  · exact dollarQuoted?_eq_some h
  · exact lineComment?_eq_some h
  · exact blockComment?_eq_some h
  · exact cast?_eq_some h
  · simp at h

theorem tokenTail?_le {first : Char} {rest : List Char} {n : Nat}
    (h : tokenTail? first rest = some n) : n ≤ rest.length := by
  obtain ⟨tail, after, rfl, rfl, _⟩ := tokenTail?_eq_some h
  rw [List.length_append]
  exact Nat.le_add_right _ _

theorem isToken_of_tokenTail? {first : Char} {rest : List Char} {n : Nat}
    (h : tokenTail? first rest = some n) : IsToken (first :: rest.take n) := by
  obtain ⟨tail, after, rfl, rfl, ht⟩ := tokenTail?_eq_some h
  rwa [List.take_left]

end Placeholder
end ParamSql
