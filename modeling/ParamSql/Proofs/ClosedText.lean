import ParamSql.Proofs.PieceScan

/-!
# Closed texts

A text is closed when its scan meets nothing that begins a token without ending it and no comment
that runs to the end of the line. More text after a space or a parenthesis does not change how a
closed text is read, and neither do more names, as long as none of them stands after a colon in it.
-/

namespace ParamSql

theorem Text.takeWhile_append_of_head {p : Char → Bool} {more : List Char}
    (h : ∀ c ∈ more.head?, p c = false) (text : List Char) :
    (text ++ more).takeWhile p = text.takeWhile p := by
  induction text with
  | nil =>
    cases more with
    | nil => rfl
    | cons c more => exact List.takeWhile_cons_of_neg (by simp [h c rfl])
  | cons c text ih =>
    by_cases hc : p c = true
    · rw [List.cons_append, List.takeWhile_cons_of_pos hc, List.takeWhile_cons_of_pos hc, ih]
    · rw [List.cons_append, List.takeWhile_cons_of_neg hc, List.takeWhile_cons_of_neg hc]

theorem Text.drop_length_takeWhile_append (p : Char → Bool) (text more : List Char) :
    (text ++ more).drop (text.takeWhile p).length = text.drop (text.takeWhile p).length ++ more :=
  List.drop_append_of_le_length (List.takeWhile_prefix p).length_le

/-- What stands in a text is found at the same place when more text follows. -/
theorem Text.find?_append {pattern text : List Char} {n : Nat}
    (h : Text.find? pattern text = some n) (more : List Char) :
    Text.find? pattern (text ++ more) = some n := by
  induction text generalizing n with
  | nil =>
    obtain ⟨rfl, rfl⟩ : pattern = [] ∧ 0 = n := by simpa [Text.find?] using h
    cases more with
    | nil => rfl
    | cons c more => rfl
  | cons c text ih =>
    rw [Text.find?] at h
    split_ifs at h with hhere
    · have hmore : pattern.isPrefixOf (c :: (text ++ more)) = true :=
        List.isPrefixOf_iff_prefix.mpr
          ((List.isPrefixOf_iff_prefix.mp hhere).trans (List.prefix_append (c :: text) more))
      rw [List.cons_append, Text.find?, if_pos hmore]
      exact h
    · obtain ⟨m, hm, rfl⟩ := Option.map_eq_some_iff.mp h
      obtain ⟨after, hafter⟩ := Text.find?_spec hm
      have hlen := congrArg List.length hafter
      simp only [List.length_append, List.length_take] at hlen
      -- The pattern is no longer than the text behind `c`, so it does not reach into `more` here.
      have hnot : ¬ pattern.isPrefixOf (c :: (text ++ more)) = true := by
        intro hstands
        apply hhere
        apply List.isPrefixOf_iff_prefix.mpr
        apply List.prefix_of_prefix_length_le (List.isPrefixOf_iff_prefix.mp hstands)
          (List.prefix_append (c :: text) more)
        rw [List.length_cons]
        omega
      rw [List.cons_append, Text.find?, if_neg hnot, ih hm]
      rfl

namespace Placeholder

open Text

/-- Text that does not continue what stands before it: none, or text from a space or a parenthesis
on. -/
def Divides (more : List Char) : Prop := ∀ c ∈ more.head?, c = ' ' ∨ c = ')'

namespace Stop

def beginsToken (s : Stop) : Bool :=
  match s.first with
  | '"' | '\'' | '\x60' => true
  | '/' => s.rest.head? == some '*'
  | '$' => (s.rest.drop (s.rest.takeWhile isWord).length).head? == some '$'
  | _ => false

def beginsLineComment (s : Stop) : Bool := s.first == '-' && s.rest.head? == some '-'

/-- A stop that does not leave open where it ends what begins there. -/
def isSettled (s : Stop) : Bool :=
  (!s.beginsToken || (tokenTail? s.first s.rest).isSome) && !s.beginsLineComment

end Stop

theorem closingQuote?_append_of_some {quote : Char} {text : List Char} {n : Nat}
    (h : closingQuote? quote text = some n) (more : List Char) :
    closingQuote? quote (text ++ more) = some n := by
  fun_induction closingQuote? quote text generalizing n with
  | case1 => simp at h
  | case2 => simp at h
  | case3 => simp at h
  | case4 c rest hc ih =>
    obtain ⟨m, hm, rfl⟩ := Option.map_eq_some_iff.mp h
    rw [List.cons_append, List.cons_append, closingQuote?, if_neg hc, ih hm]
    rfl
  | case5 rest hend hescape =>
    rw [List.cons_append, closingQuote?, if_pos rfl]
    · exact h
    · intro hback hnil
      exact hend hback (List.append_eq_nil_iff.mp hnil).1
    · intro d after hback happ
      cases rest with
      | nil => exact hend hback rfl
      | cons e rest => exact hescape e rest hback rfl
  | case6 c rest hend hescape hc ih =>
    obtain ⟨m, hm, rfl⟩ := Option.map_eq_some_iff.mp h
    rw [List.cons_append, closingQuote?, if_neg hc, ih hm]
    · rfl
    · intro hback hnil
      exact hend hback (List.append_eq_nil_iff.mp hnil).1
    · intro d after hback happ
      cases rest with
      | nil => exact hend hback rfl
      | cons e rest => exact hescape e rest hback rfl

theorem upTo?_append_of_some {c : Char} {text : List Char} {n : Nat} (h : upTo? c text = some n)
    (more : List Char) : upTo? c (text ++ more) = some n := by
  obtain ⟨body, after, rfl, rfl, hbody⟩ := upTo?_eq_some h
  rw [List.append_assoc, List.cons_append]
  exact upTo?_append _ hbody

section Divides

variable {more : List Char}

theorem Divides.isNameChar (h : Divides more) : ∀ c ∈ more.head?, isNameChar c = false := by
  intro c hc
  rcases h c hc with rfl | rfl <;> decide

theorem Divides.isWord (h : Divides more) : ∀ c ∈ more.head?, isWord c = false := by
  intro c hc
  rcases h c hc with rfl | rfl <;> decide

/-- What follows the text goes on with none of the characters that tokens go on with. -/
theorem Divides.head_ne {c : Char} (h : Divides (c :: more)) :
    c ≠ '$' ∧ c ≠ '*' ∧ c ≠ '-' ∧ c ≠ ':' := by
  rcases h c rfl with rfl | rfl <;> decide

theorem dollarQuoted?_append (h : Divides more) {text : List Char}
    (hclosed : (text.drop (text.takeWhile Text.isWord).length).head? = some '$' →
      (dollarQuoted? text).isSome) :
    dollarQuoted? (text ++ more) = dollarQuoted? text := by
  unfold dollarQuoted? at hclosed ⊢
  dsimp only at hclosed ⊢
  rw [takeWhile_append_of_head h.isWord, drop_length_takeWhile_append]
  generalize hbody : text.drop (text.takeWhile Text.isWord).length = rest at hclosed ⊢
  cases rest with
  | nil =>
    cases more with
    | nil => rfl
    | cons c more => simp [h.head_ne.1]
  | cons c body =>
    by_cases hc : c = '$'
    · subst hc
      obtain ⟨n, hn⟩ := Option.isSome_iff_exists.mp (hclosed rfl)
      obtain ⟨m, hm, rfl⟩ := Option.map_eq_some_iff.mp hn
      change Option.map _ (find? _ (body ++ more)) = Option.map _ (find? _ body)
      rw [find?_append hm more, hm]
    · simp [hc]

theorem blockComment?_append (h : Divides more) {text : List Char}
    (hclosed : text.head? = some '*' → (blockComment? text).isSome) :
    blockComment? (text ++ more) = blockComment? text := by
  cases text with
  | nil =>
    cases more with
    | nil => rfl
    | cons c more => simp [blockComment?, h.head_ne.2.1]
  | cons c text =>
    by_cases hc : c = '*'
    · subst hc
      obtain ⟨n, hn⟩ := Option.isSome_iff_exists.mp (hclosed rfl)
      obtain ⟨m, hm, rfl⟩ := Option.map_eq_some_iff.mp hn
      rw [hn, List.cons_append, blockComment?, find?_append hm more]
      rfl
    · simp [blockComment?, hc]

theorem lineComment?_append (h : Divides more) {text : List Char} (hnone : text.head? ≠ some '-') :
    lineComment? (text ++ more) = lineComment? text := by
  cases text with
  | nil =>
    cases more with
    | nil => rfl
    | cons c more => simp [lineComment?, h.head_ne.2.2.1]
  | cons c text =>
    have hc : c ≠ '-' := fun heq => hnone (by rw [heq]; rfl)
    simp [lineComment?, hc]

theorem cast?_append (h : Divides more) (text : List Char) :
    cast? (text ++ more) = cast? text := by
  cases text with
  | nil =>
    cases more with
    | nil => rfl
    | cons c more => simp [cast?, h.head_ne.2.2.2]
  | cons c text =>
    by_cases hc : c = ':'
    · subst hc
      rw [List.cons_append, cast?, cast?, takeWhile_append_of_head h.isWord]
    · simp [cast?, hc]

/-- At a settled stop the same token is read when more text follows. -/
theorem tokenTail?_append (h : Divides more) {s : Stop} (hs : s.isSettled = true) :
    tokenTail? s.first (s.rest ++ more) = tokenTail? s.first s.rest := by
  obtain ⟨read, first, rest⟩ := s
  obtain ⟨htoken, hcomment⟩ := Bool.and_eq_true_iff.mp hs
  have hsome (hbegins : Stop.beginsToken ⟨read, first, rest⟩ = true) :
      ∃ n, tokenTail? first rest = some n := by
    rw [hbegins, Bool.not_true, Bool.false_or] at htoken
    exact Option.isSome_iff_exists.mp htoken
  dsimp only
  unfold tokenTail?
  split
  · obtain ⟨n, hn⟩ := hsome rfl
    rw [show closingQuote? '"' rest = some n from hn, closingQuote?_append_of_some hn]
  · obtain ⟨n, hn⟩ := hsome rfl
    rw [show closingQuote? '\'' rest = some n from hn, closingQuote?_append_of_some hn]
  · obtain ⟨n, hn⟩ := hsome rfl
    rw [show upTo? '\x60' rest = some n from hn, upTo?_append_of_some hn]
  · apply dollarQuoted?_append h
    intro hhead
    obtain ⟨n, hn⟩ := hsome (by rw [Stop.beginsToken, hhead]; rfl)
    exact Option.isSome_iff_exists.mpr ⟨n, hn⟩
  · apply lineComment?_append h
    intro hhead
    simp [Stop.beginsLineComment, hhead] at hcomment
  · apply blockComment?_append h
    intro hhead
    obtain ⟨n, hn⟩ := hsome (by rw [Stop.beginsToken, hhead]; rfl)
    exact Option.isSome_iff_exists.mpr ⟨n, hn⟩
  · exact cast?_append h rest
  · rfl

theorem closes_append (h : Divides more) (text : List Char) :
    closes (text ++ more) = closes text := by
  cases text with
  | nil =>
    cases more with
    | nil => rfl
    | cons c more =>
      rcases h c rfl with rfl | rfl
      · simp only [closes, List.nil_append]
        decide
      · simp only [closes, List.nil_append]
        decide
  | cons c text => rfl

theorem fits_append (h : Divides more) {name : List Char}
    (hname : ∀ c ∈ name, Placeholder.isNameChar c = true) (text : List Char) :
    fits (text ++ more) name = fits text name := by
  have hcloses (hstands : name <+: text) :
      closes ((text ++ more).drop name.length) = closes (text.drop name.length) := by
    rw [List.drop_append_of_le_length hstands.length_le, closes_append h]
  rw [Bool.eq_iff_iff, fits_iff, fits_iff]
  constructor
  · rintro ⟨hne, hstands, hend⟩
    have hinside := prefix_of_prefix_append hname h.isNameChar hstands
    rw [hcloses hinside] at hend
    exact ⟨hne, hinside, hend⟩
  · rintro ⟨hne, hstands, hend⟩
    rw [← hcloses hstands] at hend
    exact ⟨hne, hstands.trans (List.prefix_append text more), hend⟩

end Divides

/-- Names added to those of a text, none of which stands after a colon in it. -/
structure Extends (names names' : List (List Char)) (text : List Char) : Prop where
  mem : ∀ name ∈ names, name ∈ names'
  chars : ∀ name ∈ names', ∀ c ∈ name, isNameChar c = true
  foreign : ∀ name ∈ names', name ∉ names → name ≠ [] → ¬ (':' :: name) <:+: text

theorem lexeme_eq_of_extends {names names' : List (List Char)} {s : Stop} {more : List Char}
    (hnames : Extends names names' s.text) (hs : s.isSettled = true) (hmore : Divides more) :
    Lexeme.next (.among names') s.read.getLast? s.first (s.rest ++ more) =
      s.lexeme (.among names) := by
  unfold Stop.lexeme Lexeme.next
  rw [tokenTail?_append hmore hs]
  cases htail : tokenTail? s.first s.rest with
  | some n => simp only [List.take_append_of_le_length (tokenTail?_le htail)]
  | none =>
    by_cases hopens : s.first = ':' ∧ opens s.read.getLast? = true
    · have hlen : (Sought.among names').nameLength? (s.rest ++ more) =
          (Sought.among names).nameLength? s.rest := by
        apply Sought.nameLength?_congr
        intro name
        constructor
        · rintro ⟨hname, hfits⟩
          rw [fits_append hmore (hnames.chars name hname)] at hfits
          obtain ⟨hne, ⟨after, hafter⟩, _⟩ := fits_iff.mp hfits
          refine ⟨?_, hfits⟩
          -- A name from elsewhere that fitted here would stand after a colon in the text.
          by_contra hforeign
          apply hnames.foreign name hname hforeign hne
          refine ⟨s.read, after, ?_⟩
          rw [Stop.text, hopens.1, List.append_assoc, List.cons_append, hafter]
        · rintro ⟨hname, hfits⟩
          have hnew := hnames.mem name hname
          rw [fits_append hmore (hnames.chars name hnew)]
          exact ⟨hnew, hfits⟩
      cases hold : (Sought.among names).nameLength? s.rest with
      | none => simp only [hopens, and_self, if_true, hlen, hold]
      | some n =>
        obtain ⟨⟨name, _, hfits, rfl⟩, _⟩ := Sought.nameLength?_among_eq_some.mp hold
        have hle := (fits_iff.mp hfits).2.1.length_le
        simp only [hopens, and_self, if_true, hlen, hold, List.take_append_of_le_length hle]
    · simp only [hopens, if_false]

/-- A text whose stops are settled is read by itself, whatever names come in and whatever follows
after a divider. -/
theorem scans_of_settled {names names' : List (List Char)} {read text more : List Char}
    (hnames : Extends names names' (read ++ text)) (hmore : Divides more)
    (hsettled : ∀ s ∈ stops (.among names) read text, s.isSettled = true) :
    Scans (.among names') read.getLast? text more (lexemes (.among names) read.getLast? text) := by
  fun_induction stops (.among names) read text with
  | case1 read =>
    rw [lexemes_nil]
    exact Scans.nil
  | case2 read first rest l ih =>
    -- The first lexeme stays what it was; the induction reads the rest after it.
    have hall : l.chars ++ rest.drop (l.size - 1) = first :: rest :=
      Lexeme.chars_next_append _ _ _ _
    have hlast : (read ++ l.chars).getLast? = l.chars.getLast? := getLast?_append_chars _ _ _ _
    have hrest := ih (by rwa [List.append_assoc, hall]) fun s hs =>
      hsettled s (List.mem_cons_of_mem _ hs)
    have hlexeme : Lexeme.next (.among names') read.getLast? first (rest ++ more) = l :=
      @lexeme_eq_of_extends names names' ⟨read, first, rest⟩ more hnames
        (hsettled _ List.mem_cons_self) hmore
    obtain ⟨n, hchars⟩ := Lexeme.chars_next (.among names) read.getLast? first rest
    have hsplit : rest.take n ++ (rest.drop (l.size - 1) ++ more) = rest ++ more := by
      have htail := hall
      rw [hchars, List.cons_append] at htail
      rw [← List.append_assoc, (List.cons.inj htail).2]
    have hfirst : Scans (.among names') read.getLast? l.chars (rest.drop (l.size - 1) ++ more)
        [l] := by
      rw [hchars]
      exact Scans.of_next (by rw [hsplit]; exact hlexeme) hchars
    rw [lexemes_cons, ← hall]
    apply hfirst.append
    rw [← List.getLast?_append, hlast]
    rw [hlast] at hrest
    exact hrest

end Placeholder
end ParamSql
