import ParamSql.Proofs.Stops
import ParamSql.Proofs.TokenShape

/-!
# The scan for bound names

Where a bound name stands in a text is a matter of the text alone: a colon, the name, and on both
sides a character that does not continue it. The scan for bound names finds places of that kind
only, at each the longest name, and it misses none but those inside a token or inside a placeholder
that it has found before.
-/

namespace ParamSql
namespace Placeholder

open Text

def isNameChar (c : Char) : Bool := isWord c || c == '.' || c == '-'

/-- A colon and the name stand at `p`, with nothing before the colon that keeps it from opening a
placeholder and nothing after the name that continues it. -/
structure StandsAt (text : List Char) (p : Nat) (name : List Char) : Prop where
  named : name ≠ []
  reads : ':' :: name <+: text.drop p
  opened : ∀ c, 0 < p → text[p - 1]? = some c → c ≠ ':' ∧ isWord c = false
  closed : ∀ c, text[p + 1 + name.length]? = some c → isWord c = false ∧ c ≠ '.' ∧ c ≠ '-'

theorem closes_iff (text : List Char) :
    closes text = true ↔ ∀ c, text[0]? = some c → isWord c = false ∧ c ≠ '.' ∧ c ≠ '-' := by
  cases text with
  | nil => simp [closes]
  | cons c rest => simp [closes, and_assoc]

theorem opens_iff (before : Option Char) :
    opens before = true ↔ ∀ c, before = some c → c ≠ ':' ∧ isWord c = false := by
  cases before with
  | none => simp [opens]
  | some c => simp [opens]

theorem fits_iff {text name : List Char} :
    fits text name = true ↔
      name ≠ [] ∧ name <+: text ∧ closes (text.drop name.length) = true := by
  simp [fits, and_assoc]

namespace Sought

theorem nameLength?_among_eq_none {names : List (List Char)} {text : List Char} :
    (among names).nameLength? text = none ↔ ∀ name ∈ names, fits text name = false := by
  simp [nameLength?, List.max?_eq_none_iff, List.filter_eq_nil_iff]

/-- The length is that of a name that fits, and no name that fits is longer. -/
theorem nameLength?_among_eq_some {names : List (List Char)} {text : List Char} {n : Nat} :
    (among names).nameLength? text = some n ↔
      (∃ name ∈ names, fits text name = true ∧ name.length = n) ∧
        ∀ name ∈ names, fits text name = true → name.length ≤ n := by
  simp only [nameLength?, List.max?_eq_some_iff, List.mem_map, List.mem_filter, and_assoc]
  refine and_congr_right fun _ => ⟨?_, ?_⟩
  · intro h name hmem hfits
    exact h name.length ⟨name, hmem, hfits, rfl⟩
  · rintro h b ⟨name, hmem, hfits, rfl⟩
    exact h name hmem hfits

theorem nameLength?_congr {names names' : List (List Char)} {text text' : List Char}
    (h : ∀ name, (name ∈ names' ∧ fits text' name = true) ↔
      (name ∈ names ∧ fits text name = true)) :
    (among names').nameLength? text' = (among names).nameLength? text := by
  cases hlen : (among names).nameLength? text with
  | none =>
    rw [nameLength?_among_eq_none] at hlen ⊢
    intro name hname
    apply Bool.eq_false_iff.mpr
    intro hfits
    obtain ⟨hold, hfits⟩ := (h name).mp ⟨hname, hfits⟩
    rw [hlen name hold] at hfits
    simp at hfits
  | some n =>
    rw [nameLength?_among_eq_some] at hlen ⊢
    obtain ⟨⟨name, hname, hfits, hn⟩, hlongest⟩ := hlen
    constructor
    · obtain ⟨hnew, hfits⟩ := (h name).mpr ⟨hname, hfits⟩
      exact ⟨name, hnew, hfits, hn⟩
    · intro other hother hfits
      obtain ⟨hold, hfits⟩ := (h other).mp ⟨hother, hfits⟩
      exact hlongest other hold hfits

end Sought

namespace Stop

variable {s : Stop}

theorem drop_offset_text (s : Stop) : s.text.drop s.offset = s.first :: s.rest := by
  rw [text, offset, List.drop_left]

theorem getElem?_text_pred (s : Stop) (h : 0 < s.offset) :
    s.text[s.offset - 1]? = s.read.getLast? := by
  rw [text, offset, List.getElem?_append_left (by unfold offset at h; omega),
    List.getLast?_eq_getElem?]

theorem getElem?_text_add (s : Stop) (n : Nat) : s.text[s.offset + 1 + n]? = s.rest[n]? := by
  rw [text, offset, List.getElem?_append_right (by omega),
    show s.read.length + 1 + n - s.read.length = n + 1 by omega, List.getElem?_cons_succ]

theorem standsAt_iff (s : Stop) (name : List Char) :
    StandsAt s.text s.offset name ↔
      s.first = ':' ∧ opens s.read.getLast? = true ∧ fits s.rest name = true := by
  constructor
  · intro h
    obtain ⟨hfirst, hprefix⟩ : ':' = s.first ∧ name <+: s.rest := by
      have hreads := h.reads
      rwa [drop_offset_text, List.cons_prefix_cons] at hreads
    refine ⟨hfirst.symm, (opens_iff _).mpr ?_, fits_iff.mpr ⟨h.named, hprefix, ?_⟩⟩
    · intro c hc
      have hpos : 0 < s.offset := by
        refine List.length_pos_iff.mpr fun hnil => ?_
        rw [hnil] at hc
        simp at hc
      exact h.opened c hpos (by rw [getElem?_text_pred s hpos, hc])
    · refine (closes_iff _).mpr fun c hc => h.closed c ?_
      rwa [getElem?_text_add, ← Nat.add_zero name.length, ← List.getElem?_drop]
  · rintro ⟨hfirst, hopens, hfits⟩
    obtain ⟨hnamed, hprefix, hcloses⟩ := fits_iff.mp hfits
    refine ⟨hnamed, ?_, ?_, ?_⟩
    · rw [drop_offset_text, hfirst, List.cons_prefix_cons]
      exact ⟨rfl, hprefix⟩
    · intro c hpos hc
      rw [getElem?_text_pred s hpos] at hc
      exact (opens_iff _).mp hopens c hc
    · intro c hc
      rw [getElem?_text_add, ← Nat.add_zero name.length, ← List.getElem?_drop] at hc
      exact (closes_iff _).mp hcloses c hc

/-- Where a placeholder is read, its name is the longest that stands there. -/
theorem standsAt_of_lexeme {names : List (List Char)} {name : List Char}
    (h : s.lexeme (.among names) = .placeholder name) :
    name ∈ names ∧ StandsAt s.text s.offset name ∧
      ∀ other ∈ names, StandsAt s.text s.offset other → other.length ≤ name.length := by
  unfold lexeme Lexeme.next at h
  split at h
  · simp at h
  · split_ifs at h with hcolon
    split at h
    · next n hn =>
      obtain ⟨⟨fitting, hmem, hfits, hlen⟩, hlongest⟩ := Sought.nameLength?_among_eq_some.mp hn
      have hname : name = fitting := by
        obtain ⟨_, ⟨after, hafter⟩, _⟩ := fits_iff.mp hfits
        rw [← Lexeme.placeholder.inj h, ← hlen, ← hafter, List.take_left]
      rw [hname]
      refine ⟨hmem, (standsAt_iff s _).mpr ⟨hcolon.1, hcolon.2, hfits⟩, ?_⟩
      intro other hother hstands
      rw [hlen]
      exact hlongest other hother ((standsAt_iff s _).mp hstands).2.2
    · simp at h

/-- Where a name stands, the scan reads a placeholder unless it reads a token. -/
theorem lexeme_of_standsAt {names : List (List Char)} {name : List Char} (hname : name ∈ names)
    (h : StandsAt s.text s.offset name) :
    (∃ t, s.lexeme (.among names) = .token t ∧ IsToken t) ∨
      ∃ found, s.lexeme (.among names) = .placeholder found := by
  obtain ⟨hfirst, hopens, hfits⟩ := (standsAt_iff s name).mp h
  unfold lexeme Lexeme.next
  cases htail : tokenTail? s.first s.rest with
  | some n => exact Or.inl ⟨_, rfl, isToken_of_tokenTail? htail⟩
  | none =>
    cases hlen : (Sought.among names).nameLength? s.rest with
    | some n => exact Or.inr ⟨s.rest.take n, by simp [hfirst, hopens]⟩
    | none =>
      have hnot := Sought.nameLength?_among_eq_none.mp hlen name hname
      rw [hfits] at hnot
      simp at hnot

theorem lexeme_of_one_lt_size {sought : Sought} (h : 1 < (s.lexeme sought).size) :
    (∃ t, s.lexeme sought = .token t ∧ IsToken t) ∨
      ∃ found, s.lexeme sought = .placeholder found := by
  unfold lexeme Lexeme.next at h ⊢
  split
  · next n hn => exact Or.inl ⟨_, rfl, isToken_of_tokenTail? hn⟩
  · next hn =>
    rw [hn] at h
    dsimp only at h
    split_ifs at h ⊢ with hcolon
    · split
      · exact Or.inr ⟨_, rfl⟩
      · next hlen => simp [hlen, Lexeme.size, Lexeme.chars] at h
    · simp [Lexeme.size, Lexeme.chars] at h

end Stop

/-- Names of characters that may continue a name are read to the end of the run. -/
theorem StandsAt.eq_takeWhile {text name : List Char} {p : Nat} (h : StandsAt text p name)
    (hchars : ∀ c ∈ name, isNameChar c = true) :
    name = (text.drop (p + 1)).takeWhile isNameChar := by
  obtain ⟨after, hafter⟩ := h.reads
  have hdrop : text.drop (p + 1) = name ++ after := by
    rw [← List.drop_drop, ← hafter]
    rfl
  have hend : after.takeWhile isNameChar = [] := by
    cases after with
    | nil => rfl
    | cons c rest =>
      have hc : text[p + 1 + name.length]? = some c := by
        rw [← Nat.add_zero name.length, ← Nat.add_assoc, Nat.add_right_comm, Nat.add_zero,
          ← Nat.add_zero (p + 1 + name.length), Nat.add_assoc (p + 1), ← List.getElem?_drop, hdrop]
        simp
      obtain ⟨hword, hdot, hdash⟩ := h.closed c hc
      simp [isNameChar, hword, hdot, hdash]
  rw [hdrop, List.takeWhile_append_of_pos hchars, hend, List.append_nil]

section Found

variable {sql : String} {names : List String}

theorem exists_stop_of_mem_findAll {o : Occurrence} (ho : o ∈ findAll (.ofNames names) sql) :
    ∃ s ∈ stops (.ofNames names) [] sql.toList, s.text = sql.toList ∧ o.start = s.offset ∧
      o.stop = s.finish (.ofNames names) ∧
      s.lexeme (.ofNames names) = .placeholder o.name.toList := by
  obtain ⟨s, hs, hsome⟩ := mem_findAll.mp ho
  obtain ⟨hlexeme, hstart, hstop⟩ := occurrence?_eq_some.mp hsome
  exact ⟨s, hs, text_of_mem_stops hs, hstart, hstop, hlexeme⟩

/-- What is found is a colon with a name that stands there, and no longer name does. -/
theorem standsAt_of_mem_findAll {o : Occurrence} (ho : o ∈ findAll (.ofNames names) sql) :
    o.name ∈ names ∧ StandsAt sql.toList o.start o.name.toList ∧
      ∀ n ∈ names, StandsAt sql.toList o.start n.toList → n.length ≤ o.name.length := by
  obtain ⟨s, _, htext, hstart, _, hlexeme⟩ := exists_stop_of_mem_findAll ho
  obtain ⟨hmem, hstands, hlongest⟩ := Stop.standsAt_of_lexeme hlexeme
  rw [htext, ← hstart] at hstands hlongest
  refine ⟨?_, hstands, ?_⟩
  · obtain ⟨n, hn, hname⟩ := List.mem_map.mp hmem
    rwa [← String.toList_inj.mp hname]
  · intro n hn h
    exact hlongest n.toList (List.mem_map_of_mem hn) h

theorem stop_eq_of_mem_findAll {o : Occurrence} (ho : o ∈ findAll (.ofNames names) sql) :
    o.stop = o.start + (o.name.length + 1) ∧ o.stop ≤ sql.toList.length := by
  obtain ⟨s, hs, _, hstart, hstop, hlexeme⟩ := exists_stop_of_mem_findAll ho
  refine ⟨?_, ?_⟩
  · rw [hstop, hstart, Stop.finish, hlexeme]
    rfl
  · rw [hstop]
    exact finish_le_length hs

theorem pairwise_findAll (sought : Sought) (sql : String) :
    (findAll sought sql).Pairwise fun o o' => o.stop ≤ o'.start := by
  rw [findAll_eq_filterMap_stops, List.pairwise_filterMap]
  refine (pairwise_stops sought [] sql.toList).imp ?_
  intro s t hst o ho o' ho'
  rw [(occurrence?_eq_some.mp ho).2.2, (occurrence?_eq_some.mp ho').2.1]
  exact hst

/-- Where a name stands, the scan has found a placeholder, or is inside one that it has found or
inside a token. -/
theorem found_or_inside {p : Nat} {n : String} (hn : n ∈ names)
    (h : StandsAt sql.toList p n.toList) :
    (∃ o ∈ findAll (.ofNames names) sql, o.start = p) ∨
      (∃ o ∈ findAll (.ofNames names) sql, o.start < p ∧ p < o.stop) ∨
      ∃ s ∈ stops (.ofNames names) [] sql.toList, ∃ t, s.lexeme (.ofNames names) = .token t ∧
        IsToken t ∧ s.offset ≤ p ∧ p < s.offset + t.length := by
  have hlt : p < sql.toList.length := by
    have hlen := h.reads.length_le
    rw [List.length_cons, List.length_drop] at hlen
    omega
  obtain ⟨s, hs, hlower, hupper⟩ :=
    exists_stop_at (.ofNames names) [] sql.toList (Nat.zero_le p) hlt
  have htext : s.text = sql.toList := text_of_mem_stops hs
  have hread : (∃ t, s.lexeme (.ofNames names) = .token t ∧ IsToken t) ∨
      ∃ found, s.lexeme (.ofNames names) = .placeholder found := by
    by_cases hp : p = s.offset
    · rw [hp, ← htext] at h
      exact Stop.lexeme_of_standsAt (List.mem_map_of_mem hn) h
    · refine Stop.lexeme_of_one_lt_size ?_
      unfold Stop.finish at hupper
      omega
  rcases hread with ⟨t, ht, hshape⟩ | ⟨found, hfound⟩
  · refine Or.inr (Or.inr ⟨s, hs, t, ht, hshape, hlower, ?_⟩)
    rwa [Stop.finish, ht] at hupper
  · let o : Occurrence := ⟨String.ofList found, s.offset, s.finish (.ofNames names)⟩
    have ho : o ∈ findAll (.ofNames names) sql :=
      mem_findAll.mpr ⟨s, hs, occurrence?_eq_some.mpr ⟨by simp [o, hfound], rfl, rfl⟩⟩
    rcases Nat.eq_or_lt_of_le hlower with heq | hlt
    · exact Or.inl ⟨o, ho, heq⟩
    · exact Or.inr (Or.inl ⟨o, ho, hlt, hupper⟩)

end Found

/-- The scan for bound names is exact, maximal and complete. -/
theorem findAll_bound_names (sql : String) (names : List String) :
    let text := sql.toList
    let found := findAll (.ofNames names) sql
    found.Pairwise (fun o o' => o.stop ≤ o'.start) ∧
    (∀ o ∈ found, o.name ∈ names ∧ o.start < o.stop ∧ o.stop ≤ text.length ∧
      text.extract o.start o.stop = ':' :: o.name.toList ∧
      StandsAt text o.start o.name.toList ∧
      ∀ n ∈ names, StandsAt text o.start n.toList → n.length ≤ o.name.length) ∧
    (∀ p, ∀ n ∈ names, StandsAt text p n.toList →
      (∃ o ∈ found, o.start = p) ∨ (∃ o ∈ found, o.start < p ∧ p < o.stop) ∨
      ∃ s ∈ stops (.ofNames names) [] text, ∃ t, s.lexeme (.ofNames names) = .token t ∧
        IsToken t ∧ s.offset ≤ p ∧ p < s.offset + t.length) ∧
    ((∀ n ∈ names, ∀ c ∈ n.toList, isNameChar c = true) →
      ∀ o ∈ found, o.name.toList = (text.drop (o.start + 1)).takeWhile isNameChar) := by
  intro text found
  refine ⟨pairwise_findAll _ sql, ?_, fun p n hn h => found_or_inside hn h, ?_⟩
  · intro o ho
    obtain ⟨hmem, hstands, hlongest⟩ := standsAt_of_mem_findAll ho
    obtain ⟨hstop, hle⟩ := stop_eq_of_mem_findAll ho
    refine ⟨hmem, by omega, hle, ?_, hstands, hlongest⟩
    have htake := List.prefix_iff_eq_take.mp hstands.reads
    rw [List.extract_eq_take_drop, htake, List.length_cons, String.length_toList, hstop,
      Nat.add_sub_cancel_left]
  · intro hchars o ho
    obtain ⟨hmem, hstands, _⟩ := standsAt_of_mem_findAll ho
    exact hstands.eq_takeWhile (hchars o.name hmem)

theorem findAll_bound_names_of_quoted :
    StandsAt "(':x', :x)".toList 2 ['x'] ∧
      ∃ s ∈ stops (.ofNames ["x"]) [] "(':x', :x)".toList, ∃ t,
        s.lexeme (.ofNames ["x"]) = .token t ∧ IsToken t ∧ s.offset ≤ 2 ∧
          2 < s.offset + t.length := by
  have hstands : StandsAt "(':x', :x)".toList 2 ['x'] := by
    refine ⟨by decide, by decide, ?_, ?_⟩
    · intro c _ hc
      obtain rfl : '\'' = c := by simpa using hc
      decide
    · intro c hc
      obtain rfl : '\'' = c := by simpa using hc
      decide
  have hfound : findAll (.ofNames ["x"]) "(':x', :x)" = [⟨"x", 7, 9⟩] := by decide +kernel
  refine ⟨hstands, ?_⟩
  have h := (findAll_bound_names "(':x', :x)" ["x"]).2.2.1 2 "x" (by decide) hstands
  rw [hfound] at h
  simpa using h

end Placeholder
end ParamSql
