import Mathlib.Data.List.Infix
import Mathlib.Data.List.TakeWhile
import ParamSql.FieldList

/-!
# The shapes of a field list

A field list begins with one thing, holds at least one character, and ends with another thing. The
two frames measure what the lists of two shapes begin and end with, the plain one and the one with
hints around the fields.
-/

namespace ParamSql
namespace FieldList

open Text

/-- The text is the word, each of its letters in either case. -/
def InAnyCase (word : String) (text : List Char) : Prop :=
  text.map foldLetter = word.toList.map foldLetter

instance (word : String) (text : List Char) : Decidable (InAnyCase word text) :=
  decidable_of_iff ((text.map foldLetter == word.toList.map foldLetter) = true) beq_iff_eq

def AllBlank (text : List Char) : Prop := ∀ c ∈ text, isBlank c = true

instance (text : List Char) : Decidable (AllBlank text) :=
  decidable_of_iff (text.all isBlank = true) List.all_eq_true

/-- What a field list begins with and what it ends with. -/
structure Shape where
  IsOpening : List Char → Prop
  IsClosing : List Char → Prop

namespace Shape

def plain : Shape where
  IsOpening opening := ∃ select c, opening = select ++ [c] ∧ InAnyCase "SELECT" select ∧
    isBlank c = true
  IsClosing closing := ∃ c from', closing = [c] ++ from' ∧ isBlank c = true ∧
    InAnyCase "FROM" from'

def hinted : Shape where
  IsOpening opening := ∃ select gap hint, opening = select ++ (gap ++ hint) ∧
    InAnyCase "SELECT" select ∧ AllBlank gap ∧ InAnyCase hintStart hint
  IsClosing closing := ∃ hint gap from', closing = hint ++ (gap ++ from') ∧
    InAnyCase hintEnd hint ∧ AllBlank gap ∧ InAnyCase "FROM" from'

variable (shape : Shape)

/-- The text is a list of the shape. -/
def Forms (list : List Char) : Prop :=
  ∃ opening body closing, list = opening ++ body ++ closing ∧
    shape.IsOpening opening ∧ body ≠ [] ∧ shape.IsClosing closing

/-- A list of the shape between two texts that do not prolong its first and its last word. -/
structure Stands (before list after : List Char) : Prop where
  forms : shape.Forms list
  begins : wordMayBegin before.getLast? = true
  ends : wordMayEnd after = true

def StandsIn (text : List Char) : Prop :=
  ∃ before list after, text = before ++ list ++ after ∧ shape.Stands before list after

/-- No list of the shape begins earlier, and none that begins here is shorter. -/
structure StandsFirst (before list after : List Char) : Prop extends
    shape.Stands before list after where
  earliest : ∀ {before' list' after'}, before' ++ list' ++ after' = before ++ list ++ after →
    shape.Stands before' list' after' → before.length ≤ before'.length
  shortest : ∀ {list' after'}, list' ++ after' = list ++ after →
    shape.Stands before list' after' → list.length ≤ list'.length

theorem plain_standsIn {text : List Char} (before select fields from' after : List Char)
    {c d : Char} (htext : text = before ++ (select ++ [c] ++ fields ++ ([d] ++ from')) ++ after)
    (hbegins : wordMayBegin before.getLast? = true) (hselect : InAnyCase "SELECT" select)
    (hc : isBlank c = true) (hfields : fields ≠ []) (hd : isBlank d = true)
    (hfrom : InAnyCase "FROM" from') (hend : wordMayEnd after = true) : plain.StandsIn text := by
  refine ⟨before, _, after, htext, ?_, hbegins, hend⟩
  exact ⟨select ++ [c], fields, [d] ++ from', rfl, ⟨select, c, rfl, hselect, hc⟩, hfields,
    d, from', rfl, hd, hfrom⟩

end Shape

/-! ## Measuring what a text begins with -/

/-- The measure gives the length of the beginning that `P` holds of, with what follows it. -/
def Measures (measure : List Char → Option Nat) (P : List Char → List Char → Prop) : Prop :=
  ∀ text n, measure text = some n ↔ ∃ first rest, text = first ++ rest ∧ P first rest ∧
    first.length = n

namespace Measures

variable {measure second : List Char → Option Nat} {P Q : List Char → List Char → Prop}
variable {first rest : List Char}

theorem eq_some (m : Measures measure P) (h : P first rest) :
    measure (first ++ rest) = some first.length :=
  (m _ _).2 ⟨first, rest, rfl, h, rfl⟩

theorem length_eq (m : Measures measure P) {first' rest' : List Char}
    (same : first' ++ rest' = first ++ rest) (h : P first rest) (h' : P first' rest') :
    first'.length = first.length := by
  have both := m.eq_some h'
  rw [same, m.eq_some h] at both
  exact (Option.some.inj both).symm

theorem andThen (m : Measures measure P) (m₂ : Measures second Q) :
    Measures (fun text => (measure text).bind fun n => (second (text.drop n)).map (n + ·))
      fun first rest => ∃ a b, first = a ++ b ∧ P a (b ++ rest) ∧ Q b rest := by
  intro text n
  constructor
  · intro h
    obtain ⟨j, hj, h⟩ := Option.bind_eq_some_iff.1 h
    obtain ⟨a, left, rfl, ha, rfl⟩ := (m _ _).1 hj
    rw [List.drop_left] at h
    obtain ⟨k, hk, rfl⟩ := Option.map_eq_some_iff.1 h
    obtain ⟨b, rest, rfl, hb, rfl⟩ := (m₂ _ _).1 hk
    exact ⟨a ++ b, rest, (List.append_assoc _ _ _).symm, ⟨a, b, rfl, ha, hb⟩, List.length_append⟩
  · rintro ⟨_, rest, rfl, ⟨a, b, rfl, ha, hb⟩, rfl⟩
    rw [List.append_assoc]
    simp [m.eq_some ha, m₂.eq_some hb]

end Measures

theorem InAnyCase.length_eq {word : String} {text : List Char} (h : InAnyCase word text) :
    text.length = word.toList.length := by
  simpa using congrArg List.length h

theorem measures_keyword (keyword : List Char) (word : String)
    (hkeyword : keyword = word.toList.map foldLetter) :
    Measures (fun text => if beginsWithKeyword keyword text then some keyword.length else none)
      fun first _ => InAnyCase word first := by
  subst hkeyword
  intro text n
  rw [Option.ite_none_right_eq_some, beginsWithKeyword_iff]
  constructor
  · rintro ⟨⟨first, rest, rfl, (hfirst : InAnyCase word first)⟩, hn⟩
    refine ⟨first, rest, rfl, hfirst, ?_⟩
    rw [hfirst.length_eq]
    simpa using hn
  · rintro ⟨first, rest, rfl, hfirst, rfl⟩
    exact ⟨⟨first, rest, rfl, hfirst⟩, by simp [hfirst.length_eq]⟩

theorem measures_from :
    Measures Frame.fromLength? fun first rest =>
      InAnyCase "FROM" first ∧ wordMayEnd rest = true := by
  have keyword := measures_keyword Frame.fromWord "FROM" (by decide)
  intro text n
  rw [Frame.fromLength?, Option.ite_none_right_eq_some, Bool.and_eq_true]
  constructor
  · rintro ⟨⟨hword, hend⟩, hn⟩
    obtain ⟨first, rest, rfl, hfirst, hlen⟩ := (keyword text n).1 (by simpa [hword] using hn)
    obtain rfl : Frame.fromWord.length = n := Option.some.inj hn
    rw [← hlen, List.drop_left] at hend
    exact ⟨first, rest, rfl, ⟨hfirst, hend⟩, hlen⟩
  · rintro ⟨first, rest, rfl, ⟨hfirst, hend⟩, rfl⟩
    obtain ⟨hbegins, hlen⟩ :=
      Option.ite_none_right_eq_some.1 ((keyword _ _).2 ⟨first, rest, rfl, hfirst, rfl⟩)
    rw [Option.some.inj hlen, List.drop_left]
    exact ⟨⟨hbegins, hend⟩, rfl⟩

theorem measures_hint (hint : String)
    (hhint : hint.toList.map Char.toLower = hint.toList.map foldLetter) :
    Measures (Frame.hintLength? hint) fun first _ => InAnyCase hint first := by
  have keyword := measures_keyword _ hint rfl
  intro text n
  rw [← keyword text n, Frame.hintLength?, hhint]

theorem measures_blank :
    Measures (fun | [] => none | c :: _ => if isBlank c then some 1 else none)
      fun first _ => ∃ c, first = [c] ∧ isBlank c = true := by
  intro text n
  constructor
  · intro h
    cases text with
    | nil => cases h
    | cons c rest =>
      obtain ⟨hc, hn⟩ := Option.ite_none_right_eq_some.1 h
      exact ⟨[c], rest, rfl, ⟨c, rfl, hc⟩, Option.some.inj hn⟩
  · rintro ⟨_, rest, rfl, ⟨c, rfl, hc⟩, rfl⟩
    simp [hc]

/-- Code points apart from all ranges of blanks are not those of a blank. -/
theorem not_between_of_isBlank {c : Char} (h : isBlank c = true) (first last : Nat)
    (outside : ∀ range ∈ blankRanges, range.2 < first ∨ last < range.1) :
    ¬ (first ≤ c.toNat ∧ c.toNat ≤ last) := by
  rintro ⟨low, high⟩
  obtain ⟨range, hrange, below, above⟩ := (Ranges.holds_iff _ _).1 h
  have := outside range hrange
  omega

theorem foldLetter_of_isBlank {c : Char} (h : isBlank c = true) : foldLetter c = c := by
  have special : c ≠ '\u017f' ∧ c ≠ '\u0130' ∧ c ≠ '\u0131' ∧ c ≠ '\u212a' := by
    refine ⟨?_, ?_, ?_, ?_⟩ <;> rintro rfl <;> revert h <;> decide
  have capital : ¬ (c.val ≥ 'A'.val ∧ c.val ≤ 'Z'.val) :=
    not_between_of_isBlank h 65 90 (by decide)
  simp only [foldLetter, special, if_false, or_self]
  exact dif_neg capital

theorem isBlank_eq_false_of_foldLetter {c : Char} (h : isBlank (foldLetter c) = false) :
    isBlank c = false := by
  by_contra hc
  have blank : isBlank c = true := by simpa using hc
  rw [foldLetter_of_isBlank blank, blank] at h
  cases h

theorem AllBlank.map_foldLetter {gap : List Char} (h : AllBlank gap) :
    gap.map foldLetter = gap := by
  conv_rhs => rw [← List.map_id gap]
  exact List.map_congr_left fun c hc => foldLetter_of_isBlank (h c hc)

theorem blanks_append {gap rest : List Char} (hgap : AllBlank gap)
    (hrest : ∀ c ∈ rest.head?, isBlank c = false) : Frame.blanks (gap ++ rest) = gap.length := by
  rw [Frame.blanks, List.takeWhile_append_of_pos hgap]
  cases rest with
  | nil => simp
  | cons c rest => simp [hrest c rfl]

theorem exists_blanks (text : List Char) :
    ∃ gap rest, text = gap ++ rest ∧ AllBlank gap ∧ gap.length = Frame.blanks text :=
  ⟨text.takeWhile isBlank, text.dropWhile isBlank, List.takeWhile_append_dropWhile.symm,
    fun _ hc => List.mem_takeWhile_imp hc, rfl⟩

theorem Measures.afterBlanks {measure : List Char → Option Nat} {P : List Char → List Char → Prop}
    (m : Measures measure P)
    (hP : ∀ first rest, P first rest → ∀ c ∈ (first ++ rest).head?, isBlank c = false) :
    Measures
      (fun text => (measure (text.drop (Frame.blanks text))).map (Frame.blanks text + ·))
      fun first rest => ∃ gap word, first = gap ++ word ∧ AllBlank gap ∧ P word rest := by
  intro text n
  constructor
  · intro h
    obtain ⟨gap, left, rfl, hgap, hlen⟩ := exists_blanks text
    dsimp only at h
    rw [← hlen, List.drop_left] at h
    obtain ⟨k, hk, rfl⟩ := Option.map_eq_some_iff.1 h
    obtain ⟨word, rest, rfl, hword, rfl⟩ := (m _ _).1 hk
    exact ⟨gap ++ word, rest, (List.append_assoc _ _ _).symm, ⟨gap, word, rfl, hgap, hword⟩,
      List.length_append⟩
  · rintro ⟨_, rest, rfl, ⟨gap, word, rfl, hgap, hword⟩, rfl⟩
    dsimp only
    rw [List.append_assoc, blanks_append hgap (hP _ _ hword), List.drop_left, m.eq_some hword,
      List.length_append]
    rfl

/-! ## Words that do not overlap -/

/-- No `a` ends the text, and none stands before a `b` in it. -/
def Apart (a b : Char) (text : List Char) : Prop :=
  ∀ s t, text = s ++ a :: t → ∃ c t', t = c :: t' ∧ c ≠ b

namespace Apart

variable {a b c : Char} {s t : List Char}

theorem of_not_mem (h : a ∉ s) : Apart a b s := by
  rintro u v rfl
  exact absurd (List.mem_append_right u List.mem_cons_self) h

theorem cons (hs : Apart a b s) (hc : c = a → ∃ d s', s = d :: s' ∧ d ≠ b) :
    Apart a b (c :: s) := by
  intro u v same
  cases u with
  | nil =>
    obtain ⟨rfl, rfl⟩ := List.cons_eq_cons.1 same
    exact hc rfl
  | cons d u => exact hs u v (List.cons_eq_cons.1 same).2

theorem append (hs : Apart a b s) (ht : Apart a b t) : Apart a b (s ++ t) := by
  intro u v same
  obtain ⟨w, rfl, rest⟩ | ⟨w, hw, rest⟩ := List.append_eq_append_iff.1 same
  · exact ht w v rest
  · cases w with
    | nil => exact ht [] v rest.symm
    | cons c w =>
      obtain ⟨rfl, rfl⟩ := List.cons_eq_cons.1 rest
      obtain ⟨d, w', rfl, hd⟩ := hs u w hw
      exact ⟨d, w' ++ t, rfl, hd⟩

theorem append_ne {u v : List Char} (h : Apart a b (u ++ v)) (hv : v ≠ []) (rest word : List Char) :
    v ++ rest ≠ a :: b :: word := by
  cases v with
  | nil => exact absurd rfl hv
  | cons c v =>
    intro same
    obtain ⟨rfl, next⟩ := List.cons_eq_cons.1 same
    obtain ⟨d, v', rfl, hd⟩ := h u v rfl
    exact hd (List.cons_eq_cons.1 next).1

end Apart

/-- The text begins with `a` and `b`, and with them no other such text begins within it. -/
def BeginsApart (a b : Char) (text : List Char) : Prop :=
  ∃ tail, text.map foldLetter = a :: b :: tail ∧ Apart a b (b :: tail)

theorem BeginsApart.append_ne {a b : Char} {u v text rest rest' : List Char}
    (h : BeginsApart a b (u ++ v)) (htext : BeginsApart a b text) (hu : u ≠ []) (hv : v ≠ []) :
    v ++ rest ≠ text ++ rest' := by
  obtain ⟨tail, same, apart⟩ := h
  obtain ⟨tail', begins, -⟩ := htext
  intro overlap
  cases u with
  | nil => exact hu rfl
  | cons c u =>
    rw [List.cons_append, List.map_cons, List.map_append] at same
    rw [← (List.cons_eq_cons.1 same).2] at apart
    have folded := congrArg (List.map foldLetter) overlap
    rw [List.map_append, List.map_append, begins] at folded
    exact apart.append_ne (by simpa using hv) _ _ folded

/-- Where such a text follows `u`, another one that begins with `u` ends within it. -/
theorem BeginsApart.eq_append {a b : Char} {u text text' rest rest' : List Char}
    (h' : BeginsApart a b text') (h : BeginsApart a b text) (hu : u ≠ [])
    (same : u ++ (text ++ rest) = text' ++ rest') :
    ∃ w, u = text' ++ w ∧ rest' = w ++ (text ++ rest) := by
  obtain ⟨v, rfl, overlap⟩ | ⟨w, hw, hrest⟩ := List.append_eq_append_iff.1 same
  · by_cases hv : v = []
    · subst hv
      exact ⟨[], by simp, by simpa using overlap.symm⟩
    · exact absurd overlap.symm (h'.append_ne h hu hv)
  · exact ⟨w, hw, hrest⟩

/-- A word that may end before a text may end before its beginning, too. -/
theorem wordMayEnd_of_append {text rest : List Char} (h : wordMayEnd (text ++ rest) = true) :
    wordMayEnd text = true := by
  cases text with
  | nil => rfl
  | cons c text => exact h

theorem not_mem_of_allBlank {gap : List Char} {c : Char} (h : AllBlank gap)
    (hc : isBlank c = false) : c ∉ gap := by
  intro hmem
  rw [h c hmem] at hc
  cases hc

/-- No opening begins within another one. -/
theorem Shape.hinted_opening_beginsApart {opening : List Char}
    (h : Shape.hinted.IsOpening opening) :
    BeginsApart 's' 'e' opening := by
  obtain ⟨select, gap, hint, rfl, hselect, hgap, hhint⟩ := h
  refine ⟨"lect".toList ++ (gap ++ ("/* fieldli".toList ++ 's' :: "t */".toList)), ?_, ?_⟩
  · rw [List.map_append, List.map_append, hselect, hgap.map_foldLetter, hhint]
    rfl
  -- The only other `s` is that of the hint, and a `t` follows it.
  · have last : Apart 's' 'e' ('s' :: "t */".toList) :=
      .cons (.of_not_mem (by decide)) fun _ => ⟨'t', _, rfl, by decide⟩
    have blanks : Apart 's' 'e' gap := .of_not_mem (not_mem_of_allBlank hgap (by decide))
    have first : Apart 's' 'e' "elect".toList := .of_not_mem (by decide)
    exact first.append (blanks.append (.append (.of_not_mem (by decide)) last))

/-- No closing begins within another one. -/
theorem Shape.hinted_closing_beginsApart {closing : List Char}
    (h : Shape.hinted.IsClosing closing) :
    BeginsApart '/' '*' closing := by
  obtain ⟨hint, gap, from', rfl, hhint, hgap, hfrom⟩ := h
  refine ⟨" ".toList ++ '/' :: ("fieldlist *".toList ++ '/' :: (gap ++ "from".toList)), ?_, ?_⟩
  · rw [List.map_append, List.map_append, hhint, hgap.map_foldLetter, hfrom]
    rfl
  -- The slashes of the hint stand before an `f`, and before a blank or the word `FROM`.
  · have blanks : Apart '/' '*' gap := .of_not_mem (not_mem_of_allBlank hgap (by decide))
    have last : Apart '/' '*' ('/' :: (gap ++ "from".toList)) := by
      refine .cons (blanks.append (.of_not_mem (by decide))) fun _ => ?_
      cases gap with
      | nil => exact ⟨'f', _, rfl, by decide⟩
      | cons c gap =>
        refine ⟨c, _, rfl, ?_⟩
        rintro rfl
        exact absurd (hgap '*' List.mem_cons_self) (by decide)
    have hint : Apart '/' '*' ('/' :: ("fieldlist *".toList ++ '/' :: (gap ++ "from".toList))) :=
      .cons (.append (.of_not_mem (by decide)) last) fun _ => ⟨'f', _, rfl, by decide⟩
    exact .append (.of_not_mem (s := "* ".toList) (by decide)) hint

/-! ## What the frames measure -/

theorem Measures.congr {measure measure' : List Char → Option Nat}
    {P Q : List Char → List Char → Prop} (m : Measures measure P)
    (same : ∀ text, measure' text = measure text) (hP : ∀ first rest, Q first rest ↔ P first rest) :
    Measures measure' Q := by
  obtain rfl : measure' = measure := funext same
  obtain rfl : Q = P := funext fun first => funext fun rest => propext (hP first rest)
  exact m

/-- A frame measures what the lists of a shape begin with and what they end with. -/
structure Frame.Marks (frame : Frame) (shape : Shape) : Prop where
  opening : Measures frame.opening? fun opening _ => shape.IsOpening opening
  closing : Measures frame.closing? fun closing rest =>
    shape.IsClosing closing ∧ wordMayEnd rest = true
  closing_ne_nil : ∀ {closing}, shape.IsClosing closing → closing ≠ []
  /-- A closing that begins within another one or after it ends no earlier. -/
  closing_le : ∀ {closing rest skipped closing' rest'}, shape.IsClosing closing →
    shape.IsClosing closing' → skipped ≠ [] → skipped ++ (closing' ++ rest') = closing ++ rest →
      closing.length ≤ skipped.length + closing'.length

theorem measures_select :
    Measures (fun text => if beginsWithKeyword Frame.selectWord text then
        some Frame.selectWord.length else none)
      fun first _ => InAnyCase "SELECT" first :=
  measures_keyword _ _ (by decide)

theorem InAnyCase.not_blank {word : String} {first rest : List Char} {d : Char}
    (h : InAnyCase word first) (hd : d ∈ word.toList.head?)
    (hblank : isBlank (foldLetter d) = false) :
    ∀ c ∈ (first ++ rest).head?, isBlank c = false := by
  have same : first.head?.map foldLetter = some (foldLetter d) := by
    rw [← List.head?_map, h, List.head?_map, Option.mem_def.1 hd]
    rfl
  cases first with
  | nil => cases same
  | cons c first =>
    intro e he
    obtain rfl : c = e := Option.some.inj he
    have folded : foldLetter c = foldLetter d := Option.some.inj same
    exact isBlank_eq_false_of_foldLetter (by rw [folded, hblank])

theorem plain_marks : Frame.plain.Marks .plain where
  opening := by
    refine (measures_select.andThen measures_blank).congr (fun text => ?_) fun first rest => ?_
    · cases hdrop : text.drop Frame.selectWord.length with
      | nil => cases hword : beginsWithKeyword Frame.selectWord text <;> simp [Frame.plain, hdrop]
      | cons c rest =>
        cases hword : beginsWithKeyword Frame.selectWord text <;> simp [Frame.plain, hword, hdrop]
    · constructor
      · rintro ⟨select, c, rfl, hselect, hc⟩
        exact ⟨select, [c], rfl, hselect, c, rfl, hc⟩
      · rintro ⟨select, _, rfl, hselect, c, rfl, hc⟩
        exact ⟨select, c, rfl, hselect, hc⟩
  closing := by
    refine (measures_blank.andThen measures_from).congr (fun text => ?_) fun first rest => ?_
    · cases text with
      | nil => rfl
      | cons c rest => cases hc : isBlank c <;> simp [Frame.plain, hc, Nat.add_comm]
    · constructor
      · rintro ⟨⟨c, from', rfl, hc, hfrom⟩, hend⟩
        exact ⟨[c], from', rfl, ⟨c, rfl, hc⟩, hfrom, hend⟩
      · rintro ⟨_, from', rfl, ⟨c, rfl, hc⟩, hfrom, hend⟩
        exact ⟨⟨c, from', rfl, hc, hfrom⟩, hend⟩
  closing_ne_nil := by
    rintro _ ⟨c, from', rfl, -⟩
    exact List.cons_ne_nil _ _
  closing_le := by
    rintro _ _ _ _ _ ⟨c, from', rfl, -, hfrom⟩ ⟨d, from'', rfl, -, hfrom'⟩ - -
    simp [hfrom.length_eq, hfrom'.length_eq]

theorem hinted_marks : Frame.hinted.Marks .hinted where
  opening := by
    have hint := (measures_hint hintStart (by decide)).afterBlanks
      fun first rest h => h.not_blank (d := '/') rfl (by decide)
    refine (measures_select.andThen hint).congr (fun text => ?_) fun first rest => ?_
    · cases hword : beginsWithKeyword Frame.selectWord text with
      | false => simp [Frame.hinted, hword]
      | true => simp [Frame.hinted, hword, Option.map_map, Function.comp_def, Nat.add_assoc]
    · constructor
      · rintro ⟨select, gap, hint, rfl, hselect, hgap, hhint⟩
        exact ⟨select, gap ++ hint, rfl, hselect, gap, hint, rfl, hgap, hhint⟩
      · rintro ⟨select, _, rfl, hselect, gap, hint, rfl, hgap, hhint⟩
        exact ⟨select, gap, hint, rfl, hselect, hgap, hhint⟩
  closing := by
    have hint := measures_hint hintEnd (by decide)
    have word := measures_from.afterBlanks fun first rest h =>
      h.1.not_blank (d := 'F') rfl (by decide)
    refine (hint.andThen word).congr (fun text => ?_) fun first rest => ?_
    · simp [Frame.hinted, Option.map_map, Function.comp_def, Nat.add_assoc]
    · constructor
      · rintro ⟨⟨hint, gap, from', rfl, hhint, hgap, hfrom⟩, hend⟩
        exact ⟨hint, gap ++ from', rfl, hhint, gap, from', rfl, hgap, hfrom, hend⟩
      · rintro ⟨hint, _, rfl, hhint, gap, from', rfl, hgap, hfrom, hend⟩
        exact ⟨⟨hint, gap, from', rfl, hhint, hgap, hfrom⟩, hend⟩
  closing_ne_nil := by
    rintro closing h rfl
    obtain ⟨tail, same, -⟩ := Shape.hinted_closing_beginsApart h
    cases same
  closing_le := by
    intro closing rest skipped closing' rest' h h' hskipped same
    obtain ⟨w, rfl, -⟩ := (Shape.hinted_closing_beginsApart h).eq_append
      (Shape.hinted_closing_beginsApart h') hskipped same
    rw [List.length_append]
    omega

end FieldList
end ParamSql
