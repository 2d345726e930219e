import ParamSql.Proofs.FieldListShape

/-!
# The search for a field list

The search finds the first place where a field list begins, and there the shortest one. Where it
finds nothing, the text has no field list of the shape looked for.
-/

namespace ParamSql
namespace FieldList

open Text

namespace Frame

variable {frame : Frame} {shape : Shape} {text opening list after : List Char} {n : Nat}

/-- Of two closings the one that begins first ends first, so the nearest closing ends the shortest
list. -/
theorem Marks.closing_length_le (m : frame.Marks shape)
    {closing rest skipped closing' rest' : List Char}
    (hclosing : shape.IsClosing closing) (hend : wordMayEnd rest = true)
    (hclosing' : shape.IsClosing closing') (hend' : wordMayEnd rest' = true)
    (same : skipped ++ (closing' ++ rest') = closing ++ rest) :
    closing.length ≤ skipped.length + closing'.length := by
  by_cases hskipped : skipped = []
  · subst hskipped
    rw [List.nil_append] at same
    have := m.closing.length_eq same ⟨hclosing, hend⟩ ⟨hclosing', hend'⟩
    omega
  · exact m.closing_le hclosing hclosing' hskipped same

theorem throughClosing?_eq_some (m : frame.Marks shape) (h : frame.throughClosing? text = some n) :
    ∃ body closing rest, text = body ++ closing ++ rest ∧ shape.IsClosing closing ∧
      wordMayEnd rest = true ∧ (body ++ closing).length = n ∧
      ∀ body' closing' rest', text = body' ++ closing' ++ rest' → shape.IsClosing closing' →
        wordMayEnd rest' = true → n ≤ (body' ++ closing').length := by
  induction text generalizing n with
  | nil => cases h
  | cons c text ih =>
    rw [throughClosing?] at h
    cases here : frame.closing? (c :: text) with
    | some k =>
      obtain rfl : k = n := by simpa [here] using h
      obtain ⟨closing, rest, same, ⟨hclosing, hend⟩, rfl⟩ := (m.closing _ _).1 here
      -- A closing further on ends no earlier than the one that begins here.
      refine ⟨[], closing, rest, same, hclosing, hend, rfl, ?_⟩
      intro body' closing' rest' same' hclosing' hend'
      rw [List.length_append]
      rw [List.append_assoc] at same'
      exact m.closing_length_le hclosing hend hclosing' hend' (same'.symm.trans same)
    | none =>
      obtain ⟨k, hk, rfl⟩ : ∃ k, frame.throughClosing? text = some k ∧ k + 1 = n := by
        simpa [here] using h
      obtain ⟨body, closing, rest, rfl, hclosing, hend, rfl, least⟩ := ih hk
      refine ⟨c :: body, closing, rest, rfl, hclosing, hend, rfl, ?_⟩
      intro body' closing' rest' same' hclosing' hend'
      cases body' with
      | nil =>
        rw [same', List.nil_append, m.closing.eq_some ⟨hclosing', hend'⟩] at here
        cases here
      | cons d body' =>
        have := least body' closing' rest' (List.cons_eq_cons.1 same').2 hclosing' hend'
        simpa using this

theorem throughClosing?_ne_none (m : frame.Marks shape) {body closing rest : List Char}
    (hclosing : shape.IsClosing closing) (hend : wordMayEnd rest = true) :
    frame.throughClosing? (body ++ closing ++ rest) ≠ none := by
  induction body with
  | nil =>
    have here : frame.closing? (closing ++ rest) = some closing.length :=
      m.closing.eq_some ⟨hclosing, hend⟩
    cases closing with
    | nil => exact absurd rfl (m.closing_ne_nil hclosing)
    | cons c closing =>
      rw [List.nil_append, List.cons_append] at *
      rw [throughClosing?, here]
      exact Option.some_ne_none _
  | cons c body ih =>
    rw [List.cons_append, List.cons_append, throughClosing?]
    cases frame.closing? (c :: (body ++ closing ++ rest)) with
    | some k => exact Option.some_ne_none _
    | none => exact fun h => ih (Option.map_eq_none_iff.1 h)

/-- A list that begins with an opening, which is the same for all lists that begin here. -/
theorem exists_body (m : frame.Marks shape) (hopening : shape.IsOpening opening)
    {rest : List Char} (hforms : shape.Forms list) (same : opening ++ rest = list ++ after) :
    ∃ c body closing, rest = c :: (body ++ closing ++ after) ∧ shape.IsClosing closing ∧
      list.length = opening.length + 1 + (body ++ closing).length := by
  obtain ⟨opening', body, closing, rfl, hopening', hbody, hclosing⟩ := hforms
  have split : opening' ++ (body ++ closing ++ after) = opening ++ rest := by simp [same]
  have hlen := m.opening.length_eq split hopening hopening'
  obtain ⟨rfl, rfl⟩ := List.append_inj split hlen
  cases body with
  | nil => exact absurd rfl hbody
  | cons c body =>
    refine ⟨c, body, closing, rfl, hclosing, ?_⟩
    simp only [List.length_append, List.length_cons]
    omega

/-- A list stands first when no opening begins in the text before it, and no closing within it. -/
theorem Marks.standsFirst (m : frame.Marks shape) {before body closing : List Char}
    (hbegins : wordMayBegin before.getLast? = true) (hopening : shape.IsOpening opening)
    (hbody : body ≠ []) (hclosing : shape.IsClosing closing) (hend : wordMayEnd after = true)
    (hbefore : ∀ {u v opening' rest}, before = u ++ v → v ≠ [] →
      wordMayBegin u.getLast? = true → shape.IsOpening opening' →
        v ++ (opening ++ (body ++ (closing ++ after))) ≠ opening' ++ rest)
    (hwithin : ∀ {u v closing' rest}, body = u ++ v → v ≠ [] → shape.IsClosing closing' →
      wordMayEnd rest = true → v ++ (closing ++ after) ≠ closing' ++ rest) :
    shape.StandsFirst before (opening ++ body ++ closing) after where
  forms := ⟨opening, body, closing, rfl, hopening, hbody, hclosing⟩
  begins := hbegins
  ends := hend
  earliest := by
    rintro before' _ after' same ⟨⟨opening', body', closing', rfl, hopening', -, -⟩, hbegins', -⟩
    by_contra hearlier
    simp only [List.append_assoc] at same
    obtain ⟨v, rfl, overlap⟩ | ⟨v, rfl, -⟩ := List.append_eq_append_iff.1 same
    · have hv : v ≠ [] := by
        rintro rfl
        simp at hearlier
      exact hbefore rfl hv hbegins' hopening' overlap.symm
    · simp at hearlier
  shortest := by
    intro list' after' same hstands
    have split : opening ++ (body ++ (closing ++ after)) = list' ++ after' := by simp [same]
    obtain ⟨c, body', closing', tail, hclosing', hlen⟩ :=
      exists_body m hopening hstands.forms split
    have hle : (body ++ closing).length ≤ (c :: body').length + closing'.length := by
      rw [List.append_assoc, ← List.cons_append] at tail
      rw [List.length_append]
      obtain ⟨skipped, hskipped, overlap⟩ | ⟨v, hv, overlap⟩ := List.append_eq_append_iff.1 tail
      · have := m.closing_length_le hclosing hend hclosing' hstands.ends overlap.symm
        rw [hskipped, List.length_append]
        omega
      · by_cases hnil : v = []
        · subst hnil
          rw [← List.nil_append (closing' ++ after')] at overlap
          have := m.closing_length_le hclosing hend hclosing' hstands.ends overlap
          rw [List.length_nil] at this
          rw [hv, List.append_nil]
          omega
        · exact absurd overlap.symm (hwithin hv hnil hclosing' hstands.ends)
    simp only [List.length_append, List.length_cons] at hle hlen ⊢
    omega

theorem length?_eq_some (m : frame.Marks shape) (h : frame.length? text = some n) :
    ∃ list after, text = list ++ after ∧ shape.Forms list ∧ wordMayEnd after = true ∧
      list.length = n ∧ ∀ list' after', text = list' ++ after' → shape.Forms list' →
        wordMayEnd after' = true → n ≤ list'.length := by
  obtain ⟨k, hk, h⟩ := Option.bind_eq_some_iff.1 h
  obtain ⟨opening, rest, rfl, hopening, rfl⟩ := (m.opening _ _).1 hk
  rw [List.drop_left] at h
  cases rest with
  | nil => cases h
  | cons c rest =>
    obtain ⟨j, hj, rfl⟩ := Option.map_eq_some_iff.1 h
    obtain ⟨body, closing, after, rfl, hclosing, hend, rfl, least⟩ := throughClosing?_eq_some m hj
    refine ⟨opening ++ c :: body ++ closing, after, by simp, ?_, hend, ?_, ?_⟩
    · exact ⟨opening, c :: body, closing, rfl, hopening, List.cons_ne_nil _ _, hclosing⟩
    · simp only [List.length_append, List.length_cons]
      omega
    · intro list' after' same hforms hend'
      obtain ⟨d, body', closing', split, hclosing', hlen⟩ := exists_body m hopening hforms same
      have := least body' closing' after' (List.cons_eq_cons.1 split).2 hclosing' hend'
      omega

theorem length?_ne_none (m : frame.Marks shape) (hforms : shape.Forms list)
    (hend : wordMayEnd after = true) : frame.length? (list ++ after) ≠ none := by
  obtain ⟨opening, body, closing, rfl, hopening, hbody, hclosing⟩ := hforms
  cases body with
  | nil => exact absurd rfl hbody
  | cons c body =>
    have hfound : frame.throughClosing? (body ++ closing ++ after) ≠ none :=
      throughClosing?_ne_none m hclosing hend
    rw [List.append_assoc, List.append_assoc, length?, m.opening.eq_some hopening]
    simpa using hfound

/-- No list of the shape begins in the text that has been passed. -/
def Passed (shape : Shape) (seen text : List Char) : Prop :=
  ∀ before list after, before ++ list ++ after = seen ++ text → shape.Stands before list after →
    seen.length ≤ before.length

theorem Passed.nil : Passed shape [] text := fun _ _ _ _ _ => Nat.zero_le _

theorem Passed.snoc {seen : List Char} {c : Char} (passed : Passed shape seen (c :: text))
    (here : ∀ list after, list ++ after = c :: text → ¬ shape.Stands seen list after) :
    Passed shape (seen ++ [c]) text := by
  intro before list after same hstands
  rw [List.append_assoc seen, List.singleton_append] at same
  have hle := passed before list after same hstands
  rw [List.length_append, List.length_singleton]
  refine Nat.lt_of_le_of_ne hle fun hlen => ?_
  rw [List.append_assoc] at same
  obtain ⟨rfl, rest⟩ := List.append_inj same hlen.symm
  exact here list after rest hstands

theorem not_stands_of_length? (m : frame.Marks shape) {seen : List Char}
    (h : (if wordMayBegin seen.getLast? then frame.length? text else none) = none) :
    ∀ list after, list ++ after = text → ¬ shape.Stands seen list after := by
  rintro list after rfl hstands
  rw [if_pos hstands.begins] at h
  exact length?_ne_none m hstands.forms hstands.ends h

/-- What the search finds stands first. The invariant of the search is that no list begins in what
it has passed. -/
theorem first?_eq_some (m : frame.Marks shape) {seen : List Char} {place : Nat × Nat}
    (passed : Passed shape seen text) (h : frame.first? seen.getLast? text = some place) :
    ∃ before list after, before ++ list ++ after = seen ++ text ∧
      shape.StandsFirst before list after ∧ before.length = seen.length + place.1 ∧
      list.length = place.2 := by
  induction text generalizing seen place with
  | nil => cases h
  | cons c text ih =>
    rw [first?] at h
    cases here : if wordMayBegin seen.getLast? then frame.length? (c :: text) else none with
    | some n =>
      obtain rfl : (0, n) = place := by simpa [here] using h
      obtain ⟨hbegins, hn⟩ := Option.ite_none_right_eq_some.1 here
      obtain ⟨list, after, same, hforms, hend, hlen, least⟩ := length?_eq_some m hn
      refine ⟨seen, list, after, by rw [same, List.append_assoc], ?_, rfl, hlen⟩
      refine ⟨⟨hforms, hbegins, hend⟩, ?_, ?_⟩
      · intro before' list' after' same' hstands
        rw [List.append_assoc seen, ← same] at same'
        exact passed before' list' after' same' hstands
      · intro list' after' same' hstands
        rw [hlen]
        exact least list' after' (same.trans same'.symm) hstands.forms hstands.ends
    | none =>
      obtain ⟨k, hk, rfl⟩ : ∃ k, frame.first? (some c) text = some k ∧ (k.1 + 1, k.2) = place := by
        simpa [here] using h
      rw [← List.getLast?_concat (a := c) (l := seen)] at hk
      obtain ⟨before, list, after, same, hfirst, hbefore, hlist⟩ :=
        ih (passed.snoc (not_stands_of_length? m here)) hk
      refine ⟨before, list, after, by simpa using same, hfirst, ?_, hlist⟩
      rw [hbefore, List.length_append, List.length_singleton]
      omega

theorem first?_eq_none (m : frame.Marks shape) {seen : List Char} (passed : Passed shape seen text)
    (h : frame.first? seen.getLast? text = none) {before list after : List Char}
    (same : before ++ list ++ after = seen ++ text) : ¬ shape.Stands before list after := by
  induction text generalizing seen with
  | nil =>
    intro hstands
    have hle := passed before list after same hstands
    obtain ⟨opening, body, closing, rfl, -, hbody, -⟩ := hstands.forms
    have := congrArg List.length same
    have := List.length_pos_iff.2 hbody
    simp only [List.length_append, List.length_nil] at *
    omega
  | cons c text ih =>
    rw [first?] at h
    cases here : if wordMayBegin seen.getLast? then frame.length? (c :: text) else none with
    | some n => simp [here] at h
    | none =>
      have hrest : frame.first? (some c) text = none := by simpa [here] using h
      rw [← List.getLast?_concat (a := c) (l := seen)] at hrest
      exact ih (passed.snoc (not_stands_of_length? m here)) hrest (by simpa using same)

end Frame

/-! ## The field list of a text -/

def HoldsHints (text : List Char) : Prop :=
  hintStart.toList <:+: text ∧ hintEnd.toList <:+: text

instance (text : List Char) : Decidable (HoldsHints text) :=
  inferInstanceAs (Decidable (_ ∧ _))

/-- The shape of the field list of a text: a hinted one when the text holds both hints. -/
def Shape.ofText (text : List Char) : Shape := if HoldsHints text then .hinted else .plain

theorem Shape.exists_words {text list : List Char} (h : (Shape.ofText text).Forms list) :
    ∃ select fields from', list = select ++ fields ++ from' ∧ InAnyCase "SELECT" select ∧
      InAnyCase "FROM" from' := by
  rw [Shape.ofText] at h
  split at h
  · obtain ⟨_, body, _, rfl, ⟨select, gap, hint, rfl, hselect, -, -⟩, -, closing⟩ := h
    obtain ⟨hint', gap', from', rfl, -, -, hfrom⟩ := closing
    exact ⟨select, gap ++ hint ++ body ++ hint' ++ gap', from', by simp, hselect, hfrom⟩
  · obtain ⟨_, body, _, rfl, ⟨select, c, rfl, hselect, -⟩, -, closing⟩ := h
    obtain ⟨d, from', rfl, -, hfrom⟩ := closing
    exact ⟨select, [c] ++ body ++ [d], from', by simp, hselect, hfrom⟩

theorem marks_ofText (text : List Char) : (Frame.ofText text).Marks (.ofText text) := by
  rw [Frame.ofText, Shape.ofText, ← Bool.cond_eq_ite]
  by_cases h : HoldsHints text
  · have hboth := h
    rw [HoldsHints, ← holdsText_iff, ← holdsText_iff, ← Bool.and_eq_true] at hboth
    rw [if_pos h, hboth]
    exact hinted_marks
  · have hboth := h
    rw [HoldsHints, ← holdsText_iff, ← holdsText_iff, ← Bool.and_eq_true, Bool.not_eq_true] at hboth
    rw [if_neg h, hboth]
    exact plain_marks

variable {text before list after : List Char}

theorem Shape.StandsFirst.unique {shape : Shape} {before' list' after' : List Char}
    (h : shape.StandsFirst before list after) (h' : shape.StandsFirst before' list' after')
    (same : before' ++ list' ++ after' = before ++ list ++ after) :
    before' = before ∧ list' = list ∧ after' = after := by
  have hbefore := Nat.le_antisymm (h'.earliest same.symm h.toStands) (h.earliest same h'.toStands)
  rw [List.append_assoc, List.append_assoc] at same
  obtain ⟨rfl, tails⟩ := List.append_inj same hbefore
  have hlist := Nat.le_antisymm (h'.shortest tails.symm h.toStands) (h.shortest tails h'.toStands)
  obtain ⟨rfl, rfl⟩ := List.append_inj tails hlist
  exact ⟨rfl, rfl, rfl⟩

theorem exists_standsFirst (h : (Shape.ofText text).StandsIn text) :
    ∃ before list after, text = before ++ list ++ after ∧
      (Shape.ofText text).StandsFirst before list after := by
  obtain ⟨before, list, after, htext, hstands⟩ := h
  cases hplace : (Frame.ofText text).first? none text with
  | none => exact absurd hstands (Frame.first?_eq_none (marks_ofText text) .nil hplace htext.symm)
  | some place =>
    obtain ⟨before, list, after, same, hfirst, -⟩ :=
      Frame.first?_eq_some (marks_ofText text) .nil hplace
    exact ⟨before, list, after, same.symm, hfirst⟩

theorem spanChars?_eq_some (hfirst : (Shape.ofText text).StandsFirst before list after)
    (htext : text = before ++ list ++ after) :
    spanChars? text = some ⟨before.length, before.length + list.length⟩ := by
  rw [spanChars?]
  cases hplace : (Frame.ofText text).first? none text with
  | none =>
    exact absurd hfirst.toStands
      (Frame.first?_eq_none (marks_ofText text) .nil hplace htext.symm)
  | some place =>
    obtain ⟨before', list', after', same, hfirst', hbefore, hlist⟩ :=
      Frame.first?_eq_some (marks_ofText text) .nil hplace
    obtain ⟨rfl, rfl, rfl⟩ := hfirst.unique hfirst' (same.trans htext)
    rw [Option.map_some, hbefore, hlist]
    simp

theorem spanChars?_eq_none_iff : spanChars? text = none ↔ ¬ (Shape.ofText text).StandsIn text := by
  constructor
  · intro h hstands
    obtain ⟨before, list, after, htext, hfirst⟩ := exists_standsFirst hstands
    rw [spanChars?_eq_some hfirst htext] at h
    cases h
  · intro h
    rw [spanChars?, Option.map_eq_none_iff]
    cases hplace : (Frame.ofText text).first? none text with
    | none => rfl
    | some place =>
      obtain ⟨before, list, after, same, hfirst, -⟩ :=
        Frame.first?_eq_some (marks_ofText text) .nil hplace
      exact absurd ⟨before, list, after, same.symm, hfirst.toStands⟩ h

section Strings

variable {sql before list after : String}

theorem span?_eq_some
    (hfirst : (Shape.ofText sql.toList).StandsFirst before.toList list.toList after.toList)
    (hsql : sql = before ++ list ++ after) :
    span? sql = some ⟨before.length, before.length + list.length⟩ := by
  rw [span?, spanChars?_eq_some hfirst (by simp [hsql]), String.length_toList, String.length_toList]

theorem replace?_eq_some
    (hfirst : (Shape.ofText sql.toList).StandsFirst before.toList list.toList after.toList)
    (hsql : sql = before ++ list ++ after) (fields : List String) :
    replace? sql fields = some (before ++ clause fields ++ after) := by
  rw [replace?, span?_eq_some hfirst hsql, Option.map_some, hsql, ← String.length_toList,
    ← String.length_toList]
  simp

theorem exists_standsFirst_strings (h : (Shape.ofText sql.toList).StandsIn sql.toList) :
    ∃ before list after : String, sql = before ++ list ++ after ∧
      (Shape.ofText sql.toList).StandsFirst before.toList list.toList after.toList := by
  obtain ⟨before, list, after, htext, hfirst⟩ := exists_standsFirst h
  refine ⟨.ofList before, .ofList list, .ofList after, ?_, ?_⟩
  · simp [← String.toList_inj, htext]
  · simpa using hfirst

theorem replace?_eq_none_iff {fields : List String} :
    replace? sql fields = none ↔ ¬ (Shape.ofText sql.toList).StandsIn sql.toList := by
  rw [replace?, Option.map_eq_none_iff, span?, spanChars?_eq_none_iff]

end Strings

end FieldList
end ParamSql
