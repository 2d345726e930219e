import ParamSql.Operation
import ParamSql.Proofs.BoundNames
import ParamSql.Proofs.Entries
import ParamSql.Proofs.Numbering
import ParamSql.Proofs.Splice

/-!
# What a positional rendering says

Rendering puts a marker in the place of every placeholder of a bound name and keeps all other text.
With question marks the arguments are the values of the placeholders in turn; with numbers each
marker leads to the value of its name, and the names are numbered by first use. Both say the same:
read through the numbers the arguments are those of the question marks, and the text with values in
the place of the markers is the text with values in the place of the placeholders.
-/

namespace ParamSql
namespace Placeholder

open Text

def boundPlaceholders (sql : String) (parameters : Table Value) : List Occurrence :=
  findAll (.ofNames (boundNames parameters)) sql

def boundLexemes (sql : String) (parameters : Table Value) : List Lexeme :=
  lexemes (.ofNames (boundNames parameters)) none sql.toList

def patches (found : List Occurrence) (news : List (List Char)) : List Patch :=
  List.zipWith (fun o new => ⟨o.start, o.stop, new⟩) found news

def numberMark (n : Nat) : List Char := '$' :: decimal n

theorem patches_map (found : List Occurrence) (f : Occurrence → List Char) :
    patches found (found.map f) = found.map fun o => ⟨o.start, o.stop, f o⟩ := by
  rw [patches, List.zipWith_map_right, List.zipWith_self]

theorem renew_patches (found : List Occurrence) (news vs : List (List Char))
    (h : news.length = found.length) : renew (patches found news) vs = patches found vs := by
  induction found generalizing news vs with
  | nil => rfl
  | cons o found ih =>
    cases news with
    | nil => simp at h
    | cons new news =>
      cases vs with
      | nil => rfl
      | cons v vs =>
        have htail := ih news vs (by simpa using h)
        unfold renew patches at htail ⊢
        rw [List.zipWith_cons_cons, List.zipWith_cons_cons, List.zipWith_cons_cons, htail]

theorem length_patches (found : List Occurrence) (news : List (List Char))
    (h : news.length = found.length) : (patches found news).length = found.length := by
  rw [patches, List.length_zipWith, h, Nat.min_self]

theorem inOrder_patches {text : List Char} {pos : Nat} {found : List Occurrence}
    (news : List (List Char)) (hpos : pos ≤ text.length)
    (pairwise : found.Pairwise fun o o' => o.stop ≤ o'.start)
    (inside : ∀ o ∈ found, pos ≤ o.start ∧ o.start ≤ o.stop ∧ o.stop ≤ text.length) :
    InOrder text pos (patches found news) := by
  induction found generalizing pos news with
  | nil => exact hpos
  | cons o found ih =>
    cases news with
    | nil => exact hpos
    | cons new news =>
      obtain ⟨hstart, hstop, hend⟩ := inside o List.mem_cons_self
      obtain ⟨hafter, hrest⟩ := List.pairwise_cons.mp pairwise
      refine ⟨hstart, hstop, ih news hend hrest fun o' ho' => ?_⟩
      exact ⟨hafter o' ho', (inside o' (List.mem_cons_of_mem _ ho')).2⟩

theorem inOrder_boundPlaceholders (sql : String) (parameters : Table Value)
    (news : List (List Char)) :
    InOrder sql.toList 0 (patches (boundPlaceholders sql parameters) news) := by
  refine inOrder_patches news (Nat.zero_le _) (pairwise_findAll _ sql) fun o ho => ?_
  obtain ⟨hstop, hle⟩ := stop_eq_of_mem_findAll ho
  exact ⟨Nat.zero_le _, by omega, hle⟩

/-- Writing markers among the lexemes is splicing them into the text. `gap` has been read since the
last placeholder, and `done` before. -/
theorem splice_occurrences (marker : List Char → List Char) (done gap : List Char)
    (ls : List Lexeme) :
    splice (done ++ gap ++ ls.flatMap Lexeme.chars) done.length
        ((occurrences (done ++ gap).length ls).map fun o =>
          ⟨o.start, o.stop, marker o.name.toList⟩) =
      gap ++ marked marker ls := by
  induction ls generalizing done gap with
  | nil =>
    simp [occurrences, splice, marked]
  | cons l ls ih =>
    have hkept (hname : l.name? = none) (hmark : marked marker (l :: ls) =
        l.chars ++ marked marker ls) :
        splice (done ++ gap ++ (l :: ls).flatMap Lexeme.chars) done.length
            ((occurrences (done ++ gap).length (l :: ls)).map fun o =>
              ⟨o.start, o.stop, marker o.name.toList⟩) =
          gap ++ marked marker (l :: ls) := by
      have hnext := ih done (gap ++ l.chars)
      rw [← List.append_assoc, @List.length_append _ (done ++ gap) l.chars] at hnext
      rw [occurrences_cons, hname, List.flatMap_cons, ← List.append_assoc, hmark,
        ← List.append_assoc]
      exact hnext
    cases l with
    | plain c => exact hkept rfl rfl
    | token t => exact hkept rfl rfl
    | placeholder name =>
      have hnext := ih (done ++ gap ++ ':' :: name) []
      rw [List.append_nil, List.nil_append] at hnext
      have hgap : (done ++ gap ++ (Lexeme.placeholder name :: ls).flatMap Lexeme.chars).extract
          done.length (done ++ gap).length = gap := by
        rw [List.extract_eq_take_drop, List.append_assoc, List.drop_left, List.length_append,
          Nat.add_sub_cancel_left, List.take_left]
      have hmark : marked marker (Lexeme.placeholder name :: ls) =
          marker name ++ marked marker ls := rfl
      rw [occurrences, List.map_cons, splice, hgap, String.toList_ofList, hmark, List.append_assoc]
      rw [List.length_append, List.length_cons,
        List.append_assoc (done ++ gap) (':' :: name)] at hnext
      rw [List.flatMap_cons, ← hnext]
      rfl

theorem marked_lexemes (sought : Sought) (sql : String) (marker : List Char → List Char) :
    marked marker (lexemes sought none sql.toList) =
      splice sql.toList 0 ((findAll sought sql).map fun o =>
        ⟨o.start, o.stop, marker o.name.toList⟩) := by
  have h := splice_occurrences marker [] [] (lexemes sought none sql.toList)
  rw [flatMap_chars_lexemes] at h
  exact h.symm

theorem uses_lexemes (sought : Sought) (sql : String) :
    uses (lexemes sought none sql.toList) =
      (findAll sought sql).map fun o => o.name.toList := by
  have h := congrArg (List.map String.toList)
    (map_name_occurrences 0 (lexemes sought none sql.toList))
  rw [List.map_map, List.map_map] at h
  simp only [Function.comp_def, String.toList_ofList, List.map_id'] at h
  exact h.symm

theorem get?_of_mem_boundPlaceholders {sql : String} {parameters : Table Value} {o : Occurrence}
    (ho : o ∈ boundPlaceholders sql parameters) :
    ∃ v, parameters.get? o.name = some v ∧ v ≠ .null :=
  mem_boundNames.mp (standsAt_of_mem_findAll ho).1

theorem some_valueOf {sql : String} {parameters : Table Value} {o : Occurrence}
    (ho : o ∈ boundPlaceholders sql parameters) :
    some (valueOf parameters o.name.toList) = parameters.get? o.name := by
  obtain ⟨v, hv, _⟩ := get?_of_mem_boundPlaceholders ho
  rw [valueOf, String.ofList_toList, hv, Option.getD_some]

def placeholderNumbers (sql : String) (parameters : Table Value) : List Nat :=
  useNumbers ((boundPlaceholders sql parameters).map fun o => o.name.toList)

/-- A question mark for every placeholder, and its value among the arguments. -/
structure MarkedInTurn (sql : String) (parameters : Table Value) (r : Rendering) : Prop where
  text_eq : r.text.toList = splice sql.toList 0
    ((boundPlaceholders sql parameters).map fun o => ⟨o.start, o.stop, ['?']⟩)
  args_eq : r.args.map some =
    (boundPlaceholders sql parameters).map fun o => parameters.get? o.name

/-- A number for every placeholder, under which the value of its name is found. -/
structure NumberedByFirstUse (sql : String) (parameters : Table Value) (numbers : List Nat)
    (r : Rendering) : Prop where
  length_eq : numbers.length = (boundPlaceholders sql parameters).length
  text_eq : r.text.toList = splice sql.toList 0
    (patches (boundPlaceholders sql parameters) (numbers.map numberMark))
  value_eq : ∀ (i n : Nat) (o : Occurrence), numbers[i]? = some n →
    (boundPlaceholders sql parameters)[i]? = some o →
      0 < n ∧ r.args[n - 1]? = parameters.get? o.name
  same_iff : ∀ (i j : Nat) (o o' : Occurrence), (boundPlaceholders sql parameters)[i]? = some o →
    (boundPlaceholders sql parameters)[j]? = some o' →
      (numbers[i]? = numbers[j]? ↔ o.name = o'.name)
  in_order : numbers.eraseDups = List.range' 1 r.args.length

section Convert

variable (sql : String) (parameters : Table Value)

theorem convert_eq_ofLexemes (style : MarkerStyle) :
    convert sql parameters style = .ofLexemes parameters style (boundLexemes sql parameters) := rfl

theorem uses_boundLexemes :
    uses (boundLexemes sql parameters) =
      (boundPlaceholders sql parameters).map fun o => o.name.toList :=
  uses_lexemes _ sql

theorem marked_boundLexemes (marker : List Char → List Char) :
    marked marker (boundLexemes sql parameters) =
      splice sql.toList 0 ((boundPlaceholders sql parameters).map fun o =>
        ⟨o.start, o.stop, marker o.name.toList⟩) :=
  marked_lexemes _ sql marker

theorem markedInTurn_convert :
    MarkedInTurn sql parameters (convert sql parameters .questionMark) := by
  rw [convert_eq_ofLexemes, Rendering.ofLexemes]
  constructor
  · rw [String.toList_ofList, marked_boundLexemes]
  · rw [uses_boundLexemes, List.map_map, List.map_map]
    exact List.map_congr_left fun o ho => some_valueOf ho

/-- The arguments under numbers are the values of the names in the order of first use. -/
theorem args_convert_numeric :
    (convert sql parameters .numeric).args =
      ((boundPlaceholders sql parameters).map fun o => o.name.toList).eraseDups.map
        (valueOf parameters) := by
  rw [convert_eq_ofLexemes, Rendering.ofLexemes, firstUses, uses_boundLexemes]

/-- Marking every name by its number is marking every placeholder by its number. -/
theorem marked_numbers (mark : Nat → List Char) :
    marked (fun name => mark (numberOf (firstUses (boundLexemes sql parameters)) name))
        (boundLexemes sql parameters) =
      splice sql.toList 0 (patches (boundPlaceholders sql parameters)
        ((placeholderNumbers sql parameters).map mark)) := by
  rw [marked_boundLexemes, placeholderNumbers, useNumbers, List.map_map, List.map_map, patches_map,
    firstUses, uses_boundLexemes]
  rfl

theorem text_convert_numeric :
    (convert sql parameters .numeric).text.toList = splice sql.toList 0
      (patches (boundPlaceholders sql parameters)
        ((placeholderNumbers sql parameters).map numberMark)) := by
  rw [← marked_numbers, convert_eq_ofLexemes, Rendering.ofLexemes, String.toList_ofList]
  rfl

theorem getElem?_args_convert_numeric {o : Occurrence}
    (ho : o ∈ boundPlaceholders sql parameters) :
    (convert sql parameters .numeric).args[((boundPlaceholders sql parameters).map fun o =>
      o.name.toList).eraseDups.idxOf o.name.toList]? = parameters.get? o.name := by
  have hname : o.name.toList ∈ (boundPlaceholders sql parameters).map fun o => o.name.toList :=
    List.mem_map_of_mem ho
  rw [args_convert_numeric, List.getElem?_map, getElem?_of_mem_names hname, Option.map_some,
    some_valueOf ho]

theorem numberedByFirstUse_convert :
    NumberedByFirstUse sql parameters (placeholderNumbers sql parameters)
      (convert sql parameters .numeric) := by
  constructor
  · rw [placeholderNumbers, length_useNumbers, List.length_map]
  · exact text_convert_numeric sql parameters
  · intro i n o hn ho
    rw [placeholderNumbers, getElem?_useNumbers, List.getElem?_map, ho] at hn
    obtain rfl := Option.some.inj hn
    exact ⟨Nat.succ_pos _,
      getElem?_args_convert_numeric sql parameters (List.mem_of_getElem? ho)⟩
  · intro i j o o' ho ho'
    obtain ⟨hi, _⟩ := List.getElem?_eq_some_iff.mp ho
    rw [placeholderNumbers, getElem?_useNumbers_inj (by rwa [List.length_map]),
      List.getElem?_map, List.getElem?_map, ho, ho', Option.map_some, Option.map_some,
      Option.some.injEq, String.toList_inj]
  · rw [placeholderNumbers, eraseDups_useNumbers, args_convert_numeric, List.length_map]

/-- Read through the numbers, the arguments are those of the question marks. -/
theorem map_args_placeholderNumbers :
    (placeholderNumbers sql parameters).map
        (fun n => (convert sql parameters .numeric).args[n - 1]?) =
      (convert sql parameters .questionMark).args.map some := by
  rw [(markedInTurn_convert sql parameters).args_eq, placeholderNumbers, useNumbers,
    List.map_map, List.map_map]
  exact List.map_congr_left fun o ho => getElem?_args_convert_numeric sql parameters ho

end Convert

def boundValue (parameters : Table Value) (o : Occurrence) : Value :=
  (parameters.get? o.name).getD .null

/-- In a text with markers where the placeholders were, the markers can be replaced with the same
result as replacing the placeholders. -/
structure Substitutes (sql : String) (found : List Occurrence) (marks news : List (List Char))
    (text : List Char) : Prop where
  at_marks : (rewrite 0 0 (patches found marks) news).map
    (fun p => text.extract p.start p.stop) = marks
  splice_eq : splice text 0 (rewrite 0 0 (patches found marks) news) =
    splice sql.toList 0 (patches found news)

section Substitution

variable (sql : String) (parameters : Table Value)

theorem map_new_patches {found : List Occurrence} {news : List (List Char)}
    (h : news.length = found.length) : (patches found news).map Patch.new = news := by
  induction found generalizing news with
  | nil => rw [List.eq_nil_of_length_eq_zero h]; rfl
  | cons o found ih =>
    cases news with
    | nil => simp at h
    | cons new news =>
      have htail := @ih news (by simpa using h)
      unfold patches at htail ⊢
      rw [List.zipWith_cons_cons, List.map_cons, htail]

theorem substitutes_of_text_eq {marks news : List (List Char)} {text : List Char}
    (htext : text = splice sql.toList 0 (patches (boundPlaceholders sql parameters) marks))
    (hmarks : marks.length = (boundPlaceholders sql parameters).length)
    (hnews : news.length = (boundPlaceholders sql parameters).length) :
    Substitutes sql (boundPlaceholders sql parameters) marks news text := by
  have ordered := inOrder_boundPlaceholders sql parameters marks
  have hlen : news.length = (patches (boundPlaceholders sql parameters) marks).length := by
    rw [length_patches _ _ hmarks, hnews]
  constructor
  · have h := extract_rewrite [] ordered news hlen
    rwa [map_new_patches hmarks, List.nil_append, List.length_nil, ← htext] at h
  · rw [htext, splice_splice ordered news hlen, renew_patches _ _ _ hmarks]

theorem args_convert_questionMark :
    (convert sql parameters .questionMark).args =
      (boundPlaceholders sql parameters).map (boundValue parameters) := by
  have h := congrArg (List.map fun v : Option Value => v.getD .null)
    (markedInTurn_convert sql parameters).args_eq
  rw [List.map_map, List.map_map] at h
  exact (List.map_id _).symm.trans h

theorem map_numbered_args :
    (placeholderNumbers sql parameters).map
        (fun n => ((convert sql parameters .numeric).args[n - 1]?).getD .null) =
      (boundPlaceholders sql parameters).map (boundValue parameters) := by
  have h := congrArg (List.map fun v : Option Value => v.getD .null)
    ((map_args_placeholderNumbers sql parameters).trans
      (markedInTurn_convert sql parameters).args_eq)
  rwa [List.map_map, List.map_map] at h

end Substitution

theorem convert_of_boundPlaceholders_eq_nil {sql : String} {parameters : Table Value}
    (h : boundPlaceholders sql parameters = []) (style : MarkerStyle) :
    convert sql parameters style = ⟨sql, []⟩ := by
  have hmarked (marker : List Char → List Char) :
      String.ofList (marked marker (boundLexemes sql parameters)) = sql := by
    rw [marked_boundLexemes, h, List.map_nil, splice, List.drop_zero, String.ofList_toList]
  have huses : uses (boundLexemes sql parameters) = [] := by
    rw [uses_boundLexemes, h, List.map_nil]
  cases style with
  | namedColon => exact convert_namedColon sql parameters
  | questionMark =>
      simp only [convert_eq_ofLexemes, Rendering.ofLexemes, hmarked, huses, List.map_nil]
  | numeric =>
    simp only [convert_eq_ofLexemes, Rendering.ofLexemes, hmarked, firstUses, huses,
      List.eraseDups_nil, List.map_nil]

theorem boundPlaceholders_of_isEmpty {parameters : Table Value} (h : parameters.isEmpty = true)
    (sql : String) : boundPlaceholders sql parameters = [] := by
  refine List.eq_nil_iff_forall_not_mem.mpr fun o ho => ?_
  obtain ⟨v, hv, _⟩ := get?_of_mem_boundPlaceholders ho
  have hentry := Table.get?_eq_some_iff.mp hv
  rw [List.isEmpty_iff.mp h] at hentry
  simp at hentry

end Placeholder

theorem Database.positional {db : Database} (h : db ≠ .sqlite) :
    db.dialect.supportsNamedParameters = false ∧ db.dialect.positionalStyle ≠ .namedColon := by
  cases db with
  | mySql => exact ⟨rfl, by decide⟩
  | postgreSql => exact ⟨rfl, by decide⟩
  | sqlite => exact absurd rfl h

namespace Builder

/-- Without parameters there is nothing to convert, so the text as it is agrees with converting. -/
theorem rendering_eq_convert {b : Builder} (h : b.dialect.supportsNamedParameters = false) :
    b.rendering = Placeholder.convert b.text b.params b.dialect.positionalStyle := by
  unfold rendering convertsPlaceholders
  cases hempty : b.params.isEmpty with
  | false => simp [h]
  | true =>
    rw [Placeholder.convert_of_boundPlaceholders_eq_nil
      (Placeholder.boundPlaceholders_of_isEmpty hempty b.text)]
    simp

end Builder

namespace Operation

/-- Rendering answers with the text and keeps the arguments at the builder. -/
theorem run_render (w : Workbench) :
    ∃ w', run render w = .ok (.text w.builder.rendering.text) w' ∧
      w'.builder = w.builder.render := by
  let reply : Work Reply := pure (.text w.builder.rendering.text)
  have hstep : run render w =
      (if w.builder.convertsPlaceholders = true then
        Workbench.record (Workbench.conversionNote w.builder) >>= fun _ => reply
      else reply) { w with builder := w.builder.render } := rfl
  rw [hstep]
  split_ifs
  · exact ⟨_, rfl, rfl⟩
  · exact ⟨_, rfl, rfl⟩

theorem run_args (w : Workbench) : run args w = .ok (.values (some w.builder.args)) w := rfl

end Operation

/-- Rendering answers with the text, and then the arguments can be asked for. -/
def RendersTo (w : Workbench) (text : String) (args : List Value) : Prop :=
  ∃ w', Operation.render.run w = .ok (.text text) w' ∧
    Operation.args.run w' = .ok (.values (some args)) w'

theorem rendersTo_iff {w : Workbench} {text : String} {args : List Value} :
    RendersTo w text args ↔ w.builder.rendering = ⟨text, args⟩ := by
  obtain ⟨w', hrender, hbuilder⟩ := Operation.run_render w
  have hargs : Operation.args.run w' = .ok (.values (some w.builder.rendering.args)) w' := by
    rw [Operation.run_args, hbuilder]
    rfl
  constructor
  · rintro ⟨w₁, hrun, hanswer⟩
    rw [hrender] at hrun
    injection hrun with hreply hstate
    injection hreply with htext
    subst hstate
    rw [hargs] at hanswer
    injection hanswer with hvalues
    injection hvalues with hsome
    rw [← htext, ← Option.some.inj hsome]
  · intro h
    rw [h] at hrender hargs
    exact ⟨w', hrender, hargs⟩

open Placeholder Text in
/-- Both positional renderings say what the named statement says, and a builder whose driver binds
by position renders its text and parameters so. -/
theorem positional_renderings_agree (sql : String) (parameters : Table Value) :
    let found := boundPlaceholders sql parameters
    let numbers := placeholderNumbers sql parameters
    let question := convert sql parameters .questionMark
    let numeric := convert sql parameters .numeric
    (∀ o ∈ found, ∃ v, parameters.get? o.name = some v ∧ v ≠ .null) ∧
    (∀ news, InOrder sql.toList 0 (patches found news)) ∧
    MarkedInTurn sql parameters question ∧
    NumberedByFirstUse sql parameters numbers numeric ∧
    numbers.map (fun n => numeric.args[n - 1]?) = question.args.map some ∧
    (∀ write : Value → List Char,
      let values := found.map fun o => write (boundValue parameters o)
      question.args.map write = values ∧
        (numbers.map fun n => write ((numeric.args[n - 1]?).getD .null)) = values ∧
        Substitutes sql found (found.map fun _ => ['?']) values question.text.toList ∧
        Substitutes sql found (numbers.map numberMark) values numeric.text.toList) ∧
    ∀ w : Workbench, w.builder.text = sql → w.builder.params = parameters →
      w.builder.dialect.supportsNamedParameters = false →
        let r := convert sql parameters w.builder.dialect.positionalStyle
        ∃ w', Operation.render.run w = .ok (.text r.text) w' ∧
          Operation.args.run w' = .ok (.values (some r.args)) w' := by
  intro found numbers question numeric
  have hmarked := markedInTurn_convert sql parameters
  have hnumbered := numberedByFirstUse_convert sql parameters
  refine ⟨fun o ho => get?_of_mem_boundPlaceholders ho, inOrder_boundPlaceholders sql parameters,
    hmarked, hnumbered, map_args_placeholderNumbers sql parameters, ?_, ?_⟩
  · intro write values
    have hvalues : values.length = found.length := List.length_map _
    refine ⟨?_, ?_, ?_, ?_⟩
    · rw [args_convert_questionMark, List.map_map]
      rfl
    · have h := congrArg (List.map write) (map_numbered_args sql parameters)
      rwa [List.map_map, List.map_map] at h
    · refine substitutes_of_text_eq sql parameters ?_ (List.length_map _) hvalues
      rw [hmarked.text_eq, patches_map]
    · refine substitutes_of_text_eq sql parameters hnumbered.text_eq ?_ hvalues
      rw [List.length_map, hnumbered.length_eq]
  · rintro w rfl rfl hdialect r
    obtain ⟨w', hrun, hbuilder⟩ := Operation.run_render w
    rw [Builder.rendering_eq_convert hdialect] at hrun
    refine ⟨w', hrun, ?_⟩
    rw [Operation.run_args, hbuilder, Builder.render, Builder.rendering_eq_convert hdialect]

open Placeholder in
theorem positional_renderings_agree_of_repeated_name :
    let b : Builder :=
      { dialect := Database.postgreSql.dialect
        text := "a = :x AND b = :y OR c = :x OR d = ':x' OR e = :z"
        params := .ofList [("x", .int 1), ("y", .int 2), ("z", .null)] }
    let w : Workbench := { builder := b, controller := none, serial := 0 }
    b.dialect.supportsNamedParameters = false ∧
      ∃ w', Operation.render.run w =
          .ok (.text "a = $1 AND b = $2 OR c = $1 OR d = ':x' OR e = :z") w' ∧
        Operation.args.run w' = .ok (.values (some [.int 1, .int 2])) w' := by
  intro b w
  have hrun := (positional_renderings_agree b.text b.params).2.2.2.2.2.2 w rfl rfl rfl
  have htext : (convert b.text b.params .numeric).text =
      "a = $1 AND b = $2 OR c = $1 OR d = ':x' OR e = :z" := by decide +kernel
  have hargs : (convert b.text b.params .numeric).args = [.int 1, .int 2] := by
    have hnames : ((boundPlaceholders b.text b.params).map fun o => o.name.toList).eraseDups =
        [['x'], ['y']] := by decide +kernel
    rw [args_convert_numeric, hnames]
    rfl
  rw [← htext, ← hargs]
  exact ⟨rfl, hrun⟩

end ParamSql
