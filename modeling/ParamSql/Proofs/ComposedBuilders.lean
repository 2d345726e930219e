import ParamSql.Proofs.ClosedText
import ParamSql.Proofs.JoinedRendering

/-!
# Composed builders

A subquery or a filter brings its text and its parameters into a statement. When both texts are
closed and neither names a parameter of the other, the composed statement is rendered as the two
are: its arguments are those of the one followed by those of the other, and the numbers of the
second are counted on from the first.
-/

namespace ParamSql

open Placeholder

namespace Builder

/-- Whether the scan for the bound names leaves nothing open in the text. -/
def isClosed (b : Builder) : Bool :=
  (stops (.ofNames (boundNames b.params)) [] b.text.toList).all Stop.isSettled

/-- A builder whose text is read in the same way beside that of the other builder. -/
structure ReadsAlone (b other : Builder) : Prop where
  closed : b.isClosed = true
  keys : ∀ key ∈ boundNames b.params, ∀ c ∈ key.toList, isNameChar c = true
  foreign : ∀ key ∈ boundNames other.params, key ≠ "" → ¬ (':' :: key.toList) <:+: b.text.toList

/-- Two builders for one database that can be composed, the second brought in by the first. -/
structure Composable (db : Database) (b query : Builder) : Prop where
  dialect_eq : b.dialect = db.dialect
  query_dialect_eq : query.dialect = db.dialect
  alone : b.ReadsAlone query
  query_alone : query.ReadsAlone b
  disjoint : ∀ key ∈ query.params, key ∉ b.params
  glue_head : b.context.glue.toList.head? = some ' '
  glue_last : b.context.glue.toList.getLast? = some ' '
  glue_idle : ∀ c ∈ b.context.glue.toList, isIdle c = true
  operator_idle : ∀ c ∈ b.context.operator.toList, isIdle c = true

section Alone

variable {b other : Builder} {merged : Table Value}

theorem ReadsAlone.extends (h : b.ReadsAlone other) (hother : other.ReadsAlone b)
    (hmerged : ∀ name, name ∈ boundNames merged ↔
      name ∈ boundNames b.params ∨ name ∈ boundNames other.params) :
    Extends ((boundNames b.params).map String.toList) ((boundNames merged).map String.toList)
      b.text.toList := by
  constructor
  · intro name hname
    obtain ⟨key, hkey, rfl⟩ := List.mem_map.mp hname
    exact List.mem_map_of_mem ((hmerged key).mpr (Or.inl hkey))
  · intro name hname
    obtain ⟨key, hkey, rfl⟩ := List.mem_map.mp hname
    rcases (hmerged key).mp hkey with hown | hnew
    · exact h.keys key hown
    · exact hother.keys key hnew
  · intro name hname hforeign hne
    obtain ⟨key, hkey, rfl⟩ := List.mem_map.mp hname
    rcases (hmerged key).mp hkey with hown | hnew
    · exact absurd (List.mem_map_of_mem hown) hforeign
    · apply h.foreign key hnew
      rintro rfl
      exact hne rfl

theorem ReadsAlone.scans (h : b.ReadsAlone other) (hother : other.ReadsAlone b)
    (hmerged : ∀ name, name ∈ boundNames merged ↔
      name ∈ boundNames b.params ∨ name ∈ boundNames other.params)
    {before : Option Char} (hbefore : opens before = true) {more : List Char}
    (hmore : Divides more) :
    Scans (.ofNames (boundNames merged)) before b.text.toList more
      (boundLexemes b.text b.params) := by
  have hsettled : ∀ s ∈ stops (.ofNames (boundNames b.params)) [] b.text.toList,
      s.isSettled = true := List.all_eq_true.mp h.closed
  have hscan := @scans_of_settled _ _ [] _ _ (h.extends hother hmerged) hmore hsettled
  exact hscan.of_opens_eq (by rw [hbefore]; rfl)

theorem get?_of_mem_uses {sql : String} {parameters : Table Value} {name : List Char}
    (h : name ∈ uses (boundLexemes sql parameters)) :
    ∃ v, parameters.get? (String.ofList name) = some v := by
  rw [uses_boundLexemes] at h
  obtain ⟨o, ho, rfl⟩ := List.mem_map.mp h
  obtain ⟨v, hv, _⟩ := get?_of_mem_boundPlaceholders ho
  exact ⟨v, by rwa [String.ofList_toList]⟩

end Alone

section Convert

variable {db : Database} {b query : Builder}

theorem Composable.boundNames_merge (h : Composable db b query) (name : String) :
    name ∈ boundNames (b.params.merge query.params) ↔
      name ∈ boundNames b.params ∨ name ∈ boundNames query.params := by
  rw [boundNames_merge_of_disjoint h.disjoint, List.mem_append]

theorem Composable.not_mem_uses (h : Composable db b query) {name : List Char}
    (hname : name ∈ uses (boundLexemes query.text query.params)) :
    name ∉ uses (boundLexemes b.text b.params) := by
  intro hown
  obtain ⟨v, hv⟩ := get?_of_mem_uses hown
  obtain ⟨v', hv'⟩ := get?_of_mem_uses hname
  have hmem : String.ofList name ∈ b.params := Table.mem_of_get? hv
  have hmem' : String.ofList name ∈ query.params := Table.mem_of_get? hv'
  exact h.disjoint _ hmem' hmem

theorem Composable.valueOf_own (h : Composable db b query) {name : List Char}
    (hname : name ∈ uses (boundLexemes b.text b.params)) :
    valueOf (b.params.merge query.params) name = valueOf b.params name := by
  obtain ⟨v, hv⟩ := get?_of_mem_uses hname
  have hmerged := (Table.get?_merge_of_disjoint h.disjoint).mpr (Or.inl hv)
  rw [valueOf, valueOf, hv, hmerged]

theorem Composable.valueOf_query (h : Composable db b query) {name : List Char}
    (hname : name ∈ uses (boundLexemes query.text query.params)) :
    valueOf (b.params.merge query.params) name = valueOf query.params name := by
  obtain ⟨v, hv⟩ := get?_of_mem_uses hname
  have hmerged := (Table.get?_merge_of_disjoint h.disjoint).mpr (Or.inr hv)
  rw [valueOf, valueOf, hv, hmerged]

def continued (query : Builder) (count : Nat) : String :=
  match query.dialect.positionalStyle with
  | .numeric => numberedAfter count query.text query.params
  | _ => query.rendering.text

theorem Composable.rendering_eq (h : Composable db b query) (hdb : db ≠ .sqlite) :
    b.rendering = convert b.text b.params db.dialect.positionalStyle ∧
      query.rendering = convert query.text query.params db.dialect.positionalStyle := by
  have hpositional := (Database.positional hdb).1
  constructor
  · rw [rendering_eq_convert (by rw [h.dialect_eq, hpositional]), h.dialect_eq]
  · rw [rendering_eq_convert (by rw [h.query_dialect_eq, hpositional]), h.query_dialect_eq]

/-- A statement read as the one, some text without placeholders, the other and some more text. -/
theorem Composable.convert_eq (h : Composable db b query) (hdb : db ≠ .sqlite) {sql : String}
    {gap tail : List Lexeme} (hgap : uses gap = []) (htail : uses tail = [])
    (hlexemes : boundLexemes sql (b.params.merge query.params) =
      boundLexemes b.text b.params ++ (gap ++ (boundLexemes query.text query.params ++ tail))) :
    convert sql (b.params.merge query.params) db.dialect.positionalStyle =
      ⟨b.rendering.text ++ String.ofList (gap.flatMap Lexeme.chars) ++
          query.continued b.rendering.args.length ++ String.ofList (tail.flatMap Lexeme.chars),
        b.rendering.args ++ query.rendering.args⟩ := by
  obtain ⟨hown, hquery⟩ := h.rendering_eq hdb
  have hvalue : ∀ name ∈ uses (boundLexemes b.text b.params),
      valueOf (b.params.merge query.params) name = valueOf b.params name :=
    fun name hname => h.valueOf_own hname
  have hvalue' : ∀ name ∈ uses (boundLexemes query.text query.params),
      valueOf (b.params.merge query.params) name = valueOf query.params name :=
    fun name hname => h.valueOf_query hname
  have hread : convert sql (b.params.merge query.params) db.dialect.positionalStyle =
      .ofLexemes (b.params.merge query.params) db.dialect.positionalStyle
        (boundLexemes b.text b.params ++
          (gap ++ (boundLexemes query.text query.params ++ tail))) := by
    rw [← hlexemes]
    rfl
  unfold continued
  rw [h.query_dialect_eq, hread, hown, hquery]
  cases db with
  | mySql => exact ofLexemes_join_questionMark hgap htail hvalue hvalue'
  | sqlite => exact absurd rfl hdb
  | postgreSql =>
    have hjoin := ofLexemes_join_numeric hgap htail (fun name hname => h.not_mem_uses hname) hvalue
      hvalue'
    have hcount : (convert b.text b.params .numeric).args.length =
        (firstUses (boundLexemes b.text b.params)).length := List.length_map _
    change Rendering.ofLexemes _ .numeric _ = ⟨_ ++ _ ++ numberedAfter
      (convert b.text b.params .numeric).args.length query.text query.params ++ _, _⟩
    rw [hcount, numberedAfter_eq_marked]
    exact hjoin

/-- The second statement behind glue, and before text in which no token begins. -/
theorem Composable.convert_composed (h : Composable db b query) (hdb : db ≠ .sqlite)
    {glue tail : String} (hhead : glue.toList.head? = some ' ')
    (hglue : ∀ sought before rest, Passes sought before glue.toList rest)
    (hopens : ∀ before, opens (glue.toList.getLast?.or before) = true)
    (htail : ∀ c ∈ tail.toList, isIdle c = true) (hdivides : Divides tail.toList) :
    convert (b.text ++ glue ++ query.text ++ tail) (b.params.merge query.params)
        db.dialect.positionalStyle =
      ⟨b.rendering.text ++ glue ++ query.continued b.rendering.args.length ++ tail,
        b.rendering.args ++ query.rendering.args⟩ := by
  let sought : Sought := .ofNames (boundNames (b.params.merge query.params))
  have hmerged := h.boundNames_merge
  have hgap : Divides ((glue.toList ++ (query.text.toList ++ tail.toList)) ++ []) := by
    intro c hc
    rw [List.append_nil, List.head?_append, hhead, Option.some_or] at hc
    exact Or.inl (Option.some.inj hc).symm
  have hown : Scans sought none b.text.toList _ _ := h.alone.scans h.query_alone hmerged rfl hgap
  obtain ⟨gap, hgapUses, hgapScan⟩ := hglue sought (b.text.toList.getLast?.or none)
    ((query.text.toList ++ tail.toList) ++ [])
  have hquery : Scans sought _ query.text.toList (tail.toList ++ []) _ :=
    h.query_alone.scans h.alone (fun name => (hmerged name).trans or_comm)
      (hopens (b.text.toList.getLast?.or none)) (by rwa [List.append_nil])
  obtain ⟨ends, hendsUses, hendsScan⟩ := @Passes.idle sought
    (query.text.toList.getLast?.or (glue.toList.getLast?.or (b.text.toList.getLast?.or none))) []
    tail.toList htail
  -- No lexeme reaches over one of the three seams.
  have hall := hown.append (hgapScan.append (hquery.append hendsScan))
  have hlexemes : boundLexemes (b.text ++ glue ++ query.text ++ tail)
      (b.params.merge query.params) =
        boundLexemes b.text b.params ++
          (gap ++ (boundLexemes query.text query.params ++ ends)) := by
    unfold Scans at hall
    rw [List.append_nil, lexemes_nil, List.append_nil] at hall
    simpa only [boundLexemes, String.toList_append, List.append_assoc] using hall
  have hconvert := h.convert_eq hdb hgapUses hendsUses hlexemes
  rwa [hgapScan.flatMap_chars, hendsScan.flatMap_chars, String.ofList_toList,
    String.ofList_toList] at hconvert

theorem boundLexemes_of_empty (h : query.text = "") :
    boundLexemes query.text query.params = [] := by
  rw [h]
  exact lexemes_nil _ _

theorem continued_of_empty (h : query.text = "") (count : Nat) : query.continued count = "" := by
  have hlexemes := boundLexemes_of_empty h
  have hnone : boundPlaceholders query.text query.params = [] := by
    unfold boundPlaceholders findAll
    unfold boundLexemes at hlexemes
    rw [hlexemes]
    rfl
  unfold continued
  split
  · rw [numberedAfter_eq_marked, hlexemes]
    rfl
  · unfold rendering
    split
    · rw [convert_of_boundPlaceholders_eq_nil hnone, h]
    · exact h

theorem Composable.convert_empty (h : Composable db b query) (hdb : db ≠ .sqlite)
    (hempty : query.text = "") :
    convert b.text (b.params.merge query.params) db.dialect.positionalStyle =
      ⟨b.rendering.text, b.rendering.args ++ query.rendering.args⟩ := by
  have hnone : ∀ c ∈ ([] : List Char).head?, c = ' ' ∨ c = ')' := fun c hc => by simp at hc
  have hown : Scans _ none b.text.toList [] _ :=
    h.alone.scans h.query_alone h.boundNames_merge rfl hnone
  have hquery : boundLexemes query.text query.params = [] := boundLexemes_of_empty hempty
  have hlexemes : boundLexemes b.text (b.params.merge query.params) =
      boundLexemes b.text b.params ++ ([] ++ (boundLexemes query.text query.params ++ [])) := by
    unfold Scans at hown
    rw [List.append_nil, lexemes_nil] at hown
    rw [hquery]
    exact hown
  have hconvert := h.convert_eq hdb rfl rfl hlexemes
  simpa [continued_of_empty hempty] using hconvert

/-- What stands between a statement and its subquery. -/
def subQueryGlue (b : Builder) (column : String) : String :=
  b.context.glue ++ b.quote column ++ Operator.beforeList b.context.operator ++ "("

theorem Composable.convert_subQuery (h : Composable db b query) (hdb : db ≠ .sqlite)
    {column : String} (hcolumn : '\\' ∉ column.toList) :
    convert (b.addSubQuery query column).text (b.addSubQuery query column).params
        db.dialect.positionalStyle =
      ⟨b.rendering.text ++ b.subQueryGlue column ++ query.continued b.rendering.args.length ++ ")",
        b.rendering.args ++ query.rendering.args⟩ := by
  have hchars : (b.subQueryGlue column).toList = b.context.glue.toList ++
      (db.dialect.quoteChars column.toList ++
        ((Operator.beforeList b.context.operator).toList ++ ['('])) := by
    simp [subQueryGlue, quote, Dialect.quote, h.dialect_eq]
  have htext : (b.addSubQuery query column).text =
      b.text ++ b.subQueryGlue column ++ query.text ++ ")" := by
    change b.text ++ _ = _
    simp only [subQueryGlue, String.append_assoc]
  rw [htext]
  apply h.convert_composed hdb
  · rw [hchars, List.head?_append, h.glue_head, Option.some_or]
  · intro sought before rest
    rw [hchars]
    apply Passes.append
    · exact Passes.idle h.glue_idle
    apply Passes.append
    · exact passes_quoteChars db hcolumn
    apply Passes.append
    · exact Passes.idle (isIdle_of_mem_beforeList h.operator_idle)
    · exact Passes.idle (List.all_eq_true.mp (by decide))
  · intro before
    rw [hchars, ← List.append_assoc, ← List.append_assoc, List.getLast?_concat, Option.some_or]
    decide
  · exact List.all_eq_true.mp (by decide)
  · intro c hc
    exact Or.inr (by simpa using hc.symm)

theorem Composable.convert_filter (h : Composable db b query) (hdb : db ≠ .sqlite) :
    convert (b.applyFilter query).text (b.applyFilter query).params db.dialect.positionalStyle =
      ⟨b.rendering.text ++ (if query.text = "" then "" else
          b.context.glue ++ query.continued b.rendering.args.length),
        b.rendering.args ++ query.rendering.args⟩ := by
  by_cases hempty : query.text = ""
  · have htext : (b.applyFilter query).text = b.text := by
      rw [applyFilter, if_pos hempty]
      rfl
    rw [htext, if_pos hempty, String.append_empty]
    have hparams : (b.applyFilter query).params = b.params.merge query.params := by
      rw [applyFilter, if_pos hempty]
      rfl
    rw [hparams]
    exact h.convert_empty hdb hempty
  · have htext : (b.applyFilter query).text = b.text ++ b.context.glue ++ query.text ++ "" := by
      rw [applyFilter, if_neg hempty, String.append_empty, String.append_assoc]
      rfl
    have hparams : (b.applyFilter query).params = b.params.merge query.params := by
      rw [applyFilter, if_neg hempty]
      rfl
    rw [htext, hparams, if_neg hempty, ← String.append_assoc]
    rw [← String.append_empty (s := b.rendering.text ++ b.context.glue ++ _)]
    apply h.convert_composed hdb h.glue_head
    · intro sought before rest
      exact Passes.idle h.glue_idle
    · intro before
      rw [h.glue_last, Option.some_or]
      decide
    · intro c hc
      simp at hc
    · intro c hc
      simp at hc

end Convert
end Builder

/-- A statement composed with a subquery or a filter is rendered as the two are, one after the
other, and with numbered markers those of the second are counted on. -/
theorem composed_builders_render_in_turn (db : Database) (hdb : db ≠ .sqlite) (w v : Workbench)
    (h : Builder.Composable db w.builder v.builder) {text queryText : String}
    {args queryArgs : List Value} (hw : RendersTo w text args)
    (hv : RendersTo v queryText queryArgs) :
    let rest := match db with
      | .postgreSql => numberedAfter args.length v.builder.text v.builder.params
      | _ => queryText
    (db = .postgreSql → numberedAfter 0 v.builder.text v.builder.params = queryText) ∧
    (∀ column : String, '\\' ∉ column.toList →
      ∃ w', Request.run (.addSubQuery v.builder column) w = .ok .itself w' ∧
        RendersTo w' (text ++ w.builder.subQueryGlue column ++ rest ++ ")") (args ++ queryArgs)) ∧
    ∃ w', Request.run (.applyFilter (some v.builder)) w = .ok .itself w' ∧
      RendersTo w' (text ++ if v.builder.text = "" then "" else w.builder.context.glue ++ rest)
        (args ++ queryArgs) := by
  intro rest
  rw [rendersTo_iff] at hw hv
  have hcontinued : v.builder.continued args.length = rest := by
    unfold Builder.continued
    rw [h.query_dialect_eq, hv]
    cases db with
    | mySql => rfl
    | postgreSql => rfl
    | sqlite => exact absurd rfl hdb
  have hpositional := (Database.positional hdb).1
  refine ⟨?_, ?_, ?_⟩
  · rintro rfl
    rw [numberedAfter_zero]
    have hquery := (h.rendering_eq hdb).2
    rw [hv] at hquery
    exact congrArg Rendering.text hquery.symm
  · intro column hcolumn
    refine ⟨{ w with builder := w.builder.addSubQuery v.builder column }, rfl, ?_⟩
    have hdialect : (w.builder.addSubQuery v.builder column).dialect = db.dialect := h.dialect_eq
    rw [rendersTo_iff, Builder.rendering_eq_convert (by rw [hdialect, hpositional]), hdialect,
      h.convert_subQuery hdb hcolumn, hw, hv, hcontinued]
  · refine ⟨{ w with builder := w.builder.applyFilter v.builder }, rfl, ?_⟩
    have hdialect : (w.builder.applyFilter v.builder).dialect = db.dialect := by
      rw [← h.dialect_eq, Builder.applyFilter]
      split <;> rfl
    rw [rendersTo_iff, Builder.rendering_eq_convert (by rw [hdialect, hpositional]), hdialect,
      h.convert_filter hdb, hw, hv, hcontinued]

theorem composed_builders_render_in_turn_of_numbered :
    let b : Builder :=
      { dialect := Database.postgreSql.dialect, text := "SELECT * FROM a WHERE x = :x"
        params := .ofList [("x", .int 1)], context := ⟨" AND ", "=", true⟩ }
    let query : Builder :=
      { dialect := Database.postgreSql.dialect, text := "SELECT id FROM c WHERE y = :y OR z = :y"
        params := .ofList [("y", .int 2)] }
    let w : Workbench := { builder := b, controller := none, serial := 0 }
    Builder.Composable .postgreSql b query ∧
      ∃ w', Request.run (.addSubQuery query "i:d") w = .ok .itself w' ∧
        RendersTo w' ("SELECT * FROM a WHERE x = $1 AND " ++
          "\"i:d\" IN (SELECT id FROM c WHERE y = $2 OR z = $2)") [.int 1, .int 2] := by
  intro b query w
  let v : Workbench := { builder := query, controller := none, serial := 0 }
  have halone : b.ReadsAlone query := by
    refine ⟨by decide +kernel, ?_, by decide⟩
    intro key hkey
    obtain rfl : key = "x" := by simpa [b, show boundNames b.params = ["x"] from rfl] using hkey
    exact List.all_eq_true.mp (by decide)
  have hqueryAlone : query.ReadsAlone b := by
    refine ⟨by decide +kernel, ?_, by decide⟩
    intro key hkey
    obtain rfl : key = "y" := by simpa [show boundNames query.params = ["y"] from rfl] using hkey
    exact List.all_eq_true.mp (by decide)
  have hcomposable : Builder.Composable .postgreSql b query := by
    refine ⟨rfl, rfl, halone, hqueryAlone, ?_, by decide, by decide, ?_, ?_⟩
    · intro key hkey
      obtain rfl : key = "y" := by simpa [query] using hkey
      decide
    · exact List.all_eq_true.mp (by decide)
    · exact List.all_eq_true.mp (by decide)
  have hrendering : b.rendering = ⟨"SELECT * FROM a WHERE x = $1", [.int 1]⟩ := by
    have hnames : firstUses (boundLexemes b.text b.params) = [['x']] := by decide +kernel
    exact congrArg₂ Rendering.mk (by decide +kernel) (congrArg (List.map (valueOf b.params)) hnames)
  have hqueryRendering :
      query.rendering = ⟨"SELECT id FROM c WHERE y = $1 OR z = $1", [.int 2]⟩ := by
    have hnames : firstUses (boundLexemes query.text query.params) = [['y']] := by decide +kernel
    exact congrArg₂ Rendering.mk (by decide +kernel)
      (congrArg (List.map (valueOf query.params)) hnames)
  have hw := (@rendersTo_iff w _ _).mpr hrendering
  have hv := (@rendersTo_iff v _ _).mpr hqueryRendering
  have hcomposed :=
    (composed_builders_render_in_turn .postgreSql (by decide) w v hcomposable hw hv).2.1 "i:d"
      (by decide)
  have htext : "SELECT * FROM a WHERE x = $1" ++ w.builder.subQueryGlue "i:d" ++
      numberedAfter 1 v.builder.text v.builder.params ++ ")" =
        "SELECT * FROM a WHERE x = $1 AND " ++
          "\"i:d\" IN (SELECT id FROM c WHERE y = $2 OR z = $2)" := by
    decide +kernel
  refine ⟨hcomposable, ?_⟩
  rw [← htext]
  exact hcomposed

end ParamSql
