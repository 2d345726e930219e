import ParamSql.Proofs.ClosedText
import ParamSql.Proofs.JoinedRendering
import ParamSql.Proofs.LeadingText

/-!
# Appended text

What is appended to a statement does not change how the statement before it is read, when every
token that could begin there also ends there. Only a comment that the end of the line would end goes
on into what is appended. So the placeholders stay, each with its value and its number, and what was
rendered before is the beginning of what is rendered afterwards.
-/

namespace ParamSql
namespace Placeholder

open Text

/-- Lexemes of a text and of a longer one: the same ones and then others, or a token goes on into
the longer text. -/
inductive Prolongs : List Lexeme → List Lexeme → Prop
  | ended (ms : List Lexeme) : Prolongs [] ms
  | token (t u : List Char) (ms : List Lexeme) : Prolongs [.token t] (.token (t ++ u) :: ms)
  | cons (l : Lexeme) {ls ms : List Lexeme} : Prolongs ls ms → Prolongs (l :: ls) (l :: ms)

theorem le_start_of_mem_occurrences {offset : Nat} {ls : List Lexeme} {o : Occurrence}
    (ho : o ∈ occurrences offset ls) : offset ≤ o.start := by
  rw [← Nat.add_zero offset, occurrences_add] at ho
  obtain ⟨first, _, rfl⟩ := List.mem_map.mp ho
  exact Nat.le_add_right offset first.start

namespace Prolongs

variable {ls ms : List Lexeme}

theorem uses_prefix (h : Prolongs ls ms) : uses ls <+: uses ms := by
  induction h with
  | ended ms => exact List.nil_prefix
  | token t u ms => exact List.nil_prefix
  | @cons l ls ms _ ih =>
    rw [← List.singleton_append, ← @List.singleton_append _ l ms, uses_append, uses_append]
    exact (List.prefix_append_right_inj _).mpr ih

theorem marked_prefix (h : Prolongs ls ms) (mark : List Char → List Char) :
    marked mark ls <+: marked mark ms := by
  induction h with
  | ended ms => exact List.nil_prefix
  | token t u ms =>
    refine ⟨u ++ marked mark ms, ?_⟩
    simp [marked, Lexeme.chars]
  | cons l _ ih => exact (List.prefix_append_right_inj _).mpr ih

theorem chars_prefix (h : Prolongs ls ms) :
    ls.flatMap Lexeme.chars <+: ms.flatMap Lexeme.chars := by
  have hnames (ls : List Lexeme) : marked (':' :: ·) ls = ls.flatMap Lexeme.chars := by
    refine List.flatMap_congr fun l _ => ?_
    cases l <;> rfl
  rw [← hnames, ← hnames]
  exact h.marked_prefix _

/-- The placeholders stay, and those that come in stand behind all of the shorter text. -/
theorem occurrences_eq (h : Prolongs ls ms) (offset : Nat) :
    ∃ new, occurrences offset ms = occurrences offset ls ++ new ∧
      ∀ o ∈ new, offset + (ls.flatMap Lexeme.chars).length ≤ o.start := by
  induction h generalizing offset with
  | ended ms => exact ⟨_, rfl, fun o => le_start_of_mem_occurrences⟩
  | token t u ms =>
    refine ⟨occurrences (offset + (t ++ u).length) ms, rfl, fun o ho => ?_⟩
    have hle := le_start_of_mem_occurrences ho
    rw [List.length_append] at hle
    simp only [List.flatMap_singleton, Lexeme.chars]
    omega
  | @cons l ls ms _ ih =>
    obtain ⟨new, hnew, hle⟩ := ih (offset + l.size)
    refine ⟨new, ?_, fun o ho => ?_⟩
    · rw [occurrences_cons, occurrences_cons, hnew, List.append_assoc]
    · have hstart := hle o ho
      rwa [List.flatMap_cons, List.length_append, ← Nat.add_assoc]

/-- The rendering goes on where it ended, with other arguments after the same ones: the names that
come in are counted on. -/
theorem ofLexemes_eq (h : Prolongs ls ms) (parameters : Table Value) (style : MarkerStyle) :
    ∃ more args, Rendering.ofLexemes parameters style ms =
      ⟨(Rendering.ofLexemes parameters style ls).text ++ more,
        (Rendering.ofLexemes parameters style ls).args ++ args⟩ := by
  have hmarked (mark : List Char → List Char) : ∃ more,
      String.ofList (marked mark ms) = String.ofList (marked mark ls) ++ more := by
    obtain ⟨more, hmore⟩ := h.marked_prefix mark
    exact ⟨.ofList more, by rw [← hmore, String.ofList_append]⟩
  obtain ⟨later, huses⟩ := h.uses_prefix
  cases style with
  | namedColon =>
    obtain ⟨more, hmore⟩ := h.chars_prefix
    refine ⟨.ofList more, [], ?_⟩
    rw [Rendering.ofLexemes, ← hmore, String.ofList_append]
    rfl
  | questionMark =>
    obtain ⟨more, hmore⟩ := hmarked fun _ => ['?']
    refine ⟨more, later.map (valueOf parameters), ?_⟩
    simp only [Rendering.ofLexemes, hmore, ← huses, List.map_append]
  | numeric =>
    obtain ⟨more, hmore⟩ := hmarked (numericMarker (firstUses ms))
    have hfirst : firstUses ms = firstUses ls ++ (later.removeAll (uses ls)).eraseDups := by
      rw [firstUses, ← huses, List.eraseDups_append, firstUses]
    have hsame : marked (numericMarker (firstUses ms)) ls =
        marked (numericMarker (firstUses ls)) ls := by
      refine marked_congr fun name hname => ?_
      rw [numericMarker, numericMarker, hfirst, numberOf_append_left _ (mem_firstUses.mpr hname)]
    rw [hsame] at hmore
    refine ⟨more, ((later.removeAll (uses ls)).eraseDups).map (valueOf parameters), ?_⟩
    rw [Rendering.ofLexemes, hmore, Rendering.ofLexemes, ← List.map_append, ← hfirst]

end Prolongs

/-- A stop at which nothing begins that the text does not end, comments up to the end of the line
apart. -/
def Stop.isCompleted (s : Stop) : Bool := !s.beginsToken || (tokenTail? s.first s.rest).isSome

theorem Stop.isSettled_eq (s : Stop) :
    s.isSettled = (s.isCompleted && !s.beginsLineComment) := rfl

theorem Lexeme.next_of_tokenTail? {sought : Sought} {before : Option Char} {first : Char}
    {rest : List Char} {n : Nat} (h : tokenTail? first rest = some n) :
    next sought before first rest = .token (first :: rest.take n) := by
  rw [next, h]

/-- A comment up to the end of the line stays when the line ends within the text, and goes on when
it does not. -/
theorem lineComment_appended (sought : Sought) (before : Option Char) (body more : List Char) :
    Lexeme.next sought before '-' ('-' :: body ++ more) =
        Lexeme.next sought before '-' ('-' :: body) ∨
      Lexeme.next sought before '-' ('-' :: body) = .token ('-' :: '-' :: body) ∧
        ∃ u, Lexeme.next sought before '-' ('-' :: body ++ more) =
          .token ('-' :: '-' :: body ++ u) := by
  let inLine (c : Char) : Bool := c != '\r' && c != '\n'
  have hcomment (text : List Char) : Lexeme.next sought before '-' ('-' :: text) =
      .token ('-' :: '-' :: text.takeWhile inLine) := by
    have htail : tokenTail? '-' ('-' :: text) = some (1 + (text.takeWhile inLine).length) := rfl
    have htake := List.prefix_iff_eq_take.mp (List.takeWhile_prefix inLine (l := text))
    rw [Lexeme.next_of_tokenTail? htail, Nat.add_comm, List.take_succ_cons, ← htake]
  rw [List.cons_append, hcomment, hcomment, List.takeWhile_append]
  split_ifs with hline
  · have hall : body.takeWhile inLine = body := (List.takeWhile_prefix inLine).eq_of_length hline
    rw [hall]
    exact .inr ⟨rfl, more.takeWhile inLine, rfl⟩
  · exact .inl rfl

section Appended

variable {names : List (List Char)} {more : List Char}
variable (hnames : ∀ name ∈ names, ∀ c ∈ name, isNameChar c = true) (hmore : Divides more)

include hnames hmore

/-- What is read at a completed stop stays when more text follows, or it is a token that takes up
all of the text and goes on. -/
theorem lexeme_appended {s : Stop} (hs : s.isCompleted = true) :
    Lexeme.next (.among names) s.read.getLast? s.first (s.rest ++ more) =
        s.lexeme (.among names) ∨
      s.lexeme (.among names) = .token (s.first :: s.rest) ∧
        ∃ u, Lexeme.next (.among names) s.read.getLast? s.first (s.rest ++ more) =
          .token (s.first :: s.rest ++ u) := by
  cases hcomment : s.beginsLineComment with
  | true =>
    obtain ⟨read, first, rest⟩ := s
    obtain ⟨hfirst, hhead⟩ := Bool.and_eq_true_iff.mp hcomment
    obtain rfl : first = '-' := by simpa using hfirst
    obtain ⟨body, rfl⟩ : ∃ body, rest = '-' :: body := by
      simpa [List.head?_eq_some_iff] using hhead
    exact lineComment_appended (.among names) read.getLast? body more
  | false =>
    left
    have hsettled : s.isSettled = true := by rw [Stop.isSettled_eq, hs, hcomment]; rfl
    have hsame : Extends names names s.text :=
      ⟨fun _ h => h, hnames, fun _ hname hnot => absurd hname hnot⟩
    exact lexeme_eq_of_extends hsame hsettled hmore

/-- The lexemes of a text whose stops are completed are prolonged by those of a longer text. -/
theorem prolongs_lexemes {read text : List Char}
    (hcompleted : ∀ s ∈ stops (.among names) read text, s.isCompleted = true) :
    Prolongs (lexemes (.among names) read.getLast? text)
      (lexemes (.among names) read.getLast? (text ++ more)) := by
  fun_induction stops (.among names) read text with
  | case1 read =>
    rw [lexemes_nil]
    exact .ended _
  | case2 read first rest l ih =>
    have hlast : (read ++ l.chars).getLast? = l.chars.getLast? := getLast?_append_chars _ _ _ _
    have hrest := ih fun s hs => hcompleted s (List.mem_cons_of_mem _ hs)
    rw [hlast] at hrest
    rw [lexemes_cons, List.cons_append, lexemes_cons]
    change Prolongs (l :: lexemes (.among names) l.chars.getLast? (rest.drop (l.size - 1))) _
    obtain hsame | ⟨htoken, u, hlonger⟩ :=
      lexeme_appended hnames hmore (hcompleted ⟨read, first, rest⟩ List.mem_cons_self)
    · -- The same lexeme is read, and leaves the rest of the text with what follows it.
      have hlexeme : Lexeme.next (.among names) read.getLast? first (rest ++ more) = l := hsame
      have hsize : l.size - 1 ≤ rest.length := by
        obtain ⟨n, hchars⟩ := Lexeme.chars_next (.among names) read.getLast? first rest
        rw [Lexeme.size, hchars, List.length_cons, Nat.add_sub_cancel, List.length_take]
        exact Nat.min_le_right _ _
      rw [hlexeme, List.drop_append_of_le_length hsize]
      exact hrest.cons l
    · have htoken : l = .token (first :: rest) := htoken
      have hlonger : Lexeme.next (.among names) read.getLast? first (rest ++ more) =
          .token (first :: rest ++ u) := hlonger
      rw [hlonger, htoken]
      have hnone : rest.drop ((Lexeme.token (first :: rest)).size - 1) = [] := by
        simp [Lexeme.size, Lexeme.chars]
      rw [hnone, lexemes_nil]
      exact .token _ u _

end Appended

end Placeholder

open Placeholder

section Appended

variable {b : Builder} (fragment : String)
variable (hkeys : ∀ key ∈ boundNames b.params, ∀ c ∈ key.toList, isNameChar c = true)
variable (hcompleted : ∀ s ∈ stops (.ofNames (boundNames b.params)) [] b.text.toList,
  s.isCompleted = true)

include hkeys hcompleted

theorem prolongs_boundLexemes_add :
    Prolongs (boundLexemes b.text b.params) (boundLexemes (b.add fragment).text b.params) := by
  have hnames : ∀ name ∈ (boundNames b.params).map String.toList, ∀ c ∈ name,
      isNameChar c = true := by
    intro name hname
    obtain ⟨key, hkey, rfl⟩ := List.mem_map.mp hname
    exact hkeys key hkey
  have hmore : Divides (" " ++ fragment).toList := by
    intro c hc
    obtain rfl : ' ' = c := by simpa using hc
    exact .inl rfl
  have h := prolongs_lexemes hnames hmore hcompleted
  rw [← String.toList_append] at h
  exact h

theorem rendering_add : ∃ more args, (b.add fragment).rendering =
    ⟨b.rendering.text ++ more, b.rendering.args ++ args⟩ := by
  have hconverts : (b.add fragment).convertsPlaceholders = b.convertsPlaceholders := rfl
  rw [Builder.rendering, Builder.rendering, hconverts]
  split
  · exact (prolongs_boundLexemes_add fragment hkeys hcompleted).ofLexemes_eq b.params _
  · exact ⟨" " ++ fragment, [], rfl⟩

theorem boundPlaceholders_add : ∃ new, boundPlaceholders (b.add fragment).text b.params =
    boundPlaceholders b.text b.params ++ new ∧ ∀ o ∈ new, b.text.length ≤ o.start := by
  obtain ⟨new, hnew, hstart⟩ :=
    (prolongs_boundLexemes_add fragment hkeys hcompleted).occurrences_eq 0
  refine ⟨new, hnew, fun o ho => ?_⟩
  have hle := hstart o ho
  rwa [boundLexemes, flatMap_chars_lexemes, String.length_toList, Nat.zero_add] at hle

end Appended

/-- Appending a fragment, whatever it holds, leaves alone what was rendered before: the text and the
arguments go on where they ended, and placeholders come in behind the text only. That holds of a
text that ends what begins in it, comments up to the end of the line apart. -/
theorem appended_fragment_leaves_rendering (w : Workbench) (fragment : String)
    (hkeys : ∀ key ∈ boundNames w.builder.params, ∀ c ∈ key.toList, isNameChar c = true)
    (hcompleted : ∀ s ∈ stops (.ofNames (boundNames w.builder.params)) [] w.builder.text.toList,
      s.isCompleted = true) :
    ∃ text args more moreArgs w', RendersTo w text args ∧
      Operation.run (.add fragment) w = .ok .itself w' ∧
      w'.builder.text = w.builder.text ++ (" " ++ fragment) ∧
      RendersTo w' (text ++ more) (args ++ moreArgs) ∧
      ∃ new, boundPlaceholders w'.builder.text w'.builder.params =
          boundPlaceholders w.builder.text w.builder.params ++ new ∧
        ∀ o ∈ new, w.builder.text.length ≤ o.start := by
  obtain ⟨more, moreArgs, hrendering⟩ := rendering_add fragment hkeys hcompleted
  let w' : Workbench := { w with builder := w.builder.add fragment }
  have hafter : RendersTo w' (w.builder.rendering.text ++ more)
      (w.builder.rendering.args ++ moreArgs) := rendersTo_iff.mpr hrendering
  exact ⟨_, _, more, moreArgs, w', rendersTo_iff.mpr rfl, rfl, rfl, hafter,
    boundPlaceholders_add fragment hkeys hcompleted⟩

/-- A comment at the end takes in the fragment, up to the end of its line, and a quote that is not
closed does no harm. -/
theorem appended_fragment_leaves_rendering_of_comment :
    let b : Builder :=
      { dialect := Database.postgreSql.dialect
        text := "a = :x AND b = ':y' -- :y"
        params := .ofList [("x", .int 1), ("y", .int 2)] }
    let w : Workbench := { builder := b, controller := none, serial := 0 }
    let fragment := ":x\nOR c = :y AND d = ' :x"
    ∃ text args more moreArgs w', RendersTo w text args ∧ text = "a = $1 AND b = ':y' -- :y" ∧
      Operation.run (.add fragment) w = .ok .itself w' ∧
      RendersTo w' (text ++ more) (args ++ moreArgs) ∧
      text ++ more = "a = $1 AND b = ':y' -- :y :x\nOR c = $2 AND d = ' $1" := by
  intro b w fragment
  have hstops : (stops (.ofNames (boundNames b.params)) [] b.text.toList).all Stop.isCompleted =
      true := by decide +kernel
  have htext : (convert b.text b.params .numeric).text = "a = $1 AND b = ':y' -- :y" := by
    decide +kernel
  have hlonger : (convert (b.add fragment).text b.params .numeric).text =
      "a = $1 AND b = ':y' -- :y :x\nOR c = $2 AND d = ' $1" := by decide +kernel
  have hkeys : ∀ key ∈ boundNames b.params, ∀ c ∈ key.toList, isNameChar c = true := by
    intro key hkey
    have hnames : boundNames b.params = ["x", "y"] := rfl
    obtain rfl | rfl : key = "x" ∨ key = "y" := by simpa [hnames] using hkey
    · exact List.all_eq_true.mp (by decide)
    · exact List.all_eq_true.mp (by decide)
  obtain ⟨text, args, more, moreArgs, w', hbefore, hrun, -, hafter, -⟩ :=
    appended_fragment_leaves_rendering w fragment hkeys (List.all_eq_true.mp hstops)
  refine ⟨text, args, more, moreArgs, w', hbefore, ?_, hrun, hafter, ?_⟩
  · have hrendering := rendersTo_iff.mp hbefore
    rw [Builder.rendering_eq_convert rfl] at hrendering
    rw [← htext]
    exact (congrArg Rendering.text hrendering).symm
  · have hrendering := rendersTo_iff.mp hafter
    obtain rfl : { w with builder := b.add fragment } = w' := by
      injection hrun
    rw [Builder.rendering_eq_convert rfl] at hrendering
    rw [← hlonger]
    exact (congrArg Rendering.text hrendering).symm

end ParamSql
