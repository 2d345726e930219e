import ParamSql.Proofs.ClosedText
import ParamSql.Proofs.LeadingText

/-!
# Given names and identifiers

When no names are given, the scan takes every identifier behind a colon for a placeholder. When the
given names are identifiers themselves, it finds the same placeholders, those of other names left
out and those that a dot or a dash follows. The two scans read different lexemes: what one takes
whole, the other passes over letter by letter. But no token begins inside a word, so behind the word
both go on alike.
-/

namespace ParamSql
namespace Placeholder

open Text

def isIdentifier : List Char → Bool
  | [] => false
  | c :: rest => isNameStart c && rest.all isWord

def continues (text : List Char) : Bool := text.head?.any fun c => c == '.' || c == '-'

def Occurrence.isContinued (o : Occurrence) (text : List Char) : Bool :=
  continues (text.drop o.stop)

theorem isWord_of_isNameStart {c : Char} (h : isNameStart c = true) : isWord c = true := by
  apply isWord_of_key
  rcases Bool.or_eq_true_iff.mp h with halpha | hline
  · rw [Char.isAlphanum, halpha]
    rfl
  · rw [hline, Bool.or_true]

/-- Nothing that is passed over whole begins inside a word. -/
theorem isIdle_of_isWord {c : Char} (h : isWord c = true) : isIdle c = true :=
  isIdle_of_class (p := isWord) (by decide) h

theorem isWord_of_isIdentifier {name : List Char} (h : isIdentifier name = true) :
    name ≠ [] ∧ ∀ c ∈ name, isWord c = true := by
  cases name with
  | nil => cases h
  | cons c rest =>
    obtain ⟨hfirst, hrest⟩ := Bool.and_eq_true_iff.mp h
    refine ⟨List.cons_ne_nil _ _, List.forall_mem_cons.mpr ⟨isWord_of_isNameStart hfirst, ?_⟩⟩
    exact List.all_eq_true.mp hrest

theorem exists_word (text : List Char) :
    ∃ run after, text = run ++ after ∧ (∀ c ∈ run, isWord c = true) ∧
      ∀ c ∈ after.head?, isWord c = false := by
  refine ⟨text.takeWhile isWord, text.dropWhile isWord, ?_, ?_, ?_⟩
  · exact List.takeWhile_append_dropWhile.symm
  · exact fun c hc => List.mem_takeWhile_imp hc
  · intro c hc
    have hstop := List.head?_dropWhile_not isWord text
    rw [Option.mem_def.mp hc] at hstop
    exact hstop

section Word

variable {run after : List Char} (hrun : ∀ c ∈ run, isWord c = true)
variable (hafter : ∀ c ∈ after.head?, isWord c = false)

include hafter

theorem closes_behind_word : closes after = !continues after := by
  cases after with
  | nil => rfl
  | cons c after => simp [closes, continues, hafter c rfl, bne]

include hrun

theorem takeWhile_isWord : (run ++ after).takeWhile isWord = run := by
  rw [takeWhile_append_of_head hafter, List.takeWhile_eq_self_iff.mpr hrun]

/-- Of the names that are words only the whole run can fit. -/
theorem fits_word_iff {name : List Char} (hne : name ≠ []) (hname : ∀ c ∈ name, isWord c = true) :
    fits (run ++ after) name = true ↔ name = run ∧ continues after = false := by
  constructor
  · intro hfits
    obtain ⟨_, ⟨more, hmore⟩, hcloses⟩ := fits_iff.mp hfits
    have hend : ∀ c ∈ more.head?, isWord c = false := by
      intro c hc
      rw [← hmore, List.drop_left] at hcloses
      exact ((closes_iff more).mp hcloses c (by rwa [← List.head?_eq_getElem?])).1
    have hsame : name = run := by
      rw [← takeWhile_isWord hrun hafter, ← hmore, takeWhile_isWord hname hend]
    rw [hsame, List.drop_left, closes_behind_word hafter, Bool.not_eq_true'] at hcloses
    exact ⟨hsame, hcloses⟩
  · rintro ⟨rfl, hcontinues⟩
    refine fits_iff.mpr ⟨hne, List.prefix_append _ _, ?_⟩
    rw [List.drop_left, closes_behind_word hafter, hcontinues]
    rfl

theorem nameLength?_identifiers : Sought.identifiers.nameLength? (run ++ after) =
    if isIdentifier run = true then some run.length else none := by
  have htake := takeWhile_isWord hrun hafter
  cases run with
  | nil =>
    rw [if_neg (by simp [isIdentifier])]
    cases after with
    | nil => rfl
    | cons c after =>
      have hc : isNameStart c = false := by
        apply Bool.eq_false_iff.mpr
        intro hstart
        have hword := isWord_of_isNameStart hstart
        rw [hafter c rfl] at hword
        cases hword
      simp [Sought.nameLength?, hc]
  | cons c run =>
    have hrest : run.all isWord = true :=
      List.all_eq_true.mpr fun d hd => hrun d (List.mem_cons_of_mem _ hd)
    have htail : (run ++ after).takeWhile isWord = run :=
      takeWhile_isWord (fun d hd => hrun d (List.mem_cons_of_mem _ hd)) hafter
    simp only [Sought.nameLength?, List.cons_append, htail, isIdentifier, hrest, Bool.and_true,
      List.length_cons, Nat.add_comm]

theorem nameLength?_among {names : List (List Char)}
    (hnames : ∀ name ∈ names, isIdentifier name = true) :
    (Sought.among names).nameLength? (run ++ after) =
      if run ∈ names ∧ continues after = false then some run.length else none := by
  have hfits (name : List Char) (hname : name ∈ names) :
      fits (run ++ after) name = true ↔ name = run ∧ continues after = false := by
    obtain ⟨hne, hword⟩ := isWord_of_isIdentifier (hnames name hname)
    exact fits_word_iff hrun hafter hne hword
  split_ifs with hbound
  · refine Sought.nameLength?_among_eq_some.mpr ⟨⟨run, hbound.1, ?_, rfl⟩, ?_⟩
    · exact (hfits run hbound.1).mpr ⟨rfl, hbound.2⟩
    · intro name hname h
      rw [((hfits name hname).mp h).1]
  · refine Sought.nameLength?_among_eq_none.mpr fun name hname => ?_
    apply Bool.eq_false_iff.mpr
    intro h
    obtain ⟨rfl, hcontinues⟩ := (hfits name hname).mp h
    exact hbound ⟨hname, hcontinues⟩

end Word

/-- Where a placeholder may open, it depends on the name behind the colon whether there is one. -/
theorem next_of_opening {before : Option Char} {rest : List Char} (hopens : opens before = true)
    (htail : tokenTail? ':' rest = none) (sought : Sought) :
    Lexeme.next sought before ':' rest =
      ((sought.nameLength? rest).map fun n =>
        Lexeme.placeholder (rest.take n)).getD (.plain ':') := by
  rw [Lexeme.next, htail]
  dsimp only
  rw [if_pos ⟨rfl, hopens⟩]
  cases sought.nameLength? rest <;> rfl

/-- Everywhere else the lexeme does not depend on the names. -/
theorem next_of_not_opening {before : Option Char} {first : Char} {rest : List Char}
    (h : ¬ (first = ':' ∧ opens before = true ∧ tokenTail? first rest = none)) :
    ∃ l : Lexeme, l.name? = none ∧ ∀ sought, Lexeme.next sought before first rest = l := by
  cases htail : tokenTail? first rest with
  | some n => exact ⟨.token (first :: rest.take n), rfl, fun _ => by rw [Lexeme.next, htail]⟩
  | none =>
    refine ⟨.plain first, rfl, fun _ => ?_⟩
    rw [Lexeme.next, htail]
    exact if_neg fun hcolon => h ⟨hcolon.1, hcolon.2, htail⟩

section Scans

variable {names : List (List Char)} (hnames : ∀ name ∈ names, isIdentifier name = true)

include hnames

/-- The scan for the given names reads the same lexeme as the scan for identifiers, or it passes
over a placeholder whose name is not among them or goes on. -/
theorem next_among {before : Option Char} {first : Char} {rest : List Char} {l : Lexeme}
    (hl : Lexeme.next .identifiers before first rest = l) :
    (Lexeme.next (.among names) before first rest = l ∧
        ∀ name, l.name? = some name → name ∈ names ∧ continues (rest.drop (l.size - 1)) = false) ∨
      ∃ name, l = .placeholder name ∧
        ¬ (name ∈ names ∧ continues (rest.drop (l.size - 1)) = false) ∧
          Passes (.among names) before l.chars (rest.drop (l.size - 1)) := by
  by_cases hopening : first = ':' ∧ opens before = true ∧ tokenTail? first rest = none
  · obtain ⟨rfl, hopens, htail⟩ := hopening
    obtain ⟨run, behind, rfl, hrun, hbehind⟩ := exists_word rest
    have hamong := next_of_opening hopens htail (.among names)
    rw [next_of_opening hopens htail, nameLength?_identifiers hrun hbehind] at hl
    rw [nameLength?_among hrun hbehind hnames] at hamong
    by_cases hid : isIdentifier run = true
    · obtain rfl : .placeholder run = l := by
        rw [← hl, if_pos hid, Option.map_some, Option.getD_some, List.take_left]
      have hafter : (run ++ behind).drop ((Lexeme.placeholder run).size - 1) = behind :=
        List.drop_left
      rw [hafter]
      by_cases hbound : run ∈ names ∧ continues behind = false
      · refine .inl ⟨?_, ?_⟩
        · rw [hamong, if_pos hbound, Option.map_some, Option.getD_some, List.take_left]
        · rintro _ ⟨⟩
          exact hbound
      · refine .inr ⟨run, rfl, hbound, ?_⟩
        rw [if_neg hbound] at hamong
        have hcolon : Passes (.among names) before [':'] (run ++ behind) :=
          ⟨[.plain ':'], rfl, Scans.of_next hamong rfl⟩
        exact hcolon.append (Passes.idle fun c hc => isIdle_of_isWord (hrun c hc))
    · have hnot : ¬ (run ∈ names ∧ continues behind = false) := fun h => hid (hnames run h.1)
      rw [if_neg hnot] at hamong
      rw [if_neg hid] at hl
      obtain rfl : .plain ':' = l := hl
      exact .inl ⟨hamong, nofun⟩
  · obtain ⟨plain, hname, hnext⟩ := next_of_not_opening hopening
    obtain rfl : plain = l := (hnext .identifiers).symm.trans hl
    refine .inl ⟨hnext (.among names), ?_⟩
    rw [hname]
    nofun

/-- Wherever the two scans stand alike, the scan for the given names finds from there on what the
scan for identifiers finds, those placeholders left out that it does not seek or that go on. -/
theorem occurrences_among (read text : List Char) :
    occurrences read.length (lexemes (.among names) read.getLast? text) =
      (occurrences read.length (lexemes .identifiers read.getLast? text)).filter fun o =>
        decide (o.name.toList ∈ names) && !o.isContinued (read ++ text) := by
  fun_induction stops .identifiers read text with
  | case1 read => simp [occurrences]
  | case2 read first rest l ih =>
    have htext : read ++ l.chars ++ rest.drop (l.size - 1) = read ++ first :: rest := by
      rw [List.append_assoc, Lexeme.chars_next_append]
    have hlast : (read ++ l.chars).getLast? = l.chars.getLast? := getLast?_append_chars _ _ _ _
    have hlength : (read ++ l.chars).length = read.length + l.size := List.length_append
    have hnext : Lexeme.next .identifiers read.getLast? first rest = l := rfl
    clear_value l
    rw [htext, hlast, hlength] at ih
    -- The placeholder that may be read here is followed by what is left of the text.
    have hcontinued (name : String) (start : Nat) :
        (Occurrence.mk name start (read.length + l.size)).isContinued (read ++ first :: rest) =
          continues (rest.drop (l.size - 1)) := by
      rw [Occurrence.isContinued, ← htext, ← hlength, List.drop_left]
    rw [lexemes_cons .identifiers, hnext, occurrences_cons, List.filter_append, ← ih]
    obtain ⟨hsame, hbound⟩ | ⟨name, hname, hnot, ls, huses, hscan⟩ := next_among hnames hnext
    · rw [lexemes_cons, hsame, occurrences_cons]
      congr 1
      cases hname : l.name? with
      | none => rfl
      | some name =>
        obtain ⟨hmem, hends⟩ := hbound name hname
        simp [hcontinued, hmem, hends]
    · have hor : l.chars.getLast?.or read.getLast? = l.chars.getLast? := by
        rw [← List.getLast?_append, hlast]
      have hpassed : lexemes (.among names) read.getLast? (first :: rest) =
          ls ++ lexemes (.among names) l.chars.getLast? (rest.drop (l.size - 1)) := by
        rw [← hor, ← hscan, ← hnext, Lexeme.chars_next_append]
      have hleft : name ∈ names → continues (rest.drop (l.size - 1)) = true := by simpa using hnot
      have hfound : l.name? = some name := congrArg Lexeme.name? hname
      rw [hpassed, occurrences_append_of_uses_eq_nil huses, hscan.flatMap_chars, hfound]
      change occurrences (read.length + l.size) _ = _
      simpa [hcontinued] using hleft

end Scans

/-- The scan for given names of the shape of identifiers finds what the scan for all identifiers
finds under those names, in the same order and at the same places, placeholders before a dot or a
dash left out. -/
theorem findAll_names_among_identifiers (sql : String) {names : List String}
    (hnames : ∀ name ∈ names, isIdentifier name.toList = true) :
    findAll (.ofNames names) sql =
      (findAll .identifiers sql).filter fun o =>
        decide (o.name ∈ names) && !o.isContinued sql.toList := by
  have hchars : ∀ name ∈ names.map String.toList, isIdentifier name = true := by
    intro name hname
    obtain ⟨n, hn, rfl⟩ := List.mem_map.mp hname
    exact hnames n hn
  have hmem (name : String) : name.toList ∈ names.map String.toList ↔ name ∈ names :=
    List.mem_map_of_injective fun _ _ => String.toList_inj.mp
  have hall := occurrences_among hchars [] sql.toList
  simp only [hmem] at hall
  exact hall

/-- A cast, a literal, a dollar quote and a comment in between; names before a dot and a dash. -/
theorem findAll_names_among_identifiers_of_skipped :
    let sql := "a::id, ':id', :other$$:id$$, :id, :ids.x, :id-1 -- :id\n:_é :ids"
    let names := ["ids", "id", "_é"]
    (∀ name ∈ names, isIdentifier name.toList = true) ∧
      (findAll .identifiers sql).map Occurrence.name = ["other", "id", "ids", "id", "_é", "ids"] ∧
      findAll (.ofNames names) sql = [⟨"id", 29, 32⟩, ⟨"_é", 55, 58⟩, ⟨"ids", 59, 63⟩] := by
  intro sql names
  have hnames : ∀ name ∈ names, isIdentifier name.toList = true :=
    List.all_eq_true.mp (by decide : names.all (fun name => isIdentifier name.toList) = true)
  refine ⟨hnames, by decide +kernel, ?_⟩
  rw [findAll_names_among_identifiers sql hnames]
  decide +kernel

end Placeholder
end ParamSql
