import ParamSql.Proofs.PieceScan
import ParamSql.Proofs.PositionalRendering

/-!
# Statements written in pieces

A statement is written as a sequence of pieces, each a text as it is or a slot for a key. With the
placeholder of its key in every slot it is the statement as built. When the scan finds exactly these
placeholders and no key comes twice, rendering fills the slots with markers in turn.
-/

namespace ParamSql
namespace Placeholder

open Text

inductive Piece where
  | verbatim (text : List Char)
  | slot (key : List Char)

namespace Piece

def key? : Piece → Option (List Char)
  | verbatim _ => none
  | slot key => some key

def write (mark : List Char → List Char) : Piece → List Char
  | verbatim text => text
  | slot key => mark key

end Piece

def slots (pieces : List Piece) : List (List Char) := pieces.filterMap Piece.key?

/-- The text of the pieces with the marks put into the slots in turn. -/
def fill : List Piece → List (List Char) → List Char
  | [], _ => []
  | .verbatim text :: rest, marks => text ++ fill rest marks
  | .slot _ :: rest, mark :: marks => mark ++ fill rest marks
  | .slot _ :: rest, [] => fill rest []

def namedMark (key : List Char) : List Char := ':' :: key

def turnMark (style : MarkerStyle) (n : Nat) : List Char :=
  match style with
  | .numeric => numberMark n
  | _ => ['?']

/-- The text with the placeholder of its key in every slot. -/
def spelled (pieces : List Piece) : List Char := pieces.flatMap (Piece.write namedMark)

theorem fill_map (mark : List Char → List Char) (pieces : List Piece) :
    fill pieces ((slots pieces).map mark) = pieces.flatMap (Piece.write mark) := by
  induction pieces with
  | nil => rfl
  | cons p pieces ih =>
    cases p with
    | verbatim text => exact congrArg (text ++ ·) ih
    | slot key => exact congrArg (mark key ++ ·) ih

theorem slots_append (ps qs : List Piece) : slots (ps ++ qs) = slots ps ++ slots qs :=
  List.filterMap_append

theorem spelled_append (ps qs : List Piece) : spelled (ps ++ qs) = spelled ps ++ spelled qs :=
  List.flatMap_append

theorem spelled_nil : spelled [] = [] := rfl

theorem spelled_cons (p : Piece) (ps : List Piece) :
    spelled (p :: ps) = p.write namedMark ++ spelled ps := rfl

theorem spelled_verbatim (text : List Char) : spelled [.verbatim text] = text := List.append_nil _

theorem spelled_slot (key : List Char) : spelled [.slot key] = ':' :: key := List.append_nil _

/-- Lexemes with the placeholders of the slots, and for the rest the text of the pieces. -/
structure Spells (ls : List Lexeme) (pieces : List Piece) : Prop where
  uses_eq : uses ls = slots pieces
  marked_eq : ∀ mark, marked mark ls = pieces.flatMap (Piece.write mark)

theorem Spells.append {ls ms : List Lexeme} {ps qs : List Piece} (first : Spells ls ps)
    (last : Spells ms qs) : Spells (ls ++ ms) (ps ++ qs) := by
  constructor
  · rw [uses_append, slots_append, first.uses_eq, last.uses_eq]
  · intro mark
    rw [marked_append, List.flatMap_append, first.marked_eq, last.marked_eq]

/-- The scan finds the slots of the pieces, of which the first follows `before`. -/
def Reads (names : List (List Char)) (before : Option Char) (pieces : List Piece)
    (rest : List Char) : Prop :=
  ∃ ls, Scans (.among names) before (spelled pieces) rest ls ∧ Spells ls pieces

namespace Reads

variable {names : List (List Char)} {before : Option Char} {rest : List Char}

theorem nil : Reads names before [] rest := ⟨[], Scans.nil, ⟨rfl, fun _ => rfl⟩⟩

theorem append {ps qs : List Piece} (first : Reads names before ps (spelled qs ++ rest))
    (last : Reads names ((spelled ps).getLast?.or before) qs rest) :
    Reads names before (ps ++ qs) rest := by
  obtain ⟨ls, hls, hps⟩ := first
  obtain ⟨ms, hms, hqs⟩ := last
  refine ⟨ls ++ ms, ?_, hps.append hqs⟩
  rw [spelled_append]
  exact hls.append hms

theorem cons {p : Piece} {ps : List Piece} (first : Reads names before [p] (spelled ps ++ rest))
    (last : Reads names ((p.write namedMark).getLast?.or before) ps rest) :
    Reads names before (p :: ps) rest := by
  have hspelled : spelled [p] = p.write namedMark := List.append_nil _
  rw [← hspelled] at last
  exact first.append last

theorem verbatim {text : List Char} (h : Passes (.among names) before text rest) :
    Reads names before [.verbatim text] rest := by
  obtain ⟨ls, huses, hls⟩ := h
  refine ⟨ls, ?_, huses, fun mark => ?_⟩
  · rwa [spelled_verbatim]
  · rw [marked_of_uses_eq_nil huses, hls.flatMap_chars]
    exact (List.append_nil text).symm

theorem idle {text : List Char} (h : ∀ c ∈ text, isIdle c = true) :
    Reads names before [.verbatim text] rest :=
  verbatim (Passes.idle h)

theorem slot {key : List Char} (hbefore : opens before = true) (hkey : key ∈ names)
    (hne : key ≠ []) (hchars : ∀ n ∈ names, ∀ c ∈ n, isNameChar c = true)
    (hcloses : closes rest = true) : Reads names before [.slot key] rest := by
  have hscan := Scans.placeholder hbefore hkey hne hchars hcloses
  rw [← spelled_slot] at hscan
  exact ⟨[.placeholder key], hscan, rfl, fun mark => rfl⟩

end Reads

theorem map_numericMarker_of_nodup {keys : List (List Char)} (h : keys.Nodup) :
    keys.map (numericMarker keys.eraseDups) =
      (List.range' 1 keys.length).map (turnMark .numeric) := by
  rw [eraseDups_of_nodup h, ← map_idxOf_of_nodup h, List.map_map]
  rfl

/-- A statement in which no key comes twice is rendered by filling its slots in turn. -/
theorem convert_of_reads {sql : String} {parameters : Table Value} {pieces : List Piece}
    {style : MarkerStyle} (htext : sql.toList = spelled pieces)
    (hreads : Reads ((boundNames parameters).map String.toList) none pieces [])
    (hnodup : (slots pieces).Nodup) (hstyle : style ≠ .namedColon) :
    convert sql parameters style =
      ⟨String.ofList (fill pieces ((List.range' 1 (slots pieces).length).map (turnMark style))),
        (slots pieces).map (valueOf parameters)⟩ := by
  obtain ⟨ls, hls, hspells⟩ := hreads
  have hlexemes : boundLexemes sql parameters = ls := by
    unfold Scans at hls
    rwa [List.append_nil, lexemes_nil, List.append_nil, ← htext] at hls
  rw [convert_eq_ofLexemes, hlexemes]
  unfold Rendering.ofLexemes
  cases style with
  | namedColon => exact absurd rfl hstyle
  | questionMark =>
    have hmarks : (List.range' 1 (slots pieces).length).map (turnMark .questionMark) =
        (slots pieces).map fun _ => ['?'] := by
      apply List.ext_getElem
      · simp
      · intro i _ _
        rw [List.getElem_map, List.getElem_map]
        rfl
    simp only [hspells.marked_eq, hspells.uses_eq, hmarks, fill_map]
  | numeric =>
    rw [← map_numericMarker_of_nodup hnodup, fill_map]
    simp only [hspells.marked_eq, firstUses, hspells.uses_eq, eraseDups_of_nodup hnodup]

end Placeholder
end ParamSql
