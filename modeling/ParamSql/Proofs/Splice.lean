import Mathlib.Data.List.Basic

/-!
# Replacing stretches of a text

A patch names a stretch of a text and the characters that take its place. Splicing applies patches
from left to right and keeps every other character in order. What patches have put into a text can
be replaced once more, and then it is as if the second replacement had been made at once.
-/

namespace ParamSql
namespace Text

/-- A stretch from `start` up to `stop`, and what is written there instead. -/
structure Patch where
  start : Nat
  stop : Nat
  new : List Char

/-- The text from `pos` on with every patch applied. -/
def splice (text : List Char) (pos : Nat) : List Patch → List Char
  | [] => text.drop pos
  | p :: rest => text.extract pos p.start ++ p.new ++ splice text p.stop rest

/-- The stretches follow one another without overlap, none before `pos` or past the end. -/
def InOrder (text : List Char) (pos : Nat) : List Patch → Prop
  | [] => pos ≤ text.length
  | p :: rest => pos ≤ p.start ∧ p.start ≤ p.stop ∧ InOrder text p.stop rest

/-- Other characters in the place of what each patch has written. The spliced text is known from
`out` on, where it corresponds to the text from `pos` on. -/
def rewrite (pos out : Nat) : List Patch → List (List Char) → List Patch
  | p :: ps, v :: vs =>
    let start := out + (p.start - pos)
    ⟨start, start + p.new.length, v⟩ :: rewrite p.stop (start + p.new.length) ps vs
  | _, _ => []

def renew (ps : List Patch) (vs : List (List Char)) : List Patch :=
  List.zipWith (fun p v => ⟨p.start, p.stop, v⟩) ps vs

theorem InOrder.pos_le {text : List Char} {pos : Nat} {ps : List Patch}
    (h : InOrder text pos ps) : pos ≤ text.length := by
  induction ps generalizing pos with
  | nil => exact h
  | cons p ps ih =>
    obtain ⟨hstart, hstop, hrest⟩ := h
    exact Nat.le_trans hstart (Nat.le_trans hstop (ih hrest))

theorem length_extract_gap {text : List Char} {pos : Nat} {p : Patch} {ps : List Patch}
    (ordered : InOrder text pos (p :: ps)) : (text.extract pos p.start).length = p.start - pos := by
  obtain ⟨hstart, hstop, hrest⟩ := ordered
  have hend : p.start ≤ text.length := Nat.le_trans hstop hrest.pos_le
  simp only [List.extract_eq_take_drop, List.length_take, List.length_drop]
  omega

theorem append_splice_cons (done text : List Char) (pos : Nat) (p : Patch) (ps : List Patch) :
    done ++ splice text pos (p :: ps) =
      done ++ text.extract pos p.start ++ p.new ++ splice text p.stop ps := by
  simp only [splice, List.append_assoc]

theorem extract_append (a b c : List Char) :
    (a ++ b ++ c).extract a.length (a.length + b.length) = b := by
  rw [List.append_assoc, List.extract_eq_take_drop, List.drop_left, Nat.add_sub_cancel_left,
    List.take_left]

/-- The second replacement, where `done` stands for what has been spliced before `pos`. -/
theorem splice_rewrite {text : List Char} {pos : Nat} {ps : List Patch} (done : List Char)
    (ordered : InOrder text pos ps) (vs : List (List Char)) (same : vs.length = ps.length) :
    splice (done ++ splice text pos ps) done.length (rewrite pos done.length ps vs) =
      splice text pos (renew ps vs) := by
  induction ps generalizing pos done vs with
  | nil => simp [rewrite, renew, splice]
  | cons p ps ih =>
    cases vs with
    | nil => simp at same
    | cons v vs =>
      have hgap := length_extract_gap ordered
      let out := done ++ splice text pos (p :: ps)
      have hout : out = done ++ text.extract pos p.start ++ p.new ++ splice text p.stop ps :=
        append_splice_cons done text pos p ps
      have hkept : out.extract done.length (done.length + (p.start - pos)) =
          text.extract pos p.start := by
        rw [hout, ← hgap, List.append_assoc _ p.new, extract_append]
      have htail := ih (done ++ text.extract pos p.start ++ p.new) ordered.2.2 vs
        (by simpa using same)
      rw [← hout, List.length_append, List.length_append, hgap] at htail
      calc splice out done.length (rewrite pos done.length (p :: ps) (v :: vs))
        _ = out.extract done.length (done.length + (p.start - pos)) ++ v ++
              splice out (done.length + (p.start - pos) + p.new.length)
                (rewrite p.stop (done.length + (p.start - pos) + p.new.length) ps vs) := rfl
        _ = text.extract pos p.start ++ v ++ splice text p.stop (renew ps vs) := by
          rw [hkept, htail]
        _ = splice text pos (renew (p :: ps) (v :: vs)) := rfl

/-- The stretches of the second replacement are those that the patches have written. -/
theorem extract_rewrite {text : List Char} {pos : Nat} {ps : List Patch} (done : List Char)
    (ordered : InOrder text pos ps) (vs : List (List Char)) (same : vs.length = ps.length) :
    ((rewrite pos done.length ps vs).map fun q =>
        (done ++ splice text pos ps).extract q.start q.stop) = ps.map Patch.new := by
  induction ps generalizing pos done vs with
  | nil => rfl
  | cons p ps ih =>
    cases vs with
    | nil => simp at same
    | cons v vs =>
      have hgap := length_extract_gap ordered
      have hhead : (done ++ splice text pos (p :: ps)).extract
          (done.length + (p.start - pos)) (done.length + (p.start - pos) + p.new.length) =
            p.new := by
        rw [append_splice_cons, ← hgap, ← List.length_append, extract_append]
      have htail := ih (done ++ text.extract pos p.start ++ p.new) ordered.2.2 vs
        (by simpa using same)
      rw [← append_splice_cons, List.length_append, List.length_append, hgap] at htail
      rw [rewrite, List.map_cons, List.map_cons, htail, hhead]

/-- What patches have written may be replaced again, with the same result as replacing once. -/
theorem splice_splice {text : List Char} {ps : List Patch} (ordered : InOrder text 0 ps)
    (vs : List (List Char)) (same : vs.length = ps.length) :
    splice (splice text 0 ps) 0 (rewrite 0 0 ps vs) = splice text 0 (renew ps vs) :=
  splice_rewrite [] ordered vs same

end Text
end ParamSql
