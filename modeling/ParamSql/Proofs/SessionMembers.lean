import ParamSql.Session

/-!
# Members of sessions

Where the builders of a session are found, and where they are after one of them has been put back.
-/

namespace ParamSql
namespace Session

/-- A builder that is found is that of the member at the place of its name. -/
theorem find_eq_ok {s : Session} {name : String} {b : Builder} : s.find name = .ok b ↔
    ∃ place m, s.names.get? name = some place ∧ s.members[place]? = some m ∧ m.builder = b := by
  unfold find builderAt?
  cases s.names.get? name with
  | none => simp
  | some place =>
    rw [Option.bind_some]
    cases hm : s.members[place]? with
    | none => simp [hm]
    | some m => simp [hm]

theorem builderAt?_of_find {s : Session} {name : String} {b : Builder} (h : s.find name = .ok b) :
    ∃ place, s.builderAt? place = some b := by
  obtain ⟨place, m, -, hm, rfl⟩ := find_eq_ok.mp h
  exact ⟨place, by rw [builderAt?, hm, Option.map_some]⟩

section PutBack

variable {s : Session} {place place' : Nat} {m m' : Member} {name : String}

theorem putBack_members_getElem? (hm : s.members[place]? = some m) (w : Workbench) :
    (s.putBack place m w).members[place]? = some { m with builder := w.builder } :=
  List.getElem?_set_self (List.getElem?_eq_some_iff.mp hm).1

theorem find_putBack (hname : s.names.get? name = some place) (hm : s.members[place]? = some m)
    (w : Workbench) : (s.putBack place m w).find name = .ok w.builder :=
  find_eq_ok.mpr ⟨place, _, hname, putBack_members_getElem? hm w, rfl⟩

theorem find_putBack_of_ne (hname : s.names.get? name = some place')
    (hm : s.members[place']? = some m') (hplace : place ≠ place') (w : Workbench) :
    (s.putBack place m w).find name = .ok m'.builder :=
  find_eq_ok.mpr ⟨place', m', hname, (List.getElem?_set_ne hplace).trans hm, rfl⟩

end PutBack

end Session
end ParamSql
