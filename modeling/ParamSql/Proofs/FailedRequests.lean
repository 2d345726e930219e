import ParamSql.Builder.Expression
import ParamSql.Proofs.SettledKeys
import ParamSql.Proofs.Turns

/-!
# Requests that fail

A change of a builder mostly asks others before it changes anything, and what it writes or binds
then is not held up any more, so that a request that fails leaves the builder as it was. There are
three exceptions. The ending of a transaction is counted before the controller is called. A key is
bound to null before the values of a list for it are gone through, which may break off. And a limit
is written word by word up to a number that is too long.
-/

namespace ParamSql

/-- A change that fails leaves behind a state that is related to the one before. -/
def FailsWithin {σ α : Type} (R : σ → σ → Prop) (change : EStateM Failure σ α) : Prop :=
  ∀ s e t, change s = .error e t → R s t

namespace FailsWithin

variable {σ α β : Type} {R : σ → σ → Prop}

theorem bind (htrans : ∀ {s t u}, R s t → R t u → R s u) {first : EStateM Failure σ α}
    {next : α → EStateM Failure σ β} (hfirst : Keeps R first)
    (hnext : ∀ a, FailsWithin R (next a)) : FailsWithin R (first >>= next) := by
  intro s e u hrun
  rcases bind_eq_error hrun with herror | ⟨a, t, hok, herror⟩
  · exact hfirst.of_error herror
  · exact htrans (hfirst.of_ok hok) (hnext a t e u herror)

end FailsWithin

/-! ## What a failed request leaves -/

/-- The data source has a value for the key. -/
def Builder.Defines (b : Builder) (key : String) : Prop :=
  ∃ source, b.dataSource = some source ∧ source.value.isDefined key = .ok true

/-- Going through values for the key breaks off: the values given with the operation, or those of a
list that the data source has for the unbound key. -/
def Operation.BreaksOff (b : Builder) (key : String) (e : Failure) : Operation → Prop
  | setParamSet k given => k = key ∧ Sequence.elements? given = .error e
  | setIfNull k _ | setIfEmpty k _ | mustAdd k _ => k = key ∧ b.BreaksOff key e
  | addIfDefined k _ => k = key ∧ b.Defines key ∧ b.BreaksOff key e
  | _ => False

namespace Request

def BreaksOff {ρ : Type} (b : Builder) (key : String) (e : Failure) : Request ρ → Prop
  | own operation => operation.BreaksOff b key e
  | _ => False

end Request

namespace Builder

variable {b b' : Builder} {key : String} {e : Failure}

end Builder

namespace Workbench

open Builder SameBuilder

end Workbench

end ParamSql
