import ParamSql.Builder.Composition
import ParamSql.Placeholder.Positional

/-!
# Rendering

The statement in the form the driver wants. A driver that binds by name gets the text as built; for
any other the placeholders become positional and the arguments are listed in their order.
-/

namespace ParamSql
namespace Builder

open Placeholder (Rendering)

/-- Whether rendering makes the placeholders positional. -/
def convertsPlaceholders (b : Builder) : Bool :=
  !b.params.isEmpty && !b.dialect.supportsNamedParameters

def rendering (b : Builder) : Rendering :=
  if b.convertsPlaceholders then Placeholder.convert b.text b.params b.dialect.positionalStyle
  else ⟨b.text, []⟩

def render (b : Builder) : Builder := { b with args := b.rendering.args }

end Builder
end ParamSql
