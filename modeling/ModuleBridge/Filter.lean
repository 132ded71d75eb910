import ModuleBridge.Config
import ModuleBridge.Pattern.Reader

/-!
# Filters

Which module ids belong to the bridge.  Patterns look at the path of an id and
ignore case.  An id that the host keeps for itself, which begins with NUL, is
never accepted.
-/

namespace ModuleBridge

/-- Patterns that accept and patterns that refuse. -/
structure Filter where
  included : List Pattern.Node
  excluded : List Pattern.Node
  deriving DecidableEq, Repr, Inhabited

namespace Filter

/-- Reads the patterns of a filter. -/
def ofSettings (settings : FilterSettings) : Except Pattern.Refusal Filter := do
  let included ← Pattern.readAll true settings.included
  let excluded ← Pattern.readAll true settings.excluded
  .ok ⟨included, excluded⟩

/-- The path of an id: what stands before its first question mark. -/
def pathPart (id : String) : String :=
  match Text.cut? '?' id.toList with
  | some (path, _) => String.ofList path
  | none => id

/-- An id is accepted when no pattern refuses it and, where there are any, one accepts it. -/
def accepts (filter : Filter) (id : String) : Bool :=
  let path := pathPart id
  id.toList.head? != some '\x00' &&
    !(filter.excluded.any fun pattern => pattern.isMatch path) &&
    (filter.included.isEmpty || filter.included.any fun pattern => pattern.isMatch path)

end Filter

end ModuleBridge
