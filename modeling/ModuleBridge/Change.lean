import ModuleBridge.Query
import ModuleBridge.Section

/-!
# Changes

What an edit means for the modules that depend on a file.  The tag of a module
is read from its url, and a change of sections invalidates the tags that depend
on a changed section.
-/

namespace ModuleBridge

/-- How a module relates to its source file. -/
inductive ModuleTag where
  /-- Asked for directly: never invalidated by comparing sections. -/
  | direct
  /-- Expanded macros: depends on the script. -/
  | expansion
  /-- A style: depends on the styles. -/
  | style
  /-- Anything else: depends on the script and the markup. -/
  | standard
  deriving DecidableEq, Repr, Inhabited

/-- The tag of a module, read from the query of its url. -/
def ModuleTag.ofUrl (url : String) : ModuleTag :=
  match Text.cut? '?' url.toList with
  | none => .standard
  | some (_, raw) =>
    let query := Query.parse (String.ofList raw)
    if query.contains "direct" then .direct
    else if query.text? "macro" = some "true" then .expansion
    else if query.text? "type" = some "style" then .style
    else .standard

/-- The sections that differ between two snapshots. -/
structure SectionChange where
  script : Bool
  markup : Bool
  style : Bool
  deriving DecidableEq, Repr, Inhabited

namespace SectionChange

/-- Everything changed. -/
def all : SectionChange := ⟨true, true, true⟩

/-- Compares snapshots; without an earlier one everything changed. -/
def between (before? : Option Snapshot) (after : Snapshot) : SectionChange :=
  match before? with
  | none => all
  | some before =>
    ⟨before.script != after.script, before.markup != after.markup, before.style != after.style⟩

/-- Nothing changed. -/
def isEmpty (change : SectionChange) : Bool :=
  !(change.script || change.markup || change.style)

/-- A module with this tag has to be loaded again. -/
def invalidates (change : SectionChange) : ModuleTag → Bool
  | .direct => false
  | .expansion => change.script
  | .style => change.style
  | .standard => change.script || change.markup

/-- Only markup changed, so that templates can be rendered again in place. -/
def renderOnly (change : SectionChange) : Bool :=
  change.markup && !change.script && !change.style

/-- The change as it is written into a log. -/
def describe (change : SectionChange) : String :=
  let yesNo := fun (on : Bool) => if on then "true" else "false"
  "SectionChange \x7b script: " ++ yesNo change.script ++ ", markup: " ++ yesNo change.markup ++
    ", style: " ++ yesNo change.style ++ " \x7d"

end SectionChange

end ModuleBridge
