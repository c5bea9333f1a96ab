/-
**The settings of a generation.**

They name the plugins to run, in order and without repetition, the static member that date and time
values are built through, and the module if its name is not to be derived from the schema. The
hyphens before the name of a plugin are never part of it.
-/

namespace SchemaBinding

structure Settings where
  verbose : Bool := false
  /-- The names of the plugins to run, in order. -/
  plugins : List String := []
  /-- The name of the static member that holds the factory of date and time values. -/
  slotName : String := "DATATYPE_FACTORY"
  slotType : String := "DatatypeFactory"
  /-- The name of the module, in place of the derived one. -/
  package : Option String := none
deriving DecidableEq, Repr, Inhabited

/-- The name of a plugin without the hyphens before it. -/
def pluginName (option : String) : String := String.ofList (option.toList.dropWhile (· == '-'))

namespace Settings

/-- Adds a plugin to those that run, unless it is among them. -/
def enable (settings : Settings) (option : String) : Settings :=
  let name := pluginName option
  if settings.plugins.contains name then settings
  else { settings with plugins := settings.plugins ++ [name] }

def isEnabled (settings : Settings) (option : String) : Bool :=
  settings.plugins.contains (pluginName option)

theorem isEnabled_enable (settings : Settings) (option : String) :
    (settings.enable option).isEnabled option = true := by
  unfold enable isEnabled
  dsimp only
  split
  · assumption
  · simp

end Settings

end SchemaBinding
