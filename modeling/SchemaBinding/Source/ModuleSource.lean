/-
**The module of a model.**

The module holds the enumerations and then the classes. Names that it does not declare are looked up
in the module around it.
-/

import SchemaBinding.Source.ClassSource
import SchemaBinding.Source.EnumSource

namespace SchemaBinding

namespace Model

def enumSource (model : Model) : Except GenerationFault Lines := do
  return (← model.enums.mapM Enumeration.source).flatten

def classSource (model : Model) : Except GenerationFault Lines := do
  return (← model.classes.mapM DataClass.source).flatten

def source (model : Model) : Except GenerationFault Lines := do
  let package ← checkIdentifier model.package
  let enums ← model.enumSource
  let classes ← model.classSource
  return ["// Generated by ironxsd. Do not edit.", "", "pub mod " ++ package ++ " \x7b",
      "#[allow(unused_imports)]", "use super::*;", ""] ++
    enums ++ classes ++ ["\x7d"]

end Model

end SchemaBinding
