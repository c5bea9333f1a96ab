/-
**From a schema to generated code.**

The text of a schema becomes a model, the enabled plugins change the model, and the model becomes
source. The result is the code or the fault that kept it from being generated, and in either case
what was logged on the way, diagnostics included.
-/

import SchemaBinding.Model.OfSchema
import SchemaBinding.Plugin
import SchemaBinding.Schema.Reading
import SchemaBinding.Source.ModuleSource

namespace SchemaBinding

structure Generation where
  code : Except GenerationFault String
  log : List LogEvent := []

/-- A generation that fails before anything is logged. -/
def Generation.failure (fault : GenerationFault) : Generation := { code := .error fault }

/-- The model of a schema under the module name that the settings ask for. -/
def Settings.modelOf (settings : Settings) (schema : Schema) : Model :=
  let model := Model.ofSchema schema
  { model with package := settings.package.getD model.package }

def Model.generate (model : Model) (settings : Settings) : Generation :=
  let run := model.runPlugins settings
  { code :=
      match run.fault with
      | some fault => .error fault
      | none => run.model.source.map Lines.text
    log := run.notices.map Notice.toEvent }

def Settings.generate (settings : Settings) (text : String) : Generation :=
  match Schema.ofText text with
  | .error fault => .failure (.schema fault)
  | .ok schema => (settings.modelOf schema).generate settings

def decodeText (bytes : ByteArray) : Except FileFault String :=
  match String.fromUTF8? bytes with
  | some text => .ok text
  | none => .error .notText

/-- Generates the code of a schema from the bytes of its file, or from the fault that kept them from
being read. -/
def Settings.generateFrom (settings : Settings) (file : Except FileFault ByteArray) : Generation :=
  match file.bind decodeText with
  | .error fault => .failure (.file fault)
  | .ok text => settings.generate text

end SchemaBinding
