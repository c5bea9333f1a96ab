/-
**Plugins, which change a model before it is written.**

A plugin is a name, a line of help and a function on models. While it runs it gives notice of what
it does, as log events and diagnostics in one order; who runs it decides where diagnostics go. There
is one plugin, which gives fields the fixed values of their elements.
-/

import SchemaBinding.GenerationFault
import SchemaBinding.Settings

namespace SchemaBinding

/-- What a plugin gives notice of. -/
inductive Notice
  | event (event : LogEvent)
  | diagnostic (diagnostic : Diagnostic)
deriving Repr

namespace Notice

/-- The log event of a notice where diagnostics are collected and not logged. -/
def event? : Notice → Option LogEvent
  | event e => some e
  | diagnostic _ => none

def diagnostic? : Notice → Option Diagnostic
  | event _ => none
  | diagnostic d => some d

/-- The log event of a notice where diagnostics are logged. -/
def toEvent : Notice → LogEvent
  | event e => e
  | diagnostic d => .diagnosed d

end Notice

structure PluginRun where
  model : Model
  notices : List Notice := []
  fault : Option GenerationFault := none

structure Plugin where
  /-- The name of the option that enables it, without a hyphen. -/
  optionName : String
  usage : String
  run : Settings → Model → PluginRun

/-- The notice of what became of a field, if there is any. -/
def FieldReport.notice? (settings : Settings) (entry : FieldReport) : Option Notice :=
  match entry.outcome with
  | .initialized expr =>
    if settings.verbose then some (.event (.fieldInitialized entry.className entry.field expr))
    else none
  | .skipped _ => none
  | .diagnosed diagnostic => some (.diagnostic diagnostic)

/-- The fixed-value pass as a plugin. What became of the fields is told after the whole pass, and
not at all if a malformed value ended it. -/
def runFixedValues (settings : Settings) (model : Model) : PluginRun :=
  let pass := model.applyFixedValues settings
  let events := pass.log.map Notice.event
  match pass.fault with
  | some value => { model := pass.model, notices := events, fault := some (.malformedValue value) }
  | none =>
    { model := pass.model
      notices :=
        events ++ pass.report.filterMap (·.notice? settings) ++
          [.event (.passComplete pass.report.initialized.length)] }

/-- The plugin that gives fields the fixed values of their elements. -/
def fixedValuePlugin : Plugin where
  optionName := "Xfixed-value"
  usage := "  -Xfixed-value    : enable rewriting of classes to set default values for fields as " ++
    "specified in XML schema"
  run := runFixedValues

namespace Plugin

def registry : List Plugin := [fixedValuePlugin]

def find? (option : String) : Option Plugin :=
  registry.find? (·.optionName == pluginName option)

/-- Runs the plugins of a list of options, up to the first fault. -/
def runAll (settings : Settings) : List String → Model → PluginRun
  | [], model => { model }
  | option :: rest, model =>
    match find? option with
    | none => { model, fault := some (.unknownPlugin option) }
    | some plugin =>
      let run := plugin.run settings model
      let notices := .event (.runningPlugin plugin.optionName) :: run.notices
      match run.fault with
      | some fault => { model := run.model, notices, fault := some fault }
      | none =>
        let later := runAll settings rest run.model
        { later with notices := notices ++ later.notices }

end Plugin

def Model.runPlugins (model : Model) (settings : Settings) : PluginRun :=
  Plugin.runAll settings settings.plugins model

end SchemaBinding
