/-
**Changes of a model by the names of its parts.**

A class or a field is reached by its generated name, which is that of the first one if several have
it. A change touches that one only, and everything else keeps its place.
-/

import SchemaBinding.Model.Basic

namespace SchemaBinding

/-- The list with the first element that has the property replaced. -/
def replaceFirst {α : Type} (property : α → Bool) (replacement : α) : List α → List α
  | [] => []
  | x :: rest => if property x then replacement :: rest else x :: replaceFirst property replacement rest

theorem length_replaceFirst {α : Type} (property : α → Bool) (replacement : α) (list : List α) :
    (replaceFirst property replacement list).length = list.length := by
  induction list with
  | nil => rfl
  | cons x rest ih =>
    rw [replaceFirst]
    split
    · rfl
    · rw [List.length_cons, ih, List.length_cons]

def DataClass.replaceField (c : DataClass) (name : String) (field : Field) : DataClass :=
  { c with fields := replaceFirst (·.name == name) field c.fields }

/-- The class with a field behind the others, under whatever name it has. -/
def DataClass.appendField (c : DataClass) (field : Field) : DataClass :=
  { c with fields := c.fields ++ [field] }

/-- The class with a static member behind the others, under whatever name it has. -/
def DataClass.appendStatic (c : DataClass) (member : StaticMember) : DataClass :=
  { c with statics := c.statics ++ [member] }

namespace Model

def replaceClass (model : Model) (name : String) (c : DataClass) : Model :=
  { model with classes := replaceFirst (·.name == name) c model.classes }

def addClass (model : Model) (c : DataClass) : Model :=
  { model with classes := model.classes ++ [c] }

def addEnumeration (model : Model) (enumeration : Enumeration) : Model :=
  { model with enums := model.enums ++ [enumeration] }

end Model

end SchemaBinding
