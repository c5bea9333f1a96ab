/-
**The static member that date and time values are built through.**

Every class with such values has one member of the kind, of the name and type that the settings
give. It is added when it is first needed. A member that is already there in the same form is used
as it is; a different member of the name is in the way.
-/

import SchemaBinding.Model.Basic
import SchemaBinding.Settings

namespace SchemaBinding

def factoryPath (typeName : String) : String := typeName ++ "::new_instance"

def factoryFailure (typeName : String) : String := "Unable to initialize " ++ typeName

/-- The static member that the settings describe. -/
def Settings.slot (settings : Settings) : StaticMember where
  name := settings.slotName
  typeName := settings.slotType
  init := .failFast (.call (factoryPath settings.slotType) []) (factoryFailure settings.slotType)

/-- Whether a static member is the one that the settings describe. -/
def Settings.isSlot (settings : Settings) (member : StaticMember) : Bool :=
  match member with
  | ⟨name, typeName, .failFast (.call path []) message⟩ =>
    name == settings.slotName && typeName == settings.slotType &&
      path == factoryPath settings.slotType && message == factoryFailure settings.slotType
  | _ => false

theorem Settings.isSlot_iff {settings : Settings} {member : StaticMember} :
    settings.isSlot member = true ↔ member = settings.slot := by
  constructor
  · intro same
    unfold isSlot at same
    split at same
    · simp only [Bool.and_eq_true, beq_iff_eq] at same
      obtain ⟨⟨⟨rfl, rfl⟩, rfl⟩, rfl⟩ := same
      rfl
    · simp at same
  · rintro rfl
    simp [isSlot, slot]

/-- Whether the first static member of the slot's name is the slot. -/
def DataClass.hasSlot (c : DataClass) (settings : Settings) : Bool :=
  (c.static? settings.slotName).any settings.isSlot

/-- The class with the slot, which is added if it is not there. -/
def DataClass.ensureSlot (c : DataClass) (settings : Settings) : Except MemberFault DataClass :=
  if c.hasSlot settings then .ok c else c.addStatic settings.slot

end SchemaBinding
