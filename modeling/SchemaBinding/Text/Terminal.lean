/-
**Messages on a terminal.**

Some control characters make a terminal do something: bell, backspace, form feed, escape, delete and
the controls beyond ASCII. Where a message is shown they are written by their code points; all other
characters stand for themselves. Nothing in the result steers a terminal (`steersTerminal_of_mem`).
-/

import SchemaBinding.Text.Quoted

namespace SchemaBinding

/-- Whether the character makes a terminal do something. -/
def steersTerminal (c : Char) : Bool :=
  c == '\x07' || c == '\x08' || c == '\x0c' || c == '\x1b' || c == '\x7f' ||
    (0x80 ≤ c.toNat && c.toNat ≤ 0x9f)

/-- The written form of a control character of ASCII. -/
def asciiControl : Char → List Char
  | '\x07' => ['\\', 'x', '0', '7']
  | '\x08' => ['\\', 'x', '0', '8']
  | '\x0c' => ['\\', 'x', '0', 'c']
  | '\x1b' => ['\\', 'x', '1', 'b']
  | _ => ['\\', 'x', '7', 'f']

/-- The form of one character on a terminal. -/
def terminalChar (c : Char) : List Char :=
  if !steersTerminal c then [c]
  else if c.toNat < 128 then asciiControl c
  else codePointEscape c

/-- The form of a message on a terminal. -/
def terminalText (message : String) : String :=
  String.ofList (message.toList.flatMap terminalChar)

/-- The form of a character does nothing on a terminal. -/
theorem steersTerminal_of_mem_terminalChar {c d : Char} (member : d ∈ terminalChar c) :
    steersTerminal d = false := by
  have harmless : ∀ form : List Char, form.all (!steersTerminal ·) = true → d ∈ form →
      steersTerminal d = false := by
    intro form all found
    simpa using List.all_eq_true.mp all d found
  unfold terminalChar at member
  split at member
  · rename_i plain
    rw [List.mem_singleton.mp member]
    simpa using plain
  · rename_i steers
    split at member
    · unfold asciiControl at member
      split at member <;> exact harmless _ (by decide) member
    · rename_i high
      have range : 0x80 ≤ c.toNat ∧ c.toNat ≤ 0x9f := by
        have other : ∀ s : Char, s.toNat < 128 → c ≠ s := by
          rintro s low rfl
          exact high low
        simpa [steersTerminal, other '\x07' (by decide), other '\x08' (by decide),
          other '\x0c' (by decide), other '\x1b' (by decide), other '\x7f' (by decide)] using steers
      have escapes : ∀ n : Fin 32,
          (['\\', 'u', '\x7b'] ++ hexDigits (0x80 + n) ++ ['\x7d']).all (!steersTerminal ·) := by
        decide
      have found := escapes ⟨c.toNat - 0x80, by omega⟩
      rw [show 0x80 + (c.toNat - 0x80) = c.toNat by omega] at found
      exact harmless _ found member

/-- Nothing in a message on a terminal makes the terminal do something. -/
theorem steersTerminal_of_mem {message : String} {c : Char}
    (member : c ∈ (terminalText message).toList) : steersTerminal c = false := by
  rw [terminalText, String.toList_ofList, List.mem_flatMap] at member
  obtain ⟨_, _, form⟩ := member
  exact steersTerminal_of_mem_terminalChar form

/-- A message without control characters is shown as it is. -/
theorem terminalText_of_plain {message : String}
    (plain : ∀ c ∈ message.toList, steersTerminal c = false) : terminalText message = message := by
  have same : ∀ list : List Char, (∀ c ∈ list, steersTerminal c = false) →
      list.flatMap terminalChar = list := by
    intro list
    induction list with
    | nil => simp
    | cons c rest ih =>
      intro all
      rw [List.flatMap_cons, ih fun d later => all d (List.mem_cons_of_mem _ later)]
      simp [terminalChar, all c List.mem_cons_self]
  rw [terminalText, same _ plain, String.ofList_toList]

end SchemaBinding
