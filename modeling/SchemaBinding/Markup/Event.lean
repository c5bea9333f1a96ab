/-
**Documents as streams of events.**

What a reader of documents sees is a list of events, and after it either the end of the document or
a fault. A start tag and its end tag are two events, an empty element is one, and every other
construct is one event without content. End tags are matched here: the names of the open tags are
kept, and an end tag of another name, or one with nothing to close, is a fault. Tags that are still
open at the end of the document are none.
-/

import SchemaBinding.Markup.Construct
import SchemaBinding.Markup.Tag

namespace SchemaBinding.Markup

/-- One step of a document. -/
inductive Event
  | start (tag : Tag)
  | empty (tag : Tag)
  /-- The end tag of the last tag that was open. -/
  | finish
  /-- A construct that carries nothing: a reference, comment, CDATA section, instruction or document
  type. -/
  | passive

/-- The events of a document, and the fault that ends them if it is not the end of the document. -/
structure EventStream where
  events : List Event
  fault : Option DocumentFault

namespace EventStream

def cons (event : Event) (stream : EventStream) : EventStream :=
  { stream with events := event :: stream.events }

def ofEvents (events : List Event) : EventStream := { events, fault := none }

/-- The stream that has no events, only a fault. -/
def ofFault (fault : DocumentFault) : EventStream := { events := [], fault := some fault }

end EventStream

/-- The name in an end tag: its content without the blanks at its end, or all of it if it is blank
throughout. -/
def endTagName (content : List Char) : List Char :=
  if content.all isBlank then content else (content.reverse.dropWhile isBlank).reverse

def startTagName (content : List Char) : List Char := content.takeWhile fun c => !isBlank c

/-- The event of a construct, and the names of the tags that are open after it. -/
def Construct.event (opened : List (List Char)) :
    Construct → Except FormFault (Event × List (List Char))
  | .start content => .ok (.start (.ofContent content), startTagName content :: opened)
  | .empty content => .ok (.empty (.ofContent content), opened)
  | .passive => .ok (.passive, opened)
  | .finish content =>
    let name := endTagName content
    match opened with
    | [] => .error (.unmatchedEnd (String.ofList name))
    | expected :: outer =>
      if name = expected then .ok (.finish, outer)
      else .error (.mismatchedEnd (String.ofList expected) (String.ofList name))

/-- The events of what is left of a document in which tags of the given names are open, innermost
first. -/
def readEvents (opened : List (List Char)) (text : List Char) : EventStream :=
  match _next : nextConstruct text with
  | .error fault => .ofFault fault
  | .ok none => .ofEvents []
  | .ok (some (construct, rest)) =>
    match construct.event opened with
    | .error fault => .ofFault (.illFormed fault)
    | .ok (event, opened) => (readEvents opened rest).cons event
termination_by text.length
decreasing_by exact length_lt_of_nextConstruct _next

/-- The events of a document. A byte-order mark at its beginning is dropped. -/
def EventStream.ofText (text : String) : EventStream :=
  match text.toList with
  | '\uFEFF' :: rest => readEvents [] rest
  | characters => readEvents [] characters

end SchemaBinding.Markup
