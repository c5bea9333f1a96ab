/-
**What can be wrong with a document as markup.**

A construct may lack its end, or not be markup at all; and a document whose constructs are all
complete may still be ill-formed, when its tags do not match or a reference has no end.
-/

namespace SchemaBinding.Markup

/-- What is wrong with the writing of a construct. -/
inductive SyntaxFault
  | unclosedTag
  /-- The quote that opens a value in a tag is not met again. -/
  | unclosedQuote (quote : Char)
  | unclosedComment
  | unclosedCharacterData
  | unclosedDoctype
  | unclosedInstruction
  | unclosedDeclaration
  /-- What follows `<!` begins no construct. -/
  | unknownMarkup
deriving DecidableEq, Repr

/-- What is wrong with complete constructs. -/
inductive FormFault
  | unclosedReference
  | missingDoctypeName
  /-- An end tag has another name than the tag that it should close. -/
  | mismatchedEnd (expected found : String)
  /-- An end tag has no tag to close. -/
  | unmatchedEnd (found : String)
deriving DecidableEq, Repr

/-- What ends the reading of a document before its end. -/
inductive DocumentFault
  | malformed (fault : SyntaxFault)
  | illFormed (fault : FormFault)
deriving DecidableEq, Repr

/-- The wording of a construct that ends too early: what it is, and what is missing. -/
def notClosed (construct missing : String) : String :=
  s!"{construct} not closed: `{missing}` not found before end of input"

def SyntaxFault.message : SyntaxFault → String
  | .unclosedTag => notClosed "tag" ">"
  | .unclosedQuote quote => notClosed "attribute value" quote.toString
  | .unclosedComment => notClosed "comment" "-->"
  | .unclosedCharacterData => notClosed "CDATA" "]]>"
  | .unclosedDoctype => notClosed "DOCTYPE" ">"
  | .unclosedInstruction => notClosed "processing instruction" "?>"
  | .unclosedDeclaration => notClosed "XML declaration" "?>"
  | .unknownMarkup => "unknown or missed symbol in markup"

def FormFault.message : FormFault → String
  | .unclosedReference => notClosed "entity or character reference" ";"
  | .missingDoctypeName => "`<!DOCTYPE>` declaration does not contain a name of a document type"
  | .mismatchedEnd expected found => s!"expected `</{expected}>`, but `</{found}>` was found"
  | .unmatchedEnd found => s!"close tag `</{found}>` does not match any open tag"

def DocumentFault.message : DocumentFault → String
  | .malformed fault => s!"syntax error: {fault.message}"
  | .illFormed fault => s!"ill-formed document: {fault.message}"

/-- The wording of a document fault and of the fault inside it. -/
def DocumentFault.causes (fault : DocumentFault) : List String :=
  [fault.message, match fault with
    | .malformed inner => inner.message
    | .illFormed inner => inner.message]

end SchemaBinding.Markup
