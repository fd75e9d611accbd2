/-!
# Faults of YAML texts

Why a text is no document, why a document has no value, and why a value is not of the wanted form.
-/

namespace ClusterSim.Yaml

/-- What is wrong with a text or with a value in it. -/
inductive Fault where
  /-- A character that no text may contain. -/
  | forbiddenCharacter (c : Char)
  /-- A tab where indentation must be made of spaces. -/
  | tabIndentation
  /-- A quoted text without an end. -/
  | unclosedQuote
  /-- An escape sequence that means nothing. -/
  | badEscape
  /-- The mark of a document inside a quoted text. -/
  | markInQuote
  /-- The header of a block of text is not understood. -/
  | badBlockHeader
  /-- An anchor or alias without a proper name. -/
  | badAnchor
  /-- A malformed tag. -/
  | badTag
  /-- A tag with an undeclared handle. -/
  | undeclaredTagHandle (handle : String)
  /-- A malformed, unknown or repeated directive. -/
  | badDirective
  /-- A key without a colon. -/
  | missingColon
  /-- An indicator where it cannot stand. -/
  | misplacedIndicator
  /-- A character with which nothing can start. -/
  | noToken (c : Char)
  /-- Something other than the start of a document. -/
  | noDocumentStart
  /-- Something other than a value. -/
  | noValue
  /-- Something other than the next entry or the end of a collection. -/
  | noEntry
  /-- An alias of an anchor that has not been seen. -/
  | unknownAnchor (name : String)
  /-- More than one document. -/
  | severalDocuments
  /-- More aliases than may be followed. -/
  | tooManyAliases
  /-- Collections nested too deeply. -/
  | tooDeep
  /-- Two entries of one key. -/
  | duplicateKey
  /-- An integer of more than 64 bits. -/
  | wideInteger
  /-- A value not of the form that its tag names. -/
  | tagMismatch
  /-- A value of another form. -/
  | expected (form : String)
  /-- A field that must be there. -/
  | missingField (name : String)
  /-- A field that is there twice. -/
  | duplicateField (name : String)
deriving DecidableEq

/-- The fault in words. -/
def Fault.message : Fault → String
  | .forbiddenCharacter _ => "control characters are not allowed"
  | .tabIndentation => "found a tab where indentation is expected"
  | .unclosedQuote => "found the end of the text inside quotes"
  | .badEscape => "found an unknown escape sequence"
  | .markInQuote => "found the mark of a document inside quotes"
  | .badBlockHeader => "found an unknown header of a block of text"
  | .badAnchor => "found no name of an anchor"
  | .badTag => "found a malformed tag"
  | .undeclaredTagHandle handle => "found undeclared tag handle " ++ handle
  | .badDirective => "found a directive that is not understood"
  | .missingColon => "could not find the colon after a key"
  | .misplacedIndicator => "found an indicator that is not allowed here"
  | .noToken _ => "found a character that cannot start anything"
  | .noDocumentStart => "did not find the start of a document"
  | .noValue => "did not find a value"
  | .noEntry => "did not find the next entry of a collection"
  | .unknownAnchor name => "unknown anchor " ++ name
  | .severalDocuments => "found more than one document"
  | .tooManyAliases => "found too many aliases"
  | .tooDeep => "collections are nested too deeply"
  | .duplicateKey => "found two entries of one key"
  | .wideInteger => "found an integer of more than 64 bits"
  | .tagMismatch => "found a value that does not match its tag"
  | .expected form => "expected " ++ form
  | .missingField name => "missing field " ++ name
  | .duplicateField name => "duplicate field " ++ name

end ClusterSim.Yaml
