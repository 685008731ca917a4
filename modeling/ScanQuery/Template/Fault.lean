/-!
What can be wrong with an output template, in its text or in what it asks of the report.
-/

namespace ScanQuery.Template

/-- The reason why a template gives no text. -/
inductive Fault where
  | unclosedTag
  | unclosedComment
  | unclosedRaw
  | badCharacter (c : Char)
  | badString
  | badNumber
  | unexpectedEnd
  | unexpected (what : String)
  | unknownTag (name : String)
  | unknownFilter (name : String)
  | unknownTest (name : String)
  | undefinedValue
  | noValue
  | badOperand (operation : String)
  | notIterable
  | tooDeep
  deriving DecidableEq, Repr

/-- The reason in words. -/
def Fault.message : Fault → String
  | unclosedTag => "a tag is not closed"
  | unclosedComment => "a comment is not closed"
  | unclosedRaw => "a raw block is not closed"
  | badCharacter c => "unexpected character '" ++ String.singleton c ++ "'"
  | badString => "a string is not written properly"
  | badNumber => "a number is not written properly or too large"
  | unexpectedEnd => "unexpected end of the template"
  | unexpected what => "unexpected " ++ what
  | unknownTag name => "unknown tag '" ++ name ++ "'"
  | unknownFilter name => "unknown filter '" ++ name ++ "'"
  | unknownTest name => "unknown test '" ++ name ++ "'"
  | undefinedValue => "a value is undefined"
  | noValue => "an expression has no value"
  | badOperand operation => "a value does not admit '" ++ operation ++ "'"
  | notIterable => "a value cannot be iterated over"
  | tooDeep => "parts of the template are nested too deeply"

end ScanQuery.Template
