/-! # Why a text is no document

Each error names a cause and the place in the text where it was noticed. -/
namespace CodeAtlas.Json

/-- What is wrong at a place. The last case is a document that does not have the expected shape. -/
inductive Fault where
  | endInList
  | endInObject
  | endInString
  | endInValue
  | colon
  | commaOrEndOfList
  | commaOrEndOfObject
  | word
  | value
  | escape
  | number
  | range
  | control
  | key
  | surrogate
  | trailingComma
  | trailing
  | escapeEnd
  | depth
  | shape (message : String)
  deriving DecidableEq, Repr

def Fault.message : Fault → String
  | endInList => "EOF while parsing a list"
  | endInObject => "EOF while parsing an object"
  | endInString => "EOF while parsing a string"
  | endInValue => "EOF while parsing a value"
  | colon => "expected `:`"
  | commaOrEndOfList => "expected `,` or `]`"
  | commaOrEndOfObject => "expected `,` or `\x7d`"
  | word => "expected ident"
  | value => "expected value"
  | escape => "invalid escape"
  | number => "invalid number"
  | range => "number out of range"
  | control => "control character (\\u0000-\\u001F) found while parsing a string"
  | key => "key must be a string"
  | surrogate => "lone leading surrogate in hex escape"
  | trailingComma => "trailing comma"
  | trailing => "trailing characters"
  | escapeEnd => "unexpected end of hex escape"
  | depth => "recursion limit exceeded"
  | shape message => message

/-- A cause with its line, counted from one, and its column, counted in bytes from zero. -/
structure ReadError where
  fault : Fault
  line : Nat
  column : Nat
  deriving DecidableEq, Repr

def ReadError.message (e : ReadError) : String :=
  e.fault.message ++ " at line " ++ toString e.line ++ " column " ++ toString e.column

end CodeAtlas.Json
