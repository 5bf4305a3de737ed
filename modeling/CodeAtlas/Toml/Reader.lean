import CodeAtlas.Number.Digits
import CodeAtlas.Text.Lines
import CodeAtlas.Toml.Value

/-! # Reading settings documents

Version 1.0 of the format: keys, values, headers and comments, line by line. A reader takes what it
reads from the front of the text or fails with the place where it did. -/
namespace CodeAtlas.Toml

open Number

/-- A failure: how much of the text was left, and what was expected there, as far as it is said. -/
structure Failure where
  left : Nat
  expected : String
  deriving DecidableEq, Repr

abbrev Reader := StateT (List Char) (Except Failure)

def fail : Reader α := fun cs => .error ⟨cs.length, ""⟩

/-- Say what was expected where a reader fails, unless it says so itself. -/
def expecting (what : String) (r : Reader α) : Reader α := fun cs =>
  match r cs with
  | .ok a => .ok a
  | .error e => .error (if e.expected.isEmpty then ⟨e.left, what⟩ else e)

def check (b : Bool) : Reader Unit := if b then pure () else fail

def peek : Reader (Option Char) := return (← get).head?

def next : Reader Char := do
  match ← get with
  | [] => fail
  | c :: cs => set cs; return c

/-- Whether given characters are ahead; they are read if so. -/
def reads (s : String) : Reader Bool := do
  match Text.afterStart? s.toList (← get) with
  | some rest => set rest; return true
  | none => return false

def text (s : String) : Reader Unit := do check (← reads s)

/-- The longest run of characters that satisfy `p`. -/
def run (p : Char → Bool) : Reader (List Char) := do
  let (taken, rest) := (← get).span p
  set rest
  return taken

/-- As often as a reader succeeds. The text must get shorter each time. -/
def many (r : Reader (Option α)) : (fuel : Nat) → Reader (List α)
  | 0 => fail
  | fuel + 1 => do
      match ← r with
      | some a => return a :: (← many r fuel)
      | none => return []

/-- As often as a reader gives something, bounded by the length of the text. -/
def manyTimes (r : Reader (Option α)) : Reader (List α) := fun cs => many r (cs.length + 1) cs

/-! ## White space and comments -/

def isSpace (c : Char) : Bool := c == ' ' || c == '\t'

def spaces : Reader Unit := do let _ ← run isSpace

/-- Characters of comments, and of strings with care for the ones that end them. -/
def isPlain (c : Char) : Bool := c == '\t' || (0x20 ≤ c.toNat && c.toNat != 0x7F)

def newline : Reader Unit := do
  if !(← reads "\n") then text "\r\n"

/-- A comment up to the end of its line, if one is ahead. -/
def comment : Reader Unit := do
  if (← peek) == some '#' then let _ ← run isPlain

/-- Spaces, maybe a comment, and the end of the line or of the text. -/
def endOfLine : Reader Unit := do
  spaces
  comment
  if (← peek).isSome then newline

/-- Spaces, lines and comments between the values of an array. -/
def gap : Reader Unit := do
  let _ ← manyTimes do
    match ← peek with
    | some '#' => comment; newline; return some ()
    | some '\n' => newline; return some ()
    | some '\r' => newline; return some ()
    | some ' ' => spaces; return some ()
    | some '\t' => spaces; return some ()
    | _ => return none

/-! ## Strings -/

def digitOfBase? (base : Nat) (c : Char) : Option Nat :=
  let n :=
    if '0' ≤ c ∧ c ≤ '9' then c.toNat - 48
    else if 'a' ≤ c ∧ c ≤ 'f' then c.toNat - 87
    else if 'A' ≤ c ∧ c ≤ 'F' then c.toNat - 55
    else 16
  if n < base then some n else none

def unicodeEscape (length : Nat) : Reader Char := do
  let cs ← get
  let hex := cs.take length
  check (hex.length = length ∧ hex.all fun c => (digitOfBase? 16 c).isSome)
  let n := hex.foldl (fun n c => 16 * n + (digitOfBase? 16 c).getD 0) 0
  check n.isValidChar
  set (cs.drop length)
  return Char.ofNat n

def escape : Reader Char := do
  match ← next with
  | 'b' => return '\x08'
  | 't' => return '\t'
  | 'n' => return '\n'
  | 'f' => return '\x0c'
  | 'r' => return '\r'
  | '"' => return '"'
  | '\\' => return '\\'
  | 'u' => unicodeEscape 4
  | 'U' => unicodeEscape 8
  | _ => fail

def basicString : Reader String := do
  text "\""
  let cs ← manyTimes do
    match ← next with
    | '"' => return none
    | '\\' => return some (← escape)
    | c => check (isPlain c); return some c
  return String.ofList cs

/-- A string of one line in single quotes, without escapes. -/
def literalString : Reader String := do
  text "'"
  let cs ← run fun c => isPlain c && c != '\''
  text "'"
  return String.ofList cs

/-- The closing quotes of a string of several lines, and up to two quotes that belong to it. Fewer
than three quotes close nothing. -/
def closingQuotes (quote : Char) : Reader (Option (List Char)) := do
  let cs ← get
  let n := (cs.takeWhile (· == quote)).length
  if n < 3 then return none
  else
    let own := min (n - 3) 2
    set (cs.drop (own + 3))
    return some (List.replicate own quote)

/-- One character of a string of several lines; carriage returns before newlines are left out. -/
def lineCharacter : Reader Char := do
  let c ← next
  if c == '\r' then text "\n"; return '\n'
  else
    check (isPlain c || c == '\n')
    return c

/-- The end of a line behind a backslash: what follows on the next lines up to a character that is
no white space is left out. -/
def continuation : Reader Unit := do
  spaces
  newline
  let _ ← manyTimes do
    match ← peek with
    | some '\n' => newline; return some ()
    | some '\r' => newline; return some ()
    | some ' ' => spaces; return some ()
    | some '\t' => spaces; return some ()
    | _ => return none

def lineEndsHere : Reader Bool := do
  match (← get).dropWhile isSpace with
  | '\n' :: _ => return true
  | '\r' :: '\n' :: _ => return true
  | _ => return false

/-- A string of several lines, with escapes or without. -/
def longString (quote : Char) (escapes : Bool) : Reader String := do
  text (String.ofList (List.replicate 3 quote))
  if !(← reads "\n") then let _ ← reads "\r\n"
  let rec pieces : (fuel : Nat) → Reader (List Char)
    | 0 => fail
    | fuel + 1 => do
        match ← closingQuotes quote with
        | some own => return own
        | none =>
            if escapes && (← peek) == some '\\' then
              text "\\"
              if ← lineEndsHere then
                continuation
                pieces fuel
              else
                let c ← escape
                return c :: (← pieces fuel)
            else
              let c ← lineCharacter
              return c :: (← pieces fuel)
  return String.ofList (← fun cs => pieces (cs.length + 1) cs)

/-! ## Keys -/

def isBareKey (c : Char) : Bool := c.isAlphanum || c == '_' || c == '-'

def simpleKey : Reader String := do
  match ← peek with
  | some '"' => basicString
  | some '\'' => literalString
  | _ =>
      let cs ← run isBareKey
      check !cs.isEmpty
      return String.ofList cs

/-- Deepest nesting of arrays and braces, and longest dotted key, each plus one. -/
def depthLimit : Nat := 80

/-- Keys with dots between them: all but the last, and the last. -/
def dottedKey : Reader (List String × String) := do
  spaces
  let first ← simpleKey
  spaces
  let more ← manyTimes do
    if ← reads "." then
      spaces
      let key ← simpleKey
      spaces
      return some key
    else return none
  check (more.length + 1 < depthLimit)
  match more.getLast? with
  | none => return ([], first)
  | some last => return (first :: more.dropLast, last)

/-! ## Numbers, dates and times -/

/-- Digits of a base with single underscores between them, at least one. -/
def digitRun (base : Nat) : Reader (List Char) := do
  let isDigitHere (c : Char) : Bool := (digitOfBase? base c).isSome
  let cs ← run fun c => isDigitHere c || c == '_'
  let pieces := Text.cut '_' cs
  check (pieces.all (!·.isEmpty))
  return pieces.flatten

def digitsOfBase (base : Nat) : Reader Nat := do
  let ds ← digitRun base
  return ds.foldl (fun n c => base * n + (digitOfBase? base c).getD 0) 0

def greatestInteger : Nat := 0x7FFFFFFFFFFFFFFF

def sign : Reader Bool := do
  if ← reads "-" then return true
  let _ ← reads "+"
  return false

/-- Digits of a decimal number; only zero begins with a zero. -/
def wholePart : Reader (List Char) := do
  if ← reads "0" then return ['0'] else digitRun 10

/-- A decimal integer or a number with a point or an exponent. Numbers too great for the format are
refused, numbers below its least become infinite. -/
def decimalNumber : Reader Value := do
  let negative ← sign
  if ← reads "inf" then return .float ⟨if negative then 0xFFF0000000000000 else 0x7FF0000000000000⟩
  else if ← reads "nan" then
    return .float ⟨if negative then 0xFFF8000000000000 else 0x7FF8000000000000⟩
  else
    let whole ← wholePart
    let fraction ← if ← reads "." then some <$> digitRun 10 else pure none
    let exponent ←
      if (← peek) == some 'e' || (← peek) == some 'E' then do
        let _ ← next
        let below ← sign
        let n := value (← digitRun 10)
        pure (some (if below then -(n : Int) else n))
      else pure none
    match fraction, exponent with
    | none, none =>
        let n := value whole
        check (n ≤ greatestInteger || (negative && n == greatestInteger + 1))
        return .integer (if negative then -(n : Int) else n)
    | _, _ =>
        let places := fraction.getD []
        let x := Binary64.ofDecimal negative (value (whole ++ places))
          (exponent.getD 0 - (places.length : Int))
        check (negative || x.isFinite)
        return .float x

def basedInteger (mark : String) (base : Nat) : Reader Value := do
  text mark
  let n ← digitsOfBase base
  check (n ≤ greatestInteger)
  return .integer n

def twoDigits (low high : Nat) : Reader Nat := do
  let a ← next
  let b ← next
  check (isDigit a && isDigit b)
  let n := value [a, b]
  check (low ≤ n && n ≤ high)
  return n

def twoDigitsThen (mark : Char) : Reader Bool := do
  match ← get with
  | a :: b :: c :: _ => return isDigit a && isDigit b && c == mark
  | _ => return false

def isLeapYear (year : Nat) : Bool :=
  year % 4 == 0 && (year % 100 != 0 || year % 400 == 0)

def daysOfMonth (year month : Nat) : Nat :=
  if month = 2 then (if isLeapYear year then 29 else 28)
  else if month = 4 ∨ month = 6 ∨ month = 9 ∨ month = 11 then 30
  else 31

/-- Hours, minutes, seconds and maybe a fraction. -/
def timeOfDay : Reader Unit := do
  let _ ← twoDigits 0 23
  text ":"
  let _ ← twoDigits 0 59
  text ":"
  let _ ← twoDigits 0 60
  if (← peek) == some '.' then
    text "."
    let ds ← run isDigit
    check !ds.isEmpty

def timeOffset : Reader Unit := do
  match ← peek with
  | some 'Z' | some 'z' => let _ ← next
  | some '+' | some '-' =>
      let _ ← next
      let _ ← twoDigits 0 23
      text ":"
      let _ ← twoDigits 0 59
  | _ => return ()

/-- A date, maybe with a time and an offset. -/
def date : Reader Value := do
  let century ← twoDigits 0 99
  let rest ← twoDigits 0 99
  let year := 100 * century + rest
  text "-"
  let month ← twoDigits 1 12
  text "-"
  let _ ← twoDigits 1 (daysOfMonth year month)
  match ← get with
  | d :: a :: b :: c :: _ =>
      if (d == 'T' || d == 't' || d == ' ') && isDigit a && isDigit b && c == ':' then
        let _ ← next
        timeOfDay
        timeOffset
  | _ => pure ()
  return .dateTime

/-- Whether a date is ahead: four digits and a dash. -/
def dateAhead : Reader Bool := do
  let cs ← get
  return (cs.take 4).length == 4 && (cs.take 4).all isDigit && (cs.drop 4).head? == some '-'

def numberOrDate : Reader Value := do
  if ← dateAhead then date
  else if ← twoDigitsThen ':' then timeOfDay; return .dateTime
  else
    match ← get with
    | '0' :: 'x' :: _ => basedInteger "0x" 16
    | '0' :: 'o' :: _ => basedInteger "0o" 8
    | '0' :: 'b' :: _ => basedInteger "0b" 2
    | _ => decimalNumber

/-! ## Values -/

def anyString (quote : Char) : Reader String := do
  let long := List.replicate 3 quote
  let isLong := (Text.afterStart? long (← get)).isSome
  if quote == '"' then if isLong then longString '"' true else basicString
  else if isLong then longString '\'' false else literalString

/-- Items between brackets with commas between them and maybe one behind the last. -/
def arrayItems (item : Reader Value) : Reader (List Value) := do
  text "["
  gap
  let items ← manyTimes do
    if (← peek) == some ']' then return none
    let v ← item
    gap
    if !(← reads ",") then check ((← peek) == some ']')
    gap
    return some v
  text "]"
  return items

/-- An assignment: a key, an equals sign and a value. -/
def assignment (value : Reader Value) : Reader Assignment := do
  let (path, key) ← expecting "invalid key" dottedKey
  expecting "expected `.`, `=`" (text "=")
  spaces
  return ⟨path, key, ← expecting "invalid string\nexpected `\"`, `'`" value⟩

/-- Assignments between braces on one line, with commas between them. -/
def inlineTable (value : Reader Value) : Reader Value := do
  text "\x7b"
  spaces
  let assignments ←
    if (← peek) == some '\x7d' then pure []
    else do
      let first ← assignment value
      spaces
      let more ← manyTimes do
        if ← reads "," then
          let a ← assignment value
          spaces
          return some a
        else return none
      pure (first :: more)
  text "\x7d"
  match Entries.assignAll [] .inline assignments with
  | some entries => return .table .inline entries
  | none => fail

/-- A value in which arrays and braces nest at most `depth` deep. -/
def value : (depth : Nat) → Reader Value
  | 0 => fail
  | depth + 1 => do
      match ← peek with
      | some '"' => return .string (← anyString '"')
      | some '\'' => return .string (← anyString '\'')
      | some '[' => check (depth != 0); return .array false (← arrayItems (value depth))
      | some '\x7b' => check (depth != 0); inlineTable (value depth)
      | some 't' => text "true"; return .boolean true
      | some 'f' => text "false"; return .boolean false
      | some _ => numberOrDate
      | none => fail

/-! ## Documents -/

def anyValue : Reader Value := value depthLimit

/-- What a line holds. -/
inductive Line where
  | blank
  | assignment (a : Assignment)
  | header (path : List String) (key : String) (ofArray : Bool)

def line : Reader Line := do
  spaces
  match ← peek with
  | some '\n' | some '\r' | some '#' | none => endOfLine; return .blank
  | some '[' =>
      text "["
      let ofArray ← reads "["
      let (path, key) ← expecting "invalid key" dottedKey
      let close := if ofArray then "]]" else "]"
      expecting ("invalid table header\nexpected `.`, `" ++ close ++ "`") (text close)
      expecting "invalid table header\nexpected newline, `#`" endOfLine
      return .header path key ofArray
  | some _ =>
      let a ← assignment anyValue
      expecting "expected newline, `#`" endOfLine
      return .assignment a

def lines : Reader (List Line) := manyTimes do
  if (← peek).isNone then return none
  return some (← line)

/-- Lines put into sections: the assignments before the first header, and the sections. -/
def sections : List Line → List Assignment × List Section
  | [] => ([], [])
  | .blank :: rest => sections rest
  | .assignment a :: rest => (a :: (sections rest).1, (sections rest).2)
  | .header path key ofArray :: rest =>
      ([], ⟨path, key, ofArray, (sections rest).1⟩ :: (sections rest).2)

/-- A failure shown with its line and a mark below its place. -/
def Failure.message (source : List Char) (e : Failure) : String :=
  let before := source.take (source.length - e.left)
  let row := before.count '\n'
  let column := (before.reverse.takeWhile (· != '\n')).length
  let number := digits (row + 1)
  let margin := List.replicate (number.length + 1) ' '
  "TOML parse error at line " ++ String.ofList number ++ ", column " ++ Number.text (column + 1) ++
    "\n" ++ String.ofList margin ++ "|\n" ++ String.ofList number ++ " | " ++
    String.ofList ((Text.lines source)[row]?.getD []) ++ "\n" ++ String.ofList margin ++ "|" ++
    String.ofList (List.replicate (column + 1) ' ') ++ "^\n" ++ e.expected ++ "\n"

/-- Read a document. A mark of byte order may begin it. -/
def read (source : String) : Except String Entries :=
  let cs := match source.toList with
    | c :: cs => if c.toNat = 0xFEFF then cs else c :: cs
    | [] => []
  match lines cs with
  | .error e => .error (e.message cs)
  | .ok (ls, _) =>
      let (top, ss) := sections ls
      match document top ss with
      | some entries => .ok entries
      | none => .error "duplicate key\n"

end CodeAtlas.Toml
