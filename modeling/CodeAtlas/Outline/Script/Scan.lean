import CodeAtlas.Text.Blank
import CodeAtlas.Text.Lines
import CodeAtlas.Number.Digits
import CodeAtlas.Outline.Script.Syntax

/-! # Reading scripts character by character

A cursor stands at a token; blanks and comments before it have been passed. The readers here take
one token each, or fail and leave the cursor where it was. -/
namespace CodeAtlas.Outline.Script

/-- What is left of a source, where it begins, where the last token ended, what stands behind that
token, whether a line ended since then, and the comments since then. -/
structure Cursor where
  rest : List Char
  offset : Nat
  lastStop : Nat
  behind : List Char
  newLine : Bool
  comments : List Span

/-- A reader may fail; then nothing has been read. -/
abbrev Reader := StateT Cursor Option

def isLineEnd (c : Char) : Bool :=
  c == '\n' || c == '\r' || c.toNat == 0x2028 || c.toNat == 0x2029

def isTrivia (c : Char) : Bool :=
  Text.isBlank c || c.toNat == 0xFEFF || c.toNat == 0x2060 || c.toNat == 0x200B

/-- The length of a block comment's text with its end; all that is left if it has none. -/
def blockLength : List Char → Nat
  | [] => 0
  | '*' :: '/' :: _ => 2
  | _ :: cs => blockLength cs + 1

namespace Cursor

/-- Past `n` characters of a token. -/
def take (c : Cursor) (n : Nat) : Cursor :=
  ⟨c.rest.drop n, c.offset + n, c.offset + n, c.rest.drop n, false, []⟩

def skipTrivia : (fuel : Nat) → Cursor → Cursor
  | 0, c => c
  | fuel + 1, c =>
      match c.rest with
      | '/' :: '/' :: cs =>
          let n := 2 + (cs.takeWhile fun d => !isLineEnd d).length
          skipTrivia fuel { c with
            rest := c.rest.drop n
            offset := c.offset + n
            comments := c.comments ++ [⟨c.offset, n⟩] }
      | '/' :: '*' :: cs =>
          let n := 2 + blockLength cs
          skipTrivia fuel { c with
            rest := c.rest.drop n
            offset := c.offset + n
            newLine := c.newLine || (cs.take (n - 2)).any isLineEnd
            comments := c.comments ++ [⟨c.offset, n⟩] }
      | d :: cs =>
          if isTrivia d then
            skipTrivia fuel { c with
              rest := cs
              offset := c.offset + 1
              newLine := c.newLine || isLineEnd d }
          else c
      | [] => c

def settle (c : Cursor) : Cursor := c.skipTrivia (c.rest.length + 1)

def start (source : List Char) : Cursor := ⟨source, 0, 0, source, false, []⟩

end Cursor

/-- Past `n` characters and what separates them from the next token. -/
def eat (n : Nat) : Reader Unit := modify fun c => (c.take n).settle

/-- Past `n` characters only. -/
def eatRaw (n : Nat) : Reader Unit := modify fun c => c.take n

def reject : Reader α := fun _ => none

def guardThat (b : Bool) : Reader Unit := if b then pure () else reject

def ahead : Reader (List Char) := return (← get).rest

def atEnd : Reader Bool := return (← ahead).isEmpty

/-- Whether the text ahead begins with some characters. -/
def sees (s : String) : Reader Bool := return (Text.afterStart? s.toList (← ahead)).isSome

def newLineAhead : Reader Bool := return (← get).newLine

def mark (s : String) : Reader Unit := do
  guardThat (← sees s)
  eat s.length

/-- A punctuation mark that none of some characters may follow. -/
def markNotBefore (s : String) (following : String) : Reader Unit := do
  match Text.afterStart? s.toList (← ahead) with
  | some (c :: _) => guardThat (!following.toList.contains c)
  | some [] => pure ()
  | none => reject
  eat s.length

def maybe (r : Reader α) : Reader (Option α) := fun c =>
  match r c with
  | some (a, d) => some (some a, d)
  | none => some (none, c)

/-- Whether a reader succeeds; its characters are read if so. -/
def accepts (r : Reader Unit) : Reader Bool := return (← maybe r).isSome

/-- Whether a reader would succeed; nothing is read. -/
def wouldRead (r : Reader α) : Reader Bool := fun c => some ((r c).isSome, c)

def manyWithin (r : Reader α) : (fuel : Nat) → Reader (List α)
  | 0 => pure []
  | fuel + 1 => fun c =>
      match r c with
      | none => some ([], c)
      | some (a, d) =>
          if c.offset < d.offset then
            (manyWithin r fuel d).map fun (as, e) => (a :: as, e)
          else some ([a], d)

def many (r : Reader α) : Reader (List α) := fun c => manyWithin r (c.rest.length + 1) c

/-! ## Words -/

def isNameBreak (c : Char) : Bool :=
  c.toNat ≤ 0x1F || isTrivia c ||
    ":;`\"'@#.,|^&<=>+-*/\\%?!~()[]\x7b\x7d".toList.contains c

def escapedNameChar : List Char → Nat
  | '\\' :: 'u' :: '\x7b' :: cs => (cs.takeWhile (· != '\x7d')).length + 4
  | '\\' :: 'u' :: _ => 6
  | _ => 0

def nameRestLength : (fuel : Nat) → List Char → Nat
  | 0, _ => 0
  | fuel + 1, cs =>
      match cs with
      | [] => 0
      | c :: ds =>
          if c = '\\' then
            let n := escapedNameChar cs
            if n = 0 then 0 else n + nameRestLength fuel (cs.drop n)
          else if isNameBreak c then 0
          else 1 + nameRestLength fuel ds

/-- The length of the name that a text begins with; zero if there is none. -/
def nameLength (cs : List Char) : Nat :=
  match cs with
  | [] => 0
  | c :: _ => if Number.isDigit c then 0 else nameRestLength cs.length cs

/-- The word ahead, empty if there is none. -/
def wordAhead : Reader String := do
  let cs ← ahead
  return String.ofList (cs.take (nameLength cs))

def keyword (w : String) : Reader Unit := do
  guardThat ((← wordAhead) == w)
  eat w.length

def reservedWords : List String :=
  ["break", "case", "catch", "class", "const", "continue", "debugger", "default", "delete", "do",
    "else", "export", "extends", "finally", "for", "function", "if", "import", "in", "instanceof",
    "new", "null", "return", "super", "switch", "this", "throw", "true", "false", "try", "typeof",
    "var", "void", "while", "with", "enum"]

/-! ## Semicolons that are not written

A brace that ends a declaration or a block may be followed by a semicolon that is not written.
Where one is inferred only after comments on the line of the brace, what the brace ends reaches
over those comments. -/

def isWhite (c : Char) : Bool :=
  c == ' ' || c == '\t' || c == '\n' || c == '\r' || c == '\x0b' || c == '\x0c'

def afterWhite (cs : List Char) : List Char := cs.dropWhile isWhite

def commentLength? : List Char → Option Nat
  | '/' :: '/' :: cs => some (2 + (cs.takeWhile (· != '\n')).length)
  | '/' :: '*' :: cs => some (2 + blockLength cs)
  | _ => none

/-- What follows white space and comments. A slash that begins no comment is no place for a
semicolon. -/
def afterComments? : (fuel : Nat) → List Char → Option (List Char)
  | 0, _ => none
  | fuel + 1, cs =>
      let cs := afterWhite cs
      match commentLength? cs with
      | some n => afterComments? fuel (cs.drop n)
      | none => if cs.head? = some '/' then none else some cs

/-- Whether a text begins with the operator `in` or `instanceof`. -/
def beginsWithMembership : List Char → Bool
  | 'i' :: 'n' :: cs =>
      !((cs.head?.map Char.isAlpha).getD false) ||
        match Text.afterStart? "stanceof".toList cs with
        | some rest => !((rest.head?.map Char.isAlpha).getD false)
        | none => false
  | _ => false

/-- Whether what a new line begins with lets the line before it end. With `asValue`, what stands
before may be a value, which brackets carry on. -/
def beginsAnew (asValue : Bool) : List Char → Bool
  | [] => true
  | '+' :: cs => cs.head? = some '+'
  | '-' :: cs => cs.head? = some '-'
  | '!' :: cs => cs.head? ≠ some '='
  | c :: cs =>
      if c = '(' ∨ c = '[' then !asValue
      else if c.toNat = 0x60 ∨ ",.;*%><=?^|&/:".toList.contains c then false
      else !beginsWithMembership (c :: cs)

/-- Whether a semicolon is inferred right before a text. -/
def infersSemicolon (asValue : Bool) (text : List Char) : Bool :=
  let atBrace (cs : List Char) : Bool :=
    match cs with
    | '\x7d' :: rest => asValue || (afterWhite rest).head? != some ':'
    | _ => false
  match text.dropWhile fun c => c != '\n' && isWhite c with
  | [] => true
  | '\n' :: rest => ((afterComments? (rest.length + 1) rest).map (beginsAnew asValue)).getD false
  | '/' :: rest => ((afterComments? (rest.length + 2) ('/' :: rest)).map atBrace).getD false
  | cs => atBrace cs

/-- How far comments reach before a semicolon is inferred, if one is. -/
def semicolonReach? (asValue : Bool) : (fuel : Nat) → List Char → Option Nat
  | 0, _ => none
  | fuel + 1, cs =>
      if infersSemicolon asValue cs then some 0
      else
        let rest := afterWhite cs
        (commentLength? rest).bind fun n =>
          (semicolonReach? asValue fuel (rest.drop n)).map (· + (cs.length - rest.length) + n)

/-- Let what ends here reach to a semicolon that is not written. -/
def reachSemicolon (asValue : Bool) : Reader Unit := modify fun c =>
  let n := (semicolonReach? asValue (c.behind.length + 1) c.behind).getD 0
  { c with lastStop := c.lastStop + n, behind := c.behind.drop n }

/-! ## Nodes -/

def offset : Reader Nat := return (← get).offset

/-- A node over what `body` reads, with the children that it gives. -/
def node (kind : Kind) (body : Reader (List Node)) : Reader Node := do
  let start ← offset
  let children ← body
  let stop := (← get).lastStop
  return .mk kind none ⟨start, stop - start⟩ children

def leaf (kind : Kind) (body : Reader Unit) : Reader Node := node kind do body; return []

def nodeFrom (kind : Kind) (start : Nat) (children : List Node) : Reader Node := do
  let stop := (← get).lastStop
  return .mk kind none ⟨start, stop - start⟩ children

/-- Any name, reserved or not. -/
def anyName (kind : Kind) : Reader Node := do
  let n := nameLength (← ahead)
  guardThat (n != 0)
  leaf kind (eat n)

def identifier : Reader Node := do
  guardThat (!reservedWords.contains (← wordAhead))
  anyName .identifier

def keptWord (kind : Kind) (w : String) : Reader Node := leaf kind (keyword w)

/-- The comments that have been passed since the last token. -/
def commentsHere : Reader (List Node) :=
  return (← get).comments.map fun s => .mk .comment none s []

/-! ## Literals -/

/-- The length of the text of a string up to its closing quote, the quote included. -/
def stringLength (quote : Char) : List Char → Option Nat
  | [] => none
  | '\\' :: _ :: cs => (stringLength quote cs).map (· + 2)
  | c :: cs => if c = quote then some 1 else (stringLength quote cs).map (· + 1)

def stringLiteral : Reader Node := do
  match ← ahead with
  | c :: cs =>
      guardThat (c == '"' || c == '\'')
      match stringLength c cs with
      | some n => leaf .string (eat (n + 1))
      | none => reject
  | [] => reject

/-- The length of the pattern of a regular expression after its first slash, the last slash
included. -/
def regexLength (inClass : Bool) : List Char → Option Nat
  | [] => none
  | '\\' :: _ :: cs => (regexLength inClass cs).map (· + 2)
  | c :: cs =>
      if isLineEnd c then none
      else if c = '/' ∧ !inClass then some 1
      else (regexLength (c = '[' || (inClass && c != ']')) cs).map (· + 1)

def regexLiteral : Reader Node := do
  match ← ahead with
  | '/' :: cs =>
      match regexLength false cs with
      | some n =>
          let flags := (cs.drop n).takeWhile (·.isAlpha)
          leaf .regex (eat (1 + n + flags.length))
      | none => reject
  | _ => reject

def numberLength (cs : List Char) : Nat :=
  let digitsOf (cs : List Char) : Nat := (cs.takeWhile fun c => Number.isDigit c || c == '_').length
  let mantissa :=
    let whole := digitsOf cs
    match cs.drop whole with
    | '.' :: rest => whole + 1 + digitsOf rest
    | _ => whole
  let exponent :=
    match cs.drop mantissa with
    | e :: s :: rest =>
        if e != 'e' && e != 'E' then 0
        else if s = '+' ∨ s = '-' then 2 + digitsOf rest
        else 1 + digitsOf (s :: rest)
    | _ => 0
  let suffix (n : Nat) : Nat := if (cs.drop n).head? = some 'n' then n + 1 else n
  match cs with
  | '0' :: x :: rest =>
      if "xXbBoO".toList.contains x then
        suffix (2 + (rest.takeWhile fun c => c.isAlphanum && c != 'n' || c == '_').length)
      else suffix (mantissa + exponent)
  | c :: rest =>
      if Number.isDigit c || (c == '.' && (rest.head?.map Number.isDigit).getD false) then
        suffix (mantissa + exponent)
      else 0
  | [] => 0

def numberLiteral : Reader Node := do
  let n := numberLength (← ahead)
  guardThat (n != 0)
  leaf .number (eat n)

/-- The length of template text up to a substitution or the closing backtick. -/
def templateTextLength : List Char → Nat
  | [] => 0
  | '\\' :: _ :: cs => templateTextLength cs + 2
  | c :: cs =>
      if c.toNat = 0x60 then 0
      else if c = '$' ∧ cs.head? = some '\x7b' then 0
      else templateTextLength cs + 1

end CodeAtlas.Outline.Script
