import CodeAtlas.Json.Basic
import CodeAtlas.Digest.Hex

/-! # JSON text

A document on one line without blanks. Quotes, backslashes and control characters are escaped;
every other character stands for itself. -/
namespace CodeAtlas.Json

open Number

/-- A character as it stands between the quotes of a string. -/
def escapeChar (c : Char) : List Char :=
  if c = '"' then ['\\', '"']
  else if c = '\\' then ['\\', '\\']
  else if c = '\n' then ['\\', 'n']
  else if c = '\r' then ['\\', 'r']
  else if c = '\t' then ['\\', 't']
  else if c.toNat = 8 then ['\\', 'b']
  else if c.toNat = 12 then ['\\', 'f']
  else if c.toNat < 32 then
    ['\\', 'u', '0', '0', Digest.hexDigit (c.toNat / 16), Digest.hexDigit (c.toNat % 16)]
  else [c]

def quoteChars (cs : List Char) : List Char := '"' :: (cs.flatMap escapeChar ++ ['"'])

def intChars (n : Int) : List Char :=
  if n < 0 then '-' :: digits n.natAbs else digits n.natAbs

def numberChars : JsonNumber → List Char
  | .int n => intChars n
  | .double x => (x.dataText.getD "null").toList
  | .single x => (x.dataText.getD "null").toList

mutual

def chars : Json → List Char
  | .null => "null".toList
  | .bool b => (if b then "true" else "false").toList
  | .number n => numberChars n
  | .string s => quoteChars s.toList
  | .array items => '[' :: itemChars items
  | .object fields => '{' :: fieldChars fields

/-- The items that are left of an array, with its end. -/
def itemChars : List Json → List Char
  | [] => [']']
  | [j] => chars j ++ [']']
  | j :: k :: rest => chars j ++ ',' :: itemChars (k :: rest)

/-- The fields that are left of an object, with its end. -/
def fieldChars : List (String × Json) → List Char
  | [] => ['}']
  | [(key, j)] => quoteChars key.toList ++ ':' :: (chars j ++ ['}'])
  | (key, j) :: f :: rest => quoteChars key.toList ++ ':' :: (chars j ++ ',' :: fieldChars (f :: rest))

end

def render (j : Json) : String := String.ofList j.chars

/-! ## Text over several lines -/

/-- A line break and the blanks of a depth, two for each level. -/
def breakTo (depth : Nat) : List Char := '\n' :: List.replicate (2 * depth) ' '

mutual

/-- The characters of a document with a line for each item and field. -/
def openChars (depth : Nat) : Json → List Char
  | .array (item :: items) => '[' :: openItems depth (item :: items)
  | .object (f :: fields) => '{' :: openFields depth (f :: fields)
  | j => chars j

/-- The items that are left of an array, with its end. -/
def openItems (depth : Nat) : List Json → List Char
  | [] => breakTo depth ++ [']']
  | j :: rest =>
      breakTo (depth + 1) ++ openChars (depth + 1) j ++ (if rest.isEmpty then [] else [',']) ++
        openItems depth rest

/-- The fields that are left of an object, with its end. -/
def openFields (depth : Nat) : List (String × Json) → List Char
  | [] => breakTo depth ++ ['}']
  | (key, j) :: rest =>
      breakTo (depth + 1) ++ quoteChars key.toList ++ [':', ' '] ++ openChars (depth + 1) j ++
        (if rest.isEmpty then [] else [',']) ++ openFields depth rest

end

/-- The text of a document with a line for each item and field. -/
def renderOpen (j : Json) : String := String.ofList (j.openChars 0)

end CodeAtlas.Json
