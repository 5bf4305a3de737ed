import CodeAtlas.Json.Basic
import CodeAtlas.Json.Error
import CodeAtlas.Digest.Hex

/-! # Reading JSON text

A cursor walks over the text and keeps its place for error messages. The readers of scalars come
first, then arbitrary documents; documents of an expected shape are read in `Json.Shape`. -/
namespace CodeAtlas.Json

open Number

/-- The rest of a text and how much of it has been read. -/
structure Cursor where
  rest : List Char
  line : Nat
  column : Nat
  deriving Repr

namespace Cursor

def start (text : List Char) : Cursor := ⟨text, 1, 0⟩

def next (c : Cursor) : Cursor :=
  match c.rest with
  | [] => c
  | '\n' :: rest => ⟨rest, c.line + 1, 0⟩
  | ch :: rest => ⟨rest, c.line, c.column + ch.utf8Size⟩

def fail (c : Cursor) (fault : Fault) : Except ReadError α :=
  .error ⟨fault, c.line, c.column⟩

def failAhead (c : Cursor) (fault : Fault) : Except ReadError α :=
  match c.rest with
  | [] => c.fail fault
  | '\n' :: _ => .error ⟨fault, c.line + 1, 0⟩
  | _ :: _ => .error ⟨fault, c.line, c.column + 1⟩

def isSpace (ch : Char) : Bool := ch == ' ' || ch == '\n' || ch == '\t' || ch == '\r'

def skip : (cs : List Char) → Cursor → Cursor
  | [], c => c
  | _ :: cs, c =>
      match c.rest with
      | ch :: _ => if isSpace ch then skip cs c.next else c
      | [] => c

def skipSpace (c : Cursor) : Cursor := skip c.rest c

def peek? (c : Cursor) : Option Char := c.rest.head?

end Cursor

/-- A reader takes a cursor and gives a value with the cursor behind it. -/
abbrev Reader (α : Type) := Cursor → Except ReadError (α × Cursor)

/-- The rest of a word whose first letter has been seen. -/
def readWord : List Char → Reader Unit
  | [], c => .ok ((), c)
  | ch :: chs, c =>
      match c.rest with
      | [] => c.fail .endInValue
      | d :: _ => if d = ch then readWord chs c.next else c.next.fail .word

def readHex4 : Reader Nat := fun c =>
  match c.rest with
  | a :: b :: d :: e :: _ =>
      let after := c.next.next.next.next
      match Digest.hexValue? a, Digest.hexValue? b, Digest.hexValue? d, Digest.hexValue? e with
      | some a, some b, some d, some e => .ok (((a * 16 + b) * 16 + d) * 16 + e, after)
      | _, _, _, _ => after.fail .escape
  | [_, _, _] => c.next.next.next.fail .endInString
  | [_, _] => c.next.next.fail .endInString
  | [_] => c.next.fail .endInString
  | [] => c.fail .endInString

/-- What follows `\u`: a character, or two halves of one. -/
def readUnicodeEscape : Reader Char := fun c =>
  match readHex4 c with
  | .error e => .error e
  | .ok (n, c) =>
      if 0xDC00 ≤ n ∧ n ≤ 0xDFFF then c.fail .surrogate
      else if 0xD800 ≤ n ∧ n ≤ 0xDBFF then
        match c.rest with
        | [] => c.fail .endInString
        | '\\' :: 'u' :: _ =>
            match readHex4 c.next.next with
            | .error e => .error e
            | .ok (m, c) =>
                if 0xDC00 ≤ m ∧ m ≤ 0xDFFF then
                  .ok (Char.ofNat ((n - 0xD800) * 0x400 + (m - 0xDC00) + 0x10000), c)
                else c.fail .surrogate
        | ['\\'] => c.next.fail .endInString
        | '\\' :: _ :: _ => c.next.next.fail .escapeEnd
        | _ :: _ => c.next.fail .escapeEnd
      else .ok (Char.ofNat n, c)

def readEscape : Reader Char := fun c =>
  match c.rest with
  | [] => c.fail .endInString
  | '"' :: _ => .ok ('"', c.next)
  | '\\' :: _ => .ok ('\\', c.next)
  | '/' :: _ => .ok ('/', c.next)
  | 'b' :: _ => .ok (Char.ofNat 8, c.next)
  | 'f' :: _ => .ok (Char.ofNat 12, c.next)
  | 'n' :: _ => .ok ('\n', c.next)
  | 'r' :: _ => .ok ('\r', c.next)
  | 't' :: _ => .ok ('\t', c.next)
  | 'u' :: _ => readUnicodeEscape c.next
  | _ :: _ => c.next.fail .escape

/-- The characters up to the closing quote, and past it. -/
def readChars : (fuel : Nat) → Reader (List Char)
  | 0, c => c.fail .endInString
  | fuel + 1, c =>
      match c.rest with
      | [] => c.fail .endInString
      | '"' :: _ => .ok ([], c.next)
      | '\\' :: _ =>
          match readEscape c.next with
          | .error e => .error e
          | .ok (ch, c) =>
              match readChars fuel c with
              | .error e => .error e
              | .ok (chs, c) => .ok (ch :: chs, c)
      | ch :: _ =>
          if ch.toNat < 32 then c.next.fail .control
          else
            match readChars fuel c.next with
            | .error e => .error e
            | .ok (chs, c) => .ok (ch :: chs, c)

def readStringBody : Reader String := fun c =>
  match readChars (c.rest.length + 1) c with
  | .error e => .error e
  | .ok (chs, c) => .ok (String.ofList chs, c)

/-- The product or quotient of two numbers, rounded once. -/
def mulPow (x : Binary64) (k : Nat) : Binary64 :=
  match x.decode, (Binary64.ofInt (Nat.pow 10 k)).decode with
  | .finite _ m e, .finite _ n f =>
      let depth := BinaryFormat.double.depth
      .ofNatBits (BinaryFormat.double.ofRatio (m * n * Nat.pow 2 (e + f)) (Nat.pow 2 (2 * depth)))
  | _, _ => .ofNatBits BinaryFormat.double.infinityBits

def divPow (x : Binary64) (k : Nat) : Binary64 :=
  match x.decode, (Binary64.ofInt (Nat.pow 10 k)).decode with
  | .finite _ m e, .finite _ n f =>
      .ofNatBits (BinaryFormat.double.ofRatio (m * Nat.pow 2 e) (n * Nat.pow 2 f))
  | _, _ => .ofNatBits 0

/-- A number with a point or an exponent: its digits are rounded to 64 bits, then scaled by a
rounded power of ten, in steps of at most 308. -/
def scaleDouble (negative : Bool) (significand : Nat) (exponent : Int) (c : Cursor) :
    Except ReadError (JsonNumber × Cursor) :=
  let signed (x : Binary64) : JsonNumber :=
    .double (if negative then ⟨x.bits ||| 0x8000000000000000⟩ else x)
  let x := Binary64.ofInt significand
  if significand = 0 then .ok (signed x, c)
  else if 0 ≤ exponent then
    if 308 < exponent then c.fail .range
    else
      let y := mulPow x exponent.toNat
      if y.isFinite then .ok (signed y, c) else c.fail .range
  else
    let k := (-exponent).toNat
    if k ≤ 308 then .ok (signed (divPow x k), c)
    else if k ≤ 616 then .ok (signed (divPow (divPow x 308) (k - 308)), c)
    else .ok (signed (.ofNatBits 0), c)

/-- The largest number that the digits of a number are counted up to. -/
def maxSignificand : Nat := 0xFFFFFFFFFFFFFFFF

/-- Digits added to a significand while it stays below the bound: the significand, how many were
taken, and whether one was left because of the bound. -/
def takeDigits : (fuel significand count : Nat) → Cursor → Nat × Nat × Bool × Cursor
  | 0, n, k, c => (n, k, false, c)
  | fuel + 1, n, k, c =>
      match c.peek?.bind digitValue? with
      | none => (n, k, false, c)
      | some d =>
          if maxSignificand < 10 * n + d then (n, k, true, c)
          else takeDigits fuel (10 * n + d) (k + 1) c.next

/-- Digits passed over, with their number. -/
def dropDigits : (fuel count : Nat) → Cursor → Nat × Cursor
  | 0, k, c => (k, c)
  | fuel + 1, k, c =>
      match c.peek?.bind digitValue? with
      | none => (k, c)
      | some _ => dropDigits fuel (k + 1) c.next

/-- The exponent part, from its letter on. -/
def readExponent (negative : Bool) (significand : Nat) (exponent : Int) :
    Reader JsonNumber := fun c =>
  let c := c.next
  let down := c.peek? == some '-'
  let c := if down || c.peek? == some '+' then c.next else c
  match c.rest with
  | [] => c.fail .endInValue
  | d :: _ =>
      match digitValue? d with
      | none => c.next.fail .number
      | some _ =>
          let (_, after) := dropDigits c.rest.length 0 c
          let size := Number.value (c.rest.take (c.rest.length - after.rest.length))
          if 0x80000000 ≤ size then
            if significand ≠ 0 ∧ !down then
              -- The bound is noticed at the digit that crosses it.
              after.fail .range
            else scaleDouble negative 0 0 after
          else
            scaleDouble negative significand (if down then exponent - size else exponent + size)
              after

def isExponentMark (c : Cursor) : Bool := c.peek? == some 'e' || c.peek? == some 'E'

/-- The fraction part, from its point on. -/
def readFraction (negative : Bool) (significand : Nat) (exponent : Int) :
    Reader JsonNumber := fun c =>
  let c := c.next
  match c.peek?.bind digitValue? with
  | none => if c.rest.isEmpty then c.failAhead .endInValue else c.failAhead .number
  | some _ =>
      let (n, k, _, c) := takeDigits c.rest.length significand 0 c
      let (_, c) := dropDigits c.rest.length 0 c
      if isExponentMark c then readExponent negative n (exponent - k) c
      else scaleDouble negative n (exponent - k) c

def readNumber (negative : Bool) : Reader JsonNumber := fun c =>
  match c.rest with
  | [] => c.fail .endInValue
  | d :: _ =>
      match digitValue? d with
      | none => c.next.fail .number
      | some first =>
          let c := c.next
          if first = 0 ∧ (c.peek?.bind digitValue?).isSome then c.failAhead .number
          else
            let (n, _, isOver, c) := takeDigits (if first = 0 then 0 else c.rest.length) first 0 c
            let (extra, c) := if isOver then dropDigits c.rest.length 0 c else (0, c)
            if c.peek? == some '.' then readFraction negative n extra c
            else if isExponentMark c then readExponent negative n extra c
            else if isOver then scaleDouble negative n extra c
            else if !negative then .ok (.int n, c)
            else if n = 0 ∨ 0x8000000000000000 < n then
              .ok (.double ⟨(Binary64.ofInt n).bits ||| 0x8000000000000000⟩, c)
            else .ok (.int (-(n : Int)), c)

/-- Whether another item follows in an array, the cursor at it. -/
def nextItem (first : Bool) : Reader Bool := fun c =>
  let c := c.skipSpace
  match c.peek? with
  | none => c.failAhead .endInList
  | some ']' => .ok (false, c)
  | some ch =>
      if first then .ok (true, c)
      else if ch = ',' then
        let c := c.next.skipSpace
        match c.peek? with
        | some ']' => c.failAhead .trailingComma
        | some _ => .ok (true, c)
        | none => c.failAhead .endInValue
      else c.failAhead .commaOrEndOfList

def closeArray : Reader Unit := fun c =>
  let c := c.skipSpace
  match c.peek? with
  | some ']' => .ok ((), c.next)
  | some ',' =>
      let c := c.next.skipSpace
      if c.peek? == some ']' then c.failAhead .trailingComma else c.failAhead .trailing
  | some _ => c.failAhead .trailing
  | none => c.failAhead .endInList

/-- Whether another field follows in an object, the cursor at its key. -/
def nextField (first : Bool) : Reader Bool := fun c =>
  let c := c.skipSpace
  match c.peek? with
  | none => c.failAhead .endInObject
  | some '}' => .ok (false, c)
  | some ch =>
      if first then if ch = '"' then .ok (true, c) else c.failAhead .key
      else if ch = ',' then
        let c := c.next.skipSpace
        match c.peek? with
        | some '"' => .ok (true, c)
        | some '}' => c.failAhead .trailingComma
        | some _ => c.failAhead .key
        | none => c.failAhead .endInValue
      else c.failAhead .commaOrEndOfObject

def closeObject : Reader Unit := fun c =>
  let c := c.skipSpace
  match c.peek? with
  | some '}' => .ok ((), c.next)
  | some ',' => c.failAhead .trailingComma
  | some _ => c.failAhead .trailing
  | none => c.failAhead .endInObject

def readColon : Reader Unit := fun c =>
  let c := c.skipSpace
  match c.peek? with
  | some ':' => .ok ((), c.next)
  | some _ => c.failAhead .colon
  | none => c.failAhead .endInObject

/-- The items of an array, each read by `item`. -/
def readItems (item : Reader α) : (fuel : Nat) → (first : Bool) → Reader (List α)
  | 0, _, c => c.fail .endInList
  | fuel + 1, first, c => do
      let (more, c) ← nextItem first c
      if more then
        let (a, c) ← item c
        let (rest, c) ← readItems item fuel false c
        .ok (a :: rest, c)
      else .ok ([], c)

/-- The fields of an object, each value read by `item`; of two fields with one name the later
counts, at the place of the earlier. -/
def readFields (item : Reader Json) :
    (fuel : Nat) → (first : Bool) → List (String × Json) → Reader (List (String × Json))
  | 0, _, _, c => c.fail .endInObject
  | fuel + 1, first, fields, c => do
      let (more, c) ← nextField first c
      if more then
        let (key, c) ← readStringBody c.next
        let (_, c) ← readColon c
        let (j, c) ← item c
        readFields item fuel false (setField fields key j) c
      else .ok (fields, c)

def maxDepth : Nat := 127

/-- Any document, arrays and objects nested at most `depth` deep. -/
def readValueWithin : (depth : Nat) → Reader Json := fun depth c =>
  let c := c.skipSpace
  match c.peek? with
  | none => c.failAhead .endInValue
  | some 'n' => do let (_, c) ← readWord ['u', 'l', 'l'] c.next; .ok (.null, c)
  | some 't' => do let (_, c) ← readWord ['r', 'u', 'e'] c.next; .ok (.bool true, c)
  | some 'f' => do let (_, c) ← readWord ['a', 'l', 's', 'e'] c.next; .ok (.bool false, c)
  | some '-' => do let (n, c) ← readNumber true c.next; .ok (.number n, c)
  | some '"' => do let (s, c) ← readStringBody c.next; .ok (.string s, c)
  | some '[' =>
      match depth with
      | 0 => c.failAhead .depth
      | depth + 1 => do
          let c := c.next
          let (items, c) ← readItems (readValueWithin depth) (c.rest.length + 1) true c
          let (_, c) ← closeArray c
          .ok (.array items, c)
  | some '{' =>
      match depth with
      | 0 => c.failAhead .depth
      | depth + 1 => do
          let c := c.next
          let (fields, c) ← readFields (readValueWithin depth) (c.rest.length + 1) true [] c
          let (_, c) ← closeObject c
          .ok (.object fields, c)
  | some ch =>
      if Number.isDigit ch then do let (n, c) ← readNumber false c; .ok (.number n, c)
      else c.failAhead .value

def readValue : Reader Json := readValueWithin maxDepth

/-- A whole text read by `item`; only blanks may follow. -/
def readAll (item : Reader α) (text : String) : Except ReadError α := do
  let (a, c) ← item (.start text.toList)
  let c := c.skipSpace
  match c.peek? with
  | none => .ok a
  | some _ => c.failAhead .trailing

def parse (text : String) : Except ReadError Json := readAll readValue text

end CodeAtlas.Json
