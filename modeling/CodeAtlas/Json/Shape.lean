import CodeAtlas.Json.Reader

/-! # Documents of an expected shape

Readers of strings, numbers, lists and records that refuse a document at the first place where it
has another shape. A record is an object, or an array of its fields in order; unknown fields are
passed over, and a field may stand only once. -/
namespace CodeAtlas.Json

open Number

def shown (s : String) : String :=
  let show1 (c : Char) : List Char :=
    if c = '"' then ['\\', '"']
    else if c = '\\' then ['\\', '\\']
    else if c = '\n' then ['\\', 'n']
    else if c = '\r' then ['\\', 'r']
    else if c = '\t' then ['\\', 't']
    else if c.toNat = 0 then ['\\', '0']
    else if c.toNat < 32 ∨ c.toNat = 127 then
      "\\u\x7b".toList ++ (if c.toNat < 16 then [] else [Digest.hexDigit (c.toNat / 16)]) ++
        [Digest.hexDigit (c.toNat % 16), '\x7d']
    else [c]
  "\"" ++ String.ofList (s.toList.flatMap show1) ++ "\""

def JsonNumber.shown : JsonNumber → String
  | .int n => "integer `" ++ intText n ++ "`"
  | .double x => "floating point `" ++ x.dataText.getD "" ++ "`"
  | .single x => "floating point `" ++ x.dataText.getD "" ++ "`"

def wrongType (found expected : String) : Fault :=
  .shape ("invalid type: " ++ found ++ ", expected " ++ expected)

def wrongValue (found expected : String) : Fault :=
  .shape ("invalid value: " ++ found ++ ", expected " ++ expected)

/-- The error for a value that is not what was expected; scalars are read first. -/
def refuse (expected : String) : Reader α := fun c =>
  match c.peek? with
  | some 'n' => do let (_, c) ← readWord ['u', 'l', 'l'] c.next; c.fail (wrongType "null" expected)
  | some 't' => do
      let (_, c) ← readWord ['r', 'u', 'e'] c.next
      c.fail (wrongType "boolean `true`" expected)
  | some 'f' => do
      let (_, c) ← readWord ['a', 'l', 's', 'e'] c.next
      c.fail (wrongType "boolean `false`" expected)
  | some '-' => do
      let (n, c) ← readNumber true c.next
      c.fail (wrongType (JsonNumber.shown n) expected)
  | some '"' => do
      let (s, c) ← readStringBody c.next
      c.fail (wrongType ("string " ++ shown s) expected)
  | some '[' => c.fail (wrongType "sequence" expected)
  | some '{' => c.fail (wrongType "map" expected)
  | some ch =>
      if Number.isDigit ch then do
        let (n, c) ← readNumber false c
        c.fail (wrongType (JsonNumber.shown n) expected)
      else c.failAhead .value
  | none => c.failAhead .value

def readString : Reader String := fun c =>
  let c := c.skipSpace
  match c.peek? with
  | none => c.failAhead .endInValue
  | some '"' => readStringBody c.next
  | some _ => refuse "a string" c

def readOptionalString : Reader (Option String) := fun c =>
  let c := c.skipSpace
  match c.peek? with
  | some 'n' => do let (_, c) ← readWord ['u', 'l', 'l'] c.next; .ok (none, c)
  | _ => do let (s, c) ← readString c; .ok (some s, c)

/-- A number, turned into a value by `use`. -/
def readNumberAs (expected : String) (use : JsonNumber → Option (Except Fault α)) :
    Reader α := fun c =>
  let c := c.skipSpace
  let finish (r : JsonNumber × Cursor) : Except ReadError (α × Cursor) :=
    match use r.1 with
    | some (.ok a) => .ok (a, r.2)
    | some (.error fault) => r.2.fail fault
    | none => r.2.fail (wrongType (JsonNumber.shown r.1) expected)
  match c.peek? with
  | none => c.failAhead .endInValue
  | some '-' => do finish (← readNumber true c.next)
  | some ch =>
      if Number.isDigit ch then do finish (← readNumber false c) else refuse expected c

/-- An integer from `low` to `high`, called `name`. -/
def readIntWithin (name : String) (low high : Int) : Reader Int :=
  readNumberAs name fun n =>
    match n with
    | .int i =>
        if low ≤ i ∧ i ≤ high then some (.ok i)
        else some (.error (wrongValue (JsonNumber.shown n) name))
    | _ => none

def readU32 : Reader Nat := fun c => do
  let (n, c) ← readIntWithin "u32" 0 0xFFFFFFFF c
  .ok (n.toNat, c)

def readUsize : Reader Nat := fun c => do
  let (n, c) ← readIntWithin "usize" 0 0xFFFFFFFFFFFFFFFF c
  .ok (n.toNat, c)

def readI64 : Reader Int := readIntWithin "i64" (-0x8000000000000000) 0x7FFFFFFFFFFFFFFF

/-- Any number, rounded to 64 bits and then to 32. -/
def readBinary32 : Reader Binary32 :=
  readNumberAs "f32" fun n => some <| .ok <|
    match n with
    | .int i => (Binary64.ofInt i).toBinary32
    | .double x => x.toBinary32
    | .single x => x

/-- A list, each item read by `item`. -/
def readList (item : Reader α) : Reader (List α) := fun c =>
  let c := c.skipSpace
  match c.peek? with
  | none => c.failAhead .endInValue
  | some '[' => do
      let c := c.next
      let (items, c) ← readItems item (c.rest.length + 1) true c
      let (_, c) ← closeArray c
      .ok (items, c)
  | some _ => refuse "a sequence" c

/-- Words joined for a message: each between backticks, commas between them. -/
def quotedList (names : List String) : String :=
  String.intercalate ", " (names.map fun n => "`" ++ n ++ "`")

/-- One of some words, written as a string. -/
def readWordOf (members : List α) (name : α → String) : Reader α := fun c =>
  let c := c.skipSpace
  match c.peek? with
  | none => c.failAhead .endInValue
  | some '"' => do
      let (s, c) ← readStringBody c.next
      match members.find? (name · = s) with
      | some a => .ok (a, c)
      | none =>
          c.fail (.shape ("unknown variant `" ++ s ++ "`, expected one of " ++
            quotedList (members.map name)))
  | some _ => c.failAhead .value

/-- A record being read: its name, its fields in order, how to take a field (`none` if it has been
taken already), and how to finish (or which field is missing). -/
structure RecordShape (σ α : Type) where
  name : String
  fields : List String
  start : σ
  take : String → σ → Option (Reader σ)
  finish : σ → Except String α

/-- An error behind the bracket that closes a record, if that comes next. -/
def failBehind (c : Cursor) (close : Char) (fault : Fault) : Except ReadError α :=
  let c := c.skipSpace
  if c.peek? == some close then c.next.fail fault else c.fail fault

/-- The fields of an object, in any order. -/
def RecordShape.readFields (r : RecordShape σ α) : (fuel : Nat) → Bool → σ → Reader σ
  | 0, _, _, c => c.fail .endInObject
  | fuel + 1, first, st, c => do
      let (more, c) ← nextField first c
      if more then
        let (key, c) ← readStringBody c.next
        if r.fields.contains key then
          match r.take key st with
          | none => failBehind c '}' (.shape ("duplicate field `" ++ key ++ "`"))
          | some field =>
              let (_, c) ← readColon c
              let (st, c) ← field c
              r.readFields fuel false st c
        else
          let (_, c) ← readColon c
          let (_, c) ← readValue c
          r.readFields fuel false st c
      else .ok (st, c)

/-- The fields of an array, one after the other. -/
def RecordShape.readItems (r : RecordShape σ α) : (names : List String) → Bool → σ → Reader σ
  | [], _, st, c => .ok (st, c)
  | name :: names, first, st, c => do
      let (more, c) ← nextItem first c
      if more then
        match r.take name st with
        | none => .ok (st, c)
        | some field =>
            let (st, c) ← field c
            r.readItems names false st c
      else
        let seen := r.fields.length - (names.length + 1)
        failBehind c ']' (.shape ("invalid length " ++ Number.text seen ++ ", expected struct " ++
          r.name ++ " with " ++ Number.text r.fields.length ++ " elements"))

def RecordShape.read (r : RecordShape σ α) : Reader α := fun c =>
  let c := c.skipSpace
  match c.peek? with
  | none => c.failAhead .endInValue
  | some '{' => do
      let c := c.next
      let (st, c) ← r.readFields (c.rest.length + 1) true r.start c
      match r.finish st with
      | .error field => failBehind c '}' (.shape ("missing field `" ++ field ++ "`"))
      | .ok a => do
          let (_, c) ← closeObject c
          .ok (a, c)
  | some '[' => do
      let c := c.next
      let (st, c) ← r.readItems r.fields true r.start c
      match r.finish st with
      | .error field => failBehind c ']' (.shape ("missing field `" ++ field ++ "`"))
      | .ok a => do
          let (_, c) ← closeArray c
          .ok (a, c)
  | some _ => refuse ("struct " ++ r.name) c

end CodeAtlas.Json
