import CodeAtlas.Text.Blank
import CodeAtlas.Text.CharClass

/-! # Line patterns

Patterns over characters with marked groups. Of all the ways in which a pattern can match at a
place, the one found first counts: the left alternative before the right, a longer repetition
before a shorter one (a lazy repetition the other way round). -/
namespace CodeAtlas

inductive Pattern where
  | empty
  | one (accepts : Char → Bool)
  | seq (first second : Pattern)
  | alt (left right : Pattern)
  | star (body : Pattern)
  | lazyStar (body : Pattern)
  | group (number : Nat) (body : Pattern)
  | lineEnd
  | wordEdge

namespace Pattern

/-- A place in a text, with the groups that have been marked on the way to it. -/
structure Spot where
  before : Option Char
  rest : List Char
  offset : Nat
  groups : List (Nat × List Char)

def Spot.start (cs : List Char) : Spot := ⟨none, cs, 0, []⟩

/-- The text of a group; a later mark counts before an earlier one. -/
def Spot.group? (s : Spot) (number : Nat) : Option (List Char) :=
  (s.groups.find? (·.1 = number)).map (·.2)

def isWordAt : Option Char → Bool
  | some c => Text.isWordChar c
  | none => false

/-- Repeat `body` as often as it moves on, then go on with `next`; shorter repetitions are tried
after longer ones. -/
def repeatLong (body : Spot → (Spot → Option β) → Option β) (next : Spot → Option β) :
    (fuel : Nat) → Spot → Option β
  | 0, s => next s
  | fuel + 1, s =>
      match body s fun t => if s.offset < t.offset then repeatLong body next fuel t else none with
      | some b => some b
      | none => next s

/-- Like `repeatLong`, shorter repetitions first. -/
def repeatShort (body : Spot → (Spot → Option β) → Option β) (next : Spot → Option β) :
    (fuel : Nat) → Spot → Option β
  | 0, s => next s
  | fuel + 1, s =>
      match next s with
      | some b => some b
      | none => body s fun t => if s.offset < t.offset then repeatShort body next fuel t else none

/-- Match at a place and go on with `next` at each end, in order of preference, until it
succeeds. -/
def run : Pattern → Spot → (Spot → Option β) → Option β
  | empty, s, next => next s
  | one accepts, s, next =>
      match s.rest with
      | c :: cs => if accepts c then next { s with before := some c, rest := cs, offset := s.offset + 1 } else none
      | [] => none
  | seq p q, s, next => p.run s fun t => q.run t next
  | alt p q, s, next =>
      match p.run s next with
      | some b => some b
      | none => q.run s next
  | star p, s, next => repeatLong p.run next (s.rest.length + 1) s
  | lazyStar p, s, next => repeatShort p.run next (s.rest.length + 1) s
  | group number p, s, next =>
      p.run s fun t =>
        next { t with groups := (number, s.rest.take (t.offset - s.offset)) :: t.groups }
  | lineEnd, s, next => if s.rest.isEmpty then next s else none
  | wordEdge, s, next => if isWordAt s.before != isWordAt s.rest.head? then next s else none

def matchStart? (p : Pattern) (cs : List Char) : Option Spot := p.run (.start cs) some

/-- The first match from a place on, with the place where it begins. -/
def searchFrom? (p : Pattern) : Option Char → List Char → Nat → Option (Spot × Nat)
  | before, [], n => (p.run ⟨before, [], n, []⟩ some).map fun s => (s, n)
  | before, c :: cs, n =>
      match p.run ⟨before, c :: cs, n, []⟩ some with
      | some s => some (s, n)
      | none => searchFrom? p (some c) cs (n + 1)

def search? (p : Pattern) (cs : List Char) : Option Spot := (p.searchFrom? none cs 0).map (·.1)

/-! ## Writing patterns -/

instance : HAppend Pattern Pattern Pattern := ⟨seq⟩

def char (c : Char) : Pattern := one (· == c)
def oneOf (cs : String) : Pattern := one cs.toList.contains
def noneOf (cs : String) : Pattern := one fun c => !cs.toList.contains c
def text (s : String) : Pattern := s.toList.foldr (fun c p => char c ++ p) empty
def option (p : Pattern) : Pattern := alt p empty
def plus (p : Pattern) : Pattern := p ++ star p
def anyOf (words : List String) : Pattern :=
  match words with
  | [] => one fun _ => false
  | [w] => text w
  | w :: ws => alt (text w) (anyOf ws)

/-- White space, maybe none. -/
def blanks : Pattern := star (one Text.isBlank)

/-- White space, at least one character. -/
def gap : Pattern := plus (one Text.isBlank)

def isNameStart (c : Char) : Bool := c.isAlpha || c == '_'

/-- A name: a start and word characters. -/
def name : Pattern := one isNameStart ++ star (one Text.isWordChar)

end Pattern

end CodeAtlas
