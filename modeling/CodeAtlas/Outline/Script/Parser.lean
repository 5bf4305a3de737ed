import CodeAtlas.Outline.Script.Statement

/-! # Reading a whole script

The knot of the grammar is tied by a bound on how deep rules go into one another; it is computed
from the length of the source. What begins no statement is passed over character by character. -/
namespace CodeAtlas.Outline.Script

/-- Read a rule, at most `fuel` rules deep. -/
def readRule (casts : Bool) : (fuel : Nat) → Rule → Reader Node
  | 0, _ => reject
  | fuel + 1, rule =>
      let g : Grammar := ⟨casts, readRule casts fuel⟩
      match rule with
      | .statement => g.statement
      | .block => g.block
      | .expression place => g.expression place
      | .assignment place => g.assignment place
      | .operand place => g.operand place
      | .type => g.type
      | .target => g.target
      | .markup => g.markup

/-- How deep rules may go into one another in a source of some length. -/
def ruleDepth (length : Nat) : Nat := 8 * length + 64

def runnerLine (cs : List Char) : Nat :=
  match cs with
  | '#' :: '!' :: rest => 2 + (rest.takeWhile fun c => !isLineEnd c).length
  | _ => 0

def parse (casts : Bool) (source : List Char) : Node :=
  let start := ((Cursor.start source).take (runnerLine source)).settle
  let statement := readRule casts (ruleDepth source.length) .statement
  let pass : Reader (List Node) := do
    guardThat !(← atEnd)
    eat 1
    return []
  let statements := many ((do return [← statement]) <|> pass)
  match statements start with
  | some (parts, _) => .mk .program none ⟨0, source.length⟩ parts.flatten
  | none => .mk .program none ⟨0, source.length⟩ []

end CodeAtlas.Outline.Script
