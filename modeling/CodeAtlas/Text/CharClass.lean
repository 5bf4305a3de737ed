import CodeAtlas.Text.CharTable

/-! # Letters, digits and word characters -/
namespace CodeAtlas.Text

def isAlphanumeric (c : Char) : Bool :=
  if c.toNat < 0x80 then c.isAlphanum
  else
    inRanges alphabeticRanges c.toNat || inRanges decimalRanges c.toNat ||
      inRanges otherNumberRanges c.toNat

/-- Characters of a word: letters, decimal digits, marks, connectors and join controls. -/
def isWordChar (c : Char) : Bool :=
  if c.toNat < 0x80 then c.isAlphanum || c == '_'
  else
    inRanges alphabeticRanges c.toNat || inRanges decimalRanges c.toNat ||
      inRanges markRanges c.toNat || inRanges connectorRanges c.toNat

def isCased (c : Char) : Bool :=
  if c.toNat < 0x80 then c.isAlpha else inRanges casedRanges c.toNat

/-- Characters that the search for a neighbouring cased letter passes over. -/
def isCaseIgnorable (c : Char) : Bool :=
  if c.toNat < 0x80 then "'.:^`".toList.contains c else inRanges caseIgnorableRanges c.toNat

end CodeAtlas.Text
