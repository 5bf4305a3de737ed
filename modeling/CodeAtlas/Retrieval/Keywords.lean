import CodeAtlas.Text.Blank
import CodeAtlas.Text.Lines
import CodeAtlas.Text.Lowercase

/-! # Keywords

The words of a question that a search is made with: lower-case, longer than two characters, not
among the words that every question has, each once and in the order of the question. -/
namespace CodeAtlas.Retrieval

def stopWords : List String := [
  "the", "and", "for", "are", "but", "not", "you", "all", "any", "can", "had", "has", "have",
  "her", "his", "its", "was", "one", "our", "out", "get", "how", "why", "who", "what", "when",
  "where", "which", "does", "did", "doing", "this", "that", "these", "those", "with", "from",
  "into", "about", "there", "their", "they", "them", "then", "than", "been", "being", "were",
  "will", "would", "could", "should", "shall", "may", "might", "must", "some", "such", "only",
  "own", "same", "very", "just", "also", "use", "used", "uses", "using", "work", "works",
  "tell", "show", "explain", "describe", "please", "here", "each", "other"]

def isKeywordChar (c : Char) : Bool := Text.isAlphanumeric c || c == '_'

def wordsOf (cs : List Char) : List (List Char) :=
  (Text.cut ' ' (cs.map fun c => if isKeywordChar c then c else ' ')).filter (!·.isEmpty)

def isKeyword (word : List Char) : Bool :=
  2 < word.length && !stopWords.contains (String.ofList word)

def addNew (words : List String) (word : String) : List String :=
  if words.contains word then words else words ++ [word]

def keywords (question : String) : List String :=
  (((wordsOf (Text.lowercase question.toList)).filter isKeyword).map String.ofList).foldl addNew []

end CodeAtlas.Retrieval
