/-! # Similar contents

How much of a file is found in another one, judged by pieces of at most 64 bytes that end at the
ends of lines. A piece without such an end that closes the file is not looked at. -/
namespace CodeAtlas.History

def fullScore : Nat := 60000

/-- Whether a file is taken for binary: a zero byte is near its beginning. -/
def isBinary (content : ByteArray) : Bool := (content.toList.take 8000).contains 0

def pieceHashes : Nat := 107927

/-- The pieces of bytes as hash and size. In texts a carriage return before a newline is passed
over. -/
def piecesOf (isText : Bool) : (first second : UInt32) → (size : Nat) → List UInt8 → List (Nat × Nat)
  | _, _, _, [] => []
  | first, second, size, b :: rest =>
      if isText && b == 13 && rest.head? == some 10 then piecesOf isText first second size rest
      else
        let first' := ((first <<< 7) ^^^ (second >>> 25)) + b.toUInt32
        let second' := (second <<< 7) ^^^ (first >>> 25)
        if size + 1 < 64 && b != 10 then piecesOf isText first' second' (size + 1) rest
        else
          ((first' + second' * 0x61).toNat % pieceHashes, size + 1) :: piecesOf isText 0 0 0 rest

def mergeEqual : List (Nat × Nat) → List (Nat × Nat)
  | [] => []
  | (hash, size) :: rest =>
      match mergeEqual rest with
      | (next, more) :: others =>
          if hash = next then (hash, size + more) :: others
          else (hash, size) :: (next, more) :: others
      | [] => [(hash, size)]

/-- The sizes of all pieces of a hash, in the order of the hashes. -/
def spans (content : ByteArray) : List (Nat × Nat) :=
  mergeEqual ((piecesOf (!isBinary content) 0 0 0 content.toList).mergeSort fun p q => p.1 ≤ q.1)

def sharedBytes : List (Nat × Nat) → List (Nat × Nat) → Nat
  | [], _ => 0
  | _, [] => 0
  | (h, m) :: as, (k, n) :: bs =>
      if h < k then sharedBytes as ((k, n) :: bs)
      else if k < h then sharedBytes ((h, m) :: as) bs
      else min m n + sharedBytes as bs
  termination_by as bs => as.length + bs.length

/-- How similar two contents are, between 0 and the full score. Sizes too different for the lowest
score asked for count as not similar at all. -/
def similarity (lowest : Nat) (old new : ByteArray) : Nat :=
  let large := max old.size new.size
  let small := min old.size new.size
  if large * (fullScore - lowest) < (large - small) * fullScore || new.size = 0 then 0
  else sharedBytes (spans old) (spans new) * fullScore / large

end CodeAtlas.History
