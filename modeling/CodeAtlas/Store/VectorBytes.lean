import CodeAtlas.Number.Binary

/-! # Vectors as bytes

A vector is stored as its numbers one after the other, each in four bytes with the lowest first. -/
namespace CodeAtlas.Store

open Number

/-- The four bytes of a word, the lowest first. -/
def wordBytes (w : UInt32) : List UInt8 :=
  [.ofNat w.toNat, .ofNat (w.toNat / 0x100), .ofNat (w.toNat / 0x10000),
    .ofNat (w.toNat / 0x1000000)]

def wordOfBytes (a b c d : UInt8) : UInt32 :=
  .ofNat (a.toNat + 0x100 * b.toNat + 0x10000 * c.toNat + 0x1000000 * d.toNat)

theorem wordOfBytes_ofNat (w : UInt32) :
    wordOfBytes (.ofNat w.toNat) (.ofNat (w.toNat / 0x100)) (.ofNat (w.toNat / 0x10000))
      (.ofNat (w.toNat / 0x1000000)) = w := by
  apply UInt32.toNat_inj.1
  have := w.toNat_lt
  simp only [wordOfBytes, UInt32.toNat_ofNat', UInt8.toNat_ofNat']
  omega

def bytesOfVector (v : List Binary32) : List UInt8 := v.flatMap fun x => wordBytes x.bits

/-- The vector that bytes hold. What does not fill a number is left out. -/
def vectorOfBytes : List UInt8 → List Binary32
  | a :: b :: c :: d :: rest => ⟨wordOfBytes a b c d⟩ :: vectorOfBytes rest
  | _ => []

/-- A vector is what its bytes hold. -/
theorem vectorOfBytes_bytesOfVector (v : List Binary32) : vectorOfBytes (bytesOfVector v) = v := by
  induction v with
  | nil => rfl
  | cons x v ih =>
    simp only [bytesOfVector, List.flatMap_cons, wordBytes, List.cons_append, List.nil_append,
      vectorOfBytes, wordOfBytes_ofNat]
    exact congrArg _ ih

end CodeAtlas.Store
