import UniqueId.Word.ByteOrder

/-! What MD5 and SHA-1 have in common: a message is padded to whole blocks of sixteen words, with a
single one bit after it and its length in bits at the end. The two differ in the order of octets. -/
namespace UniqueId.Digest

/-- The first `count` pieces of `size` elements each. -/
def pieces {α : Type} (size : Nat) : Nat → List α → List (List α)
  | 0, _ => []
  | count + 1, xs => xs.take size :: pieces size count (xs.drop size)

/-- The octets that follow a message of the given length, so that whole blocks result. -/
def padding (order : ByteOrder) (length : Nat) : List UInt8 :=
  0x80 :: List.replicate ((119 - length % 64) % 64) 0 ++ order.octets 8 (8 * length)

/-- The blocks of a padded message, each of sixteen words. -/
def blocks (order : ByteOrder) (message : List UInt8) : List (List UInt32) :=
  let padded := message ++ padding order message.length
  (pieces 64 (padded.length / 64) padded).map fun block =>
    (pieces 4 16 block).map fun octets => UInt32.ofNat (order.number octets)

/-- Rotates a word to the left by less than its width. -/
def rotateLeft (x k : UInt32) : UInt32 := (x <<< k) ||| (x >>> (32 - k))

@[simp] theorem length_pieces {α : Type} (size count : Nat) (xs : List α) :
    (pieces size count xs).length = count := by
  induction count generalizing xs with
  | zero => rfl
  | succ count ih => simp [pieces, ih]

/-- A padded message fills its blocks. -/
theorem length_padding (order : ByteOrder) (length : Nat) :
    (length + (padding order length).length) % 64 = 0 := by
  simp [padding]
  omega

end UniqueId.Digest
