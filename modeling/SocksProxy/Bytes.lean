/-
  Byte strings, and the big-endian words that every wire format here is made of.

  * `be16`/`word16` and `be32`/`word32` write and read a word;
  * `word16_be16` and `be16_word16` (likewise for 32 bits): each is the inverse of the other;
  * `words16` reads a byte string pair by pair, `words16_flatMap_be16` undoes writing.
-/

namespace SocksProxy

/-- A string of bytes. -/
abbrev Bytes := List UInt8

namespace Bytes

/-! ## Words of 16 bits -/

/-- The two bytes of a word, high byte first. -/
def be16 (n : UInt16) : Bytes :=
  [UInt8.ofNat (n.toNat / 256), UInt8.ofNat n.toNat]

/-- The word with high byte `a` and low byte `b`. -/
def word16 (a b : UInt8) : UInt16 :=
  UInt16.ofNat (a.toNat * 256 + b.toNat)

theorem word16_be16 (n : UInt16) :
    word16 (UInt8.ofNat (n.toNat / 256)) (UInt8.ofNat n.toNat) = n := by
  have := n.toNat_lt
  apply UInt16.toNat_inj.mp
  simp only [word16, UInt16.toNat_ofNat', UInt8.toNat_ofNat']
  omega

theorem be16_word16 (a b : UInt8) : be16 (word16 a b) = [a, b] := by
  have := a.toNat_lt
  have := b.toNat_lt
  have h : (word16 a b).toNat = a.toNat * 256 + b.toNat := by
    simp only [word16, UInt16.toNat_ofNat']; omega
  simp only [be16, h, List.cons.injEq, and_true]
  constructor <;> apply UInt8.toNat_inj.mp <;> simp only [UInt8.toNat_ofNat'] <;> omega

@[simp] theorem length_be16 (n : UInt16) : (be16 n).length = 2 := rfl

/-- The words of a byte string, two bytes each; a last single byte is left out. -/
def words16 : Bytes → List UInt16
  | a :: b :: rest => word16 a b :: words16 rest
  | _ => []

theorem words16_flatMap_be16 (ws : List UInt16) : words16 (ws.flatMap be16) = ws := by
  induction ws with
  | nil => rfl
  | cons w ws ih =>
    rw [List.flatMap_cons, be16, List.cons_append, List.cons_append, List.nil_append, words16,
      word16_be16, ih]

theorem length_words16 (b : Bytes) : (words16 b).length = b.length / 2 := by
  fun_induction words16 b with
  | case1 a b rest ih => simp only [List.length_cons, ih]; omega
  | case2 b h =>
    rcases b with _ | ⟨a, _ | ⟨b, rest⟩⟩
    · rfl
    · simp
    · exact absurd rfl (h a b rest)

/-! ## Words of 32 bits -/

/-- The four bytes of a word, high byte first. -/
def be32 (n : UInt32) : Bytes :=
  [UInt8.ofNat (n.toNat / 16777216), UInt8.ofNat (n.toNat / 65536),
   UInt8.ofNat (n.toNat / 256), UInt8.ofNat n.toNat]

/-- The word with bytes `a`, `b`, `c`, `d`, highest first. -/
def word32 (a b c d : UInt8) : UInt32 :=
  UInt32.ofNat (a.toNat * 16777216 + b.toNat * 65536 + c.toNat * 256 + d.toNat)

theorem word32_be32 (n : UInt32) :
    word32 (UInt8.ofNat (n.toNat / 16777216)) (UInt8.ofNat (n.toNat / 65536))
      (UInt8.ofNat (n.toNat / 256)) (UInt8.ofNat n.toNat) = n := by
  have := n.toNat_lt
  apply UInt32.toNat_inj.mp
  simp only [word32, UInt32.toNat_ofNat', UInt8.toNat_ofNat']
  omega

@[simp] theorem length_be32 (n : UInt32) : (be32 n).length = 4 := rfl

end Bytes

end SocksProxy
