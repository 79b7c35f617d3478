/-
  Reading bytes as UTF-8 text when they may be something else.

  `lossy` reads what is valid and puts U+FFFD in the place of the rest: one for each longest start
  of a character that does not go on as it should, and one for each byte that starts none.
-/
import SocksProxy.Bytes

namespace SocksProxy.Text

/-- What a byte that starts a longer character says: how many bytes follow, the range of the first
    of them, and the bits that the byte itself contributes. -/
structure Lead where
  following : Nat
  low : UInt8
  high : UInt8
  bits : Nat

/-- The meaning of a first byte from `0x80` on. -/
def Lead.ofByte? (b : UInt8) : Option Lead :=
  if b < 0xC2 then none
  else if b < 0xE0 then some ⟨1, 0x80, 0xBF, b.toNat - 0xC0⟩
  else if b < 0xF0 then
    some ⟨2, if b = 0xE0 then 0xA0 else 0x80, if b = 0xED then 0x9F else 0xBF, b.toNat - 0xE0⟩
  else if b < 0xF5 then
    some ⟨3, if b = 0xF0 then 0x90 else 0x80, if b = 0xF4 then 0x8F else 0xBF, b.toNat - 0xF0⟩
  else none

/-- Reads `n` bytes that continue a character, the first of them from `low` to `high`: the bits so
    far and what follows, or nothing for the bits when a byte does not belong. -/
def continuation : (n : Nat) → (low high : UInt8) → (bits : Nat) → Bytes → Option Nat × Bytes
  | 0, _, _, bits, rest => (some bits, rest)
  | _ + 1, _, _, _, [] => (none, [])
  | n + 1, low, high, bits, b :: rest =>
    if low ≤ b ∧ b ≤ high then continuation n 0x80 0xBF (bits * 64 + (b.toNat - 0x80)) rest
    else (none, b :: rest)

theorem length_continuation (n : Nat) (low high : UInt8) (bits : Nat) (b : Bytes) :
    (continuation n low high bits b).2.length ≤ b.length := by
  fun_induction continuation n low high bits b with
  | case1 => exact Nat.le_refl _
  | case2 => exact Nat.le_refl _
  | case3 n low high bits b rest h ih => exact Nat.le_succ_of_le ih
  | case4 => exact Nat.le_refl _

/-- The text that bytes stand for, as characters. -/
def lossyChars : Bytes → List Char
  | [] => []
  | b :: rest =>
    if b < 0x80 then Char.ofNat b.toNat :: lossyChars rest
    else
      match Lead.ofByte? b with
      | none => '\uFFFD' :: lossyChars rest
      | some lead =>
        let read := continuation lead.following lead.low lead.high lead.bits rest
        (match read.1 with
          | some n => Char.ofNat n
          | none => '\uFFFD') :: lossyChars read.2
  termination_by b => b.length
  decreasing_by
    · simp
    · simp
    · exact Nat.lt_succ_of_le (length_continuation ..)

/-- The text that bytes stand for, with U+FFFD for what is not valid. -/
def lossy (b : Bytes) : String :=
  String.ofList (lossyChars b)

end SocksProxy.Text
