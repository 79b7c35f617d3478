/-
  Reading the parts of a DNS message: numbers, strings and names.

  A name may end in a pointer to an earlier place in the message. A pointer has to lead in front of
  the part of the name that it ends, and what is read there must not run into that part; so every
  name ends.

  * `Cursor` is a place in a message, `Reading` what can be read from there;
  * `Reading.name` reads a name.
-/
import SocksProxy.Dns.Name

namespace SocksProxy.Dns

/-- A place in a message: its offset, and the bytes from there on. -/
structure Cursor where
  offset : Nat
  rest : Bytes
  deriving DecidableEq, Repr

/-- Reads a value and moves on, or fails. -/
abbrev Reading := StateT Cursor Option

namespace Reading

/-- One byte. -/
def byte : Reading UInt8 := fun c =>
  match c.rest with
  | a :: rest => some (a, ⟨c.offset + 1, rest⟩)
  | _ => none

/-- A word of 16 bits. -/
def word16 : Reading UInt16 := fun c =>
  match c.rest with
  | a :: b :: rest => some (Bytes.word16 a b, ⟨c.offset + 2, rest⟩)
  | _ => none

/-- A word of 32 bits. -/
def word32 : Reading UInt32 := fun c =>
  match c.rest with
  | x :: y :: z :: w :: rest => some (Bytes.word32 x y z w, ⟨c.offset + 4, rest⟩)
  | _ => none

/-- The next `n` bytes. -/
def bytes (n : Nat) : Reading Bytes := fun c =>
  let b := c.rest.take n
  if b.length = n then some (b, ⟨c.offset + n, c.rest.drop n⟩) else none

/-- A string behind its length byte. -/
def string : Reading Bytes := do
  let n ← byte
  bytes n.toNat

/-- The offset of the cursor. -/
def offset : Reading Nat := fun c => some (c.offset, c)

/-- Fails unless `p` holds. -/
def check (p : Bool) : Reading Unit := fun c => if p then some ((), c) else none

/-! ## Names -/

/-- Reads the labels of a name. The part that is being read starts at `start`, and it has to stop
    in front of `stop`, where it was reached by a pointer. -/
def labels (message : Bytes) (start : Nat) (stop : Option Nat) (c : Cursor) :
    Option (List Label × Cursor) :=
  if stop.any fun stop => decide (stop ≤ c.offset) then none
  else
    match _hrest : c.rest with
    | [] => none
    | n :: rest =>
      if n = 0 then some ([], ⟨c.offset + 1, rest⟩)
      else if n < 0x40 then
        let label := rest.take n.toNat
        if label.length = n.toNat then do
          let (ls, c) ← labels message start stop ⟨c.offset + 1 + n.toNat, rest.drop n.toNat⟩
          some (label :: ls, c)
        else none
      else if n < 0xC0 then none
      else
        match rest with
        | [] => none
        | low :: rest =>
          let target := (Bytes.word16 n low).toNat % 0x4000
          if target < start then do
            let (ls, _) ← labels message target (some start) ⟨target, message.drop target⟩
            some (ls, ⟨c.offset + 2, rest⟩)
          else none
  termination_by (start, c.rest.length)
  decreasing_by
    · apply Prod.Lex.right
      simp only [_hrest, List.length_drop, List.length_cons]
      omega
    · exact Prod.Lex.left _ _ ‹_›

/-- Reads a name. Its labels and their length bytes stay below 255 bytes. -/
def name (message : Bytes) : Reading Name := fun c => do
  let (ls, c') ← labels message c.offset none c
  let name : Name := ⟨ls⟩
  if name.size < 255 then some (name, c') else none

end Reading

end SocksProxy.Dns
