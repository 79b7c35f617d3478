/-
  Text for a terminal: the control characters by which a text could command the terminal are spelled
  out. Line ends and other blanks stay as they are.

  * `tame` spells them out; `tame_eq_self`: a text without them stays as it is.
-/
import SocksProxy.Text.Digits

namespace SocksProxy.Text

/-- The controls below `0xA0` that commands to a terminal are made of: bell, backspace, form feed,
    escape, delete, and all from `0x80` on. -/
def isCommand (c : Char) : Bool :=
  c = '\x07' || c = '\x08' || c = '\x0c' || c = '\x1b' || ('\x7f' ≤ c && c ≤ Char.ofNat 0x9F)

/-- How one character stands in text for a terminal. -/
def tameChar (c : Char) : List Char :=
  if !isCommand c then [c]
  else if c ≤ '\x7f' then '\\' :: 'x' :: (padded 16 2 c.toNat).toList
  else '\\' :: 'u' :: '\x7b' :: (digits 16 c.toNat ++ ['\x7d'])

/-- The text for a terminal. -/
def tame (s : String) : String :=
  String.ofList (s.toList.flatMap tameChar)

/-- A text without such controls stays as it is. -/
theorem tame_eq_self {s : String} (h : ∀ c ∈ s.toList, isCommand c = false) : tame s = s := by
  have key : ∀ cs : List Char, (∀ c ∈ cs, isCommand c = false) → cs.flatMap tameChar = cs := by
    intro cs hcs
    induction cs with
    | nil => rfl
    | cons c cs ih =>
      have hc := hcs c List.mem_cons_self
      rw [List.flatMap_cons, ih fun d hd => hcs d (List.mem_cons_of_mem c hd)]
      simp [tameChar, hc]
  rw [tame, key _ h, String.ofList_toList]

end SocksProxy.Text
