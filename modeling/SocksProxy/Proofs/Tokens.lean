/-
  Tokens, and the sockets that they stand for.

  * `Key.Fits`: the id of the session fits above the low three bits of a token, and the role into them;
  * `Key.token_toNat`: the token of such a socket is eight times the id and the slot of the role;
  * `Key.ofToken?_token`: it is read back from there;
  * `Key.exists_fits`: every token from eight on is the token of one.

  **`tokens_identify_sockets`** puts them together.
-/
import Mathlib.Algebra.Group.Nat.Defs
import SocksProxy.Poll.Token

namespace SocksProxy

/-! ## Slots -/

namespace Role

variable {role role' : Role} {n : Nat}

/-- A session has no more queries out than there are slots for them. -/
def HasSlot : Role → Prop
  | query i => i < maxQueries
  | _ => True

theorem slot_inj (h : role.slot = role'.slot) : role = role' := by
  cases role <;> cases role' <;> simp [slot] at h ⊢ <;> omega

theorem HasSlot.lt (h : role.HasSlot) : role.slot < 8 := by
  cases role with
  | query i =>
    have hi : i < 5 := h
    show 3 + i < 8
    omega
  | client | remote | relay => decide

theorem HasSlot.ofSlot?_slot (h : role.HasSlot) : ofSlot? role.slot = some role := by
  cases role with
  | query i =>
    have hi : 3 + i < 3 + maxQueries := Nat.add_lt_add_left h 3
    rw [ofSlot?, slot, if_neg (by omega), if_neg (by omega), if_neg (by omega), if_pos hi,
      Nat.add_sub_cancel_left]
  | client | remote | relay => rfl

/-- The queries take all the slots that the low bits leave to them. -/
theorem exists_slot (h : n < 8) : ∃ role : Role, role.HasSlot ∧ role.slot = n := by
  by_cases hn : n < 3
  · obtain rfl | rfl | rfl : n = 0 ∨ n = 1 ∨ n = 2 := by omega
    · exact ⟨client, trivial, rfl⟩
    · exact ⟨remote, trivial, rfl⟩
    · exact ⟨relay, trivial, rfl⟩
  · exact ⟨query (n - 3), show n - 3 < 5 by omega, show 3 + (n - 3) = n by omega⟩

end Role

/-! ## Tokens as numbers -/

namespace Token

theorem high_toNat (t : Token) : (t >>> 3).toNat = t.toNat / 8 :=
  Nat.shiftRight_eq_div_pow t.toNat 3

theorem low_toNat (t : Token) : (t &&& 7).toNat = t.toNat % 8 :=
  Nat.and_two_pow_sub_one_eq_mod t.toNat 3

theorem high_lt_one {t : Token} : t >>> 3 < 1 ↔ t < 8 := by
  have h : t.toNat / 8 < 1 ↔ t.toNat < 8 := by omega
  rwa [← high_toNat] at h

end Token

namespace Key

theorem token_toNat {id : Nat} {role : Role} (hid : id < UInt64.size / 8) (hslot : role.slot < 8) :
    (token ⟨id, role⟩).toNat = 8 * id + role.slot := by
  have hlow : id < 2305843009213693952 := hid
  have hor : 2 ^ 3 * id + role.slot = 2 ^ 3 * id ||| role.slot :=
    Nat.two_pow_add_eq_or_of_lt (by omega) id
  have hshift : (UInt64.ofNat id <<< 3).toNat = 2 ^ 3 * id := by
    have hfits : 2 ^ 3 * id < 2 ^ 64 := by omega
    rw [UInt64.toNat_shiftLeft, UInt64.toNat_ofNat', Nat.mod_eq_of_lt (show id < 2 ^ 64 by omega)]
    show id <<< 3 % 2 ^ 64 = 2 ^ 3 * id
    rw [Nat.shiftLeft_eq, Nat.mul_comm, Nat.mod_eq_of_lt hfits]
  have hbits : (UInt64.ofNat role.slot).toNat = role.slot := by
    rw [UInt64.toNat_ofNat', Nat.mod_eq_of_lt (show role.slot < 2 ^ 64 by omega)]
  rw [token, UInt64.toNat_or, hshift, hbits]
  exact hor.symm

/-- Ids start at 1, and 61 bits are left for them above the slot. -/
structure Fits (k : Key) : Prop where
  one_le : (1 : Nat) ≤ k.session
  le : (k.session : Nat) ≤ 2 ^ 61 - 1
  role : k.role.HasSlot

variable {k k' : Key} {t : Token}

theorem Fits.toNat (h : k.Fits) : k.token.toNat = 8 * k.session + k.role.slot :=
  token_toNat (Nat.lt_of_le_of_lt h.le (by decide)) h.role.lt

theorem Fits.le_token (h : k.Fits) : 8 ≤ k.token := by
  rw [UInt64.le_iff_toNat_le, h.toNat]
  exact Nat.le_trans (Nat.mul_le_mul_left 8 h.one_le) (Nat.le_add_right _ _)

theorem ofToken?_token (h : k.Fits) : ofToken? k.token = some k := by
  have hslot := h.role.lt
  have hhigh : (k.token >>> 3).toNat = k.session := by
    rw [Token.high_toNat, h.toNat]
    omega
  have hlow : (k.token &&& 7).toNat = k.role.slot := by
    rw [Token.low_toNat, h.toNat]
    omega
  rw [ofToken?, if_neg (mt Token.high_lt_one.1 (UInt64.not_lt.2 h.le_token)), hhigh, hlow,
    h.role.ofSlot?_slot]
  rfl

theorem exists_fits (h : 8 ≤ t) : ∃ k : Key, k.Fits ∧ k.token = t := by
  have hlow : 8 ≤ t.toNat := h
  have hmax : t.toNat < 2 ^ 64 := t.toNat_lt
  obtain ⟨role, hrole, hslot⟩ := Role.exists_slot (Nat.mod_lt t.toNat (by decide : 0 < 8))
  have hfits : Fits ⟨t.toNat / 8, role⟩ :=
    ⟨show 1 ≤ t.toNat / 8 by omega, show t.toNat / 8 ≤ 2 ^ 61 - 1 by omega, hrole⟩
  refine ⟨_, hfits, UInt64.toNat_inj.1 ?_⟩
  rw [hfits.toNat, hslot]
  exact Nat.div_add_mod t.toNat 8

theorem ofToken?_eq_none_iff : ofToken? t = none ↔ t < 8 := by
  constructor
  · intro hnone
    refine UInt64.not_le.1 fun hle => ?_
    obtain ⟨k, hfits, rfl⟩ := exists_fits hle
    exact nomatch (ofToken?_token hfits).symm.trans hnone
  · intro hlt
    exact if_pos (Token.high_lt_one.2 hlt)

end Key

/-! ## Tokens and sockets -/

/-- **A token identifies a socket.** The token of a socket whose id and role fit is none of the server's own,
    stands for this socket, and is no other socket's. Conversely just the tokens below eight stand for no
    socket, and any other stands for one that fits, of which it is the token. -/
theorem tokens_identify_sockets :
    (∀ k : Key, k.Fits → Key.ofToken? k.token = some k ∧
      k.token ≠ Token.listener ∧ k.token ≠ Token.waker) ∧
    (∀ k k' : Key, k.Fits → k'.Fits → k ≠ k' → k.token ≠ k'.token) ∧
    ∀ t : Token, (Key.ofToken? t = none ↔ t < 8) ∧
      (8 ≤ t → ∃ k : Key, k.Fits ∧ Key.ofToken? t = some k ∧ k.token = t) := by
  refine ⟨fun k hk => ⟨Key.ofToken?_token hk, ?_, ?_⟩, fun k k' hk hk' hne heq => hne ?_,
    fun t => ⟨Key.ofToken?_eq_none_iff, fun ht => ?_⟩⟩
  · exact fun h => absurd (h ▸ hk.le_token) (by decide)
  · exact fun h => absurd (h ▸ hk.le_token) (by decide)
  · have hback := Key.ofToken?_token hk
    rw [heq, Key.ofToken?_token hk'] at hback
    exact (Option.some.inj hback).symm
  · obtain ⟨k, hk, rfl⟩ := Key.exists_fits ht
    exact ⟨k, hk, Key.ofToken?_token hk, rfl⟩

/-- The last query of the last session, and the client of the first. -/
theorem last_token_identifies_query :
    Key.ofToken? 0xFFFFFFFFFFFFFFFF = some ⟨2 ^ 61 - 1, .query 4⟩ ∧
    (⟨2 ^ 61 - 1, .query 4⟩ : Key).token ≠ (⟨1, .client⟩ : Key).token ∧
    ∃ k : Key, k.Fits ∧ Key.ofToken? 8 = some k ∧ k.token = 8 := by
  have hlast : (⟨2 ^ 61 - 1, .query 4⟩ : Key).Fits := ⟨by decide, Nat.le_refl _, show 4 < 5 by decide⟩
  have hfirst : (⟨1, .client⟩ : Key).Fits := ⟨Nat.le_refl _, by decide, trivial⟩
  obtain ⟨hread, hdiffer, hback⟩ := tokens_identify_sockets
  exact ⟨(hread _ hlast).1, hdiffer _ _ hlast hfirst (by decide), (hback 8).2 (by decide)⟩

end SocksProxy
