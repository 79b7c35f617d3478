/-
  Numbers in a text, written and read.

  * `exists_values`: the digits of a number, by their values;
  * `readNumber_digits`: a number is read where its digits are written, if no digit is behind them;
  * `readNumber_suffix`: what is behind a number is a part of the text.
-/
import Mathlib.Tactic.IntervalCases
import SocksProxy.Text.Digits

namespace SocksProxy.Text

variable {base n v width : Nat} {c : Char} {s rest : List Char} {vs : List Nat} {leadingZeros : Bool}

/-! ## Digits and their values -/

theorem digitValue?_digitChar (hv : v < base) (hbase : base ≤ 16) :
    digitValue? base (Nat.digitChar v) = some v := by
  have hlt : v < 16 := Nat.lt_of_lt_of_le hv hbase
  interval_cases v <;> exact if_pos hv

theorem ofDigits_concat : ofDigits base (vs ++ [v]) = ofDigits base vs * base + v := by
  rw [ofDigits, List.foldl_append]
  rfl

/-- The digits of a number stand for values below the base, which make up the number. The first is zero only if
    the number is. -/
theorem exists_values (hbase : 1 < base) (n : Nat) : ∃ vs : List Nat,
    digits base n = vs.map Nat.digitChar ∧ (∀ v ∈ vs, v < base) ∧ ofDigits base vs = n ∧
      (vs.head? = some 0 → n = 0) := by
  induction n using Nat.strongRecOn with
  | ind n ih =>
    by_cases hlt : n < base
    · refine ⟨[n], Nat.toDigits_of_lt_base hlt, ?_, ?_, Option.some.inj⟩
      · simpa using hlt
      · simp [ofDigits]
    · have hle := Nat.not_lt.1 hlt
      have hpos : 0 < n / base := Nat.div_pos hle (Nat.lt_of_succ_lt hbase)
      obtain ⟨vs, hdigits, hvs, hvalue, hhead⟩ :=
        ih (n / base) (Nat.div_lt_self (Nat.lt_of_lt_of_le (Nat.lt_of_succ_lt hbase) hle) hbase)
      have hmod := Nat.mod_lt n (Nat.lt_of_succ_lt hbase)
      refine ⟨vs ++ [n % base], ?_, ?_, ?_, ?_⟩
      · rw [digits, Nat.toDigits_of_base_le hbase hle, ← digits, hdigits, List.map_append]
        rfl
      · simpa [or_imp, forall_and] using ⟨hvs, hmod⟩
      · rw [ofDigits_concat, hvalue, Nat.mul_comm, Nat.div_add_mod]
      · cases vs with
        | nil => exact absurd hdigits Nat.toDigits_ne_nil
        | cons v vs => exact fun h => absurd (hhead h) (Nat.ne_of_gt hpos)

theorem isSome_of_mem_digits (hbase : 1 < base) (hbase' : base ≤ 16) (h : c ∈ digits base n) :
    (digitValue? base c).isSome := by
  obtain ⟨vs, hdigits, hvs, -⟩ := exists_values hbase n
  rw [hdigits] at h
  obtain ⟨v, hv, rfl⟩ := List.mem_map.1 h
  rw [digitValue?_digitChar (hvs v hv) hbase']
  rfl

theorem length_digits_le {k : Nat} (hbase : 1 < base) (hk : 0 < k) (h : n < base ^ k) :
    (digits base n).length ≤ k :=
  (Nat.length_toDigits_le_iff hbase hk).2 h

/-! ## Reading -/

/-- No digit comes next. -/
def EndsNumber (base : Nat) (rest : List Char) : Prop :=
  ∀ c ∈ rest.head?, digitValue? base c = none

theorem endsNumber_nil : EndsNumber base [] :=
  nofun

theorem endsNumber_cons : EndsNumber base (c :: rest) ↔ digitValue? base c = none :=
  ⟨fun h => h c rfl, fun h _ hc => Option.some.inj hc ▸ h⟩

theorem takeDigits_of_endsNumber (h : EndsNumber base rest) : takeDigits base rest = ([], rest) := by
  cases rest with
  | nil => rfl
  | cons c rest => rw [takeDigits, endsNumber_cons.1 h]

theorem takeDigits_map (hbase : base ≤ 16) (hvs : ∀ v ∈ vs, v < base) (hrest : EndsNumber base rest) :
    takeDigits base (vs.map Nat.digitChar ++ rest) = (vs, rest) := by
  induction vs with
  | nil => exact takeDigits_of_endsNumber hrest
  | cons v vs ih =>
    have hv := digitValue?_digitChar (hvs v List.mem_cons_self) hbase
    rw [List.map_cons, List.cons_append, takeDigits, hv, ih fun w hw => hvs w (.tail _ hw)]

/-- A number is read where it is written, whether or not leading zeros are allowed. -/
theorem readNumber_digits (hbase : 1 < base) (hbase' : base ≤ 16)
    (hwidth : (digits base n).length ≤ width) (hrest : EndsNumber base rest) :
    readNumber base width leadingZeros (digits base n ++ rest) = some (n, rest) := by
  obtain ⟨vs, hdigits, hvs, hvalue, hhead⟩ := exists_values hbase n
  rw [hdigits, List.length_map] at hwidth
  rw [readNumber, hdigits, takeDigits_map hbase' hvs hrest]
  cases vs with
  | nil => exact absurd hdigits Nat.toDigits_ne_nil
  | cons v vs =>
    have hzeros : (v == 0 && !vs.isEmpty && !leadingZeros) = false := by
      by_cases hv : v = 0
      · have hn : n = 0 := hhead (hv ▸ rfl)
        have hnil : vs = [] := by
          have hlength := congrArg List.length hdigits
          rw [hn, digits, Nat.toDigits_zero, List.length_map] at hlength
          exact List.eq_nil_of_length_eq_zero (Nat.succ.inj hlength).symm
        simp [hnil]
      · simp [hv]
    have hfits : ¬ vs.length + 1 > width := Nat.not_lt.2 hwidth
    simp only [hzeros, hvalue]
    rw [if_neg hfits, if_neg Bool.false_ne_true]

theorem takeDigits_suffix : (takeDigits base s).2 <:+ s := by
  induction s with
  | nil => exact List.suffix_rfl
  | cons c s ih =>
    rw [takeDigits]
    split
    · exact List.suffix_rfl
    · exact ih.trans (List.suffix_cons c s)

theorem readNumber_suffix (h : readNumber base width leadingZeros s = some (n, rest)) : rest <:+ s := by
  have hsuffix : (takeDigits base s).2 <:+ s := takeDigits_suffix
  rw [readNumber] at h
  split at h
  · cases h
  · next hdigits =>
    rw [hdigits] at hsuffix
    split at h
    · cases h
    · split at h
      · cases h
      · cases h
        exact hsuffix

end SocksProxy.Text
