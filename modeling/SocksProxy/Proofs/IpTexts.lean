/-
  The text of an IP address is read as this address.

  * `readIPv4_chars`: so it is for IPv4, whatever is behind it but a digit;
  * `ZeroRun.longest_longest`: the run of zeros that is left out is the longest, and the first of equals;
  * `IPv6.Written`: the three forms that the text of an IPv6 address can have, and `IPv6.written_chars`: the
    form that its groups call for;
  * `IPv6.Written.readIPv6`: in each form it is read as the address.

  **`Ip.ofChars?_chars`** puts them together.
-/
import SocksProxy.Net.IpText
import SocksProxy.Proofs.Numerals

namespace SocksProxy

open Text

/-! ## IPv4 -/

section
variable {rest s : List Char}

theorem readChar_cons (c : Char) : readChar c (c :: s) = some s :=
  if_pos rfl

theorem readPart_digits (a : UInt8) (hrest : EndsNumber 10 rest) :
    readPart (digits 10 a.toNat ++ rest) = some (a, rest) := by
  have ha := a.toNat_lt
  have hwidth : (digits 10 a.toNat).length ≤ 3 := length_digits_le (by decide) (by decide) (by omega)
  rw [readPart, readNumber_digits (by decide) (by decide) hwidth hrest]
  show (if a.toNat < 256 then some (UInt8.ofNat a.toNat, rest) else none) = _
  rw [if_pos ha, UInt8.ofNat_toNat]

theorem readIPv4_chars (ip : IPv4) (hrest : EndsNumber 10 rest) :
    readIPv4 (ip.chars ++ rest) = some (ip, rest) := by
  have hdot (s : List Char) : EndsNumber 10 ('.' :: s) := endsNumber_cons.2 rfl
  simp only [IPv4.chars, List.append_assoc, List.cons_append, readIPv4, readPart_digits _ (hdot _),
    readPart_digits _ hrest, readChar_cons, Option.bind_eq_bind, Option.bind_some]

theorem readIPv4_whole (ip : IPv4) : readIPv4 ip.chars = some (ip, []) := by
  have hread := readIPv4_chars ip endsNumber_nil
  rwa [List.append_nil] at hread

/-- There is no IPv4 address without a dot. -/
theorem readIPv4_eq_none (h : '.' ∉ s) : readIPv4 s = none := by
  rw [readIPv4, Option.bind_eq_bind, Option.bind_eq_none_iff]
  rintro ⟨a, rest⟩ hpart
  rw [readPart, Option.bind_eq_bind, Option.bind_eq_some_iff] at hpart
  obtain ⟨⟨n, rest'⟩, hnumber, hpart⟩ := hpart
  have hsuffix := readNumber_suffix hnumber
  dsimp only at hpart
  split at hpart
  · cases hpart
    cases rest with
    | nil => rfl
    | cons c rest =>
      have hc : '.' ≠ c := fun hc => h (hsuffix.subset (hc ▸ List.mem_cons_self))
      simp only [readChar, if_neg hc]
      rfl
  · cases hpart

end

/-! ## Runs of zero groups -/

namespace ZeroRun

/-- The run is one of zeros in these groups. -/
def Within (run : ZeroRun) (gs : List UInt16) : Prop :=
  ∃ front back, gs = front ++ List.replicate run.length 0 ++ back ∧ front.length = run.start

/-- Of the runs of zeros in these groups none is longer, and those that are as long do not start before. -/
structure Longest (best : ZeroRun) (gs : List UInt16) : Prop where
  within : best.Within gs
  first : ∀ run : ZeroRun, run.Within gs → 0 < run.length →
    run.length < best.length ∨ run.length = best.length ∧ best.start ≤ run.start

/-- The groups end in this run of zeros, and in no longer one. -/
structure Ends (run : ZeroRun) (gs : List UInt16) : Prop where
  ends : ∃ front, gs = front ++ List.replicate run.length 0 ∧ (run.length ≠ 0 → front.length = run.start)
  longest : ∀ front n, gs = front ++ List.replicate n 0 → n ≤ run.length

variable {run best : ZeroRun} {gs done : List UInt16} {g : UInt16}

theorem Within.le (h : run.Within gs) : run.start + run.length ≤ gs.length := by
  obtain ⟨front, back, rfl, hstart⟩ := h
  simp only [List.length_append, List.length_replicate]
  omega

theorem Within.append (h : run.Within done) : run.Within (done ++ [g]) := by
  obtain ⟨front, back, rfl, hstart⟩ := h
  exact ⟨front, back ++ [g], List.append_assoc .., hstart⟩

theorem Ends.within (h : run.Ends gs) (hne : run.length ≠ 0) : run.Within gs := by
  obtain ⟨front, rfl, hstart⟩ := h.ends
  exact ⟨front, [], (List.append_nil _).symm, hstart hne⟩

/-- A run goes on with another zero, or one starts. -/
theorem Ends.next (h : run.Ends done) :
    (⟨if run.length = 0 then done.length else run.start, run.length + 1⟩ : ZeroRun).Ends
      (done ++ [0]) where
  ends := by
    obtain ⟨front, rfl, hstart⟩ := h.ends
    refine ⟨front, by rw [List.append_assoc, List.replicate_succ'], fun _ => ?_⟩
    split
    · next hzero => simp [hzero]
    · next hne => exact hstart hne
  longest front n heq := by
    cases n with
    | zero => exact Nat.zero_le _
    | succ n =>
      rw [List.replicate_succ', ← List.append_assoc] at heq
      exact Nat.succ_le_succ (h.longest front n (List.append_inj_left' heq rfl))

theorem Ends.restart (hg : g ≠ 0) : (⟨0, 0⟩ : ZeroRun).Ends (done ++ [g]) where
  ends := ⟨_, (List.append_nil _).symm, fun h => absurd rfl h⟩
  longest front n heq := by
    cases n with
    | zero => exact Nat.le_refl 0
    | succ n =>
      rw [List.replicate_succ', ← List.append_assoc] at heq
      exact absurd (List.cons.inj (List.append_inj_right' heq rfl)).1 hg

/-- With another group behind them, a run is one of the groups before, or it ends here. -/
theorem Within.of_append (h : run.Within (done ++ [g])) (hends : best.Ends (done ++ [g])) :
    run.Within done ∨ run.length ≤ best.length ∧ run.start + run.length = done.length + 1 := by
  obtain ⟨front, back, heq, hstart⟩ := h
  rcases List.eq_nil_or_concat back with rfl | ⟨back, g', rfl⟩
  · rw [List.append_nil] at heq
    have hlength := congrArg List.length heq
    simp only [List.length_append, List.length_replicate, List.length_singleton] at hlength
    exact .inr ⟨hends.longest front _ heq, by omega⟩
  · rw [List.concat_eq_append, ← List.append_assoc] at heq
    exact .inl ⟨front, back, List.append_inj_left' heq rfl, hstart⟩

/-- The longest run is still the longest, unless one that ends here is longer. -/
theorem Longest.next (hbest : best.Longest done) (hrun : run.Ends (done ++ [g])) :
    (if run.length > best.length then run else best).Longest (done ++ [g]) := by
  have hlength : (done ++ [g]).length = done.length + 1 := List.length_append
  split
  · next hlonger =>
    have hwithin := hrun.within (Nat.ne_of_gt (Nat.zero_lt_of_lt hlonger))
    have hle := hwithin.le
    refine ⟨hwithin, fun other hother hpos => ?_⟩
    rcases hother.of_append hrun with hbefore | hhere
    · rcases hbest.first other hbefore hpos with h | h <;> omega
    · omega
  · next hshort =>
    have hle := hbest.within.le
    refine ⟨hbest.within.append, fun other hother hpos => ?_⟩
    rcases hother.of_append hrun with hbefore | hhere
    · exact hbest.first other hbefore hpos
    · omega

/-- Behind the groups `done`, which end in `run` and have `best` among them. -/
theorem scan_longest (hrun : run.Ends done) (hbest : best.Longest done) :
    (scan gs done.length run best).Longest (done ++ gs) := by
  induction gs generalizing run best done with
  | nil => rwa [List.append_nil]
  | cons g gs ih =>
    have hlength : (done ++ [g]).length = done.length + 1 := List.length_append
    rw [scan, ← hlength, List.append_cons done g gs]
    split
    · next hg =>
      subst hg
      exact ih hrun.next (hbest.next hrun.next)
    · next hg =>
      have hbreak : (⟨0, 0⟩ : ZeroRun).Ends (done ++ [g]) := .restart hg
      exact ih hbreak (hbest.next hbreak)

theorem longest_longest (gs : List UInt16) : (longest gs).Longest gs := by
  have hends : (⟨0, 0⟩ : ZeroRun).Ends [] :=
    ⟨⟨[], rfl, fun h => absurd rfl h⟩, fun front n heq => by
      have hlength := congrArg List.length heq
      rw [List.length_append, List.length_replicate, List.length_nil] at hlength
      omega⟩
  have hnone : (⟨0, 0⟩ : ZeroRun).Longest [] :=
    ⟨⟨[], [], rfl, rfl⟩, fun run hrun hpos => by
      have hle := hrun.le
      rw [List.length_nil] at hle
      omega⟩
  exact scan_longest hends hnone

/-- The groups in front of a run, as many zeros as it is long, and the groups behind it. -/
theorem Within.eq (h : run.Within gs) : gs = gs.take run.start ++
    List.replicate run.length 0 ++ gs.drop (run.start + run.length) := by
  obtain ⟨front, back, rfl, hstart⟩ := h
  rw [← hstart, List.append_assoc, List.take_left, List.drop_length_add_append,
    List.drop_left' List.length_replicate, List.append_assoc]

end ZeroRun

/-! ## Groups -/

section
variable {first : Bool} {n : Nat} {s t rest : List Char} {g : UInt16} {gs : List UInt16}

/-- Groups that follow others. -/
def colonGroups (gs : List UInt16) : List Char :=
  gs.flatMap fun g => ':' :: digits 16 g.toNat

theorem groupChars_cons (g : UInt16) (gs : List UInt16) :
    groupChars (g :: gs) = digits 16 g.toNat ++ colonGroups gs := by
  induction gs generalizing g with
  | nil => exact (List.append_nil _).symm
  | cons g' gs ih =>
    show digits 16 g.toNat ++ ':' :: groupChars (g' :: gs) = _
    rw [ih]
    rfl

/-- The groups end here: the text does, or zeros are left out. -/
def EndsGroups (rest : List Char) : Prop :=
  rest = [] ∨ ∃ t, rest = ':' :: ':' :: t

theorem EndsGroups.endsNumber (h : EndsGroups rest) : EndsNumber 16 rest := by
  rcases h with rfl | ⟨t, rfl⟩
  · exact endsNumber_nil
  · exact endsNumber_cons.2 rfl

theorem readGroups_of_endsGroups (h : EndsGroups rest) : readGroups first n rest = ⟨[], false, rest⟩ := by
  cases n with
  | zero => rfl
  | succ n => rcases h with rfl | ⟨t, rfl⟩ <;> cases first <;> cases n <;> rfl

/-- One group is read, and the others behind it. -/
theorem readGroups_digits (hs : (if first then some s else readChar ':' s) = some (digits 16 g.toNat ++ t))
    (hdotted : n ≠ 0 → readIPv4 (digits 16 g.toNat ++ t) = none) (ht : EndsNumber 16 t) :
    readGroups first (n + 1) s =
      { readGroups false n t with groups := g :: (readGroups false n t).groups } := by
  have hg := g.toNat_lt
  have hwidth : (digits 16 g.toNat).length ≤ 4 := length_digits_le (by decide) (by decide) (by omega)
  have htry : (if n = 0 then none else readIPv4 (digits 16 g.toNat ++ t)) = none := by
    split
    · rfl
    · next hn => exact hdotted hn
  simp only [readGroups, hs, htry, readNumber_digits (by decide) (by decide) hwidth ht,
    UInt16.ofNat_toNat]

theorem dot_not_mem_digits : '.' ∉ digits 16 n := by
  intro h
  have hdigit := isSome_of_mem_digits (by decide) (by decide) h
  exact absurd hdigit (by decide)

theorem dot_not_mem_colonGroups : '.' ∉ colonGroups gs := by
  intro h
  obtain ⟨g, -, hg⟩ := List.mem_flatMap.1 h
  rcases List.mem_cons.1 hg with hc | hc
  · exact absurd hc (by decide)
  · exact dot_not_mem_digits hc

theorem dot_not_mem_groupChars : '.' ∉ groupChars gs := by
  cases gs with
  | nil => exact List.not_mem_nil
  | cons g gs =>
    rw [groupChars_cons, List.mem_append]
    exact not_or.2 ⟨dot_not_mem_digits, dot_not_mem_colonGroups⟩

theorem colonGroups_endsNumber (hrest : EndsGroups rest) : EndsNumber 16 (colonGroups gs ++ rest) := by
  cases gs with
  | nil => exact hrest.endsNumber
  | cons g gs => exact endsNumber_cons.2 rfl

theorem dot_not_mem_group (h : '.' ∉ rest) : '.' ∉ digits 16 g.toNat ++ (colonGroups gs ++ rest) := by
  simp only [List.mem_append, not_or]
  exact ⟨dot_not_mem_digits, dot_not_mem_colonGroups, h⟩

theorem readGroups_colonGroups (hn : gs.length ≤ n) (hrest : EndsGroups rest) (hdot : '.' ∉ rest) :
    readGroups false n (colonGroups gs ++ rest) = ⟨gs, false, rest⟩ := by
  induction gs generalizing n with
  | nil => exact readGroups_of_endsGroups hrest
  | cons g gs ih =>
    obtain ⟨n, rfl⟩ := Nat.exists_eq_add_one.2 (Nat.lt_of_lt_of_le (Nat.succ_pos _) hn)
    have hs : readChar ':' (colonGroups (g :: gs) ++ rest) =
        some (digits 16 g.toNat ++ (colonGroups gs ++ rest)) := by
      rw [← List.append_assoc]
      exact readChar_cons ':'
    rw [readGroups_digits ((if_neg Bool.false_ne_true).trans hs)
      (fun _ => readIPv4_eq_none (dot_not_mem_group hdot)) (colonGroups_endsNumber hrest),
      ih (Nat.le_of_succ_le_succ hn)]

/-- Groups are read where they are written, if there are no more than are asked for. -/
theorem readGroups_groupChars (hn : gs.length ≤ n) (hrest : EndsGroups rest) (hdot : '.' ∉ rest) :
    readGroups true n (groupChars gs ++ rest) = ⟨gs, false, rest⟩ := by
  cases gs with
  | nil => exact readGroups_of_endsGroups hrest
  | cons g gs =>
    obtain ⟨n, rfl⟩ := Nat.exists_eq_add_one.2 (Nat.lt_of_lt_of_le (Nat.succ_pos _) hn)
    rw [groupChars_cons, List.append_assoc,
      readGroups_digits (if_pos rfl) (fun _ => readIPv4_eq_none (dot_not_mem_group hdot))
      (colonGroups_endsNumber hrest), readGroups_colonGroups (Nat.le_of_succ_le_succ hn) hrest hdot]

theorem readGroups_whole (hn : gs.length ≤ n) : readGroups true n (groupChars gs) = ⟨gs, false, []⟩ := by
  have hread := readGroups_groupChars hn (.inl rfl) List.not_mem_nil
  rwa [List.append_nil] at hread

end

/-! ## IPv6 -/

theorem IPv4.ofGroups_octets (hi lo : UInt16) :
    Bytes.word16 (ofGroups hi lo).a (ofGroups hi lo).b = hi ∧
      Bytes.word16 (ofGroups hi lo).c (ofGroups hi lo).d = lo :=
  ⟨Bytes.word16_be16 hi, Bytes.word16_be16 lo⟩

namespace IPv6

/-- The groups of an address that stands for an IPv4 address. -/
def IsMapped (gs : List UInt16) : Prop :=
  ∃ hi lo, gs = [0, 0, 0, 0, 0, 0xffff, hi, lo]

/-- How groups are written. -/
inductive Written : List UInt16 → List Char → Prop where
  /-- The last two as an IPv4 address, and nothing of the zeros in front. -/
  | mapped {hi lo : UInt16} :
      Written [0, 0, 0, 0, 0, 0xffff, hi, lo] ("::ffff:".toList ++ (IPv4.ofGroups hi lo).chars)
  /-- Without the longest run of zeros, the first of equals. -/
  | compressed {gs : List UInt16} {run : ZeroRun} : ¬ IsMapped gs → run.Longest gs → 1 < run.length →
      Written gs (groupChars (gs.take run.start) ++ ':' :: ':' ::
        groupChars (gs.drop (run.start + run.length)))
  /-- All of them, where no two zeros follow each other. -/
  | plain {gs : List UInt16} : ¬ IsMapped gs → (∀ run : ZeroRun, run.Within gs → run.length ≤ 1) →
      Written gs (groupChars gs)

theorem ofGroups?_groups (ip : IPv6) : ofGroups? ip.groups = some ip :=
  dif_pos ip.length_groups

theorem mapped?_cases (ip : IPv6) :
    (∃ hi lo, ip.groups = [0, 0, 0, 0, 0, 0xffff, hi, lo] ∧
      ip.mapped? = some (IPv4.ofGroups hi lo)) ∨ ¬ IsMapped ip.groups ∧ ip.mapped? = none := by
  rw [mapped?]
  split
  · next hi lo hgroups => exact .inl ⟨hi, lo, hgroups, rfl⟩
  · next hother => exact .inr ⟨fun ⟨hi, lo, hgroups⟩ => hother hi lo hgroups, rfl⟩

theorem written_chars (ip : IPv6) : Written ip.groups ip.chars := by
  rw [chars]
  rcases ip.mapped?_cases with ⟨hi, lo, hgroups, hmapped⟩ | ⟨hother, hnone⟩
  · rw [hgroups, hmapped]
    exact .mapped
  · rw [hnone]
    have hlongest := ZeroRun.longest_longest ip.groups
    dsimp only
    split
    · next hrun => exact .compressed hother hlongest hrun
    · next hshort =>
      refine .plain hother fun run hwithin => ?_
      rcases Nat.eq_zero_or_pos run.length with hzero | hpos
      · omega
      · rcases hlongest.first run hwithin hpos with h | h <;> omega

end IPv6

/-- The last two groups can be read as an IPv4 address. -/
theorem readGroups_dotted {n : Nat} (v4 : IPv4) : readGroups false (n + 2) (':' :: v4.chars) =
    ⟨[Bytes.word16 v4.a v4.b, Bytes.word16 v4.c v4.d], true, []⟩ := by
  rw [readGroups, if_neg Bool.false_ne_true, readChar_cons]
  simp only [readIPv4_whole]
  rfl

/-- Around a `::`, the groups that are missing are zero. -/
theorem readIPv6_of_readGroups {front back : List UInt16} {tail4 : Bool} {s t rest : List Char}
    (hfront : readGroups true 8 s = ⟨front, false, ':' :: ':' :: t⟩) (hlength : front.length ≠ 8)
    (hback : readGroups true (7 - front.length) t = ⟨back, tail4, rest⟩) :
    readIPv6 s = (IPv6.ofGroups? (front ++ List.replicate (8 - front.length - back.length) 0 ++
      back)).map (·, rest) := by
  rw [readIPv6, hfront]
  simp only [if_neg hlength, if_neg Bool.false_ne_true, readChar_cons, Option.bind_eq_bind,
    Option.bind_some, hback]
  exact (Option.map_eq_bind ..).symm

/-- The zeros in front are left out, and the last two groups are read as an IPv4 address. -/
theorem readIPv6_mapped (hi lo : UInt16) :
    readIPv6 ("::ffff:".toList ++ (IPv4.ofGroups hi lo).chars) =
      (IPv6.ofGroups? [0, 0, 0, 0, 0, 0xffff, hi, lo]).map (·, []) := by
  have htail : readGroups true 7 (digits 16 (0xffff : UInt16).toNat ++ ':' :: (IPv4.ofGroups hi lo).chars) =
      ⟨[0xffff, hi, lo], true, []⟩ := by
    obtain ⟨hhi, hlo⟩ := IPv4.ofGroups_octets hi lo
    rw [readGroups_digits (if_pos rfl) (fun _ => rfl) (endsNumber_cons.2 rfl), readGroups_dotted, hhi, hlo]
  show readIPv6 (':' :: ':' :: 'f' :: 'f' :: 'f' :: 'f' :: ':' :: (IPv4.ofGroups hi lo).chars) = _
  exact readIPv6_of_readGroups (readGroups_of_endsGroups (.inr ⟨_, rfl⟩)) (by decide) htail

/-- The zeros that are left out are as many as groups are missing. -/
theorem readIPv6_compressed {front back : List UInt16} {zeros : Nat} (hzeros : 0 < zeros)
    (hlength : front.length + zeros + back.length = 8) :
    readIPv6 (groupChars front ++ ':' :: ':' :: groupChars back) =
      (IPv6.ofGroups? (front ++ List.replicate zeros 0 ++ back)).map (·, []) := by
  have hdot : '.' ∉ ':' :: ':' :: groupChars back := by
    simpa using dot_not_mem_groupChars
  have hfront := readGroups_groupChars (show front.length ≤ 8 by omega)
    (.inr ⟨groupChars back, rfl⟩) hdot
  have hback := readGroups_whole (show back.length ≤ 7 - front.length by omega)
  have hmissing : 8 - front.length - back.length = zeros := by omega
  rw [readIPv6_of_readGroups hfront (by omega) hback, hmissing]

theorem readIPv6_plain {gs : List UInt16} (h : gs.length = 8) :
    readIPv6 (groupChars gs) = (IPv6.ofGroups? gs).map (·, []) := by
  rw [readIPv6, readGroups_whole (Nat.le_of_eq h)]
  exact if_pos h

/-- However the groups are written, they are read. -/
theorem IPv6.Written.readIPv6 {ip : IPv6} {s : List Char} (h : Written ip.groups s) :
    readIPv6 s = some (ip, []) := by
  have hread : (ofGroups? ip.groups).map (·, ([] : List Char)) = some (ip, []) := by
    rw [ofGroups?_groups]
    rfl
  have hlength := ip.length_groups
  generalize ip.groups = gs at h hread hlength
  cases h with
  | mapped => rw [readIPv6_mapped, hread]
  | compressed _ hlongest hrun =>
    have heq := hlongest.within.eq
    have hsum := congrArg List.length heq
    simp only [hlength, List.length_append, List.length_replicate] at hsum
    rw [readIPv6_compressed (Nat.lt_of_succ_lt hrun) hsum.symm, ← heq, hread]
  | plain => rw [readIPv6_plain hlength, hread]

theorem IPv6.Written.readIPv4 {gs : List UInt16} {s : List Char} (h : Written gs s) :
    readIPv4 s = none := by
  cases h with
  | mapped => rfl
  | compressed =>
    refine readIPv4_eq_none ?_
    simpa using ⟨dot_not_mem_groupChars, dot_not_mem_groupChars⟩
  | plain => exact readIPv4_eq_none dot_not_mem_groupChars

/-! ## Addresses of either family -/

/-- **What is written of an address is read as this address.** -/
theorem Ip.ofChars?_chars (ip : Ip) : ofChars? ip.chars = some ip := by
  cases ip with
  | v4 ip =>
    simp only [ofChars?, chars, readIp, readIPv4_whole]
  | v6 ip =>
    have hwritten := ip.written_chars
    simp only [ofChars?, chars, readIp, hwritten.readIPv4, hwritten.readIPv6, Option.map_some]

end SocksProxy
