/-
  How names stand in messages, and that they are read.

  * `Reading.Reads`: bytes are read as a value at an offset, whatever comes behind them. Readings that follow each
    other read bytes that follow each other (`Reading.Reads.bind`);
  * a `Spelling` writes out some labels and ends there or leads on with a pointer, and `Spelling.Spells` says
    which labels that makes in a message;
  * **`Spelling.Spells.reads_name`**: a name that is spelled is read;
  * **`Name.valid_of_labelsOfChars?`**: the labels that a text names can be spelled.
-/
import SocksProxy.Dns.Message
import SocksProxy.Proofs.FinalDots

namespace SocksProxy.Dns

/-! ## Reading bytes -/

namespace Reading

variable {α β : Type} {p : Reading α} {f : α → Reading β} {o n : Nat} {b b' : Bytes} {a : α} {x : β}

/-- At an offset, the bytes are read as a value, whatever comes behind them. -/
def Reads (p : Reading α) (o : Nat) (b : Bytes) (a : α) : Prop :=
  ∀ rest, p.run ⟨o, b ++ rest⟩ = some (a, ⟨o + b.length, rest⟩)

theorem reads_pure : Reads (pure a) o [] a :=
  fun _ => rfl

theorem Reads.bind (hp : Reads p o b a) (hf : Reads (f a) (o + b.length) b' x) :
    Reads (p >>= f) o (b ++ b') x := by
  intro rest
  rw [StateT.run_bind, List.append_assoc, hp, List.length_append, ← Nat.add_assoc]
  exact hf rest

/-- Nothing more is read behind the bytes. -/
theorem Reads.last (hp : Reads p o b a) (hf : Reads (f a) (o + b.length) [] x) : Reads (p >>= f) o b x := by
  rw [← List.append_nil b]
  exact hp.bind hf

theorem Reads.map {g : α → β} (hp : Reads p o b a) : Reads (p >>= fun a => pure (g a)) o b (g a) :=
  hp.last reads_pure

theorem reads_byte {n : UInt8} : Reads byte o [n] n :=
  fun _ => rfl

theorem reads_word16 {w : UInt16} : Reads word16 o (Bytes.be16 w) w := by
  intro rest
  show some (Bytes.word16 _ _, _) = _
  rw [Bytes.word16_be16]
  rfl

theorem reads_word32 {w : UInt32} : Reads word32 o (Bytes.be32 w) w := by
  intro rest
  show some (Bytes.word32 _ _ _ _, _) = _
  rw [Bytes.word32_be32]
  rfl

theorem reads_bytes (hn : b.length = n) : Reads (bytes n) o b b := by
  intro rest
  subst hn
  show (if _ then _ else _) = _
  rw [List.take_left, List.drop_left]
  exact if_pos rfl

theorem Reads.check {c : Bool} {k : Unit → Reading β} (hk : Reads (k ()) o b x) (hc : c = true) :
    Reads (check c >>= k) o b x := by
  subst hc
  exact hk

theorem Reads.offset {k : Nat → Reading β} (hk : Reads (k o) o b x) : Reads (offset >>= k) o b x :=
  hk

/-- There is room for bytes that are going to be read. -/
theorem Reads.room {k : Unit → Reading β} (hk : Reads (k ()) o b x) (hn : n ≤ b.length) :
    Reads (do let c ← get; Reading.check ((c.rest.take n).length == n) >>= k) o b x := by
  intro rest
  have hlength : ((b ++ rest).take n).length = n := by
    rw [List.length_take, List.length_append]
    omega
  show StateT.run (Reading.check (((b ++ rest).take n).length == n) >>= k) _ = _
  rw [hlength, beq_self_eq_true]
  exact hk rest

end Reading

/-! ## Labels -/

/-- The label is not empty, and its length leaves the upper bits of a length byte free. -/
def Label.Valid (l : Label) : Prop :=
  l ≠ [] ∧ l.length < 0x40

instance {l : Label} : Decidable l.Valid :=
  inferInstanceAs (Decidable (_ ∧ _))

/-- The name can be written out in a message. -/
structure Name.Fits (name : Name) : Prop where
  valid : ∀ l ∈ name.labels, l.Valid
  size : name.size < 255

namespace Reading

variable {m rest : Bytes} {start o t : Nat} {stop : Option Nat}

private theorem any_stop_eq_false (hstop : ∀ s ∈ stop, o < s) :
    (stop.any fun s => decide (s ≤ o)) = false := by
  cases stop with
  | none => rfl
  | some s => exact decide_eq_false (Nat.not_le_of_lt (hstop s rfl))

theorem labels_root (hstop : ∀ s ∈ stop, o < s) :
    labels m start stop ⟨o, 0 :: rest⟩ = some ([], ⟨o + 1, rest⟩) := by
  rw [labels, any_stop_eq_false hstop]
  rfl

theorem labels_label {l : Label} (hl : l.Valid) (hstop : ∀ s ∈ stop, o < s) :
    labels m start stop ⟨o, UInt8.ofNat l.length :: (l ++ rest)⟩ =
      (labels m start stop ⟨o + 1 + l.length, rest⟩).map fun x => (l :: x.1, x.2) := by
  have hlength : (UInt8.ofNat l.length).toNat = l.length :=
    UInt8.toNat_ofNat_of_lt (Nat.lt_trans hl.2 (by decide))
  have hzero : UInt8.ofNat l.length ≠ 0 := by
    intro hx
    rw [hx] at hlength
    exact hl.1 (List.length_eq_zero_iff.1 hlength.symm)
  have hshort : UInt8.ofNat l.length < 0x40 := by
    rw [UInt8.lt_iff_toNat_lt, hlength]
    exact hl.2
  rw [labels, any_stop_eq_false hstop]
  simp only [Bool.false_eq_true, if_false, if_neg hzero, if_pos hshort, hlength, List.take_left,
    List.drop_left, if_true]
  cases labels m start stop ⟨o + 1 + l.length, rest⟩ <;> rfl

theorem labels_pointer (ht : t < start) (htarget : t < 0x4000) (hstop : ∀ s ∈ stop, o < s) :
    labels m start stop ⟨o, Bytes.be16 (UInt16.ofNat (0xC000 + t)) ++ rest⟩ =
      (labels m t (some start) ⟨t, m.drop t⟩).map fun x => (x.1, ⟨o + 2, rest⟩) := by
  have hword : (UInt16.ofNat (0xC000 + t)).toNat = 0xC000 + t :=
    UInt16.toNat_ofNat_of_lt (show 0xC000 + t < 65536 by omega)
  have hupper : (UInt8.ofNat ((0xC000 + t) / 256)).toNat = (0xC000 + t) / 256 :=
    UInt8.toNat_ofNat_of_lt (show (0xC000 + t) / 256 < 256 by omega)
  have hzero : UInt8.ofNat ((0xC000 + t) / 256) ≠ 0 := by
    intro hx
    rw [hx, UInt8.toNat_zero] at hupper
    omega
  have hlong (n : UInt8) (hn : n.toNat ≤ 0xC0) : ¬UInt8.ofNat ((0xC000 + t) / 256) < n := by
    rw [UInt8.lt_iff_toNat_lt, hupper]
    omega
  have hlow : (Bytes.word16 (UInt8.ofNat ((0xC000 + t) / 256)) (UInt8.ofNat (0xC000 + t))).toNat % 0x4000 = t := by
    have hread := Bytes.word16_be16 (UInt16.ofNat (0xC000 + t))
    rw [hword] at hread
    rw [hread, hword]
    omega
  rw [Bytes.be16, hword, labels, any_stop_eq_false hstop]
  simp only [Bool.false_eq_true, if_false, List.cons_append, List.nil_append, if_neg hzero,
    if_neg (hlong 0x40 (by decide)), if_neg (hlong 0xC0 (by decide)), hlow, if_pos ht]
  cases labels m t (some start) ⟨t, m.drop t⟩ <;> rfl

/-- Labels that are written out are read one after the other. -/
theorem labels_encodeLabels {ls : List Label} (hls : ∀ l ∈ ls, l.Valid)
    (hstop : ∀ s ∈ stop, o + (Name.encodeLabels ls).length < s) :
    labels m start stop ⟨o, Name.encodeLabels ls ++ rest⟩ =
      (labels m start stop ⟨o + (Name.encodeLabels ls).length, rest⟩).map fun x => (ls ++ x.1, x.2) := by
  induction ls generalizing o with
  | nil => exact Option.map_id'.symm
  | cons l ls ih =>
    obtain ⟨hl, hls⟩ := List.forall_mem_cons.1 hls
    have hcons : Name.encodeLabels (l :: ls) = UInt8.ofNat l.length :: (l ++ Name.encodeLabels ls) := rfl
    have hlength : o + (Name.encodeLabels (l :: ls)).length =
        o + 1 + l.length + (Name.encodeLabels ls).length := by
      rw [hcons, List.length_cons, List.length_append]
      omega
    rw [hlength] at hstop ⊢
    rw [hcons, List.cons_append, List.append_assoc, labels_label hl fun s hs => ?_, ih hls hstop, Option.map_map]
    · rfl
    · have := hstop s hs
      omega

end Reading

/-! ## Spellings -/

/-- A name as it stands in a message. -/
structure Spelling where
  /-- The labels that are written out. -/
  labels : List Label
  /-- Where a pointer behind them leads. -/
  target : Option Nat

namespace Spelling

/-- Behind the labels stands a pointer or a zero. -/
def bytes (s : Spelling) : Bytes :=
  Name.encodeLabels s.labels ++
    match s.target with
    | none => [0]
    | some t => Bytes.be16 (UInt16.ofNat (0xC000 + t))

/-- Number of bytes in front of the pointer or the zero. -/
def size (s : Spelling) : Nat :=
  (Name.encodeLabels s.labels).length

/-- What is spelled at an offset of a message. A pointer leads to a spelling that ends in front of the one that it
    is in, at least with all of its labels. -/
inductive Spells (m : Bytes) : Nat → Spelling → List Label → Prop
  | whole {o : Nat} {ls : List Label} (hls : ∀ l ∈ ls, l.Valid) : Spells m o ⟨ls, none⟩ ls
  | pointed {o t : Nat} {ls ls' : List Label} {s : Spelling} (hls : ∀ l ∈ ls, l.Valid) (htarget : t < 0x4000)
      (hbytes : s.bytes <+: m.drop t) (hbefore : t + s.size < o) (hs : Spells m t s ls') :
      Spells m o ⟨ls, some t⟩ (ls ++ ls')

variable {m rest : Bytes} {o : Nat} {s : Spelling} {ls : List Label}

theorem Spells.reads_labels {stop : Option Nat} (h : Spells m o s ls) (hstop : ∀ e ∈ stop, o + s.size < e) :
    Reading.labels m o stop ⟨o, s.bytes ++ rest⟩ = some (ls, ⟨o + s.bytes.length, rest⟩) := by
  induction h generalizing stop rest with
  | @whole o ls hls =>
    have hbytes : (Spelling.mk ls none).bytes = Name.encodeLabels ls ++ [0] := rfl
    have hstop : ∀ e ∈ stop, o + (Name.encodeLabels ls).length < e := hstop
    rw [hbytes, List.append_assoc, Reading.labels_encodeLabels hls hstop, List.cons_append,
      List.nil_append, Reading.labels_root hstop, Option.map_some, List.append_nil, List.length_append]
    rfl
  | @pointed o t ls ls' s hls htarget hbytes hbefore hs ih =>
    have hbytes' : (Spelling.mk ls (some t)).bytes =
        Name.encodeLabels ls ++ Bytes.be16 (UInt16.ofNat (0xC000 + t)) := rfl
    have hstop : ∀ e ∈ stop, o + (Name.encodeLabels ls).length < e := hstop
    obtain ⟨behind, hbehind⟩ := hbytes
    have ht : t < o := by omega
    have htarget' : Reading.labels m t (some o) ⟨t, s.bytes ++ behind⟩ = some (ls', ⟨t + s.bytes.length, behind⟩) :=
      ih fun e he => by
        cases he
        exact hbefore
    rw [hbytes', List.append_assoc, Reading.labels_encodeLabels hls hstop,
      Reading.labels_pointer ht htarget hstop, ← hbehind, htarget', Option.map_some, Option.map_some,
      List.length_append]
    rfl

theorem length_pos : 0 < s.bytes.length := by
  unfold bytes
  rw [List.length_append]
  cases s.target with
  | none => exact Nat.succ_pos _
  | some t => exact Nat.succ_pos _

/-- What is spelled takes two bytes more than its labels at the most. -/
theorem Spells.length_le (h : Spells m o s ls) : s.bytes.length ≤ (Name.encodeLabels ls).length + 2 := by
  cases h with
  | whole =>
    show (Name.encodeLabels ls ++ [0]).length ≤ _
    rw [List.length_append, List.length_singleton]
    omega
  | @pointed _ t ls ls' =>
    have hsplit : Name.encodeLabels (ls ++ ls') = Name.encodeLabels ls ++ Name.encodeLabels ls' :=
      List.flatMap_append
    rw [hsplit, List.length_append]
    show (Name.encodeLabels ls ++ Bytes.be16 _).length ≤ _
    rw [List.length_append, Bytes.length_be16]
    omega

/-- The spelling is read as a name at an offset of a message: it is well-formed, and its labels do not take more
    bytes than a name may. -/
def Names (m : Bytes) (o : Nat) (s : Spelling) (name : Name) : Prop :=
  Spells m o s name.labels ∧ name.size < 255

variable {name : Name}

theorem Names.reads (h : Names m o s name) : Reading.Reads (Reading.name m) o s.bytes name := by
  intro rest
  show ((Reading.labels m o none ⟨o, s.bytes ++ rest⟩).bind fun x =>
    if (Name.mk x.1).size < 255 then some (Name.mk x.1, x.2) else none) = _
  have hread : Reading.labels m o none ⟨o, s.bytes ++ rest⟩ = some (name.labels, ⟨o + s.bytes.length, rest⟩) :=
    h.1.reads_labels fun e he => nomatch he
  rw [hread, Option.bind_some]
  exact if_pos h.2

theorem Names.length_le (h : Names m o s name) : s.bytes.length ≤ 256 := by
  have hlength := h.1.length_le
  have hsize : (Name.encodeLabels name.labels).length < 255 := h.2
  omega

/-- A name that is written out in full. -/
theorem names_whole (h : name.Fits) : Names m o ⟨name.labels, none⟩ name :=
  ⟨.whole h.valid, h.size⟩

/-- A pointer to a name that is written out in full. -/
theorem names_pointer {t : Nat} (h : name.Fits) (htarget : t < 0x4000) (hbytes : name.encode <+: m.drop t)
    (hbefore : t + name.size < o) : Names m o ⟨[], some t⟩ name :=
  ⟨.pointed (s := ⟨name.labels, none⟩) nofun htarget hbytes hbefore (.whole h.valid), h.size⟩

end Spelling

/-! ## Labels of texts -/

namespace Name

variable {l : Label} {cs : List Char} {ls : List Label}

theorem valid_of_labelOfChars? (h : labelOfChars? cs = some l) : l.Valid := by
  have hlength := length_labelOfChars? h
  unfold labelOfChars? at h
  split at h
  · nomatch h
  · next c rest =>
    have hshort := (Option.ite_none_right_eq_some.1 h).1.1
    refine ⟨?_, by omega⟩
    rintro rfl
    nomatch hlength

theorem valid_of_readLabels {escape : Escape} {label : List Char} (h : readLabels escape label cs = some ls) :
    ∀ l ∈ ls, l.Valid := by
  induction cs generalizing escape label ls with
  | nil =>
    unfold readLabels at h
    split at h
    · cases h
      exact List.forall_mem_nil _
    · obtain ⟨l, hl, rfl⟩ := Option.map_eq_some_iff.1 h
      exact List.forall_mem_singleton.2 (valid_of_labelOfChars? hl)
  | cons c cs ih =>
    rw [readLabels_cons] at h
    obtain ⟨x, hc, hread⟩ := Option.bind_eq_some_iff.1 h
    obtain ⟨ls', hrest, rfl⟩ := Option.map_eq_some_iff.1 hread
    refine List.forall_mem_append.2 ⟨fun l hl => ?_, ih hrest⟩
    obtain ⟨cs, hcs⟩ := (of_readChar hc).2 l hl
    exact valid_of_labelOfChars? hcs

/-- The labels that a text names can be written out. -/
theorem valid_of_labelsOfChars? (h : labelsOfChars? cs = some ls) : ∀ l ∈ ls, l.Valid := by
  unfold labelsOfChars? at h
  split at h
  · cases h
    exact List.forall_mem_nil _
  · exact valid_of_readLabels h

end Name

end SocksProxy.Dns
