/-
  The text of the setting that says where names are resolved.

  * `Text.SameLetters`: two texts differ only in the case of letters;
  * `Resolution.alphabet`: the characters that such a text is made of. None of them is blank or a capital, and no
    blank becomes one of them in lower case;
  * `Resolution.lower_trim`: so blanks around the text and the case of its letters are lost when it is read;
  * `Resolution.parse?_of_lower_trim`: what is left is read as the setting.

  **`settings_survive_their_text`** puts them together.
-/
import SocksProxy.Config.Resolution
import SocksProxy.Proofs.IpTexts

namespace SocksProxy

namespace Text

variable {c : Char} {n : Nat} {before word after : List Char}

/-! ## The case of letters -/

/-- The texts differ only in the case of letters: each character of one has the same small letter as that of the
    other. -/
def SameLetters (s t : List Char) : Prop :=
  s.map lowerChar = t.map lowerChar

/-- Without the two letters that have rules of their own, lower case goes letter by letter. -/
theorem lowerFrom_eq_map {cased : Bool} (h : ∀ c ∈ word, c ≠ 'İ' ∧ c ≠ 'Σ') :
    lowerFrom cased word = word.map lowerChar := by
  induction word generalizing cased with
  | nil => rfl
  | cons c word ih =>
    obtain ⟨hdotted, hsigma⟩ := h c List.mem_cons_self
    rw [lowerFrom, ih fun d hd => h d (.tail _ hd), if_neg hdotted, List.map_cons]
    simp [hsigma]

/-! ## Blanks -/

/-- The code points of the ranges. -/
def points (ranges : List (Nat × Nat)) : List Nat :=
  ranges.flatMap fun r => List.range' r.1 (r.2 + 1 - r.1)

theorem mem_points_of_inRanges {ranges : List (Nat × Nat)} (h : inRanges n ranges = true) :
    n ∈ points ranges := by
  induction ranges with
  | nil => cases h
  | cons r ranges ih =>
    rw [points, List.flatMap_cons, List.mem_append]
    rw [inRanges] at h
    split at h
    · cases h
    · split at h
      · exact .inl (List.mem_range'_1.2 (by omega))
      · exact .inr (ih h)

theorem lowerChar_of_isBlank (h : isBlank c = true) : lowerChar c = c := by
  have hpoints : ∀ n ∈ points blankRanges, lowerChar (Char.ofNat n) = Char.ofNat n := by
    decide +kernel
  have hc := hpoints c.toNat (mem_points_of_inRanges h)
  rwa [Char.ofNat_toNat] at hc

theorem dropWhile_eq_self {p : Char → Bool} (h : ∀ c ∈ word, p c = false) : word.dropWhile p = word := by
  cases word with
  | nil => rfl
  | cons c word => rw [List.dropWhile_cons_of_neg (by simp [h c])]

/-- White space around a word is taken off. -/
theorem trim_append (hbefore : ∀ c ∈ before, isBlank c = true) (hafter : ∀ c ∈ after, isBlank c = true)
    (hword : ∀ c ∈ word, isBlank c = false) : trim (before ++ word ++ after) = word := by
  have hfront : (before ++ word ++ after).dropWhile isBlank = if word = [] then [] else word ++ after := by
    rw [List.append_assoc, List.dropWhile_append_of_pos hbefore]
    cases word with
    | nil =>
      have hblank : (after ++ []).dropWhile isBlank = [] := List.dropWhile_append_of_pos hafter
      rwa [List.append_nil] at hblank
    | cons c word => exact List.dropWhile_cons_of_neg (by simp [hword c])
  rw [trim, hfront]
  split
  · next hnil => exact hnil.symm
  · rw [List.reverse_append, List.dropWhile_append_of_pos (by simpa using hafter),
      dropWhile_eq_self (by simpa using hword), List.reverse_reverse]

end Text

open Text

namespace Resolution

variable {c d : Char} {r : Resolution} {before word after : List Char}

/-! ## Characters of a setting -/

/-- The characters of settings. -/
def alphabet : List Char :=
  "0123456789abcdef.:uton".toList

theorem lowerChar_of_mem_alphabet (h : c ∈ alphabet) : lowerChar c = c := by
  have hall : (alphabet.all fun c => lowerChar c == c) = true := by decide +kernel
  exact eq_of_beq (List.all_eq_true.1 hall c h)

theorem isBlank_of_mem_alphabet (h : c ∈ alphabet) : isBlank c = false := by
  have hnone : alphabet.any isBlank = false := by decide
  exact Bool.eq_false_iff.2 (List.any_eq_false.1 hnone c h)

/-- A letter that has its small letter among them follows no rule of its own and is not blank. -/
theorem of_lowerChar_mem_alphabet (h : lowerChar d ∈ alphabet) :
    (d ≠ 'İ' ∧ d ≠ 'Σ') ∧ isBlank d = false := by
  refine ⟨⟨?_, ?_⟩, Bool.eq_false_iff.2 fun hblank => ?_⟩
  · rintro rfl
    exact absurd h (by decide +kernel)
  · rintro rfl
    exact absurd h (by decide +kernel)
  · rw [lowerChar_of_isBlank hblank] at h
    exact Bool.false_ne_true ((isBlank_of_mem_alphabet h).symm.trans hblank)

theorem mem_alphabet_of_mem_digits {base n : Nat} (hbase : 1 < base) (hbase' : base ≤ 16)
    (h : c ∈ digits base n) : c ∈ alphabet := by
  have hall : ∀ v : Fin 16, Nat.digitChar v ∈ alphabet := by decide
  obtain ⟨vs, hdigits, hvs, -⟩ := exists_values hbase n
  rw [hdigits] at h
  obtain ⟨v, hv, rfl⟩ := List.mem_map.1 h
  exact hall ⟨v, Nat.lt_of_lt_of_le (hvs v hv) hbase'⟩

theorem mem_alphabet_of_mem_ipv4 {ip : IPv4} (h : c ∈ ip.chars) : c ∈ alphabet := by
  simp only [IPv4.chars, List.mem_append, List.mem_cons] at h
  have hdot : '.' ∈ alphabet := by decide
  rcases h with h | rfl | h | rfl | h | rfl | h
  all_goals first | exact hdot | exact mem_alphabet_of_mem_digits (by decide) (by decide) h

theorem mem_alphabet_of_mem_groupChars {gs : List UInt16} (h : c ∈ groupChars gs) : c ∈ alphabet := by
  cases gs with
  | nil => cases h
  | cons g gs =>
    rw [groupChars_cons, List.mem_append] at h
    rcases h with h | h
    · exact mem_alphabet_of_mem_digits (by decide) (by decide) h
    · obtain ⟨g, -, hg⟩ := List.mem_flatMap.1 h
      rcases List.mem_cons.1 hg with rfl | hg
      · decide
      · exact mem_alphabet_of_mem_digits (by decide) (by decide) hg

theorem mem_alphabet_of_written {gs : List UInt16} {s : List Char} (h : IPv6.Written gs s)
    (hc : c ∈ s) : c ∈ alphabet := by
  cases h with
  | mapped =>
    have hfront : "::ffff:".toList ⊆ alphabet := by decide
    rcases List.mem_append.1 hc with hc | hc
    · exact hfront hc
    · exact mem_alphabet_of_mem_ipv4 hc
  | compressed =>
    have hcolon : ':' ∈ alphabet := by decide
    simp only [List.mem_append, List.mem_cons] at hc
    rcases hc with hc | rfl | rfl | hc
    · exact mem_alphabet_of_mem_groupChars hc
    · exact hcolon
    · exact hcolon
    · exact mem_alphabet_of_mem_groupChars hc
  | plain => exact mem_alphabet_of_mem_groupChars hc

theorem mem_alphabet_of_mem_text (h : c ∈ r.text.toList) : c ∈ alphabet := by
  have hauto : "auto".toList ⊆ alphabet := by decide
  have hnone : "none".toList ⊆ alphabet := by decide
  cases r with
  | auto => exact hauto h
  | disabled => exact hnone h
  | server ip =>
    rw [text, Ip.text, String.toList_ofList] at h
    cases ip with
    | v4 ip => exact mem_alphabet_of_mem_ipv4 h
    | v6 ip => exact mem_alphabet_of_written ip.written_chars h

/-! ## Reading settings -/

/-- What is left of a text when it is read. -/
theorem lower_trim (hbefore : ∀ c ∈ before, isBlank c = true) (hafter : ∀ c ∈ after, isBlank c = true)
    (hword : SameLetters word r.text.toList) :
    lower (String.ofList (trim (before ++ word ++ after))) = r.text := by
  have hsmall : word.map lowerChar = r.text.toList := by
    have hself : r.text.toList.map lowerChar = r.text.toList.map id :=
      List.map_congr_left fun c hc => lowerChar_of_mem_alphabet (mem_alphabet_of_mem_text hc)
    rw [hword, hself, List.map_id]
  have hletters {d : Char} (hd : d ∈ word) : lowerChar d ∈ alphabet :=
    mem_alphabet_of_mem_text (hsmall ▸ List.mem_map_of_mem hd)
  have htrim : trim (before ++ word ++ after) = word :=
    trim_append hbefore hafter fun d hd => (of_lowerChar_mem_alphabet (hletters hd)).2
  rw [htrim, lower, String.toList_ofList,
    lowerFrom_eq_map fun d hd => (of_lowerChar_mem_alphabet (hletters hd)).1, hsmall,
    String.ofList_toList]

theorem parse?_of_lower_trim {s : String} (h : lower (String.ofList (trim s.toList)) = r.text) :
    parse? s = some r := by
  have hip (ip : Ip) : Ip.parse? ip.text = some ip := by
    rw [Ip.parse?, Ip.text, String.toList_ofList, Ip.ofChars?_chars]
  simp only [parse?, h]
  cases r with
  | auto | disabled => rfl
  | server ip =>
    -- Neither word is the text of an address, as it is not read as one.
    have hother {word : String} (hword : Ip.parse? word = none) : (server ip).text ≠ word := by
      rintro rfl
      exact nomatch hword.symm.trans (hip ip)
    have hauto : (server ip).text ≠ "auto" := hother rfl
    have hnone : (server ip).text ≠ "none" := hother rfl
    rw [if_neg hauto, if_neg hnone]
    show (Ip.parse? ip.text).map server = _
    rw [hip]
    rfl

/-- **A setting is read back from its text**, whatever blanks are put around it and in whatever case its letters
    are. So what is read of any text is what is read of the text of the result. The text of an IPv6 address has
    the one form that its groups call for. -/
theorem settings_survive_their_text :
    (∀ r : Resolution, parse? r.text = some r) ∧
    (∀ (r : Resolution) (before word after : List Char),
      (∀ c ∈ before, isBlank c = true) → (∀ c ∈ after, isBlank c = true) →
      SameLetters word r.text.toList →
        parse? (String.ofList (before ++ word ++ after)) = some r) ∧
    (∀ (s : String) (r : Resolution), parse? s = some r → parse? r.text = some r) ∧
    ∀ ip : IPv6, IPv6.Written ip.groups (server (.v6 ip)).text.toList := by
  have hloose (r : Resolution) (before word after : List Char)
      (hbefore : ∀ c ∈ before, isBlank c = true) (hafter : ∀ c ∈ after, isBlank c = true)
      (hword : SameLetters word r.text.toList) :
      parse? (String.ofList (before ++ word ++ after)) = some r := by
    refine parse?_of_lower_trim ?_
    rw [String.toList_ofList]
    exact lower_trim hbefore hafter hword
  have hself (r : Resolution) : parse? r.text = some r := by
    have h := hloose r [] r.text.toList [] nofun nofun rfl
    rwa [List.nil_append, List.append_nil, String.ofList_toList] at h
  refine ⟨hself, hloose, fun _ r _ => hself r, fun ip => ?_⟩
  rw [text, Ip.text, String.toList_ofList]
  exact ip.written_chars

/-- Of two runs of zeros in this address the first is left out. -/
def twoRuns : Ip := .v6 ⟨[0x2001, 0xdb8, 0, 0, 1, 0, 0, 1], rfl⟩

/-- The address in capitals and between blanks. -/
theorem loud_address_is_read :
    parse? "\t 2001:DB8::1:0:0:1\u3000" = some (server twoRuns) ∧
      (server twoRuns).text = "2001:db8::1:0:0:1" ∧
      parse? (server twoRuns).text = some (server twoRuns) := by
  obtain ⟨-, hloose, hagain, -⟩ := settings_survive_their_text
  have hloud := hloose (server twoRuns) "\t ".toList "2001:DB8::1:0:0:1".toList "\u3000".toList
    (List.all_eq_true.1 (by decide)) (List.all_eq_true.1 (by decide)) (show _ = _ by decide +kernel)
  have hwritten : String.ofList ("\t ".toList ++ "2001:DB8::1:0:0:1".toList ++ "\u3000".toList) =
      "\t 2001:DB8::1:0:0:1\u3000" := by decide +kernel
  rw [hwritten] at hloud
  exact ⟨hloud, by decide +kernel, hagain _ _ hloud⟩

end Resolution

end SocksProxy
