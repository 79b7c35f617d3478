/-
  The dot at the end of a name that is asked for.

  A query takes one dot off the end of a text before the text is read. In most texts this dot ends the last
  label, and the rest of the text has the same labels. But the dot can be a part of an escape, or stand where no
  label has begun.

  * `Place` is what has to be known of the front of a text to tell these cases apart;
  * `HasLooseDot` says that the last dot is of the second kind;
  * `Name.readLabels_dot`: a dot that ends a label makes no difference;
  * `Name.readLabels_loose_dot`: a loose dot always does.

  **`loose_dots_change_names`** puts them together; `escaped_dot_is_lost` is about the texts `a\.` and `a..`.
-/
import Mathlib.Tactic.SplitIfs
import SocksProxy.Dns.Query

namespace SocksProxy.Dns

/-! ## Places in a text -/

/-- A place in the text of a name. -/
inductive Place where
  /-- No label has begun. -/
  | between
  | inLabel
  /-- Behind the backslash of an escape. -/
  | backslash
  /-- Behind the first digit of an escape. -/
  | digit
  /-- Behind the second digit of an escape. -/
  | digits
  deriving DecidableEq, Repr

namespace Place

/-- The place behind the next character. -/
def next (p : Place) (c : Char) : Place :=
  match p with
  | between | inLabel => if c = '.' then between else if c = '\\' then backslash else inLabel
  | backslash => if '0' ≤ c ∧ c ≤ '9' then digit else inLabel
  | digit => digits
  | digits => inLabel

/-- The place behind a text. -/
def behind (s : List Char) : Place :=
  s.foldl next between

/-- The place at which labels are read, given how far an escape has been read and the characters of the label
    so far. -/
def of : Name.Escape → List Char → Place
  | .no, [] => between
  | .no, _ :: _ => inLabel
  | .started, _ => backslash
  | .first _, _ => digit
  | .second .., _ => digits

end Place

/-- The text has a dot at its end that does not end a label. -/
def HasLooseDot (text : List Char) : Prop :=
  text.getLast? = some '.' ∧ Place.behind text.dropLast ≠ .inLabel

instance {text : List Char} : Decidable (HasLooseDot text) :=
  inferInstanceAs (Decidable (_ ∧ _))

theorem hasLooseDot_append {front : List Char} :
    HasLooseDot (front ++ ['.']) ↔ Place.behind front ≠ .inLabel := by
  unfold HasLooseDot
  rw [List.dropLast_concat]
  exact and_iff_right List.getLast?_concat

/-! ## Reading character by character -/

namespace Name

variable {escape escape' : Escape} {label label' s : List Char} {c : Char} {ended : List Label}

/-- Reads one character: the label that it ends, if it ends one, and how far an escape and the next label have
    come then. -/
def readChar (escape : Escape) (label : List Char) (c : Char) :
    Option (List Label × Escape × List Char) :=
  match escape with
  | .no =>
    if c = '.' then (labelOfChars? label.reverse).map fun l => ([l], .no, [])
    else if c = '\\' then some ([], .started, label)
    else if c ≤ ' ' ∨ c = '\x7f' then none
    else some ([], .no, c :: label)
  | .started =>
    if '0' ≤ c ∧ c ≤ '9' then (octal? c).map fun a => ([], .first a, label)
    else some ([], .no, c :: label)
  | .first a => (octal? c).map fun b => ([], .second a b, label)
  | .second a b => (octal? c).map fun d => ([], .no, Char.ofNat (a * 64 + b * 8 + d) :: label)

theorem readLabels_cons : readLabels escape label (c :: s) =
    (readChar escape label c).bind fun x => (readLabels x.2.1 x.2.2 s).map (x.1 ++ ·) := by
  have hid {r : Option (List Label)} : r.map ([] ++ ·) = r := Option.map_id'
  cases escape with
  | no =>
    simp only [readLabels, readChar]
    split_ifs
    · cases labelOfChars? label.reverse with
      | none => rfl
      | some l =>
        rw [Option.map_some, Option.bind_some]
        cases readLabels .no [] s <;> rfl
    · exact hid.symm
    · rfl
    · exact hid.symm
  | started =>
    simp only [readLabels, readChar]
    split_ifs
    · cases octal? c with
      | none => rfl
      | some a => exact hid.symm
    · exact hid.symm
  | first | second =>
    simp only [readLabels, readChar]
    cases octal? c with
    | none => rfl
    | some b => exact hid.symm

/-- A character that is read leads to the next place, and a label that it ends is made of characters. -/
theorem of_readChar (h : readChar escape label c = some (ended, escape', label')) :
    Place.of escape' label' = (Place.of escape label).next c ∧ ∀ l ∈ ended, ∃ cs, labelOfChars? cs = some l := by
  cases escape with
  | no =>
    have hnext : (Place.of .no label).next c =
        if c = '.' then .between else if c = '\\' then .backslash else .inLabel := by
      cases label <;> rfl
    rw [hnext]
    simp only [readChar] at h
    split_ifs at h ⊢
    · obtain ⟨l, hl, heq⟩ := Option.map_eq_some_iff.1 h
      cases heq
      exact ⟨rfl, List.forall_mem_singleton.2 ⟨_, hl⟩⟩
    · cases h
      exact ⟨rfl, nofun⟩
    · cases h
      exact ⟨rfl, nofun⟩
  | started =>
    have hnext : (Place.of .started label).next c =
        if '0' ≤ c ∧ c ≤ '9' then .digit else .inLabel := rfl
    rw [hnext]
    simp only [readChar] at h
    split_ifs at h ⊢
    · obtain ⟨a, -, heq⟩ := Option.map_eq_some_iff.1 h
      cases heq
      exact ⟨rfl, nofun⟩
    · cases h
      exact ⟨rfl, nofun⟩
  | first | second =>
    obtain ⟨b, -, heq⟩ := Option.map_eq_some_iff.1 h
    cases heq
    exact ⟨rfl, nofun⟩

/-! ## Reading a dot at the end -/

/-- A dot that ends a label makes no difference at the end of a text. -/
theorem readLabels_dot (h : s.foldl Place.next (Place.of escape label) = .inLabel) :
    readLabels escape label (s ++ ['.']) = readLabels escape label s := by
  induction s generalizing escape label with
  | nil =>
    cases escape with
    | no =>
      cases label with
      | nil => nomatch h
      | cons c label =>
        show (do let l ← labelOfChars? (c :: label).reverse; some [l]) =
          (labelOfChars? (c :: label).reverse).map ([·])
        cases labelOfChars? (c :: label).reverse <;> rfl
    | started | first | second => nomatch h
  | cons c s ih =>
    rw [List.cons_append, readLabels_cons, readLabels_cons]
    cases hc : readChar escape label c with
    | none => rfl
    | some x =>
      have hrest : readLabels x.2.1 x.2.2 (s ++ ['.']) = readLabels x.2.1 x.2.2 s := by
        apply ih
        rw [(of_readChar hc).1]
        exact h
      rw [Option.bind_some, Option.bind_some, hrest]

/-- The characters of a label are as many as its bytes. -/
theorem length_labelOfChars? {cs : List Char} {l : Label} (h : labelOfChars? cs = some l) :
    l.length = cs.length := by
  unfold labelOfChars? at h
  split at h
  · nomatch h
  · split at h
    · cases h
      exact List.length_map ..
    · nomatch h

/-- Any other dot at the end makes a text name something else, or nothing. -/
theorem readLabels_loose_dot {ls : List Label}
    (h : s.foldl Place.next (Place.of escape label) ≠ .inLabel)
    (hread : readLabels escape label s = some ls) :
    readLabels escape label (s ++ ['.']) ≠ some ls := by
  induction s generalizing escape label ls with
  | nil =>
    cases escape with
    | no =>
      cases label with
      | nil => nofun
      | cons => exact absurd rfl h
    | started =>
      -- The dot becomes the last character of the last label.
      intro hdot
      have hdot : (labelOfChars? ('.' :: label).reverse).map ([·]) = some ls := hdot
      obtain ⟨l, hl, rfl⟩ := Option.map_eq_some_iff.1 hdot
      have hlength := length_labelOfChars? hl
      cases label with
      | nil => nomatch hread
      | cons c label =>
        obtain ⟨l', hl', heq⟩ := Option.map_eq_some_iff.1 hread
        have hlength' := length_labelOfChars? hl'
        rw [(List.cons.inj heq).1, hlength] at hlength'
        simp at hlength'
    | first | second => nofun
  | cons c s ih =>
    rw [readLabels_cons] at hread
    obtain ⟨x, hc, hread⟩ := Option.bind_eq_some_iff.1 hread
    obtain ⟨ls, hrest, rfl⟩ := Option.map_eq_some_iff.1 hread
    rw [List.cons_append, readLabels_cons, hc, Option.bind_some]
    intro hdot
    obtain ⟨ls', hrest', heq⟩ := Option.map_eq_some_iff.1 hdot
    cases List.append_cancel_left heq
    refine ih ?_ hrest hrest'
    rw [(of_readChar hc).1]
    exact h

/-! ## Names of whole texts -/

theorem labelsOfChars?_of_ne (h : s ≠ ['.']) : labelsOfChars? s = readLabels .no [] s :=
  if_neg h

theorem labelsOfChars?_dot (h : Place.behind s = .inLabel) : labelsOfChars? (s ++ ['.']) = labelsOfChars? s := by
  have hs : s ≠ ['.'] := by
    rintro rfl
    nomatch h
  have hdot : s ++ ['.'] ≠ ['.'] := by
    intro heq
    cases List.append_left_eq_self.1 heq
    nomatch h
  have h : s.foldl Place.next (Place.of .no []) = .inLabel := h
  rw [labelsOfChars?_of_ne hs, labelsOfChars?_of_ne hdot, readLabels_dot h]

theorem labelsOfChars?_loose_dot {ls : List Label} (h : Place.behind s ≠ .inLabel) (hs : s ≠ [])
    (hread : labelsOfChars? s = some ls) : labelsOfChars? (s ++ ['.']) ≠ some ls := by
  have hdot : s ++ ['.'] ≠ ['.'] := fun heq => hs (List.append_left_eq_self.1 heq)
  rw [labelsOfChars?_of_ne hdot]
  by_cases hroot : s = ['.']
  · cases hroot
    nofun
  · rw [labelsOfChars?_of_ne hroot] at hread
    exact readLabels_loose_dot h hread

theorem ofChars?_eq_some_iff {name : Name} :
    ofChars? s = some name ↔ labelsOfChars? s = some name.labels ∧ name.size ≤ 255 := by
  unfold ofChars?
  cases labelsOfChars? s with
  | none => exact iff_of_false nofun nofun
  | some ls =>
    constructor
    · intro h
      obtain ⟨hsize, heq⟩ := Option.ite_none_right_eq_some.1 h
      cases heq
      exact ⟨rfl, hsize⟩
    · rintro ⟨⟨⟩, hsize⟩
      exact if_pos hsize

/-- Which name a text has is told by its labels. -/
theorem ofChars?_congr {s' : List Char} (h : labelsOfChars? s = labelsOfChars? s') : ofChars? s = ofChars? s' := by
  unfold ofChars?
  rw [h]

end Name

/-! ## Queries -/

namespace Query

variable {s : List Char}

theorem dropDot_append : dropDot (s ++ ['.']) = s := by
  unfold dropDot
  rw [if_pos List.getLast?_concat, List.dropLast_concat]

/-- A text without a loose dot has the labels that are asked for. -/
theorem labelsOfChars?_dropDot (h : ¬HasLooseDot s) :
    Name.labelsOfChars? (dropDot s) = Name.labelsOfChars? s := by
  by_cases hdot : s.getLast? = some '.'
  · obtain ⟨front, rfl⟩ := List.getLast?_eq_some_iff.1 hdot
    rw [hasLooseDot_append, Decidable.not_not] at h
    rw [dropDot_append, Name.labelsOfChars?_dot h]
  · unfold dropDot
    rw [if_neg hdot]

/-- A text with a loose dot has other labels than those that are asked for. -/
theorem labelsOfChars?_loose {ls : List Label} (h : HasLooseDot s) (hs : dropDot s ≠ [])
    (hread : Name.labelsOfChars? (dropDot s) = some ls) : Name.labelsOfChars? s ≠ some ls := by
  obtain ⟨front, rfl⟩ := List.getLast?_eq_some_iff.1 h.1
  rw [dropDot_append] at hs hread
  exact Name.labelsOfChars?_loose_dot (hasLooseDot_append.1 h) hs hread

theorem ofText_eq {id : UInt16} {text : String} {type : RecordType} (h : dropDot text.toList ≠ []) :
    ofText id text type =
      match Name.ofChars? (dropDot text.toList) with
      | none => .error (.badName text)
      | some name => if name.size < 255 then .ok ⟨id, name, type⟩ else .error .nameTooLong :=
  if_neg fun hempty => h (List.isEmpty_iff.1 hempty)

theorem ofText_ok_iff {id : UInt16} {text : String} {type : RecordType} {q : Query} :
    ofText id text type = .ok q ↔
      dropDot text.toList ≠ [] ∧ Name.labelsOfChars? (dropDot text.toList) = some q.name.labels ∧
        q.name.size < 255 ∧ q.id = id ∧ q.type = type := by
  by_cases hempty : dropDot text.toList = []
  · unfold ofText
    rw [if_pos (List.isEmpty_iff.2 hempty)]
    exact iff_of_false nofun fun h => h.1 hempty
  · rw [ofText_eq hempty]
    constructor
    · intro h
      split at h
      · nomatch h
      · next name hname =>
        split at h
        · cases h
          exact ⟨hempty, (Name.ofChars?_eq_some_iff.1 hname).1, ‹_›, rfl, rfl⟩
        · nomatch h
    · rintro ⟨-, hlabels, hsize, rfl, rfl⟩
      rw [Name.ofChars?_eq_some_iff.2 ⟨hlabels, Nat.le_of_lt hsize⟩]
      exact if_pos hsize

end Query

/-- **When the dot at the end does not matter.** A text without a loose dot is asked for by its own labels,
    unless these are too many bytes for a message, and a text that is no name is refused as such. For a text with
    a loose dot, a query never asks for the name that the text has: it asks for another, or the text has none. -/
theorem loose_dots_change_names (id : UInt16) (text : String) (type : RecordType) :
    (¬HasLooseDot text.toList →
      (∀ name, Name.ofChars? text.toList = some name → name.labels ≠ [] →
        Query.ofText id text type = if name.size < 255 then .ok ⟨id, name, type⟩ else .error .nameTooLong) ∧
      (Name.ofChars? text.toList = none → Query.ofText id text type = .error (.badName text))) ∧
    (HasLooseDot text.toList →
      ∀ q, Query.ofText id text type = .ok q → Name.ofChars? text.toList ≠ some q.name) := by
  refine ⟨fun h => ?_, fun h q hq hname => ?_⟩
  · have hread : Name.ofChars? (Query.dropDot text.toList) = Name.ofChars? text.toList :=
      Name.ofChars?_congr (Query.labelsOfChars?_dropDot h)
    -- The empty text is the root, so that a text that matters here has more than a dot.
    have hroot (hempty : Query.dropDot text.toList = []) : Name.ofChars? text.toList = some ⟨[]⟩ := by
      rw [← hread, hempty]
      rfl
    constructor
    · intro name hname hlabels
      have hne : Query.dropDot text.toList ≠ [] := by
        intro hempty
        cases (hroot hempty).symm.trans hname
        exact hlabels rfl
      rw [Query.ofText_eq hne, hread, hname]
    · intro hname
      have hne : Query.dropDot text.toList ≠ [] := by
        intro hempty
        nomatch (hroot hempty).symm.trans hname
      rw [Query.ofText_eq hne, hread, hname]
  · obtain ⟨hne, hlabels, -⟩ := Query.ofText_ok_iff.1 hq
    exact Query.labelsOfChars?_loose h hne hlabels (Name.ofChars?_eq_some_iff.1 hname).1

/-- In `3\.4.` the last dot ends a label, in `3.4\.` it belongs to an escape. -/
theorem dots_of_like_texts :
    (¬HasLooseDot "3\\.4.".toList ∧
      Query.ofText 7 "3\\.4." .aaaa = .ok ⟨7, ⟨[[51, 46, 52]]⟩, .aaaa⟩) ∧
    HasLooseDot "3.4\\.".toList ∧
      ∀ q, Query.ofText 7 "3.4\\." .aaaa = .ok q → Name.ofChars? "3.4\\.".toList ≠ some q.name := by
  have hends : ¬HasLooseDot "3\\.4.".toList := by decide
  have hloose : HasLooseDot "3.4\\.".toList := by decide
  refine ⟨⟨hends, ?_⟩, hloose, (loose_dots_change_names 7 "3.4\\." .aaaa).2 hloose⟩
  exact ((loose_dots_change_names 7 "3\\.4." .aaaa).1 hends).1 ⟨[[51, 46, 52]]⟩ rfl nofun

/-- Of an escaped dot at the end, nothing is left in the query, and a name that ends in two dots is no name but is
    asked for. -/
theorem escaped_dot_is_lost :
    (Name.ofChars? "a\\.".toList = some ⟨[[97, 46]]⟩ ∧ Query.ofText 1 "a\\." .a = .ok ⟨1, ⟨[[97]]⟩, .a⟩) ∧
    (Name.ofChars? "a..".toList = none ∧ Query.ofText 1 "a.." .a = .ok ⟨1, ⟨[[97]]⟩, .a⟩) := by
  refine ⟨⟨?_, ?_⟩, ?_, ?_⟩ <;> rfl

end SocksProxy.Dns
