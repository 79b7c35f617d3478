/-
  What is asked of a name server, and what is made of its answer.

  A name server is taken to send a query back with records behind it. The records that matter are owned by a
  pointer to the name that was asked for; there can be others, whose names stand in the message in some other way.

  * an `Entry` is a record of an answer as it is sent, `answered` the query with such records;
  * `Entry.Stands` says that the names of a record are well-formed where it stands, and such a record is read
    (`Entry.Stands.reads`). This holds of the records that matter wherever they stand (`Entry.stands_answer`);
  * `Section.reads`, by induction on the records: all of them are read, and with the question they are all that is
    read (`Query.parse?_about`);
  * **`queries_and_answers_read`**.
-/
import SocksProxy.Proofs.Spellings
import SocksProxy.Dns.Query

namespace SocksProxy.Dns

/-! ## Records -/

/-- What a record of an answer says about its owner. -/
inductive Content where
  | address (ip : Ip)
  /-- The owner is only another name of the target. -/
  | canonical (target : Spelling)

namespace Content

/-- The type of such records. -/
def type : Content → RecordType
  | .address (.v4 _) => .a
  | .address (.v6 _) => .aaaa
  | .canonical _ => ⟨5⟩

/-- The data of such a record. -/
def bytes : Content → Bytes
  | .address (.v4 ip) => ip.octets
  | .address (.v6 ip) => ip.octets
  | .canonical target => target.bytes

/-- What is read of the data. -/
def data : Content → RecordData
  | .address ip => .address ip
  | .canonical _ => .other

/-- A name in the data, which starts at an offset of a message, is well-formed. -/
def Stands (m : Bytes) (o : Nat) : Content → Prop
  | .address _ => True
  | .canonical target => ∃ name, target.Names m o name

end Content

/-- A record of an answer. -/
structure Entry where
  owner : Spelling
  cls : UInt16
  ttl : UInt32
  content : Content

namespace Entry

/-- The record as it is sent. -/
def bytes (e : Entry) : Bytes :=
  e.owner.bytes ++ (Bytes.be16 e.content.type.number ++ (Bytes.be16 e.cls ++ (Bytes.be32 e.ttl ++
    (Bytes.be16 (UInt16.ofNat e.content.bytes.length) ++ e.content.bytes))))

/-- The record as it is read. -/
def record (e : Entry) : Record :=
  ⟨e.content.type, e.cls, e.ttl, e.content.data⟩

/-- The address that the record gives on the Internet. -/
def address? (e : Entry) : Option Ip :=
  match e.content with
  | .address ip => if e.cls = internetClass then some ip else none
  | .canonical _ => none

/-- The record that gives an address of the name that was asked for. -/
def answer (ip : Ip) (ttl : UInt32) : Entry :=
  ⟨⟨[], some 12⟩, internetClass, ttl, .address ip⟩

/-- The names in the record are well-formed where they stand when the record starts at an offset of a message. -/
def Stands (m : Bytes) (o : Nat) (e : Entry) : Prop :=
  (∃ name, e.owner.Names m o name) ∧ e.content.Stands m (o + e.owner.bytes.length + 10)

end Entry

/-! ## Reading a record -/

section
variable {m : Bytes} {o n : Nat} {c : Content} {e : Entry}

theorem Reading.reads_ipv6 {ip : IPv6} : Reads ipv6 o ip.octets ip := by
  rw [← List.append_nil ip.octets]
  refine (reads_bytes ip.length_octets).bind fun rest => ?_
  show (if h : ip.octets.length = 16 then some (IPv6.ofOctets ip.octets h, _) else none) = _
  rw [dif_pos ip.length_octets, IPv6.ofOctets_octets]
  rfl

theorem Content.Stands.reads (h : c.Stands m o) : Reading.Reads (Reading.dataOf m c.type n) o c.bytes c.data := by
  cases c with
  | address ip =>
    cases ip with
    | v4 ip => exact fun _ => rfl
    | v6 ip => exact Reading.reads_ipv6.map
  | canonical target =>
    obtain ⟨name, hname⟩ := h
    exact hname.reads.map

theorem Content.type_ne_opt : c.type ≠ .opt :=
  match c with
  | .address (.v4 _) => show RecordType.a ≠ .opt by decide
  | .address (.v6 _) => show RecordType.aaaa ≠ .opt by decide
  | .canonical _ => show (⟨5⟩ : RecordType) ≠ .opt by decide

theorem Content.Stands.length (h : c.Stands m o) : 0 < c.bytes.length ∧ c.bytes.length < 65536 := by
  cases c with
  | address ip =>
    cases ip with
    | v4 ip =>
      show 0 < ip.octets.length ∧ ip.octets.length < 65536
      rw [ip.length_octets]
      decide
    | v6 ip =>
      show 0 < ip.octets.length ∧ ip.octets.length < 65536
      rw [ip.length_octets]
      decide
  | canonical target =>
    obtain ⟨name, hname⟩ := h
    show 0 < target.bytes.length ∧ target.bytes.length < 65536
    have hlength := hname.length_le
    exact ⟨target.length_pos, by omega⟩

/-- A record is read if its names are well-formed. -/
theorem Entry.Stands.reads (h : e.Stands m o) : Reading.Reads (Reading.record m) o e.bytes e.record := by
  obtain ⟨⟨name, hname⟩, hcontent⟩ := h
  have hlength := hcontent.length
  have hsize : (UInt16.ofNat e.content.bytes.length).toNat = e.content.bytes.length :=
    UInt16.toNat_ofNat_of_lt hlength.2
  have hopt : (e.content.type != .opt || name.labels.isEmpty) = true := by
    rw [bne_iff_ne.2 Content.type_ne_opt]
    rfl
  have hdata := hcontent.reads (n := e.content.bytes.length)
  unfold Reading.record
  refine hname.reads.bind (Reading.reads_word16.bind (Reading.Reads.check
    (Reading.reads_word16.bind (Reading.reads_word32.bind (Reading.reads_word16.bind ?_))) hopt))
  simp only [hsize, if_neg (Nat.ne_of_gt hlength.1), Bytes.length_be16, Bytes.length_be32]
  refine Reading.Reads.room ?_ (Nat.le_refl _)
  refine Reading.Reads.offset (hdata.last ?_)
  refine Reading.Reads.offset (Reading.Reads.check Reading.reads_pure ?_)
  exact beq_self_eq_true _

end

/-! ## Records behind a question -/

/-- The name that is asked for is written out in full where the question starts. -/
structure Asked (m : Bytes) (name : Name) : Prop where
  fits : name.Fits
  bytes : name.encode <+: m.drop 12

/-- From an offset on, each record is an answer about the name that is asked for, or its names are well-formed where
    it stands. -/
def Section (m : Bytes) : Nat → List Entry → Prop
  | _, [] => True
  | o, e :: es => ((∃ ip ttl, e = .answer ip ttl) ∨ e.Stands m o) ∧ Section m (o + e.bytes.length) es

section
variable {m b b' : Bytes} {o n : Nat} {name : Name} {es : List Entry} {α : Type} {one : Reading α} {x : α}
  {xs : List α}

/-- The pointer to the name that is asked for is well-formed everywhere behind this name. -/
theorem Entry.stands_answer (h : Asked m name) (ho : 12 + name.size < o) (ip : Ip) (ttl : UInt32) :
    (answer ip ttl).Stands m o :=
  ⟨⟨name, Spelling.names_pointer h.fits (by decide) h.bytes ho⟩, trivial⟩

theorem Reading.reads_times_zero : Reads (times one 0) o [] [] :=
  reads_pure

theorem Reading.Reads.times_succ (h : Reads one o b x) (hs : Reads (times one n) (o + b.length) b' xs) :
    Reads (times one (n + 1)) o (b ++ b') (x :: xs) :=
  h.bind hs.map

/-- All records of a section are read. -/
theorem Section.reads (h : Section m o es) (hasked : Asked m name) (ho : 12 + name.size < o) :
    Reading.Reads (Reading.times (Reading.record m) es.length) o (es.flatMap Entry.bytes) (es.map Entry.record) := by
  induction es generalizing o with
  | nil => exact Reading.reads_times_zero
  | cons e es ih =>
    obtain ⟨he, hes⟩ := h
    have hstands : e.Stands m o := by
      obtain ⟨ip, ttl, rfl⟩ | hstands := he
      · exact Entry.stands_answer hasked ho ip ttl
      · exact hstands
    exact hstands.reads.times_succ (ih hes (by omega))

/-- Answers about the name that is asked for can stand anywhere. -/
theorem section_answers (addresses : List (Ip × UInt32)) :
    Section m o (addresses.map fun x => .answer x.1 x.2) := by
  induction addresses generalizing o with
  | nil => trivial
  | cons x addresses ih => exact ⟨.inl ⟨x.1, x.2, rfl⟩, ih⟩

end

/-! ## Messages -/

/-- A question as it stands in messages. -/
def Question.encode (q : Question) : Bytes :=
  q.name.encode ++ (Bytes.be16 q.type.number ++ Bytes.be16 q.cls)

theorem Question.length_encode {q : Question} : q.encode.length = q.name.size + 5 := by
  simp only [encode, Name.encode, List.length_append, Bytes.length_be16]
  rfl

namespace Reading

variable {m b : Bytes} {o n : Nat} {flags : UInt8} {q : Question} {answers : List Record}

theorem reads_question (h : q.name.Fits) : Reads (question m) o q.encode q :=
  (Spelling.names_whole h).reads.bind (reads_word16.bind reads_word16.map)

/-- A message with one question, and with records in the first section only. -/
theorem reads_message (id : UInt16) (hflags : flags.toNat / 8 % 16 = 0) (hn : n < 65536) (hq : q.name.Fits)
    (ha : Reads (times (record m) n) (12 + q.encode.length) b answers) :
    Reads (message m) 0
      (Bytes.be16 id ++ ([flags] ++ ([0] ++ (Bytes.be16 1 ++ (Bytes.be16 (UInt16.ofNat n) ++ (Bytes.be16 0 ++
        (Bytes.be16 0 ++ (q.encode ++ b))))))))
      { id, response := flags ≥ 0x80, recursionDesired := flags.toNat % 2 == 1, lowCode := 0
        questions := [q], answers, additional := [] } := by
  have hcount : (UInt16.ofNat n).toNat = n := UInt16.toNat_ofNat_of_lt hn
  have hopcode : (flags.toNat / 8 % 16 == 0 || flags.toNat / 8 % 16 == 2 || flags.toNat / 8 % 16 == 4 ||
      flags.toNat / 8 % 16 == 5) = true := by
    rw [hflags]
    rfl
  have hquestions : Reads (times (question m) 1) 12 q.encode [q] := (reads_question hq).last reads_pure
  unfold message
  refine reads_word16.bind (reads_byte.bind (reads_byte.bind (Reads.check ?_ hopcode)))
  refine reads_word16.bind (reads_word16.bind (reads_word16.bind (reads_word16.bind ?_)))
  rw [hcount]
  refine Reads.bind hquestions (Reads.last ha ?_)
  exact Reads.last reads_times_zero (Reads.last reads_times_zero (Reads.check reads_pure rfl))

end Reading

/-- The query with the response bit set, a number of answers, and these answers behind it. -/
def answered (query : Bytes) (es : List Entry) : Bytes :=
  (query.modify 2 (0x80 ||| ·)).take 6 ++ Bytes.be16 (UInt16.ofNat es.length) ++ query.drop 8 ++
    es.flatMap Entry.bytes

namespace Query

variable {q : Query} {es : List Entry} {flags : UInt8} {id : UInt16}

/-- What a query asks. -/
def question (q : Query) : Question :=
  ⟨q.name, q.type, internetClass⟩

/-- A message about a query: the flags, and records behind the question. -/
def about (q : Query) (flags : UInt8) (es : List Entry) : Bytes :=
  Bytes.be16 q.id ++ ([flags] ++ ([0] ++ (Bytes.be16 1 ++ (Bytes.be16 (UInt16.ofNat es.length) ++ (Bytes.be16 0 ++
    (Bytes.be16 0 ++ (q.question.encode ++ es.flatMap Entry.bytes)))))))

theorem encode_eq_about : q.encode = q.about 1 [] := by
  unfold encode about question Question.encode
  simp only [List.append_assoc, List.flatMap_nil, List.append_nil]
  rfl

theorem answered_encode : answered q.encode es = q.about 0x81 es := by
  have hfront : (q.encode.modify 2 (0x80 ||| ·)).take 6 = Bytes.be16 q.id ++ [0x81, 0, 0, 1] := rfl
  have hback : q.encode.drop 8 = [0, 0, 0, 0] ++ q.question.encode := by
    unfold encode
    simp only [List.append_assoc]
    rfl
  unfold answered about
  rw [hfront, hback]
  simp only [List.append_assoc]
  rfl

theorem length_encode : q.encode.length = 12 + q.question.encode.length := by
  rw [encode_eq_about, about, List.flatMap_nil, List.append_nil]
  simp only [List.length_append, Bytes.length_be16, List.length_singleton]
  omega

theorem asked_about (h : q.name.Fits) : Asked (q.about flags es) q.name where
  fits := h
  bytes := by
    unfold about question Question.encode
    simp only [List.append_assoc]
    exact ⟨_, rfl⟩

/-- The question and all of the records are read. -/
theorem parse?_about (flags : UInt8) (es : List Entry) (hflags : flags.toNat / 8 % 16 = 0) (hq : q.name.Fits)
    (hcount : es.length ≤ 65535) (h : Section (q.about flags es) q.encode.length es) :
    Message.parse? (q.about flags es) = some {
      id := q.id, response := flags ≥ 0x80, recursionDesired := flags.toNat % 2 == 1, lowCode := 0
      questions := [q.question], answers := es.map Entry.record, additional := [] } := by
  rw [length_encode] at h
  have hbehind : 12 + q.name.size < 12 + q.question.encode.length := by
    rw [Question.length_encode]
    show 12 + q.name.size < 12 + (q.name.size + 5)
    omega
  have hread := Reading.reads_message q.id hflags (by omega) hq (h.reads (asked_about hq) hbehind) []
  rw [List.append_nil] at hread
  exact congrArg (Option.map (·.1)) hread

theorem fits_of_ofText {text : String} {type : RecordType} (h : ofText id text type = .ok q) : q.name.Fits := by
  obtain ⟨-, hlabels, hsize, -⟩ := ofText_ok_iff.1 h
  exact ⟨Name.valid_of_labelsOfChars? hlabels, hsize⟩

end Query

/-! ## Addresses -/

section
variable {q : Query} {es : List Entry} {id : UInt16}

theorem filterMap_answer (addresses : List (Ip × UInt32)) :
    (addresses.map fun x => Entry.answer x.1 x.2).filterMap Entry.address? = addresses.map Prod.fst := by
  rw [List.filterMap_map, ← List.filterMap_eq_map]
  rfl

/-- The addresses that are read are those of the records that give one. -/
theorem addresses_of_records {m : Message} (h : m.answers = es.map Entry.record) :
    m.addresses = es.filterMap Entry.address? := by
  unfold Message.addresses
  rw [h, List.filterMap_map]
  congr 1
  funext e
  obtain ⟨owner, cls, ttl, content⟩ := e
  cases content <;> rfl

/-- A query is understood, and it is no answer. -/
theorem addressesIn_encode (hq : q.name.Fits) :
    addressesIn id q.encode = if q.id ≠ id then .error (.idMismatch id q.id) else .error .notResponse := by
  have hread := Query.parse?_about 1 [] (by decide) hq (Nat.zero_le _) trivial
  unfold addressesIn
  rw [Query.encode_eq_about, hread]
  rfl

/-- The addresses in an answer are those of its records. -/
theorem addressesIn_answered (hq : q.name.Fits) (hcount : es.length ≤ 65535)
    (h : Section (answered q.encode es) q.encode.length es) :
    addressesIn q.id (answered q.encode es) =
      if (es.filterMap Entry.address?).isEmpty then .error .noAnswer else .ok (es.filterMap Entry.address?) := by
  rw [Query.answered_encode] at h
  have hread := Query.parse?_about 0x81 es (by decide) hq hcount h
  unfold addressesIn
  rw [Query.answered_encode, hread]
  dsimp only
  rw [addresses_of_records rfl, if_neg fun hid => hid rfl]
  rfl

end

/-- **What is asked and what is answered.** A query asks for the labels that its text names without the dot at the
    end. It is a message, but no response, and one with another id for whoever waits for another id.

    The query with records behind it is an answer. When each record gives an address of the name that was asked for,
    these addresses are read, in order. Aliases and records of other classes between them make no difference, however
    their names are spelled. -/
theorem queries_and_answers_read {id : UInt16} {text : String} {type : RecordType} {q : Query}
    (h : Query.ofText id text type = .ok q) :
    (∃ name, Name.ofChars? (Query.dropDot text.toList) = some name ∧
      Message.parse? q.encode = some {
        id, response := false, recursionDesired := true, lowCode := 0
        questions := [⟨name, type, internetClass⟩], answers := [], additional := [] }) ∧
    addressesIn id q.encode = .error .notResponse ∧
    (∀ other, other ≠ id → addressesIn other q.encode = .error (.idMismatch other id)) ∧
    (∀ addresses : List (Ip × UInt32), addresses ≠ [] → addresses.length ≤ 65535 →
      addressesIn id (answered q.encode (addresses.map fun x => .answer x.1 x.2)) = .ok (addresses.map Prod.fst)) ∧
    ∀ es : List Entry, es.length ≤ 65535 → Section (answered q.encode es) q.encode.length es →
      es.filterMap Entry.address? ≠ [] →
      addressesIn id (answered q.encode es) = .ok (es.filterMap Entry.address?) := by
  have hq := Query.fits_of_ofText h
  obtain ⟨-, hlabels, hsize, rfl, rfl⟩ := Query.ofText_ok_iff.1 h
  have hanswer (es : List Entry) (hcount : es.length ≤ 65535)
      (hes : Section (answered q.encode es) q.encode.length es) (hne : es.filterMap Entry.address? ≠ []) :
      addressesIn q.id (answered q.encode es) = .ok (es.filterMap Entry.address?) := by
    rw [addressesIn_answered hq hcount hes]
    exact if_neg fun hempty => hne (List.isEmpty_iff.1 hempty)
  refine ⟨⟨q.name, Name.ofChars?_eq_some_iff.2 ⟨hlabels, Nat.le_of_lt hsize⟩, ?_⟩, ?_, ?_, ?_, hanswer⟩
  · rw [Query.encode_eq_about]
    exact Query.parse?_about 1 [] (by decide) hq (Nat.zero_le _) trivial
  · rw [addressesIn_encode hq]
    exact if_neg fun hid => hid rfl
  · intro other hother
    rw [addressesIn_encode hq]
    exact if_pos hother.symm
  · intro addresses hne hcount
    rw [← filterMap_answer addresses]
    refine hanswer _ (by rwa [List.length_map]) (section_answers addresses) ?_
    rw [filterMap_answer]
    exact fun hnil => hne (List.map_eq_nil_iff.1 hnil)

/-- An answer about `B.test`: the name is an alias of `c.test`, and `c.test` has an address of another class. All names
    in it end in pointers, the owner of the third record in one to a name that ends in one. -/
def chain : List Entry := [
  ⟨⟨[], some 12⟩, internetClass, 60, .canonical ⟨[[99]], some 14⟩⟩,
  .answer (.v4 ⟨10, 0, 0, 1⟩) 60,
  ⟨⟨[], some 36⟩, 3, 60, .address (.v4 ⟨10, 0, 0, 2⟩)⟩,
  .answer (.v6 ⟨[0x2001, 0xdb8, 0, 0, 0, 0, 0, 0x35], rfl⟩) 60]

/-- The query that it answers. -/
def chained : Query :=
  ⟨7, ⟨[[66], [116, 101, 115, 116]]⟩, .a⟩

/-- The alias and the address of another class make no difference. -/
theorem chain_is_read :
    Query.ofText 7 "B.test." .a = .ok chained ∧
      Section (answered chained.encode chain) chained.encode.length chain ∧
      addressesIn 7 (answered chained.encode chain) =
        .ok [.v4 ⟨10, 0, 0, 1⟩, .v6 ⟨[0x2001, 0xdb8, 0, 0, 0, 0, 0, 0x35], rfl⟩] := by
  have hq : Query.ofText 7 "B.test." .a = .ok chained := rfl
  have hasked : Spelling.Names (answered chained.encode chain) 24 ⟨[], some 12⟩ chained.name :=
    Spelling.names_pointer ⟨by decide, by decide⟩ (by decide) (by decide) (by decide)
  have htarget : Spelling.Spells (answered chained.encode chain) 36 ⟨[[99]], some 14⟩
      [[99], [116, 101, 115, 116]] :=
    .pointed (s := ⟨[[116, 101, 115, 116]], none⟩) (by decide) (by decide) (by decide) (by decide)
      (.whole (by decide))
  have howner : Spelling.Spells (answered chained.encode chain) 56 ⟨[], some 36⟩ [[99], [116, 101, 115, 116]] :=
    .pointed (by decide) (by decide) (by decide) (by decide) htarget
  have hsection : Section (answered chained.encode chain) chained.encode.length chain :=
    ⟨.inr ⟨⟨_, hasked⟩, ⟨⟨_⟩, htarget, by decide⟩⟩, .inl ⟨_, _, rfl⟩, .inr ⟨⟨⟨_⟩, howner, by decide⟩, trivial⟩,
      .inl ⟨_, _, rfl⟩, trivial⟩
  exact ⟨hq, hsection, (queries_and_answers_read hq).2.2.2.2 chain (by decide) hsection nofun⟩

end SocksProxy.Dns
