/-
  How much of a handshake is read.

  No counter ends the reading of a handshake. It ends because a message that is cut short is shorter
  than the longest of its kind, because a complete one is taken off what was read, and because each kind
  is waited for once.

  * `parse_stalls`: behind a parse, all that was read is handled, or it is a message that is cut short;
  * `AwaitsMore.heard_lt`: while more of the handshake is waited for, less was heard than the three
    longest messages have together;
  * `KeptByReading`: what holds as long as more is waited for, and one read longer, holds of the whole
    handshake, such as that there are no more reads than those messages have bytes;
  * `exec_readHandshake_of_le`: nor does reading depend on how many more turns it may take.

  **`handshake_reading_ends`** puts them together.
-/
import SocksProxy.Proofs.Causes
import SocksProxy.Proofs.Progress
import SocksProxy.Proofs.Segments
import SocksProxy.Proofs.Upstream

namespace SocksProxy

open Dialogue

/-! ## Reads that give bytes -/

/-- Whether the call has read bytes from a stream of the role. -/
def SessionEvent.yields (role : Role) (e : SessionEvent) : Bool :=
  !(e.read role).isEmpty

namespace Transcript

/-- How many reads have given bytes of a stream of the role. -/
def yields (role : Role) (es : Transcript) : Nat :=
  es.countP (SessionEvent.yields role)

variable {role : Role} {es es' : Transcript}

@[simp] theorem yields_nil : yields role [] = 0 := rfl

@[simp] theorem yields_append : yields role (es ++ es') = yields role es + yields role es' :=
  List.countP_append

/-- Every such read gives a byte. -/
theorem yields_le : yields role es ≤ (read role es).length := by
  induction es with
  | nil => exact Nat.le_refl 0
  | cons e es ih =>
    rw [read_cons, List.length_append, yields, List.countP_cons]
    have he : (if e.yields role = true then 1 else 0) ≤ (e.read role).length := by
      split
      · next h => exact List.length_pos_iff.2 (by simpa [SessionEvent.yields] using h)
      · exact Nat.zero_le _
    exact Nat.add_comm (e.read role).length _ ▸ Nat.add_le_add ih he

theorem yields_eq_zero (h : read role es = []) : yields role es = 0 :=
  Nat.le_zero.1 (Nat.le_trans yields_le (Nat.le_of_eq (congrArg List.length h)))

theorem Deaf.yields (h : Deaf role es) : yields role es = 0 :=
  yields_eq_zero h.read

end Transcript

/-- A read is done when it has given bytes. -/
theorem Stream.receive_yields {turns : Nat} {stream : Stream} {es : Transcript}
    {x : Except IoError Received} (h : Run (stream.receive turns) es x) (role : Role) :
    es.yields role ≤ 1 := by
  obtain ⟨es₀, a, rfl, hf, -⟩ := receive_cases h
  rw [Transcript.yields_append, Transcript.yields_eq_zero (hf.read role), Nat.zero_add]
  exact List.countP_le_length

/-- How many reads of the handshake have given bytes of the client. -/
def History.handshakeReads (h : History) : Nat :=
  Transcript.yields .client (h.callsIn Stage.isHandshake)

theorem History.handshakeReads_le (h : History) : h.handshakeReads ≤ h.heard.length :=
  Transcript.yields_le

/-! ## Long messages -/

/-- How many bytes the messages have at most that are waited for from a stage of the handshake on. -/
def Stage.allowance : Stage → Nat
  | accepted => longest accepted + longest authRequested + longest authenticated
  | authRequested => longest authRequested + longest authenticated
  | authenticated => longest authenticated
  | _ => 0

/-- How many bytes a handshake has at most. -/
def Stage.maxHandshake : Nat := allowance .accepted

theorem Stage.longest_le_allowance {stage : Stage} (h : stage.isHandshake = true) :
    stage.longest ≤ stage.allowance := by
  cases stage <;> first | decide | nomatch h

section
variable {b : Bytes} {n : Nat}

theorem Greeting.decode_longest {offered : Bytes} (h : decode b = .ok (offered, n)) :
    n ≤ Stage.longest .accepted := by
  rcases b with _ | ⟨version, _ | ⟨count, methods⟩⟩
  · cases h
  · cases h
  · have hcount := UInt8.toNat_le count
    simp only [decode] at h
    split at h
    · cases h
    · split at h
      · cases h
      · cases h
        rw [Stage.longest]
        omega

theorem Credentials.decode_longest {c : Credentials} (h : decode b = .ok (c, n)) :
    n ≤ Stage.longest .authRequested := by
  rcases b with _ | ⟨version, _ | ⟨ulen, rest⟩⟩
  · cases h
  · cases h
  · have hulen := UInt8.toNat_le ulen
    simp only [decode] at h
    split at h
    · cases h
    · split at h
      · cases h
      · next plen tail _ =>
        have hplen := UInt8.toNat_le plen
        split at h
        · cases h
        · cases h
          rw [Stage.longest]
          omega

/-- What is behind a message lacks no more than the message. -/
theorem length_le_of_behind {α : Type} {decode : Bytes → Except WireError (α × Nat)} {rest : Bytes}
    {limit : Nat} (hd : ∀ {a n}, decode b = .ok (a, n) → n ≤ limit) (h : behind decode b = some rest) :
    b.length ≤ limit + rest.length := by
  cases hb : decode b with
  | error e =>
    rw [behind, hb] at h
    cases h
  | ok found =>
    have hle := hd (a := found.1) (n := found.2) hb
    rw [behind_of_ok (a := found.1) (n := found.2) hb] at h
    cases h
    rw [List.length_drop]
    omega

end

/-- What was heard of a handshake is what it has handled, and what it has not. -/
theorem Upstream.heard_length {settings : Settings} {s : Session} {heard relayed taken : Bytes}
    (hu : Upstream settings s heard relayed taken) (hst : s.stage.isHandshake = true) :
    heard.length + s.stage.allowance ≤ Stage.maxHandshake + s.inbound.length := by
  unfold Upstream at hu
  simp only [Stage.maxHandshake, Stage.allowance]
  cases h : s.stage <;> rw [h] at hu hst <;> simp only at hu ⊢
  case accepted =>
    rw [hu.1]
    omega
  case authRequested =>
    have := length_le_of_behind Greeting.decode_longest hu.2.1
    omega
  case authenticated =>
    obtain ⟨rest, hb, hrest⟩ := Option.bind_eq_some_iff.1 hu.1
    have := length_le_of_behind Greeting.decode_longest hb
    cases hm : settings.authMethod <;> rw [hm] at hrest
    · cases hrest
      omega
    · have := length_le_of_behind Credentials.decode_longest hrest
      omega
  all_goals nomatch hst

/-! ## Dialogues in lockstep -/

namespace Talk

variable {α β γ : Type} {m : Manner} {S : α → Talk β → Prop} {p : Talk α} {q : Talk β}
  {es : Transcript}

theorem deaf_cons_of_not_isRead {c : SessionCall} {r : c.Answer} {role : Role} (hc : c.isRead = false)
    (h : Transcript.Deaf role es) : Transcript.Deaf role (⟨c, r⟩ :: es) := by
  refine Transcript.All.cons ?_ h
  cases c <;> first | rfl | nomatch hc

/-- A run of the first dialogue does not read, and leads to what is said of its results. -/
theorem Follows.run {a : α} (h : Follows .unruly S p q) (hr : Run p es a) :
    (∃ rest, S a rest) ∧ ∀ role, Transcript.Deaf role es := by
  induction h generalizing es with
  | done h =>
    obtain ⟨rfl, rfl⟩ := run_done_iff.1 hr
    exact ⟨⟨_, h⟩, fun _ => Transcript.deaf_nil⟩
  | ask hc _ ih =>
    obtain ⟨r, es', rfl, hr'⟩ := run_ask_iff.1 hr
    obtain ⟨hS, hd⟩ := ih r trivial hr'
    exact ⟨hS, fun role => deaf_cons_of_not_isRead hc (hd role)⟩
  | stuck => exact absurd hr not_run_stuck

/-- A run of the second dialogue does not read while it follows the first. -/
theorem Follows.run_right {b : β} (h : Follows .unruly S p q) (hr : Run q es b) :
    ∃ es₁ es₂ a rest, es = es₁ ++ es₂ ∧ (∀ role, Transcript.Deaf role es₁) ∧ S a rest ∧
      Run rest es₂ b := by
  induction h generalizing es with
  | done h => exact ⟨[], es, _, _, rfl, fun _ => Transcript.deaf_nil, h, hr⟩
  | ask hc _ ih =>
    obtain ⟨r, es', rfl, hr'⟩ := run_ask_iff.1 hr
    obtain ⟨es₁, es₂, a, rest, rfl, hd, hS, hrest⟩ := ih r trivial hr'
    exact ⟨_ :: es₁, es₂, a, rest, rfl, fun role => deaf_cons_of_not_isRead hc (hd role), hS, hrest⟩
  | stuck => exact absurd hr not_run_stuck

end Talk

/-! ## Parsing -/

namespace Handler

variable {ctx : Context} {w : Work} {es : Transcript} {burstDone : Bool} {n : Nat}

/-- A message that is cut short is not longer than the longest of its kind. -/
theorem Stalls.length_lt (h : Stalls ctx w) : w.session.inbound.length < w.session.stage.longest := by
  rcases h with hin | hcut
  · rw [hin]
    cases w.session.stage <;> decide
  · exact hcut.short

/-- The message that is waited for is not there as a whole. -/
theorem Stalls.lacks (h : Stalls ctx w) : w.session.stage.Lacks w.session.inbound := by
  rcases h with hin | hcut
  · rw [hin]
    cases w.session.stage <;> rfl
  · exact hcut.lacks

/-- What is cut short stays as it is, or breaks the protocol if nothing more is to come. -/
theorem exec_parse_of_stalls (hst : w.session.stage.isHandshake = true) (hs : Stalls ctx w)
    (hn : w.session.inbound.length ≤ n) :
    (w.session.inbound = [] ∧ (parse ctx true n).exec w = .done (.ok (), w)) ∨
      ∃ needed available,
        (parse ctx true n).exec w = .done (.error (.violation (.truncated needed available)), w) := by
  by_cases hin : w.session.inbound = []
  · exact .inl ⟨hin, exec_parse_of_nil hin⟩
  · obtain ⟨needed, available, hexec⟩ := (hs.resolve_left hin).stops
    obtain ⟨n, rfl⟩ := Nat.exists_eq_add_one.2 (Nat.lt_of_lt_of_le (List.length_pos_iff.2 hin) hn)
    refine .inr ⟨needed, available, ?_⟩
    rw [exec_parse_succ hst hin, hexec]
    rfl

/-- Behind a parse that does not end the session, all that was read is handled or cut short, and nothing
    is left if nothing more is to come, unless the handshake is over. -/
def Parses (ctx : Context) (burstDone : Bool) (w : Work) : Prop :=
  w.session.stage.isHandshake = true → Stalls ctx w ∧ (burstDone = true → w.session.inbound = [])

/-- What is done when more is to come is done, too, when nothing is. -/
theorem parse_follows_self {m : Manner} (hm : m.Serves ctx.turns)
    (hst : w.session.stage.isHandshake = true) (hn : w.session.inbound.length ≤ n) :
    Talk.Follows m (Parsed ctx []) ((parse ctx false n).exec w) ((parse ctx true n).exec w) := by
  have hpush : w.push [] = w := Work.push_nil
  have hfollows : Talk.Follows m (Parsed ctx []) ((parse ctx false n).exec w)
      ((parse ctx true n).exec (w.push [])) := parse_follows hm hst hn (by rw [hpush]; exact hn)
  rwa [hpush] at hfollows

/-- A parse does not read. -/
theorem parse_stalls (hn : w.session.inbound.length ≤ n) :
    (parse ctx burstDone n).Always w []
      (fun _ w' es => Transcript.Deaf .client es ∧ Parses ctx burstDone w')
      (fun _ _ es => Transcript.Deaf .client es) := by
  intro es r w' hr
  rw [List.nil_append]
  cases hst : w.session.stage.isHandshake with
  | false =>
    rw [exec_parse_of_over hst] at hr
    obtain ⟨rfl, heq⟩ := run_done_iff.1 hr
    cases heq
    exact ⟨Transcript.deaf_nil, fun h => nomatch hst.symm.trans h⟩
  | true =>
    have hfollows := parse_follows_self (.unruly : Manner.unruly.Serves ctx.turns) hst hn
    cases burstDone with
    | false =>
      obtain ⟨⟨rest, hparsed⟩, hd⟩ := hfollows.run hr
      cases hparsed with
      | failed => exact hd _
      | requested hst' => exact ⟨hd _, fun h => nomatch hst'.symm.trans h⟩
      | stalled hst' hs => exact ⟨hd _, fun _ => ⟨hs, nofun⟩⟩
    | true =>
      obtain ⟨es₁, es₂, y, rest, rfl, hd, hparsed, hrest⟩ := hfollows.run_right hr
      cases hparsed with
      | failed =>
        obtain ⟨rfl, heq⟩ := run_done_iff.1 hrest
        cases heq
        exact (hd _).append Transcript.deaf_nil
      | @requested w₁ hst' =>
        obtain ⟨rfl, heq⟩ := run_done_iff.1 hrest
        cases heq
        refine ⟨(hd _).append Transcript.deaf_nil, fun h => ?_⟩
        have hstage : (w₁.keeping []).session.stage = w₁.session.stage := Session.keeping_stage
        rw [hstage, hst'] at h
        nomatch h
      | @stalled w₁ n₁ hst' hs hn₁ =>
        rw [Work.push_nil] at hrest hn₁
        rcases exec_parse_of_stalls hst' hs hn₁ with ⟨hin, hexec⟩ | ⟨needed, available, hexec⟩ <;>
        · rw [hexec] at hrest
          obtain ⟨rfl, heq⟩ := run_done_iff.1 hrest
          cases heq
          first
            | exact ⟨(hd _).append Transcript.deaf_nil, fun _ => ⟨hs, fun _ => hin⟩⟩
            | exact (hd _).append Transcript.deaf_nil

theorem parseAll_stalls :
    (parseAll ctx burstDone).Always w []
      (fun _ w' es => Transcript.Deaf .client es ∧ Parses ctx burstDone w')
      (fun _ _ es => Transcript.Deaf .client es) := by
  rw [parseAll, always_bind, always_session]
  exact parse_stalls (Nat.le_refl _)

/-! ## Blame -/

theorem readHandshake_blames {turns : Nat} :
    BlamesFor WireError.NotLength (readHandshake ctx turns) := by
  induction turns with
  | zero => exact BuiltFor.talk.blames
  | succ turns ih =>
    refine blames_bind BuiltFor.session.blames fun s => blames_bind built_attempt.blames fun x => ?_
    cases x with
    | closed => exact (BuiltFor.fail nofun).blames
    | wouldBlock => exact parseAll_built.blames
    | data b =>
      refine blames_bind BuiltFor.update.blames fun _ w es => ?_
      rw [always_bind]
      -- Only here the length is looked at, behind a parse, so that it never is too much.
      refine ((parseAll_stalls.shift es).and (parseAll_built.blames w es)).imp ?_ fun _ _ _ h => h.2
      rintro _ w₁ es₁ ⟨⟨es₂, -, -, hparses⟩, -⟩
      rw [always_bind, always_session]
      cases hst : w₁.session.stage.isHandshake with
      | false => exact built_onClientStream.blames _ _
      | true =>
        have hlt := (hparses hst).1.length_lt
        have hle := w₁.session.stage.longest_le
        rw [if_neg (by simp), if_neg (by omega)]
        exact ih w₁ es₁

theorem readClient_blames : BlamesFor WireError.NotLength (readClient ctx) := by
  refine blames_bind BuiltFor.session.blames fun s => ?_
  cases s.stage with
  | accepted | authRequested | authenticated =>
    exact blames_ite BuiltFor.pure.blames readHandshake_blames
  | connected => exact pumpClient_built.blames
  | connecting => exact BuiltFor.pure.blames
  | resolving | associated => exact discard_built.blames

theorem onClient_blames {r : Readiness} : BlamesFor WireError.NotLength (onClient ctx r) := by
  have hread : BlamesFor WireError.NotLength (if r.readable then readClient ctx else pure ()) :=
    blames_ite readClient_blames BuiltFor.pure.blames
  unfold onClient
  refine blames_ite (BuiltFor.bind .session fun _ => built_behindEvent).blames ?_
  exact blames_ite (built_fail_bind nofun).blames
    (blames_ite (blames_bind flushClient_built.blames fun _ => hread) hread)

/-- No session ends because a message is too long. -/
theorem onEvent_blames {role : Role} {r : Readiness} :
    BlamesFor WireError.NotLength (onEvent ctx role r) := by
  cases role with
  | client => exact onClient_blames
  | remote => exact onRemote_built.blames
  | relay => exact onRelay_built.blames
  | query slot => exact onLookup_built.blames

end Handler

/-! ## Reading -/

/-- In a turn of the session `s`, the calls `es` have led to where more of the handshake is waited for.
    All that was read is handled, or it is a message that is cut short. -/
structure AwaitsMore (ctx : Context) (s : Session) (w : Work) (es : Transcript) : Prop where
  steps : Steps ctx s.stage s es (.ok ()) w.session
  isHandshake : w.session.stage.isHandshake = true
  stalls : Handler.Stalls ctx w

namespace AwaitsMore

variable {ctx : Context} {h : History} {s : Session} {w : Work} {es es₁ : Transcript} {b : Bytes}

theorem start {ids : Dns.QueryIds} (hst : s.stage.isHandshake = true) (hin : s.inbound = []) :
    AwaitsMore ctx s ⟨s, ids⟩ [] :=
  ⟨.nil, hst, .inl hin⟩

theorem origin (hw : AwaitsMore ctx s w es) : s.stage.isHandshake = true :=
  hw.steps.leads.isHandshake hw.isHandshake

/-- While more is waited for, less was heard than the longest messages have together. -/
theorem heard_lt (hw : AwaitsMore ctx s w es) (hl : Life ctx h s) :
    (h.heard ++ Transcript.read .client es).length < Stage.maxHandshake := by
  have hu := (upstream_invariant.steps hl.shaped (upstream_invariant.life hl) hw.steps).1
  rw [History.heard_turn, heardIn_of_handshake hw.origin] at hu
  have hlength := hu.heard_length hw.isHandshake
  have hlt := hw.stalls.length_lt
  have hle := Stage.longest_le_allowance hw.isHandshake
  omega

/-- When bytes were read and parsed, still more is waited for, or the handshake is over, or the session
    ends. -/
theorem hears (hw : AwaitsMore ctx s w es) (hs : s.Shaped)
    (h₁ : Run (w.session.client.stream.receive ctx.turns) es₁ (.ok (.data b))) :
    (Handler.parseAll ctx false).Always (w.push b) (es ++ es₁)
      (fun _ w' es' => (∃ es₂, es' = es ++ es₁ ++ es₂ ∧ Transcript.Deaf .client es₂) ∧
        (w'.session.stage.isHandshake = true → AwaitsMore ctx s w' es'))
      (fun _ _ es' => ∃ es₂, es' = es ++ es₁ ++ es₂ ∧ Transcript.Deaf .client es₂) := by
  have hheard : Steps ctx s.stage s (es ++ es₁) (.ok ()) (w.push b).session :=
    hw.steps.snoc (.heard hw.origin hw.isHandshake h₁)
  refine ((Handler.parseAll_walks hheard hs).and (Handler.parseAll_stalls.shift (es ++ es₁))).imp ?_ ?_
  · rintro _ w' es' ⟨hsteps, es₂, rfl, hd, hparses⟩
    exact ⟨⟨es₂, rfl, hd⟩, fun hst => ⟨hsteps, hst, (hparses hst).1⟩⟩
  · rintro _ w' es' ⟨-, es₂, rfl, hd⟩
    exact ⟨es₂, rfl, hd⟩

/-- More was heard then than before. -/
theorem heard_lt_heard {es₂ : Transcript} (hw : AwaitsMore ctx s w es) (hs : s.Shaped)
    (h₁ : Run (w.session.client.stream.receive ctx.turns) es₁ (.ok (.data b)))
    (hd : Transcript.Deaf .client es₂) :
    (h.heard ++ Transcript.read .client es).length <
      (h.heard ++ Transcript.read .client (es ++ es₁ ++ es₂)).length := by
  obtain ⟨hb, -, -, hread⟩ := Stream.receive_data h₁
  have hrole : w.session.client.stream.socket.role = .client :=
    congrArg Socket.role (hw.steps.shaped rfl hs).client
  have hpos := List.length_pos_iff.2 hb
  rw [Transcript.read_append, Transcript.read_append, hread, if_pos hrole, hd.read]
  simp only [List.length_append, List.length_nil]
  omega

end AwaitsMore

/-- What holds of the calls of the handshake before the first one, as long as more is waited for, behind
    one more read then, and again when no more is read. -/
structure KeptByReading (ctx : Context) (P : Transcript → Prop) : Prop where
  empty : P []
  awaits : ∀ {h : History} {s : Session} {w : Work} {es : Transcript}, Life ctx h s →
    AwaitsMore ctx s w es → P (h.callsIn Stage.isHandshake ++ es)
  read : ∀ {h : History} {s : Session} {w : Work} {es es₁ : Transcript} {x : Except IoError Received},
    Life ctx h s → AwaitsMore ctx s w es → Run (w.session.client.stream.receive ctx.turns) es₁ x →
    P (h.callsIn Stage.isHandshake ++ (es ++ es₁))
  deaf : ∀ {es es' : Transcript}, P es → Transcript.Deaf .client es' → P (es ++ es')

/-- What holds of the calls of the handshake holds with those of the turn so far. -/
def WithTurn (P : Transcript → Prop) (h : History) (es : Transcript) : Prop :=
  P (h.callsIn Stage.isHandshake ++ es)

theorem KeptByReading.append {ctx : Context} {P : Transcript → Prop} {h : History}
    {es es' : Transcript} (hP : KeptByReading ctx P) (hes : WithTurn P h es)
    (hd : Transcript.Deaf .client es') : WithTurn P h (es ++ es') := by
  rw [WithTurn, ← List.append_assoc]
  exact hP.deaf hes hd

namespace Handler

variable {ctx : Context} {P : Transcript → Prop} {h : History} {s : Session} {w : Work}
  {es : Transcript} {turns : Nat}

theorem resumeClient_kept (hP : KeptByReading ctx P) (hes : WithTurn P h es) :
    (onClientStream (·.resume)).Always w es (fun _ _ es' => WithTurn P h es')
      (fun _ _ es' => WithTurn P h es') := by
  rw [always_onClientStream]
  intro es₁ r stream h₁
  have := hP.append hes (Stream.resume_cases h₁).1.deaf
  cases r <;> exact this

theorem readHandshake_kept (hP : KeptByReading ctx P) (hl : Life ctx h s)
    (hw : AwaitsMore ctx s w es) :
    (readHandshake ctx turns).Always w es (fun _ _ es' => WithTurn P h es')
      (fun _ _ es' => WithTurn P h es') := by
  induction turns generalizing w es with
  | zero =>
    rw [readHandshake, always_talk]
    exact fun _ _ h => absurd h not_run_stuck
  | succ turns ih =>
    rw [readHandshake, always_bind, always_session, always_bind, always_attempt]
    intro es₁ x h₁
    have hes : WithTurn P h (es ++ es₁) := hP.read hl hw h₁
    rcases x with e | b | _ | _
    · exact hes
    · simp only
      rw [always_bind, always_update, always_bind]
      refine (hw.hears hl.shaped h₁).imp ?_ ?_
      · rintro _ w₂ _ ⟨⟨es₂, rfl, hd⟩, hagain⟩
        rw [always_bind, always_session]
        split
        · exact resumeClient_kept hP (hP.append hes hd)
        · next hst =>
          split
          · exact always_refuse.2 (hP.append hes hd)
          · exact ih (hagain (by simpa using hst))
      · rintro _ _ _ ⟨es₂, rfl, hd⟩
        exact hP.append hes hd
    · refine (parseAll_stalls.shift (es ++ es₁)).imp ?_ ?_
      · rintro _ _ _ ⟨es₂, rfl, hd, -⟩
        exact hP.append hes hd
      · rintro _ _ _ ⟨es₂, rfl, hd⟩
        exact hP.append hes hd
    · exact always_fail.2 hes

theorem flushClient_deaf (hst : w.session.stage ≠ .connected) :
    (flushClient ctx).Always w [] (fun _ _ es => Transcript.Deaf .client es)
      (fun _ _ es => Transcript.Deaf .client es) := by
  rw [flushClient, always_bind, always_onClientStream]
  intro es₁ x stream h₁
  have hd₁ : Transcript.Deaf .client es₁ := (Stream.flush_cases h₁).1.deaf
  rcases x with e | _ | _
  · exact hd₁
  · simp only
    rw [always_bind, always_onClientStream]
    intro es₂ r stream' h₂
    have hd₂ : Transcript.Deaf .client (es₁ ++ es₂) := hd₁.append (Stream.resume_cases h₂).1.deaf
    cases r with
    | error e => exact hd₂
    | ok _ =>
      simp only
      rw [always_bind, always_session]
      simp only [Session.withClientStream_stage, hst, if_false]
      exact always_pure.2 hd₂
  · exact always_pure.2 hd₁

/-- A client that is listened to is read from at once, or behind a flush. -/
inductive ReadsFrom (ctx : Context) (s : Session) : Work → Transcript → Prop where
  | atOnce {ids : Dns.QueryIds} : ReadsFrom ctx s ⟨s, ids⟩ []
  | flushed {ids : Dns.QueryIds} {w : Work} {es : Transcript} :
      Run ((flushClient ctx).exec ⟨s, ids⟩) es (.ok (), w) → ReadsFrom ctx s w es

theorem ReadsFrom.awaitsMore (hr : ReadsFrom ctx s w es) (hs : s.Shaped)
    (hst : s.stage.isHandshake = true) (hin : s.inbound = []) : AwaitsMore ctx s w es := by
  cases hr with
  | atOnce => exact .start hst hin
  | flushed hrun =>
    obtain ⟨hsteps, hst', hin'⟩ := flushClient_walks .nil hs es (.ok ()) w hrun
    exact ⟨hsteps, hst' ▸ hst, .inl (hin'.trans hin)⟩

theorem onClient_kept {r : Readiness} {ids : Dns.QueryIds} (hP : KeptByReading ctx P)
    (hl : Life ctx h s) (hst : s.stage.isHandshake = true) :
    (onClient ctx r).Always ⟨s, ids⟩ [] (fun _ _ es => WithTurn P h es) (fun _ _ es => WithTurn P h es) := by
  have hin : s.inbound = [] := ((Session.represented_handshake hst).1 hl.represented).2.2.2.2
  have hstart : AwaitsMore ctx s ⟨s, ids⟩ [] := .start hst hin
  -- Behind the flush only the read is left.
  have hread {w₁ : Work} {es₁ : Transcript} (h₁ : AwaitsMore ctx s w₁ es₁) :
      (if r.readable = true then readClient ctx else pure () : Handler Unit).Always w₁ es₁
        (fun _ _ es => WithTurn P h es) (fun _ _ es => WithTurn P h es) := by
    split
    · have hhandshake : (if w₁.session.client.stream.hasPending then pure ()
          else readHandshake ctx ctx.turns : Handler Unit).Always w₁ es₁
            (fun _ _ es => WithTurn P h es) (fun _ _ es => WithTurn P h es) := by
        split
        · exact always_pure.2 (hP.awaits hl h₁)
        · exact readHandshake_kept hP hl h₁
      unfold readClient
      rw [always_bind, always_session]
      have hst₁ := h₁.isHandshake
      cases h : w₁.session.stage <;> rw [h] at hst₁ <;> first | exact hhandshake | nomatch hst₁
    · exact always_pure.2 (hP.awaits hl h₁)
  unfold onClient
  by_cases he : r.error = true
  · rw [if_pos he, always_bind, always_session, always_bind, always_ask]
    intro (x : Except IoError (Option IoError))
    exact always_bind.2 (always_fail.2 (hP.append (hP.awaits hl hstart) (Transcript.all_singleton rfl)))
  rw [if_neg he]
  by_cases hh : r.hangup = true
  · rw [if_pos hh, always_bind, always_fail]
    exact hP.awaits hl hstart
  rw [if_neg hh]
  by_cases hf : r.writable = true
  · rw [if_pos hf, always_bind]
    have hne : s.stage ≠ .connected := by
      intro h
      rw [h] at hst
      nomatch hst
    intro es₁ x w₁ h₁
    have hd := flushClient_deaf (w := ⟨s, ids⟩) hne es₁ x w₁ h₁
    cases x with
    | ok _ => exact hread (ReadsFrom.awaitsMore (.flushed h₁) hl.shaped hst hin)
    | error e => exact hP.append (hP.awaits hl hstart) hd
  · rw [if_neg hf]
    exact hread hstart

/-- In the handshake only the client is read from. -/
theorem onEvent_kept {role : Role} {r : Readiness} {ids : Dns.QueryIds} (hP : KeptByReading ctx P)
    (hl : Life ctx h s) (hst : s.stage.isHandshake = true) :
    (onEvent ctx role r).Always ⟨s, ids⟩ [] (fun _ _ es => WithTurn P h es)
      (fun _ _ es => WithTurn P h es) := by
  obtain ⟨hremote, hrelay, hlookups, -, hin⟩ := (Session.represented_handshake hst).1 hl.represented
  have hstart : WithTurn P h [] := hP.awaits (w := ⟨s, ids⟩) hl (.start hst hin)
  cases role with
  | client => exact onClient_kept hP hl hst
  | remote =>
    rw [onEvent, onRemote, always_bind, always_session, hremote]
    exact always_pure.2 hstart
  | relay =>
    rw [onEvent, onRelay, always_bind, always_session, hrelay]
    exact always_pure.2 hstart
  | query slot =>
    rw [onEvent, onLookup, always_bind, always_session]
    split
    · next lookup hlookup => exact absurd hlookup (hlookups.getElem? slot lookup)
    · exact always_pure.2 hstart

end Handler

/-! ## The turns of the loop -/

namespace Talk

variable {α β : Type} {m : Manner} {p : Talk α}

/-- The dialogue has an end, if calls are answered as `m` says and reads are not interrupted. -/
inductive Ends (m : Manner) : Talk α → Prop where
  | done {a : α} : Ends m (.done a)
  | ask {c : SessionCall} {next : c.Answer → Talk α} :
      c.isRead = false → (∀ r, m.may c r → Ends m (next r)) → Ends m (.ask c next)
  | read {socket : Socket} {max : Nat} {next : Except IoError (Chunk max) → Talk α} :
      (∀ r, (∀ e, r = .error e → e.isInterrupted = false) → Ends m (next r)) →
      Ends m (.ask (.receive socket max) next)

theorem Ends.bind {f : α → Talk β} (h : Ends m p) (hf : ∀ es a, Run p es a → Ends m (f a)) :
    Ends m (p.bind f) := by
  induction h with
  | done => exact hf [] _ .done
  | ask hc _ ih => exact .ask hc fun r hr => ih r hr fun es a h => hf _ a (.ask h)
  | read _ ih => exact .read fun r hr => ih r hr fun es a h => hf _ a (.ask h)

theorem ends_receive {turns : Nat} {stream : Stream} : Ends m (stream.receive (turns + 1)) := by
  refine Ends.bind (.read fun (r : Except IoError (Chunk Stream.bufferSize)) hr => ?_) fun _ x _ => ?_
  · rcases r with e | b
    · have he : e.isInterrupted = false := hr e rfl
      change Ends m (if e.isWouldBlock then _ else if e.isInterrupted then _ else _)
      rw [he]
      split <;> exact .done
    · exact .done
  · rcases x with e | _ | ⟨_ | _, _⟩ <;> exact .done

/-- What follows another dialogue, and does not use up its turns, ends if the rest does. -/
theorem Follows.ends {S : α → Talk β → Prop} {q : Talk β} (h : Follows m S p q) (hm : ¬ m.tires)
    (hS : ∀ a rest, S a rest → Ends m rest) : Ends m q := by
  induction h with
  | done h => exact hS _ _ h
  | ask hc _ ih => exact .ask hc ih
  | stuck h => exact absurd h hm

theorem Follows.ends_left {S : α → Talk β → Prop} {q : Talk β} (h : Follows m S p q) (hm : ¬ m.tires) :
    Ends m p := by
  induction h with
  | done => exact .done
  | ask hc _ ih => exact .ask hc ih
  | stuck h => exact absurd h hm

/-- What ends has a result with every environment that answers so. -/
theorem Ends.play_isSome {σ : Type} {answer : (c : SessionCall) → σ → c.Answer × σ} {state : σ}
    (h : Ends m p) (hm : m.Rules answer)
    (hreads : ∀ socket max state e, (answer (.receive socket max) state).1 = .error e →
      e.isInterrupted = false) :
    (Dialogue.play (I := SessionNet) answer p state).isSome = true := by
  induction h generalizing state with
  | done => rfl
  | @ask c _ _ _ ih =>
    simp only [Dialogue.play, Option.isSome_map]
    exact ih _ (hm c state)
  | @read socket max _ _ ih =>
    simp only [Dialogue.play, Option.isSome_map]
    exact ih _ (hreads socket max state)

end Talk

namespace Handler

variable {ctx : Context} {h : History} {s : Session} {w : Work} {es : Transcript} {turns k n n' : Nat}
  {burstDone : Bool}

/-- One turn of reading. -/
theorem exec_readHandshake_succ : (readHandshake ctx (turns + 1)).exec w =
    (w.session.client.stream.receive ctx.turns).bind fun
      | .ok .closed => .done (.error .peerClosed, w)
      | .ok .wouldBlock => (parseAll ctx true).exec w
      | .ok (.data b) => ((parseAll ctx false).exec (w.push b)).bind fun
        | (.ok _, w') => (readOn ctx turns).exec w'
        | (.error e, w') => .done (.error e, w')
      | .error e => .done (.error (.transport e), w) := by
  rw [readHandshake, exec_bind, exec_session]
  change exec (attempt (w.session.client.stream.receive ctx.turns) >>= _) w = _
  rw [exec_attempt_bind]
  refine congrArg (Dialogue.bind _) (funext fun x => ?_)
  rcases x with e | b | _ | _
  · rfl
  · change exec (update _ >>= fun _ => parseAll ctx false >>= fun _ => readOn ctx turns) w = _
    rw [exec_bind, exec_update]
    change exec (parseAll ctx false >>= fun _ => readOn ctx turns) (w.push b) = _
    rw [exec_bind]
    refine congrArg (Dialogue.bind _) (funext ?_)
    rintro ⟨_ | _, w'⟩ <;> rfl
  · rfl
  · rfl

theorem exec_readHandshake_of_le (hl : Life ctx h s) (hw : AwaitsMore ctx s w es)
    (hk : Stage.maxHandshake ≤ (h.heard ++ Transcript.read .client es).length + k) (hn : k ≤ n)
    (hn' : k ≤ n') : (readHandshake ctx n).exec w = (readHandshake ctx n').exec w := by
  induction k generalizing w es n n' with
  | zero => exact absurd (hw.heard_lt hl) (Nat.not_lt.2 hk)
  | succ k ih =>
    obtain ⟨n, rfl⟩ := Nat.exists_eq_add_one.2 (Nat.lt_of_lt_of_le k.succ_pos hn)
    obtain ⟨n', rfl⟩ := Nat.exists_eq_add_one.2 (Nat.lt_of_lt_of_le k.succ_pos hn')
    rw [exec_readHandshake_succ, exec_readHandshake_succ]
    refine bind_congr_of_run fun es₁ x h₁ => ?_
    rcases x with e | b | _ | _
    · rfl
    · refine bind_congr_of_run fun es₂ (r, w₂) h₂ => ?_
      cases r with
      | error e => rfl
      | ok _ =>
        obtain ⟨⟨es₃, heq, hd⟩, hagain⟩ := hw.hears hl.shaped h₁ es₂ _ w₂ h₂
        simp only
        cases hst : w₂.session.stage.isHandshake with
        | false => rw [exec_readOn_of_over hst, exec_readOn_of_over hst]
        | true =>
          have hw₂ := hagain hst
          rw [exec_readOn_of_stalls hst hw₂.stalls, exec_readOn_of_stalls hst hw₂.stalls]
          refine ih hw₂ ?_ (Nat.le_of_succ_le_succ hn) (Nat.le_of_succ_le_succ hn')
          have := hw.heard_lt_heard (h := h) hl.shaped h₁ hd
          rw [heq]
          omega
    · rfl
    · rfl

theorem resumeClient_ends :
    Talk.Ends .obliging ((onClientStream (·.resume) : Handler Unit).exec w) := by
  have halike : Alike .obliging (onClientStream (·.resume)) (onClientStream (·.resume)) w w
      (fun _ _ _ _ => True) fun _ _ _ => True :=
    alike_onClientStream rfl Talk.unread_resume (fun _ _ => trivial) fun _ _ => trivial
  exact Talk.Follows.ends_left halike id

section
variable (hturns : 0 < ctx.turns)
include hturns

theorem parse_ends (hn : w.session.inbound.length ≤ n) :
    Talk.Ends .obliging ((parse ctx burstDone n).exec w) := by
  cases hst : w.session.stage.isHandshake with
  | false =>
    rw [exec_parse_of_over hst]
    exact .done
  | true =>
    have hserves : Manner.obliging.Serves ctx.turns := by
      obtain ⟨turns, hk⟩ := Nat.exists_eq_add_one.2 hturns
      exact hk ▸ .obliging
    have hfollows := parse_follows_self hserves hst hn
    cases burstDone with
    | false => exact hfollows.ends_left id
    | true =>
      refine hfollows.ends id fun y rest hparsed => ?_
      cases hparsed with
      | failed | requested => exact .done
      | @stalled w₁ n₁ hst' hs hn₁ =>
        rw [Work.push_nil] at hn₁ ⊢
        rcases exec_parse_of_stalls hst' hs hn₁ with ⟨-, hexec⟩ | ⟨needed, available, hexec⟩ <;>
        · rw [hexec]
          exact .done

theorem parseAll_ends : Talk.Ends .obliging ((parseAll ctx burstDone).exec w) := by
  rw [parseAll, exec_bind, exec_session]
  exact parse_ends hturns (Nat.le_refl _)

theorem readHandshake_ends (hl : Life ctx h s) (hw : AwaitsMore ctx s w es)
    (hk : Stage.maxHandshake ≤ (h.heard ++ Transcript.read .client es).length + k) (hn : k ≤ n) :
    Talk.Ends .obliging ((readHandshake ctx n).exec w) := by
  induction k generalizing w es n with
  | zero => exact absurd (hw.heard_lt hl) (Nat.not_lt.2 hk)
  | succ k ih =>
    obtain ⟨n, rfl⟩ := Nat.exists_eq_add_one.2 (Nat.lt_of_lt_of_le k.succ_pos hn)
    rw [exec_readHandshake_succ]
    have hreceive : Talk.Ends .obliging (w.session.client.stream.receive ctx.turns) := by
      obtain ⟨turns, hk⟩ := Nat.exists_eq_add_one.2 hturns
      exact hk ▸ Talk.ends_receive
    refine hreceive.bind fun es₁ x h₁ => ?_
    rcases x with e | b | _ | _
    · exact .done
    · refine (parseAll_ends hturns).bind fun es₂ (r, w₂) h₂ => ?_
      cases r with
      | error e => exact .done
      | ok _ =>
        obtain ⟨⟨es₃, heq, hd⟩, hagain⟩ := hw.hears hl.shaped h₁ es₂ _ w₂ h₂
        simp only
        cases hst : w₂.session.stage.isHandshake with
        | false =>
          rw [exec_readOn_of_over hst]
          exact resumeClient_ends
        | true =>
          have hw₂ := hagain hst
          rw [exec_readOn_of_stalls hst hw₂.stalls]
          refine ih hw₂ ?_ (Nat.le_of_succ_le_succ hn)
          have := hw.heard_lt_heard (h := h) hl.shaped h₁ hd
          rw [heq]
          omega
    · exact parseAll_ends hturns
    · exact .done

end

end Handler

/-! ## Whole lives -/

section
variable {ctx : Context} {h : History} {s : Session}

namespace KeptByReading

variable {P : Transcript → Prop}

theorem turn {role : Role} {r : Readiness} {ids : Dns.QueryIds} {w' : Work} {es : Transcript}
    {x : Except SessionError Unit} (hP : KeptByReading ctx P) (hl : Life ctx h s)
    (hp : P (h.callsIn Stage.isHandshake))
    (hrun : Run ((Handler.onEvent ctx role r).exec ⟨s, ids⟩) es (x, w')) :
    P (History.callsIn Stage.isHandshake (h ++ [.event role r] ++ History.turn s.stage es)) := by
  rw [History.callsIn_append, History.callsIn_event, History.callsIn_turn]
  cases hst : s.stage.isHandshake with
  | false =>
    rw [if_neg Bool.false_ne_true, List.append_nil]
    exact hp
  | true =>
    have := Handler.onEvent_kept hP hl hst es x w' hrun
    cases x <;> exact this

/-- Calls that do not read from the client can follow. -/
theorem ahead {stage : Stage} {es es' : Transcript} (hP : KeptByReading ctx P)
    (hp : P (History.callsIn Stage.isHandshake (h ++ History.turn stage es)))
    (hd : Transcript.Deaf .client es') :
    P (History.callsIn Stage.isHandshake (h ++ History.turn stage (es ++ es'))) := by
  rw [History.callsIn_append, History.callsIn_turn] at hp ⊢
  split at hp
  · next hst =>
    rw [if_pos hst, ← List.append_assoc]
    exact hP.deaf hp hd
  · next hst =>
    rw [if_neg hst]
    exact hp

theorem life (hP : KeptByReading ctx P) (hl : Life ctx h s) : P (h.callsIn Stage.isHandshake) := by
  induction hl with
  | start h =>
    have hnil : P (History.callsIn Stage.isHandshake ([] ++ History.turn .accepted [])) := hP.empty
    exact hP.ahead hnil (Transcript.deaf_of_upkeep (start_cases h).2.upkeep)
  | turn hl hrun ih => exact hP.turn hl ih (handle_goes hrun)

theorem ended (hP : KeptByReading ctx P) (he : Ended ctx h s) : P (h.callsIn Stage.isHandshake) := by
  cases he with
  | failed hl hrun hclose =>
    obtain ⟨es₁, es₂, e, rfl, hevent, hlog⟩ := handle_fails hrun
    rw [List.append_assoc es₁]
    exact hP.ahead (hP.turn hl (hP.life hl) hevent)
      ((Transcript.deaf_of_aside (logEnd_all hlog)).append
        (Transcript.deaf_of_upkeep (close_upkeep hclose)))
  | stopped hl hclose =>
    refine hP.ahead (?_ : P (History.callsIn _ (_ ++ History.turn _ [])))
      (Transcript.deaf_of_upkeep (close_upkeep hclose))
    rw [History.turn, List.map_nil, List.append_nil]
    exact hP.life hl

end KeptByReading

/-- While more is waited for, there were less reads than the longest messages have bytes together. -/
theorem handshakeReads_kept :
    KeptByReading ctx fun es => es.yields .client ≤ Stage.maxHandshake where
  empty := Nat.zero_le _
  awaits {h s w es} hl hw := by
    have hlt := hw.heard_lt hl
    have hreads := h.handshakeReads_le
    have hle : es.yields .client ≤ _ := Transcript.yields_le
    rw [History.handshakeReads] at hreads
    rw [List.length_append] at hlt
    rw [Transcript.yields_append]
    omega
  read {h s w es es₁ x} hl hw h₁ := by
    have hlt := hw.heard_lt hl
    have hreads := h.handshakeReads_le
    have hle : es.yields .client ≤ _ := Transcript.yields_le
    have hone := Stream.receive_yields h₁ .client
    rw [History.handshakeReads] at hreads
    rw [List.length_append] at hlt
    rw [Transcript.yields_append, Transcript.yields_append]
    omega
  deaf hle hd := by
    rw [Transcript.yields_append, hd.yields]
    exact hle

end

/-- **Reading a handshake takes no more than its messages can have, and ends.** Whatever a client sends,
    cut into any reads:

    * behind a parse that does not end the session, in the handshake, at most 512 bytes are left;
    * no session ends because a message is too long;
    * between two turns, in the handshake, no byte is left;
    * in its whole life a session makes at most 1032 reads of the handshake that give bytes;
    * reading takes at most as many turns, so it is the same however many more it may take, and it has an
      end if no call is interrupted for ever. -/
theorem handshake_reading_ends {ctx : Context} :
    (∀ burstDone w es w', Run ((Handler.parseAll ctx burstDone).exec w) es (.ok (), w') →
      w'.session.stage.isHandshake = true → w'.session.inbound.length ≤ 512) ∧
    (∀ role r w es e w', Run ((Handler.onEvent ctx role r).exec w) es (.error e, w') →
      ∀ pending, e ≠ .violation (.tooLong pending)) ∧
    (∀ h s, Life ctx h s → s.stage.isHandshake = true → s.inbound = []) ∧
    (∀ h s, Life ctx h s ∨ Ended ctx h s → h.handshakeReads ≤ 1032) ∧
    (∀ h s w es, Life ctx h s → s.stage.isHandshake = true → Handler.ReadsFrom ctx s w es →
      ∀ turns, 1032 ≤ turns →
        (Handler.readHandshake ctx turns).exec w = (Handler.readHandshake ctx 1032).exec w ∧
        (0 < ctx.turns → ∀ (σ : Type) (answer : (c : SessionCall) → σ → c.Answer × σ) (state : σ),
          Manner.obliging.Rules answer →
          (∀ socket max state e, (answer (.receive socket max) state).1 = .error e →
            e.isInterrupted = false) →
          (Dialogue.play (I := SessionNet) answer ((Handler.readHandshake ctx turns).exec w)
            state).isSome = true)) := by
  refine ⟨fun burstDone w es w' hrun hst => ?_, fun role r w es e w' hrun pending heq => ?_,
    fun h s hl hst => ((Session.represented_handshake hst).1 hl.represented).2.2.2.2, ?_,
    fun h s w es hl hst hreads turns hturns => ?_⟩
  · have hlt := ((Handler.parseAll_stalls es (.ok ()) w' hrun).2 hst).1.length_lt
    exact Nat.le_of_lt_succ (Nat.lt_of_lt_of_le hlt w'.session.stage.longest_le)
  · exact Handler.onEvent_blames w [] es (.error e) w' hrun _ heq pending rfl
  · rintro h s (hl | he)
    · exact handshakeReads_kept.life hl
    · exact handshakeReads_kept.ended he
  · have hin : s.inbound = [] := ((Session.represented_handshake hst).1 hl.represented).2.2.2.2
    have hw := hreads.awaitsMore hl.shaped hst hin
    have hk : Stage.maxHandshake ≤ (h.heard ++ Transcript.read .client es).length + 1032 :=
      Nat.le_add_left _ _
    refine ⟨Handler.exec_readHandshake_of_le hl hw hk hturns (Nat.le_refl _), ?_⟩
    intro hctx σ answer state hm hinterrupted
    exact (Handler.readHandshake_ends hctx hl hw hk hturns).play_isSome hm hinterrupted

/-- Answers a call. The client sends the same byte for ever. -/
def SocketScript.flood (c : SessionCall) (script : SocketScript) : c.Answer × SocketScript :=
  match c with
  | .receive _ max => (.ok ⟨List.take max [5], List.length_take_le max _⟩, script)
  | c => oblige c script

theorem SocketScript.obliging_flood : Manner.obliging.Rules flood := by
  intro c script
  cases c with
  | receive => exact trivial
  | _ => exact obliging_oblige _ script

/-- The hasty client, byte by byte up to its request. -/
def drippingClient : SocketScript :=
  .between [[5], [1], [0], [5], [1], [0], [1], [192], [0], [2], [7], [0], [80]] []

/-- A client that sends its handshake byte by byte is read from once for each byte, and reading comes to an
    end with a client that never stops. -/
theorem dripping_client_is_read_to_the_end :
    let ctx : Context := ⟨{}, none, 20⟩
    (∃ h s, Life ctx h s ∧ s.stage = .connecting ∧ h.handshakeReads = 13 ∧ h.handshakeReads ≤ 1032) ∧
    ∃ h s, Life ctx h s ∧ s.stage = .accepted ∧ s.inbound = [] ∧
      (Dialogue.play (I := SessionNet) SocketScript.flood
        ((Handler.readHandshake ctx 2000).exec ⟨s, ⟨0⟩⟩) hastyClient).isSome = true := by
  intro ctx
  obtain ⟨-, -, hempty, hreads, hends⟩ := @handshake_reading_ends ctx
  constructor
  · obtain ⟨h, s, hl, hx⟩ := exists_life_of_rehearse ctx drippingClient (handshake 1)
      (fun h s => s.stage = .connecting ∧ h.handshakeReads = 13) (by decide +kernel)
    obtain ⟨hst, hn⟩ := of_decide_eq_true hx
    exact ⟨h, s, hl, hst, hn, hreads h s (.inl hl)⟩
  · obtain ⟨h, s, hl, hx⟩ := exists_life_of_rehearse ctx hastyClient []
      (fun _ s => s.stage = .accepted) (by decide +kernel)
    have hst : s.stage = .accepted := of_decide_eq_true hx
    have hhandshake : s.stage.isHandshake = true := hst ▸ rfl
    refine ⟨h, s, hl, hst, hempty h s hl hhandshake, ?_⟩
    exact (hends h s _ [] hl hhandshake .atOnce 2000 (by decide)).2 (by decide) SocketScript
      SocketScript.flood hastyClient SocketScript.obliging_flood nofun

end SocksProxy
