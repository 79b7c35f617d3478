/-
  How the bytes of a handshake are cut into reads makes no difference.

  Every cut is compared with the same run, in which all bytes are there at once.

  * `parse_follows`: parsing a part of the bytes does what parsing all of them does, and the rest goes on
    from there;
  * `readHandshake_follows`: so does reading them, part by part;
  * `handshake_ignores_cuts`: two cuts lead to the same calls and to the same end.
-/
import SocksProxy.Proofs.Overlook

namespace SocksProxy

open Dialogue

namespace Handler

variable {m : Manner} {ctx : Context} {w : Work} {x : Bytes} {burstDone : Bool} {n : Nat}

/-! ## Parsing -/

/-- What parsing does behind a message. -/
def parseOn (ctx : Context) (burstDone : Bool) (n : Nat) : Except SessionError Unit → Handler Unit
  | .ok () => parse ctx burstDone n
  | .error (.violation (.truncated needed available)) =>
    if burstDone then refuse (.truncated needed available) else pure ()
  | .error e => fail e

theorem parseOn_error {e : SessionError} (he : e.IsFinal) :
    parseOn ctx burstDone n (.error e) = fail e := by
  unfold parseOn
  split
  · nomatch ‹Except.error e = Except.ok ()›
  · next heq =>
    cases heq
    exact absurd rfl (he _ _)
  · next heq =>
    cases heq
    rfl

theorem exec_parse_of_over (h : w.session.stage.isHandshake = false) :
    (parse ctx burstDone n).exec w = .done (.ok (), w) := by
  cases n with
  | zero => rfl
  | succ n =>
    rw [parse, exec_bind, exec_session]
    simp only [Dialogue.bind, h, Bool.not_false, Bool.or_true, if_true, exec_pure]

theorem exec_parse_of_nil (h : w.session.inbound = []) :
    (parse ctx burstDone n).exec w = .done (.ok (), w) := by
  cases n with
  | zero => rfl
  | succ n =>
    rw [parse, exec_bind, exec_session]
    simp only [Dialogue.bind, h, List.isEmpty_nil, Bool.true_or, if_true, exec_pure]

theorem exec_parse_succ (hst : w.session.stage.isHandshake = true) (hne : w.session.inbound ≠ []) :
    (parse ctx burstDone (n + 1)).exec w =
      ((onMessage ctx w.session.stage).exec w).bind fun y => (parseOn ctx burstDone n y.1).exec y.2 := by
  rw [parse, exec_bind, exec_session]
  have hgo : (w.session.inbound.isEmpty || !w.session.stage.isHandshake) = false := by
    simp only [hst, List.isEmpty_eq_false_iff.2 hne, Bool.not_true, Bool.or_false]
  simp only [Dialogue.bind, hgo]
  rw [if_neg Bool.false_ne_true, exec_bind, exec_outcome, bind_assoc]
  rfl

/-- All that was read is handled, or it is a message that is cut short. -/
def Stalls (ctx : Context) (w : Work) : Prop :=
  w.session.inbound = [] ∨ CutsShort w.session.stage (onMessage ctx w.session.stage) w

/-- What a part of the bytes led to, and what is left to do for all of them, when `x` is behind that
    part. -/
inductive Parsed (ctx : Context) (x : Bytes) :
    Except SessionError Unit × Work → Talk (Except SessionError Unit × Work) → Prop where
  | failed {e : SessionError} {w w' : Work} : Parsed ctx x (.error e, w) (.done (.error e, w'))
  | requested {w : Work} : w.session.stage.isHandshake = false →
      Parsed ctx x (.ok (), w) (.done (.ok (), w.keeping x))
  | stalled {w : Work} {n : Nat} : w.session.stage.isHandshake = true → Stalls ctx w →
      (w.push x).session.inbound.length ≤ n →
      Parsed ctx x (.ok (), w) ((parse ctx true n).exec (w.push x))

theorem parse_follows {n' : Nat} (hm : m.Serves ctx.turns)
    (hst : w.session.stage.isHandshake = true) (hn : w.session.inbound.length ≤ n)
    (hn' : (w.push x).session.inbound.length ≤ n') :
    Talk.Follows m (Parsed ctx x) ((parse ctx false n).exec w) ((parse ctx true n').exec (w.push x)) := by
  induction n generalizing w n' with
  | zero =>
    have hin := List.eq_nil_of_length_eq_zero (Nat.le_zero.1 hn)
    rw [exec_parse_of_nil hin]
    exact .done (.stalled hst (.inl hin) hn')
  | succ n ih =>
    by_cases hin : w.session.inbound = []
    · rw [exec_parse_of_nil hin]
      exact .done (.stalled hst (.inl hin) hn')
    rw [exec_parse_succ hst hin]
    rcases onMessage_overlooks hm hst with hshort | hover
    · obtain ⟨⟨needed, available, hexec⟩, -⟩ := id hshort
      rw [hexec]
      exact .done (.stalled hst (.inr hshort) hn')
    · have hlen : (w.push x).session.inbound.length = w.session.inbound.length + x.length :=
        List.length_append
      have hpos := List.length_pos_iff.2 hin
      cases n' with
      | zero => omega
      | succ n' =>
        rw [exec_parse_succ (w := w.push x) hst (List.append_ne_nil_of_left_ne_nil hin x)]
        refine Talk.Lockstep.bind (hover x) fun y y' hy => ?_
        cases hy with
        | @ok _ _ w₁ _ h =>
          obtain ⟨rfl, hlt⟩ := h
          cases hst₁ : w₁.session.stage.isHandshake with
          | true =>
            have hlt := hlt hst₁
            have hn₁ : w₁.session.inbound.length ≤ n := by omega
            have hn₁' : (w₁.push x).session.inbound.length ≤ n' := by
              rw [Work.push, List.length_append]
              omega
            rw [← Work.push_eq_keeping hst₁]
            exact ih hst₁ hn₁ hn₁'
          | false =>
            have hst₁' : (w₁.keeping x).session.stage.isHandshake = false :=
              (congrArg Stage.isHandshake Session.keeping_stage).trans hst₁
            change Talk.Follows m _ ((parse ctx false n).exec w₁)
              ((parse ctx true n').exec (w₁.keeping x))
            rw [exec_parse_of_over hst₁, exec_parse_of_over hst₁']
            exact .done (.requested hst₁)
        | error he =>
          simp only [parseOn_error he, exec_fail]
          exact .done .failed

/-! ## Reading -/

/-- What is done when nothing more is read: a client that has made its request is registered anew, since
    it may have sent more. -/
def leave : Handler Unit := do
  if !(← session).stage.isHandshake then onClientStream (·.resume)

/-- Handles a handshake of which all bytes are there. -/
def atOnce (ctx : Context) (n : Nat) : Handler Unit := do
  parse ctx true n
  leave

/-- What is done behind a read, before the next one. -/
def readOn (ctx : Context) (turns : Nat) : Handler Unit := do
  let s ← session
  if !s.stage.isHandshake then onClientStream (·.resume)
  else if maxMessage < s.inbound.length then refuse (.tooLong s.inbound.length)
  else readHandshake ctx turns

theorem exec_leave_of_handshake (hst : w.session.stage.isHandshake = true) :
    leave.exec w = .done (.ok (), w) := by
  rw [leave, exec_bind, exec_session]
  simp only [Dialogue.bind, hst, Bool.not_true, Bool.false_eq_true, if_false, exec_pure]

theorem exec_leave_of_over (hst : w.session.stage.isHandshake = false) :
    leave.exec w = (onClientStream (·.resume)).exec w := by
  rw [leave, exec_bind, exec_session]
  simp only [Dialogue.bind, hst, Bool.not_false, if_true]

theorem exec_readOn_of_over {turns : Nat} (hst : w.session.stage.isHandshake = false) :
    (readOn ctx turns).exec w = (onClientStream (·.resume)).exec w := by
  rw [readOn, exec_bind, exec_session]
  simp only [Dialogue.bind, hst, Bool.not_false, if_true]

/-- A message that is cut short is not too long. -/
theorem exec_readOn_of_stalls {turns : Nat} (hst : w.session.stage.isHandshake = true)
    (hs : Stalls ctx w) : (readOn ctx turns).exec w = (readHandshake ctx turns).exec w := by
  have hlen : ¬ maxMessage < w.session.inbound.length := by
    rcases hs with hin | hcut
    · rw [hin]
      exact Nat.not_lt_zero _
    · exact Nat.not_lt.2 (Nat.le_trans (Nat.le_of_lt hcut.short) w.session.stage.longest_le)
  rw [readOn, exec_bind, exec_session]
  simp only [Dialogue.bind, hst, Bool.not_true, Bool.false_eq_true, if_false, hlen]

theorem feed_receive_nil {α : Type} {stream : Stream} {turns : Nat}
    {f : Except IoError Received → Talk α} :
    Talk.feed [] ((stream.receive (turns + 1)).bind f) = Talk.feed [] (f (.ok .wouldBlock)) :=
  rfl

theorem feed_receive_cons {α : Type} {stream : Stream} {turns : Nat} {chunk : Bytes}
    {chunks : List Bytes} {f : Except IoError Received → Talk α} (hne : chunk ≠ [])
    (hle : chunk.length ≤ Stream.bufferSize) :
    Talk.feed (chunk :: chunks) ((stream.receive (turns + 1)).bind f) =
      Talk.feed chunks (f (.ok (.data chunk))) := by
  obtain ⟨next, hreceive, hnext⟩ : ∃ next : Except IoError (Chunk Stream.bufferSize) → Talk α,
      (stream.receive (turns + 1)).bind f = .ask (.receive stream.socket Stream.bufferSize) next ∧
      ∀ b rest h, next (.ok ⟨b :: rest, h⟩) = f (.ok (.data (b :: rest))) :=
    ⟨_, rfl, fun _ _ _ => rfl⟩
  have hread : Talk.firstRead Stream.bufferSize (chunk :: chunks) = (.ok ⟨chunk, hle⟩, chunks) := by
    simp only [Talk.firstRead, List.take_of_length_le hle]
  obtain ⟨b, rest, rfl⟩ := List.exists_cons_of_ne_nil hne
  rw [hreceive]
  change Talk.feed (Talk.firstRead Stream.bufferSize _).2
    (next (Talk.firstRead Stream.bufferSize _).1) = _
  rw [hread, hnext]

theorem exec_attempt_bind {α β : Type} {p : Talk (Except IoError α)} {f : α → Handler β} :
    (attempt p >>= f).exec w = p.bind fun
      | .ok a => (f a).exec w
      | .error e => .done (.error (.transport e), w) := by
  rw [exec_bind, attempt, exec_bind, exec_talk, bind_assoc, bind_assoc]
  refine congrArg (Dialogue.bind p) (funext fun r => ?_)
  cases r <;> rfl

theorem feed_readHandshake_nil {turns : Nat} (hturns : 0 < ctx.turns) :
    Talk.feed [] ((readHandshake ctx (turns + 1)).exec w) =
      Talk.feed [] ((parse ctx true w.session.inbound.length).exec w) := by
  obtain ⟨k, hk⟩ := Nat.exists_eq_add_one.2 hturns
  rw [readHandshake, exec_bind, exec_session]
  change Talk.feed [] (exec (attempt (w.session.client.stream.receive ctx.turns) >>= _) w) = _
  rw [exec_attempt_bind, hk, feed_receive_nil]
  rfl

theorem feed_readHandshake_cons {turns : Nat} {chunk : Bytes} {chunks : List Bytes}
    (hturns : 0 < ctx.turns) (hne : chunk ≠ []) (hle : chunk.length ≤ Stream.bufferSize) :
    Talk.feed (chunk :: chunks) ((readHandshake ctx (turns + 1)).exec w) =
      Talk.feed chunks ((do
        parse ctx false (w.push chunk).session.inbound.length
        readOn ctx turns : Handler Unit).exec (w.push chunk)) := by
  obtain ⟨k, hk⟩ := Nat.exists_eq_add_one.2 hturns
  rw [readHandshake, exec_bind, exec_session]
  change Talk.feed _ (exec (attempt (w.session.client.stream.receive ctx.turns) >>= _) w) = _
  rw [exec_attempt_bind, hk, feed_receive_cons hne hle]
  rfl

/-! ## Cuts -/

/-- What reading some chunks led to, when the rest of them is not read, and what having them all at once
    led to. -/
inductive ReadsAs :
    (Except SessionError Unit × Work) × List Bytes → Except SessionError Unit × Work → Prop where
  | failed {e : SessionError} {w w' : Work} {rest : List Bytes} :
      ReadsAs ((.error e, w), rest) (.error e, w')
  | stopped {w w' : Work} {rest : List Bytes} : w' = w.keeping rest.flatten →
      (w.session.stage.isHandshake = true → w.session.inbound = [] ∧ rest = []) →
      ReadsAs ((.ok (), w), rest) (.ok (), w')

theorem atOnce_exec_bind : (atOnce ctx n).exec w = ((parse ctx true n).exec w).bind fun
      | (.ok _, w) => leave.exec w
      | (.error e, w) => .done (.error e, w) := by
  rw [atOnce, exec_bind]
  refine congrArg (Dialogue.bind _) (funext fun (r, w) => ?_)
  cases r <;> rfl

/-- What is cut short when nothing more is to come breaks the protocol. -/
theorem stalls_lockstep (hst : w.session.stage.isHandshake = true) (hs : Stalls ctx w)
    (hn : w.session.inbound.length ≤ n) :
    Talk.Lockstep m ReadsAs (Talk.feed [] ((parse ctx true w.session.inbound.length).exec w))
      ((atOnce ctx n).exec w) := by
  rw [atOnce_exec_bind]
  by_cases hin : w.session.inbound = []
  · rw [exec_parse_of_nil hin, exec_parse_of_nil hin]
    simp only [Dialogue.bind]
    rw [exec_leave_of_handshake hst]
    refine Talk.lockstep_done (.stopped ?_ fun _ => ⟨hin, rfl⟩)
    rw [List.flatten_nil, ← Work.push_eq_keeping hst, Work.push_nil]
  · obtain ⟨needed, available, hexec⟩ := (hs.resolve_left hin).stops
    obtain ⟨k, hk⟩ := Nat.exists_eq_add_one.2 (List.length_pos_iff.2 hin)
    obtain ⟨l, rfl⟩ := Nat.exists_eq_add_one.2 (Nat.lt_of_lt_of_le (List.length_pos_iff.2 hin) hn)
    rw [hk, exec_parse_succ hst hin, exec_parse_succ hst hin, hexec]
    exact Talk.lockstep_done .failed

/-- A client that has made its request is registered anew, in the same way whatever it has sent. -/
theorem resume_lockstep {chunks : List Bytes} (hst : w.session.stage.isHandshake = false) :
    Talk.Lockstep m ReadsAs (Talk.feed chunks ((onClientStream (·.resume) : Handler Unit).exec w))
      ((onClientStream (·.resume) : Handler Unit).exec (w.keeping chunks.flatten)) := by
  have halike : Alike m (onClientStream (·.resume)) (onClientStream (·.resume)) w
      (w.keeping chunks.flatten)
      (fun _ w₁ _ w₁' => w₁' = w₁.keeping chunks.flatten ∧ w₁.session.stage.isHandshake = false)
      fun _ _ _ => True := by
    refine alike_onClientStream Session.keeping_client Talk.unread_resume (fun _ stream => ⟨?_, hst⟩)
      fun _ _ => trivial
    unfold Work.keeping
    rw [Session.keeping_withClientStream]
  refine Talk.Follows.imp (Talk.Lockstep.feed halike) ?_
  rintro ⟨y, rest⟩ _ ⟨y', rfl, hy, rfl⟩
  refine ⟨y', rfl, ?_⟩
  cases hy with
  | ok h =>
    obtain ⟨rfl, hst₁⟩ := h
    exact .stopped rfl fun h => nomatch hst₁.symm.trans h
  | error => exact .failed

/-- Reading chunk by chunk does what is done when all bytes are there at once. -/
theorem readHandshake_follows {chunks : List Bytes} {turns : Nat} (hm : m.Serves ctx.turns)
    (hctx : 0 < ctx.turns) (hst : w.session.stage.isHandshake = true) (hs : Stalls ctx w)
    (hne : ∀ chunk ∈ chunks, chunk ≠ []) (hle : ∀ chunk ∈ chunks, chunk.length ≤ Stream.bufferSize)
    (hturns : chunks.length < turns) (hn : (w.push chunks.flatten).session.inbound.length ≤ n) :
    Talk.Lockstep m ReadsAs (Talk.feed chunks ((readHandshake ctx turns).exec w))
      ((atOnce ctx n).exec (w.push chunks.flatten)) := by
  induction chunks generalizing w turns n with
  | nil =>
    obtain ⟨turns, rfl⟩ := Nat.exists_eq_add_one.2 hturns
    rw [feed_readHandshake_nil hctx]
    rw [List.flatten_nil, Work.push_nil] at hn ⊢
    exact stalls_lockstep hst hs hn
  | cons chunk chunks ih =>
    obtain ⟨turns, rfl⟩ := Nat.exists_eq_add_one.2 (Nat.lt_of_le_of_lt (Nat.zero_le _) hturns)
    rw [feed_readHandshake_cons hctx (hne chunk List.mem_cons_self) (hle chunk List.mem_cons_self)]
    rw [List.flatten_cons, Work.push_append] at hn ⊢
    rw [exec_bind, atOnce_exec_bind]
    refine Talk.Follows.feed (parse_follows hm hst (Nat.le_refl _) hn) fun y rest hy => ?_
    cases hy with
    | failed => exact Talk.lockstep_done .failed
    | @requested w₁ hst₁ =>
      have hst₁' : (w₁.keeping chunks.flatten).session.stage.isHandshake = false :=
        (congrArg Stage.isHandshake Session.keeping_stage).trans hst₁
      simp only [Dialogue.bind]
      rw [exec_readOn_of_over hst₁, exec_leave_of_over hst₁']
      exact resume_lockstep hst₁
    | @stalled w₁ n₁ hst₁ hs₁ hn₁ =>
      rw [← atOnce_exec_bind]
      simp only
      rw [exec_readOn_of_stalls hst₁ hs₁]
      refine ih hst₁ hs₁ (fun c hc => hne c (List.mem_cons_of_mem _ hc))
        (fun c hc => hle c (List.mem_cons_of_mem _ hc)) ?_ hn₁
      rw [List.length_cons] at hturns
      omega

end Handler

/-! ## Any two cuts -/

/-- The chunks are the bytes, cut into reads. -/
structure Cuts (bytes : Bytes) (chunks : List Bytes) : Prop where
  whole : chunks.flatten = bytes
  nonempty : ∀ chunk ∈ chunks, chunk ≠ []
  fits : ∀ chunk ∈ chunks, chunk.length ≤ Stream.bufferSize

/-- What a session keeps for the stream that its client has asked for, while it is not open. -/
def Session.kept? (s : Session) : Option Bytes :=
  match s.stage, s.outgoing? with
  | .connecting, some out => some out.early
  | .connecting, none | .resolving, _ => some s.inbound
  | _, _ => none

theorem Session.keeping_kept? {s : Session} {x : Bytes} :
    (s.keeping x).kept? = s.kept?.map (· ++ x) := by
  obtain ⟨stage, client, remote, relay, lookups, inbound, pending⟩ := s
  cases stage with
  | connecting => rcases remote with _ | _ | _ <;> rfl
  | _ => rfl

/-- How reading has come to its end: the result, and the chunks that are left. -/
abbrev ReadEnd : Type := (Except SessionError Unit × Work) × List Bytes

/-- Reading has ended alike: with the same error, or in the same state, where the bytes that are kept for
    a stream and those that are left make up the same string. In a handshake no byte is left. -/
inductive SameEnd : ReadEnd → ReadEnd → Prop where
  | failed {e : SessionError} {w w' : Work} {rest rest' : List Bytes} :
      SameEnd ((.error e, w), rest) ((.error e, w'), rest')
  | stopped {w w' : Work} {rest rest' : List Bytes} :
      w.session.stage = w'.session.stage →
      w.keeping rest.flatten = w'.keeping rest'.flatten →
      w.session.kept?.map (· ++ rest.flatten) = w'.session.kept?.map (· ++ rest'.flatten) →
      (w.session.stage.isHandshake = true →
        w = w' ∧ w.session.inbound = [] ∧ rest = [] ∧ rest' = []) →
      SameEnd ((.ok (), w), rest) ((.ok (), w'), rest')

theorem Handler.ReadsAs.sameEnd {a a' : ReadEnd} {b : Except SessionError Unit × Work}
    (h : ReadsAs a b) (h' : ReadsAs a' b) : SameEnd a a' := by
  cases h with
  | failed =>
    cases h' with
    | failed => exact .failed
  | @stopped w _ rest hw hin =>
    cases h' with
    | @stopped w' _ rest' hw' hin' =>
      have heq : w.keeping rest.flatten = w'.keeping rest'.flatten := hw.symm.trans hw'
      have hs : w.session.keeping rest.flatten = w'.session.keeping rest'.flatten :=
        congrArg Work.session heq
      have hst : w.session.stage = w'.session.stage := by
        rw [← Session.keeping_stage (x := rest.flatten), hs, Session.keeping_stage]
      refine .stopped hst heq ?_ fun h => ?_
      · rw [← Session.keeping_kept?, hs, Session.keeping_kept?]
      · obtain ⟨hnil, rfl⟩ := hin h
        have h₁ : w'.session.stage.isHandshake = true := hst ▸ h
        obtain ⟨-, rfl⟩ := hin' h₁
        rw [List.flatten_nil, ← Work.push_eq_keeping h, ← Work.push_eq_keeping h₁, Work.push_nil,
          Work.push_nil] at heq
        exact ⟨heq, hnil, rfl, rfl⟩

theorem rel_of_common {α β γ : Type} {P : α → γ → Prop} {Q : β → γ → Prop} {R : α → β → Prop}
    {x : Option α} {y : Option β} {z : Option γ} (h : Option.Rel P x z) (h' : Option.Rel Q y z)
    (hr : ∀ a b c, P a c → Q b c → R a b) : Option.Rel R x y := by
  cases h with
  | none =>
    cases h'
    exact .none
  | some h =>
    cases h' with
    | some h' => exact .some (hr _ _ _ h h')

section
variable {σ : Type} {answer : (c : SessionCall) → σ → c.Answer × σ} {state : σ} {ctx : Context}
  {w : Work} {m : Manner} {bytes : Bytes} {cut cut' : List Bytes}

/-- What a session does that reads from its client, when the chunks are there to be read: its other calls
    with their answers, how reading ends, and the state of the network then. -/
def readChunks (answer : (c : SessionCall) → σ → c.Answer × σ) (ctx : Context) (w : Work)
    (chunks : List Bytes) (state : σ) : Option (List SessionNet.Event × ReadEnd × σ) :=
  (Talk.feed chunks ((Handler.readClient ctx).exec w)).play answer state

theorem Handler.exec_readClient_of_handshake (hst : w.session.stage.isHandshake = true)
    (hp : w.session.client.stream.hasPending = false) :
    (readClient ctx).exec w = (readHandshake ctx ctx.turns).exec w := by
  unfold readClient
  rw [exec_bind, exec_session]
  simp only [Dialogue.bind]
  cases h : w.session.stage with
  | accepted | authRequested | authenticated =>
    simp only [hp]
    rfl
  | _ =>
    rw [h] at hst
    cases hst

theorem readChunks_lockstep (hm : m.Serves ctx.turns) (hst : w.session.stage.isHandshake = true)
    (hin : w.session.inbound = []) (hp : w.session.client.stream.hasPending = false)
    (hcut : Cuts bytes cut) (hturns : cut.length < ctx.turns) :
    Talk.Lockstep m Handler.ReadsAs (Talk.feed cut ((Handler.readClient ctx).exec w))
      ((Handler.atOnce ctx bytes.length).exec (w.push bytes)) := by
  rw [Handler.exec_readClient_of_handshake hst hp, ← hcut.whole]
  refine Handler.readHandshake_follows hm (Nat.lt_of_le_of_lt (Nat.zero_le _) hturns) hst (.inl hin)
    hcut.nonempty hcut.fits hturns ?_
  simp only [Work.push, hin, List.nil_append, Nat.le_refl]

/-- How the bytes of a client are cut into reads makes no difference to its handshake, if a loop has a turn
    for each read: the calls are the same, whatever the network answers to them, and so is the end. Where
    the client takes every write, there is an end. -/
theorem handshake_ignores_cuts (answer : (c : SessionCall) → σ → c.Answer × σ) (state : σ)
    (hst : w.session.stage.isHandshake = true) (hin : w.session.inbound = [])
    (hp : w.session.client.stream.hasPending = false) (hcut : Cuts bytes cut)
    (hcut' : Cuts bytes cut') (hturns : cut.length < ctx.turns) (hturns' : cut'.length < ctx.turns) :
    Option.Rel (fun x y => x.1 = y.1 ∧ SameEnd x.2.1 y.2.1 ∧ x.2.2 = y.2.2)
      (readChunks answer ctx w cut state) (readChunks answer ctx w cut' state) ∧
    (Manner.obliging.Rules answer → (readChunks answer ctx w cut state).isSome = true) := by
  refine ⟨?_, fun hm => ?_⟩
  · have hany {chunks : List Bytes} (hc : Cuts bytes chunks) (ht : chunks.length < ctx.turns) :=
      (readChunks_lockstep .unruly hst hin hp hc ht).play state (Manner.unruly_rules answer)
    -- Both are compared with the run in which all bytes are there at once.
    refine rel_of_common (hany hcut hturns) (hany hcut' hturns') fun x y z h h' => ?_
    exact ⟨h.1.trans h'.1.symm, h.2.1.sameEnd h'.2.1, h.2.2.trans h'.2.2.symm⟩
  · obtain ⟨turns, hk⟩ := Nat.exists_eq_add_one.2 (Nat.lt_of_le_of_lt (Nat.zero_le _) hturns)
    exact (readChunks_lockstep (hk ▸ .obliging) hst hin hp hcut hturns).play_isSome hm id

end

/-- Grants everything, and takes every write. -/
def SocketScript.oblige (c : SessionCall) (script : SocketScript) : c.Answer × SocketScript :=
  match c with
  | .send _ data => (.ok (Fin.last data.length), script)
  | c => grant c script

theorem SocketScript.obliging_oblige : Manner.obliging.Rules oblige := by
  intro c script
  cases c with
  | sendTo s data dest => exact nofun
  | send => rfl
  | _ => exact trivial

/-- The bytes of the hasty client in one read, and one by one: the session keeps what is behind the
    request, or it is still to be read. -/
theorem hasty_client_in_one_read_or_many :
    let ctx : Context := ⟨{}, none, 20⟩
    let w : Work := ⟨.fresh hastyClient.address hastyClient.address, ⟨0⟩⟩
    let bytes := hastyReads.flatten
    let once := readChunks SocketScript.oblige ctx w [bytes] hastyClient
    let singly := readChunks SocketScript.oblige ctx w (bytes.map ([·])) hastyClient
    Option.Rel (fun x y => x.1 = y.1 ∧ SameEnd x.2.1 y.2.1 ∧ x.2.2 = y.2.2) once singly ∧
    once.isSome = true ∧
    once.map (fun x => (x.2.1.1.2.session.kept?, x.2.1.2)) = some (some [104, 105, 121, 111], []) ∧
    singly.map (fun x => (x.2.1.1.2.session.kept?, x.2.1.2)) =
      some (some [], [[104], [105], [121], [111]]) := by
  intro ctx w bytes once singly
  have honce : Cuts bytes [bytes] := ⟨by decide, by decide, by decide⟩
  have hsingly : Cuts bytes (bytes.map ([·])) := ⟨by decide, by decide, by decide⟩
  have honceTurns : [bytes].length < ctx.turns := by decide
  have hsinglyTurns : (bytes.map ([·])).length < ctx.turns := by decide
  obtain ⟨hrel, hends⟩ := @handshake_ignores_cuts SocketScript ctx w bytes _ _ SocketScript.oblige
    hastyClient rfl rfl rfl honce hsingly honceTurns hsinglyTurns
  exact ⟨hrel, hends SocketScript.obliging_oblige, by decide +kernel, by decide +kernel⟩

end SocksProxy
