/-
  Which credentials a server accepts.

  Settings that fit together have credentials that can be sent. A client authenticates by sending exactly
  these, and what it sends behind them is left alone.

  * `Settings.exists_encode_credentials`: the check of the settings leaves nothing that is too long;
  * `Credentials.isFor_iff_begins`: a message is for the settings if it begins with their credentials;
  * `Handler.onCredentials_accepts`: that is what a session goes by;
  * **`credentials_accepted`**.
-/
import SocksProxy.Proofs.Gate

namespace SocksProxy

open Dialogue

variable {settings : Settings} {e m : Bytes}

/-- The credentials of settings that fit together are short enough to be sent. -/
theorem Settings.credentials_short (h : settings.check = .ok ()) :
    settings.credentials.username.length ≤ 255 ∧ settings.credentials.password.length ≤ 255 := by
  simp only [check] at h
  split at h
  · nomatch h
  · split at h
    · nomatch h
    · next hshort =>
      obtain ⟨hu, hp⟩ := not_or.1 hshort
      exact ⟨Nat.le_of_not_lt hu, Nat.le_of_not_lt hp⟩

theorem Settings.exists_encode_credentials (h : settings.check = .ok ()) :
    ∃ e, settings.credentials.encode = .ok e := by
  obtain ⟨hu, hp⟩ := credentials_short h
  exact ⟨_, Credentials.encode_eq_ok.2 ⟨hu, hp, rfl⟩⟩

/-- Credentials that are read and are those of the settings take the bytes that are written for them. -/
theorem Credentials.length_of_isFor {c : Credentials} {n : Nat}
    (he : settings.credentials.encode = .ok e) (hd : Credentials.decode m = .ok (c, n))
    (hc : c.isFor settings.username settings.password = true) : e <+: m ∧ n = e.length := by
  obtain ⟨found, rest, rfl, rfl, hfound⟩ := exists_of_decode hd
  rw [isFor_iff.1 hc, he] at hfound
  cases hfound
  exact ⟨List.prefix_append e rest, rfl⟩

theorem Credentials.isFor_iff_begins (he : settings.credentials.encode = .ok e) :
    (∃ c n, Credentials.decode m = .ok (c, n) ∧
      c.isFor settings.username settings.password = true) ↔ e <+: m := by
  constructor
  · rintro ⟨c, n, hd, hc⟩
    exact (length_of_isFor he hd hc).1
  · rintro ⟨rest, rfl⟩
    exact ⟨settings.credentials, e.length, decode_inverts.append he rest, isFor_iff.2 rfl⟩

/-- A session that waits for credentials goes on if what was read begins with those of the settings, and
    takes exactly these. Then nothing but the socket can make it fail. -/
theorem Handler.onCredentials_accepts {ctx : Context} {w : Work}
    (he : ctx.settings.credentials.encode = .ok e) :
    (onCredentials ctx).Always w []
      (fun _ w' _ => e <+: w.session.inbound ∧ w'.session.stage = .authenticated ∧
        w'.session.inbound = w.session.inbound.drop e.length)
      (fun fault _ _ => e <+: w.session.inbound → ∃ io, fault = .transport io) := by
  unfold onCredentials
  rw [always_bind, always_session]
  cases hd : Credentials.decode w.session.inbound with
  | error fault =>
    refine always_refuse.2 fun ⟨rest, hrest⟩ => ?_
    rw [← hrest, Credentials.decode_inverts.append he] at hd
    nomatch hd
  | ok found =>
    obtain ⟨c, n⟩ := found
    simp only
    rw [always_bind, consume, always_update]
    by_cases hc : c.isFor ctx.settings.username ctx.settings.password = true
    · obtain ⟨hpre, rfl⟩ := Credentials.length_of_isFor he hd hc
      rw [if_pos hc, always_bind, always_log, always_bind]
      refine always_sendClient fun es r stream _ => ?_
      cases r with
      | error io => exact fun _ => ⟨io, rfl⟩
      | ok _ =>
        simp only
        rw [always_update]
        exact ⟨hpre, rfl, rfl⟩
    · rw [if_neg hc, always_bind, always_log, always_bind]
      refine always_sendLast fun es₁ es₂ r stream _ _ => always_refuse.2 fun ⟨rest, hrest⟩ => ?_
      rw [← hrest, Credentials.decode_inverts.append he] at hd
      cases hd
      exact absurd (Credentials.isFor_iff.2 rfl) hc

/-- **The credentials that are accepted are exactly those of the settings.** Where settings fit together
    their credentials can be sent, and a message is for them if and only if it begins with what is sent;
    then as many bytes are taken. A session that waits for credentials goes by this.

    Any two strings that fit behind a length byte are read back, whatever follows them, and what is read
    takes the bytes that are written for it. -/
theorem credentials_accepted :
    (∀ settings : Settings, settings.check = .ok () → ∃ e,
      Credentials.encode ⟨.ofText settings.username, .ofText settings.password⟩ = .ok e ∧
      (∀ m, (∃ c n, Credentials.decode m = .ok (c, n) ∧
        c.isFor settings.username settings.password = true) ↔ e <+: m) ∧
      (∀ m c n, Credentials.decode m = .ok (c, n) →
        c.isFor settings.username settings.password = true → n = e.length) ∧
      ∀ (ctx : Context) (w : Work), ctx.settings = settings →
        (Handler.onCredentials ctx).Always w []
          (fun _ w' _ => e <+: w.session.inbound ∧ w'.session.stage = .authenticated ∧
            w'.session.inbound = w.session.inbound.drop e.length)
          (fun fault _ _ => e <+: w.session.inbound → ∃ io, fault = .transport io)) ∧
    (∀ u p : Bytes, u.length ≤ 255 → p.length ≤ 255 → ∃ e, Credentials.encode ⟨u, p⟩ = .ok e ∧
      ∀ rest, Credentials.decode (e ++ rest) = .ok (⟨u, p⟩, e.length)) ∧
    ∀ (m : Bytes) (c : Credentials) (n : Nat), Credentials.decode m = .ok (c, n) →
      n ≤ m.length ∧ c.encode = .ok (m.take n) := by
  refine ⟨fun settings hcheck => ?_, fun u p hu hp => ?_, fun m c n hd => ?_⟩
  · obtain ⟨e, he⟩ := settings.exists_encode_credentials hcheck
    refine ⟨e, he, fun m => Credentials.isFor_iff_begins he, fun m c n hd hc => ?_, ?_⟩
    · exact (Credentials.length_of_isFor he hd hc).2
    · rintro ctx w rfl
      exact Handler.onCredentials_accepts he
  · have he := (Credentials.encode_eq_ok (c := ⟨u, p⟩)).2 ⟨hu, hp, rfl⟩
    exact ⟨_, he, Credentials.decode_inverts.append he⟩
  · exact (Credentials.decode_inverts m c n).1 hd

/-- The user `u` is let in with the password `p`, whatever follows, and with no other. -/
theorem keyholder_credentials_accepted :
    lockedSettings.check = .ok () ∧
    (∃ c n, Credentials.decode [1, 1, 117, 1, 112, 5] = .ok (c, n) ∧
      c.isFor lockedSettings.username lockedSettings.password = true) ∧
    ¬ ∃ c n, Credentials.decode [1, 1, 117, 1, 113, 5] = .ok (c, n) ∧
      c.isFor lockedSettings.username lockedSettings.password = true := by
  have hcheck : lockedSettings.check = .ok () := rfl
  obtain ⟨e, he, hbegins, -⟩ := credentials_accepted.1 lockedSettings hcheck
  have hwritten : Credentials.encode ⟨.ofText lockedSettings.username,
      .ofText lockedSettings.password⟩ = .ok [1, 1, 117, 1, 112] := rfl
  rw [hwritten] at he
  cases he
  exact ⟨hcheck, (hbegins _).2 (by decide), fun h => absurd ((hbegins _).1 h) (by decide)⟩

end SocksProxy
