/-
  Options of the command line in place of the settings of a file.

  * `Settings.Fits` says which settings fit together, and `Misfit.Found` what is found wrong with others: the
    first of what can be wrong;
  * `Overrides` says what the settings of a file become under options;
  * `Options.settings_of_file`: the settings of the file are checked before any option is looked at, and those to
    run with again.

  **`options_override_file`** puts them together. `half_credentials_stay_refused` is a file that an option would
  complete.
-/
import SocksProxy.CommandLine.Options

namespace SocksProxy

/-! ## Settings that fit together -/

namespace Settings

/-- There is a user name just if there is a password. -/
def Paired (s : Settings) : Prop :=
  s.username = "" ↔ s.password = ""

/-- User name and password can be sent. -/
def Short (s : Settings) : Prop :=
  s.username.utf8ByteSize ≤ 255 ∧ s.password.utf8ByteSize ≤ 255

/-- A name server that is set can be asked. -/
def CanAsk (s : Settings) : Prop :=
  ∀ ip, s.resolution = .server ip → s.dnsPort ≠ 0

/-- The settings fit together. -/
structure Fits (s : Settings) : Prop where
  paired : s.Paired
  short : s.Short
  canAsk : s.CanAsk

end Settings

/-- What is found wrong with settings: the first of what is. -/
def Misfit.Found (s : Settings) : Misfit → Prop
  | halfCredentials => ¬ s.Paired
  | longCredentials => s.Paired ∧ ¬ s.Short
  | noDnsPort => s.Paired ∧ s.Short ∧ ¬ s.CanAsk

namespace Settings

variable {s : Settings} {why : Misfit}

theorem isEmpty_bne_iff : (s.username.isEmpty != s.password.isEmpty) = true ↔ ¬ s.Paired := by
  rw [Paired, ← String.isEmpty_iff, ← String.isEmpty_iff]
  cases s.username.isEmpty <;> cases s.password.isEmpty <;> decide

theorem too_long_iff :
    (s.username.utf8ByteSize > 255 ∨ s.password.utf8ByteSize > 255) ↔ ¬ s.Short := by
  rw [Short, Decidable.not_and_iff_or_not, Nat.not_le, Nat.not_le]

/-- Settings that fit pass, and any others are refused for what is found first. -/
theorem check_cases : s.Fits ∧ s.check = .ok () ∨ ∃ why, why.Found s ∧ s.check = .error why := by
  rw [check]
  by_cases hpaired : s.Paired
  · rw [if_neg (mt isEmpty_bne_iff.1 (not_not_intro hpaired))]
    by_cases hshort : s.Short
    · rw [if_neg (mt too_long_iff.1 (not_not_intro hshort))]
      cases hr : s.resolution with
      | server ip =>
        by_cases hport : s.dnsPort = 0
        · refine .inr ⟨.noDnsPort, ⟨hpaired, hshort, fun h => h ip hr hport⟩, if_pos hport⟩
        · exact .inl ⟨⟨hpaired, hshort, fun _ _ => hport⟩, if_neg hport⟩
      | auto | disabled => exact .inl ⟨⟨hpaired, hshort, fun ip h => nomatch hr.symm.trans h⟩, rfl⟩
    · exact .inr ⟨.longCredentials, ⟨hpaired, hshort⟩, if_pos (too_long_iff.2 hshort)⟩
  · exact .inr ⟨.halfCredentials, hpaired, if_pos (isEmpty_bne_iff.2 hpaired)⟩

theorem Fits.not_found (h : s.Fits) : ¬ why.Found s := by
  cases why with
  | halfCredentials => exact fun hf => hf h.paired
  | longCredentials => exact fun hf => hf.2 h.short
  | noDnsPort => exact fun hf => hf.2.2 h.canAsk

theorem found_unique {why' : Misfit} (h : why.Found s) (h' : why'.Found s) : why = why' := by
  cases why <;> cases why' <;> simp_all [Misfit.Found]

theorem check_eq_ok_iff : s.check = .ok () ↔ s.Fits := by
  rcases check_cases (s := s) with ⟨hfits, hcheck⟩ | ⟨why, hfound, hcheck⟩
  · exact iff_of_true hcheck hfits
  · exact iff_of_false (fun h => nomatch hcheck.symm.trans h) fun h => h.not_found hfound

theorem check_eq_error_iff : s.check = .error why ↔ why.Found s := by
  rcases check_cases (s := s) with ⟨hfits, hcheck⟩ | ⟨why', hfound, hcheck⟩
  · exact iff_of_false (fun h => nomatch hcheck.symm.trans h) hfits.not_found
  · rw [hcheck, Except.error.injEq]
    exact ⟨fun h => h ▸ hfound, fun h => found_unique hfound h⟩

end Settings

theorem TcpOptions.eq_or_iff {t before given : TcpOptions} : t = before.or given ↔
    (t.nodelay ↔ before.nodelay ∨ given.nodelay) ∧
      (t.keepalive ↔ before.keepalive ∨ given.keepalive) := by
  have heither {a b c : Bool} : a = (b || c) ↔ (a = true ↔ b = true ∨ c = true) := by
    rw [← Bool.or_eq_true]
    exact Bool.eq_iff_iff
  rcases t with ⟨nodelay, keepalive⟩
  rw [TcpOptions.or, TcpOptions.mk.injEq]
  exact and_congr heither heither

namespace CommandLine

/-! ## Options in place of settings -/

/-- What is given stands in place of what was there before. -/
def Replaces {α : Type} (given : Option α) (before after : α) : Prop :=
  match given with
  | some x => after = x
  | none => after = before

theorem replaces_iff {α : Type} {given : Option α} {before after : α} :
    Replaces given before after ↔ after = given.getD before := by
  cases given <;> rfl

/-- Under the options, the settings `base` become `s`: what is given stands in place of what was set, and a
    switch is on if either turns it on. -/
structure Overrides (o : Options) (base s : Settings) : Prop where
  listenIp : Replaces o.listenIp base.listenIp s.listenIp
  listenPort : Replaces o.listenPort base.listenPort s.listenPort
  username : Replaces o.username base.username s.username
  password : Replaces o.password base.password s.password
  resolution : Replaces o.resolution base.resolution s.resolution
  dnsPort : Replaces o.dnsPort base.dnsPort s.dnsPort
  clientNodelay : s.clientTcp.nodelay ↔ base.clientTcp.nodelay ∨ o.clientTcp.nodelay
  clientKeepalive : s.clientTcp.keepalive ↔ base.clientTcp.keepalive ∨ o.clientTcp.keepalive
  remoteNodelay : s.remoteTcp.nodelay ↔ base.remoteTcp.nodelay ∨ o.remoteTcp.nodelay
  remoteKeepalive : s.remoteTcp.keepalive ↔ base.remoteTcp.keepalive ∨ o.remoteTcp.keepalive

variable {o : Options} {base s : Settings} {path text : String} {content : Option String}

/-- There is one outcome, which is what the options make of the settings. -/
theorem overrides_iff : Overrides o base s ↔ s = o.override base := by
  constructor
  · intro h
    obtain ⟨ip, port, username, password, resolution, dnsPort, clientTcp, remoteTcp⟩ := s
    rw [Options.override, Settings.mk.injEq]
    exact ⟨replaces_iff.1 h.listenIp, replaces_iff.1 h.listenPort, replaces_iff.1 h.username,
      replaces_iff.1 h.password, replaces_iff.1 h.resolution, replaces_iff.1 h.dnsPort,
      TcpOptions.eq_or_iff.2 ⟨h.clientNodelay, h.clientKeepalive⟩,
      TcpOptions.eq_or_iff.2 ⟨h.remoteNodelay, h.remoteKeepalive⟩⟩
  · rintro rfl
    obtain ⟨hclient, hclient'⟩ :=
      TcpOptions.eq_or_iff.1 (rfl : (o.override base).clientTcp = base.clientTcp.or o.clientTcp)
    obtain ⟨hremote, hremote'⟩ :=
      TcpOptions.eq_or_iff.1 (rfl : (o.override base).remoteTcp = base.remoteTcp.or o.remoteTcp)
    exact ⟨replaces_iff.2 rfl, replaces_iff.2 rfl, replaces_iff.2 rfl, replaces_iff.2 rfl,
      replaces_iff.2 rfl, replaces_iff.2 rfl, hclient, hclient', hremote, hremote'⟩

/-! ## Files with options -/

/-- The check behind the options does not spare the file its own. -/
theorem Options.settings_of_file (hpath : o.config = some path)
    (hread : ConfigFile.read? text = some base) : o.settings (some text) =
      match base.check with
      | .error why => .error (.invalid why)
      | .ok _ =>
        match (o.override base).check with
        | .error why => .error (.invalid why)
        | .ok _ => .ok (o.override base) := by
  unfold Options.settings
  simp only [hpath, ConfigFile.load, ConfigFile.parse, hread]
  cases base.check with
  | error why => rfl
  | ok _ => cases hmerged : (o.override base).check <;> simp only [bind, Except.bind, hmerged]

/-- **Options override a file that fits.** Let a file be given whose table has the settings `base`. The options
    make of them the settings `s`, and of no others. The program runs with `s` just if both `base` and `s` fit.
    Else it does not run, and says what is found first: what is wrong with the file, whatever the options are,
    and behind a file that fits what is wrong with `s`. -/
theorem options_override_file (hpath : o.config = some path)
    (hread : ConfigFile.read? text = some base) :
    ∃ s, (∀ s', Overrides o base s' ↔ s' = s) ∧
      (∀ s', o.settings (some text) = .ok s' ↔ base.Fits ∧ s.Fits ∧ s' = s) ∧
      ∀ fault, o.settings (some text) = .error fault ↔
        ∃ why, fault = .invalid why ∧ (why.Found base ∨ base.Fits ∧ why.Found s) := by
  refine ⟨o.override base, fun s' => overrides_iff, fun s' => ?_, fun fault => ?_⟩
  · rw [Options.settings_of_file hpath hread, ← Settings.check_eq_ok_iff, ← Settings.check_eq_ok_iff]
    cases base.check with
    | error why => simp
    | ok _ => cases (o.override base).check <;> simp [eq_comm]
  · rw [Options.settings_of_file hpath hread, ← Settings.check_eq_ok_iff]
    simp only [← Settings.check_eq_error_iff]
    cases base.check with
    | error why => simp [eq_comm]
    | ok _ => cases (o.override base).check <;> simp [eq_comm]

/-! ## Two files -/

/-- A file with a user name and no password. -/
def halfFile : String :=
  "[server]\nlisten_ip = \"127.0.0.1\"\nusername = \"alice\"\ndns = \"none\"\n"

/-- A file with both. -/
def wholeFile : String :=
  halfFile ++ "password = \"secret\"\n"

/-- What a file says that is half or whole. -/
def aliceWith (password : String) : Settings :=
  { listenIp := .v4 ⟨127, 0, 0, 1⟩, username := "alice", password, resolution := .disabled }

theorem read_halfFile : ConfigFile.read? halfFile = some (aliceWith "") := by decide +kernel

theorem read_wholeFile : ConfigFile.read? wholeFile = some (aliceWith "secret") := by decide +kernel

/-- The options that name a file. -/
def fromFile : Options := { config := some "socksmux.toml" }

/-- A file that fits runs with another user name, but not with an empty one. -/
theorem user_name_is_overridden :
    (Options.parse ["--config", "socksmux.toml", "--username", "bob"] =
        .ok { fromFile with username := some "bob" } ∧
      { fromFile with username := some "bob" }.settings (some wholeFile) =
        .ok { aliceWith "secret" with username := "bob" }) ∧
    Options.parse ["--config", "socksmux.toml", "--username", ""] =
        .ok { fromFile with username := some "" } ∧
      { fromFile with username := some "" }.settings (some wholeFile) =
        .error (.invalid .halfCredentials) := by
  have hfits : (aliceWith "secret").Fits := Settings.check_eq_ok_iff.1 rfl
  refine ⟨⟨rfl, ?_⟩, rfl, ?_⟩
  · obtain ⟨s, hs, hok, -⟩ :=
      options_override_file (o := { fromFile with username := some "bob" }) rfl read_wholeFile
    obtain rfl := (hs _).1 (overrides_iff.2 rfl)
    exact (hok _).2 ⟨hfits, Settings.check_eq_ok_iff.1 rfl, rfl⟩
  · obtain ⟨s, hs, -, herror⟩ :=
      options_override_file (o := { fromFile with username := some "" }) rfl read_wholeFile
    obtain rfl := (hs _).1 (overrides_iff.2 rfl)
    exact (herror _).2 ⟨_, rfl, .inr ⟨hfits, Settings.check_eq_error_iff.1 rfl⟩⟩

/-- A file with half of the credentials is refused, though an option gives the other half and the settings
    that the option makes of it fit. -/
theorem half_credentials_stay_refused :
    Options.parse ["--config", "socksmux.toml", "--password", "secret"] =
        .ok { fromFile with password := some "secret" } ∧
      ConfigFile.read? halfFile = some (aliceWith "") ∧
      Overrides { fromFile with password := some "secret" } (aliceWith "") (aliceWith "secret") ∧
      (aliceWith "secret").Fits ∧
      { fromFile with password := some "secret" }.settings (some halfFile) =
        .error (.invalid .halfCredentials) := by
  refine ⟨rfl, read_halfFile, overrides_iff.2 rfl, Settings.check_eq_ok_iff.1 rfl, ?_⟩
  have hpath : { fromFile with password := some "secret" }.config = some "socksmux.toml" := rfl
  rw [Options.settings_of_file hpath read_halfFile]
  rfl

end CommandLine

end SocksProxy
