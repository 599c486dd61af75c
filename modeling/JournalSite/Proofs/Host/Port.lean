import JournalSite.Host.Settings
import JournalSite.Proofs.Host.Environment
import JournalSite.Proofs.Text.Numeral
import JournalSite.Proofs.Text.Trim

/-!
# The port is the one that was asked for

Whoever sets a port expects to be listened at there or to be told why not. `PortReading`
says what comes of a setting, without reading it: 3000 if nothing is said but blanks; the
number, if what is said is a numeral and a port has room for it; else a fault, and which
one. The host gives exactly that (`readPort_eq_iff`), so no text that says something falls
back to the default, and none is wrapped or cut to fit.

A number may be too large long before a text that holds a character that is no digit is
read to its end, and the other way round. What decides is the number that the digits at
the beginning make, all of them: if it is too large, that is the fault.

The settings are the host address and the port that were read, and nothing else
(`FollowsHostAndPort`). The host is read first, so who sets both of them to nonsense hears of
the host.
-/

namespace JournalSite

open Text

/-- A setting that says nothing: it is not there, or blank. -/
def Unspoken (raw : Option String) : Prop := ∀ s, raw = some s → BlankText s.toList

/-- A setting that says `v`, with blanks around it or none. -/
def Spoken (raw : Option String) (v : String) : Prop :=
  v ≠ "" ∧ ∃ s, raw = some s ∧ Trims s.toList v.toList

/-- **What comes of the setting `PORT`.** -/
inductive PortReading (raw : Option String) : Except HostError UInt16 → Prop where
  /-- The default, if nothing is said. -/
  | default (h : Unspoken raw) : PortReading raw (.ok 3000)
  /-- The port that a numeral denotes, with a plus sign in front of it or none. -/
  | number {v : String} {port : UInt16} (h : Spoken raw v)
    (hport : PlusNumeral v.toList port.toNat) : PortReading raw (.ok port)
  /-- A fault, if the digits at the beginning make too large a number already. -/
  | tooLarge {v : String} (h : Spoken raw v) (hlarge : 65535 < leadingValue v.toList) :
    PortReading raw (.error (.badSetting "PORT" v "number too large to fit in target type"))
  /-- Another fault, if they do not and what is said is no numeral. -/
  | badDigit {v : String} (h : Spoken raw v) (hsmall : leadingValue v.toList ≤ 65535)
    (hno : ∀ n, ¬ PlusNumeral v.toList n) :
    PortReading raw (.error (.badSetting "PORT" v "invalid digit found in string"))

/-- **What becomes of the settings**, if `host` and `port` say where to listen. -/
structure FollowsHostAndPort (host port : Option String)
    (result : Except HostError HostSettings) : Prop where
  /-- There are settings exactly if there is a host address and a port. -/
  success : (∃ settings, result = .ok settings) ↔
    (∃ ip, HostSettings.readHost host = .ok ip) ∧ ∃ number, HostSettings.readPort port = .ok number
  /-- The host listens at these two, in no scope. -/
  address : ∀ settings, result = .ok settings →
    HostSettings.readHost host = .ok settings.address.host ∧
      HostSettings.readPort port = .ok settings.address.port ∧
      settings.address = .ofHost settings.address.host settings.address.port
  /-- A host address that is malformed is reported, whatever the port is. -/
  hostFault : ∀ e, HostSettings.readHost host = .error e →
    result = .error e ∧ ∃ v reason, Spoken host v ∧ e = .badSetting "HOST" v reason
  /-- A port that is malformed is reported if the host address is not. -/
  portFault : ∀ ip e, HostSettings.readHost host = .ok ip → HostSettings.readPort port = .error e →
    result = .error e

namespace SocketAddress

@[simp] theorem host_ofHost (ip : IPAddress) (port : UInt16) : (ofHost ip port).host = ip := by
  cases ip with
  | v4 ip => rfl
  | v6 ip => rfl

@[simp] theorem port_ofHost (ip : IPAddress) (port : UInt16) : (ofHost ip port).port = port := by
  cases ip with
  | v4 ip => rfl
  | v6 ip => rfl

end SocketAddress

namespace HostSettings

/-! ### What a setting says -/

theorem spoken?_eq_none_iff {raw : Option String} : spoken? raw = none ↔ Unspoken raw := by
  cases raw with
  | none => exact iff_of_true rfl nofun
  | some s =>
    have hempty : (trimmed s).isEmpty = true ↔ BlankText s.toList := by
      rw [String.isEmpty_iff, ← String.toList_eq_nil_iff, toList_trimmed, trim_eq_nil_iff]
    have hunspoken : Unspoken (some s) ↔ BlankText s.toList := by
      constructor
      · intro h
        exact h s rfl
      · rintro h _ ⟨⟩
        exact h
    rw [hunspoken, ← hempty, spoken?]
    split_ifs with h
    · exact iff_of_true rfl h
    · exact iff_of_false (fun h => nomatch h) h

theorem spoken?_eq_some_iff {raw : Option String} {v : String} :
    spoken? raw = some v ↔ Spoken raw v := by
  cases raw with
  | none => exact iff_of_false (fun h => nomatch h) (fun ⟨_, _, h, _⟩ => nomatch h)
  | some s =>
    have htrims : Trims s.toList v.toList ↔ trimmed s = v := by
      rw [trims_iff, ← toList_trimmed, String.toList_inj]
    have hspoken : Spoken (some s) v ↔ v ≠ "" ∧ trimmed s = v := by
      rw [← htrims]
      constructor
      · rintro ⟨hv, _, ⟨⟩, h⟩
        exact ⟨hv, h⟩
      · rintro ⟨hv, h⟩
        exact ⟨hv, s, rfl, h⟩
    rw [hspoken, spoken?]
    split_ifs with h
    · rw [String.isEmpty_iff] at h
      refine iff_of_false (fun h => nomatch h) ?_
      rintro ⟨hv, rfl⟩
      exact hv h
    · rw [String.isEmpty_iff] at h
      rw [Option.some_inj]
      constructor
      · rintro rfl
        exact ⟨h, rfl⟩
      · exact And.right

/-- A setting says nothing or something. -/
theorem unspoken_or_spoken (raw : Option String) : Unspoken raw ∨ ∃ v, Spoken raw v := by
  cases h : spoken? raw with
  | none => exact .inl (spoken?_eq_none_iff.1 h)
  | some v => exact .inr ⟨v, spoken?_eq_some_iff.1 h⟩

/-! ### The port -/

/-- What is said is one of the three: a number, too large a number or no number. -/
theorem exists_portReading (raw : Option String) : ∃ result, PortReading raw result := by
  rcases unspoken_or_spoken raw with h | ⟨v, h⟩
  · exact ⟨_, .default h⟩
  -- too large comes first: a numeral may be it, and what is no numeral may be it as well
  by_cases hlarge : 65535 < leadingValue v.toList
  · exact ⟨_, .tooLarge h hlarge⟩
  have hsmall : leadingValue v.toList ≤ 65535 := Nat.not_lt.1 hlarge
  by_cases hno : ∀ n, ¬ PlusNumeral v.toList n
  · exact ⟨_, .badDigit h hsmall hno⟩
  · obtain ⟨n, hn⟩ := not_forall_not.1 hno
    rw [leadingValue_of_plusNumeral hn] at hsmall
    have hport : (UInt16.ofNat n).toNat = n := UInt16.toNat_ofNat_of_lt (Nat.lt_succ_of_le hsmall)
    rw [← hport] at hn
    exact ⟨_, .number h hn⟩

theorem PortReading.readPort_eq {raw : Option String} {result : Except HostError UInt16}
    (h : PortReading raw result) : readPort raw = result := by
  cases h with
  | default h =>
    rw [readPort, spoken?_eq_none_iff.2 h]
    rfl
  | @number v port h hport =>
    have hread : readNumeral 65535 v.toList = .ok port.toNat :=
      readNumeral_eq_ok_iff.2 ⟨hport, Nat.le_of_lt_succ port.toNat_lt⟩
    simp only [readPort, spoken?_eq_some_iff.2 h, hread, UInt16.ofNat_toNat]
  | @tooLarge v h hlarge =>
    have hread : readNumeral 65535 v.toList = .error .tooLarge :=
      readNumeral_eq_tooLarge_iff.2 hlarge
    simp only [readPort, spoken?_eq_some_iff.2 h, hread, NumeralFault.message]
  | @badDigit v h hsmall hno =>
    have hne : v.toList ≠ [] := by
      intro hnil
      exact h.1 (String.toList_eq_nil_iff.1 hnil)
    have hread : readNumeral 65535 v.toList = .error .badDigit :=
      readNumeral_eq_badDigit_iff.2 ⟨hne, hsmall, hno⟩
    simp only [readPort, spoken?_eq_some_iff.2 h, hread, NumeralFault.message]

/-- **The port is read as `PortReading` says**, and in no other way. -/
theorem readPort_eq_iff {raw : Option String} {result : Except HostError UInt16} :
    readPort raw = result ↔ PortReading raw result := by
  constructor
  · rintro rfl
    obtain ⟨result, h⟩ := exists_portReading raw
    rwa [PortReading.readPort_eq h]
  · exact PortReading.readPort_eq

/-! ### The host and the port -/

/-- The reason why there is no host address names the setting and what it says. -/
theorem exists_spoken_of_readHost {raw : Option String} {e : HostError}
    (h : readHost raw = .error e) : ∃ v reason, Spoken raw v ∧ e = .badSetting "HOST" v reason := by
  rw [readHost] at h
  split at h
  · cases h
  · rename_i v hv
    split at h
    · cases h
    · cases h
      exact ⟨v, _, spoken?_eq_some_iff.1 hv, rfl⟩

theorem ofEnvironment_eq_ok_iff {env : Environment} {settings : HostSettings} :
    ofEnvironment env = .ok settings ↔
      ∃ ip, readHost (env.text? "HOST") = .ok ip ∧
        ∃ port, readPort (env.text? "PORT") = .ok port ∧
          ⟨.ofHost ip port, env.text? "WEBSITE_DIR"⟩ = settings := by
  simp only [ofEnvironment, bind_eq_ok_iff, Except.ok.injEq]

theorem followsHostAndPort_ofEnvironment (env : Environment) :
    FollowsHostAndPort (env.text? "HOST") (env.text? "PORT") (ofEnvironment env) where
  success := by
    constructor
    · rintro ⟨settings, h⟩
      obtain ⟨ip, hip, port, hport, -⟩ := ofEnvironment_eq_ok_iff.1 h
      exact ⟨⟨ip, hip⟩, port, hport⟩
    · rintro ⟨⟨ip, hip⟩, port, hport⟩
      exact ⟨_, ofEnvironment_eq_ok_iff.2 ⟨ip, hip, port, hport, rfl⟩⟩
  address := by
    intro settings h
    obtain ⟨ip, hip, port, hport, rfl⟩ := ofEnvironment_eq_ok_iff.1 h
    rw [SocketAddress.host_ofHost, SocketAddress.port_ofHost]
    exact ⟨hip, hport, rfl⟩
  hostFault := by
    intro e h
    refine ⟨?_, exists_spoken_of_readHost h⟩
    rw [ofEnvironment, h]
    rfl
  portFault := by
    intro ip e hip h
    rw [ofEnvironment, hip, h]
    rfl

end HostSettings

/-- **The host listens where it was told to.** The port is what `PortReading` says of any text or of
none. Of any two texts for host and port, in any environment that holds them, there come settings
with just these two, or the fault of the first of them that has one. -/
theorem settings_follow_host_and_port (host port : Option String) :
    (∀ result, HostSettings.readPort port = result ↔ PortReading port result) ∧
      (∃ env : Environment, env.text? "HOST" = host ∧ env.text? "PORT" = port) ∧
      ∀ env : Environment, env.text? "HOST" = host → env.text? "PORT" = port →
        FollowsHostAndPort host port (HostSettings.ofEnvironment env) := by
  refine ⟨fun result => HostSettings.readPort_eq_iff, ?_, ?_⟩
  · obtain ⟨withHost, hhost, -⟩ := Environment.exists_text?_eq ⟨[]⟩ "HOST" host
    obtain ⟨env, hport, hothers⟩ := withHost.exists_text?_eq "PORT" port
    exact ⟨env, (hothers "HOST" (by decide)).trans hhost, hport⟩
  · rintro env rfl rfl
    exact HostSettings.followsHostAndPort_ofEnvironment env

/-- A host name and a port that is too large: the host name is reported. The port would be refused
for its first digits, whatever stands behind them. -/
theorem settings_follow_host_and_port_both_malformed :
    ∃ env : Environment, env.text? "HOST" = some "localhost" ∧
      env.text? "PORT" = some " +0065536x" ∧
      HostSettings.ofEnvironment env =
        .error (.badSetting "HOST" "localhost" "invalid IP address syntax") ∧
      HostSettings.readPort (some " +0065536x") =
        .error (.badSetting "PORT" "+0065536x" "number too large to fit in target type") := by
  obtain ⟨hread, ⟨env, hhost, hport⟩, hfollows⟩ :=
    settings_follow_host_and_port (some "localhost") (some " +0065536x")
  have hmalformed : HostSettings.readHost (some "localhost") =
      .error (.badSetting "HOST" "localhost" "invalid IP address syntax") := by decide
  have hspoken : Spoken (some " +0065536x") "+0065536x" :=
    HostSettings.spoken?_eq_some_iff.1 (by decide)
  have hlarge : 65535 < leadingValue "+0065536x".toList := by decide
  refine ⟨env, hhost, hport, ?_, ?_⟩
  · exact ((hfollows env hhost hport).hostFault _ hmalformed).1
  · exact (hread _).2 (.tooLarge hspoken hlarge)

end JournalSite
