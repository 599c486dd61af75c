import JournalSite.Host.Log
import JournalSite.Proofs.Host.Port
import JournalSite.Proofs.Network.AddressText

/-!
# The host address is the one that was asked for

`HostReading` says what comes of the setting `HOST`, without reading it: all interfaces if
nothing is said but blanks; the address, if what is said is an IPv4 or an IPv6 address by its
grammar; else a fault that tells what was said. The host gives exactly that
(`readHost_eq_iff`), so no name, no part of an address and no address with something behind it
is taken for an address.

The host writes the address it was given into its log, and into the reason for which it ends
if it cannot take the address (`message_cannotBind`, `text_listening`). Whoever copies it from
there and sets `HOST` to it, with blanks around it or none, has set the same address:
**`host_is_the_address_set`**.
-/

namespace JournalSite

open Text

/-- **What comes of the setting `HOST`.** -/
inductive HostReading (raw : Option String) : Except HostError IPAddress → Prop where
  /-- All interfaces, if nothing is said. -/
  | default (h : Unspoken raw) : HostReading raw (.ok (.v4 ⟨0, 0, 0, 0⟩))
  /-- The address that is said. -/
  | address {v : String} {ip : IPAddress} (h : Spoken raw v) (hip : AddressText v.toList ip) :
    HostReading raw (.ok ip)
  /-- A fault, if what is said is no address. -/
  | malformed {v : String} (h : Spoken raw v) (hno : ∀ ip, ¬ AddressText v.toList ip) :
    HostReading raw (.error (.badSetting "HOST" v "invalid IP address syntax"))

/-- The host part of a socket address in writing: the address, in brackets if it has colons. -/
def socketHost : IPAddress → String
  | .v4 ip => (IPAddress.v4 ip).text
  | .v6 ip => "[" ++ (IPAddress.v6 ip).text ++ "]"

namespace HostSettings

/-! ### Reading -/

/-- What is said is an address or it is none. -/
theorem exists_hostReading (raw : Option String) : ∃ result, HostReading raw result := by
  rcases unspoken_or_spoken raw with h | ⟨v, h⟩
  · exact ⟨_, .default h⟩
  by_cases hno : ∀ ip, ¬ AddressText v.toList ip
  · exact ⟨_, .malformed h hno⟩
  · obtain ⟨ip, hip⟩ := not_forall_not.1 hno
    exact ⟨_, .address h hip⟩

theorem HostReading.readHost_eq {raw : Option String} {result : Except HostError IPAddress}
    (h : HostReading raw result) : readHost raw = result := by
  cases h with
  | default h =>
    rw [readHost, spoken?_eq_none_iff.2 h]
    rfl
  | address h hip =>
    simp only [readHost, spoken?_eq_some_iff.2 h, IPAddress.ofChars?_eq_some_iff.2 hip]
  | @malformed v h hno =>
    have hnone : IPAddress.ofChars? v.toList = none := by
      rw [Option.eq_none_iff_forall_ne_some]
      intro ip hip
      exact hno ip (IPAddress.ofChars?_eq_some_iff.1 hip)
    simp only [readHost, spoken?_eq_some_iff.2 h, hnone]

/-- **The host address is read as `HostReading` says**, and in no other way. -/
theorem readHost_eq_iff {raw : Option String} {result : Except HostError IPAddress} :
    readHost raw = result ↔ HostReading raw result := by
  constructor
  · rintro rfl
    obtain ⟨result, h⟩ := exists_hostReading raw
    rwa [HostReading.readHost_eq h]
  · exact HostReading.readHost_eq

/-! ### Reading what was written -/

/-- An address with blanks around it says the address: no blank is a part of it. -/
theorem spoken_address (ip : IPAddress) {before after : String} (hbefore : BlankText before.toList)
    (hafter : BlankText after.toList) : Spoken (some (before ++ ip.text ++ after)) ip.text := by
  have htext : ip.text.toList = ip.chars := String.toList_ofList
  have hblank := (addressText_chars ip).fromDotToF.isBlank
  rw [← htext] at hblank
  refine ⟨?_, _, rfl, ⟨_, _, hbefore, hafter, by simp⟩, ?_, ?_⟩
  · rw [Ne, ← String.toList_eq_nil_iff, htext]
    exact (addressText_chars ip).ne_nil
  · intro c hc
    exact hblank c (List.mem_of_mem_head? hc)
  · intro c hc
    exact hblank c (List.mem_of_mem_getLast? hc)

theorem readHost_text (ip : IPAddress) {before after : String} (hbefore : BlankText before.toList)
    (hafter : BlankText after.toList) : readHost (some (before ++ ip.text ++ after)) = .ok ip := by
  refine readHost_eq_iff.2 (.address (spoken_address ip hbefore hafter) ?_)
  rw [IPAddress.text, String.toList_ofList]
  exact addressText_chars ip

end HostSettings

/-! ### Where the address is written -/

/-- A socket address in writing shows the address of its host as it is written. -/
theorem SocketAddress.text_ofHost (ip : IPAddress) (port : UInt16) :
    (ofHost ip port).text = socketHost ip ++ ":" ++ decimal port.toNat := by
  rw [← String.toList_inj]
  cases ip with
  | v4 ip => simp [ofHost, text, chars, socketHost, IPAddress.text, IPAddress.chars, decimal]
  | v6 ip => simp [ofHost, text, chars, socketHost, IPAddress.text, IPAddress.chars, decimal]

/-- The reason for which an address cannot be taken shows the address. -/
theorem HostError.message_cannotBind (ip : IPAddress) (port : UInt16) (cause : String) :
    (cannotBind (.ofHost ip port) cause).message =
      "failed to bind " ++ socketHost ip ++ ":" ++ decimal port.toNat ++ ": " ++ cause := by
  have hmessage : (cannotBind (.ofHost ip port) cause).message =
      "failed to bind " ++ (SocketAddress.ofHost ip port).text ++ ": " ++ cause := rfl
  rw [hmessage, SocketAddress.text_ofHost]
  simp only [String.append_assoc]

/-- The line of the log that tells of the address shows the address. -/
theorem LogEvent.text_listening (ip : IPAddress) (port : UInt16) :
    (listening (.ofHost ip port)).text =
      "INFO daybook: daybook listening addr=" ++ socketHost ip ++ ":" ++ decimal port.toNat := by
  rw [← String.toList_inj]
  simp [text, listening, LogLevel.name, String.join, SocketAddress.text_ofHost]

/-- **The host address is the one that was set.** It is what `HostReading` says of any text or of
none: all interfaces if there are blanks only, the address if what stands between blanks is an IPv4
or an IPv6 address by the grammar, and else the fault. Every address, as it is written in the reason
for which it cannot be taken and in the log that tells of it, is read as this address, whatever
blanks stand around it. -/
theorem host_is_the_address_set :
    (∀ (raw : Option String) (result : Except HostError IPAddress),
      HostSettings.readHost raw = result ↔ HostReading raw result) ∧
    (∀ (ip : IPAddress) (before after : String), BlankText before.toList →
      BlankText after.toList → HostSettings.readHost (some (before ++ ip.text ++ after)) = .ok ip) ∧
    ∀ (ip : IPAddress) (port : UInt16),
      (∀ cause, (HostError.cannotBind (.ofHost ip port) cause).message =
        "failed to bind " ++ socketHost ip ++ ":" ++ decimal port.toNat ++ ": " ++ cause) ∧
      (LogEvent.listening (.ofHost ip port)).text =
        "INFO daybook: daybook listening addr=" ++ socketHost ip ++ ":" ++ decimal port.toNat := by
  refine ⟨fun raw result => HostSettings.readHost_eq_iff, ?_, fun ip port => ⟨fun cause => ?_, ?_⟩⟩
  · intro ip before after hbefore hafter
    exact HostSettings.readHost_text ip hbefore hafter
  · exact HostError.message_cannotBind ip port cause
  · exact LogEvent.text_listening ip port

/-- An address that carries an IPv4 address, with a wide blank in front and a line feed behind. -/
theorem host_is_the_address_set_carrier :
    BlankText "\u3000".toList ∧ BlankText "\n".toList ∧
      (IPAddress.v6 ⟨[0, 0, 0, 0, 0, 0xFFFF, 0x7F00, 1], rfl⟩).text = "::ffff:127.0.0.1" ∧
      HostSettings.readHost (some ("\u3000" ++ "::ffff:127.0.0.1" ++ "\n")) =
        .ok (.v6 ⟨[0, 0, 0, 0, 0, 0xFFFF, 0x7F00, 1], rfl⟩) := by
  have hbefore : BlankText "\u3000".toList := blankText_singleton (by decide)
  have hafter : BlankText "\n".toList := blankText_singleton (by decide)
  have htext : (IPAddress.v6 ⟨[0, 0, 0, 0, 0, 0xFFFF, 0x7F00, 1], rfl⟩).text =
      "::ffff:127.0.0.1" := by decide
  refine ⟨hbefore, hafter, htext, ?_⟩
  rw [← htext]
  exact host_is_the_address_set.2.1 _ _ _ hbefore hafter

end JournalSite
