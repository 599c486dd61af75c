import JournalSite.Proofs.Host.HostAddress
import JournalSite.Proofs.Text.Unquoting

/-!
# The line that tells of a refused setting

Whoever sets `HOST` or `PORT` to something the host refuses is told so in a line, and a setting
may be any text: it may hold quote marks, line feeds, escapes, or a whole line that tells of
another setting. The line is one line all the same (`oneLine_message`), and says exactly what was
set: `readSetting?` takes it apart into the name of the setting, its value without the blanks
around it, and the reason why it is refused (`readSetting?_message`).

So a line tells of one name and one value only, and no value passes for another one:
**`refused_setting_is_told`**.
-/

namespace JournalSite

open Text

/-- **A setting that is refused**: its name, what it is set to, and why the host does not run. -/
inductive Refused : String → Option String → HostError → Prop where
  /-- The host address is refused. -/
  | host {raw : Option String} {e : HostError} :
    HostSettings.readHost raw = .error e → Refused "HOST" raw e
  /-- The port is refused. -/
  | port {raw : Option String} {e : HostError} :
    HostSettings.readPort raw = .error e → Refused "PORT" raw e

/-- **Reading the line back.** The name of the setting stands between the first space and the first
equals sign behind it, its value in quoted form behind the first quote mark. The reason follows
behind a colon and a space. -/
def readSetting? (line : String) : Option (String × String × String) :=
  let named := (line.toList.dropWhile (· ≠ ' ')).tail
  match readQuoted? (named.dropWhile (· ≠ '"')).tail with
  | none => none
  | some (value, behind) =>
    some (String.ofList (named.takeWhile (· ≠ '=')), String.ofList value,
      String.ofList (behind.drop 2))

namespace HostError

/-! ### The line -/

theorem toList_message_badSetting (name value reason : String) :
    (badSetting name value reason).message.toList =
      "invalid".toList ++ ' ' :: (name.toList ++
        '=' :: '"' :: (quotedChars value.toList ++ '"' :: ':' :: ' ' :: reason.toList)) := by
  have hmessage : (badSetting name value reason).message =
      "invalid " ++ name ++ "=" ++ quoted value ++ ": " ++ reason := rfl
  rw [hmessage]
  simp

/-- The line is one line if its name and its reason are, whatever the value is. -/
theorem oneLine_message {name reason : String} (hname : OneLine name.toList)
    (hreason : OneLine reason.toList) (value : String) :
    OneLine (badSetting name value reason).message.toList := by
  simp only [toList_message_badSetting, oneLine_append, oneLine_cons]
  exact ⟨by decide, by decide, hname, by decide, by decide, oneLine_quotedChars _, by decide,
    by decide, by decide, hreason⟩

/-- **The line is read back**, if its name holds neither an equals sign nor a quote mark. -/
theorem readSetting?_message {name : String} (hequals : '=' ∉ name.toList)
    (hquote : '"' ∉ name.toList) (value reason : String) :
    readSetting? (badSetting name value reason).message = some (name, value, reason) := by
  have hspace : ' ' ∉ "invalid".toList := by decide
  have hquote' : '"' ∉ name.toList ++ ['='] := by simp [hquote]
  have hbehind : ∀ cs, name.toList ++ '=' :: '"' :: cs = (name.toList ++ ['=']) ++ '"' :: cs := by
    simp
  simp only [readSetting?, toList_message_badSetting, dropWhile_append_cons hspace,
    List.tail_cons, takeWhile_append_cons hequals]
  rw [hbehind, dropWhile_append_cons hquote']
  simp only [List.tail_cons, readQuoted?_quotedChars, String.ofList_toList, List.drop_succ_cons,
    List.drop_zero]

end HostError

/-! ### Refused settings -/

namespace Refused

/-- A setting that is refused says something, and the fault tells what, for a reason in one
line. -/
theorem exists_badSetting {name : String} {raw : Option String} {e : HostError}
    (h : Refused name raw e) : ∃ value reason, Spoken raw value ∧
      e = .badSetting name value reason ∧ OneLine reason.toList := by
  cases h with
  | host h =>
    cases HostSettings.readHost_eq_iff.1 h with
    | malformed hspoken hno => exact ⟨_, _, hspoken, rfl, by decide⟩
  | port h =>
    cases HostSettings.readPort_eq_iff.1 h with
    | tooLarge hspoken hlarge => exact ⟨_, _, hspoken, rfl, by decide⟩
    | badDigit hspoken hsmall hno => exact ⟨_, _, hspoken, rfl, by decide⟩

/-- The name of a refused setting is one line and holds no mark by which it would be cut. -/
theorem name_clean {name : String} {raw : Option String} {e : HostError} (h : Refused name raw e) :
    OneLine name.toList ∧ '=' ∉ name.toList ∧ '"' ∉ name.toList := by
  cases h with
  | host h => decide
  | port h => decide

theorem oneLine_message {name : String} {raw : Option String} {e : HostError}
    (h : Refused name raw e) : OneLine e.message.toList := by
  obtain ⟨value, reason, -, rfl, hreason⟩ := h.exists_badSetting
  exact HostError.oneLine_message h.name_clean.1 hreason value

/-- What a refused setting says can be read in the line. -/
theorem readSetting?_message {name : String} {raw : Option String} {e : HostError}
    (h : Refused name raw e) : ∃ value reason, Spoken raw value ∧
      e = .badSetting name value reason ∧
      readSetting? e.message = some (name, value, reason) := by
  obtain ⟨value, reason, hspoken, rfl, -⟩ := h.exists_badSetting
  obtain ⟨-, hequals, hquote⟩ := h.name_clean
  exact ⟨value, reason, hspoken, rfl, HostError.readSetting?_message hequals hquote value reason⟩

end Refused

/-- **A refused setting is told in one line, and as it was set.** The line holds no control
character and no separator of lines or paragraphs. The name of the setting, what it says without the
blanks around it, and the reason are read back from it. So two settings that are refused in the same
line are the same setting, and say the same. -/
theorem refused_setting_is_told :
    (∀ (name : String) (raw : Option String) (e : HostError), Refused name raw e →
      OneLine e.message.toList ∧
        ∃ value reason, Spoken raw value ∧ e = .badSetting name value reason ∧
          readSetting? e.message = some (name, value, reason)) ∧
    ∀ (name name' : String) (raw raw' : Option String) (e e' : HostError),
      Refused name raw e → Refused name' raw' e' → e.message = e'.message →
        name = name' ∧ ∃ value, Spoken raw value ∧ Spoken raw' value := by
  constructor
  · intro name raw e h
    exact ⟨h.oneLine_message, h.readSetting?_message⟩
  · intro name name' raw raw' e e' h h' hmessage
    obtain ⟨value, reason, hspoken, -, hread⟩ := h.readSetting?_message
    obtain ⟨value', reason', hspoken', -, hread'⟩ := h'.readSetting?_message
    rw [hmessage, hread'] at hread
    cases hread
    exact ⟨rfl, value, hspoken, hspoken'⟩

/-- A host that holds a line feed and looks like another setting behind it, once with blanks around
it. The line feed and the quote marks are escaped, so what looks like a setting of the port is read
back as a part of the host. -/
theorem refused_setting_is_told_forged :
    ∃ e e' : HostError, Refused "HOST" (some " \"\nPORT=\"0\t") e ∧
      Refused "HOST" (some "\"\nPORT=\"0") e' ∧ e.message = e'.message ∧
      e.message = "invalid HOST=\"\\\"\\nPORT=\\\"0\": invalid IP address syntax" ∧
      readSetting? e.message = some ("HOST", "\"\nPORT=\"0", "invalid IP address syntax") ∧
      ∃ value, Spoken (some " \"\nPORT=\"0\t") value ∧ Spoken (some "\"\nPORT=\"0") value := by
  have hblanks : Refused "HOST" (some " \"\nPORT=\"0\t")
      (.badSetting "HOST" "\"\nPORT=\"0" "invalid IP address syntax") := .host (by decide)
  have hplain : Refused "HOST" (some "\"\nPORT=\"0")
      (.badSetting "HOST" "\"\nPORT=\"0" "invalid IP address syntax") := .host (by decide)
  obtain ⟨-, value, reason, -, he, hread⟩ := refused_setting_is_told.1 _ _ _ hblanks
  cases he
  exact ⟨_, _, hblanks, hplain, rfl, by decide +kernel, hread,
    (refused_setting_is_told.2 _ _ _ _ _ _ hblanks hplain rfl).2⟩

end JournalSite
