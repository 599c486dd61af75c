import JournalSite.Network.Address
import JournalSite.Proofs.Network.IPv6Grammar

/-!
# Network addresses in writing

An address in writing is an IPv4 or an IPv6 address by its grammar (`AddressText`). No text is
both, as there is a colon in the one and none in the other. So it does not matter which is
tried first, and the reader takes a text for an address exactly when it is one
(`IPAddress.ofChars?_eq_some_iff`).

An address is written in one of its forms. What is chosen for an IPv6 address is an IPv4
address behind its carrier, or all groups, or the groups around the longest run of zeros,
which is a part of the groups wherever it is (`exists_longestZeros_split`). Each is in the
grammar, so that **an address is read as it was written** (`addressText_chars`).
-/

namespace JournalSite

open Text

/-- **Addresses in writing**, of either version. -/
inductive AddressText : List Char → IPAddress → Prop where
  /-- An IPv4 address. -/
  | v4 {cs : List Char} {ip : IPv4} : IPv4Text cs ip → AddressText cs (.v4 ip)
  /-- An IPv6 address. -/
  | v6 {cs : List Char} {ip : IPv6} : IPv6Text cs ip → AddressText cs (.v6 ip)

/-! ### Reading -/

/-- A text is read as an address exactly when it is one by the grammar. -/
theorem IPAddress.ofChars?_eq_some_iff {cs : List Char} {ip : IPAddress} :
    ofChars? cs = some ip ↔ AddressText cs ip := by
  unfold ofChars?
  constructor
  · intro h
    split at h
    · rename_i ip' hip
      cases h
      exact .v4 (IPv4.ofChars?_eq_some_iff.1 hip)
    · obtain ⟨ip', hip, rfl⟩ := Option.map_eq_some_iff.1 h
      exact .v6 (IPv6.ofChars?_eq_some_iff.1 hip)
  · intro h
    cases h with
    | v4 hip => rw [IPv4.ofChars?_eq_some_iff.2 hip]
    | v6 hip =>
      have hnone : IPv4.ofChars? cs = none := by
        rw [Option.eq_none_iff_forall_ne_some]
        intro ip' hip'
        exact (IPv4.ofChars?_eq_some_iff.1 hip').colon_not_mem hip.colon_mem
      rw [hnone, IPv6.ofChars?_eq_some_iff.2 hip]
      rfl

/-! ### The characters of an address -/

/-- A text of the characters from the dot to the letter `f`. Digits and colons are among them, and
no blank is. -/
def FromDotToF (cs : List Char) : Prop := ∀ c ∈ cs, '.'.toNat ≤ c.toNat ∧ c.toNat ≤ 'f'.toNat

theorem FromDotToF.append_cons {cs rest : List Char} {c : Char} (h : FromDotToF cs)
    (hc : '.'.toNat ≤ c.toNat ∧ c.toNat ≤ 'f'.toNat) (hrest : FromDotToF rest) :
    FromDotToF (cs ++ c :: rest) :=
  List.forall_mem_append.2 ⟨h, List.forall_mem_cons.2 ⟨hc, hrest⟩⟩

theorem FromDotToF.isBlank {cs : List Char} (h : FromDotToF cs) : ∀ c ∈ cs, isBlank c = false := by
  intro c hc
  obtain ⟨hfirst, hlast⟩ := h c hc
  simp only [Char.reduceToNat] at hfirst hlast
  exact isBlank_of_visible (by omega) (by omega)

theorem OctetText.fromDotToF {cs : List Char} {octet : UInt8} (h : OctetText cs octet) :
    FromDotToF cs := by
  intro c hc
  have hdigit := (isDigit_iff_toNat c).1 (h.numeral.isDigit c hc)
  simp only [Char.reduceToNat]
  omega

theorem IPv4Text.fromDotToF {cs : List Char} {ip : IPv4} (h : IPv4Text cs ip) :
    FromDotToF cs := by
  obtain ⟨ha, hb, hc, hd⟩ := h
  exact ha.fromDotToF.append_cons (by decide) (hb.fromDotToF.append_cons (by decide)
    (hc.fromDotToF.append_cons (by decide) hd.fromDotToF))

theorem GroupText.fromDotToF {cs : List Char} {group : UInt16} (h : GroupText cs group) :
    FromDotToF cs := by
  intro c hc
  obtain ⟨hfirst, hlast⟩ := h.numeral.bounds_of_mem c hc
  exact ⟨Nat.le_trans (by decide) hfirst, hlast⟩

theorem EndText.fromDotToF {cs : List Char} {groups : List UInt16} (h : EndText cs groups) :
    FromDotToF cs := by
  induction h with
  | last hgroup => exact hgroup.fromDotToF
  | ipv4 hip => exact hip.fromDotToF
  | more hgroup _ ih => exact hgroup.fromDotToF.append_cons (by decide) ih

theorem Missing.imp {part part' : List Char → List UInt16 → Prop} {cs : List Char}
    {groups : List UInt16} (himp : part cs groups → part' cs groups)
    (h : Missing part cs groups) : Missing part' cs groups :=
  h.imp_right himp

theorem Missing.fromDotToF {cs : List Char} {groups : List UInt16}
    (h : Missing EndText cs groups) : FromDotToF cs := by
  rcases h with ⟨rfl, -⟩ | hend
  · exact fun c hc => absurd hc List.not_mem_nil
  · exact hend.fromDotToF

theorem AddressText.fromDotToF {cs : List Char} {ip : IPAddress} (h : AddressText cs ip) :
    FromDotToF cs := by
  cases h with
  | v4 hip => exact hip.fromDotToF
  | v6 hip =>
    cases hip with
    | full hend => exact hend.fromDotToF
    | gap hhead htail _ _ =>
      have hbefore := (hhead.imp GroupsText.endText).fromDotToF
      exact hbefore.append_cons (by decide)
        (List.forall_mem_cons.2 ⟨by decide, htail.fromDotToF⟩)

theorem AddressText.ne_nil {cs : List Char} {ip : IPAddress} (h : AddressText cs ip) :
    cs ≠ [] := by
  cases h with
  | v4 hip => exact List.ne_nil_of_mem hip.dot_mem
  | v6 hip => exact List.ne_nil_of_mem hip.colon_mem

/-! ### Writing -/

namespace IPv6

theorem groupText_hexDigits (group : UInt16) : GroupText (hexDigits group.toNat) group where
  numeral := hexNumeral_toDigits group.toNat
  length_le := by
    have hlt := group.toNat_lt
    rw [hexDigits, Nat.length_toDigits_le_iff (by decide) (by decide)]
    omega

theorem groupsText_joined {groups : List UInt16} (hne : groups ≠ []) :
    GroupsText (joined groups) groups := by
  induction groups with
  | nil => exact absurd rfl hne
  | cons group groups ih =>
    cases groups with
    | nil =>
      rw [joined, List.map_singleton, List.intercalate_singleton]
      exact .last (groupText_hexDigits group)
    | cons next groups =>
      have hrest := ih (List.cons_ne_nil next groups)
      rw [joined, List.map_cons] at hrest ⊢
      rw [List.map_cons, List.intercalate_cons_cons, List.append_assoc]
      exact .more (groupText_hexDigits group) hrest

theorem missing_joined (groups : List UInt16) : Missing GroupsText (joined groups) groups := by
  by_cases hne : groups = []
  · subst hne
    exact .inl ⟨rfl, rfl⟩
  · exact .inr (groupsText_joined hne)

/-- The longest run of zeros is a part of the groups, at the place where it is said to begin. -/
theorem exists_longestZeros_split (groups : List UInt16) :
    ∃ before after, before.length = (longestZeros groups).1 ∧
      groups = before ++ (List.replicate (longestZeros groups).2 0 ++ after) := by
  induction groups with
  | nil => exact ⟨[], [], rfl, rfl⟩
  | cons group rest ih =>
    obtain ⟨before, after, hlength, hrest⟩ := ih
    simp only [longestZeros]
    split_ifs with hhere
    · -- the zeros that the groups begin with
      have hzeros : (group :: rest).takeWhile (· == 0) =
          List.replicate (leadingZeros (group :: rest)) 0 := by
        refine List.eq_replicate_iff.2 ⟨rfl, fun g hg => ?_⟩
        simpa using List.all_eq_true.1 List.all_takeWhile g hg
      refine ⟨[], (group :: rest).dropWhile (· == 0), rfl, ?_⟩
      rw [List.nil_append, ← hzeros, List.takeWhile_append_dropWhile]
    · refine ⟨group :: before, after, congrArg (· + 1) hlength, ?_⟩
      rw [List.cons_append, ← hrest]

/-- Groups as they are written, with a gap for zeros or without one. -/
theorem ipv6Text_groupChars (ip : IPv6) : IPv6Text (groupChars ip.groups) ip := by
  obtain ⟨before, after, hlength, hgroups⟩ := exists_longestZeros_split ip.groups
  unfold groupChars
  generalize longestZeros ip.groups = run at hlength hgroups ⊢
  obtain ⟨start, zeros⟩ := run
  simp only at hlength hgroups ⊢
  split_ifs with hzeros
  · have htake : ip.groups.take start = before := by
      rw [hgroups, ← hlength, List.take_left]
    have hdrop : ip.groups.drop (start + zeros) = after := by
      rw [hgroups, ← List.append_assoc]
      exact List.drop_left' (by simp [hlength])
    rw [htake, hdrop]
    exact .gap (missing_joined before) ((missing_joined after).imp GroupsText.endText)
      (Nat.lt_of_succ_lt hzeros) hgroups
  · have hne : ip.groups ≠ [] := List.ne_nil_of_length_pos (by rw [ip.length_groups]; decide)
    exact .full (groupsText_joined hne).endText

end IPv6

theorem IPv4.groups_ofGroups (high low : UInt16) :
    (IPv4.ofGroups high low).groups = [high, low] := by
  have hgroup : ∀ group : UInt16,
      (group / 256).toUInt8.toUInt16 * 256 + (group % 256).toUInt8.toUInt16 = group := by
    intro group
    have hlt := group.toNat_lt
    rw [← UInt16.toNat_inj]
    simp only [UInt16.toUInt16_toUInt8, UInt16.toNat_add, UInt16.toNat_mul, UInt16.toNat_mod,
      UInt16.toNat_div, UInt16.reduceToNat, Nat.reducePow, dvd_refl, Nat.mod_mod_of_dvd,
      Nat.mod_add_mod]
    omega
  rw [IPv4.groups, IPv4.ofGroups, hgroup, hgroup]

theorem ipv6Text_chars (ip : IPv6) : IPv6Text ip.chars ip := by
  unfold IPv6.chars
  split
  · rename_i high low hlast
    split_ifs with hcarrier
    · have hffff : GroupText "ffff".toList 0xFFFF := IPv6.groupText_hexDigits 0xFFFF
      have hend := EndText.more hffff (.ipv4 (ipv4Text_chars (IPv4.ofGroups high low)))
      rw [IPv4.groups_ofGroups] at hend
      have hgroups : ip.groups = [] ++ (List.replicate 5 0 ++ [0xFFFF, high, low]) := by
        rw [← List.take_append_drop 6 ip.groups, hcarrier, hlast]
        rfl
      exact .gap (.inl ⟨rfl, rfl⟩) (.inr hend) (by decide) hgroups
    · exact IPv6.ipv6Text_groupChars ip
  · exact IPv6.ipv6Text_groupChars ip

/-- **An address as it is written** is one by the grammar. -/
theorem addressText_chars (ip : IPAddress) : AddressText ip.chars ip := by
  cases ip with
  | v4 ip => exact .v4 (ipv4Text_chars ip)
  | v6 ip => exact .v6 (ipv6Text_chars ip)

end JournalSite
