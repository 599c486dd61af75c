import JournalSite.Network.IPv6
import JournalSite.Proofs.Network.IPv4Grammar
import JournalSite.Proofs.Text.Hexadecimal

/-!
# The grammar of IPv6 addresses

Which texts are IPv6 addresses is said here without a reader (`IPv6Text`). A group is one to
four hexadecimal digits (`GroupText`), groups have a colon between each two (`GroupsText`), and
the last two groups of a text may be an IPv4 address (`EndText`). An address is eight groups,
or fewer with `::` in one place for the groups that are left out, which are zero; there is one
of them at least.

The reader first cuts a text at the first `::` and then each part at its colons, and has to
tell a group from an IPv4 address at the end. It takes a text for an address exactly when the
grammar does (**`IPv6.ofChars?_eq_some_iff`**): no group holds a colon, so a `::` is where the
grammar has it, and no group holds a dot, so it is no IPv4 address.
-/

namespace JournalSite

open Text

/-- **Groups in writing**: one to four hexadecimal digits. -/
structure GroupText (cs : List Char) (group : UInt16) : Prop where
  /-- The digits denote the group. -/
  numeral : HexNumeral cs group.toNat
  /-- There are four of them at most. -/
  length_le : cs.length ≤ 4

/-- One or more groups, with a colon between each two. -/
inductive GroupsText : List Char → List UInt16 → Prop where
  /-- One group. -/
  | last {cs : List Char} {group : UInt16} : GroupText cs group → GroupsText cs [group]
  /-- A group in front of others. -/
  | more {cs rest : List Char} {group : UInt16} {groups : List UInt16} : GroupText cs group →
      GroupsText rest groups → GroupsText (cs ++ ':' :: rest) (group :: groups)

/-- The groups at the end of an address, where the last two may be an IPv4 address. -/
inductive EndText : List Char → List UInt16 → Prop where
  /-- One group. -/
  | last {cs : List Char} {group : UInt16} : GroupText cs group → EndText cs [group]
  /-- An IPv4 address, which fills two groups. -/
  | ipv4 {cs : List Char} {ip : IPv4} : IPv4Text cs ip → EndText cs ip.groups
  /-- A group in front of such an end. -/
  | more {cs rest : List Char} {group : UInt16} {groups : List UInt16} : GroupText cs group →
      EndText rest groups → EndText (cs ++ ':' :: rest) (group :: groups)

/-- Groups in writing that may also be missing. -/
def Missing (part : List Char → List UInt16 → Prop) (cs : List Char) (groups : List UInt16) :
    Prop :=
  (cs = [] ∧ groups = []) ∨ part cs groups

/-- **The grammar of IPv6 addresses.** -/
inductive IPv6Text : List Char → IPv6 → Prop where
  /-- All eight groups. -/
  | full {cs : List Char} {ip : IPv6} : EndText cs ip.groups → IPv6Text cs ip
  /-- Groups before and after the `::` that stands for one or more zero groups. -/
  | gap {before after : List Char} {head tail : List UInt16} {zeros : Nat} {ip : IPv6} :
      Missing GroupsText before head → Missing EndText after tail → 0 < zeros →
      ip.groups = head ++ (List.replicate zeros 0 ++ tail) →
      IPv6Text (before ++ ':' :: ':' :: after) ip

/-! ### Groups -/

theorem GroupText.ne_nil {cs : List Char} {group : UInt16} (h : GroupText cs group) : cs ≠ [] :=
  h.numeral.ne_nil

theorem GroupText.colon_not_mem {cs : List Char} {group : UInt16} (h : GroupText cs group) :
    ':' ∉ cs :=
  h.numeral.not_mem (by decide)

theorem GroupText.dot_not_mem {cs : List Char} {group : UInt16} (h : GroupText cs group) :
    '.' ∉ cs :=
  h.numeral.not_mem (by decide)

theorem IPv4Text.colon_not_mem {cs : List Char} {ip : IPv4} (h : IPv4Text cs ip) : ':' ∉ cs :=
  h.not_mem (by decide) (by decide)

theorem EndText.ne_nil {cs : List Char} {groups : List UInt16} (h : EndText cs groups) :
    cs ≠ [] := by
  cases h with
  | last hgroup => exact hgroup.ne_nil
  | ipv4 hip => exact List.ne_nil_of_mem hip.dot_mem
  | more _ _ => simp

/-- Groups alone may stand at the end of an address. -/
theorem GroupsText.endText {cs : List Char} {groups : List UInt16} (h : GroupsText cs groups) :
    EndText cs groups := by
  induction h with
  | last hgroup => exact .last hgroup
  | more hgroup _ ih => exact .more hgroup ih

theorem GroupsText.ne_nil {cs : List Char} {groups : List UInt16} (h : GroupsText cs groups) :
    cs ≠ [] :=
  h.endText.ne_nil

/-- What stands at the end of an address does not begin with a colon. -/
theorem EndText.append_ne_colon_cons {cs : List Char} {groups : List UInt16}
    (h : EndText cs groups) (rest rest' : List Char) : cs ++ rest ≠ ':' :: rest' := by
  have hpiece : ∀ piece : List Char, piece ≠ [] → ':' ∉ piece →
      ∀ rest, piece ++ rest ≠ ':' :: rest' := by
    intro piece hne hcolon rest heq
    obtain ⟨c, piece, rfl⟩ := List.exists_cons_of_ne_nil hne
    cases heq
    exact hcolon List.mem_cons_self
  cases h with
  | last hgroup => exact hpiece _ hgroup.ne_nil hgroup.colon_not_mem rest
  | ipv4 hip => exact hpiece _ (List.ne_nil_of_mem hip.dot_mem) hip.colon_not_mem rest
  | more hgroup _ =>
    rw [List.append_assoc]
    exact hpiece _ hgroup.ne_nil hgroup.colon_not_mem _

namespace IPv6

theorem group?_eq_some_iff {cs : List Char} {group : UInt16} :
    group? cs = some group ↔ GroupText cs group := by
  unfold group?
  constructor
  · intro h
    split_ifs at h with hsize
    obtain ⟨hne, hlength⟩ := hsize
    obtain ⟨n, hn, rfl⟩ := Option.map_eq_some_iff.1 h
    rw [hexNumber?_eq_some_iff hne] at hn
    have hlt : n < 65536 := calc
      n < 16 ^ cs.length := hn.lt_pow_length
      _ ≤ 16 ^ 4 := Nat.pow_le_pow_right (by decide) hlength
    have hvalue : (UInt16.ofNat n).toNat = n := UInt16.toNat_ofNat_of_lt hlt
    rw [← hvalue] at hn
    exact ⟨hn, hlength⟩
  · rintro ⟨hnumeral, hlength⟩
    rw [if_pos ⟨hnumeral.ne_nil, hlength⟩,
      (hexNumber?_eq_some_iff hnumeral.ne_nil).2 hnumeral, Option.map_some, UInt16.ofNat_toNat]

/-- The last piece is an IPv4 address or a group; it cannot be both, as a group holds no dot. -/
theorem endGroups?_singleton_iff {cs : List Char} {groups : List UInt16} :
    endGroups? [cs] = some groups ↔
      (∃ ip, IPv4Text cs ip ∧ ip.groups = groups) ∨
        ∃ group, GroupText cs group ∧ [group] = groups := by
  rw [endGroups?]
  constructor
  · intro h
    split at h
    · rename_i ip hip
      exact .inl ⟨ip, IPv4.ofChars?_eq_some_iff.1 hip, Option.some_inj.1 h⟩
    · obtain ⟨group, hgroup, hgroups⟩ := Option.map_eq_some_iff.1 h
      exact .inr ⟨group, group?_eq_some_iff.1 hgroup, hgroups⟩
  · rintro (⟨ip, hip, rfl⟩ | ⟨group, hgroup, rfl⟩)
    · rw [IPv4.ofChars?_eq_some_iff.2 hip]
    · rw [IPv4.ofChars?_eq_none hgroup.dot_not_mem, group?_eq_some_iff.2 hgroup]
      rfl

theorem endGroups?_cons_iff {cs : List Char} {pieces : List (List Char)} {groups : List UInt16}
    (hne : pieces ≠ []) :
    endGroups? (cs :: pieces) = some groups ↔
      ∃ group, GroupText cs group ∧
        ∃ rest, endGroups? pieces = some rest ∧ group :: rest = groups := by
  rw [endGroups?.eq_3 cs pieces hne]
  simp only [Option.bind_eq_bind, Option.bind_eq_some_iff, group?_eq_some_iff, Option.some_inj]

/-! ### Pieces between colons -/

theorem groupsText_of_mapM {pieces : List (List Char)} {groups : List UInt16} (hne : pieces ≠ [])
    (h : pieces.mapM group? = some groups) : GroupsText ([':'].intercalate pieces) groups := by
  induction pieces generalizing groups with
  | nil => exact absurd rfl hne
  | cons cs pieces ih =>
    simp only [List.mapM_cons, Option.bind_eq_bind, Option.bind_eq_some_iff, group?_eq_some_iff,
      Option.pure_def, Option.some_inj] at h
    obtain ⟨group, hgroup, rest, hrest, rfl⟩ := h
    cases pieces with
    | nil =>
      cases hrest
      rw [List.intercalate_singleton]
      exact .last hgroup
    | cons next pieces =>
      rw [List.intercalate_cons_cons, List.append_assoc]
      exact .more hgroup (ih (List.cons_ne_nil next pieces) hrest)

theorem mapM_of_groupsText {cs : List Char} {groups : List UInt16} (h : GroupsText cs groups) :
    (cs.splitOn ':').mapM group? = some groups := by
  induction h with
  | last hgroup =>
    rw [List.splitOn_eq_singleton hgroup.colon_not_mem, List.mapM_cons,
      group?_eq_some_iff.2 hgroup]
    rfl
  | more hgroup _ ih =>
    rw [List.splitOn_append_cons_self_of_not_mem hgroup.colon_not_mem, List.mapM_cons,
      group?_eq_some_iff.2 hgroup, ih]
    rfl

theorem endText_of_endGroups? {pieces : List (List Char)} {groups : List UInt16}
    (hne : pieces ≠ []) (h : endGroups? pieces = some groups) :
    EndText ([':'].intercalate pieces) groups := by
  induction pieces generalizing groups with
  | nil => exact absurd rfl hne
  | cons cs pieces ih =>
    cases pieces with
    | nil =>
      rw [List.intercalate_singleton]
      rcases endGroups?_singleton_iff.1 h with ⟨ip, hip, rfl⟩ | ⟨group, hgroup, rfl⟩
      · exact .ipv4 hip
      · exact .last hgroup
    | cons next pieces =>
      have hpieces := List.cons_ne_nil next pieces
      obtain ⟨group, hgroup, rest, hrest, rfl⟩ := (endGroups?_cons_iff hpieces).1 h
      rw [List.intercalate_cons_cons, List.append_assoc]
      exact .more hgroup (ih hpieces hrest)

theorem endGroups?_of_endText {cs : List Char} {groups : List UInt16} (h : EndText cs groups) :
    endGroups? (cs.splitOn ':') = some groups := by
  induction h with
  | last hgroup =>
    rw [List.splitOn_eq_singleton hgroup.colon_not_mem]
    exact endGroups?_singleton_iff.2 (.inr ⟨_, hgroup, rfl⟩)
  | ipv4 hip =>
    rw [List.splitOn_eq_singleton hip.colon_not_mem]
    exact endGroups?_singleton_iff.2 (.inl ⟨_, hip, rfl⟩)
  | more hgroup _ ih =>
    rw [List.splitOn_append_cons_self_of_not_mem hgroup.colon_not_mem]
    exact (endGroups?_cons_iff (List.splitOn_ne_nil ':' _)).2 ⟨_, hgroup, _, ih, rfl⟩

/-- A part between gaps is read piece by piece, if there is anything of it. -/
theorem read_numerals_iff (read : List (List Char) → Option (List UInt16))
    {part : List Char → List UInt16 → Prop} (hnil : read [] = some [])
    (hpart : ∀ groups, ¬ part [] groups)
    (hread : ∀ cs groups, read (cs.splitOn ':') = some groups ↔ part cs groups)
    {cs : List Char} {groups : List UInt16} :
    read (numerals cs) = some groups ↔ Missing part cs groups := by
  unfold numerals Missing
  split_ifs with hempty
  · rw [List.isEmpty_iff] at hempty
    subst hempty
    simp [hnil, hpart, eq_comm]
  · rw [List.isEmpty_iff] at hempty
    simp [hread, hempty]

/-- The pieces in front of a gap are groups, if there are any. -/
theorem mapM_numerals_iff {cs : List Char} {groups : List UInt16} :
    (numerals cs).mapM group? = some groups ↔ Missing GroupsText cs groups := by
  refine read_numerals_iff (List.mapM group?) rfl ?_ fun cs groups =>
    ⟨fun h => ?_, mapM_of_groupsText⟩
  · intro groups h
    exact h.ne_nil rfl
  · have htext := groupsText_of_mapM (List.splitOn_ne_nil ':' cs) h
    rwa [List.intercalate_splitOn] at htext

/-- The pieces at the end of an address are groups, or an IPv4 address at last, if there are any. -/
theorem endGroups?_numerals_iff {cs : List Char} {groups : List UInt16} :
    endGroups? (numerals cs) = some groups ↔ Missing EndText cs groups := by
  refine read_numerals_iff endGroups? rfl ?_ fun cs groups =>
    ⟨fun h => ?_, endGroups?_of_endText⟩
  · intro groups h
    exact h.ne_nil rfl
  · have htext := endText_of_endGroups? (List.splitOn_ne_nil ':' cs) h
    rwa [List.intercalate_splitOn] at htext

/-! ### The gap -/

theorem eq_append_of_cutAtGap {cs before after : List Char}
    (h : cutAtGap cs = some (before, after)) : cs = before ++ ':' :: ':' :: after := by
  fun_induction cutAtGap cs generalizing before with
  | case1 => cases h
  | case2 rest =>
    cases h
    rfl
  | case3 c rest _ ih =>
    obtain ⟨⟨before', after'⟩, hrest, heq⟩ := Option.map_eq_some_iff.1 h
    cases heq
    rw [ih hrest, List.cons_append]

theorem cutAtGap_append {cs : List Char} (h : ':' ∉ cs) (rest : List Char) :
    cutAtGap (cs ++ rest) = (cutAtGap rest).map fun p => (cs ++ p.1, p.2) := by
  induction cs with
  | nil => simp
  | cons c cs ih =>
    rw [List.mem_cons, not_or] at h
    rw [List.cons_append, cutAtGap.eq_3 c _ fun _ hc => absurd hc.symm h.1, ih h.2, Option.map_map]
    rfl

/-- A piece without a colon, and a colon behind which there is no other, are no part of a gap. -/
theorem cutAtGap_append_colon {cs rest : List Char} (h : ':' ∉ cs)
    (hrest : ∀ rest', rest ≠ ':' :: rest') :
    cutAtGap (cs ++ ':' :: rest) = (cutAtGap rest).map fun p => (cs ++ ':' :: p.1, p.2) := by
  rw [cutAtGap_append h, cutAtGap.eq_3 ':' rest fun rest' _ heq => hrest rest' heq, Option.map_map]
  rfl

theorem cutAtGap_eq_none_of_not_mem {cs : List Char} (h : ':' ∉ cs) : cutAtGap cs = none := by
  have hcut := cutAtGap_append h []
  rwa [List.append_nil] at hcut

/-- The first gap is behind the groups that stand in front of it. -/
theorem cutAtGap_groupsText {before : List Char} {groups : List UInt16}
    (h : GroupsText before groups) (after : List Char) :
    cutAtGap (before ++ ':' :: ':' :: after) = some (before, after) := by
  induction h with
  | last hgroup =>
    rw [cutAtGap_append hgroup.colon_not_mem, cutAtGap]
    simp
  | @more cs rest group groups hgroup hgroups ih =>
    rw [List.append_assoc, List.cons_append,
      cutAtGap_append_colon hgroup.colon_not_mem (hgroups.endText.append_ne_colon_cons _), ih]
    rfl

/-- There is no gap in the end of an address. -/
theorem cutAtGap_endText {cs : List Char} {groups : List UInt16} (h : EndText cs groups) :
    cutAtGap cs = none := by
  induction h with
  | last hgroup => exact cutAtGap_eq_none_of_not_mem hgroup.colon_not_mem
  | ipv4 hip => exact cutAtGap_eq_none_of_not_mem hip.colon_not_mem
  | more hgroup hend ih =>
    have hfirst := hend.append_ne_colon_cons []
    rw [List.append_nil] at hfirst
    rw [cutAtGap_append_colon hgroup.colon_not_mem hfirst, ih]
    rfl

/-! ### Reading an address -/

theorem ofGroups?_eq_some_iff {groups : List UInt16} {ip : IPv6} :
    ofGroups? groups = some ip ↔ ip.groups = groups := by
  unfold ofGroups?
  constructor
  · intro h
    split_ifs at h
    cases h
    rfl
  · rintro rfl
    rw [dif_pos ip.length_groups]

theorem ipv6Text_of_ofChars? {cs : List Char} {ip : IPv6} (h : ofChars? cs = some ip) :
    IPv6Text cs ip := by
  unfold ofChars? at h
  split at h
  · obtain ⟨groups, hgroups, hip⟩ := Option.bind_eq_some_iff.1 h
    rw [ofGroups?_eq_some_iff] at hip
    subst hip
    rcases endGroups?_numerals_iff.1 hgroups with ⟨-, hnone⟩ | hend
    · have hlength := ip.length_groups
      rw [hnone] at hlength
      cases hlength
    · exact .full hend
  · rename_i before after hcut
    simp only [Option.bind_eq_bind, Option.bind_eq_some_iff] at h
    obtain ⟨head, hhead, tail, htail, h⟩ := h
    split_ifs at h with hroom
    rw [ofGroups?_eq_some_iff, List.append_assoc] at h
    rw [eq_append_of_cutAtGap hcut]
    exact .gap (mapM_numerals_iff.1 hhead) (endGroups?_numerals_iff.1 htail) (by omega) h

theorem ofChars?_of_ipv6Text {cs : List Char} {ip : IPv6} (h : IPv6Text cs ip) :
    ofChars? cs = some ip := by
  unfold ofChars?
  cases h with
  | full hend =>
    rw [cutAtGap_endText hend, endGroups?_numerals_iff.2 (.inr hend)]
    exact ofGroups?_eq_some_iff.2 rfl
  | @gap before after head tail zeros _ hhead htail hzeros hip =>
    have hcut : cutAtGap (before ++ ':' :: ':' :: after) = some (before, after) := by
      rcases hhead with ⟨rfl, -⟩ | hgroups
      · rw [List.nil_append, cutAtGap]
      · exact cutAtGap_groupsText hgroups after
    -- the length of an address says how many zero groups the gap stands for
    have hlength := ip.length_groups
    rw [hip, List.length_append, List.length_append, List.length_replicate] at hlength
    have hroom : head.length + tail.length < 8 := by omega
    have hcount : 8 - head.length - tail.length = zeros := by omega
    rw [hcut]
    simp only [mapM_numerals_iff.2 hhead, endGroups?_numerals_iff.2 htail, Option.bind_eq_bind,
      Option.bind_some, if_pos hroom, hcount, List.append_assoc]
    exact ofGroups?_eq_some_iff.2 hip

/-- **Exact acceptance**: a text is read as an address exactly when it is one by the grammar. -/
theorem ofChars?_eq_some_iff {cs : List Char} {ip : IPv6} :
    ofChars? cs = some ip ↔ IPv6Text cs ip :=
  ⟨ipv6Text_of_ofChars?, ofChars?_of_ipv6Text⟩

end IPv6

/-- There is a colon in every IPv6 address: eight groups are more than an IPv4 address fills. -/
theorem IPv6Text.colon_mem {cs : List Char} {ip : IPv6} (h : IPv6Text cs ip) : ':' ∈ cs := by
  cases h with
  | gap _ _ _ _ => simp
  | full hend =>
    have hlength := ip.length_groups
    generalize ip.groups = groups at hend hlength
    cases hend with
    | last _ => cases hlength
    | ipv4 _ => cases hlength
    | more _ _ => simp

end JournalSite
