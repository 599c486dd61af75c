import JournalSite.Network.IPv4
import JournalSite.Proofs.Text.Padding

/-!
# The grammar of IPv4 addresses

Which texts are IPv4 addresses is said here without a reader (`IPv4Text`): four octets with a
dot between each two. An octet is a decimal numeral of up to three digits, without a zero in
front that could be left out, and of a number that an octet has room for (`OctetText`).

The reader cuts a text at its dots and takes it for an address exactly when the grammar does
(**`IPv4.ofChars?_eq_some_iff`**). An address as it is written belongs to the grammar
(`ipv4Text_chars`).
-/

namespace JournalSite

open Text

/-- **Octets in writing.** -/
structure OctetText (cs : List Char) (octet : UInt8) : Prop where
  /-- The digits denote the octet. -/
  numeral : IsNumeral cs octet.toNat
  /-- There are three of them at most. -/
  length_le : cs.length ≤ 3
  /-- A zero in front stands alone. -/
  first : 1 < cs.length → cs.head? ≠ some '0'

/-- **The grammar of IPv4 addresses.** -/
inductive IPv4Text : List Char → IPv4 → Prop where
  /-- Four octets and the dots between them. -/
  | octets {a b c d : List Char} {ip : IPv4} : OctetText a ip.first → OctetText b ip.second →
      OctetText c ip.third → OctetText d ip.fourth →
      IPv4Text (a ++ '.' :: (b ++ '.' :: (c ++ '.' :: d))) ip

theorem OctetText.not_mem {cs : List Char} {octet : UInt8} {c : Char} (h : OctetText cs octet)
    (hc : c.isDigit = false) : c ∉ cs := by
  intro hmem
  rw [h.numeral.isDigit c hmem] at hc
  cases hc

namespace IPv4

/-! ### Reading -/

theorem octet?_eq_some_iff {cs : List Char} {octet : UInt8} :
    octet? cs = some octet ↔ OctetText cs octet := by
  unfold octet?
  constructor
  · intro h
    split_ifs at h with hoctet
    obtain ⟨hne, hlength, hdigits, hzero, hlt⟩ := hoctet
    cases h
    have hvalue : (UInt8.ofNat (digitsValue cs)).toNat = digitsValue cs :=
      UInt8.toNat_ofNat_of_lt hlt
    refine ⟨⟨hne, hdigits, hvalue.symm⟩, hlength, fun hlong hhead => ?_⟩
    rw [hzero hhead] at hlong
    exact absurd hlong (by decide)
  · rintro ⟨hnumeral, hlength, hfirst⟩
    have hvalue : digitsValue cs = octet.toNat := hnumeral.value
    have hoctet : IsOctet cs := by
      refine ⟨hnumeral.ne_nil, hlength, hnumeral.isDigit, fun hhead => ?_, ?_⟩
      · obtain ⟨c, rest, rfl, -⟩ := hnumeral.exists_eq_cons
        have hshort : rest = [] := by
          by_contra hrest
          exact hfirst (by simpa using List.length_pos_iff.2 hrest) hhead
        rw [List.head?_cons, Option.some_inj] at hhead
        rw [hshort, hhead]
      · rw [hvalue]
        exact octet.toNat_lt
    rw [if_pos hoctet, hvalue, UInt8.ofNat_toNat]

/-- **Exact acceptance**: a text is read as an address exactly when it is one by the grammar. -/
theorem ofChars?_eq_some_iff {cs : List Char} {ip : IPv4} :
    ofChars? cs = some ip ↔ IPv4Text cs ip := by
  constructor
  · intro h
    unfold ofChars? at h
    split at h
    · rename_i a b c d hsplit
      simp only [Option.bind_eq_bind, Option.bind_eq_some_iff, octet?_eq_some_iff,
        Option.some_inj] at h
      obtain ⟨_, ha, _, hb, _, hc, _, hd, rfl⟩ := h
      have hcs : ['.'].intercalate (cs.splitOn '.') = cs := List.intercalate_splitOn '.'
      rw [hsplit] at hcs
      rw [← hcs]
      simpa [List.intercalate_cons_cons] using IPv4Text.octets ha hb hc hd
    · cases h
  · rintro ⟨ha, hb, hc, hd⟩
    unfold ofChars?
    rw [List.splitOn_append_cons_self_of_not_mem (ha.not_mem (by decide)),
      List.splitOn_append_cons_self_of_not_mem (hb.not_mem (by decide)),
      List.splitOn_append_cons_self_of_not_mem (hc.not_mem (by decide)),
      List.splitOn_eq_singleton (hd.not_mem (by decide))]
    simp only [octet?_eq_some_iff.2 ha, octet?_eq_some_iff.2 hb, octet?_eq_some_iff.2 hc,
      octet?_eq_some_iff.2 hd]
    rfl

end IPv4

/-! ### What tells an address from other texts -/

theorem IPv4Text.dot_mem {cs : List Char} {ip : IPv4} (h : IPv4Text cs ip) : '.' ∈ cs := by
  cases h
  simp

theorem IPv4Text.not_mem {cs : List Char} {ip : IPv4} {c : Char} (h : IPv4Text cs ip)
    (hc : c.isDigit = false) (hdot : c ≠ '.') : c ∉ cs := by
  obtain ⟨ha, hb, hd, he⟩ := h
  simp [ha.not_mem hc, hb.not_mem hc, hd.not_mem hc, he.not_mem hc, hdot]

/-- A text without a dot is no IPv4 address. -/
theorem IPv4.ofChars?_eq_none {cs : List Char} (h : '.' ∉ cs) : ofChars? cs = none := by
  rw [Option.eq_none_iff_forall_ne_some]
  intro ip hip
  exact h (ofChars?_eq_some_iff.1 hip).dot_mem

/-! ### Writing -/

theorem octetText_octetChars (octet : UInt8) : OctetText (IPv4.octetChars octet) octet where
  numeral := isNumeral_toDigits octet.toNat
  length_le := by
    have hlt := octet.toNat_lt
    rw [IPv4.octetChars, Nat.length_toDigits_le_iff (by decide) (by decide)]
    omega
  first := (fillsWidth_toDigits octet.toNat).2

/-- An address as it is written is one by the grammar. -/
theorem ipv4Text_chars (ip : IPv4) : IPv4Text ip.chars ip := by
  have htext := IPv4Text.octets (octetText_octetChars ip.first) (octetText_octetChars ip.second)
    (octetText_octetChars ip.third) (octetText_octetChars ip.fourth)
  simpa [IPv4.chars, List.intercalate_cons_cons] using htext

end JournalSite
