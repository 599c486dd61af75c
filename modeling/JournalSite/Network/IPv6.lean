import JournalSite.Network.IPv4
import JournalSite.Text.Digits

/-!
# IPv6 addresses

An address is eight groups of sixteen bits, written in hexadecimal with colons
between them. Groups that are zero may be left out at one place, where `::` then
stands for one or more of them. The last two groups may be written as an IPv4
address.

Reading admits all of these forms. Writing chooses one: an IPv4 address carried
in an IPv6 address is written as such, and otherwise `::` replaces the longest
run of two or more zero groups, the first if several are longest.
-/

namespace JournalSite

open JournalSite.Text

/-- An IPv6 address: eight groups of sixteen bits. -/
@[ext] structure IPv6 where
  /-- The groups from left to right. -/
  groups : List UInt16
  /-- There are eight of them. -/
  length_groups : groups.length = 8
  deriving DecidableEq, Repr

/-- The two groups that an IPv4 address fills. -/
def IPv4.groups (ip : IPv4) : List UInt16 :=
  [ip.first.toUInt16 * 256 + ip.second.toUInt16, ip.third.toUInt16 * 256 + ip.fourth.toUInt16]

/-- The IPv4 address that fills two groups. -/
def IPv4.ofGroups (high low : UInt16) : IPv4 :=
  ⟨(high / 256).toUInt8, (high % 256).toUInt8, (low / 256).toUInt8, (low % 256).toUInt8⟩

namespace IPv6

/-! ### Reading -/

/-- The address with these groups, if there are eight. -/
def ofGroups? (groups : List UInt16) : Option IPv6 :=
  if h : groups.length = 8 then some ⟨groups, h⟩ else none

/-- The group that a numeral of one to four hexadecimal digits denotes. -/
def group? (cs : List Char) : Option UInt16 :=
  if cs ≠ [] ∧ cs.length ≤ 4 then (hexNumber? cs).map UInt16.ofNat else none

/-- What stands before and after the first `::` of a text. -/
def cutAtGap : List Char → Option (List Char × List Char)
  | [] => none
  | ':' :: ':' :: rest => some ([], rest)
  | c :: rest => (cutAtGap rest).map fun (before, after) => (c :: before, after)

/-- The numerals between single colons; an empty text has none. -/
def numerals (cs : List Char) : List (List Char) :=
  if cs.isEmpty then [] else cs.splitOn ':'

/-- The groups of the numerals at the end of an address, where the last may be an IPv4 address. -/
def endGroups? : List (List Char) → Option (List UInt16)
  | [] => some []
  | [cs] =>
    match IPv4.ofChars? cs with
    | some ip => some ip.groups
    | none => (group? cs).map fun group => [group]
  | cs :: rest => do
    let group ← group? cs
    let groups ← endGroups? rest
    some (group :: groups)

/-- The address a text denotes. -/
def ofChars? (cs : List Char) : Option IPv6 :=
  match cutAtGap cs with
  | none => (endGroups? (numerals cs)).bind ofGroups?
  | some (before, after) => do
    let head ← (numerals before).mapM group?
    let tail ← endGroups? (numerals after)
    if head.length + tail.length < 8 then
      ofGroups? (head ++ List.replicate (8 - head.length - tail.length) 0 ++ tail)
    else none

/-! ### Writing -/

/-- How many zero groups a list of groups begins with. -/
def leadingZeros (groups : List UInt16) : Nat :=
  (groups.takeWhile (· == 0)).length

/-- Where the longest run of zero groups begins and how long it is; the first run if several are
longest. -/
def longestZeros : List UInt16 → Nat × Nat
  | [] => (0, 0)
  | group :: rest =>
    let here := leadingZeros (group :: rest)
    let (start, length) := longestZeros rest
    if length ≤ here then (0, here) else (start + 1, length)

/-- Groups with colons between them. -/
def joined (groups : List UInt16) : List Char :=
  [':'].intercalate (groups.map fun group => hexDigits group.toNat)

/-- The groups in front of an IPv4 address that is carried in an IPv6 address. -/
def carrier : List UInt16 := [0, 0, 0, 0, 0, 0xFFFF]

/-- The written form of a list of groups. -/
def groupChars (groups : List UInt16) : List Char :=
  let (start, length) := longestZeros groups
  if 1 < length then
    joined (groups.take start) ++ ':' :: ':' :: joined (groups.drop (start + length))
  else joined groups

/-- The written form of an address. -/
def chars (ip : IPv6) : List Char :=
  match ip.groups.drop 6 with
  | [high, low] =>
    if ip.groups.take 6 = carrier then "::ffff:".toList ++ (IPv4.ofGroups high low).chars
    else groupChars ip.groups
  | _ => groupChars ip.groups

end IPv6

end JournalSite
