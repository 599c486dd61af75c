import JournalSite.Network.IPv6
import JournalSite.Text.Numeral

/-!
# Network addresses

The address of a host on the network, of either version, and the address of a
socket, which is a host address with a port. The host part of an IPv6 socket
address stands in square brackets, with the number of its scope behind a percent
sign if that is not zero.
-/

namespace JournalSite

open JournalSite.Text

/-- The address of a host. -/
inductive IPAddress where
  /-- An IPv4 address. -/
  | v4 (ip : IPv4)
  /-- An IPv6 address. -/
  | v6 (ip : IPv6)
  deriving DecidableEq, Repr

namespace IPAddress

/-- The address a text denotes, in whichever version it is written. -/
def ofChars? (cs : List Char) : Option IPAddress :=
  match IPv4.ofChars? cs with
  | some ip => some (v4 ip)
  | none => (IPv6.ofChars? cs).map v6

/-- The written form of an address. -/
def chars : IPAddress → List Char
  | v4 ip => ip.chars
  | v6 ip => ip.chars

/-- The written form of an address as a string. -/
def text (ip : IPAddress) : String :=
  String.ofList ip.chars

/-- Whether an address is an IPv6 address. -/
def isV6 : IPAddress → Bool
  | v4 _ => false
  | v6 _ => true

end IPAddress

/-- The address of a socket. -/
inductive SocketAddress where
  /-- A port of a host with an IPv4 address. -/
  | v4 (ip : IPv4) (port : UInt16)
  /-- A port of a host with an IPv6 address in a numbered scope, 0 if none is meant. -/
  | v6 (ip : IPv6) (scope : UInt32) (port : UInt16)
  deriving DecidableEq, Repr

namespace SocketAddress

/-- A port of a host, in no scope. -/
def ofHost (ip : IPAddress) (port : UInt16) : SocketAddress :=
  match ip with
  | .v4 ip => v4 ip port
  | .v6 ip => v6 ip 0 port

/-- The host part of a socket address. -/
def host : SocketAddress → IPAddress
  | v4 ip _ => .v4 ip
  | v6 ip _ _ => .v6 ip

/-- The port of a socket address. -/
def port : SocketAddress → UInt16
  | v4 _ port => port
  | v6 _ _ port => port

/-- The number within `limit` that one or more digits denote, without a sign. -/
def number? (limit : Nat) (cs : List Char) : Option Nat :=
  if cs.isEmpty then none else (readDigits limit 0 cs).toOption

/-- The port that follows a colon. -/
def port? (cs : List Char) : Option UInt16 :=
  match cs with
  | ':' :: digits => (number? 65535 digits).map UInt16.ofNat
  | _ => none

/-- The scope that follows a percent sign; no scope is meant if nothing follows the address. -/
def scope? (cs : List Char) : Option UInt32 :=
  match cs with
  | [] => some 0
  | '%' :: digits => (number? 4294967295 digits).map UInt32.ofNat
  | _ => none

/-- What stands before the first `mark`, and the rest from it on. -/
def cutBefore (mark : Char) (cs : List Char) : List Char × List Char :=
  (cs.takeWhile (· != mark), cs.dropWhile (· != mark))

/-- The socket address a text denotes. -/
def ofChars? (cs : List Char) : Option SocketAddress :=
  match cs with
  | '[' :: rest => do
    let (inside, outside) := cutBefore ']' rest
    let (address, zone) := cutBefore '%' inside
    let ip ← IPv6.ofChars? address
    let scope ← scope? zone
    let port ← port? (outside.drop 1)
    some (v6 ip scope port)
  | _ => do
    let (address, rest) := cutBefore ':' cs
    let ip ← IPv4.ofChars? address
    let port ← port? rest
    some (v4 ip port)

/-- The written form of a socket address. -/
def chars : SocketAddress → List Char
  | v4 ip port => ip.chars ++ ':' :: Nat.toDigits 10 port.toNat
  | v6 ip scope port =>
    '[' :: (ip.chars ++
      (if scope = 0 then [] else '%' :: Nat.toDigits 10 scope.toNat) ++
      ']' :: ':' :: Nat.toDigits 10 port.toNat)

/-- The written form of a socket address as a string. -/
def text (address : SocketAddress) : String :=
  String.ofList address.chars

end SocketAddress

end JournalSite
