import Dnsix.Handler
import Dnsix.IpText

/-!
The client access list: IPv6 networks read from the configuration, and whether a
client may query.
-/

namespace Dnsix.Acl
open Ascii Dns IpText
open Handler (IpAddr)

def mask (prefixLen : Nat) : Ipv6Addr :=
  if prefixLen = 0 then 0 else BitVec.allOnes 128 <<< (128 - prefixLen)

/-- One network, with a length that fits and its host bits already cleared. -/
structure Net6 where
  base : Ipv6Addr
  prefixLen : Nat
  bounded : prefixLen ≤ 128
  masked : base &&& mask prefixLen = base
  deriving DecidableEq

def Net6.contains (net : Net6) (addr : Ipv6Addr) : Bool := addr &&& mask net.prefixLen == net.base

/-- An empty list allows every client. -/
structure ClientAcl where
  nets : List Net6
  deriving DecidableEq

inductive AclError where
  | invalidPrefixLength (entry : Text)
  | prefixExceeds (prefixLen : Nat) (entry : Text)
  | isIpv4 (entry : Text)
  | invalidNetwork (entry : Text)
  deriving DecidableEq

def parsePrefixLen (entry : Text) : Except AclError (Text × Nat) :=
  match splitOnce '/' entry with
  | some (addrPart, digits) =>
      match parseUnsigned 10 (2 ^ 32) digits with
      | some prefixLen => .ok (addrPart, prefixLen)
      | none => .error (.invalidPrefixLength entry)
  | none => .ok (entry, 128)

def parseNet6 (entry : Text) : Except AclError Net6 := do
  let (addrPart, prefixLen) ← parsePrefixLen entry
  if bounded : prefixLen ≤ 128 then
    match parseIpv6 addrPart with
    | some addr =>
        .ok
          { base := addr &&& mask prefixLen, prefixLen, bounded
            masked := by rw [BitVec.and_assoc, BitVec.and_self] }
    | none =>
        .error (if (parseIpv4 addrPart).isSome then .isIpv4 entry else .invalidNetwork entry)
  else .error (.prefixExceeds prefixLen entry)

def ClientAcl.parse (entries : List Text) : Except AclError ClientAcl :=
  (entries.mapM parseNet6).map ClientAcl.mk

def ClientAcl.isEmpty (acl : ClientAcl) : Bool := acl.nets.isEmpty

def ClientAcl.allows (acl : ClientAcl) (client : IpAddr) : Bool :=
  if acl.nets.isEmpty then true
  else
    match client with
    | .V6 v6 => acl.nets.any (·.contains v6)
    | .V4 _ => false

end Dnsix.Acl
