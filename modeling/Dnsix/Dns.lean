import Mathlib.Data.List.Basic

/-!
The DNS data model the resolver works on: names, questions, records and
messages, with the fields the code reads or copies. Labels are byte strings.
Names compare without regard to ASCII case, so a question used as a map key is
represented by its lowercased form, while the question itself keeps the case it
arrived in.
-/

namespace Dnsix.Dns

abbrev Label := List UInt8
abbrev Ipv4Addr := BitVec 32
abbrev Ipv6Addr := BitVec 128

structure Name where
  labels : List Label
  isFqdn : Bool
  deriving DecidableEq

def lowerByte (byte : UInt8) : UInt8 :=
  if 65 ≤ byte ∧ byte ≤ 90 then byte + 32 else byte

def Name.toLowercase (name : Name) : Name :=
  { name with labels := name.labels.map (List.map lowerByte) }

inductive RecordType where
  | A | AAAA | CNAME | MX | TXT | NS | PTR | SOA | SRV | CAA | HTTPS | SVCB | DS | DNSKEY
  | NAPTR | ANY
  | other (code : Nat)
  deriving DecidableEq

inductive DnsClass where
  | IN
  | other (code : Nat)
  deriving DecidableEq

structure Query where
  name : Name
  queryType : RecordType
  queryClass : DnsClass
  deriving DecidableEq

/-- The representative of the questions equal to `question` as a map key. -/
def Query.key (question : Query) : Query :=
  { question with name := question.name.toLowercase }

structure Soa where
  mname : Name
  rname : Name
  serial : Nat
  refresh : Nat
  retry : Nat
  expire : Nat
  minimum : Nat
  deriving DecidableEq

/-- `other` holds every type the code never looks into, and also an empty
record body under any type, which has that type but none of its data. -/
inductive RData where
  | A (addr : Ipv4Addr)
  | AAAA (addr : Ipv6Addr)
  | CNAME (target : Name)
  | SOA (soa : Soa)
  | other (type : RecordType) (bytes : List UInt8)
  deriving DecidableEq

def RData.recordType : RData → RecordType
  | .A _ => .A
  | .AAAA _ => .AAAA
  | .CNAME _ => .CNAME
  | .SOA _ => .SOA
  | .other type _ => type

structure Record where
  name : Name
  dnsClass : DnsClass
  ttl : Nat
  data : RData
  deriving DecidableEq

def Record.fromRdata (name : Name) (ttl : Nat) (data : RData) : Record :=
  { name, dnsClass := .IN, ttl, data }

def Record.recordType (record : Record) : RecordType := record.data.recordType

def Record.isSoa (record : Record) : Bool :=
  match record.data with
  | .SOA _ => true
  | _ => false

inductive ResponseCode where
  | NoError | FormErr | ServFail | NXDomain | NotImp | Refused
  | other (code : Nat)
  deriving DecidableEq

inductive MessageType where
  | Query | Response
  deriving DecidableEq

inductive OpCode where
  | Query
  | other (code : Nat)
  deriving DecidableEq

structure Header where
  id : Nat
  messageType : MessageType
  opCode : OpCode
  authoritative : Bool
  truncation : Bool
  recursionDesired : Bool
  recursionAvailable : Bool
  authenticData : Bool
  checkingDisabled : Bool
  responseCode : ResponseCode
  deriving DecidableEq

def Header.new : Header :=
  { id := 0, messageType := .Query, opCode := .Query, authoritative := false,
    truncation := false, recursionDesired := false, recursionAvailable := false,
    authenticData := false, checkingDisabled := false, responseCode := .NoError }

structure Edns where
  version : Nat
  maxPayload : Nat
  dnssecOk : Bool
  deriving DecidableEq

/-- A message; an upstream response is one too. The OPT record lives in `edns`,
not among the additional records. -/
structure Message where
  header : Header
  queries : List Query
  answers : List Record
  nameServers : List Record
  additionals : List Record
  edns : Option Edns
  deriving DecidableEq

def Message.new : Message :=
  { header := .new, queries := [], answers := [], nameServers := [], additionals := [],
    edns := none }

def Message.responseCode (message : Message) : ResponseCode := message.header.responseCode

def Message.checkingDisabled (message : Message) : Bool := message.header.checkingDisabled

/-- The DNSSEC-OK bit, clear when the message carries no EDNS. -/
def Message.dnssecOk (message : Message) : Bool :=
  (message.edns.map Edns.dnssecOk).getD false

end Dnsix.Dns
