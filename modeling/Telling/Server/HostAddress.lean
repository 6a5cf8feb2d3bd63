import Telling.Msg.LengthSlot

/-!
# Host addresses

A `HostAddress::Base` stands for one address per communication pattern: consecutive
ports for TCP, and names with an extension for the in-process and IPC transports.
Services listen at the addresses of a base and the server dials them there.
-/

namespace Telling.Server

open Lib Msg

/-- `Pattern::PATTERN`. -/
inductive Pattern where
  | noPattern
  | reqRep
  | pubSub
  | pushPull
  | pair
  deriving DecidableEq, Repr

/-- The value of the enumerator, converted to `uint16_t`. -/
def Pattern.toUInt16 : Pattern → UInt16
  | .noPattern => 65535
  | .reqRep => 0
  | .pubSub => 1
  | .pushPull => 2
  | .pair => 3

/-- `Transport::TRANSPORT`. -/
inductive Transport where
  | noTransport
  | inproc
  | ipc
  | tcp
  deriving DecidableEq, Repr

structure HostAddress where
  transport : Transport := .noTransport
  number : UInt16 := 0
  name : Bytes := []
  deriving DecidableEq, Repr

namespace HostAddress

/-- The conversion to `std::string`, on a platform that is neither Windows nor
Apple.  The digits of a port are collected in reverse; port 0 has one digit. -/
def text (address : HostAddress) : Bytes :=
  match address.transport with
  | .inproc => ascii "inproc://" ++ address.name
  | .ipc => ascii "ipc:///var/run/" ++ address.name
  | .tcp =>
      ascii "tcp://" ++ (if address.name ≠ [] then address.name else ascii "localhost") ++
        ascii ":" ++ MsgWriter.digitsText address.number.toNat
  | .noTransport => ascii "unknown"

/-- `HostAddress::Base`. -/
structure Base where
  base : HostAddress
  deriving DecidableEq, Repr

namespace Base

/-- `HostAddress::Base::InProc`. -/
def inProc (name : Bytes) : Base := ⟨⟨.inproc, 0, name⟩⟩

/-- `HostAddress::Base::Extension`. -/
def extension : Pattern → Option Bytes
  | .reqRep => some (ascii ".req")
  | .pubSub => some (ascii ".sub")
  | .pushPull => some (ascii ".push")
  | .noPattern | .pair => none

/-- `HostAddress::Base::PortOffset`. -/
def portOffset (basePort : UInt16) (pattern : Pattern) : UInt16 :=
  basePort + pattern.toUInt16

/-- `HostAddress::Base::derived`. -/
def derived (host : Base) (pattern : Pattern) : HostAddress :=
  match host.base.transport with
  | .noTransport => {}
  | .tcp => ⟨.tcp, portOffset host.base.number pattern, host.base.name⟩
  | .inproc | .ipc =>
      match extension pattern with
      | none => {}
      | some suffix =>
          ⟨host.base.transport, host.base.number, host.base.name ++ suffix⟩

/-- The key and address of the connector that a socket of this pattern makes. -/
def address (host : Base) (pattern : Pattern) : Bytes := (host.derived pattern).text

end Base

end HostAddress

open HostAddress (Base)

/-- The three patterns in which a service and the server communicate. -/
def servicePatterns : List Pattern := [.reqRep, .pubSub, .pushPull]

theorem inProc_address {pattern : Pattern} {suffix : Bytes}
    (suffixed : Base.extension pattern = some suffix) (name : Bytes) :
    (Base.inProc name).address pattern = ascii "inproc://" ++ (name ++ suffix) := by
  simp [Base.address, Base.derived, Base.inProc, HostAddress.text, suffixed]

/-- The address of a name for the pattern `PUB_SUB`. -/
def pubSubAddress (name : Bytes) : Bytes := (Base.inProc name).address .pubSub

theorem pubSubAddress_eq (name : Bytes) :
    pubSubAddress name = ascii "inproc://" ++ (name ++ ascii ".sub") :=
  inProc_address rfl name

/-- Different names have different addresses, whatever the pattern. -/
theorem inProc_address_injective {pattern : Pattern}
    (used : pattern ∈ servicePatterns) {left right : Bytes}
    (same : (Base.inProc left).address pattern = (Base.inProc right).address pattern) :
    left = right := by
  have known : ∃ suffix, Base.extension pattern = some suffix := by
    simp only [servicePatterns, List.mem_cons, List.not_mem_nil, or_false] at used
    rcases used with rfl | rfl | rfl <;> exact ⟨_, rfl⟩
  obtain ⟨suffix, suffixed⟩ := known
  rw [inProc_address suffixed, inProc_address suffixed] at same
  exact List.append_cancel_right (List.append_cancel_left same)

end Telling.Server
