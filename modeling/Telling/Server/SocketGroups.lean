import Telling.Server.Ingestion

/-!
# Connecting groups of sockets

`Dial` and `Listen` connect several sockets to the addresses of one base.  Their
arguments are evaluated in an unspecified order, and when one call throws, the base is
disconnected from all of the sockets before the exception is thrown on.  That undoes
the calls of the group, and also connectors which were there before.

The callbacks of the server know its sockets by the keys of their connectors only;
`Server::open` and `Server::close` of that model are refined by the groups.
-/

namespace Telling.Server

open Lib
open HostAddress (Base)

/-- `Socket::ListenerOrDialer`. -/
inductive Connector where
  | dialer
  | listener
  deriving DecidableEq, Repr

/-- `Socket`, as far as its connectors are concerned. -/
structure Socket where
  pattern : Pattern
  isOpen : Bool
  connectors : Bytes → Option Connector

/-- The key of the connector that the socket makes for a base. -/
def Socket.keyOf (socket : Socket) (base : Base) : Bytes := base.address socket.pattern

/-- The common body of `Socket::dial` and `Socket::listen`: without a result they
throw.  `made` tells whether NNG makes the dialer or listener. -/
def Socket.connect (socket : Socket) (kind : Connector) (base : Base) (made : Bool) :
    Option Socket :=
  if socket.isOpen && made then
    some { socket with
      connectors := emplace socket.connectors (socket.keyOf base) kind }
  else none

/-- `Socket::disconnect`. -/
def Socket.disconnect (socket : Socket) (base : Base) : Socket :=
  { socket with connectors := erase socket.connectors (socket.keyOf base) }

/-- The sockets of a process.  Several arguments of a group may share a socket. -/
abbrev Sockets := Nat → Socket

namespace Sockets

/-- A socket of the group listens on the address. -/
def listening (sockets : Sockets) (group : List (Option Nat)) (address : Bytes) : Bool :=
  group.any fun argument =>
    match argument with
    | none => false
    | some index => decide ((sockets index).connectors address = some .listener)

/-- NNG makes no second listener for an address; what else fails is up to `made`. -/
def makes (sockets : Sockets) (group : List (Option Nat)) (kind : Connector)
    (address : Bytes) (made : Bool) : Bool :=
  made && !(decide (kind = .listener) && sockets.listening group address)

/-- The calls of a group in the order of their evaluation, up to the first that throws.
A null pointer is passed over; `made` gives the outcome of each call. -/
def connectEach (group : List (Option Nat)) (kind : Connector) (base : Base) :
    (order : List (Option Nat)) → (made : Nat → Bool) → Sockets → Sockets × Bool
  | [], _, sockets => (sockets, false)
  | none :: order, made, sockets =>
      connectEach group kind base order (fun call => made (call + 1)) sockets
  | some index :: order, made, sockets =>
      match (sockets index).connect kind base
          (sockets.makes group kind ((sockets index).keyOf base) (made 0)) with
      | none => (sockets, true)
      | some socket =>
          connectEach group kind base order (fun call => made (call + 1))
            (Function.update sockets index socket)

/-- `Disconnect`. -/
def disconnectEach (base : Base) : (order : List (Option Nat)) → Sockets → Sockets
  | [], sockets => sockets
  | none :: order, sockets => disconnectEach base order sockets
  | some index :: order, sockets =>
      disconnectEach base order
        (Function.update sockets index ((sockets index).disconnect base))

/-- `Dial` and `Listen`, with the orders in which the arguments are evaluated before
and after an exception.  The result tells whether the exception is thrown on. -/
def connectGroup (kind : Connector) (base : Base) (order undo : List (Option Nat))
    (made : Nat → Bool) (sockets : Sockets) : Sockets × Bool :=
  match connectEach order kind base order made sockets with
  | (sockets, false) => (sockets, false)
  | (sockets, true) => (disconnectEach base undo sockets, true)

/-! ## What the loops change -/

/-- A socket differs from what it was at most in the connector for the base. -/
structure WithinBase (base : Base) (before after : Socket) : Prop where
  pattern : after.pattern = before.pattern
  others : erase after.connectors (before.keyOf base) =
    erase before.connectors (before.keyOf base)

theorem WithinBase.refl (base : Base) (socket : Socket) :
    WithinBase base socket socket := ⟨rfl, rfl⟩

theorem WithinBase.trans {base : Base} {first second third : Socket}
    (left : WithinBase base first second) (right : WithinBase base second third) :
    WithinBase base first third := by
  refine ⟨right.pattern.trans left.pattern, ?_⟩
  have sameKey : second.keyOf base = first.keyOf base := by
    rw [Socket.keyOf, left.pattern, Socket.keyOf]
  rw [← sameKey, right.others, sameKey, left.others]

theorem connect_eq_some {base : Base} {socket next : Socket} {kind : Connector}
    {made : Bool} (connected : socket.connect kind base made = some next) :
    next = { socket with
      connectors := emplace socket.connectors (socket.keyOf base) kind } := by
  unfold Socket.connect at connected
  split at connected
  · exact (Option.some.inj connected).symm
  · contradiction

theorem withinBase_connect {base : Base} {socket next : Socket} {kind : Connector}
    {made : Bool} (connected : socket.connect kind base made = some next) :
    WithinBase base socket next := by
  obtain rfl := connect_eq_some connected
  refine ⟨rfl, ?_⟩
  funext address
  by_cases own : address = socket.keyOf base
  · simp [own]
  · simp [own]

/-- The calls change only the sockets they are made on, and those only at the base. -/
theorem connectEach_within {group : List (Option Nat)} {kind : Connector} {base : Base}
    (order : List (Option Nat)) :
    (made : Nat → Bool) → (sockets : Sockets) → (index : Nat) →
    WithinBase base (sockets index)
        ((connectEach group kind base order made sockets).1 index) ∧
      (some index ∉ order →
        (connectEach group kind base order made sockets).1 index = sockets index) := by
  induction order with
  | nil => exact fun made sockets index => ⟨.refl base _, fun _ => rfl⟩
  | cons argument order ih =>
      intro made sockets index
      cases argument with
      | none =>
          obtain ⟨within, untouched⟩ := ih (fun call => made (call + 1)) sockets index
          exact ⟨within, fun absent => untouched (by simpa using absent)⟩
      | some current =>
          simp only [connectEach]
          cases connected : (sockets current).connect kind base
              (sockets.makes group kind ((sockets current).keyOf base) (made 0)) with
          | none => exact ⟨.refl base _, fun _ => rfl⟩
          | some socket =>
              obtain ⟨within, untouched⟩ := ih (fun call => made (call + 1))
                (Function.update sockets current socket) index
              by_cases own : index = current
              · subst own
                rw [Function.update_self] at within
                refine ⟨(withinBase_connect connected).trans within, fun absent => ?_⟩
                simp at absent
              · rw [Function.update_of_ne own] at within untouched
                exact ⟨within, fun absent => untouched (by simp_all)⟩

/-- Disconnecting, argument by argument. -/
theorem disconnectEach_eq {base : Base} (order : List (Option Nat)) :
    (sockets : Sockets) → (index : Nat) →
    disconnectEach base order sockets index =
      if some index ∈ order then (sockets index).disconnect base else sockets index := by
  induction order with
  | nil => intro sockets index; rfl
  | cons argument order ih =>
      intro sockets index
      cases argument with
      | none => simp [disconnectEach, ih]
      | some current =>
          rw [disconnectEach, ih]
          by_cases own : index = current
          · subst own
            simp [Socket.disconnect, Socket.keyOf, erase]
          · simp [own]

/-- When all calls return, each socket of the group has a connector for the base: the
one it had, or else a new one. -/
theorem connectEach_returned {group : List (Option Nat)} {kind : Connector} {base : Base}
    (order : List (Option Nat)) :
    (made : Nat → Bool) → (sockets : Sockets) → (index : Nat) →
    (connectEach group kind base order made sockets).2 = false →
    ((connectEach group kind base order made sockets).1 index).connectors =
      if some index ∈ order then
        emplace (sockets index).connectors ((sockets index).keyOf base) kind
      else (sockets index).connectors := by
  induction order with
  | nil => exact fun made sockets index _ => rfl
  | cons argument order ih =>
      intro made sockets index
      cases argument with
      | none =>
          simp only [connectEach, List.mem_cons, reduceCtorEq, false_or]
          exact ih _ sockets index
      | some current =>
          simp only [connectEach]
          cases connected : (sockets current).connect kind base
              (sockets.makes group kind ((sockets current).keyOf base) (made 0)) with
          | none => exact fun returned => Bool.noConfusion returned
          | some socket =>
              intro returned
              obtain rfl := connect_eq_some connected
              rw [ih _ _ index returned]
              by_cases own : index = current
              · -- The socket may come again, and then keeps the connector it has.
                subst own
                simp [Socket.keyOf, emplace_emplace]
              · simp [own]

section Outcomes

variable {kind : Connector} {base : Base} {arguments order undo : List (Option Nat)}
variable {made : Nat → Bool} {sockets after : Sockets}

/-- A group throws if one of its calls does, and then disconnects. -/
theorem connectGroup_eq {thrown : Bool}
    (outcome : connectGroup kind base order undo made sockets = (after, thrown)) :
    (connectEach order kind base order made sockets).2 = thrown ∧
      after = if thrown then
        disconnectEach base undo (connectEach order kind base order made sockets).1
      else (connectEach order kind base order made sockets).1 := by
  unfold connectGroup at outcome
  cases calls : connectEach order kind base order made sockets with
  | mk middle failed =>
      rw [calls] at outcome
      cases failed with
      | false =>
          obtain ⟨rfl, rfl⟩ := Prod.mk.inj outcome
          exact ⟨rfl, rfl⟩
      | true =>
          obtain ⟨rfl, rfl⟩ := Prod.mk.inj outcome
          exact ⟨rfl, rfl⟩

theorem connectGroup_pattern {thrown : Bool}
    (outcome : connectGroup kind base order undo made sockets = (after, thrown))
    (index : Nat) : (after index).pattern = (sockets index).pattern := by
  have within := (@connectEach_within order kind base order made sockets index).1
  rw [(connectGroup_eq outcome).2, ← within.pattern]
  cases thrown with
  | false => rfl
  | true =>
      rw [if_pos rfl, disconnectEach_eq]
      split_ifs
      · rfl
      · rfl

/-- A group that returns has made the connectors that were missing. -/
theorem connectGroup_returned (evaluated : order.Perm arguments)
    (returned : connectGroup kind base order undo made sockets = (after, false))
    (index : Nat) :
    (after index).connectors =
      if some index ∈ arguments then
        emplace (sockets index).connectors ((sockets index).keyOf base) kind
      else (sockets index).connectors := by
  obtain ⟨calls, rfl⟩ := connectGroup_eq returned
  have connectors := connectEach_returned order made sockets index calls
  simp only [evaluated.mem_iff] at connectors
  exact connectors

/-- A group that throws has erased the connectors for the base, old and new. -/
theorem connectGroup_thrown (evaluated : order.Perm arguments)
    (undone : undo.Perm arguments)
    (thrown : connectGroup kind base order undo made sockets = (after, true))
    (index : Nat) :
    (after index).connectors =
      if some index ∈ arguments then
        erase (sockets index).connectors ((sockets index).keyOf base)
      else (sockets index).connectors := by
  obtain ⟨_, rfl⟩ := connectGroup_eq thrown
  obtain ⟨within, untouched⟩ := @connectEach_within order kind base order made sockets index
  rw [if_pos rfl, disconnectEach_eq]
  by_cases member : some index ∈ arguments
  · rw [if_pos (undone.mem_iff.mpr member), if_pos member, ← within.others,
      Socket.disconnect, Socket.keyOf, within.pattern, Socket.keyOf]
  · rw [if_neg (by rwa [undone.mem_iff]), if_neg member,
      untouched (by rwa [evaluated.mem_iff])]

end Outcomes

/-- A group that throws leaves every socket with the connectors it had, exactly when no
socket of the group had a connector for the base before. -/
theorem group_atomic_iff {kind : Connector} {base : Base}
    {arguments order undo : List (Option Nat)} (evaluated : order.Perm arguments)
    (undone : undo.Perm arguments) {made : Nat → Bool} {sockets after : Sockets}
    (thrown : connectGroup kind base order undo made sockets = (after, true)) :
    (∀ index, (after index).connectors = (sockets index).connectors) ↔
      ∀ index, some index ∈ arguments →
        (sockets index).connectors ((sockets index).keyOf base) = none := by
  have connectors := connectGroup_thrown evaluated undone thrown
  constructor
  · intro same index member
    have erased := (connectors index).symm.trans (same index)
    rw [if_pos member] at erased
    exact erase_eq_self_iff.mp erased
  · intro absent index
    rw [connectors index]
    split_ifs with member
    · exact erase_of_none (absent index member)
    · rfl

end Sockets

/-! ## Opening a server -/

/-- The host sockets of a server: those of `reply`, `publish` and `pull`. -/
def hostSockets : Sockets := fun index =>
  ⟨if index = 0 then .reqRep else if index = 1 then .pubSub else .pushPull, true,
    fun _ => none⟩

/-- `Server::open`, when nothing but NNG's rule stands in the way. -/
def openServer (base : Base) (sockets : Sockets) : Sockets × Bool :=
  sockets.connectGroup .listener base [some 0, some 1, some 2] [some 0, some 1, some 2]
    fun _ => true

/-- Opening the same address twice throws, and leaves the server listening nowhere. -/
theorem second_open_closes :
    let base := Base.inProc (ascii "a")
    let first := openServer base hostSockets
    let second := openServer base first.1
    first.2 = false ∧ second.2 = true ∧
      (∀ index < 3, (first.1 index).connectors ((first.1 index).keyOf base) =
        some .listener) ∧
      ∀ index < 3, (second.1 index).connectors ((first.1 index).keyOf base) = none := by
  decide +kernel

/-- The last of three sockets cannot dial. -/
theorem group_atomic_third_fails :
    ∃ after, hostSockets.connectGroup .dialer (Base.inProc (ascii "a"))
        [some 2, none, some 0, some 1] [some 0, some 1, none, some 2]
        (fun call => decide (call < 3)) = (after, true) ∧
      ∀ index, (after index).connectors = (hostSockets index).connectors := by
  have thrown : hostSockets.connectGroup .dialer (Base.inProc (ascii "a"))
      [some 2, none, some 0, some 1] [some 0, some 1, none, some 2]
      (fun call => decide (call < 3)) = (_, true) := rfl
  exact ⟨_, thrown, (Sockets.group_atomic_iff (List.Perm.refl _) (by decide) thrown).mpr
    fun index _ => rfl⟩

/-! ## The server's own view -/

/-- A socket as the server's callbacks know it: its pattern and the keys of its
connectors. -/
structure Serves (socket : Socket) (pattern : Pattern) (keys : Connectors) : Prop where
  pattern : socket.pattern = pattern
  listed : ∀ address, (socket.connectors address).isSome ↔ address ∈ keys

namespace Serves

variable {socket next : Socket} {pattern : Pattern} {keys : Connectors} {base : Base}

theorem listen {kind : Connector} (serves : Serves socket pattern keys)
    (samePattern : next.pattern = socket.pattern)
    (connectors : next.connectors =
      emplace socket.connectors (socket.keyOf base) kind) :
    Serves next pattern (keys.listen (base.address pattern)) := by
  refine ⟨samePattern.trans serves.pattern, fun address => ?_⟩
  rw [connectors, isSome_emplace, serves.listed, Socket.keyOf, serves.pattern,
    Connectors.listen]
  by_cases present : base.address pattern ∈ keys
  · rw [if_pos present, or_iff_left_of_imp]
    rintro rfl
    exact present
  · rw [if_neg present, List.mem_append, List.mem_singleton]

theorem disconnect (serves : Serves socket pattern keys)
    (samePattern : next.pattern = socket.pattern)
    (connectors : next.connectors = erase socket.connectors (socket.keyOf base)) :
    Serves next pattern (keys.disconnect (base.address pattern)) := by
  refine ⟨samePattern.trans serves.pattern, fun address => ?_⟩
  rw [connectors, isSome_erase, serves.listed, Socket.keyOf, serves.pattern,
    Connectors.disconnect, List.mem_filter, decide_eq_true_eq, and_comm]

end Serves

/-- The sockets of `reply`, `publish` and `pull` have the connectors that the server
knows of. -/
structure Hosts (sockets : Sockets) (server : ServerState) : Prop where
  reply : Serves (sockets 0) .reqRep server.reply
  publish : Serves (sockets 1) .pubSub server.publish.connectors
  pull : Serves (sockets 2) .pushPull server.pull

theorem hosts_unopened (addressInternal : Bytes) (routes : Nat → RouteSockets) :
    Hosts hostSockets (.unopened addressInternal routes) := by
  refine ⟨⟨rfl, fun address => ?_⟩, ⟨rfl, fun address => ?_⟩, ⟨rfl, fun address => ?_⟩⟩ <;>
    simp [hostSockets, ServerState.unopened]

/-- However the calls of `Listen` are ordered and whichever of them fail, the server's
sockets are afterwards as `Server::open` has it. -/
theorem Hosts.openAt {sockets after : Sockets} {server : ServerState} {base : Base}
    {order undo : List (Option Nat)} {made : Nat → Bool} {thrown : Bool}
    (hosts : Hosts sockets server) (evaluated : order.Perm [some 0, some 1, some 2])
    (undone : undo.Perm [some 0, some 1, some 2])
    (outcome : sockets.connectGroup .listener base order undo made = (after, thrown)) :
    Hosts after (server.openAt base thrown) := by
  have patterns := Sockets.connectGroup_pattern outcome
  cases thrown with
  | false =>
      have connectors := Sockets.connectGroup_returned evaluated outcome
      exact ⟨hosts.reply.listen (patterns 0) (connectors 0),
        hosts.publish.listen (patterns 1) (connectors 1),
        hosts.pull.listen (patterns 2) (connectors 2)⟩
  | true =>
      have connectors := Sockets.connectGroup_thrown evaluated undone outcome
      exact ⟨hosts.reply.disconnect (patterns 0) (connectors 0),
        hosts.publish.disconnect (patterns 1) (connectors 1),
        hosts.pull.disconnect (patterns 2) (connectors 2)⟩

theorem Hosts.close {sockets : Sockets} {server : ServerState} {base : Base}
    {order : List (Option Nat)} (hosts : Hosts sockets server)
    (evaluated : order.Perm [some 0, some 1, some 2]) :
    Hosts (sockets.disconnectEach base order) (server.close base) := by
  have disconnected : ∀ index, some index ∈ [some 0, some 1, some 2] →
      sockets.disconnectEach base order index = (sockets index).disconnect base := by
    intro index member
    rw [Sockets.disconnectEach_eq, if_pos (evaluated.mem_iff.mpr member)]
  constructor
  · rw [disconnected 0 (by decide)]
    exact hosts.reply.disconnect rfl rfl
  · rw [disconnected 1 (by decide)]
    exact hosts.publish.disconnect rfl rfl
  · rw [disconnected 2 (by decide)]
    exact hosts.pull.disconnect rfl rfl

end Telling.Server
