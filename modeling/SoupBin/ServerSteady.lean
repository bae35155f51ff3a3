import SoupBin.ServerGreeting
import SoupBin.ServerKeeping
import SoupBin.SocketLink
import SoupBin.StreamNumbers

/-!
# Where no login is answered

Most of what an acceptor does accepts no login and sends no message of the
user. It does not change what the peer counts.
-/

namespace SoupBin.ServerSide

namespace TcpConnection

/-- The packets that a connection has enqueued, as the peer reads them. -/
def stream (t : TcpConnection) : List (UInt8 × Bytes) := t.enqueued.map Socket.carried

/-- No login is accepted, and nothing is sent that counts. -/
structure Minor (t u : TcpConnection) : Prop where
  port : u.port = t.port
  state : u.state.state = t.state.state ∨ u.state.isClosing = true
  stream : ∃ more, u.stream = t.stream ++ more ∧ ∀ packet ∈ more, Uncounted packet

variable {t u v : TcpConnection}

theorem Minor.refl (t : TcpConnection) : Minor t t :=
  ⟨rfl, Or.inl rfl, [], (List.append_nil _).symm, fun _ h => absurd h List.not_mem_nil⟩

theorem Minor.trans (h : Minor t u) (h' : Minor u v) : Minor t v := by
  obtain ⟨more, heq, hmore⟩ := h.stream
  obtain ⟨more', heq', hmore'⟩ := h'.stream
  refine ⟨h'.port.trans h.port, ?_, more ++ more', ?_, ?_⟩
  · rcases h'.state with hs' | hc'
    · rcases h.state with hs | hc
      · exact Or.inl (hs'.trans hs)
      · right
        rw [ConnectionState.isClosing, hs']
        exact hc
    · exact Or.inr hc'
  · rw [heq', heq, List.append_assoc]
  · intro packet hp
    rcases List.mem_append.mp hp with hp | hp
    · exact hmore packet hp
    · exact hmore' packet hp

/-- Nothing is enqueued, and the connection may have been closed. -/
theorem minor_quiet (hport : u.port = t.port)
    (hstate : u.state.state = t.state.state ∨ u.state.isClosing = true)
    (henqueued : u.enqueued = t.enqueued) : Minor t u := by
  refine ⟨hport, hstate, [], ?_, fun _ h => absurd h List.not_mem_nil⟩
  rw [List.append_nil, stream, henqueued]
  rfl

theorem minor_same (hport : u.port = t.port) (hstate : u.state = t.state)
    (henqueued : u.enqueued = t.enqueued) : Minor t u :=
  minor_quiet hport (Or.inl (congrArg _ hstate)) henqueued

theorem stream_asyncWrite (packet : WritePacket) (t : TcpConnection) :
    (t.asyncWrite packet).2.stream =
      if t.socket.Takes then t.stream ++ [Socket.carried packet] else t.stream := by
  rw [stream, enqueued_asyncWrite]
  split
  · exact List.map_append
  · rfl

theorem minor_asyncWrite {packet : WritePacket} (h : Uncounted (Socket.carried packet))
    (t : TcpConnection) : Minor t (t.asyncWrite packet).2 := by
  refine ⟨rfl, Or.inl rfl, ?_⟩
  rw [stream_asyncWrite]
  split
  · refine ⟨[Socket.carried packet], rfl, fun q hq => ?_⟩
    rw [List.mem_singleton] at hq
    exact hq ▸ h
  · exact (Minor.refl t).stream

/-- Whether a packet counts is a matter of its type. -/
theorem uncounted_of_type {packet : WritePacket} {type : UInt8} (h : packet.packetType = type)
    (htype : type ≠ LoginAcceptedPacket.packetType ∧ type ≠ SequencedDataPacket.packetType) :
    Uncounted (Socket.carried packet) := by
  rw [← h] at htype
  exact htype

theorem minor_sendDebugPacket (text : Bytes) (t : TcpConnection) :
    Minor t (t.sendDebugPacket text).2 := by
  unfold TcpConnection.sendDebugPacket
  split
  · exact .refl t
  · exact minor_asyncWrite (uncounted_of_type (WritePacket.packetType_ofData _ _) (by decide)) t

theorem minor_disconnect (reason : DisconnectReason) (t : TcpConnection) :
    Minor t (t.disconnect reason) := by
  rcases t.disconnect_eq reason with ⟨heq, -⟩ | ⟨hstate, hsocket, hport⟩
  · rw [heq]
    exact .refl t
  · refine minor_quiet hport (Or.inr ?_) ?_
    · rw [ConnectionState.isClosing, hstate]
      rfl
    · rw [enqueued, hsocket]
      exact Socket.close_accepted _

theorem minor_prepareGracefulDisconnect (reason : DisconnectReason) (t : TcpConnection) :
    Minor t (t.prepareGracefulDisconnect reason) := by
  refine minor_quiet rfl (Or.inr ?_) rfl
  unfold TcpConnection.prepareGracefulDisconnect ConnectionState.initiateDisconnect
  split
  · assumption
  · rfl

theorem minor_internal {f : Socket → Socket} (hf : Socket.Handler.Internal f) (t : TcpConnection) :
    Minor t (t.updateSocket f) := minor_same rfl rfl (hf.accepted t.socket)

theorem minor_asyncRead (t : TcpConnection) : Minor t (t.updateSocket Socket.asyncRead) :=
  minor_same rfl rfl (Socket.asyncRead_accepted t.socket)

/-- What the peer has been told, a minor step does not change. -/
theorem Minor.counts (h : Minor t u) :
    implied u.stream = implied t.stream ∧ numbered u.stream = numbered t.stream := by
  obtain ⟨more, heq, hmore⟩ := h.stream
  rw [heq]
  exact uncounted_append hmore

theorem Minor.of_loggedIn (h : Minor t u) (hu : u.state.state = .loggedIn) :
    t.state.state = .loggedIn := by
  rcases h.state with hs | hc
  · rw [← hs, hu]
  · rw [ConnectionState.isClosing, hu] at hc
    cases hc

theorem Minor.of_connected (h : Minor t u) (hu : u.state.state = .connected) :
    t.state.state = .connected := by
  rcases h.state with hs | hc
  · rw [← hs, hu]
  · rw [ConnectionState.isClosing, hu] at hc
    cases hc

/-- The packet does not count. -/
def Uncounting (packet : WritePacket) : Prop := Uncounted (Socket.carried packet)

theorem gentle_minor : Gentle Uncounting Minor where
  same hport hstate hsocket :=
    minor_same hport hstate (congrArg Socket.acceptedPackets hsocket)
  trans := Minor.trans
  write := minor_asyncWrite
  disconnect := minor_disconnect
  reject := minor_prepareGracefulDisconnect

theorem OwnPacket.uncounting {packet : WritePacket} (h : OwnPacket packet) : Uncounting packet := by
  cases h with
  | heartbeat => exact uncounted_of_type rfl (by decide)
  | endOfSession => exact uncounted_of_type rfl (by decide)
  | rejected packet => exact uncounted_of_type (WritePacket.packetType_written _ _ _) (by decide)

/-- What the socket does for itself changes nothing that is enqueued. -/
theorem minor_steps {f : Socket → Socket} (hf : Socket.Handler.Internal f ∨ f = Socket.asyncRead)
    (t : TcpConnection) : Minor t (t.updateSocket f) := by
  rcases hf with hf | rfl
  · exact minor_internal hf t
  · exact minor_asyncRead t

end TcpConnection

end SoupBin.ServerSide
