import SoupBin.ClientFeed
import SoupBin.ClientStages
import SoupBin.Receiving
import SoupBin.StreamNumbers

/-!
# The numbers a connection counts

A connection of the client counts the Sequenced Data packets that it is sent,
from the number in the response to its login. Nothing that happens to the other
connections, and nothing the user does, disturbs the count.
-/

namespace SoupBin.ClientSide
open Receiving

/-- What a packet does to a connection: its state and number `before` and `after`,
and what arrives at the client. -/
inductive Reads (packet : ReadPacket) (before after : Option (State × Nat)) :
    List (Nat × Bytes) → Prop where
  | dropped : after = none → Reads packet before after []
  | passed : after = before → Uncounted (content packet) → Reads packet before after []
  | login (m : Nat) : packet.packetType = LoginAcceptedPacket.packetType →
      before = some (.connected, m) →
      after = some (.loggedIn, (LoginAcceptedPacket.read packet.payload).nextSequenceNumber) →
      Reads packet before after []
  | data (n : Nat) : packet.packetType = SequencedDataPacket.packetType →
      before = some (.loggedIn, n) →
      after = none ∨ after = some (.loggedIn, (n + 1) % 2 ^ 64) →
      Reads packet before after [(n, packet.payload)]

theorem Reads.quiet {packet : ReadPacket} {before after after' : Option (State × Nat)}
    {arrived : List (Nat × Bytes)} (h : Reads packet before after arrived)
    (hq : after' = none ∨ after' = after) : Reads packet before after' arrived := by
  rcases hq with hnone | rfl
  · cases h with
    | data n htype hbefore _ => exact .data n htype hbefore (Or.inl hnone)
    | _ => exact .dropped hnone
  · exact h

namespace Client

/-- The connection `i` has been delivered a packet, and no other has. -/
structure Heeds (i : Nat) (packet : ReadPacket) (c c' : Client) : Prop where
  others : ∀ j, i ≠ j → c'.live j = none ∨ c'.live j = c.live j
  reads : ∃ arrived, c'.arrivals = c.arrivals ++ arrived ∧
    Reads packet (c.live i) (c'.live i) arrived

variable {i : Nat} {packet : ReadPacket} {c c' c'' : Client}

theorem Heeds.quiet (h : Heeds i packet c c') (hq : Quiet c' c'') : Heeds i packet c c'' := by
  obtain ⟨arrived, harrivals, hreads⟩ := h.reads
  refine ⟨fun j hj => ?_, arrived, hq.arrivals.trans harrivals, hreads.quiet (hq.live i)⟩
  rcases hq.live j with hn | he
  · exact Or.inl hn
  · rw [he]
    exact h.others j hj

theorem Quiet.heeds (hq : Quiet c c') (h : Uncounted (content packet)) : Heeds i packet c c' := by
  refine ⟨fun j _ => hq.live j, [], ?_, ?_⟩
  · rw [hq.arrivals, List.append_nil]
  · rcases hq.live i with hn | he
    · exact .dropped hn
    · exact .passed he h

/-- The connection is not live any more. -/
theorem Quiet.dropped (hq : Quiet c c') (hn : c'.live i = none) : Heeds i packet c c' := by
  refine ⟨fun j _ => hq.live j, [], ?_, .dropped hn⟩
  rw [hq.arrivals, List.append_nil]

theorem live_of_closing (h : (c.tcpState i).isClosing = true) : c.live i = none := by
  rw [live]
  cases hc : c.connections[i]? with
  | none => rfl
  | some conn =>
    rw [Option.bind_some, Connection.live]
    cases ht : conn.connection with
    | none => rfl
    | some t =>
      simp only [tcpState, tcp?, hc, Option.bind_some, ht, Option.map_some, Option.getD_some,
        ConnectionState.isClosing, Bool.or_eq_true, beq_iff_eq] at h
      dsimp only
      rcases h with h | h <;> simp [h]

/-- Another connection does what it likes. -/
theorem live_elsewhere {j : Nat} (hj : i ≠ j) (c : Client) (f : Connection → Connection) :
    (c.updateConnection i f).live j = c.live j := by
  rw [live_updateConnection, if_neg hj]

section
variable {user : User} (hu : ∀ cb c, Quiet c (user cb c)) (faults : Faults)
include hu

theorem heeds_processLoginAccepted (hpacket : packet.packetType = LoginAcceptedPacket.packetType) :
    ((c.processLoginAccepted user faults i packet.payload).1 = .none →
      Heeds i packet c (c.processLoginAccepted user faults i packet.payload).2) ∧
    ((c.processLoginAccepted user faults i packet.payload).1 ≠ .none →
      (c.processLoginAccepted user faults i packet.payload).2 = c) := by
  unfold processLoginAccepted
  split
  · exact ⟨by simp, fun _ => rfl⟩
  · split
    · exact ⟨by simp, fun _ => rfl⟩
    · rename_i hs
      obtain ⟨conn, hc, hl⟩ := live_of_state i (not_not.mp hs) (Or.inl rfl)
      dsimp only
      split
      · exact ⟨by simp, fun _ => rfl⟩
      · -- the connection is logged in, and then the response is taken or not
        generalize hresponse : LoginAcceptedPacket.read packet.payload = response
        generalize hc₁ : (c.updateTcp i fun t =>
          (t.updateLoginTimer LoginTimer.stop).setState .loggedIn) = c₁
        have hothers₁ (j : Nat) (hj : i ≠ j) : c₁.live j = c.live j := by
          rw [← hc₁]
          exact live_elsewhere hj c _
        have harrivals₁ : c₁.arrivals = c.arrivals := by
          rw [← hc₁]
          rfl
        have hlive₁ : c₁.live i = some (.loggedIn, conn.nextSequenceNumber) := by
          obtain ⟨conn', t, hconn', ht, -, -⟩ := live_of_tcp hl
          cases hc.symm.trans hconn'
          rw [← hc₁, updateTcp, live_updateConnection, if_pos rfl, hc, Option.bind_some]
          simp [Connection.live, Connection.updateTcp, ht, TcpConnection.setState,
            ConnectionState.setState]
        have taken (c₂ : Client) (hothers₂ : ∀ j, c₂.live j = c₁.live j)
            (harrivals₂ : c₂.arrivals = c₁.arrivals) :
            Heeds i packet c (c₂.acceptLogin i response) := by
          refine ⟨fun j hj => Or.inr ?_, [], ?_, .login conn.nextSequenceNumber hpacket hl ?_⟩
          · rw [acceptLogin_live_other hj, hothers₂, hothers₁ j hj]
          · rw [acceptLogin_arrivals, harrivals₂, harrivals₁, List.append_nil]
          · have hlive₂ := hothers₂ i
            rw [hlive₁] at hlive₂
            obtain ⟨conn₂, t₂, hconn₂, ht₂, hstate₂, -⟩ := live_of_tcp hlive₂
            have hafter : (c₂.acceptLogin i response).live i =
                (c₂.updateConnection i (·.accept response)).live i := rfl
            rw [hafter, live_updateConnection, if_pos rfl, hconn₂, Option.bind_some, hresponse]
            simp [Connection.live, Connection.accept, ht₂, hstate₂]
        have hlogin : (c₁.onLoginSuccess i response).1 = .none →
            Heeds i packet c (c₁.onLoginSuccess i response).2 := by
          obtain ⟨conn₁, t₁, hconn₁, -, -, -⟩ := live_of_tcp hlive₁
          simp only [onLoginSuccess, hconn₁]
          split
          · simp
          · split
            · split
              · simp
              · split
                · simp
                · exact fun _ => taken c₁ (fun _ => rfl) rfl
            · split
              · exact fun _ => taken (c₁.setNextSequenceNumber response.nextSequenceNumber)
                  (fun _ => rfl) rfl
              · split
                · simp
                · exact fun _ => taken c₁ (fun _ => rfl) rfl
        have hrefused : (c₁.onLoginSuccess i response).1 ≠ .none →
            (c₁.onLoginSuccess i response).2 = c₁ := by
          obtain ⟨conn₁, t₁, hconn₁, -, -, -⟩ := live_of_tcp hlive₁
          simp only [onLoginSuccess, hconn₁]
          split
          · simp
          · split
            · split
              · simp
              · split <;> simp
            · split
              · simp
              · split <;> simp
        by_cases hr : (c₁.onLoginSuccess i response).1 = .none
        · rw [if_pos hr]
          refine ⟨fun _ => ?_, fun hne => absurd rfl hne⟩
          have hq := ((quiet_tcpCallback hu i (.loginSuccess response)
            (c₁.onLoginSuccess i response).2).trans (quiet_updateTcp _ i
              (f := (·.setHeartbeatTimerStopped false)) fun _ => Or.inl rfl))
          exact (hlogin hr).quiet ((quiet_heartbeatTimer hu i _).start _ _
            (·.trans (quiet_updateTcp _ i fun _ => Or.inl rfl)) hq)
        · rw [if_neg hr, hrefused hr]
          refine ⟨fun _ => ⟨fun j hj => Or.inr ?_, [], ?_, .dropped ?_⟩, fun hne => absurd rfl hne⟩
          · rw [tcpDisconnect, updateTcp, live_elsewhere hj, hothers₁ j hj]
          · rw [List.append_nil]
            exact harrivals₁
          · exact live_disconnect c₁ i _

theorem heeds_processSequencedData (hpacket : packet.packetType = SequencedDataPacket.packetType) :
    ((c.processSequencedData user i packet.payload).1 = .none →
      Heeds i packet c (c.processSequencedData user i packet.payload).2) ∧
    ((c.processSequencedData user i packet.payload).1 ≠ .none →
      (c.processSequencedData user i packet.payload).2 = c) := by
  unfold processSequencedData
  split
  · exact ⟨by simp, fun _ => rfl⟩
  · rename_i hs
    split
    · exact ⟨by simp, fun _ => rfl⟩
    · refine ⟨fun _ => ?_, fun hne => absurd rfl hne⟩
      obtain ⟨conn, -, hl⟩ := live_of_state i (not_not.mp hs) (Or.inr rfl)
      have hq : Quiet c (c.updateTcp i
          (·.updateHeartbeatTimer HeartbeatTimer.incrementReceiveCount)) :=
        quiet_updateTcp c i fun _ => Or.inl rfl
      have hlive : (c.updateTcp i (·.updateHeartbeatTimer HeartbeatTimer.incrementReceiveCount)).live
          i = c.live i := live_updateTcp_same c i fun _ => rfl
      generalize c.updateTcp i
        (·.updateHeartbeatTimer HeartbeatTimer.incrementReceiveCount) = c₁ at hq hlive
      rw [hl] at hlive
      obtain ⟨conn₁, t₁, hconn₁, -, -, hn⟩ := live_of_tcp hlive
      simp only [connectionOnSequencedData, hconn₁, hn]
      generalize hc₂ : c₁.updateConnection i
        (·.setNextSequenceNumber ((conn.nextSequenceNumber + 1) % 2 ^ 64)) = c₂
      have hlive₂ : c₂.live i = some (.loggedIn, (conn.nextSequenceNumber + 1) % 2 ^ 64) := by
        rw [← hc₂, live_updateConnection, if_pos rfl, hconn₁, Option.bind_some, live_number]
        rw [live, hconn₁, Option.bind_some] at hlive
        rw [hlive]
        rfl
      have hothers₂ (j : Nat) (hj : i ≠ j) : c₂.live j = c₁.live j := by
        rw [← hc₂]
        exact live_elsewhere hj c₁ _
      have hafter (j : Nat) : (c₂.onSequencedData user conn.nextSequenceNumber packet.payload).live j
          = none ∨ (c₂.onSequencedData user conn.nextSequenceNumber packet.payload).live j =
            c₂.live j := by
        unfold onSequencedData
        dsimp only
        split
        · exact Or.inr rfl
        · split
          · exact Or.inr rfl
          · rename_i hhandler _
            exact (quiet_called hu _ (.sequencedData conn.nextSequenceNumber packet.payload)
              ((c₂.log (.arrived conn.nextSequenceNumber packet.payload)).setNextSequenceNumber
                ((conn.nextSequenceNumber + 1) % 2 ^ 64))).live j
      refine ⟨fun j hj => ?_, [(conn.nextSequenceNumber, packet.payload)], ?_,
        .data conn.nextSequenceNumber hpacket hl ?_⟩
      · rcases hafter j with hn | he
        · exact Or.inl hn
        · rw [he, hothers₂ j hj]
          exact hq.live j
      · rw [arrivals_onSequencedData hu, ← hq.arrivals, ← hc₂]
        rfl
      · rw [← hlive₂]
        exact hafter i

/-- A packet is taken, or refused, and then it has changed nothing. -/
theorem heeds_processPacket (packet : ReadPacket) (c : Client) :
    ((c.processPacket user faults i packet).1 = .none →
      Heeds i packet c (c.processPacket user faults i packet).2) ∧
    ((c.processPacket user faults i packet).1 ≠ .none →
      (c.processPacket user faults i packet).2 = c) := by
  have hcount : Quiet c (c.updateTcp i
      (·.updateHeartbeatTimer HeartbeatTimer.incrementReceiveCount)) :=
    quiet_updateTcp c i fun _ => Or.inl rfl
  have uncounted {type : UInt8} (h : packet.packetType = type) (hlogin :
      type ≠ LoginAcceptedPacket.packetType ∧ type ≠ SequencedDataPacket.packetType) :
      Uncounted (content packet) := by
    rw [← h] at hlogin
    exact hlogin
  unfold processPacket
  dsimp only
  split
  · rename_i htype
    exact ⟨fun _ => (quiet_tcpCallback hu i _ c).heeds (uncounted htype (by decide)),
      fun hne => absurd rfl hne⟩
  · split
    · rename_i htype
      exact heeds_processLoginAccepted hu faults htype
    · split
      · rename_i htype
        constructor
        · exact fun _ => (quiet_processLoginRejected hu i _ c).heeds (uncounted htype (by decide))
        · unfold processLoginRejected
          split
          · exact fun _ => rfl
          · split
            · exact fun _ => rfl
            · exact fun hne => absurd rfl hne
      · split
        · rename_i htype
          exact heeds_processSequencedData hu htype
        · split
          · rename_i htype
            unfold processServerHeartbeat
            split
            · exact ⟨by simp, fun _ => rfl⟩
            · split
              · exact ⟨by simp, fun _ => rfl⟩
              · exact ⟨fun _ => hcount.heeds (uncounted htype (by decide)),
                  fun hne => absurd rfl hne⟩
          · split
            · rename_i htype
              unfold processEndOfSession
              split
              · exact ⟨by simp, fun _ => rfl⟩
              · split
                · exact ⟨by simp, fun _ => rfl⟩
                · exact ⟨fun _ => (hcount.trans (quiet_onEndOfSession hu i _)).heeds
                    (uncounted htype (by decide)), fun hne => absurd rfl hne⟩
            · exact ⟨by simp, fun _ => rfl⟩

theorem heeds_readSuccess (packet : ReadPacket) (c : Client) :
    Heeds i packet c (c.readSuccess user faults i packet) := by
  obtain ⟨htaken, hrefused⟩ := heeds_processPacket hu faults (i := i) packet c
  unfold readSuccess
  split
  · rename_i hclosing
    exact (Quiet.refl c).dropped (live_of_closing hclosing)
  · have hreported : Heeds i packet c
        (if (c.processPacket user faults i packet).1 ≠ .none then
          (c.processPacket user faults i packet).2.handleProtocolViolation user i
            (c.processPacket user faults i packet).1
        else (c.processPacket user faults i packet).2) := by
      split
      · rename_i herror
        rw [hrefused herror]
        exact (quiet_handleProtocolViolation hu i _ c).dropped (live_disconnect _ i _)
      · rename_i herror
        exact htaken (not_not.mp herror)
    dsimp only
    revert hreported
    generalize (if (c.processPacket user faults i packet).1 ≠ .none then
      (c.processPacket user faults i packet).2.handleProtocolViolation user i
        (c.processPacket user faults i packet).1
      else (c.processPacket user faults i packet).2) = c'
    intro hreported
    split
    · exact hreported
    · exact hreported.quiet (quiet_updateTcp c' i (calm_socket Socket.asyncRead))

/-- Once it is connected, a connection has been sent nothing yet. -/
theorem live_connectSuccess (c : Client) :
    (c.connectSuccess user faults i).arrivals = c.arrivals ∧
      (∀ j, i ≠ j → (c.connectSuccess user faults i).live j = none ∨
        (c.connectSuccess user faults i).live j = c.live j) ∧
      ∀ state n, (c.connectSuccess user faults i).live i = some (state, n) → state = .connected := by
  generalize hc₁ : c.updateTcp i (·.setState .connected) = c₁
  have harrivals₁ : c₁.arrivals = c.arrivals := by
    rw [← hc₁]
    rfl
  have hothers₁ (j : Nat) (hj : i ≠ j) : c₁.live j = c.live j := by
    rw [← hc₁]
    exact live_elsewhere hj c _
  have hlive₁ (state : State) (n : Nat) (hl : c₁.live i = some (state, n)) : state = .connected := by
    obtain ⟨conn, t, hconn, ht, hs, -⟩ := live_of_tcp hl
    rw [← hc₁, updateTcp, getElem?_updateConnection, if_pos rfl, Option.map_eq_some_iff] at hconn
    obtain ⟨conn₀, -, rfl⟩ := hconn
    simp only [Connection.updateTcp, Option.map_eq_some_iff] at ht
    obtain ⟨t₀, -, rfl⟩ := ht
    exact hs.symm
  have hq₂ := quiet_tcpCallback hu i .connectSuccess c₁
  generalize hc₂ : c₁.tcpCallback user i .connectSuccess = c₂ at hq₂
  have hasked : (c₂.onConnectSuccess i).2.arrivals = c₂.arrivals ∧
      (∀ j, i ≠ j → (c₂.onConnectSuccess i).2.live j = c₂.live j) ∧
      ∀ state n, (c₂.onConnectSuccess i).2.live i = some (state, n) →
        ∃ m, c₂.live i = some (state, m) := by
    unfold onConnectSuccess
    split
    · exact ⟨rfl, fun _ _ => rfl, fun state n hl => ⟨n, hl⟩⟩
    · rename_i conn hconn
      refine ⟨rfl, fun j hj => live_elsewhere hj c₂ _, fun state n hl => ?_⟩
      rw [live_updateConnection, if_pos rfl, hconn, Option.bind_some, live_number,
        Option.map_eq_some_iff] at hl
      obtain ⟨⟨state', m⟩, hl', heq⟩ := hl
      cases heq
      exact ⟨m, by rw [live, hconn]; exact hl'⟩
  have hrest : Quiet (c₂.onConnectSuccess i).2 (c.connectSuccess user faults i) := by
    have hq₄ := quiet_tcpCallback hu i (.loggingIn (c₂.onConnectSuccess i).1)
      (c₂.onConnectSuccess i).2
    have hq₅ := hq₄.trans (quiet_updateTcp _ i (f := (·.setLoginTimerStopped false))
      fun _ => Or.inl rfl)
    have hq₆ := (quiet_loginTimer hu i _).start faults.loginTimer hq₅
    have hq₇ := hq₆.trans (quiet_updateTcp _ i (calm_socket Socket.asyncRead))
    have hq₈ := hq₇.trans (quiet_updateTcp _ i (calm_write
      ((WritePacket.ofSize LoginRequestPacket.packetType LoginRequestPacket.payloadSize).writePayload
        (c₂.onConnectSuccess i).1.write)))
    rw [← hc₂, ← hc₁] at hq₈
    rw [← hc₂, ← hc₁]
    exact hq₈
  obtain ⟨harrivals, hothers, hhere⟩ := hasked
  refine ⟨?_, fun j hj => ?_, fun state n hl => ?_⟩
  · rw [hrest.arrivals, harrivals, hq₂.arrivals, harrivals₁]
  · rcases hrest.live j with hn | he
    · exact Or.inl hn
    · rw [he, hothers j hj, ← hothers₁ j hj]
      exact hq₂.live j
  · rcases hrest.live i with hn | he
    · rw [hn] at hl
      cases hl
    · rw [he] at hl
      obtain ⟨m, hm⟩ := hhere state n hl
      rcases hq₂.live i with hn | he
      · rw [hn] at hm
        cases hm
      · exact hlive₁ state m (he ▸ hm)

end

/-! ## Events -/

/-- The packet that the connection `i` is reading. -/
def readPacketOf (i : Nat) (c : Client) : ReadPacket :=
  let socket : Socket := ((c.tcp? i).map (·.socket)).getD {}
  socket.readPacket

/-- The packet that the event completes on the connection `i`. -/
def delivered (i : Nat) (event : Event) (c : Client) : Option ReadPacket :=
  match event with
  | .headerCompleted j (.ok bytes) =>
    let read := ({ c.readPacketOf i with header := bytes } : ReadPacket).resizePayload
    if j = i ∧ bytes.length = packetHeaderLength ∧ read.1 = .emptyPayload then some read.2 else none
  | .payloadCompleted j (.ok bytes) =>
    if j = i ∧ bytes.length = (c.readPacketOf i).payloadSize then
      some { c.readPacketOf i with payload := bytes }
    else none
  | _ => none

/-- The event connects the connection `i`. -/
def connects (i : Nat) : Event → Bool
  | .connectCompleted j none => j == i
  | _ => false

theorem readPacketOf_readDone (op : SocketOp) (c : Client) :
    (c.updateTcp i (·.updateSocket (Socket.readDone op))).readPacketOf i = c.readPacketOf i := by
  rw [readPacketOf, readPacketOf, tcp?_updateTcp]
  cases c.tcp? i <;> rfl

/-- The connection is live as before, or not any more. -/
def Aloof (i : Nat) (c c' : Client) : Prop := c'.live i = none ∨ c'.live i = c.live i

theorem Quiet.aloof (h : Quiet c c') (i : Nat) : Aloof i c c' := h.live i

theorem Aloof.trans (h : Aloof i c c') (h' : Aloof i c' c'') : Aloof i c c'' := by
  rcases h' with hn | he
  · exact Or.inl hn
  · rw [Aloof, he]
    exact h

section
variable {user : User} (hu : ∀ cb c, Quiet c (user cb c)) (faults : Faults)
include hu

theorem quiet_readFailed (i : Nat) (ec : IoError) (h : Quiet c c') :
    Quiet c ((socketHandler user faults i).readFailed ec c') :=
  (quiet_socket hu faults i c).untold.readFailed ec
    (fun _ h => (quiet_socket hu faults i c).readFailure ec _ h)
    (fun _ h => h.trans (quiet_tcpDisconnect i _ c')) h

/-- What another connection's socket does. -/
theorem aloof_socket {j : Nat} (hij : j ≠ i) (c : Client) :
    (socketHandler user faults j).Keeps (Aloof i c) where
  update f _ c' h := h.trans ((quiet_updateTcp c' j (calm_socket f)).aloof i)
  connectFailure ec c' h := h.trans ((quiet_handleConnectFailure hu j ec _ c').aloof i)
  connectSuccess c' h := h.trans ((live_connectSuccess hu faults c').2.1 i hij)
  readFailure ec c' h := h.trans ((quiet_handleTransportError hu j ec _ c').aloof i)
  readPacketFailure error c' h := h.trans ((quiet_handleProtocolViolation hu j error c').aloof i)
  readSuccess packet c' h := h.trans ((heeds_readSuccess hu faults packet c').others i hij)
  readAborted c' h := h.trans ((quiet_tcpDisconnect j _ c').aloof i)
  readEndOfFile c' h := h.trans ((quiet_tcpDisconnect j _ c').aloof i)
  writeFailure ec c' h := h.trans ((quiet_handleTransportError hu j ec _ c').aloof i)
  writeSuccess _ _ h := h
  writeBufferEmpty c' h := h.trans ((quiet_tcpCallback hu j _ c').aloof i)

omit hu in
/-- What the socket does before it delivers a packet. -/
theorem Heeds.after {f : Socket → Socket} (h : Heeds i packet (c.updateTcp i (·.updateSocket f)) c') :
    Heeds i packet c c' := by
  obtain ⟨arrived, harrivals, hreads⟩ := h.reads
  refine ⟨fun j hj => ?_, arrived, harrivals, ?_⟩
  · rw [← live_elsewhere hj c (·.updateTcp (·.updateSocket f))]
    exact h.others j hj
  · rw [← live_updateTcp_same c i (f := (·.updateSocket f)) fun _ => rfl]
    exact hreads

/-- A header that has been read is a packet, or leads on. -/
theorem header_completed (result : Except IoError Bytes) (c : Client) :
    (∀ packet, c.delivered i (.headerCompleted i result) = some packet →
      Heeds i packet c ((socketHandler user faults i).headerCompleted result c)) ∧
    (c.delivered i (.headerCompleted i result) = none →
      Quiet c ((socketHandler user faults i).headerCompleted result c)) := by
  have hkeeps := quiet_socket hu faults i c
  have hdone : Quiet c (c.updateTcp i (·.updateSocket (Socket.readDone .readHeader))) :=
    quiet_updateTcp c i (calm_socket _)
  cases result with
  | error ec =>
    refine ⟨fun _ h => (by cases h), fun _ => ?_⟩
    exact hkeeps.update _ .maybeSignalClosed _ (quiet_readFailed hu faults i ec hdone)
  | ok bytes =>
    have hread : ((socketHandler user faults i).socket ((socketHandler user faults i).update
        (Socket.readDone .readHeader) c)).readPacket = c.readPacketOf i :=
      readPacketOf_readDone .readHeader c
    by_cases hlength : bytes.length = packetHeaderLength
    · rcases hresult : ({ c.readPacketOf i with header := bytes } : ReadPacket).resizePayload with
        ⟨outcome, packet⟩
      have hset (packet : ReadPacket) : Quiet c ((socketHandler user faults i).update
          (Socket.setReadPacket packet) ((socketHandler user faults i).update
            (Socket.readDone .readHeader) c)) := hkeeps.update _ (.setReadPacket packet) _ hdone
      simp only [delivered, Socket.Handler.headerCompleted, Socket.Handler.headerReceived, hlength,
        hread, hresult, ne_eq, not_true_eq_false, if_false, true_and]
      cases outcome with
      | resized =>
        refine ⟨fun _ h => (by simp at h), fun _ => ?_⟩
        exact hkeeps.update _ .maybeSignalClosed _ (hkeeps.update _ .startReadPayload _ (hset _))
      | emptyPayload =>
        refine ⟨fun found h => ?_, fun h => (by simp at h)⟩
        simp only [if_true, Option.some.injEq] at h
        subst h
        refine Heeds.quiet ?_ (quiet_updateTcp _ i (calm_socket Socket.maybeSignalClosed))
        apply Heeds.after (f := Socket.readDone .readHeader)
        apply Heeds.after (f := Socket.setReadPacket packet)
        apply Heeds.after (f := Socket.setReadPacket {})
        exact heeds_readSuccess hu faults packet _
      | malformedHeader =>
        refine ⟨fun _ h => (by simp at h), fun _ => ?_⟩
        exact hkeeps.update _ .maybeSignalClosed _ (hkeeps.readPacketFailure _ _ (hset _))
    · simp only [delivered, Socket.Handler.headerCompleted, Socket.Handler.headerReceived, hlength,
        ne_eq, not_false_eq_true, if_true, false_and, and_false, if_false]
      refine ⟨fun _ h => (by cases h), fun _ => ?_⟩
      exact hkeeps.update _ .maybeSignalClosed _ (hkeeps.readFailure _ _ hdone)

theorem payload_completed (result : Except IoError Bytes) (c : Client) :
    (∀ packet, c.delivered i (.payloadCompleted i result) = some packet →
      Heeds i packet c ((socketHandler user faults i).payloadCompleted result c)) ∧
    (c.delivered i (.payloadCompleted i result) = none →
      Quiet c ((socketHandler user faults i).payloadCompleted result c)) := by
  have hkeeps := quiet_socket hu faults i c
  have hdone : Quiet c (c.updateTcp i (·.updateSocket (Socket.readDone .readPayload))) :=
    quiet_updateTcp c i (calm_socket _)
  cases result with
  | error ec =>
    refine ⟨fun _ h => (by cases h), fun _ => ?_⟩
    exact hkeeps.update _ .maybeSignalClosed _ (quiet_readFailed hu faults i ec hdone)
  | ok bytes =>
    have hread : ((socketHandler user faults i).socket ((socketHandler user faults i).update
        (Socket.readDone .readPayload) c)).readPacket = c.readPacketOf i :=
      readPacketOf_readDone .readPayload c
    by_cases hlength : bytes.length = (c.readPacketOf i).payloadSize
    · simp only [delivered, Socket.Handler.payloadCompleted, Socket.Handler.payloadReceived, hlength,
        hread, ne_eq, not_true_eq_false, if_false, and_self, if_true, Option.some.injEq]
      refine ⟨fun found h => ?_, fun h => (by cases h)⟩
      subst h
      refine Heeds.quiet ?_ (quiet_updateTcp _ i (calm_socket Socket.maybeSignalClosed))
      apply Heeds.after (f := Socket.readDone .readPayload)
      apply Heeds.after (f := Socket.setReadPacket {})
      exact heeds_readSuccess hu faults _ _
    · simp only [delivered, Socket.Handler.payloadCompleted, Socket.Handler.payloadReceived, hlength,
        hread, ne_eq, not_false_eq_true, if_true, and_false, if_false]
      refine ⟨fun _ h => (by cases h), fun _ => ?_⟩
      exact hkeeps.update _ .maybeSignalClosed _ (hkeeps.readFailure _ _ hdone)

end

/-- An event delivers one packet to the connection, and then this is all that it does
to its count, or none. -/
theorem handle_delivers (env : Env) (event : Event) (c : Client) :
    (∀ packet, c.delivered i event = some packet → Heeds i packet c (c.handle env event)) ∧
    (c.delivered i event = none → connects i event = false → Aloof i c (c.handle env event)) ∧
    (connects i event = true → c.delivered i event = none ∧
      ∀ state n, (c.handle env event).live i = some (state, n) → state = .connected) := by
  have hu := quiet_user env
  have quietly {event : Event} (hq : Quiet c (c.handle env event))
      (hnone : c.delivered i event = none) (hnot : connects i event = false) :
      (∀ packet, c.delivered i event = some packet → Heeds i packet c (c.handle env event)) ∧
      (c.delivered i event = none → connects i event = false → Aloof i c (c.handle env event)) ∧
      (connects i event = true → c.delivered i event = none ∧
        ∀ state n, (c.handle env event).live i = some (state, n) → state = .connected) := by
    refine ⟨fun packet h => ?_, fun _ _ => hq.aloof i, fun h => ?_⟩
    · rw [hnone] at h
      cases h
    · rw [hnot] at h
      cases h
  cases event with
  | connectCompleted j ec =>
    by_cases hj : j = i
    · subst hj
      cases ec with
      | none =>
        refine ⟨fun _ h => (by cases h), fun _ h => (by simp [connects] at h), fun _ => ⟨rfl, ?_⟩⟩
        intro state n hl
        have hsignalled := quiet_updateTcp ((socketHandler env.user (env.faults j) j).connectSuccess
          ((socketHandler env.user (env.faults j) j).update Socket.connectDone c)) j
          (calm_socket Socket.maybeSignalClosed)
        rcases hsignalled.live j with hn | he
        · exact absurd (hn.symm.trans hl) (by simp)
        · exact (live_connectSuccess hu (env.faults j) _).2.2 state n (he ▸ hl)
      | some ec =>
        exact quietly (quiet_handle env c (by simp) (by simp) (by simp)) rfl rfl
    · have haloof := (aloof_socket hu (env.faults j) hj c).connectCompleted ec (.inr rfl)
      refine ⟨fun _ h => (by cases h), fun _ _ => haloof, fun h => ?_⟩
      cases ec with
      | none => exact absurd (beq_iff_eq.mp h) hj
      | some ec => cases h
  | headerCompleted j result =>
    by_cases hj : j = i
    · subst hj
      obtain ⟨hpacket, hnone⟩ := header_completed hu (env.faults j) result c (i := j)
      exact ⟨hpacket, fun h _ => (hnone h).aloof j, fun h => (by cases h)⟩
    · have haloof := (aloof_socket hu (env.faults j) hj c).headerCompleted result (.inr rfl)
      refine ⟨fun packet h => ?_, fun _ _ => haloof, fun h => (by cases h)⟩
      cases result with
      | error ec => cases h
      | ok bytes => simp [delivered, hj] at h
  | payloadCompleted j result =>
    by_cases hj : j = i
    · subst hj
      obtain ⟨hpacket, hnone⟩ := payload_completed hu (env.faults j) result c (i := j)
      exact ⟨hpacket, fun h _ => (hnone h).aloof j, fun h => (by cases h)⟩
    · have haloof := (aloof_socket hu (env.faults j) hj c).payloadCompleted result (.inr rfl)
      refine ⟨fun packet h => ?_, fun _ _ => haloof, fun h => (by cases h)⟩
      cases result with
      | error ec => cases h
      | ok bytes => simp [delivered, hj] at h
  | _ => exact quietly (quiet_handle env c (by simp) (by simp) (by simp)) rfl rfl

/-! ## Runs -/

/-- The client, and what has come on one of its connections since it was connected:
the packets that were delivered, and what was passed on with its number. -/
structure Listener where
  client : Client
  heard : List (UInt8 × Bytes) := []
  told : List (Nat × Bytes) := []

namespace Listener

def next (i : Nat) (input : Event × Env) (l : Listener) : Listener :=
  let client := l.client.handle input.2 input.1
  if connects i input.1 then { client }
  else
    match l.client.delivered i input.1 with
    | none => { l with client }
    | some packet =>
      { client
        heard := l.heard ++ [content packet]
        told := l.told ++ client.arrivals.drop l.client.arrivals.length }

/-- The client, with an ear on the connection `i`. -/
def listening (i : Nat) : System Listener (Event × Env) where
  enabled input l := system.enabled input l.client
  next := next i

variable {i : Nat} {l l' : Listener} {inputs : List (Event × Env)}

theorem next_client (input : Event × Env) :
    (next i input l).client = l.client.handle input.2 input.1 := by
  unfold next
  dsimp only
  split
  · rfl
  · split <;> rfl

/-- To listen changes nothing. -/
theorem run_of_client {c : Client} (h : system.Run l.client inputs c) :
    (listening i).Run l inputs ((listening i).final l inputs) ∧
      ((listening i).final l inputs).client = c := by
  exact h.observed client (fun _ _ hi => hi) fun input _ => next_client input

/-- The number of the connection follows from what was delivered on it. -/
structure Follows (i : Nat) (l : Listener) : Prop where
  told : l.told <+: numbered l.heard
  connected : ∀ n, l.client.live i = some (.connected, n) → implied l.heard = none
  loggedIn : ∀ n, l.client.live i = some (.loggedIn, n) →
    implied l.heard = some n ∧ l.told = numbered l.heard

/-- A packet comes on the connection. -/
theorem Follows.heard {packet : ReadPacket} {c' : Client} (h : Follows i l)
    (hheeds : Heeds i packet l.client c') : Follows i
      { client := c'
        heard := l.heard ++ [content packet]
        told := l.told ++ c'.arrivals.drop l.client.arrivals.length } := by
  obtain ⟨arrived, harrivals, hreads⟩ := hheeds.reads
  rw [harrivals, List.drop_left]
  cases hreads with
  | dropped hnone =>
    rw [List.append_nil]
    refine ⟨h.told.trans (numbered_stays (List.prefix_append _ _)), ?_, ?_⟩
    · intro n hl
      cases hnone.symm.trans hl
    · intro n hl
      cases hnone.symm.trans hl
  | passed hsame huncounted =>
    have hskips : implied (l.heard ++ [content packet]) = implied l.heard ∧
        numbered (l.heard ++ [content packet]) = numbered l.heard :=
      uncounted_append fun other ho => (List.mem_singleton.mp ho) ▸ huncounted
    rw [List.append_nil]
    constructor
    · exact hskips.2 ▸ h.told
    · intro n hl
      exact hskips.1.trans (h.connected n (hsame ▸ hl))
    · intro n hl
      rw [hskips.1, hskips.2]
      exact h.loggedIn n (hsame ▸ hl)
  | login m htype hbefore hafter =>
    have hnone := h.connected m hbefore
    have hlogin : implied (l.heard ++ [content packet]) =
          some (LoginAcceptedPacket.read packet.payload).nextSequenceNumber ∧
        numbered (l.heard ++ [content packet]) = numbered l.heard := by
      rw [content, htype]
      exact login_append hnone packet.payload
    have htold : l.told = numbered l.heard := by
      rw [numbered_nil hnone]
      exact List.prefix_nil.mp (numbered_nil hnone ▸ h.told)
    rw [List.append_nil]
    refine ⟨hlogin.2 ▸ h.told, ?_, ?_⟩
    · intro n hl
      cases hafter.symm.trans hl
    · intro n hl
      cases hafter.symm.trans hl
      exact ⟨hlogin.1, htold.trans hlogin.2.symm⟩
  | data n htype hbefore hafter =>
    obtain ⟨hn, htold⟩ := h.loggedIn n hbefore
    have hdata : implied (l.heard ++ [content packet]) = some ((n + 1) % 2 ^ 64) ∧
        numbered (l.heard ++ [content packet]) = numbered l.heard ++ [(n, packet.payload)] := by
      rw [content, htype]
      exact data_append hn packet.payload
    have hall : l.told ++ [(n, packet.payload)] = numbered (l.heard ++ [content packet]) := by
      rw [hdata.2, htold]
    refine ⟨hall ▸ List.prefix_refl _, ?_, ?_⟩
    · intro m hl
      rcases hafter with hnone | hsome
      · cases hnone.symm.trans hl
      · cases hsome.symm.trans hl
    · intro m hl
      rcases hafter with hnone | hsome
      · cases hnone.symm.trans hl
      · cases hsome.symm.trans hl
        exact ⟨hdata.1, hall⟩

/-- Nothing comes on the connection. -/
theorem Follows.aloof {c' : Client} (h : Follows i l) (haloof : Aloof i l.client c') :
    Follows i { l with client := c' } := by
  have hback (state : State) (n : Nat) (hl : c'.live i = some (state, n)) :
      l.client.live i = some (state, n) := by
    rcases haloof with hnone | hsame
    · cases hnone.symm.trans hl
    · exact hsame ▸ hl
  exact ⟨h.told, fun n hl => h.connected n (hback _ n hl), fun n hl => h.loggedIn n (hback _ n hl)⟩

theorem follows_idle {c₀ : Client} (h₀ : Idle c₀) : Follows i { client := c₀ } := by
  have hnone := h₀.live i
  refine ⟨List.prefix_refl _, ?_, ?_⟩
  · intro n hl
    cases hnone.symm.trans hl
  · intro n hl
    cases hnone.symm.trans hl

theorem Follows.next (h : Follows i l) (input : Event × Env) : Follows i (next i input l) := by
  obtain ⟨hheeds, haloof, hconnects⟩ := handle_delivers input.2 input.1 l.client (i := i)
  unfold Listener.next
  dsimp only
  cases hc : connects i input.1 with
  | true =>
    rw [if_pos rfl]
    refine ⟨List.prefix_refl _, fun _ _ => rfl, fun n hl => ?_⟩
    cases (hconnects hc).2 _ n hl
  | false =>
    rw [if_neg Bool.false_ne_true]
    split
    · rename_i hnone
      exact h.aloof (haloof hnone hc)
    · rename_i packet hsome
      exact h.heard (hheeds packet hsome)

end Listener

/-- **A connection counts the packets that come on it.** In every run what a
connection passes on is a beginning of the Sequenced Data packets that were
delivered on it since it was connected, each with the number that follows from the
Login Accepted packet; and while the connection is logged in, it is all of them. -/
theorem connection_counts_its_stream (c₀ : Client) (h₀ : Idle c₀) (inputs : List (Event × Env))
    (c : Client) (hrun : system.Run c₀ inputs c) (i : Nat) :
    let l := (Listener.listening i).final { client := c₀ } inputs
    l.client = c ∧ l.told <+: numbered l.heard ∧
      ∀ n, c.live i = some (.loggedIn, n) → implied l.heard = some n ∧ l.told = numbered l.heard := by
  obtain ⟨hlistens, hclient⟩ := Listener.run_of_client (i := i) (l := { client := c₀ }) hrun
  have hfollows := hlistens.keeps (I := Listener.Follows i) (fun input l _ h => h.next input)
    (Listener.follows_idle h₀)
  exact ⟨hclient, hfollows.told, hclient ▸ hfollows.loggedIn⟩

theorem connection_counts_its_stream_one :
    let l := (Listener.listening 0).final { client := single } receivesOne
    l.heard.length = 2 ∧ l.told = [(1, [7])] ∧
      l.client = system.final single receivesOne ∧ l.told <+: numbered l.heard ∧
        ∀ n, (system.final single receivesOne).live 0 = some (.loggedIn, n) →
          implied l.heard = some n ∧ l.told = numbered l.heard := by
  have hidle : Idle single := ⟨rfl, rfl, rfl, by simp [single]⟩
  exact ⟨by decide +kernel, by decide +kernel, connection_counts_its_stream single hidle receivesOne
    _ (System.run_of_admits (by decide +kernel)) 0⟩

end Client

end SoupBin.ClientSide
