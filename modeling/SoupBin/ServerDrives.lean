import SoupBin.ServerKeeping
import SoupBin.ServerLinks
import SoupBin.SocketOwners

/-!
# The sockets of an acceptor

To its socket a connection of the server is an owner like any other. Every run of
the acceptor takes the socket of each connection through a run of its own.
-/

namespace SoupBin.ServerSide
open Socket (Uses Does)

/-- The packets that a call offers satisfy `P`. -/
def Call.Offers (P : WritePacket → Prop) : Call → Prop
  | .sendMessage _ (.bytes data) => P (.ofData SequencedDataPacket.packetType data)
  | .sendDebug _ text | .setDebugBanner text => P (.ofData DebugPacket.packetType text)
  | _ => True

/-- So do the packets of the library. -/
structure Allows (P : WritePacket → Prop) : Prop where
  own : ∀ {packet}, TcpConnection.OwnPacket packet → P packet
  accepted : ∀ response : LoginAcceptedPacket, P ((WritePacket.ofSize LoginAcceptedPacket.packetType
    LoginAcceptedPacket.payloadSize).writePayload response.write)

theorem TcpConnection.gentle_uses (P : WritePacket → Prop) :
    Gentle P fun t u => Uses P t.socket u.socket where
  same _ _ hsocket := by
    rw [hsocket]
    exact .refl
  trans h h' := h.trans h'
  write hp _ := .write _ hp .refl
  disconnect reason t := by
    rcases t.disconnect_eq reason with ⟨heq, -⟩ | ⟨-, hsocket, -⟩
    · rw [heq]
      exact .refl
    · rw [hsocket]
      exact .close .refl
  reject _ _ := .refl

namespace Acceptor

/-- The socket of the connection `k` satisfies `R`, if the connection is still there,
and it is if it `stays`. -/
structure Holding (P : WritePacket → Prop) (R : Socket → Prop) (stays : Prop) (k : Nat)
    (s : Acceptor) : Prop where
  banner : s.debugBanner ≠ [] → P (.ofData DebugPacket.packetType s.debugBanner)
  there : stays → (s.tcp? k).isSome = true
  socket : ∀ t, s.tcp? k = some t → R t.socket

/-- What is done to the socket from inside callbacks keeps `R`. -/
def Lasting (P : WritePacket → Prop) (R : Socket → Prop) : Prop := ∀ {u v}, R u → Uses P u v → R v

variable {P : WritePacket → Prop} {R : Socket → Prop} {stays : Prop} {k : Nat} {s s' : Acceptor}
  {script : Script} {faults : Faults}

theorem lasting_uses (P : WritePacket → Prop) (o : Socket) : Lasting P (Uses P o) :=
  fun h h' => h.trans h'

theorem Holding.mono {Q : Socket → Prop} (h : Holding P R stays k s) (hQ : ∀ u, R u → Q u) :
    Holding P Q stays k s := ⟨h.banner, h.there, fun t ht => hQ _ (h.socket t ht)⟩

theorem Holding.same (h : Holding P R stays k s) (hb : s'.debugBanner = s.debugBanner)
    (hc : s'.connections = s.connections) : Holding P R stays k s' := by
  have ht : s'.tcp? k = s.tcp? k := by rw [tcp?, tcp?, hc]
  refine ⟨?_, ?_, ?_⟩
  · rw [hb]
    exact h.banner
  · rw [ht]
    exact h.there
  · rw [ht]
    exact h.socket

/-- One connection changes, this one or another. -/
theorem Holding.updateTcp {Q : Socket → Prop} (h : Holding P R stays k s) (j : Nat)
    {f : TcpConnection → TcpConnection}
    (hf : ∀ t, j = k → s.tcp? k = some t → R t.socket → Q (f t).socket)
    (hother : j ≠ k → ∀ u, R u → Q u) : Holding P Q stays k (s.updateTcp j f) := by
  refine ⟨h.banner, fun hs => ?_, fun u hu => ?_⟩
  · rw [tcp?_updateTcp]
    split
    · rw [Option.isSome_map]
      exact h.there hs
    · exact h.there hs
  · rw [tcp?_updateTcp] at hu
    split at hu
    · rename_i hj
      obtain ⟨t, ht, rfl⟩ := Option.map_eq_some_iff.mp hu
      exact hf t hj ht (h.socket t ht)
    · rename_i hj
      exact hother hj _ (h.socket u hu)

theorem Holding.used (h : Holding P R stays k s) (hR : Lasting P R) (j : Nat)
    {f : TcpConnection → TcpConnection} (hf : ∀ t, Uses P t.socket (f t).socket) :
    Holding P R stays k (s.updateTcp j f) :=
  h.updateTcp j (fun t _ _ hr => hR hr (hf t)) fun _ _ hr => hr

/-! ## Calls -/

theorem Holding.sendWith (h : Holding P R stays k s) (hR : Lasting P R)
    {send : TcpConnection → WriteError × TcpConnection}
    (hsend : ∀ t, Uses P t.socket (send t).2.socket) (connection : Option Nat) :
    Holding P R stays k (s.sendWith send connection).2 := by
  rcases s.sendWith_eq send connection with heq | ⟨j, -, heq⟩
  · rw [heq]
    exact h
  · rw [heq]
    exact h.used hR j hsend

theorem Holding.call (h : Holding P R stays k s) (hR : Lasting P R) {call : Call}
    (hcall : call.Offers P) : Holding P R stays k (call.run s) := by
  have g := TcpConnection.gentle_uses P
  cases call with
  | setSession session =>
    simp only [Call.run, setSession]
    split <;> exact h.same rfl rfl
  | start =>
    simp only [Call.run, start]
    split <;> exact h.same rfl rfl
  | endSession => exact h.same rfl rfl
  | stop => exact h.same rfl rfl
  | setHandler => exact h.same rfl rfl
  | setWritePacketsLimit limit => exact h.same rfl rfl
  | setDebugBanner banner =>
    exact ⟨fun _ => hcall, h.there, h.socket⟩
  | addPort username password handlerSet =>
    simp only [Call.run, Acceptor.addPort]
    split
    · exact h
    · split
      · exact h
      · split
        · exact h
        · exact h.same rfl rfl
  | setPortHandler p => exact h.same rfl rfl
  | setNextSequenceNumber p n => exact h.same rfl rfl
  | sendMessage p data =>
    simp only [Call.run, Acceptor.sendMessage]
    split
    · exact h
    · cases data with
      | null size => exact h
      | bytes data =>
        have hsent : Holding P R stays k
            (s.sendPacket p (.ofData SequencedDataPacket.packetType data)).2 := by
          unfold Acceptor.sendPacket
          split
          · exact h
          · split
            · exact h
            · exact h.sendWith hR (g.sendPacket hcall) _
        dsimp only
        split
        · exact hsent.same rfl rfl
        · exact hsent
  | sendDebug p text =>
    simp only [Call.run, Acceptor.sendDebug]
    split
    · exact h
    · split
      · exact h
      · exact h.sendWith hR (g.sendDebugPacket hcall) _

/-! ## Events of other connections -/

section
variable (hP : Allows P) (hR : Lasting P R)
  (hscript : ∀ cb, ∀ call ∈ script cb, call.Offers P)
include hP hR hscript

theorem steady_holding :
    Steady P (fun t u => Uses P t.socket u.socket) script (Holding P R stays k) where
  gentle := TcpConnection.gentle_uses P
  own := hP.own
  log _ _ _ h := h.same rfl rfl
  tcp j _ _ hf h := h.used hR j hf
  calls cb _ call hcall _ h := h.call hR (hscript cb call hcall)

theorem Holding.acceptLogin (h : Holding P R stays k s) (j : Nat) (response : LoginAcceptedPacket) :
    Holding P R stays k (s.acceptLogin script faults j response) := by
  have a : Steady P (fun t u => Uses P t.socket u.socket) script (Holding P R stays k) :=
    steady_holding hP hR hscript
  have hlogged : Holding P R stays k
      ((s.log (.loginAccepted j response)).updateTcp j (·.setState .loggedIn)) :=
    (h.same rfl rfl : Holding P R stays k (s.log (.loginAccepted j response))).used hR j
      fun _ => .refl
  have htold : Holding P R stays k (Acceptor.portCallback script j (.loginSuccess response)
      ((s.log (.loginAccepted j response)).updateTcp j (·.setState .loggedIn))) :=
    kept_portCallback a.log (fun q call hcall _ h => h.call hR (hscript _ call hcall)) hlogged
  have hflagged := htold.used hR j (f := (·.setHeartbeatTimerStopped false)) fun _ => .refl
  have hstarted := a.heartbeatTimer.start faults.heartbeatTimer faults.heartbeatSchedule
    (fun h => h.used hR j fun _ => .refl) hflagged
  exact a.write (hP.accepted response) hstarted

theorem Holding.processLoginRequest (h : Holding P R stays k s) (j : Nat) (data : Bytes) :
    Holding P R stays k (s.processLoginRequest script faults j data).2 := by
  have a : Steady P (fun t u => Uses P t.socket u.socket) script (Holding P R stays k) :=
    steady_holding hP hR hscript
  unfold Acceptor.processLoginRequest
  split
  · exact h
  · split
    · exact h
    · rw [answerLogin_eq]
      have hasked := a.acceptorCallback (k := j) (.loginRequest (.read data))
        (h.used hR j (f := (·.updateLoginTimer LoginTimer.stop)) fun _ => .refl)
      generalize (s.updateTcp j (·.updateLoginTimer LoginTimer.stop)).acceptorCallback script j
        (.loginRequest (.read data)) = asked at hasked
      split
      · rename_i response s' heq
        obtain ⟨p, port, freed, port', -, hfreed, -, -, -, rfl⟩ := onLoginRequest_accepted heq
        have hsuperseded : Holding P R stays k freed := by
          rcases hfreed with rfl | ⟨old, -, rfl⟩
          · exact hasked
          · exact a.tcpDisconnect _ hasked
        have hseated := (hsuperseded.same rfl rfl :
          Holding P R stays k (freed.updatePort p fun _ => port')).used hR j
            (f := (·.setPort p port'.handlerSet)) fun _ => .refl
        exact hseated.acceptLogin hP hR hscript j response
      · rename_i reject s' heq
        rw [onLoginRequest_rejected heq]
        exact a.rejectLogin reject hasked

theorem serving_holding :
    Serving P (fun t u => Uses P t.socket u.socket) script faults (Holding P R stays k) where
  toSteady := steady_holding hP hR hscript
  login j data _ h := h.processLoginRequest hP hR hscript j data

end

/-- The socket of another connection takes a step. -/
theorem steps_elsewhere {j : Nat} (hj : j ≠ k) : Steps j (Holding P R stays k) :=
  fun _ _ _ h => h.updateTcp j (fun _ heq => absurd heq hj) fun _ _ hr => hr

theorem enduring_holding (hP : Allows P) (hR : Lasting P R)
    (hscript : ∀ cb, ∀ call ∈ script cb, call.Offers P) :
    Enduring P (fun t u => Uses P t.socket u.socket) script faults (Holding P R False k) where
  toServing := serving_holding hP hR hscript
  aside _ _ _ hc _ hb h := h.same hb hc
  ended _ _ h := h.same rfl rfl
  freed j t s ht h := by
    have hbanner : (s.free j t).debugBanner = s.debugBanner := by
      unfold free
      cases t.port <;> rfl
    refine ⟨?_, False.elim, fun u hu => ?_⟩
    · rw [hbanner]
      exact h.banner
    · rw [tcp?_free] at hu
      split at hu
      · cases hu
      · exact h.socket u hu

/-! ## The owner -/

/-- The connection `k` is there. -/
abbrev There (P : WritePacket → Prop) (k : Nat) : Acceptor → Prop :=
  Holding P (fun _ => True) True k

theorem There.tcp (h : There P k s) : ∃ t, s.tcp? k = some t :=
  Option.isSome_iff_exists.mp (h.there trivial)

theorem There.using (h : There P k s) {t : TcpConnection} (ht : s.tcp? k = some t) :
    Holding P (Uses P t.socket) True k s := by
  refine ⟨h.banner, h.there, fun u hu => ?_⟩
  cases ht.symm.trans hu
  exact .refl

theorem socket_of_tcp {t : TcpConnection} (ht : s.tcp? k = some t) :
    (socketHandler script faults k).socket s = t.socket := by
  simp [socketHandler, ht]

/-- The callback has made some calls. -/
theorem acts_of_holding {reads : Bool} {t : TcpConnection} (ht : s.tcp? k = some t)
    (h : Holding P (Does P reads t.socket) True k s') :
    (socketHandler script faults k).Acts P (There P k) reads s s' := by
  have hthere : There P k s' := h.mono fun _ _ => trivial
  obtain ⟨u, hu⟩ := hthere.tcp
  refine ⟨hthere, ?_⟩
  rw [socket_of_tcp ht, socket_of_tcp hu]
  exact h.socket u hu

theorem owns_socket (hP : Allows P) (hscript : ∀ cb, ∀ call ∈ script cb, call.Offers P) :
    (socketHandler script faults k).Owns P (There P k) := by
  have hacts {reads : Bool} {s : Acceptor} (h : There P k s) {f : Acceptor → Acceptor}
      (hf : ∀ o : Socket, ∀ s', Holding P (Uses P o) True k s' →
        Holding P (Uses P o) True k (f s')) :
      (socketHandler script faults k).Acts P (There P k) reads s (f s) := by
    obtain ⟨t, ht⟩ := h.tcp
    exact acts_of_holding ht ((hf t.socket s (h.using ht)).mono fun _ hu => hu.does)
  have a (o : Socket) : Serving P (fun t u => Uses P t.socket u.socket) script faults
      (Holding P (Uses P o) True k) := serving_holding hP (lasting_uses P o) hscript
  constructor
  · intro f s h
    obtain ⟨t, ht⟩ := h.tcp
    have ht' : (s.updateTcp k (·.updateSocket f)).tcp? k = some (t.updateSocket f) := by
      rw [tcp?_updateTcp, if_pos rfl, ht]
      rfl
    refine ⟨h.updateTcp k (fun _ _ _ _ => trivial) fun _ _ _ => trivial, ?_⟩
    rw [socket_of_tcp ht]
    exact socket_of_tcp ht'
  · exact fun _ _ h => hacts h fun _ _ h => h.same rfl rfl
  · exact fun _ h _ => hacts h fun _ _ h => h.same rfl rfl
  · exact fun ec _ h => hacts h fun o _ h => (a o).handleTransportError ec _ h
  · exact fun error _ h => hacts h fun o _ h => (a o).handleProtocolViolation error h
  · intro packet s h hidle
    obtain ⟨t, ht⟩ := h.tcp
    rw [socket_of_tcp ht] at hidle
    apply acts_of_holding ht
    apply (a t.socket).readSuccess packet (h.using ht) (fun _ h => h.mono fun _ hu => hu.does)
    intro s' h'
    refine h'.updateTcp k (fun u _ _ hu => ?_) fun _ _ hu => hu.does
    exact hu.does.trans (Socket.does_asyncRead (hu.readPending.trans hidle))
  · exact fun _ h => hacts h fun o _ h => (a o).tcpDisconnect _ h
  · exact fun _ h => hacts h fun o _ h => (a o).tcpDisconnect _ h
  · exact fun ec _ h => hacts h fun o _ h => (a o).handleTransportError ec _ h
  · exact fun _ _ h => hacts h fun o _ h => (a o).writeSuccess h
  · exact fun _ h => hacts h fun o _ h => (a o).writeBufferEmpty h

end Acceptor

/-! ## Events -/

/-- What the event completes on the socket of the connection `k`. -/
def Event.completion (k : Nat) : Event → Option Socket.Completion
  | .headerCompleted j result => if j = k then some (.header result) else none
  | .payloadCompleted j result => if j = k then some (.payload result) else none
  | .writeCompleted j result => if j = k then some (.write result) else none
  | .socketClosed j => if j = k then some .closed else none
  | _ => none

/-- What the user offers satisfies `P`. -/
def Offering (P : WritePacket → Prop) (input : Event × Env) : Prop :=
  (∀ cb, ∀ call ∈ input.2.calls cb, call.Offers P) ∧ ∀ call, input.1 = .call call → call.Offers P

namespace Acceptor
open Socket (Mirrors Sees Completion)

variable {P : WritePacket → Prop} {k : Nat} {s : Acceptor} {script : Script} {faults : Faults}

/-- The socket `v` of the connection `k` is what the completion made of the one it had. -/
def Grew (P : WritePacket → Prop) (completion : Option Completion) (k : Nat) (s : Acceptor)
    (v : Socket) : Prop := ∃ t, s.tcp? k = some t ∧ Mirrors P completion t.socket v

/-- The socket of a connection that has just been accepted. -/
def New (P : WritePacket → Prop) (v : Socket) : Prop :=
  ∃ limit u, Uses P (Socket.fresh true limit) u ∧ Does P false u.asyncRead v

/-- One that does not read yet, or one that was there before. -/
def Young (P : WritePacket → Prop) (k : Nat) (s : Acceptor) (v : Socket) : Prop :=
  Grew P none k s v ∨ s.connections.length = k ∧
    ∃ limit, Uses P (Socket.fresh true limit) v

/-- The owner has been told that the socket is closed. -/
def Notified (P : WritePacket → Prop) (k : Nat) (s : Acceptor) (v : Socket) : Prop :=
  ∃ t, s.tcp? k = some t ∧ Does P false t.socket.notified v

/-- The banner of the acceptor satisfies `P`, if there is one. -/
def Greets (P : WritePacket → Prop) (s : Acceptor) : Prop :=
  s.debugBanner ≠ [] → P (.ofData DebugPacket.packetType s.debugBanner)

theorem lasting_grew (P : WritePacket → Prop) (k : Nat) (s : Acceptor) :
    Lasting P (Grew P none k s) := fun ⟨t, ht, h⟩ h' => ⟨t, ht, h.trans h'.does⟩

theorem lasting_notified (P : WritePacket → Prop) (k : Nat) (s : Acceptor) :
    Lasting P (Notified P k s) := fun ⟨t, ht, h⟩ h' => ⟨t, ht, h.trans h'.does⟩

section
variable (hP : Allows P) (hscript : ∀ cb, ∀ call ∈ script cb, call.Offers P)
  (hbanner : s.Greets P)
include hP hscript hbanner

/-- Only the connection that is made has a new socket, and it has begun to read. -/
theorem acceptSuccess_socket (k : Nat) : Holding P
    (fun v => Grew P none k s v ∨ s.connections.length = k ∧ New P v) False k
      (s.acceptSuccess script faults) := by
  have hyoung : Lasting P (Young P k s) := by
    rintro u v (h | ⟨hk, limit, h⟩) h'
    · exact Or.inl (lasting_grew P k s h h')
    · exact Or.inr ⟨hk, limit, h.trans h'⟩
  have hnew : Lasting P fun v => Grew P none k s v ∨ s.connections.length = k ∧ New P v := by
    rintro v v' (h | ⟨hk, limit, u, hu, h⟩) h'
    · exact Or.inl (lasting_grew P k s h h')
    · exact Or.inr ⟨hk, limit, u, hu, h.trans h'.does⟩
  have a {R : Socket → Prop} (hR : Lasting P R) : Steady P (fun t u => Uses P t.socket u.socket)
      script (Holding P R False k) := steady_holding hP hR hscript
  apply (a (lasting_grew P k s)).acceptSuccess (a hyoung) (a hnew)
  · intro told limit hlength h
    refine ⟨h.banner, False.elim, fun u hu => ?_⟩
    rw [tcp?_emplaced] at hu
    split at hu
    · rename_i hk
      cases hu
      exact Or.inr ⟨(hk.trans hlength).symm, limit, .refl⟩
    · exact Or.inl (h.socket u hu)
  · intro s' h
    refine h.updateTcp _ (fun t hk _ ht => ?_) fun hk v hv => ?_
    · right
      rcases ht with ⟨u, hu, -⟩ | ⟨-, limit, ht⟩
      · exact absurd (lt_of_tcp hu) (Nat.not_lt.mpr (Nat.le_of_eq hk))
      · exact ⟨hk, limit, t.socket, ht, .refl P false _⟩
    · rcases hv with hv | ⟨hk', -⟩
      · exact Or.inl hv
      · exact absurd hk' hk
  · exact fun _ h => h.banner
  · exact fun _ h => h.same rfl rfl
  · exact ⟨hbanner, False.elim, fun t ht => ⟨t, ht, .refl P false t.socket⟩⟩

theorem passes_socket {completion : Completion} {s' : Acceptor}
    (hthere : (s.tcp? k).isSome = true)
    (hpasses : (socketHandler script faults k).Owns P (There P k) → There P k s →
      (socketHandler script faults k).Passes P (There P k) completion s s') :
    Holding P (Grew P (some completion) k s) False k s' := by
  have hk : There P k s := ⟨hbanner, fun _ => hthere, fun _ _ => trivial⟩
  obtain ⟨hthere', hmirrors⟩ := hpasses (owns_socket hP hscript) hk
  obtain ⟨t, ht⟩ := hk.tcp
  refine ⟨hthere'.banner, False.elim, fun u hu => ⟨t, ht, ?_⟩⟩
  rw [socket_of_tcp ht, socket_of_tcp hu] at hmirrors
  exact hmirrors

end

/-- **An event takes each socket one step**, or lets its owner make some calls. -/
theorem handle_socket {env : Env} {event : Event} (hP : Allows P)
    (hoffers : Offering P (event, env)) (hbanner : s.Greets P) (hready : s.ready event = true)
    (k : Nat) : Holding P (fun v => Grew P (event.completion k) k s v ∨
      s.connections.length = k ∧ New P v) False k (s.handle env event) := by
  obtain ⟨hscript, hcall⟩ := hoffers
  have hsocket {Q : Socket → Prop} {s' : Acceptor} (h : Holding P Q False k s')
      (hQ : ∀ v, Q v → Grew P (event.completion k) k s v) :
      Holding P (fun v => Grew P (event.completion k) k s v ∨
        s.connections.length = k ∧ New P v) False k s' := h.mono fun v hv => Or.inl (hQ v hv)
  have a {R : Socket → Prop} (hR : Lasting P R) : Enduring P (fun t u => Uses P t.socket u.socket)
      env.calls env.faults (Holding P R False k) := enduring_holding hP hR hscript
  have hstart : Holding P (Grew P none k s) False k s :=
    ⟨hbanner, False.elim, fun t ht => ⟨t, ht, .refl P false t.socket⟩⟩
  -- what does not come to this socket
  have haside (hnone : event.completion k = none) (haccept : event ≠ .acceptCompleted none) :
      Holding P (fun v => Grew P (event.completion k) k s v ∨
        s.connections.length = k ∧ New P v) False k (s.handle env event) := by
    apply hsocket ((a (lasting_grew P k s)).handle event _ (fun h => absurd h haccept) _ _ hstart)
    · intro v hv
      rw [hnone]
      exact hv
    · rintro call rfl
      exact hstart.call (lasting_grew P k s) (hcall call rfl)
    · intro j hj
      apply steps_elsewhere
      rintro rfl
      cases event <;> simp_all [Event.socket?, Event.completion]
    · intro j hj
      refine hstart.updateTcp j (fun _ heq _ _ => ?_) fun _ _ h => h
      subst hj heq
      simp [Event.completion] at hnone
  cases event with
  | acceptCompleted ec =>
    cases ec with
    | none =>
      have hallowed : (s.updateSocketAcceptor SocketAcceptor.acceptDone).Greets P := hbanner
      exact acceptSuccess_socket hP hscript hallowed k
    | some ec => exact haside rfl fun h => by cases h
  | headerCompleted j result =>
    by_cases hj : j = k
    · subst hj
      apply hsocket (passes_socket hP hscript hbanner (Option.isSome_of_any hready) fun o hw =>
        o.headerCompleted result hw)
      intro v hv
      simpa [Event.completion] using hv
    · exact haside (if_neg hj) fun h => by cases h
  | payloadCompleted j result =>
    by_cases hj : j = k
    · subst hj
      apply hsocket (passes_socket hP hscript hbanner (Option.isSome_of_any hready) fun o hw =>
        o.payloadCompleted result hw)
      intro v hv
      simpa [Event.completion] using hv
    · exact haside (if_neg hj) fun h => by cases h
  | writeCompleted j result =>
    by_cases hj : j = k
    · subst hj
      apply hsocket (passes_socket hP hscript hbanner (Option.isSome_of_any hready) fun o hw =>
        o.writeCompleted result hw)
      intro v hv
      simpa [Event.completion] using hv
    · exact haside (if_neg hj) fun h => by cases h
  | socketClosed j =>
    by_cases hj : j = k
    · subst hj
      -- the owner is told, and calls nothing on the socket itself
      have hnoted : Holding P (Notified P j s) False j (s.updateTcp j TcpConnection.noteClosed) :=
        hstart.updateTcp j (fun t _ ht _ => ⟨t, ht, .refl P false t.socket.notified⟩)
          fun hne => absurd rfl hne
      apply hsocket ((a (lasting_notified P j s)).maybeSignalClosed hnoted)
      rintro v ⟨t, ht, ops, hops, hv⟩
      refine ⟨t, ht, ?_⟩
      simp only [Event.completion, if_true]
      exact .of_noticed (Socket.minds_replying hops) hv
    · exact haside (if_neg hj) fun h => by cases h
  | _ => exact haside rfl fun h => by cases h

/-! ## Runs -/

/-- What the socket of the connection `k` can complete. -/
theorem enabled_of_ready {event : Event} (hready : s.ready event = true) {t : TcpConnection}
    (ht : s.tcp? k = some t) {completion : Completion} (h : event.completion k = some completion)
    (script : Socket.Script) : Socket.system.enabled (completion.input script) t.socket := by
  cases event <;> simp only [Event.completion, Option.ite_none_right_eq_some, Option.some.injEq,
    reduceCtorEq] at h <;> obtain ⟨rfl, rfl⟩ := h <;>
    simpa [ready, ht, Completion.input, Socket.system] using hready

theorem known_of_ready {event : Event} (hready : s.ready event = true) {completion : Completion}
    (h : event.completion k = some completion) : k < s.connections.length := by
  have hknown {p : TcpConnection → Bool} (h : (s.tcp? k).any p = true) :
      k < s.connections.length := by
    obtain ⟨t, ht⟩ := Option.isSome_iff_exists.mp (Option.isSome_of_any h)
    exact lt_of_tcp ht
  cases event <;> simp only [Event.completion, Option.ite_none_right_eq_some, Option.some.injEq,
    reduceCtorEq] at h <;> obtain ⟨rfl, rfl⟩ := h <;> exact hknown hready

/-- What has come for the socket of the connection `k`. -/
def completions (k : Nat) (inputs : List (Event × Env)) : List Completion :=
  inputs.filterMap fun input => input.1.completion k

theorem completions_concat (k : Nat) (inputs : List (Event × Env)) (input : Event × Env) :
    completions k (inputs ++ [input]) =
      completions k inputs ++ (input.1.completion k).toList := by
  unfold completions
  rw [List.filterMap_append]
  cases h : input.1.completion k with
  | none => simp [h]
  | some completion => simp [h]

/-- The connections so far have been owners of their sockets. -/
structure Owning (P : WritePacket → Prop) (inputs : List (Event × Env)) (s : Acceptor) : Prop where
  allowed : s.Greets P
  unknown : ∀ k, s.connections.length ≤ k → completions k inputs = []
  owned : ∀ k t, s.tcp? k = some t → ∃ limit u, Uses P (Socket.fresh true limit) u ∧
    Sees P (completions k inputs) u.asyncRead t.socket

variable {inputs : List (Event × Env)}

theorem Owning.step (h : Owning P inputs s) (hP : Allows P) {input : Event × Env}
    (hoffers : Offering P input) (hready : s.ready input.1 = true)
    (hknown : s.connections.length ≤ (s.handle input.2 input.1).connections.length) :
    Owning P (inputs ++ [input]) (s.handle input.2 input.1) := by
  obtain ⟨event, env⟩ := input
  have hsocket := handle_socket hP hoffers h.allowed hready
  have hlate (k : Nat) (hk : s.connections.length ≤ k) :
      completions k (inputs ++ [(event, env)]) = [] := by
    rw [completions_concat, h.unknown k hk]
    cases hc : event.completion k with
    | none => rfl
    | some completion => exact absurd (known_of_ready hready hc) (Nat.not_lt.mpr hk)
  refine ⟨(hsocket 0).banner, fun k hk => hlate k (Nat.le_trans hknown hk), fun k u hu => ?_⟩
  rcases (hsocket k).socket u hu with ⟨t, ht, hmirrors⟩ | ⟨hk, limit, first, hfirst, hd⟩
  · obtain ⟨limit, first, hfirst, hsees⟩ := h.owned k t ht
    refine ⟨limit, first, hfirst, ?_⟩
    rw [completions_concat]
    exact hsees.mirrors hmirrors fun c hc => enabled_of_ready hready ht hc
  · refine ⟨limit, first, hfirst, ?_⟩
    rw [hlate k (Nat.le_of_eq hk)]
    exact (Sees.refl P _).does hd

theorem owning_run (hP : Allows P) {s₀ : Acceptor} (h₀ : s₀.Idle) (hbanner : s₀.Greets P)
    (hrun : (system.restrict fun input _ => Offering P input).Run s₀ inputs s) :
    Owning P inputs s := by
  induction hrun with
  | refl =>
    refine ⟨hbanner, fun _ _ => rfl, fun k t ht => ?_⟩
    simp [tcp?, h₀.connections] at ht
  | step input hrun hi ih =>
    have hjoined := joined_run h₀ hrun.of_restrict
    exact ih.step hP hi.2 hi.1 (moves_handle input.2 hi.1 fun _ => hjoined.unpointed).known

/-- **Each connection drives a socket of its own.** In every run of the acceptor the
socket of a connection has begun to read once it was accepted, and then gone through a run
of its own: what has completed on it, in the same order, and the calls that its owner
made. Whatever happens to the other connections is none of its business. -/
theorem accepted_drive_sockets (P : WritePacket → Prop) (hP : Allows P) (s₀ : Acceptor)
    (h₀ : s₀.Idle) (hbanner : s₀.Greets P) (inputs : List (Event × Env)) (s : Acceptor)
    (hrun : (system.restrict fun input _ => Offering P input).Run s₀ inputs s) (k : Nat)
    (t : TcpConnection) (ht : s.tcp? k = some t) :
    ∃ limit u, Uses P (Socket.fresh true limit) u ∧
      Sees P (completions k inputs) u.asyncRead t.socket :=
  (owning_run hP h₀ hbanner hrun).owned k t ht

theorem allows_any : Allows fun _ => True := ⟨fun _ => trivial, fun _ => trivial⟩

/-- A packet that comes before any login request is refused, and the socket closed. -/
def acceptsAndRefuses : List Event :=
  [.call .start, .posted 0, .acceptCompleted none,
    .headerCompleted 0 (.ok [0, 1, ClientHeartbeatPacket.packetType])]

theorem accepted_drive_sockets_one :
    ∃ t, (system.final {} (acceptsAndRefuses.map fun event => (event, Env.plain))).tcp? 0 = some t ∧
      t.socket.closing = true ∧ ∃ limit u, Uses (fun _ => True) (Socket.fresh true limit) u ∧
        Sees (fun _ => True) [.header (.ok [0, 1, ClientHeartbeatPacket.packetType])] u.asyncRead
          t.socket := by
  have hclosing : ((system.final {} (acceptsAndRefuses.map fun event => (event, Env.plain))).tcp?
      0).map (·.socket.closing) = some true := by
    decide +kernel
  obtain ⟨t, ht, hclosing⟩ := Option.map_eq_some_iff.mp hclosing
  have hidle : ({} : Acceptor).Idle := ⟨rfl, rfl, fun _ h => absurd h List.not_mem_nil⟩
  have hoffering (event : Event) : Offering (fun _ => True) (event, Env.plain) := by
    have hany (call : Call) : call.Offers fun _ => True := by
      unfold Call.Offers
      split <;> trivial
    exact ⟨fun _ call _ => hany call, fun call _ => hany call⟩
  have hrun : (system.restrict fun input _ => Offering (fun _ => True) input).Run {}
      (acceptsAndRefuses.map fun event => (event, Env.plain))
      (system.final {} (acceptsAndRefuses.map fun event => (event, Env.plain))) := by
    apply (System.run_of_admits (by decide +kernel)).restrict
    intro input hinput _
    obtain ⟨event, -, rfl⟩ := List.mem_map.mp hinput
    exact hoffering event
  exact ⟨t, ht, hclosing, accepted_drive_sockets (fun _ => True) allows_any {} hidle
    (fun _ => trivial) _ _ hrun 0 t ht⟩

end Acceptor

end SoupBin.ServerSide
