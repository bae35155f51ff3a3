import SoupBin.ClientDrives
import SoupBin.ClientNumbers
import SoupBin.ServerDrives
import SoupBin.ServerNumbers
import SoupBin.SocketReads

/-!
# Both ends of a stream

What a connection of the client is delivered over TCP are the first packets that a
connection of the server has sent. Hence both ends count alike.
-/

namespace SoupBin
open Receiving

/-! ## The client's end -/

namespace ClientSide
open Client
open Socket (Uses Mirrors Sees Completion Whole Hears)

/-- The client with an ear on one connection, and the bytes that have been read on it since
it was connected. -/
structure Reader where
  listener : Listener
  bytes : Bytes := []

/-- The bytes that the event brings to the connection `i`. -/
def Event.received (i : Nat) (event : Event) : Bytes :=
  ((event.completion i).map (·.bytes)).getD []

theorem offering_any (input : Event × Env) : Offering (fun _ => True) input := by
  have hany (call : Call) : call.Offers fun _ => True := by
    unfold Call.Offers
    split <;> trivial
  exact ⟨fun _ call _ => hany call, fun call _ => hany call⟩

namespace Reader

def next (i : Nat) (input : Event × Env) (r : Reader) : Reader where
  listener := Listener.next i input r.listener
  bytes := if connects i input.1 then [] else r.bytes ++ input.1.received i

def reading (i : Nat) : System Reader (Event × Env) where
  enabled input r := system.enabled input r.listener.client
  next := next i

/-- What has been heard is what the bytes begin with. -/
structure Hearing (i : Nat) (r : Reader) : Prop where
  whole : Whole r.listener.heard r.bytes
  socket : ∀ t, r.listener.client.tcp? i = some t →
    t.socket.Early ∧ Hears r.listener.heard r.bytes t.socket

variable {i : Nat} {c : Client} {r : Reader}

/-- The packet that an event delivers is the one that it completes on the socket. -/
theorem delivered_eq {t : TcpConnection} (ht : c.tcp? i = some t) (event : Event) :
    c.delivered i event = (event.completion i).bind (·.packet? t.socket) := by
  have hpacket : c.readPacketOf i = t.socket.readPacket := by simp [readPacketOf, ht]
  cases event with
  | headerCompleted j result =>
    by_cases hj : j = i
    · cases result with
      | error ec => simp [delivered, Event.completion, hj, Completion.packet?]
      | ok bytes => simp [delivered, Event.completion, hj, Completion.packet?, hpacket]
    · cases result with
      | error ec => simp [delivered, Event.completion, hj]
      | ok bytes => simp [delivered, Event.completion, hj]
  | payloadCompleted j result =>
    by_cases hj : j = i
    · cases result with
      | error ec => simp [delivered, Event.completion, hj, Completion.packet?]
      | ok bytes => simp [delivered, Event.completion, hj, Completion.packet?, hpacket]
    · cases result with
      | error ec => simp [delivered, Event.completion, hj]
      | ok bytes => simp [delivered, Event.completion, hj]
  | connectCompleted j ec | writeCompleted j result | socketClosed j =>
    by_cases hj : j = i <;> simp [delivered, Event.completion, hj, Completion.packet?]
  | _ => rfl

theorem completion_of_connects {event : Event} :
    connects i event = true ↔ event.completion i = some (.connect none) := by
  cases event with
  | connectCompleted j ec =>
    cases ec with
    | none => simp [connects, Event.completion]
    | some ec => simp [connects, Event.completion]
  | headerCompleted j result | payloadCompleted j result | writeCompleted j result
  | socketClosed j => simp [connects, Event.completion]
  | _ => simp [connects, Event.completion]

/-- Nothing is heard of a connection that is not there. -/
theorem completion_of_vacant {event : Event} (hready : c.ready event = true)
    (hnone : c.tcp? i = none) : event.completion i = none := by
  cases event with
  | connectCompleted j ec | headerCompleted j result | payloadCompleted j result
  | writeCompleted j result | socketClosed j =>
    simp only [Event.completion, ite_eq_right_iff, reduceCtorEq, imp_false]
    rintro rfl
    simp [Client.ready, hnone] at hready
  | _ => rfl

theorem delivered_none {event : Event} (h : event.completion i = none) :
    c.delivered i event = none := by
  cases event with
  | headerCompleted j result | payloadCompleted j result =>
    cases result with
    | error ec => rfl
    | ok bytes =>
      simp only [Event.completion, ite_eq_right_iff, reduceCtorEq, imp_false] at h
      simp [delivered, h]
  | _ => rfl

theorem next_heard (input : Event × Env) (l : Listener) (hnot : connects i input.1 = false) :
    (Listener.next i input l).heard =
      l.heard ++ (l.client.delivered i input.1).toList.map content := by
  unfold Listener.next
  dsimp only
  rw [hnot, if_neg Bool.false_ne_true]
  cases l.client.delivered i input.1 with
  | none => simp
  | some packet => simp

theorem next_connected (input : Event × Env) (l : Listener) (hc : connects i input.1 = true) :
    (Listener.next i input l).heard = [] := by
  unfold Listener.next
  dsimp only
  rw [hc, if_pos rfl]

/-- A socket that has just been made has read nothing. -/
theorem begun_unread {P : WritePacket → Prop} {u : Socket} (h : Begun P u)
    (heard : List (UInt8 × Bytes))
    (bytes : Bytes) : u.Early ∧ Hears heard bytes u := by
  have hused {first : Socket} (hearly : first.Early) (hreading : first.Reading [])
      (hidle : first.readPending = false) (huses : Uses P first u) :
      u.Early ∧ Hears heard bytes u := by
    obtain ⟨ops, hops, hu⟩ := huses.does
    obtain rfl := Socket.performs_of_noticed hu
    have hstays := Socket.stays_performs hops first
    exact ⟨hearly.stays hstays, (Socket.hears_unread hreading hidle).same hstays.toSameReads⟩
  obtain ⟨isOpen, limit, huses | huses⟩ := h
  · have hreading : (Socket.fresh isOpen limit).Reading [] :=
      ⟨rfl, Or.inl ⟨List.not_mem_nil, rfl⟩⟩
    exact hused (Watcher.early_first (Or.inl rfl)) hreading rfl huses
  · have hreading : (Socket.fresh isOpen limit).asyncConnect.Reading [] :=
      ⟨rfl, Or.inl ⟨of_decide_eq_false rfl, rfl⟩⟩
    exact hused (Watcher.early_first (Or.inr rfl)) hreading rfl huses

section
variable {P : WritePacket → Prop} {input : Event × Env} (h : Hearing i r)
  (hready : r.listener.client.ready input.1 = true)
include h hready

/-- A completion on the socket of the connection. -/
theorem hears_next (hnot : connects i input.1 = false) {t : TcpConnection}
    (ht : r.listener.client.tcp? i = some t) {v : Socket}
    (hm : Mirrors P (input.1.completion i) t.socket v) :
    Whole (next i input r).listener.heard (next i input r).bytes ∧
      Hears (next i input r).listener.heard (next i input r).bytes v := by
  have hconnect : input.1.completion i ≠ some (.connect none) := by
    rw [Ne, ← completion_of_connects, hnot]
    exact Bool.false_ne_true
  have hstep := Socket.Hears.mirrors h.whole (h.socket t ht).2 hm
    (fun c hc => Watcher.enabled_of_ready hready ht hc) hconnect
  simp only [next, hnot, if_false, Bool.false_eq_true, next_heard input r.listener hnot,
    delivered_eq ht]
  exact hstep

theorem whole_next : Whole (next i input r).listener.heard (next i input r).bytes := by
  cases hc : connects i input.1 with
  | true =>
    simp only [next, hc, if_true, next_connected input r.listener hc]
    exact Socket.whole_nil
  | false =>
    cases ht : r.listener.client.tcp? i with
    | none =>
      have hnone := completion_of_vacant hready ht
      simp only [next, hc, if_false, Bool.false_eq_true, next_heard input r.listener hc,
        delivered_none hnone, Event.received, hnone, Option.map_none, Option.getD_none,
        Option.toList_none, List.map_nil, List.append_nil]
      exact h.whole
    | some t =>
      obtain ⟨v, hv⟩ := Socket.mirrors_silent (fun _ => True) (input.1.completion i) t.socket
      exact (hears_next h hready hc ht hv).1

theorem Hearing.next : Hearing i (Reader.next i input r) := by
  refine ⟨whole_next h hready, fun u hu => ?_⟩
  have hclient : (Reader.next i input r).listener.client =
      r.listener.client.handle input.2 input.1 := Listener.next_client input
  rw [hclient] at hu
  have hearly (t : TcpConnection) (ht : r.listener.client.tcp? i = some t) : t.socket.Early :=
    (h.socket t ht).1
  rcases grown_handle allows_any (offering_any input) hready hearly with ⟨-, hsocket⟩ | ⟨-, hbegun⟩
  · obtain ⟨t, ht, hm⟩ := hsocket u hu
    have hsees := (Sees.refl _ t.socket).mirrors hm
      fun c hc => Watcher.enabled_of_ready hready ht hc
    refine ⟨hsees.early (hearly t ht), ?_⟩
    cases hc : connects i input.1 with
    | true =>
      have hcompletion := completion_of_connects.mp hc
      rw [hcompletion] at hm
      have henabled := Watcher.enabled_of_ready hready ht hcompletion fun _ => []
      simp only [Reader.next, hc, if_true, next_connected input r.listener hc]
      exact (h.socket t ht).2.connected (hearly t ht) hm henabled
    | false => exact (hears_next h hready hc ht hm).2
  · exact begun_unread (hbegun u hu) _ _

end

/-- Over every run: what was heard, and how it was counted. -/
theorem hearing_run {c₀ : Client} (h₀ : Idle c₀) {inputs : List (Event × Env)}
    (hrun : system.Run c₀ inputs c) (i : Nat) :
    let r := (reading i).final { listener := { client := c₀ } } inputs
    r.listener.client = c ∧ Hearing i r ∧ Listener.Follows i r.listener := by
  have hnext (input : Event × Env) (r : Reader) : ((reading i).next input r).listener.client =
      system.next input r.listener.client := Listener.next_client input
  obtain ⟨hreads, hclient⟩ := System.Run.observed (t := { listener := { client := c₀ } })
    (fun r : Reader => r.listener.client) (fun _ _ hi => hi) hnext hrun
  have hhearing : Hearing i { listener := { client := c₀ } } := by
    refine ⟨Socket.whole_nil, fun t ht => ?_⟩
    cases (h₀.vacant i).symm.trans ht
  have hall := hreads.keeps (I := fun r => Hearing i r ∧ Listener.Follows i r.listener) (by
    rintro input r hready ⟨h, hf⟩
    exact ⟨h.next hready, hf.next input⟩) ⟨hhearing, Listener.follows_idle h₀⟩
  exact ⟨hclient, hall⟩

end Reader

end ClientSide

/-! ## The server's end -/

namespace ServerSide.Acceptor
open Socket (IsBuilt InLine)

/-- The library builds all that it sends. -/
theorem allows_built : Allows IsBuilt where
  own hp := by
    cases hp with
    | heartbeat | endOfSession => exact ⟨_, .ofType _⟩
    | rejected packet =>
      exact ⟨_, .filled LoginRejectedPacket.packetType packet.write (by
        rw [packet.length_write]
        decide)⟩
  accepted response := by
    have hbuilt := Built.filled LoginAcceptedPacket.packetType response.write
      (by rw [response.length_write]; decide)
    rw [response.length_write] at hbuilt
    exact ⟨_, hbuilt⟩

/-- What a connection has been handed leaves in order. -/
theorem line_run {s₀ : Acceptor} (h₀ : s₀.Idle) (hbanner : s₀.Greets IsBuilt)
    {inputs : List (Event × Env)} {s : Acceptor}
    (hrun : (system.restrict fun input _ => Offering IsBuilt input).Run s₀ inputs s) {k : Nat}
    {t : TcpConnection} (ht : s.tcp? k = some t) : ∃ before, InLine IsBuilt before t.socket := by
  obtain ⟨limit, first, huses, hsees⟩ := (owning_run allows_built h₀ hbanner hrun).owned k t ht
  exact hsees.inLine ((Socket.inLine_fresh true limit).uses huses).asyncRead

end ServerSide.Acceptor

/-! ## Both -/

open Socket (IsBuilt)
open ServerSide (Acceptor TcpConnection)
open ClientSide (Client Reader)

/-- **Both ends count alike.** Let the bytes that a connection of the client has read since
it was connected be the first of those that a connection of the server has written, as TCP
delivers them. Then it has heard the first packets of the server's stream, and passed on
their data under the numbers that the stream implies. While both are logged in, the next
number of the client's connection and that of the server's port differ by what is still on
its way. -/
theorem ends_count_alike (s₀ : Acceptor) (h₀ : s₀.Idle) (hbanner : s₀.Greets IsBuilt)
    (hsmall : ∀ port ∈ s₀.ports, port.nextSequenceNumber < 2 ^ 64)
    (served : List (ServerSide.Event × ServerSide.Env)) (s : Acceptor)
    (hserved : (ServerSide.system.restrict fun input s =>
      ServerSide.Offering IsBuilt input ∧ Acceptor.Considerate input s).Run s₀ served s)
    (c₀ : Client) (hc₀ : c₀.Idle) (inputs : List (ClientSide.Event × ClientSide.Env)) (c : Client)
    (hrun : ClientSide.system.Run c₀ inputs c) (k : Nat) (t : TcpConnection)
    (ht : s.tcp? k = some t) (i : Nat)
    (hbytes : ((Reader.reading i).final { listener := { client := c₀ } } inputs).bytes <+:
      t.socket.sent) :
    let l := ((Reader.reading i).final { listener := { client := c₀ } } inputs).listener
    l.heard <+: t.stream ∧ l.told <+: numbered t.stream ∧
      ∀ n, c.live i = some (.loggedIn, n) → ∀ (p : Nat) (port : ServerSide.Port),
        s.ports[p]? = some port → port.connection = some k → t.state.state = .loggedIn →
          port.nextSequenceNumber =
            (n + dataPackets (t.stream.drop l.heard.length)) % 2 ^ 64 := by
  intro l
  obtain ⟨rfl, hhearing, hfollows⟩ := Reader.hearing_run hc₀ hrun i
  obtain ⟨before, hline⟩ := Acceptor.line_run h₀ hbanner (hserved.weaken fun _ _ h => h.1) ht
  have hheard : l.heard <+: t.stream := hhearing.whole.heard hline hbytes
  refine ⟨hheard, hfollows.told.trans (numbered_stays hheard), ?_⟩
  intro n hl p port hport hconn hs
  have hcounted := Acceptor.counted_run h₀ hsmall (hserved.weaken fun _ _ h => h.2)
  obtain ⟨rest, hrest⟩ := hheard
  obtain ⟨m, hm, hcount⟩ := implied_more (hfollows.loggedIn n hl).1 rest
  have hnumber := hcounted.counted p k port t hport hconn ht hs m (hrest ▸ hm)
  have hsmall := hcounted.small port (List.mem_of_getElem? hport)
  rw [← hrest, List.drop_left, ← hcount, ← hnumber, Nat.mod_eq_of_lt hsmall]

/-- Somebody logs in and is sent two messages, which all leave. -/
def sendsTwo : List ServerSide.Event :=
  Acceptor.logsInAndHears ++ [.writeCompleted 0 (.ok 33), .writeCompleted 0 (.ok 4)]

/-- So far one of them has arrived. -/
def readsOne : List ClientSide.Event :=
  [.call .start, .posted 0, .connectCompleted 0 none,
    .headerCompleted 0 (.ok [0, 31, LoginAcceptedPacket.packetType]),
    .payloadCompleted 0 (.ok (LoginAcceptedPacket.write ⟨[115], 1⟩)),
    .headerCompleted 0 (.ok [0, 2, SequencedDataPacket.packetType]),
    .payloadCompleted 0 (.ok [104])]

theorem sendsTwo_run : (ServerSide.system.restrict fun input s =>
    ServerSide.Offering IsBuilt input ∧ Acceptor.Considerate input s).Run Acceptor.oneUser
      (sendsTwo.map fun event => (event, ServerSide.Env.plain))
      (ServerSide.system.final Acceptor.oneUser
        (sendsTwo.map fun event => (event, ServerSide.Env.plain))) := by
  apply (System.run_of_admits (by decide +kernel)).restrict
  intro input hinput u
  obtain ⟨event, hevent, rfl⟩ := List.mem_map.mp hinput
  refine ⟨⟨fun cb call hcall => ?_, ?_⟩, fun cb call hcall => ?_, ?_⟩
  · cases hcall
  · rintro call rfl
    simp [sendsTwo, Acceptor.logsInAndHears] at hevent
    rcases hevent with rfl | rfl | rfl
    · trivial
    · exact ⟨_, .ofData _ _ (by decide)⟩
    · exact ⟨_, .ofData _ _ (by decide)⟩
  · cases hcall
  · rintro p n rfl
    simp [sendsTwo, Acceptor.logsInAndHears] at hevent

theorem ends_count_alike_one_behind :
    let s := ServerSide.system.final Acceptor.oneUser
      (sendsTwo.map fun event => (event, ServerSide.Env.plain))
    let l := ((Reader.reading 0).final { listener := { client := Client.single } }
      (readsOne.map fun event => (event, ClientSide.Env.plain))).listener
    ∃ t port, s.tcp? 0 = some t ∧ s.ports[0]? = some port ∧ l.told = [(1, [104])] ∧
      l.heard <+: t.stream ∧ l.told <+: numbered t.stream ∧
        port.nextSequenceNumber = (2 + dataPackets (t.stream.drop l.heard.length)) % 2 ^ 64 := by
  intro s l
  have hs : (s.tcpState 0).state = .loggedIn := by decide +kernel
  obtain ⟨t, ht, hloggedIn⟩ := Acceptor.tcp?_of_state hs (by decide)
  have hport : s.ports[0]? = some { Acceptor.userPort with
      nextSequenceNumber := 3
      connection := some 0 } := by
    decide +kernel
  have hbytes : (s.tcp? 0).map (fun t => decide (((Reader.reading 0).final
      { listener := { client := Client.single } }
        (readsOne.map fun event => (event, ClientSide.Env.plain))).bytes <+: t.socket.sent)) =
          some true := by
    decide +kernel
  rw [ht, Option.map_some, Option.some.injEq, decide_eq_true_eq] at hbytes
  have hidle : Acceptor.oneUser.Idle := ⟨rfl, rfl, by simp [Acceptor.oneUser, Acceptor.userPort]⟩
  have hsilent : Client.single.Idle := ⟨rfl, rfl, rfl, by simp [Client.single]⟩
  obtain ⟨hheard, htold, hnumber⟩ := ends_count_alike Acceptor.oneUser hidle
    (fun h => absurd rfl h) (by simp [Acceptor.oneUser, Acceptor.userPort]) _ s sendsTwo_run
    Client.single hsilent _ _ (System.run_of_admits (by decide +kernel)) 0 t ht 0 hbytes
  refine ⟨t, _, ht, hport, by decide +kernel, hheard, htold, ?_⟩
  exact hnumber 2 (by decide +kernel) 0 _ hport rfl hloggedIn

end SoupBin
