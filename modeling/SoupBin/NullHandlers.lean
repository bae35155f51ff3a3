import SoupBin.ClientHandlers
import SoupBin.ServerHandlers

/-!
# No handler is called that is not set

Ports and connections may be added without a handler after the start has looked
at those there were. What is called through a null pointer then is one login, or
one connect, away.
-/

namespace SoupBin

open ServerSide (Acceptor)
open ClientSide (Client)

/-- A port is added without a handler after the start, and a client logs in to it. -/
def logsInToNone : List (ServerSide.Event × ServerSide.Env) :=
  [(.call .start, .plain), (.posted 0, .plain), (.call (.addPort [117] [112] false), .plain),
    (.acceptCompleted none, .plain),
    (.headerCompleted 0 (.ok [0, 47, LoginRequestPacket.packetType]), .plain),
    (.payloadCompleted 0 (.ok (LoginRequestPacket.write ⟨[117], [112], [], 0⟩)), .plain)]

/-- A connection is added without a handler after the start, and connected. -/
def connectsForNone : List (ClientSide.Event × ClientSide.Env) :=
  [(.call .start, .plain), (.posted 0, .plain), (.call (.addConnection 1 false), .plain),
    (.call (.connect 0), .plain)]

theorem null_handlers_called :
    (∃ s, ServerSide.system.Run {} logsInToNone s ∧
      ServerSide.Entry.called false (.port 0 (.loginSuccess ⟨[], 1⟩)) ∈ s.trace) ∧
      ∃ c, ClientSide.system.Run {} connectsForNone c ∧
        ClientSide.Entry.called false (.connection 0 (.connecting 1)) ∈ c.trace := by
  refine ⟨⟨_, System.run_of_admits (by decide +kernel), by decide +kernel⟩,
    ⟨_, System.run_of_admits (by decide +kernel), by decide +kernel⟩⟩

/-- An acceptor that has just been added to its server; if it has no handler, not
while a start is posted. -/
structure ServerSide.Acceptor.Added (s : Acceptor) : Prop where
  connections : s.connections = []
  trace : s.trace = []
  accepts : s.socketAcceptor.accepts = 0
  handler : s.handlerSet = true ∨ .start ∉ s.posted

theorem ServerSide.Acceptor.Added.guarded {s : Acceptor} (h : s.Added) : s.Dormant ∨ s.Armed := by
  have hnone (k : Nat) : s.tcp? k = none := by simp [Acceptor.tcp?, h.connections]
  rcases h.handler with hset | hposted
  · right
    refine ⟨hset, by simp [h.trace], by simp [h.trace], fun k t ht => ?_, fun k t p ht => ?_,
      fun k t ht => ?_⟩
    all_goals
      rw [hnone] at ht
      cases ht
  · exact Or.inl ⟨hposted, h.accepts, hnone, by simp [h.trace], by simp [h.trace]⟩

/-- **Handlers are set before they are called.** In every run in which a login
request names no port without a handler, and what may be connected has one: every
handler that is called is set. A connection has one to report to, and once it is
logged in so does its port. -/
theorem handlers_are_set (s₀ : Acceptor) (hs₀ : s₀.Added) (c₀ : Client) (hc₀ : c₀.Dormant) :
    (∀ inputs s, (ServerSide.system.restrict Acceptor.LoginsManned).Run s₀ inputs s →
        (∀ handlerSet cb, .called handlerSet cb ∈ s.trace → handlerSet = true) ∧
          .assertionFailed ∉ s.trace ∧
          ∀ k t, s.tcp? k = some t → s.handlerSet = true ∧ t.acceptorHandlerSet = true ∧
            (t.state.state = .loggedIn → ∃ p port, t.port = some p ∧ t.handlerSet = true ∧
              s.ports[p]? = some port ∧ port.handlerSet = true)) ∧
      ∀ inputs c, (ClientSide.system.restrict Client.ConnectsManned).Run c₀ inputs c →
          (∀ handlerSet cb, .called handlerSet cb ∈ c.trace → handlerSet = true) ∧
            ∀ i t, c.tcp? i = some t → c.handlerSet = true ∧ t.handlerSet = true ∧
              ∃ conn, c.connections[i]? = some conn ∧ conn.handlerSet = true := by
  constructor
  · intro inputs s hrun
    rcases Acceptor.guarded_run hs₀.guarded hrun with h | h
    · refine ⟨h.trace, h.sound, fun k t ht => ?_⟩
      rw [h.tcp k] at ht
      cases ht
    · refine ⟨h.trace, h.sound, fun k t ht => ⟨h.handler, h.acceptor k t ht, fun hstate => ?_⟩⟩
      obtain ⟨p, hp⟩ := Option.ne_none_iff_exists'.mp (h.linked k t ht (Or.inr hstate))
      obtain ⟨hset, port, hport, hmanned⟩ := h.port k t p ht hp
      exact ⟨p, port, hp, hset, hport, hmanned⟩
  · intro inputs c hrun
    rcases Client.guarded_run hc₀ hrun with h | h
    · refine ⟨h.trace, fun i t ht => ?_⟩
      rw [h.tcp i] at ht
      cases ht
    · refine ⟨h.trace, fun i t ht => ⟨h.handler, h.tcp i t ht, ?_⟩⟩
      obtain ⟨conn, hconn, hslot⟩ := Option.bind_eq_some_iff.mp ht
      exact ⟨conn, hconn, h.working i conn hconn (Or.inl (by simp [hslot]))⟩

/-- A login to a port that has a handler, beside one that has none. -/
def logsInToFirst : List (ServerSide.Event × ServerSide.Env) :=
  [(.call .start, .plain), (.posted 0, .plain), (.call (.addPort [118] [112] false), .plain),
    (.acceptCompleted none, .plain),
    (.headerCompleted 0 (.ok [0, 47, LoginRequestPacket.packetType]), .plain),
    (.payloadCompleted 0 (.ok (LoginRequestPacket.write ⟨[117], [112], [], 0⟩)), .plain)]

/-- The start connects the only connection; one without a handler is added. -/
def connectsFirst : List (ClientSide.Event × ClientSide.Env) :=
  [(.call .start, .plain), (.posted 0, .plain), (.call (.addConnection 2 false), .plain)]

theorem ServerSide.Acceptor.loginsManned_of_event {input : ServerSide.Event × ServerSide.Env}
    (h : ∀ k bytes, input.1 ≠ .payloadCompleted k (.ok bytes)) (s : Acceptor) :
    s.LoginsManned input := fun k bytes heq => absurd heq (h k bytes)

/-- Nothing is called from inside callbacks. -/
theorem ClientSide.Client.connectsManned_plain {c : Client}
    (h : ∀ conn ∈ c.connections, conn.handlerSet = true) (event : ClientSide.Event) :
    c.ConnectsManned (event, .plain) :=
  fun _ _ => ⟨fun conn hconn => h conn (List.mem_of_getElem? hconn),
    fun _ _ _ hmem => by cases hmem⟩

def firstPort : Acceptor := { ports := [{ username := [117], password := [112] }] }

def firstConnection : Client := { connections := [{ endpoint := 1 }] }

def loggedIn : Acceptor := ServerSide.system.final firstPort logsInToFirst

def connecting : Client := ClientSide.system.final firstConnection connectsFirst

theorem handlers_are_set_once :
    (loggedIn.ports.length = 2 ∧ (loggedIn.tcpState 0).state = .loggedIn) ∧
      ((∀ handlerSet cb, .called handlerSet cb ∈ loggedIn.trace → handlerSet = true) ∧
        .assertionFailed ∉ loggedIn.trace ∧
        ∀ k t, loggedIn.tcp? k = some t → loggedIn.handlerSet = true ∧ t.acceptorHandlerSet = true ∧
          (t.state.state = .loggedIn → ∃ p port, t.port = some p ∧ t.handlerSet = true ∧
            loggedIn.ports[p]? = some port ∧ port.handlerSet = true)) ∧
      (connecting.connections.length = 2 ∧ (connecting.tcp? 0).isSome = true) ∧
      (∀ handlerSet cb, .called handlerSet cb ∈ connecting.trace → handlerSet = true) ∧
        ∀ i t, connecting.tcp? i = some t → connecting.handlerSet = true ∧ t.handlerSet = true ∧
          ∃ conn, connecting.connections[i]? = some conn ∧ conn.handlerSet = true := by
  have hidle : firstConnection.Dormant := by
    refine ⟨rfl, nofun, fun i => ?_, fun i conn hconn => ?_, nofun⟩
    · rcases i with _ | i <;> rfl
    · have hmem := List.mem_of_getElem? hconn
      rw [List.mem_singleton.mp hmem]
  obtain ⟨hserver, hclient⟩ := handlers_are_set firstPort ⟨rfl, rfl, rfl, Or.inl rfl⟩ firstConnection
    hidle
  refine ⟨by decide +kernel, hserver logsInToFirst _ ?_, by decide +kernel,
    hclient connectsFirst _ ?_⟩
  · apply System.run_of_admits (S := ServerSide.system.restrict Acceptor.LoginsManned)
    refine ⟨⟨by decide +kernel, Acceptor.loginsManned_of_event (by simp) _⟩,
      ⟨by decide +kernel, Acceptor.loginsManned_of_event (by simp) _⟩,
      ⟨by decide +kernel, Acceptor.loginsManned_of_event (by simp) _⟩,
      ⟨by decide +kernel, Acceptor.loginsManned_of_event (by simp) _⟩,
      ⟨by decide +kernel, Acceptor.loginsManned_of_event (by simp) _⟩,
      ⟨by decide +kernel, ?_⟩, trivial⟩
    intro k bytes heq _ _ _ _
    cases heq
    intro port hport hnames
    have hothers : ∀ port ∈ (ServerSide.system.final firstPort (logsInToFirst.take 5)).ports,
        port.username = [118] ∨ port.handlerSet = true := by decide +kernel
    rcases hothers port hport with hother | hset
    · exact absurd (hother.symm.trans hnames.1) (by decide +kernel)
    · exact hset
  · apply System.run_of_admits (S := ClientSide.system.restrict Client.ConnectsManned)
    exact ⟨⟨by decide +kernel, Client.connectsManned_plain (by decide +kernel) _⟩,
      ⟨by decide +kernel, Client.connectsManned_plain (by decide +kernel) _⟩,
      ⟨by decide +kernel, Client.connectsManned_plain (by decide +kernel) _⟩, trivial⟩

end SoupBin
