import SoupBin.Causes
import SoupBin.ClientFailures
import SoupBin.ServerFailures

/-!
# Failures are told once

On either side: each failure that is told shuts the connection, and what follows is
silent unless an operation fails whose connection has been shut.
-/

namespace SoupBin

/-- **Failures are told once**, as long as no operation fails whose socket has been
closed: after any state of a run, the handlers are told of one failure at most of each
connection, and of none if it is disconnected there or closed by the user since. -/
theorem failures_are_told_once (c₀ : ClientSide.Client) (hc : c₀.Idle)
    (s₀ : ServerSide.Acceptor) (hs : s₀.Idle) :
    (∀ (before inputs : List (ClientSide.Event × ClientSide.Env)) (c c' : ClientSide.Client),
      ClientSide.system.Run c₀ before c →
      (ClientSide.system.restrict fun input c => c.failsLate input = false).Run c inputs c' →
        c.TellsOnce c') ∧
    ∀ (before inputs : List (ServerSide.Event × ServerSide.Env)) (s s' : ServerSide.Acceptor),
      ServerSide.system.Run s₀ before s →
      (ServerSide.system.restrict fun input s => s.failsLate input = false).Run s inputs s' →
        s.TellsOnce inputs :=
  ⟨fun _ _ _ _ hbefore hrun => ClientSide.Client.tellsOnce_run hc hbefore hrun,
    fun _ _ _ _ hbefore hrun => ServerSide.Acceptor.tellsOnce_run hs hbefore hrun⟩

theorem failures_are_told_once_each :
    let established := (ClientSide.failsTwice.take 3).map fun event =>
      (event, ClientSide.Env.plain)
    let failed := [(ClientSide.Event.headerCompleted 0 (.error (.other 104)), ClientSide.Env.plain)]
    let c := ClientSide.system.final ClientSide.Client.single established
    let c' := ClientSide.system.final c failed
    let accepted := ServerSide.Acceptor.logInTwice.map fun event => (event, ServerSide.Env.plain)
    let broken := [(ServerSide.Event.headerCompleted 1 (.error (.other 104)), ServerSide.Env.plain)]
    let s := ServerSide.system.final ServerSide.Acceptor.onePort accepted
    (c.TellsOnce c' ∧ c'.trace.countP (ClientSide.Entry.failureOf 0) = 1) ∧
      s.TellsOnce broken ∧ s.failures (some 1) broken = 1 := by
  intro established failed c c' accepted broken s
  have hidle : ClientSide.Client.single.Idle :=
    ⟨rfl, rfl, rfl, by simp [ClientSide.Client.single]⟩
  have hbefore : ClientSide.system.Run ClientSide.Client.single established c :=
    System.run_of_admits (by decide +kernel)
  have hrun : (ClientSide.system.restrict fun input c => c.failsLate input = false).Run
      c failed c' := System.run_of_admits (by decide +kernel)
  have hbefore' : ServerSide.system.Run ServerSide.Acceptor.onePort accepted s :=
    System.run_of_admits (by decide +kernel)
  have hrun' : (ServerSide.system.restrict fun input s => s.failsLate input = false).Run s broken
      (ServerSide.system.final s broken) := System.run_of_admits (by decide +kernel)
  have hidle' : ServerSide.Acceptor.onePort.Idle :=
    ⟨rfl, rfl, by simp [ServerSide.Acceptor.onePort]⟩
  obtain ⟨hclient, hserver⟩ := failures_are_told_once _ hidle _ hidle'
  exact ⟨⟨hclient _ _ _ _ hbefore hrun, by decide +kernel⟩, hserver _ _ _ _ hbefore' hrun',
    by decide +kernel⟩

/-- A read fails and then a write, and both are told; a write fails although the
connection has been superseded, and that is told. -/
theorem failures_are_told_late :
    let inputs := ClientSide.failsTwice.map fun event => (event, ClientSide.Env.plain)
    let c := ClientSide.system.final ClientSide.Client.single inputs
    let before := ServerSide.Acceptor.logInTwice.map fun event => (event, ServerSide.Env.plain)
    let late := [(ServerSide.Event.writeCompleted 0 (.error (.other 32)), ServerSide.Env.plain)]
    let s := ServerSide.system.final ServerSide.Acceptor.onePort before
    (ClientSide.Client.single.Idle ∧ ClientSide.system.Run ClientSide.Client.single inputs c ∧
      ¬ClientSide.Client.single.TellsOnce c) ∧
    ServerSide.Acceptor.onePort.Idle ∧ ServerSide.system.Run ServerSide.Acceptor.onePort before s ∧
      ServerSide.system.Run s late (ServerSide.system.final s late) ∧ ¬s.TellsOnce late := by
  intro inputs c before late s
  refine ⟨⟨⟨rfl, rfl, rfl, by simp [ClientSide.Client.single]⟩,
    System.run_of_admits (by decide +kernel), fun h => ?_⟩,
    ⟨rfl, rfl, by simp [ServerSide.Acceptor.onePort]⟩, System.run_of_admits (by decide +kernel),
    System.run_of_admits (by decide +kernel), fun h => ?_⟩
  · have htold := h.once 0 (c.trace.take 2) (c.trace.drop 2) [] (by decide +kernel)
      (by decide +kernel)
    exact absurd htold (by decide +kernel)
  · have htold := h.down 0 (by decide +kernel) fun t ht => by
      have hs : (s.tcpState 0).state = .disconnected := by decide +kernel
      simpa [ServerSide.Acceptor.tcpState, ht] using hs
    exact absurd htold (by decide +kernel)

end SoupBin
