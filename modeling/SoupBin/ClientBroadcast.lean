import SoupBin.ClientUsers

/-!
# Sending on all connections

Whichever path it takes, `Client::send_packet` is the plain broadcast. This rests
on the flags for the end of the session: the one of the client is set as soon as
one of a connection is, and before the user is told.
-/

namespace SoupBin.ClientSide
namespace Client

/-! ## The plain broadcast -/

/-- The answers that several connections may give, the most welcome one first. -/
def answers : List WriteError := [.none, .bufferFull, .notLoggedIn, .disconnected]

/-- The most welcome of the answers given. -/
def bestOf (errors : List WriteError) : WriteError :=
  (answers.find? (· ∈ errors)).getD .disconnected

/-- Every connection is offered the packet, one after the other. -/
def broadcast (packet : WritePacket) (c : Client) : WriteError × Client :=
  if c.connections.any (·.hasSessionEnded) then (.sessionEnded, c)
  else
    let (errors, connections) := c.connections.foldl
      (fun (errors, connections) conn =>
        let (error, conn) := conn.sendPacket packet
        (errors ++ [error], connections ++ [conn]))
      ([], [])
    (bestOf errors, { c with connections := connections })

/-- `send_packet` is the broadcast, and no connection gives an answer that the
priorities do not know. -/
def SendsPlainly (c : Client) : Prop :=
  ∀ packet, c.sendPacket packet = c.broadcast packet ∧
    (c.connections.any (·.hasSessionEnded) = false →
      ∀ conn ∈ c.connections, (conn.sendPacket packet).1 ∈ answers)

/-- The flag of the client is set once the one of a connection is. -/
def Synced (c : Client) : Prop := c.hasSessionEnded = c.connections.any (·.hasSessionEnded)

/-! ## The three paths -/

theorem priorityError_eq (errors : List WriteError) : priorityError errors = bestOf errors := by
  unfold priorityError bestOf answers
  by_cases hnone : WriteError.none ∈ errors
  · simp [hnone]
  · by_cases hfull : WriteError.bufferFull ∈ errors
    · simp [hnone, hfull]
    · by_cases hlogin : WriteError.notLoggedIn ∈ errors
      · simp [hnone, hfull, hlogin]
      · by_cases hdisconnected : WriteError.disconnected ∈ errors
        · simp [hnone, hfull, hlogin, hdisconnected]
        · simp [hnone, hfull, hlogin, hdisconnected]

theorem bestOf_single {error : WriteError} (h : error ∈ answers) : bestOf [error] = error := by
  unfold answers at h
  simp only [List.mem_cons, List.not_mem_nil, or_false] at h
  rcases h with rfl | rfl | rfl | rfl <;> rfl

end Client

theorem TcpConnection.sendPacket_answers (packet : WritePacket) (t : TcpConnection) :
    (t.sendPacket packet).1 ∈ Client.answers := by
  have hwrite : (t.asyncWrite packet).1 ∈ Client.answers := by
    simp only [TcpConnection.asyncWrite, Socket.asyncWrite]
    split
    · simp [Client.answers]
    · split <;> simp [Client.answers]
  unfold TcpConnection.sendPacket
  split
  · simp [Client.answers]
  · dsimp only
    split <;> exact hwrite

/-- A connection that has not seen the end of the session. -/
theorem Connection.sendPacket_answers (packet : WritePacket) {conn : Connection}
    (h : conn.hasSessionEnded = false) : (conn.sendPacket packet).1 ∈ Client.answers := by
  rw [Connection.sendPacket, if_neg (by simp [h])]
  unfold Connection.sendWith
  split
  · simp [Client.answers]
  · exact TcpConnection.sendPacket_answers packet _

namespace Client

theorem broadcast_eq (packet : WritePacket) {c : Client}
    (h : c.connections.any (·.hasSessionEnded) = false) :
    c.broadcast packet =
      (bestOf (c.connections.map fun conn => (conn.sendPacket packet).1),
        { c with connections := c.connections.map fun conn => (conn.sendPacket packet).2 }) := by
  have hfold (l : List Connection) (errors : List WriteError) (connections : List Connection) :
      l.foldl (fun (errors, connections) conn =>
          let (error, conn) := conn.sendPacket packet
          (errors ++ [error], connections ++ [conn])) (errors, connections) =
        (errors ++ l.map fun conn => (conn.sendPacket packet).1,
          connections ++ l.map fun conn => (conn.sendPacket packet).2) := by
    induction l generalizing errors connections with
    | nil => simp
    | cons conn l ih => simp [ih]
  rw [broadcast, if_neg (by simp [h]), hfold]
  rfl

/-- The result of `send_packet`, on each path. -/
theorem sendPacket_result (packet : WritePacket) {c : Client} (h : c.hasSessionEnded = false)
    (hc : c.connections.any (·.hasSessionEnded) = false) :
    (c.sendPacket packet).1 =
      bestOf (c.connections.map fun conn => (conn.sendPacket packet).1) := by
  unfold sendPacket
  rw [if_neg (by simp [h])]
  split
  · rename_i h1
    obtain ⟨conn, hconn⟩ := List.length_eq_one_iff.mp h1
    have hflag : conn.hasSessionEnded = false := by simpa [hconn] using hc
    simp only [sendOne, hconn, List.map_cons, List.map_nil]
    exact (bestOf_single (conn.sendPacket_answers packet hflag)).symm
  · split
    · rename_i h2
      obtain ⟨conn1, conn2, hconn⟩ := List.length_eq_two.mp h2
      simp only [sendTwo, hconn, WritePacket.clone, priorityError_eq, List.map_cons, List.map_nil]
    · unfold sendMultiple
      rcases List.eq_nil_or_concat c.connections with hn | ⟨front, back, hconn⟩
      · simp [hn, bestOf, answers]
      · simp [hconn, offer_eq, WritePacket.clone, priorityError_eq]

theorem Synced.sendsPlainly {c : Client} (h : c.Synced) : c.SendsPlainly := by
  intro packet
  constructor
  · cases hended : c.hasSessionEnded with
    | true =>
      have hany : c.connections.any (·.hasSessionEnded) = true := h ▸ hended
      rw [sendPacket, if_pos hended, broadcast, if_pos hany]
    | false =>
      have hany : c.connections.any (·.hasSessionEnded) = false := h ▸ hended
      rw [broadcast_eq packet hany]
      exact Prod.ext (sendPacket_result packet hended hany) (sendPacket_all packet hended)
  · intro hany conn hconn
    apply conn.sendPacket_answers packet
    simpa using List.any_eq_false.mp hany conn hconn

/-! ## The flags -/

theorem Synced.modify {c : Client} {i : Nat} {f : Connection → Connection}
    (hf : ∀ conn, c.connections[i]? = some conn → (f conn).hasSessionEnded = conn.hasSessionEnded)
    (h : c.Synced) : (c.updateConnection i f).Synced := by
  have hmap : (c.connections.modify i f).map (·.hasSessionEnded) =
      c.connections.map (·.hasSessionEnded) := by
    apply List.ext_getElem?
    intro j
    rw [List.getElem?_map, List.getElem?_map, List.getElem?_modify]
    split
    · rename_i hj
      subst hj
      cases hconn : c.connections[i]? with
      | none => rfl
      | some conn => simp [hf conn hconn]
    · simp
  have hany : (c.connections.modify i f).any (·.hasSessionEnded) =
      c.connections.any (·.hasSessionEnded) := by
    simpa only [List.any_map, Function.id_comp] using congrArg (List.any · id) hmap
  exact h.trans hany.symm

theorem sustains_synced (i : Nat) : Sustains (fun _ => True) i Synced where
  handler _ := trivial
  owner _ _ := trivial
  tcp _ _ := trivial
  called _ h := h
  log _ h := h
  connection hf h := h.modify fun conn hconn => (hf conn hconn).hasSessionEnded
  next _ h := h
  ended {c conn} hconn _ := by
    have hi := (List.getElem?_eq_some_iff.mp hconn).1
    have hmem : (conn.setSessionEnded) ∈ c.connections.modify i Connection.setSessionEnded := by
      apply List.mem_of_getElem? (i := i)
      rw [List.getElem?_modify, hconn]
      simp
    exact (List.any_eq_true.mpr ⟨_, hmem, rfl⟩).symm

theorem tolerates_synced : Tolerates (fun _ => True) Synced where
  connection hf h := h.modify fun conn _ => (hf conn).hasSessionEnded
  closed h := h
  added _ h := by
    rw [Synced] at h ⊢
    simp [h]
  started _ _ h := h
  stopped h := h
  handled h := h
  limited h := h

end Client

/-! ## Every state the user meets -/

open Client

open Classical in
/-- The user of `env`, of whose calls nothing is known but in states with `P`:
there he does what `other` does instead. -/
noncomputable def Env.guarded (P : Client → Prop) (other : Client → Client) (env : Env) :
    Nat → User
  | 0, _, c => c
  | depth + 1, cb, c =>
    (env.calls cb).foldl
      (fun c call =>
        if P c then call.run (env.guarded P other depth) env.faults c else other c) c

namespace Client

theorem same_connect_synced {u v : User}
    (huv : ∀ cb {c d}, Same Synced c d → Same Synced (u cb c) (v cb d)) (faults : Nat → Faults)
    (i : Nat) {c d : Client} (h : Same Synced c d) :
    Same Synced (c.connect u (faults i) i) (d.connect v (faults i) i) :=
  same_connect (sustains_synced i) huv (faults i) h

/-- Every call is made in a state in which `send_packet` is the broadcast. -/
theorem same_guarded (env : Env) (other : Client → Client) (depth : Nat) (cb : Callback)
    {c d : Client} (h : Same Synced c d) :
    Same Synced (env.reaction depth cb c) (env.guarded SendsPlainly other depth cb d) := by
  induction depth generalizing cb c d with
  | zero => exact h
  | succ depth ih =>
    apply same_foldl _ _ h
    rintro call - c d ⟨rfl, hp⟩
    rw [if_pos hp.sendsPlainly]
    exact same_call tolerates_synced (fun i _ => same_connect_synced ih env.faults i) trivial
      (.refl hp)

theorem same_event {u v : User}
    (huv : ∀ cb {c d}, Same Synced c d → Same Synced (u cb c) (v cb d)) (env : Env)
    (event : Event) {c d : Client} (h : Same Synced c d) :
    Same Synced (c.handleAs u env event) (d.handleAs v env event) := by
  have hconnects := fun i {c d} => same_connect_synced (c := c) (d := d) huv env.faults i
  cases hof : event.of with
  | some i => exact same_completed huv (sustains_synced i) hof h
  | none =>
    cases event <;> cases hof
    case none.call call => exact same_call tolerates_synced (fun i _ => hconnects i) trivial h
    case none.posted n =>
      obtain ⟨rfl, hp⟩ := h
      unfold handleAs
      dsimp only
      split
      · exact .refl hp
      · exact same_runPosted tolerates_synced (fun _ h => h) (fun _ => hconnects) _ (.refl hp)

theorem synced_run {c₀ c : Client} {inputs : List (Event × Env)} (h₀ : c₀.Synced)
    (hrun : system.Run c₀ inputs c) : c.Synced := by
  refine hrun.keeps (fun input c _ h => ?_) h₀
  exact (same_event (same_guarded input.2 id input.2.depth) input.2 input.1 (.refl h)).2

/-- **Sending on all connections is a plain broadcast.** In every run of a client,
with any number of connections: between events `send_packet` is the broadcast,
and so it is at every call that the user makes from inside a callback, since
nothing depends on what he would do otherwise. -/
theorem send_packet_broadcasts (c₀ : Client) (hflag : c₀.hasSessionEnded = false)
    (hflags : ∀ conn ∈ c₀.connections, conn.hasSessionEnded = false)
    (inputs : List (Event × Env)) (c : Client) (hrun : system.Run c₀ inputs c) :
    c.SendsPlainly ∧
      ∀ env event other, c.handleAs (env.guarded SendsPlainly other env.depth) env event =
        c.handle env event := by
  have h₀ : c₀.Synced := by
    rw [Synced, hflag, eq_comm, List.any_eq_false]
    intro conn hconn
    simp [hflags conn hconn]
  have hp := synced_run h₀ hrun
  refine ⟨hp.sendsPlainly, ?_⟩
  intro env event other
  rw [handle_eq]
  exact (same_event (same_guarded env other env.depth) env event (.refl hp)).1

/-- Three connections, and a run at whose end one of them has seen the end of the
session while the others are still connecting. -/
def threefold : Client := { connections := [{ endpoint := 1 }, { endpoint := 2 }, { endpoint := 3 }] }

def endsOnOne : List (Event × Env) :=
  [(.call .start, .plain), (.posted 0, .plain), (.connectCompleted 0 none, .plain),
    (.headerCompleted 0 (.ok [0, 31, LoginAcceptedPacket.packetType]), .plain),
    (.payloadCompleted 0 (.ok (LoginAcceptedPacket.write ⟨[83], 1⟩)), .plain),
    (.headerCompleted 0 (.ok [0, 1, EndOfSessionPacket.packetType]), .plain)]

/-- The first one's queue is full, the second one is still connecting, and the third one has
been closed. -/
def threeAnswers : List (Event × Env) :=
  [(.call (.setWritePacketsLimit 1), .plain), (.call .start, .plain), (.posted 0, .plain),
    (.connectCompleted 0 none, .plain),
    (.headerCompleted 0 (.ok [0, 31, LoginAcceptedPacket.packetType]), .plain),
    (.payloadCompleted 0 (.ok (LoginAcceptedPacket.write ⟨[83], 1⟩)), .plain),
    (.call (.close 2), .plain), (.connectCompleted 2 (some .operationAborted), .plain),
    (.socketClosed 2, .plain)]

theorem send_packet_broadcasts_threefold :
    let c := system.final threefold endsOnOne
    let c' := system.final threefold threeAnswers
    let packet := WritePacket.ofData UnsequencedDataPacket.packetType [104, 105]
    (c.connections.map (·.hasSessionEnded) = [true, false, false] ∧ c.SendsPlainly ∧
      ∀ env event other, c.handleAs (env.guarded SendsPlainly other env.depth) env event =
        c.handle env event) ∧
    (c'.connections.map fun conn => (conn.sendPacket packet).1) =
        [.bufferFull, .notLoggedIn, .disconnected] ∧
      (c'.broadcast packet).1 = .bufferFull ∧ c'.sendPacket packet = c'.broadcast packet := by
  have hflags : ∀ conn ∈ threefold.connections, conn.hasSessionEnded = false := by simp [threefold]
  exact ⟨⟨by decide +kernel, send_packet_broadcasts threefold rfl hflags endsOnOne _
    (System.run_of_admits (by decide +kernel))⟩,
    by decide +kernel, by decide +kernel,
    ((send_packet_broadcasts threefold rfl hflags threeAnswers _
      (System.run_of_admits (by decide +kernel))).1 _).1⟩

end Client
end SoupBin.ClientSide
