import SoupBin.BothEnds

/-!
# One session, from its servers to the user

The servers of a session agree on what its messages are. A client that connects to
them, to one after the other and to several at once, passes on every message once, in
order.
-/

namespace SoupBin
open Receiving
open Socket (IsBuilt)
open ServerSide (Acceptor)
open ClientSide (Client Reader)

/-- Every message of a stream is the one that the session has under its number. -/
def Agrees (session : Nat → Bytes) (stream : List (UInt8 × Bytes)) : Prop :=
  ∀ message ∈ numbered stream, message.2 = session message.1

/-- A server of the session has written the bytes on one of its connections, and maybe more. -/
def ServedBy (session : Nat → Bytes) (bytes : Bytes) : Prop :=
  ∃ (s₀ : Acceptor) (served : List (ServerSide.Event × ServerSide.Env)) (s : Acceptor) (k : Nat)
    (t : ServerSide.TcpConnection), s₀.Idle ∧ s₀.Greets IsBuilt ∧
      (ServerSide.system.restrict fun input _ =>
        ServerSide.Offering IsBuilt input).Run s₀ served s ∧ s.tcp? k = some t ∧
      Agrees session t.stream ∧ bytes <+: t.socket.sent

namespace ClientSide
open Client

/-- Nothing arrives unless a packet has been delivered on a connection. -/
theorem Client.arrivals_handle (env : Env) (event : Event) (c : Client) :
    (c.handle env event).arrivals = c.arrivals ∨
      ∃ i packet, c.delivered i event = some packet := by
  have hu := quiet_user env
  cases event with
  | connectCompleted i ec =>
    left
    cases ec with
    | none =>
      have hsignalled := quiet_updateTcp ((socketHandler env.user (env.faults i) i).connectSuccess
        ((socketHandler env.user (env.faults i) i).update Socket.connectDone c)) i
        (calm_socket Socket.maybeSignalClosed)
      exact hsignalled.arrivals.trans (live_connectSuccess hu (env.faults i) _).1
    | some ec => exact (quiet_handle env c (by simp) (by simp) (by simp)).arrivals
  | headerCompleted i result =>
    cases hd : c.delivered i (.headerCompleted i result) with
    | none => exact Or.inl ((header_completed hu (env.faults i) result c).2 hd).arrivals
    | some packet => exact Or.inr ⟨i, packet, hd⟩
  | payloadCompleted i result =>
    cases hd : c.delivered i (.payloadCompleted i result) with
    | none => exact Or.inl ((payload_completed hu (env.faults i) result c).2 hd).arrivals
    | some packet => exact Or.inr ⟨i, packet, hd⟩
  | _ => exact Or.inl (quiet_handle env c (by simp) (by simp) (by simp)).arrivals

theorem next_told {i : Nat} {packet : ReadPacket} (input : Event × Env) (l : Listener)
    (hnot : connects i input.1 = false) (hd : l.client.delivered i input.1 = some packet) :
    (Listener.next i input l).told =
      l.told ++ (l.client.handle input.2 input.1).arrivals.drop l.client.arrivals.length := by
  unfold Listener.next
  dsimp only
  rw [hnot, if_neg Bool.false_ne_true, hd]

/-- What the user has been passed, unless the highest number has arrived. -/
theorem passed_run {c₀ c : Client} (h₀ : c₀.Idle) {inputs : List (Event × Env)}
    (hrun : system.Run c₀ inputs c) (hmax : ∀ a ∈ c.arrivals, a.1 < 2 ^ 64 - 1) :
    c.passed.map Prod.fst = List.range' (c.firstNumber c₀.nextSequenceNumber) c.passed.length ∧
      ∀ message ∈ c.passed, message ∈ c.arrivals := by
  have hfed := hrun.keeps (I := Fed c₀.nextSequenceNumber none)
    (fun input c _ h => fed_handle input.2 input.1 h) (Or.inl h₀.feeding)
  rcases hfed with hf | ⟨a, ha, hle⟩
  · have hlength := congrArg List.length hf.merged.numbers
    rw [List.length_map, List.length_range'] at hlength
    refine ⟨hlength ▸ hf.merged.numbers, fun message hmessage => ?_⟩
    exact List.mem_of_find?_eq_some (hf.merged.first message hmessage)
  · exact absurd (hmax a ha) (by omega)

/-- What has been read on the connection `i` so far. -/
abbrev bytesRead (i : Nat) (c₀ : Client) (inputs : List (Event × Env)) : Bytes :=
  ((Reader.reading i).final { listener := { client := c₀ } } inputs).bytes

section
variable {session : Nat → Bytes} {c₀ c : Client} {inputs : List (Event × Env)} {i : Nat}

/-- A connection that reads what a server of the session has written. -/
theorem told_of_served (h₀ : c₀.Idle) (hrun : system.Run c₀ inputs c)
    (hserved : bytesRead i c₀ inputs ≠ [] → ServedBy session (bytesRead i c₀ inputs)) :
    ∀ message ∈ ((Reader.reading i).final { listener := { client := c₀ } } inputs).listener.told,
      message.2 = session message.1 := by
  obtain ⟨-, hhearing, hfollows⟩ := Reader.hearing_run h₀ hrun i
  intro message hmessage
  have htold := hfollows.told.subset hmessage
  by_cases hnone : bytesRead i c₀ inputs = []
  · -- nothing has been read, so nothing can have been heard
    have hwhole : Socket.Whole _ (bytesRead i c₀ inputs) := hhearing.whole
    rw [hnone] at hwhole
    rw [hwhole.none] at htold
    cases htold
  · obtain ⟨s₀, served, s, k, t, hidle, hbanner, hran, ht, hagrees, hbytes⟩ := hserved hnone
    obtain ⟨before, hline⟩ := Acceptor.line_run hidle hbanner hran ht
    have hheard := hhearing.whole.heard hline hbytes
    exact hagrees message ((numbered_stays hheard).subset htold)

/-- So is all that arrives. -/
theorem arrivals_of_served (h₀ : c₀.Idle) (hrun : system.Run c₀ inputs c)
    (hserved : ∀ before, before <+: inputs → ∀ i, bytesRead i c₀ before ≠ [] →
      ServedBy session (bytesRead i c₀ before)) :
    ∀ message ∈ c.arrivals, message.2 = session message.1 := by
  induction hrun with
  | refl =>
    intro message hmessage
    simp [arrivals, h₀.trace] at hmessage
  | @step inputs c input hrun hi ih =>
    have ih := ih fun before hbefore => hserved before (hbefore.trans (List.prefix_append _ _))
    intro message hmessage
    rcases arrivals_handle input.2 input.1 c with hsame | ⟨i, packet, hdelivered⟩
    · exact ih message (hsame ▸ hmessage)
    · -- the packet has come on the connection `i`, which passes it on
      have htold := told_of_served h₀ (hrun.step input hi)
        (hserved (inputs ++ [input]) (List.prefix_refl _) i)
      obtain ⟨hclient, -, -⟩ := Reader.hearing_run h₀ hrun i
      obtain ⟨hheeds, -, hconnects⟩ := handle_delivers input.2 input.1 c (i := i)
      obtain ⟨arrived, harrivals, -⟩ := (hheeds packet hdelivered).reads
      have hnot : connects i input.1 = false := by
        cases hc : connects i input.1 with
        | false => rfl
        | true =>
          rw [(hconnects hc).1] at hdelivered
          cases hdelivered
      have hnext : (system.next input c).arrivals = c.arrivals ++ arrived := harrivals
      rw [hnext, List.mem_append] at hmessage
      rcases hmessage with hmessage | hmessage
      · exact ih message hmessage
      · apply htold message
        rw [System.final_concat]
        change message ∈ (Listener.next i input _).told
        rw [next_told input _ hnot (hclient.symm ▸ hdelivered), hclient, harrivals, List.drop_left]
        exact List.mem_append_right _ hmessage

end

end ClientSide

/-- **The user is passed the session.** Let every connection of a client read, whenever it
is connected, what some server has written on one of its connections, and let these servers
agree on the messages of the session. Then what the user is passed, over whatever number
of connections, is the session: consecutive messages, each once and each with its own
payload, from the number that was set before or that of the first login. -/
theorem session_reaches_user (session : Nat → Bytes) (c₀ : Client) (h₀ : c₀.Idle)
    (inputs : List (ClientSide.Event × ClientSide.Env)) (c : Client)
    (hrun : ClientSide.system.Run c₀ inputs c) (hmax : ∀ a ∈ c.arrivals, a.1 < 2 ^ 64 - 1)
    (hserved : ∀ before, before <+: inputs → ∀ i, ClientSide.bytesRead i c₀ before ≠ [] →
      ServedBy session (ClientSide.bytesRead i c₀ before)) :
    let first := if c₀.nextSequenceNumber = 0 then c.logins.headD 0 else c₀.nextSequenceNumber
    c.passed = (List.range' first c.passed.length).map fun n => (n, session n) := by
  intro first
  have harrivals := ClientSide.arrivals_of_served h₀ hrun hserved
  obtain ⟨hnumbers, hpassed⟩ := ClientSide.passed_run h₀ hrun hmax
  have hnumbers : c.passed.map Prod.fst = List.range' first c.passed.length := hnumbers
  have hpayload : ∀ message ∈ c.passed, message = (message.1, session message.1) := by
    intro message hmessage
    rw [← harrivals message (hpassed message hmessage)]
  calc c.passed = c.passed.map id := (List.map_id _).symm
    _ = c.passed.map fun message => (message.1, session message.1) := List.map_congr_left hpayload
    _ = (c.passed.map Prod.fst).map fun n => (n, session n) := by
        rw [List.map_map]
        rfl
    _ = (List.range' first c.passed.length).map fun n => (n, session n) := by rw [hnumbers]

/-- Nothing is read on a connection that nothing happens to. -/
theorem bytesRead_nothing {i : Nat} {c₀ : Client}
    {inputs : List (ClientSide.Event × ClientSide.Env)}
    (h : ∀ input ∈ inputs, input.1.completion i = none) :
    ClientSide.bytesRead i c₀ inputs = [] := by
  induction inputs using List.reverseRecOn with
  | nil => rfl
  | append_singleton inputs input ih =>
    have hnone := h input (List.mem_append_right _ (List.mem_singleton.mpr rfl))
    have ih := ih fun other ho => h other (List.mem_append_left _ ho)
    have hnot : ClientSide.Client.connects i input.1 = false := by
      rw [← Bool.not_eq_true, Reader.completion_of_connects, hnone]
      exact Option.some_ne_none _ ∘ Eq.symm
    rw [ClientSide.bytesRead, System.final_concat]
    change (if ClientSide.Client.connects i input.1 then []
      else ClientSide.bytesRead i c₀ inputs ++ input.1.received i) = []
    rw [hnot, ih, ClientSide.Event.received, hnone]
    rfl

theorem session_reaches_user_first :
    let session := fun n => if n = 1 then [104] else [105]
    let c := ClientSide.system.final Client.single
      (readsOne.map fun event => (event, ClientSide.Env.plain))
    c.passed.length = 1 ∧
      c.passed = (List.range' 1 c.passed.length).map fun n => (n, session n) := by
  intro session c
  have hsilent : Client.single.Idle := ⟨rfl, rfl, rfl, by simp [Client.single]⟩
  have hidle : Acceptor.oneUser.Idle := ⟨rfl, rfl, by simp [Acceptor.oneUser, Acceptor.userPort]⟩
  -- whatever has been read by then, the server has written
  have hsent : ((ServerSide.system.final Acceptor.oneUser
      (sendsTwo.map fun event => (event, ServerSide.Env.plain))).tcp? 0).map
        (fun t : ServerSide.TcpConnection => (numbered t.stream,
          (List.range 8).all fun n => (ClientSide.bytesRead 0 Client.single
            ((readsOne.map fun event => (event, ClientSide.Env.plain)).take n)).isPrefixOf
              t.socket.sent)) =
      some ([(1, [104]), (2, [105])], true) := by
    decide +kernel
  obtain ⟨t, ht, hsent⟩ := Option.map_eq_some_iff.mp hsent
  rw [Prod.mk.injEq, List.all_eq_true] at hsent
  have hagrees : Agrees session t.stream := by
    rw [Agrees, hsent.1]
    simp [session]
  have hserved (before : List (ClientSide.Event × ClientSide.Env))
      (hbefore : before <+: readsOne.map fun event => (event, ClientSide.Env.plain)) (i : Nat)
      (hread : ClientSide.bytesRead i Client.single before ≠ []) :
      ServedBy session (ClientSide.bytesRead i Client.single before) := by
    by_cases hi : i = 0
    · subst hi
      have hlength : before.length < 8 := Nat.lt_succ_of_le hbefore.length_le
      have hbytes := List.isPrefixOf_iff_prefix.mp
        (hsent.2 before.length (List.mem_range.mpr hlength))
      rw [← List.prefix_iff_eq_take.mp hbefore] at hbytes
      exact ⟨Acceptor.oneUser, _, _, 0, t, hidle, fun h => absurd rfl h,
        sendsTwo_run.weaken fun _ _ h => h.1, ht, hagrees, hbytes⟩
    · refine absurd (bytesRead_nothing fun input hinput => ?_) hread
      obtain ⟨event, hevent, rfl⟩ := List.mem_map.mp (hbefore.subset hinput)
      simp only [readsOne, List.mem_cons, List.not_mem_nil, or_false] at hevent
      rcases hevent with rfl | rfl | rfl | rfl | rfl | rfl | rfl <;>
        simp [ClientSide.Event.completion, Ne.symm hi]
  have hpassed := session_reaches_user session Client.single hsilent _ c
    (System.run_of_admits (by decide +kernel)) (by decide +kernel) hserved
  exact ⟨by decide +kernel, hpassed⟩

end SoupBin
