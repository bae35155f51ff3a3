import SoupBin.ClientReconnects
import SoupBin.ClientRestarts

/-!
# Closing a connection for good

After `close` has returned, the connection is not opened again before `connect`
is called, unless it was being torn down already for a reason after which it is
opened again, or was just being opened or rescheduled.
-/

namespace SoupBin.ClientSide

/-! ## The connection that has been closed -/

namespace TcpConnection

/-- Whatever is disconnected was disconnected for a reason. -/
def Recorded (t : TcpConnection) : Prop := t.state.state = .disconnected → t.state.reason ≠ .none

/-- The reason is one after which the connection is not opened again. -/
def Final (t : TcpConnection) : Prop :=
  t.state.reason ≠ .none ∧ isRetryable t.state.reason = false

theorem Disconnected.recorded {t u : TcpConnection} {reason : DisconnectReason}
    (hd : Disconnected reason t u) (hr : reason ≠ .none) : u.Recorded := by
  intro _
  rw [hd.state]
  dsimp only
  split
  · exact hr
  · assumption

theorem stays_recorded : Stays True Recorded where
  fresh h := by
    intro hs
    rcases h.state with ⟨hstate, -⟩ | ⟨hstate, -⟩
    · rw [hstate] at hs
      cases hs
    · simp [hstate]
  act _ ha h := by
    cases ha with
    | aside ha =>
      rw [Recorded, ha.state]
      exact h
    | disconnect reason hobserved _ hd =>
      apply hd.recorded
      rintro rfl
      cases hobserved
  close {t} h := by
    rcases t.disconnect_cases .userInitiated with heq | hd
    · rw [TcpConnection.close, heq]
      exact h
    · exact hd.recorded (by decide)
  connected _ := by
    intro hs
    cases hs
  loggedIn _ := by
    intro hs
    cases hs

/-- The first reason stays. -/
theorem Disconnected.final {t u : TcpConnection} {reason : DisconnectReason}
    (hd : Disconnected reason t u) (h : t.Final) : u.Final := by
  rw [Final, hd.state]
  dsimp only
  rw [if_neg h.1]
  exact h

theorem Act.final {aborts : Prop} {t u : TcpConnection} (ha : t.Act aborts u) (h : t.Final) :
    u.Final := by
  cases ha with
  | aside ha =>
    rw [Final, ha.state]
    exact h
  | disconnect _ _ _ hd => exact hd.final h

end TcpConnection

/-- Neither the timer nor the end of a teardown opens the connection again. -/
structure Connection.ClosedForGood (conn : Connection) : Prop where
  idle : conn.reconnectTimer.started = false
  slot : conn.Slot TcpConnection.Final

theorem Connection.Act.closedForGood {R : Rules} {i : Nat} {conn conn' : Connection}
    (ha : Connection.Act R i conn conn') (h : conn.ClosedForGood) : conn'.ClosedForGood := by
  cases ha with
  | tcp hf => exact ⟨h.idle, h.slot.updateTcp fun t ht => (hf t ht).final⟩
  | close _ =>
    refine ⟨rfl, h.slot.updateTcp fun t _ ht => ?_⟩
    rcases t.disconnect_cases .userInitiated with heq | hd
    · rw [TcpConnection.close, heq]
      exact ht
    · exact hd.final ht
  | configure hc hr _ _ => exact ⟨hr.trans h.idle, fun t ht => h.slot t (hc ▸ ht)⟩
  | setSession _ _ => exact ⟨h.idle, h.slot⟩
  | ended => exact ⟨h.idle, h.slot⟩

namespace Client

/-! ## Closed until `connect` is called -/

/-- Since `before` was recorded, the connection `i` is closed for good, unless
`connect` has been called. -/
def Shut (i : Nat) (before : List Entry) (c : Client) : Prop :=
  ∃ after, c.trace = before ++ after ∧
    (.connectCalled i ∉ after → c.At i Connection.ClosedForGood ∧ .constructed i ∉ after)

section
variable {i : Nat} {before : List Entry} {c c' : Client}

theorem Shut.since (h : c.Shut i before) : before <+: c.trace := by
  obtain ⟨after, htrace, -⟩ := h
  exact ⟨after, htrace.symm⟩

theorem Shut.same (h : c.Shut i before) (hc : c'.connections = c.connections)
    (ht : c'.trace = c.trace) : c'.Shut i before := by
  obtain ⟨after, htrace, hclosed⟩ := h
  exact ⟨after, ht.trans htrace, fun hn => ⟨(hclosed hn).1.same hc, (hclosed hn).2⟩⟩

theorem Shut.log (h : c.Shut i before) {entry : Entry} (he : entry ≠ .constructed i) :
    (c.log entry).Shut i before := by
  obtain ⟨after, htrace, hclosed⟩ := h
  refine ⟨after ++ [entry], by simp [Client.log, htrace], fun hn => ?_⟩
  obtain ⟨hat, hnot⟩ := hclosed fun hmem => hn (List.mem_append_left _ hmem)
  exact ⟨hat.same rfl, by simpa [hnot] using he.symm⟩

theorem Shut.update (h : c.Shut i before) (j : Nat) {f : Connection → Connection}
    (hf : j = i → ∀ conn, c.connections[i]? = some conn → conn.ClosedForGood →
      (f conn).ClosedForGood) : (c.updateConnection j f).Shut i before := by
  obtain ⟨after, htrace, hclosed⟩ := h
  exact ⟨after, htrace, fun hn => ⟨(hclosed hn).1.update (fun _ hp => hp) hf, (hclosed hn).2⟩⟩

/-- The slot is emptied. -/
theorem Shut.emptied (h : c.Shut i before) (j : Nat) :
    (c.updateConnection j (·.setConnection none)).Shut i before :=
  h.update j fun _ _ _ hp => ⟨hp.idle, Connection.slot_empty rfl⟩

/-- It has not been closed for good, so `connect` has been called. -/
theorem Shut.connected (h : c.Shut i before) (hnot : ¬c.At i Connection.ClosedForGood)
    (ht : c.trace <+: c'.trace) : c'.Shut i before := by
  obtain ⟨after, htrace, hclosed⟩ := h
  obtain ⟨more, hmore⟩ := ht
  refine ⟨after ++ more, by rw [← hmore, htrace, List.append_assoc], fun hn => ?_⟩
  exact absurd (hclosed fun hmem => hn (List.mem_append_left _ hmem)).1 hnot

/-- `connect` has just been called. -/
theorem Shut.reopened (h : c.Shut i before) (hbefore : before.getLast? ≠ some (.connectCalled i))
    (hlast : c.trace.getLast? = some (.connectCalled i)) (ht : c.trace <+: c'.trace) :
    c'.Shut i before := by
  obtain ⟨after, htrace, -⟩ := h
  obtain ⟨more, hmore⟩ := ht
  refine ⟨after ++ more, by rw [← hmore, htrace, List.append_assoc], fun hn => ?_⟩
  rw [htrace] at hlast
  cases after with
  | nil => exact absurd (by simpa using hlast) hbefore
  | cons entry rest =>
    rw [List.getLast?_append_of_ne_nil _ (List.cons_ne_nil _ _)] at hlast
    exact absurd (List.mem_append_left _ (List.mem_of_getLast? hlast)) hn

variable {R : Rules}

theorem Moves.shut (hbefore : before.getLast? ≠ some (.connectCalled i)) (hm : Moves R c c') :
    c.Shut i before → c'.Shut i before := by
  induction hm with
  | refl c => exact id
  | trans _ _ ih₁ ih₂ => exact fun h => ih₂ (ih₁ h)
  | note he =>
    intro h
    apply h.log
    rintro rfl
    cases he
  | returned _ _ => exact fun h => h.log (by simp)
  | aside ha => exact fun h => h.same ha.connections ha.trace
  | added conn hc hr _ _ =>
    rintro ⟨after, htrace, hclosed⟩
    refine ⟨after, htrace, fun hn => ⟨(hclosed hn).1.added ?_, (hclosed hn).2⟩⟩
    exact ⟨hr, Connection.slot_empty hc⟩
  | next n => exact fun h => h.same rfl rfl
  | connection hf =>
    intro h
    apply h.update
    rintro rfl conn hconn hp
    exact (hf conn hconn).closedForGood hp
  | @login c j _ _ response _ _ _ _ =>
    intro h
    have hlogged := h.update j (f := (·.updateTcp fun t =>
      (t.updateLoginTimer LoginTimer.stop).setState .loggedIn))
      fun _ _ _ hp => ⟨hp.idle, hp.slot.updateTcp fun _ _ ht => ht⟩
    have haccepted := hlogged.update j (f := (·.accept response))
      fun _ _ _ hp => ⟨hp.idle, hp.slot⟩
    exact haccepted.log (by simp)
  | @deliver c n data _ _ =>
    intro h
    have hcounted : (c.setNextSequenceNumber ((n + 1) % 2 ^ 64)).Shut i before := h.same rfl rfl
    exact hcounted.log (by simp)
  | @endSession c _ =>
    intro h
    have hended : ({ c with hasSessionEnded := true } : Client).Shut i before := h.same rfl rfl
    exact hended.log (by simp)
  | @opened c c' j t _ hlast _ _ _ _ hm _ ih =>
    intro h
    by_cases hj : j = i
    · subst hj
      exact h.reopened hbefore hlast ((List.prefix_append _ _).trans hm.trace)
    · have hvacant : (c.vacate j).Shut i before := (h.emptied j).log (by simp [hj])
      exact (ih hvacant).update j fun hji => absurd hji hj

theorem Shut.freed (h : c.Shut i before) (j : Nat) (handlerSet : Bool) (reason : DisconnectReason) :
    ((c.freed j).log (.called handlerSet (.connection j (.disconnect reason)))).Shut i before := by
  have hfreed : (c.freed j).Shut i before := (h.emptied j).log (by simp)
  exact hfreed.log (by simp)

theorem Shut.delayed (h : c.Shut i before) (j : Nat) :
    (c.updateConnection j Connection.nextDelay).Shut i before :=
  h.update j fun _ _ _ hp => ⟨hp.idle, hp.slot⟩

theorem Shut.stopReconnect (h : c.Shut i before) (j : Nat) : (c.stopReconnect j).Shut i before :=
  h.update j fun _ _ _ hp => ⟨rfl, hp.slot⟩

/-- The timer of another connection is started. -/
theorem Shut.begun (h : c.Shut i before) {j : Nat} (hj : j ≠ i)
    (f g : ReconnectTimer → ReconnectTimer) :
    ((c.updateConnection j (·.updateReconnectTimer f)).updateConnection j
      (·.updateReconnectTimer g)).Shut i before :=
  (h.update j fun hji => absurd hji hj).update j fun hji => absurd hji hj

theorem Shut.install (h : c.Shut i before) {j : Nat} (hj : j ≠ i) (t : TcpConnection) :
    (c.install j t).Shut i before := h.update j fun hji => absurd hji hj

theorem Shut.setConnected (h : c.Shut i before) (j : Nat) :
    (c.updateTcp j (·.setState .connected)).Shut i before :=
  h.update j fun _ _ _ hp => ⟨hp.idle, hp.slot.updateTcp fun _ _ ht => ht⟩

/-- The reason is one after which the connection is opened again. -/
theorem not_closedForGood_of_retryable {t : TcpConnection} (ht : c.tcp? i = some t)
    (hr : isRetryable t.state.reason = true) : ¬c.At i Connection.ClosedForGood := by
  intro hclosed
  obtain ⟨conn, hconn, htcp⟩ := Option.bind_eq_some_iff.mp ht
  exact absurd (((hclosed conn hconn).slot t htcp).2.symm.trans hr) (by decide)

theorem not_closedForGood_of_reconnecting (hr : c.reconnecting i = true) :
    ¬c.At i Connection.ClosedForGood := by
  intro hclosed
  cases hconn : c.connections[i]? with
  | none => simp [Client.reconnecting, hconn] at hr
  | some conn =>
    have hrunning : conn.reconnectTimer.started = true := by
      simpa [Client.reconnecting, hconn] using hr
    exact absurd ((hclosed conn hconn).idle.symm.trans hrunning) (by decide)

theorem Closes.trace {env : Env} {facts : Facts} {j : Nat} {reason : DisconnectReason}
    (hcloses : Closes env facts j reason c c') :
    ∃ b, c.trace ++ [.onClosed j, .called b (.connection j (.disconnect reason))] <+: c'.trace := by
  have hnoted (b : Bool) : c.trace ++ [.onClosed j, .called b (.connection j (.disconnect reason))] =
      ((c.freed j).log (.called b (.connection j (.disconnect reason)))).trace := by
    simp [freed, Client.log, updateConnection]
  cases hcloses with
  | @idle b _ hm _ => exact ⟨b, hnoted b ▸ hm.trace⟩
  | @rescheduled b _ _ _ _ _ _ hm hm' hscheduled =>
    refine ⟨b, hnoted b ▸ hm.trace.trans (hm'.trace.trans ?_)⟩
    cases hscheduled with
    | running _ => exact List.prefix_rfl
    | failed _ _ hm'' => exact hm''.trace
    | begun _ _ => exact List.prefix_rfl

/-- In a later event it stays closed. -/
theorem Course.shut (hbefore : before.getLast? ≠ some (.connectCalled i)) {env : Env}
    {event : Event} (hcourse : Course env c event c') (h : c.Shut i before) :
    c'.Shut i before := by
  cases hcourse with
  | moves hm => exact hm.shut hbefore h
  | connected _ _ hm hm' => exact hm'.shut hbefore ((hm.shut hbefore h).setConnected _)
  | @closed j t c₁ _ hm ht _ hcloses =>
    have h₁ := hm.shut hbefore h
    have htrace := hcloses.trace
    cases hcloses with
    | idle hm' _ => exact hm'.shut hbefore (h₁.freed _ _ _)
    | rescheduled hs hretry hm' hm'' hscheduled =>
      have h₃ := hm''.shut hbefore ((hm'.shut hbefore (h₁.freed _ _ _)).delayed _)
      cases hscheduled with
      | running _ => exact h₃
      | failed _ _ hm''' => exact hm'''.shut hbefore h₃
      | begun _ _ =>
        by_cases hj : j = i
        · subst hj
          obtain ⟨b, htrace⟩ := htrace
          exact h₁.connected (not_closedForGood_of_retryable ht hretry)
            ((List.prefix_append _ _).trans htrace)
        · exact h₃.begun hj _ _
  | @reopened j _ _ c₁ c₂ _ hm hr hm' _ =>
    have h₁ := hm.shut hbefore h
    by_cases hj : j = i
    · subst hj
      exact h₁.connected (not_closedForGood_of_reconnecting hr)
        ((List.prefix_append _ _).trans hm'.trace)
    · have hvacant : ((c₁.stopReconnect j).vacate j).Shut i before :=
        ((h₁.stopReconnect j).emptied j).log (by simp [hj])
      exact (hm'.shut hbefore hvacant).install hj _
  | failed _ _ hm _ hm' => exact hm'.shut hbefore ((hm.shut hbefore h).stopReconnect _)
  | started _ _ _ hm => exact hm.shut hbefore (h.same rfl rfl)
  | stopped _ _ _ hm => exact hm.shut hbefore (h.same rfl rfl)

end

/-! ## The event in which `close` is called -/

/-- `close` has come in time, after `made` was recorded of the event that began
in `c`, with `reason` on record when it returned: a teardown that is under way
does not end in another connection, the `Tcp_connection` is not being made, and
the connection is not being rescheduled. -/
structure InTime (env : Env) (i : Nat) (c : Client) (made : List Entry)
    (reason : Option DisconnectReason) : Prop where
  final : ∀ r, reason = some r → isRetryable r = false
  built : made.count (.constructed i) ≤ reason.isSome.toNat
  told : ∀ handlerSet r, .called handlerSet (.connection i (.disconnect r)) ∈ made →
    c.started = false ∨ isRetryable r = false ∨ (env.faults i).reconnectTimer ≠ none

/-- Since `base` was recorded, the slot of `i` has been empty unless a
`Tcp_connection` has been made. -/
structure Unfilled (i : Nat) (base : List Entry) (c : Client) : Prop where
  empty : ∃ made, c.trace = base ++ made ∧
    (.constructed i ∉ made → c.At i (·.connection = none))
  returned : ∀ made reason after, c.trace = base ++ made ++ .closeReturned i reason :: after →
    .constructed i ∉ made → reason = none

/-- Whenever `close` has returned in time since the event began in `c₀`, the
connection has been shut. -/
structure Sealed (env : Env) (i : Nat) (c₀ c : Client) : Prop where
  recorded : c.At i (Connection.Slot TcpConnection.Recorded)
  since : c₀.trace <+: c.trace
  shut : ∀ made reason after, c.trace = c₀.trace ++ made ++ .closeReturned i reason :: after →
    InTime env i c₀ made reason → c.Shut i (c₀.trace ++ made ++ [.closeReturned i reason])

section
variable {env : Env} {i : Nat} {base : List Entry} {c₀ c c' : Client}

theorem getLast?_closeReturned (before : List Entry) (reason : Option DisconnectReason) :
    (before ++ [Entry.closeReturned i reason]).getLast? ≠ some (.connectCalled i) := by
  simp

/-- An entry is among the old ones, or among the new ones. -/
theorem split_trace {entry : Entry} {old more before after : List Entry}
    (h : old ++ more = before ++ entry :: after) :
    (∃ rest, old = before ++ entry :: rest) ∨
      ∃ made, before = old ++ made ∧ more = made ++ entry :: after := by
  rcases List.append_eq_append_iff.mp h with ⟨made, hbefore, hmore⟩ | ⟨rest, hold, hrest⟩
  · exact Or.inr ⟨made, hbefore, hmore⟩
  · cases rest with
    | nil => exact Or.inr ⟨[], by simpa using hold.symm, by simpa using hrest.symm⟩
    | cons first rest =>
      rw [List.cons_append] at hrest
      obtain ⟨rfl, -⟩ := List.cons.inj hrest
      exact Or.inl ⟨rest, hold⟩

theorem split_singleton {entry first : Entry} {made after : List Entry}
    (h : [first] = made ++ entry :: after) : made = [] ∧ first = entry := by
  cases made with
  | nil => exact ⟨rfl, (List.cons.inj h).1⟩
  | cons _ rest => simp at h

/-- What has been recorded since is no return of `close`, or one that is known to
have shut the connection. -/
theorem Sealed.extend (h : Sealed env i c₀ c) (more : List Entry)
    (hrecorded : c'.At i (Connection.Slot TcpConnection.Recorded))
    (htrace : c'.trace = c.trace ++ more)
    (hmore : ∀ made reason after, more = made ++ .closeReturned i reason :: after →
      ∀ before, c.trace = c₀.trace ++ before → InTime env i c₀ (before ++ made) reason →
        c'.Shut i (c₀.trace ++ (before ++ made) ++ [.closeReturned i reason]))
    (hshut : ∀ before reason, c.Shut i (before ++ [.closeReturned i reason]) →
      c'.Shut i (before ++ [.closeReturned i reason])) : Sealed env i c₀ c' := by
  refine ⟨hrecorded, h.since.trans ⟨more, htrace.symm⟩, fun made reason after hsplit hp => ?_⟩
  rw [htrace] at hsplit
  rcases split_trace hsplit with ⟨rest, hold⟩ | ⟨new, hbefore, hnew⟩
  · exact hshut _ _ (h.shut made reason rest hold hp)
  · obtain ⟨before, hsince⟩ := h.since
    have hmade : made = before ++ new := by
      rw [← hsince, List.append_assoc] at hbefore
      exact List.append_cancel_left hbefore
    subst hmade
    exact hmore new reason after hnew before hsince.symm hp

/-- What has been recorded since is no return of `close`. -/
theorem Sealed.quiet (h : Sealed env i c₀ c) {more : List Entry}
    (hrecorded : c'.At i (Connection.Slot TcpConnection.Recorded))
    (htrace : c'.trace = c.trace ++ more) (hmore : ∀ reason, .closeReturned i reason ∉ more)
    (hshut : ∀ before reason, c.Shut i (before ++ [.closeReturned i reason]) →
      c'.Shut i (before ++ [.closeReturned i reason])) : Sealed env i c₀ c' := by
  apply h.extend more hrecorded htrace _ hshut
  rintro made reason after rfl
  exact absurd (List.mem_append_right _ List.mem_cons_self) (hmore reason)

theorem tcp?_eq_none (h : c.At i (·.connection = none)) : c.tcp? i = none := by
  rw [tcp?]
  cases hconn : c.connections[i]? with
  | none => rfl
  | some conn => exact h conn hconn

theorem Unfilled.quiet (h : c.Unfilled i base) {more : List Entry}
    (htrace : c'.trace = c.trace ++ more) (hmore : ∀ reason, .closeReturned i reason ∉ more)
    (htcp : .constructed i ∉ more → c.At i (·.connection = none) →
      c'.At i (·.connection = none)) : c'.Unfilled i base := by
  obtain ⟨made, hmade, hempty⟩ := h.empty
  constructor
  · refine ⟨made ++ more, by rw [htrace, hmade, List.append_assoc], fun hn => ?_⟩
    rw [List.mem_append, not_or] at hn
    exact htcp hn.2 (hempty hn.1)
  · intro before reason after hsplit hn
    rw [htrace] at hsplit
    rcases split_trace hsplit with ⟨rest, hold⟩ | ⟨new, -, hnew⟩
    · exact h.returned before reason rest hold hn
    · rw [hnew] at hmore
      exact absurd (List.mem_append_right _ List.mem_cons_self) (hmore reason)

theorem Unfilled.silent (h : c.Unfilled i base) (htrace : c'.trace = c.trace)
    (htcp : c.At i (·.connection = none) → c'.At i (·.connection = none)) :
    c'.Unfilled i base := by
  have hmore : c'.trace = c.trace ++ [] := by rw [htrace, List.append_nil]
  exact h.quiet hmore (by simp) fun _ => htcp

theorem Unfilled.log (h : c.Unfilled i base) {entry : Entry}
    (he : ∀ reason, entry ≠ .closeReturned i reason) : (c.log entry).Unfilled i base := by
  have htrace : (c.log entry).trace = c.trace ++ [entry] := rfl
  apply h.quiet htrace
  · exact fun reason hmem => he reason (List.mem_singleton.mp hmem).symm
  · exact fun _ hv => hv.same rfl

variable {R : Rules}

/-- Only what is made is put into the slot. -/
theorem Moves.unfilled (hm : Moves R c c') : c.Unfilled i base → c'.Unfilled i base := by
  induction hm with
  | refl c => exact id
  | trans _ _ ih₁ ih₂ => exact fun h => ih₂ (ih₁ h)
  | note he =>
    refine fun h => h.log ?_
    rintro reason rfl
    cases he
  | @returned c j _ _ =>
    intro h
    obtain ⟨made, hmade, hempty⟩ := h.empty
    refine ⟨⟨made ++ [_], by rw [Client.log, hmade, List.append_assoc], fun hn => ?_⟩, ?_⟩
    · exact (hempty fun hmem => hn (List.mem_append_left _ hmem)).same rfl
    · intro before reason after hsplit hn
      rcases split_trace hsplit with ⟨rest, hold⟩ | ⟨new, hbefore, hnew⟩
      · exact h.returned before reason rest hold hn
      · obtain ⟨rfl, heq⟩ := split_singleton hnew
        cases heq
        rw [List.append_nil, hmade] at hbefore
        have hvacant := hempty (List.append_cancel_left hbefore ▸ hn)
        rw [tcp?_eq_none hvacant]
        rfl
  | aside ha =>
    intro h
    exact h.silent ha.trace fun hv => hv.same ha.connections
  | added conn hc _ _ _ =>
    intro h
    exact h.silent rfl fun hv => hv.added hc
  | next n =>
    intro h
    exact h.silent rfl fun hv => hv.same rfl
  | connection hf =>
    intro h
    refine h.silent rfl fun hv => ?_
    apply hv.update fun _ hc => hc
    rintro rfl conn hconn hc
    exact (hf conn hconn).vacant hc
  | @login c j _ _ response _ _ _ _ =>
    intro h
    have hlogged : (c.updateTcp j fun t =>
        (t.updateLoginTimer LoginTimer.stop).setState .loggedIn).Unfilled i base := by
      exact h.silent rfl fun hv => hv.map j fun conn hc => by simp [Connection.updateTcp, hc]
    have haccepted : ((c.updateTcp j fun t => (t.updateLoginTimer LoginTimer.stop).setState
        .loggedIn).updateConnection j (·.accept response)).Unfilled i base := by
      exact hlogged.silent rfl fun hv => hv.map j fun _ hc => hc
    exact haccepted.log (by simp)
  | @deliver c n data _ _ =>
    intro h
    have hcounted : (c.setNextSequenceNumber ((n + 1) % 2 ^ 64)).Unfilled i base :=
      h.silent rfl fun hv => hv.same rfl
    exact hcounted.log (by simp)
  | @endSession c _ =>
    intro h
    have hended : ({ c with hasSessionEnded := true } : Client).Unfilled i base :=
      h.silent rfl fun hv => hv.same rfl
    exact hended.log (by simp)
  | @opened c c' j t _ _ _ _ _ _ hm _ ih =>
    intro h
    have hvacant : (c.vacate j).Unfilled i base := by
      have htrace : (c.vacate j).trace = c.trace ++ [.constructed j] := rfl
      apply h.quiet htrace
      · simp
      · intro _ hv
        have hempty := hv.map j (f := (·.setConnection none)) fun _ _ => rfl
        exact hempty.same rfl
    have hinner := ih hvacant
    by_cases hj : j = i
    · subst hj
      obtain ⟨made, hmade, -⟩ := h.empty
      obtain ⟨rest, hrest⟩ := hm.trace
      refine ⟨⟨made ++ .constructed j :: rest, ?_, fun hn => ?_⟩, hinner.returned⟩
      · show c'.trace = _
        rw [← hrest]
        simp [vacate, Client.log, updateConnection, hmade]
      · exact absurd (List.mem_append_right _ List.mem_cons_self) hn
    · exact hinner.silent rfl fun hv => hv.update (fun _ hc => hc) fun hji => absurd hji hj

theorem Sealed.log (h : Sealed env i c₀ c) (entry : Entry) (hc : entry ≠ .constructed i)
    (hr : ∀ reason, entry ≠ .closeReturned i reason) : Sealed env i c₀ (c.log entry) := by
  have hrecorded : (c.log entry).At i (Connection.Slot TcpConnection.Recorded) :=
    h.recorded.same rfl
  have htrace : (c.log entry).trace = c.trace ++ [entry] := rfl
  apply h.quiet hrecorded htrace
  · exact fun reason hmem => hr reason (List.mem_singleton.mp hmem).symm
  · exact fun _ _ hs => hs.log hc

/-- A step that records nothing. -/
theorem Sealed.silent (h : Sealed env i c₀ c)
    (hrecorded : c'.At i (Connection.Slot TcpConnection.Recorded)) (htrace : c'.trace = c.trace)
    (hshut : ∀ before reason, c.Shut i (before ++ [.closeReturned i reason]) →
      c'.Shut i (before ++ [.closeReturned i reason])) : Sealed env i c₀ c' := by
  have hmore : c'.trace = c.trace ++ [] := by rw [htrace, List.append_nil]
  exact h.quiet hrecorded hmore (by simp) hshut

theorem Sealed.update (h : Sealed env i c₀ c) (j : Nat) {f : Connection → Connection}
    (hf : j = i → ∀ conn, conn.Slot TcpConnection.Recorded → (f conn).Slot TcpConnection.Recorded)
    (hg : j = i → ∀ conn : Connection, conn.ClosedForGood → (f conn).ClosedForGood) :
    Sealed env i c₀ (c.updateConnection j f) :=
  h.silent (h.recorded.update (fun _ hp => hp) fun hj conn _ => hf hj conn) rfl
    fun _ _ hs => hs.update j fun hj conn _ => hg hj conn

theorem Sealed.emptied (h : Sealed env i c₀ c) (j : Nat) :
    Sealed env i c₀ (c.updateConnection j (·.setConnection none)) :=
  h.update j (fun _ _ _ => Connection.slot_empty rfl)
    fun _ _ hp => ⟨hp.idle, Connection.slot_empty rfl⟩

theorem Sealed.install (h : Sealed env i c₀ c) {j : Nat} (hj : j ≠ i) (t : TcpConnection) :
    Sealed env i c₀ (c.install j t) :=
  h.update j (fun hji => absurd hji hj) fun hji => absurd hji hj

/-- The `Tcp_connection` has been made, and `close` has been called while it was. -/
theorem Sealed.filled (h : Sealed env i c₀ c) {v w : Client} (hv : v.trace = c.trace ++ [.constructed i])
    (hempty : v.At i (·.connection = none)) (hm : Moves R v w) (t : TcpConnection)
    (hrecorded : (w.install i t).At i (Connection.Slot TcpConnection.Recorded))
    (hshut : ∀ before reason, c.Shut i (before ++ [.closeReturned i reason]) →
      (w.install i t).Shut i (before ++ [.closeReturned i reason])) :
    Sealed env i c₀ (w.install i t) := by
  obtain ⟨rest, hrest⟩ := hm.trace
  have hunfilled : v.Unfilled i v.trace := by
    refine ⟨⟨[], by simp, fun _ => hempty⟩, fun made reason after hsplit => ?_⟩
    exact absurd (congrArg List.length hsplit) (by simp)
  refine h.extend (.constructed i :: rest) hrecorded ?_ ?_ hshut
  · show w.trace = _
    rw [← hrest, hv, List.append_assoc]
    rfl
  · intro made reason after hsplit before _ hp
    cases made with
    | nil => cases hsplit
    | cons first new =>
      obtain ⟨rfl, hnew⟩ := List.cons.inj hsplit
      -- It has been made once, and the slot is still empty.
      have hcount := hp.built
      simp only [List.count_append, List.count_cons_self] at hcount
      have hreturned := (hm.unfilled hunfilled).returned new reason after
        (by rw [← hrest, hnew, List.append_assoc]; rfl)
      cases reason with
      | none => exact absurd hcount (by simp)
      | some r =>
        have hnone : new.count (.constructed i) = 0 := by
          have hone : (some r).isSome.toNat = 1 := rfl
          omega
        have hnew : .constructed i ∉ new := List.count_eq_zero.mp hnone
        cases hreturned hnew

/-- `close` has returned. -/
theorem Sealed.returned (h : Sealed env i c₀ c) (hidle : c.reconnecting i = false)
    (hdisconnected : ∀ t, c.tcp? i = some t → t.state.state = .disconnected) :
    Sealed env i c₀ (c.log (.closeReturned i ((c.tcp? i).map fun t => t.state.reason))) := by
  refine h.extend [_] (h.recorded.same rfl) rfl ?_ fun _ _ hs => hs.log (by simp)
  intro made reason after hsplit before hbefore hp
  obtain ⟨rfl, heq⟩ := split_singleton hsplit
  cases heq
  refine ⟨[], by simp [Client.log, hbefore], fun _ => ⟨?_, by simp⟩⟩
  intro conn hconn
  have hconn : c.connections[i]? = some conn := hconn
  refine ⟨by simpa [Client.reconnecting, hconn] using hidle, fun t ht => ?_⟩
  have htcp : c.tcp? i = some t := by simp [tcp?, hconn, ht]
  refine ⟨h.recorded conn hconn t ht (hdisconnected t htcp), ?_⟩
  exact hp.final _ (by rw [htcp]; rfl)

theorem Moves.sealed (hm : Moves R c c') : Sealed env i c₀ c → Sealed env i c₀ c' := by
  have hsilent {a b : Client} (hm : Moves R a b) (ht : b.trace = a.trace) (h : Sealed env i c₀ a) :
      Sealed env i c₀ b :=
    h.silent (hm.slot TcpConnection.stays_recorded (fun _ => trivial) h.recorded) ht
      fun before reason => hm.shut (getLast?_closeReturned before reason)
  have hlogged {a b : Client} {entry : Entry} (hm : Moves R a b) (ht : b.trace = a.trace ++ [entry])
      (he : ∀ reason, entry ≠ .closeReturned i reason) (h : Sealed env i c₀ a) :
      Sealed env i c₀ b :=
    h.quiet (hm.slot TcpConnection.stays_recorded (fun _ => trivial) h.recorded) ht
      (fun reason hmem => he reason (List.mem_singleton.mp hmem).symm)
      fun before reason => hm.shut (getLast?_closeReturned before reason)
  induction hm with
  | refl c => exact id
  | trans _ _ ih₁ ih₂ => exact fun h => ih₂ (ih₁ h)
  | @note c entry he hf =>
    refine hlogged (.note he hf) rfl ?_
    rintro reason rfl
    cases he
  | @returned c j hidle hdisconnected =>
    intro h
    by_cases hj : j = i
    · subst hj
      exact h.returned hidle hdisconnected
    · exact h.log _ (by simp) (by simp [hj])
  | aside ha => exact hsilent (.aside ha) ha.trace
  | added conn h₁ h₂ h₃ h₄ => exact hsilent (.added conn h₁ h₂ h₃ h₄) rfl
  | next n => exact hsilent (.next n) rfl
  | connection hf => exact hsilent (.connection hf) rfl
  | login hi ht hs hsession => exact hlogged (.login hi ht hs hsession) rfl (by simp)
  | deliver hn hl => exact hlogged (.deliver hn hl) rfl (by simp)
  | endSession he => exact hlogged (.endSession he) rfl (by simp)
  | @opened c c' j t hcall hlast hi hs hv hr hm ht ih =>
    intro h
    by_cases hj : j = i
    · subst hj
      have hopened : Moves R c (c'.install j t) := .opened hcall hlast hi hs hv hr hm ht
      have hempty : (c.vacate j).At j (·.connection = none) := by
        have hemptied : (c.updateConnection j (·.setConnection none)).At j (·.connection = none) :=
          at_updated fun _ => rfl
        exact hemptied.same rfl
      exact h.filled rfl hempty hm t (hopened.slot TcpConnection.stays_recorded (fun _ => trivial) h.recorded)
        fun before reason => hopened.shut (getLast?_closeReturned before reason)
    · have hvacant := (h.emptied j).log (.constructed j) (by simp [hj]) (by simp)
      exact (ih hvacant).install hj t

theorem Sealed.freed (h : Sealed env i c₀ c) (j : Nat) (handlerSet : Bool)
    (reason : DisconnectReason) :
    Sealed env i c₀ ((c.freed j).log (.called handlerSet (.connection j (.disconnect reason)))) :=
  ((h.emptied j).log (.onClosed j) (by simp) (by simp)).log _ (by simp) (by simp)

theorem Sealed.delayed (h : Sealed env i c₀ c) (j : Nat) :
    Sealed env i c₀ (c.updateConnection j Connection.nextDelay) :=
  h.update j (fun _ _ hp => hp) fun _ _ hp => ⟨hp.idle, hp.slot⟩

theorem Sealed.stopReconnect (h : Sealed env i c₀ c) (j : Nat) :
    Sealed env i c₀ (c.stopReconnect j) :=
  h.update j (fun _ _ hp => hp) fun _ _ hp => ⟨rfl, hp.slot⟩

theorem Sealed.setConnected (h : Sealed env i c₀ c) (j : Nat) :
    Sealed env i c₀ (c.updateTcp j (·.setState .connected)) :=
  h.update j (fun _ _ hp => hp.updateTcp fun _ _ => TcpConnection.stays_recorded.connected)
    fun _ _ hp => ⟨hp.idle, hp.slot.updateTcp fun _ _ ht => ht⟩

/-- The timer is started after `disconnect` and `reconnect_scheduled`, in which
no call of `close` comes in time. -/
theorem Sealed.rescheduled (h : Sealed env i c₀ c) {t : TcpConnection} (ht : c.tcp? i = some t)
    (hs : c₀.started = true) (hretry : isRetryable t.state.reason = true)
    (hfault : (env.faults i).reconnectTimer = none) {handlerSet : Bool}
    (htrace : c.trace ++ [.onClosed i, .called handlerSet
      (.connection i (.disconnect t.state.reason))] <+: c'.trace)
    (hrecorded : c'.At i (Connection.Slot TcpConnection.Recorded)) : Sealed env i c₀ c' := by
  obtain ⟨rest, hrest⟩ := htrace
  rw [List.append_assoc] at hrest
  refine h.extend _ hrecorded hrest.symm ?_ fun _ _ hshut =>
    hshut.connected (not_closedForGood_of_retryable ht hretry) ⟨_, hrest⟩
  intro made reason after hsplit before _ hp
  have htold : .called handlerSet (.connection i (.disconnect t.state.reason)) ∈ made := by
    match made, hsplit with
    | [], hsplit => cases hsplit
    | [_], hsplit => cases hsplit
    | _ :: second :: _, hsplit =>
      obtain ⟨-, htail⟩ := List.cons.inj hsplit
      obtain ⟨rfl, -⟩ := List.cons.inj htail
      simp
  rcases hp.told _ _ (List.mem_append_right _ htold) with hidle | hnot | hfailed
  · exact absurd (hidle.symm.trans hs) (by decide)
  · exact absurd (hnot.symm.trans hretry) (by decide)
  · exact absurd hfault hfailed

/-- In the event itself. -/
theorem Course.sealed {event : Event} (hcourse : Course env c event c')
    (hrecorded : c.At i (Connection.Slot TcpConnection.Recorded)) : Sealed env i c c' := by
  have h : Sealed env i c c := by
    refine ⟨hrecorded, List.prefix_rfl, fun made reason after hsplit => ?_⟩
    exact absurd (congrArg List.length hsplit) (by simp)
  cases hcourse with
  | moves hm => exact hm.sealed h
  | connected _ _ hm hm' => exact hm'.sealed ((hm.sealed h).setConnected _)
  | @closed j t c₁ _ hm ht _ hcloses =>
    have h₁ := hm.sealed h
    have htrace := hcloses.trace
    cases hcloses with
    | idle hm' _ => exact hm'.sealed (h₁.freed _ _ _)
    | @rescheduled b _ c₂ c₃ _ hs hretry hm' hm'' hscheduled =>
      have h₃ := hm''.sealed ((hm'.sealed (h₁.freed _ _ _)).delayed _)
      cases hscheduled with
      | running _ => exact h₃
      | failed _ _ hm''' => exact hm'''.sealed h₃
      | begun _ hfault =>
        by_cases hj : j = i
        · subst hj
          obtain ⟨b, htrace⟩ := htrace
          refine h₁.rescheduled ht (hm.started ▸ hs) hretry hfault htrace ?_
          have hrunning := h₃.recorded.map j
            (f := (·.updateReconnectTimer (ReconnectTimer.setStarted true))) fun _ hp => hp
          exact hrunning.map j fun _ hp => hp
        · have hstarted := h₃.update j (f := (·.updateReconnectTimer (ReconnectTimer.setStarted
            true))) (fun hji => absurd hji hj) fun hji => absurd hji hj
          exact hstarted.update j (fun hji => absurd hji hj) fun hji => absurd hji hj
  | @reopened j _ t c₁ c₂ _ hm hr hm' ht =>
    have h₁ := hm.sealed h
    by_cases hj : j = i
    · subst hj
      have hempty : ((c₁.stopReconnect j).vacate j).At j (·.connection = none) := by
        have hemptied : ((c₁.stopReconnect j).updateConnection j (·.setConnection none)).At j
            (·.connection = none) := at_updated fun _ => rfl
        exact hemptied.same rfl
      have hvacant : ((c₁.stopReconnect j).vacate j).At j
          (Connection.Slot TcpConnection.Recorded) :=
        fun conn hconn => Connection.slot_empty (hempty conn hconn)
      refine h₁.filled rfl hempty hm' t ?_ fun before reason hshut => ?_
      · refine (hm'.slot TcpConnection.stays_recorded (fun _ => trivial) hvacant).map j fun _ _ u hu => ?_
        cases hu
        exact TcpConnection.stays_recorded.fresh ht
      · exact hshut.connected (not_closedForGood_of_reconnecting hr)
          ((List.prefix_append _ _).trans hm'.trace)
    · have hvacant := ((h₁.stopReconnect j).emptied j).log (.constructed j) (by simp [hj]) (by simp)
      exact (hm'.sealed hvacant).install hj t
  | failed _ _ hm _ hm' => exact hm'.sealed ((hm.sealed h).stopReconnect _)
  | started _ _ _ hm =>
    exact hm.sealed (h.silent (hrecorded.same rfl) rfl fun _ _ hs => hs.same rfl rfl)
  | stopped _ _ _ hm =>
    exact hm.sealed (h.silent (hrecorded.same rfl) rfl fun _ _ hs => hs.same rfl rfl)

end

/-- **A close in time is final.** When `close` of the connection `i` has returned
in time: no reconnect timer runs, and no `Tcp_connection` has been made since, as
long as `connect` has not been called, by the user or by `start`. -/
theorem close_in_time_is_final (c₀ : Client) (h₀ : Idle c₀) (inputs : List (Event × Env))
    (c : Client) (hrun : system.Run c₀ inputs c) (event : Event) (env : Env)
    (hready : c.ready event = true) (i : Nat) (made : List Entry)
    (reason : Option DisconnectReason)
    (hclosed : c.trace ++ made ++ [.closeReturned i reason] <+: (c.handle env event).trace)
    (hintime : InTime env i c made reason) (later : List (Event × Env)) (c' : Client)
    (hlater : system.Run (c.handle env event) later c') (after : List Entry)
    (htrace : c'.trace = c.trace ++ made ++ .closeReturned i reason :: after)
    (hconnect : .connectCalled i ∉ after) :
    c'.reconnecting i = false ∧ .constructed i ∉ after := by
  have hrecorded : c.At i (Connection.Slot TcpConnection.Recorded) := by
    apply hrun.keeps (I := At i (Connection.Slot TcpConnection.Recorded))
    · exact fun input c hinput h => slot_handle TcpConnection.stays_recorded input.2 hinput
        (fun _ => trivial) h
    · intro conn hconn
      exact Connection.slot_empty (h₀.connections conn (List.mem_of_getElem? hconn)).1
  have hsealed := (course_handle env hready).sealed hrecorded
  obtain ⟨rest, hrest⟩ := hclosed
  have hshut := hsealed.shut made reason rest (by rw [← hrest]; simp) hintime
  have hlast := getLast?_closeReturned (i := i) (c.trace ++ made) reason
  have hkept := hlater.keeps (I := Shut i (c.trace ++ made ++ [.closeReturned i reason]))
    (fun input _ hinput h => (course_handle input.2 hinput).shut hlast h) hshut
  obtain ⟨since, hsince, hgood⟩ := hkept
  have heq : since = after := by
    rw [htrace, List.append_assoc, List.append_assoc] at hsince
    simpa using hsince.symm
  subst heq
  obtain ⟨hat, hnot⟩ := hgood hconnect
  refine ⟨?_, hnot⟩
  cases hr : c'.reconnecting i with
  | false => rfl
  | true => exact absurd hat (not_closedForGood_of_reconnecting hr)

/-- The user closes a connection that is logging in, and it is torn down. -/
def closesFirst : List Event :=
  [.call .start, .posted 0, .connectCompleted 0 none]

def isTornDown : List Event :=
  [.headerCompleted 0 (.error .operationAborted), .writeCompleted 0 (.error .operationAborted),
    .loginTimerWait 0 (some .operationAborted), .socketClosed 0, .loginTimerStopped 0]

theorem close_in_time_is_final_torn_down :
    let c := system.final single (closesFirst.map fun event => (event, Env.plain))
    let c' := system.final (c.handle .plain (.call (.close 0)))
      (isTornDown.map fun event => (event, Env.plain))
    c'.tcp? 0 = none ∧ c'.reconnecting 0 = false ∧
      .constructed 0 ∉ c'.trace.drop (c.trace.length + 1) := by
  intro c c'
  have hidle : Idle single := ⟨rfl, rfl, rfl, by simp [single]⟩
  have hrun : system.Run single (closesFirst.map fun event => (event, Env.plain)) c :=
    System.run_of_admits (by decide +kernel)
  have hlater : system.Run (c.handle .plain (.call (.close 0)))
      (isTornDown.map fun event => (event, Env.plain)) c' :=
    System.run_of_admits (by decide +kernel)
  have hclosed : (c.handle .plain (.call (.close 0))).trace =
      c.trace ++ [] ++ [.closeReturned 0 (some .userInitiated)] := by decide +kernel
  have hintime : InTime .plain 0 c [] (some .userInitiated) := by
    refine ⟨?_, by simp, by simp⟩
    rintro r ⟨⟩
    rfl
  refine ⟨by decide +kernel, close_in_time_is_final single hidle _ c hrun (.call (.close 0)) .plain
    (by decide +kernel) 0 [] (some .userInitiated) (hclosed ▸ List.prefix_rfl) hintime _ c' hlater
    (c'.trace.drop (c.trace.length + 1)) (by decide +kernel) (by decide +kernel)⟩

/-- The server has closed the connection, and the teardown is under way when the
user closes it: it is opened again all the same. -/
theorem reopened_after_close :
    let inputs := losesConnection.map fun event => (event, Env.plain)
    let c := system.final single inputs
    let c' := c.handle .plain (.call (.close 0))
    let c'' := c'.handle .plain (.loginTimerStopped 0)
    system.Run single inputs c ∧ c.started = true ∧ c.ready (.call (.close 0)) = true ∧
      c'.ready (.loginTimerStopped 0) = true ∧ c'.reconnecting 0 = false ∧
      c''.reconnecting 0 = true ∧ .connectCalled 0 ∉ c''.trace.drop c.trace.length := by
  intro inputs c c' c''
  exact ⟨System.run_of_admits (by decide +kernel), by decide +kernel, by decide +kernel,
    by decide +kernel, by decide +kernel, by decide +kernel, by decide +kernel⟩

end Client
end SoupBin.ClientSide
