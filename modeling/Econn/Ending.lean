/-
How two records end a call (src/src/econn/econn.c): the HANGUP exchange and the CANCEL.

# The handshake

`econn_end` in DATACHAN_ESTABLISHED sends a HANGUP request and waits in HANGUP_SENT with
the term timer armed. `recv_hangup` at the peer, in DATACHAN_ESTABLISHED, answers with a
HANGUP response and closes; the response closes the first record in HANGUP_SENT.
`hangup_closes_both`: from every reachable pair in which both records are
DATACHAN_ESTABLISHED and nothing is on the way, with session ids that fit the
`sessid_remote` buffers, the three steps run and leave both records closed and both
channels empty. Both records must be DATACHAN_ESTABLISHED: a HANGUP that reaches
ANSWERED is dropped (`orphan_after_hangup`).

# The CANCEL path

Before DATACHAN_ESTABLISHED on its own side, `econn_end` sends a CANCEL instead and waits
in TERMINATING with the cancel timer armed; no response comes back. `recv_cancel` at the
peer, in PENDING_INCOMING, ANSWERED or DATACHAN_ESTABLISHED, closes it with ECANCELED,
and the timer closes the first record (`cancel_closes_both`). The peer checks the client
id as well as the session id, so both must fit its buffers.

# Crossing HANGUPs and the setup timer

Both applications may end an established call at once: each record is in HANGUP_SENT
when the other's request arrives, which `recv_hangup` accepts there too; each answers and
closes, and the responses then find TERMINATING records and are dropped
(`crossing_hangups_close_both`). A call nobody answers ends on the caller's setup timer:
`econn_close` from PENDING_OUTGOING sends a best-effort CANCEL, which closes the ringing
peer (`setup_timeout_cancels`). The callee gives no such signal: when it leaves a ringing
call, on its own setup timer or by `econn_end` (which ignores PENDING_INCOMING and closes
on the cancel timer), nothing is sent, and the caller rings on (`callee_leaves_silently`).
The loser of a glare that ends the call does send a CANCEL, but the winner is in
PENDING_OUTGOING, where `recv_cancel` drops it, and waits on for its own timer
(`glare_loser_cancel_dropped`).

# No record waits forever

The two-record model's transport takes every send, so only `econn_close` writes
`setup_err` there, and a TERMINATING record that is still open has the cancel timer
armed (`OpenClean`). With the timer coupling of each record's own run, every record of
every reachable pair is quiet (IDLE, ANSWERED, DATACHAN_ESTABLISHED), closed, or has
`tmr_local` armed, whose expiry closes it (`pair_never_stuck`).

# The session check

`recv_hangup` checks the session id alone. A record past the SETUP exchange has bound
its peer's session id (`Side.Bound` of the glare model, carried over by the simulation),
and what it bound is the peer's own as the buffer keeps it (`Pair.Wf`); so the check
passes when the id fits the buffer.
-/
import Econn.Phases

namespace Econn

variable (d : Deps)

/-- A record past the SETUP exchange passes the session check on its peer's messages,
when the peer's session id fits the buffer: it has bound the peer's id, as the buffer
keeps it. -/
theorem Pair.Reach.sessid_check {d : Deps} {P : Pair} (h : Pair.Reach d P)
    (hst : P.a.conn.state.bound = true)
    (hfit : P.b.conn.sessidLocal.data.length < d.sessidRemoteSize) :
    strCaseEq P.a.conn.sessidRemote P.b.conn.sessidLocal = true := by
  have hs : strIsset P.a.conn.sessidRemote = true := ((Pair.Reach.glare h).bound.1 hst).2
  rcases h.wf.1.sid with h0 | h0
  · simp [h0, strIsset] at hs
  · rw [h0]
    exact (strCaseEq_strNcpy_iff (Nat.le_of_succ_le d.two_le_sessidRemoteSize) _).mpr hfit

/-- A record past the SETUP exchange passes the client id check on its peer's messages,
when the peer's client id fits the buffer. -/
theorem Pair.Reach.clientid_check {d : Deps} {P : Pair} (h : Pair.Reach d P)
    (hst : P.a.conn.state.bound = true)
    (hfit : P.b.conn.clientid.data.length < d.clientidRemoteSize) :
    strCaseEq P.b.conn.clientid P.a.conn.clientidRemote = true := by
  have hs : strIsset P.a.conn.clientidRemote = true := ((Pair.Reach.glare h).bound.1 hst).1
  rcases h.wf.1.cid with h0 | h0
  · simp [h0, strIsset] at hs
  · rw [h0, strCaseEq_comm]
    exact (strCaseEq_strNcpy_iff (Nat.le_of_succ_le d.two_le_clientidRemoteSize) _).mpr hfit

/-- Each step of a pair is a step of one record's own run. -/
theorem Pair.SideStep.reachable {d : Deps} {P Q : Pair} (h : Pair.SideStep d P Q)
    (ha : Reachable d P.a.conn) (hb : Reachable d P.b.conn) :
    Reachable d Q.a.conn ∧ Reachable d Q.b.conn := by
  cases h <;> exact ⟨ha.step _ 0, hb⟩

/-- Each record of a reachable pair is reachable on its own, so what holds over every run
of one record holds of both. -/
theorem Pair.Reach.reachable {d : Deps} {P : Pair} (h : Pair.Reach d P) :
    Reachable d P.a.conn ∧ Reachable d P.b.conn := by
  induction h with
  | init ha hb => exact ⟨.alloc ha, .alloc hb⟩
  | step _ hs ih =>
    rcases hs with hs | hs
    · exact hs.reachable ih.1 ih.2
    · exact (hs.reachable ih.2 ih.1).symm

/-- A record that is not closed holds no error in `setup_err`, and if it is TERMINATING it
waits on the cancel timer `econn_end` armed. -/
def OpenClean (c : Conn) : Prop :=
  c.closed = false → c.setupErr = 0 ∧
    (c.state = .terminating → ∃ t, c.tmrLocal = some t ∧ t.handler = .cancelHandler)

/-- A step whose sends are taken keeps `OpenClean`: no send fails, so the one way into
TERMINATING that leaves the record open is `econn_end`'s, which arms the cancel timer,
and only `econn_close` writes `setup_err`. -/
theorem Moves.openClean {d : Deps} {c c' : Conn} {e : Event} {effs : List Effect}
    (hm : Moves d c e 0 c' effs) (ht : c.transp = true) (h : OpenClean c) :
    OpenClean c' := by
  intro hc
  cases hm
  case startFail | answerFail | updateReqFail | updateRespFail =>
    exact absurd (by simp [sendResult, ht]) ‹sendResult c.transp 0 ≠ 0›
  case tmrFire | cancel | hangup => simp [closedConn] at hc
  case endIgnore | endCancel => exact ⟨(h hc).1, fun _ => ⟨_, rfl, rfl⟩⟩
  case stay | setError | adopt => exact h hc
  all_goals
    refine ⟨(h hc).1, fun hst => ?_⟩
    simp_all

theorem Pair.SideStep.openClean {d : Deps} {P Q : Pair} (h : Pair.SideStep d P Q)
    (ht : P.a.conn.transp = true) (ha : OpenClean P.a.conn) (hb : OpenClean P.b.conn) :
    OpenClean Q.a.conn ∧ OpenClean Q.b.conn := by
  cases h <;> exact ⟨(econnStep_moves d _ _ 0).openClean ht ha, hb⟩

/-- In every run of a pair, both records keep `OpenClean`. -/
theorem Pair.Reach.openClean {d : Deps} {P : Pair} (h : Pair.Reach d P) :
    OpenClean P.a.conn ∧ OpenClean P.b.conn := by
  induction h with
  | init ha hb =>
    have hA := econnAlloc_ok ha
    have hB := econnAlloc_ok hb
    exact ⟨fun _ => ⟨hA.2.2.2.1, by simp [hA.1]⟩, fun _ => ⟨hB.2.2.2.1, by simp [hB.1]⟩⟩
  | step hP hs ih =>
    rcases hs with hs | hs
    · exact hs.openClean hP.wf.1.transp ih.1 ih.2
    · exact (hs.openClean hP.wf.2.transp ih.2 ih.1).symm

/-- A reachable record with a nonzero `timeout_setup` whose open states carry no error is
quiet, closed, or waits with `tmr_local` armed, whose expiry closes it. -/
theorem Reachable.settles {d : Deps} {c : Conn} (hc : Reachable d c)
    (hts : 0 < c.conf.timeoutSetup) (hclean : c.closed = false → c.setupErr = 0) :
    c.state.quiet = true ∨ c.closed = true ∨
      c.tmrLocal.isSome ∧ ∀ r, (econnTmrFire c r).conn.closed = true := by
  cases hcl : c.closed
  · obtain ⟨s, hs⟩ : ∃ s, c.state = s := ⟨_, rfl⟩
    have harm : c.tmrLocal.isSome = true ∨ c.state.quiet = true := by
      cases s
      case terminating =>
        exact .inl ((hc.noSilentTerm hs hcl).resolve_right (by simp [hclean hcl]))
      case hangupRecv => exact absurd hs (Run.ne_hangupRecv hc)
      all_goals first
        | (refine .inr ?_; simp [hs, State.quiet]; done)
        | exact .inl ((Run.timerCoupled hc hts).1 (by simp [hs, State.waiting]))
    rcases harm with h | h
    · exact .inr (.inr ⟨h, econnTmrFire_closed h⟩)
    · exact .inl h
  · exact .inr (.inl rfl)

/-- `recv_cancel` accepts a CANCEL from the bound peer in PENDING_INCOMING, ANSWERED or
DATACHAN_ESTABLISHED, and closes with ECANCELED. -/
theorem econnRecvMessage_cancel {b : Conn} {u cl s : String} {r : Int}
    (hc : strCaseEq cl b.clientidRemote = true) (hs : strCaseEq b.sessidRemote s = true)
    (hst : b.state = .pendingIncoming ∨ b.state = .answered ∨
      b.state = .datachanEstablished) :
    econnRecvMessage d b u cl (messageInit .cancel s) r =
      econnClose { b with state := .terminating } ECANCELED r := by
  have : ¬(b.state ≠ .pendingIncoming ∧ b.state ≠ .answered ∧
      b.state ≠ .datachanEstablished) := by tauto
  simp [econnRecvMessage, recvCancel, hc, hs, messageInit, this]

/-- `recv_hangup` on a HANGUP from the bound peer in DATACHAN_ESTABLISHED or HANGUP_SENT:
a request is answered, and the record closes without an error. -/
theorem recvHangup_accept {c : Conn} {msg : Message} {r : Int}
    (hs : strCaseEq c.sessidRemote msg.sessidSender = true)
    (hst : c.state = .datachanEstablished ∨ c.state = .hangupSent) :
    recvHangup c msg r =
      ⟨closedConn c 0, (if msg.isRequest then sendEffects c.transp
        { messageInit .hangup c.sessidLocal with resp := true } else []) ++
        if c.closeh then [.closeh 0] else [], 0⟩ := by
  have : ¬(c.state ≠ .datachanEstablished ∧ c.state ≠ .hangupSent) := by tauto
  simp [recvHangup, hs, this, closedConn, closeEffects, sendHangup]

/-- A TERMINATING record drops every HANGUP. -/
theorem recvHangup_terminating {c : Conn} {msg : Message} {r : Int}
    (hst : c.state = .terminating) : recvHangup c msg r = ⟨c, [], 0⟩ := by
  simp [recvHangup, hst]

/-- The HANGUP exchange: A's application ends the call, B takes the request, A takes the
response. -/
def hangupSchedule : List (Bool × Pair.Move) :=
  [(true, .call .endCall), (false, .deliver), (true, .deliver)]

/-- Two records in DATACHAN_ESTABLISHED with nothing on the way, whose session ids fit
each other's `sessid_remote` buffers: when one application ends the call and the
messages are delivered, the HANGUP request and response close both records, and nothing
is left on the way. -/
theorem hangup_closes_both {P : Pair} (h : Pair.Reach d P)
    (hfit : P.a.conn.sessidLocal.data.length < d.sessidRemoteSize ∧
      P.b.conn.sessidLocal.data.length < d.sessidRemoteSize)
    (ha : P.a.conn.state = .datachanEstablished) (hb : P.b.conn.state = .datachanEstablished)
    (hab : P.ab = []) (hba : P.ba = []) :
    ∃ Q, P.execAll d hangupSchedule = some Q ∧ Q.a.conn.closed = true ∧
      Q.b.conn.closed = true ∧ Q.ab = [] ∧ Q.ba = [] := by
  have hsa := h.sessid_check (by simp [ha, State.bound]) hfit.2
  have hsb : strCaseEq P.b.conn.sessidRemote P.a.conn.sessidLocal = true :=
    h.swap.sessid_check (by simp [Pair.swap, hb, State.bound]) hfit.1
  have hta := h.wf.1.transp
  have htb := h.wf.2.transp
  obtain ⟨⟨a, sa, pa, da⟩, ⟨b, sb, pb, db⟩, ab, ba⟩ := P
  simp only at ha hb hab hba hsa hsb hta htb
  subst hab hba
  simp [Pair.execAll, hangupSchedule, Pair.sideExec, Pair.swap, Endpoint.may, allowed,
    Endpoint.run, econnStep, econnEnd, ha, hb, sendHangup, hta, htb, econnRecvMessage,
    recvHangup_accept, recvHangup_terminating, messageInit, hsa, hsb, Message.isRequest,
    Effect.sent, closedConn, sendEffects]

/-- The CANCEL path: A's application ends the call, B takes the CANCEL, A's cancel timer
expires. -/
def cancelSchedule : List (Bool × Pair.Move) :=
  [(true, .call .endCall), (false, .deliver), (true, .call .tmrFire)]

/-- A record in PENDING_OUTGOING, ANSWERED or CONFLICT_RESOLUTION ends the call with a peer
in PENDING_INCOMING, ANSWERED or DATACHAN_ESTABLISHED, nothing on the way, and ids that
fit the peer's buffers: the CANCEL closes the peer with ECANCELED, the cancel timer closes
the first record, and nothing is left on the way. -/
theorem cancel_closes_both {P : Pair} (h : Pair.Reach d P)
    (hfit : P.a.conn.clientid.data.length < d.clientidRemoteSize ∧
      P.a.conn.sessidLocal.data.length < d.sessidRemoteSize)
    (ha : P.a.conn.state = .pendingOutgoing ∨ P.a.conn.state = .answered ∨
      P.a.conn.state = .conflictResolution)
    (hb : P.b.conn.state = .pendingIncoming ∨ P.b.conn.state = .answered ∨
      P.b.conn.state = .datachanEstablished)
    (hab : P.ab = []) (hba : P.ba = []) :
    ∃ Q, P.execAll d cancelSchedule = some Q ∧ Q.a.conn.closed = true ∧
      Q.b.conn.closed = true ∧ Q.b.conn.setupErr = ECANCELED ∧ Q.ab = [] ∧ Q.ba = [] := by
  have hbound : P.b.conn.state.bound = true := by
    rcases hb with hb | hb | hb <;> simp [hb, State.bound]
  have hcb : strCaseEq P.a.conn.clientid P.b.conn.clientidRemote = true :=
    h.swap.clientid_check hbound hfit.1
  have hsb : strCaseEq P.b.conn.sessidRemote P.a.conn.sessidLocal = true :=
    h.swap.sessid_check hbound hfit.2
  have hta := h.wf.1.transp
  obtain ⟨⟨a, sa, pa, da⟩, ⟨b, sb, pb, db⟩, ab, ba⟩ := P
  simp only at ha hb hab hba hcb hsb hta
  subst hab hba
  have hend : econnEnd a 0 =
      ⟨{ a with state := .terminating, tmrLocal := some ⟨.cancelHandler, 1⟩ },
        (sendCancel a 0).2, 0⟩ := by
    rcases ha with ha | ha | ha <;> simp [econnEnd, ha]
  simp [Pair.execAll, cancelSchedule, Pair.sideExec, Pair.swap, Endpoint.may, allowed,
    Endpoint.run, econnStep, hend, sendCancel, hta, econnRecvMessage_cancel d hcb hsb hb,
    Effect.sent, closedConn, sendEffects, closeEffects, econnTmrFire]

/-- alpha's call rings at bravo, and alpha cancels it. -/
def ringingSchedule : List (Bool × Pair.Move) :=
  [(true, .call (.start (some "v=0") none)), (false, .deliver)]

/-- alpha cancels the ringing call: both records close, bravo with ECANCELED. -/
theorem ringing_cancel :
    let P := (pairAB.execAll specDeps ringingSchedule).getD pairAB
    P.a.conn.state = .pendingOutgoing ∧ P.b.conn.state = .pendingIncoming ∧
      ∃ Q, P.execAll specDeps cancelSchedule = some Q ∧ Q.a.conn.closed = true ∧
        Q.b.conn.closed = true ∧ Q.b.conn.setupErr = ECANCELED ∧ Q.ab = [] ∧ Q.ba = [] := by
  have hrun : pairAB.execAll specDeps ringingSchedule =
      some ((pairAB.execAll specDeps ringingSchedule).getD pairAB) := rfl
  exact ⟨by decide, by decide, cancel_closes_both specDeps
    (Pair.Reach.of_execAll specDeps pairAB_reach hrun) (by decide) (.inl (by decide))
    (.inl (by decide)) rfl rfl⟩

/-- The caller's setup timer expires, and the CANCEL `econn_close` sends reaches the
callee. -/
def timeoutSchedule : List (Bool × Pair.Move) := [(true, .call .tmrFire), (false, .deliver)]

/-- A record in PENDING_OUTGOING with a nonzero `timeout_setup`, whose call rings at a peer
in PENDING_INCOMING, nothing on the way, and ids that fit the peer's buffers: when the
caller's timer expires, `econn_close` closes the caller and sends the best-effort CANCEL,
which closes the peer with ECANCELED, and nothing is left on the way. -/
theorem setup_timeout_cancels {P : Pair} (h : Pair.Reach d P)
    (hts : 0 < P.a.conn.conf.timeoutSetup)
    (hfit : P.a.conn.clientid.data.length < d.clientidRemoteSize ∧
      P.a.conn.sessidLocal.data.length < d.sessidRemoteSize)
    (ha : P.a.conn.state = .pendingOutgoing) (hb : P.b.conn.state = .pendingIncoming)
    (hab : P.ab = []) (hba : P.ba = []) :
    ∃ Q, P.execAll d timeoutSchedule = some Q ∧ Q.a.conn.closed = true ∧
      Q.b.conn.closed = true ∧ Q.b.conn.setupErr = ECANCELED ∧ Q.ab = [] ∧ Q.ba = [] := by
  have hbound : P.b.conn.state.bound = true := by simp [hb, State.bound]
  have hcb : strCaseEq P.a.conn.clientid P.b.conn.clientidRemote = true :=
    h.swap.clientid_check hbound hfit.1
  have hsb : strCaseEq P.b.conn.sessidRemote P.a.conn.sessidLocal = true :=
    h.swap.sessid_check hbound hfit.2
  obtain ⟨t, ht⟩ := Option.isSome_iff_exists.mp
    ((Run.timerCoupled h.reachable.1 hts).1 (by simp [ha, State.waiting]))
  have hta := h.wf.1.transp
  obtain ⟨⟨a, sa, pa, da⟩, ⟨b, sb, pb, db⟩, ab, ba⟩ := P
  simp only at ha hb hab hba hcb hsb hta ht
  subst hab hba
  simp [Pair.execAll, timeoutSchedule, Pair.sideExec, Pair.swap, Endpoint.may, allowed,
    Endpoint.run, econnStep, econnTmrFire, ht, ha, hta, econnRecvMessage_cancel d hcb hsb (.inl hb),
    Effect.sent, closedConn, closeEffects, sendEffects]

/-- Nobody answers alpha's ringing call: alpha's setup timer closes both records. -/
theorem ringing_times_out :
    let P := (pairAB.execAll specDeps ringingSchedule).getD pairAB
    P.a.conn.state = .pendingOutgoing ∧ P.b.conn.state = .pendingIncoming ∧
      ∃ Q, P.execAll specDeps timeoutSchedule = some Q ∧ Q.a.conn.closed = true ∧
        Q.b.conn.closed = true ∧ Q.b.conn.setupErr = ECANCELED ∧ Q.ab = [] ∧ Q.ba = [] := by
  have hrun : pairAB.execAll specDeps ringingSchedule =
      some ((pairAB.execAll specDeps ringingSchedule).getD pairAB) := rfl
  exact ⟨by decide, by decide, setup_timeout_cancels specDeps
    (Pair.Reach.of_execAll specDeps pairAB_reach hrun) (by decide) (by decide) (by decide)
    (by decide) rfl rfl⟩

/-- A record in PENDING_INCOMING with a nonzero `timeout_setup` leaves the call on its own
setup timer, or by `econn_end` and then the cancel timer: either way it closes, sends
nothing, and its peer's endpoint and channel are as they were. -/
theorem callee_leaves_silently {P : Pair} (h : Pair.Reach d P)
    (hts : 0 < P.b.conn.conf.timeoutSetup) (hb : P.b.conn.state = .pendingIncoming) :
    (∃ Q, P.execAll d [(false, .call .tmrFire)] = some Q ∧ Q.b.conn.closed = true ∧
      Q.a = P.a ∧ Q.ab = P.ab ∧ Q.ba = P.ba) ∧
    (∃ Q, P.execAll d [(false, .call .endCall), (false, .call .tmrFire)] = some Q ∧
      Q.b.conn.closed = true ∧ Q.a = P.a ∧ Q.ab = P.ab ∧ Q.ba = P.ba) := by
  obtain ⟨t, ht⟩ := Option.isSome_iff_exists.mp
    ((Run.timerCoupled h.reachable.2 hts).1 (by simp [hb, State.waiting]))
  obtain ⟨a, ⟨b, sb, pb, db⟩, ab, ba⟩ := P
  simp only at hb ht
  simp [Pair.execAll, Pair.sideExec, Pair.swap, Endpoint.may, allowed, Endpoint.run, econnStep,
    econnTmrFire, ht, econnEnd, hb, closedConn, closeEffects, Effect.sent]

/-- bravo leaves alpha's ringing call, by its timer or by hanging up: alpha hears nothing. -/
theorem bravo_leaves_ringing :
    let P := (pairAB.execAll specDeps ringingSchedule).getD pairAB
    P.a.conn.state = .pendingOutgoing ∧ P.b.conn.state = .pendingIncoming ∧
      (∃ Q, P.execAll specDeps [(false, .call .tmrFire)] = some Q ∧ Q.b.conn.closed = true ∧
        Q.a = P.a ∧ Q.ab = P.ab ∧ Q.ba = P.ba) ∧
      (∃ Q, P.execAll specDeps [(false, .call .endCall), (false, .call .tmrFire)] = some Q ∧
        Q.b.conn.closed = true ∧ Q.a = P.a ∧ Q.ab = P.ab ∧ Q.ba = P.ba) := by
  have hrun : pairAB.execAll specDeps ringingSchedule =
      some ((pairAB.execAll specDeps ringingSchedule).getD pairAB) := rfl
  exact ⟨by decide, by decide, callee_leaves_silently specDeps
    (Pair.Reach.of_execAll specDeps pairAB_reach hrun) (by decide) (by decide)⟩

/-- B, the loser of a glare, ends the call; its CANCEL reaches A; B's cancel timer
expires. -/
def loserEndSchedule : List (Bool × Pair.Move) :=
  [(false, .call .endCall), (true, .deliver), (false, .call .tmrFire)]

/-- A record in PENDING_OUTGOING whose peer lost the glare and waits in
CONFLICT_RESOLUTION, with nothing on the way from the peer: when the peer's application
ends the call, its CANCEL reaches the first record in PENDING_OUTGOING and is dropped, so
the first endpoint is as it was, while the peer closes on its cancel timer; nothing is
left on the way to the first record, and nothing is added on the way back. -/
theorem glare_loser_cancel_dropped {P : Pair} (h : Pair.Reach d P)
    (ha : P.a.conn.state = .pendingOutgoing) (hb : P.b.conn.state = .conflictResolution)
    (hba : P.ba = []) :
    ∃ Q, P.execAll d loserEndSchedule = some Q ∧ Q.a = P.a ∧ Q.b.conn.closed = true ∧
      Q.ab = P.ab ∧ Q.ba = [] := by
  have htb := h.wf.2.transp
  obtain ⟨⟨a, sa, pa, da⟩, ⟨b, sb, pb, db⟩, ab, ba⟩ := P
  simp only at ha hb hba htb
  subst hba
  simp [Pair.execAll, loserEndSchedule, Pair.sideExec, Pair.swap, Endpoint.may, allowed,
    Endpoint.run, econnStep, econnEnd, hb, sendCancel, htb, econnRecvMessage, messageInit,
    recvCancel, ha, Effect.sent, econnTmrFire, closedConn, closeEffects, sendEffects,
    Event.isStart, Event.passedSdp]

/-- alpha loses the glare with bravo and ends the call: bravo, the winner, drops alpha's
CANCEL and keeps waiting. -/
theorem glare_winner_keeps_waiting :
    let P := ((pairAB.execAll specDeps glareSchedule).getD pairAB).swap
    P.a.conn.state = .pendingOutgoing ∧ P.b.conn.state = .conflictResolution ∧
      ∃ Q, P.execAll specDeps loserEndSchedule = some Q ∧ Q.a = P.a ∧
        Q.b.conn.closed = true ∧ Q.ab = P.ab ∧ Q.ba = [] := by
  have hrun : pairAB.execAll specDeps glareSchedule =
      some ((pairAB.execAll specDeps glareSchedule).getD pairAB) := rfl
  exact ⟨by decide, by decide, glare_loser_cancel_dropped specDeps
    (Pair.Reach.of_execAll specDeps pairAB_reach hrun).swap (by decide) (by decide) rfl⟩

/-- No record of a pair waits without a timer. In every run of two records with nonzero
`timeout_setup`, whatever the interleaving, each record is IDLE, ANSWERED or
DATACHAN_ESTABLISHED, or closed, or has `tmr_local` armed, and the expiry closes it; and
each keeps `OpenClean`. -/
theorem pair_never_stuck {P : Pair} (h : Pair.Reach d P)
    (hts : 0 < P.a.conn.conf.timeoutSetup ∧ 0 < P.b.conn.conf.timeoutSetup) :
    (P.a.conn.state.quiet = true ∨ P.a.conn.closed = true ∨
      P.a.conn.tmrLocal.isSome ∧ ∀ r, (econnTmrFire P.a.conn r).conn.closed = true) ∧
    (P.b.conn.state.quiet = true ∨ P.b.conn.closed = true ∨
      P.b.conn.tmrLocal.isSome ∧ ∀ r, (econnTmrFire P.b.conn r).conn.closed = true) ∧
    OpenClean P.a.conn ∧ OpenClean P.b.conn :=
  have hc := h.openClean
  ⟨h.reachable.1.settles hts.1 (fun hcl => (hc.1 hcl).1),
    h.reachable.2.settles hts.2 (fun hcl => (hc.2 hcl).1), hc⟩

/-- alpha ends its call while it rings at bravo; before the CANCEL arrives alpha is
TERMINATING and open with its cancel timer armed, and bravo rings on with its setup
timer. -/
theorem ringing_never_stuck :
    let P := (pairAB.execAll specDeps (ringingSchedule ++ [(true, .call .endCall)])).getD pairAB
    P.a.conn.state = .terminating ∧ P.b.conn.state = .pendingIncoming ∧
    (P.a.conn.state.quiet = true ∨ P.a.conn.closed = true ∨
      P.a.conn.tmrLocal.isSome ∧ ∀ r, (econnTmrFire P.a.conn r).conn.closed = true) ∧
    (P.b.conn.state.quiet = true ∨ P.b.conn.closed = true ∨
      P.b.conn.tmrLocal.isSome ∧ ∀ r, (econnTmrFire P.b.conn r).conn.closed = true) ∧
    OpenClean P.a.conn ∧ OpenClean P.b.conn := by
  have hrun : pairAB.execAll specDeps (ringingSchedule ++ [(true, .call .endCall)]) =
      some ((pairAB.execAll specDeps (ringingSchedule ++ [(true, .call .endCall)])).getD
        pairAB) := rfl
  exact ⟨by decide, by decide, pair_never_stuck specDeps
    (Pair.Reach.of_execAll specDeps pairAB_reach hrun) (by decide)⟩

/-- alpha calls bravo, bravo answers, and both applications report their data channel. -/
def establishedSchedule : List (Bool × Pair.Move) :=
  callSchedule ++ [(true, .call .setDatachanEstablished), (false, .call .setDatachanEstablished)]

/-- alpha hangs up the established call: both records close. -/
theorem established_hangup :
    let P := (pairAB.execAll specDeps establishedSchedule).getD pairAB
    P.a.conn.state = .datachanEstablished ∧ P.b.conn.state = .datachanEstablished ∧
      ∃ Q, P.execAll specDeps hangupSchedule = some Q ∧ Q.a.conn.closed = true ∧
        Q.b.conn.closed = true ∧ Q.ab = [] ∧ Q.ba = [] := by
  have hrun : pairAB.execAll specDeps establishedSchedule =
      some ((pairAB.execAll specDeps establishedSchedule).getD pairAB) := rfl
  exact ⟨by decide, by decide, hangup_closes_both specDeps
    (Pair.Reach.of_execAll specDeps pairAB_reach hrun) (by decide) (by decide) (by decide)
    rfl rfl⟩

/-- Both applications end the established call at once; each record takes the other's
HANGUP request, then the other's response. -/
def crossingHangupSchedule : List (Bool × Pair.Move) :=
  [(true, .call .endCall), (false, .call .endCall), (true, .deliver), (false, .deliver),
    (true, .deliver), (false, .deliver)]

/-- Two records in DATACHAN_ESTABLISHED with nothing on the way, whose session ids fit the
`sessid_remote` buffers: when both applications end the call at once, each record takes
the other's HANGUP request in HANGUP_SENT, answers it and closes without an error, the
two responses are dropped, and nothing is left on the way. -/
theorem crossing_hangups_close_both {P : Pair} (h : Pair.Reach d P)
    (hfit : P.a.conn.sessidLocal.data.length < d.sessidRemoteSize ∧
      P.b.conn.sessidLocal.data.length < d.sessidRemoteSize)
    (ha : P.a.conn.state = .datachanEstablished) (hb : P.b.conn.state = .datachanEstablished)
    (hab : P.ab = []) (hba : P.ba = []) :
    ∃ Q, P.execAll d crossingHangupSchedule = some Q ∧ Q.a.conn.closed = true ∧
      Q.b.conn.closed = true ∧ Q.a.conn.setupErr = 0 ∧ Q.b.conn.setupErr = 0 ∧
      Q.ab = [] ∧ Q.ba = [] := by
  have hsa := h.sessid_check (by simp [ha, State.bound]) hfit.2
  have hsb : strCaseEq P.b.conn.sessidRemote P.a.conn.sessidLocal = true :=
    h.swap.sessid_check (by simp [Pair.swap, hb, State.bound]) hfit.1
  have hta := h.wf.1.transp
  have htb := h.wf.2.transp
  obtain ⟨⟨a, sa, pa, da⟩, ⟨b, sb, pb, db⟩, ab, ba⟩ := P
  simp only at ha hb hab hba hsa hsb hta htb
  subst hab hba
  simp [Pair.execAll, crossingHangupSchedule, Pair.sideExec, Pair.swap, Endpoint.may, allowed,
    Endpoint.run, econnStep, econnEnd, ha, hb, sendHangup, hta, htb, econnRecvMessage,
    recvHangup_accept, recvHangup_terminating, messageInit, hsa, hsb, Message.isRequest,
    Effect.sent, closedConn, sendEffects]

/-- alpha and bravo hang up the established call at once: both records close. -/
theorem both_hang_up :
    let P := (pairAB.execAll specDeps establishedSchedule).getD pairAB
    P.a.conn.state = .datachanEstablished ∧ P.b.conn.state = .datachanEstablished ∧
      ∃ Q, P.execAll specDeps crossingHangupSchedule = some Q ∧ Q.a.conn.closed = true ∧
        Q.b.conn.closed = true ∧ Q.a.conn.setupErr = 0 ∧ Q.b.conn.setupErr = 0 ∧
        Q.ab = [] ∧ Q.ba = [] := by
  have hrun : pairAB.execAll specDeps establishedSchedule =
      some ((pairAB.execAll specDeps establishedSchedule).getD pairAB) := rfl
  exact ⟨by decide, by decide, crossing_hangups_close_both specDeps
    (Pair.Reach.of_execAll specDeps pairAB_reach hrun) (by decide) (by decide) (by decide)
    rfl rfl⟩

end Econn
