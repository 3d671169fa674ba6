/-
How two records set up a call and update it (src/src/econn/econn.c): the SETUP and UPDATE
exchanges run to the end from every reachable pair in which they can start.

# The call

`econn_start` sends a SETUP request and waits in PENDING_OUTGOING. `handle_setup_request`
at an IDLE peer enters PENDING_INCOMING and calls the connect handler with the offer's
SDP. `econn_answer` sends the SETUP response, and `handle_setup_response` takes the caller
to ANSWERED and calls its answer handler with the answer's SDP.
`call_setup_completes`: from every reachable pair of IDLE records with nothing on the
way, whose client ids fit the `clientid_remote` buffers, the four steps run, leave both
records ANSWERED and nothing on the way, and hand each application the SDP the other
passed. `pair_agreement` says that every such state agrees; this module says that the
exchange gets there.

# Glare

Two records that start at once each receive a SETUP request in PENDING_OUTGOING.
`econn_iswinner` decides: the winner keeps waiting, the loser enters CONFLICT_RESOLUTION
and hands its application the winner's offer through the answer handler.
`glare_resolves`: when the rule is antisymmetric on the two, the loser's answer takes both
records to ANSWERED, and the winner's application gets the loser's answer. Whatever the
interleaving, the two records never report the same role in `conflict`, which
`econn_debug` prints as "Winner" or "Looser" (`glare_roles_differ`): each role is what
`econn_iswinner` said on that record's side against its peer (`GlareRole`).

# The UPDATE

`econn_update_req` from ANSWERED or DATACHAN_ESTABLISHED sends an UPDATE request and waits
in UPDATE_SENT; the peer enters UPDATE_RECV and calls the update-request handler;
`econn_update_resp` answers; the response takes the first record back. `update_completes`:
the exchange runs, and both records end ANSWERED with no timer armed, also when they were
DATACHAN_ESTABLISHED before (no path of the code goes back there by itself).
Two UPDATE requests that cross are settled as two SETUP requests are: the winner drops
the loser's, the loser takes the winner's in UPDATE_SENT and tells its application to
reset (`update_glare_resolves`).

# Shape of the proofs

Each call that sends gets one equation for a send the transport takes (`econnStart_sent`
and its three siblings), `recv_setup` one for a sender whose client id fits
(`recvSetup_fit`), and the UPDATE handlers one per path the exchanges take
(`handleUpdateRequest_accept`, `handleUpdateRequest_glare`, `handleUpdateResponse_accept`);
the session and client id checks of UPDATE come from the pair invariants
(`Pair.Reach.sessid_check`, `Pair.Reach.clientid_check`). Each exchange is then one
evaluation of its schedule.
-/
import Econn.Ending

namespace Econn

variable (d : Deps)

-- ===================================================== the calls that send

section Sends

variable {c : Conn} (sdp : Option String) (props : Option Props)

/-- `econn_start` from IDLE or PENDING_OUTGOING, over a transport that takes the SETUP. -/
theorem econnStart_sent (hst : c.state = .idle ∨ c.state = .pendingOutgoing)
    (ht : c.transp = true) :
    econnStart c sdp props 0 =
      ⟨{ c with state := .pendingOutgoing, dir := .outgoing, tmrLocal := armSetup c },
        [.send (setupMessage c.sessidLocal false sdp props false)],
        if c.conf.timeoutSetup = 0 then EPROTO else 0⟩ := by
  by_cases h0 : c.conf.timeoutSetup = 0 <;>
    simp [econnStart, hst, ht, sendResult, sendEffects, armSetup, h0]

/-- `econn_answer` from PENDING_INCOMING or CONFLICT_RESOLUTION, over a transport that
takes the SETUP response. -/
theorem econnAnswer_sent (hst : c.state = .pendingIncoming ∨ c.state = .conflictResolution)
    (ht : c.transp = true) :
    econnAnswer c sdp props 0 =
      ⟨{ c with tmrLocal := none, state := .answered },
        [.send (setupMessage c.sessidLocal true sdp props false)], 0⟩ := by
  have : ¬(c.state ≠ .pendingIncoming ∧ c.state ≠ .conflictResolution) := by tauto
  simp [econnAnswer, this, ht, sendResult, sendEffects]

/-- `econn_update_req`, over a transport that takes the UPDATE request. -/
theorem econnUpdateReq_sent (ht : c.transp = true) :
    econnUpdateReq c sdp props 0 =
      ⟨{ c with state := .updateSent, tmrLocal := armSetup c },
        [.send (setupMessage c.sessidLocal false sdp props true)],
        if c.conf.timeoutSetup = 0 then EPROTO else 0⟩ := by
  by_cases h0 : c.conf.timeoutSetup = 0 <;>
    simp [econnUpdateReq, ht, sendResult, sendEffects, armSetup, h0]

/-- `econn_update_resp` from UPDATE_RECV, over a transport that takes the UPDATE
response. -/
theorem econnUpdateResp_sent (hst : c.state = .updateRecv) (ht : c.transp = true) :
    econnUpdateResp c sdp props 0 =
      ⟨{ c with tmrLocal := none, state := .answered },
        [.send (setupMessage c.sessidLocal true sdp props true)], 0⟩ := by
  simp [econnUpdateResp, hst, ht, sendResult, sendEffects]

end Sends

/-- `recv_setup` on a SETUP from the peer whose client id the record has bound or not
bound at all, when the id fits the buffer: the check passes, and the handler runs on the
record with the peer's id bound. -/
theorem recvSetup_fit {ycl : String} (hfit : ycl.data.length < d.clientidRemoteSize)
    {x : Conn} {u : String} {msg : Message}
    (hc : x.clientidRemote = "" ∨ x.clientidRemote = strNcpy d.clientidRemoteSize ycl) :
    recvSetup d x u ycl msg =
      let x' := { x with clientidRemote := strNcpy d.clientidRemoteSize ycl }
      if msg.isRequest then handleSetupRequest d x' u ycl msg
      else handleSetupResponse d x' msg := by
  by_cases hs : strIsset x.clientidRemote
  · have h := hc.resolve_left fun h => by simp [h] at hs
    have heq : strCaseEq x.clientidRemote ycl = true :=
      h ▸ (strCaseEq_strNcpy_iff (Nat.le_of_succ_le d.two_le_clientidRemoteSize) _).mpr hfit
    simp only [recvSetup, hs, heq, ← h]
    rfl
  · simp [recvSetup, hs]

/-- `handle_update_request` in ANSWERED or DATACHAN_ESTABLISHED, on an UPDATE from the
bound peer: the record enters UPDATE_RECV with the timer armed and calls the handler. -/
theorem handleUpdateRequest_accept {c : Conn} {u cl : String} {msg : Message}
    (hc : strCaseEq c.clientidRemote cl = true)
    (hst : c.state = .answered ∨ c.state = .datachanEstablished) :
    handleUpdateRequest d c u cl msg =
      ⟨{ c with state := .updateRecv, tmrLocal := some ⟨.localHandler, c.conf.timeoutSetup⟩ },
        if c.updateReqh then [.updateReqh u cl msg.sdp msg.props false] else [], 0⟩ := by
  rcases hst with h | h <;> simp [handleUpdateRequest, hc, h]

/-- `handle_update_request` in UPDATE_SENT, on an UPDATE from the bound peer: the winner
drops it, the loser enters UPDATE_RECV and tells its application to reset. -/
theorem handleUpdateRequest_glare {c : Conn} {u cl : String} {msg : Message}
    (hc : strCaseEq c.clientidRemote cl = true) (hst : c.state = .updateSent) :
    handleUpdateRequest d c u cl msg =
      if d.iswinner c.useridSelf c.clientid u cl then ⟨c, [], 0⟩
      else ⟨{ c with state := .updateRecv, tmrLocal := some ⟨.localHandler, c.conf.timeoutSetup⟩ },
        if c.updateReqh then [.updateReqh u cl msg.sdp msg.props true] else [], 0⟩ := by
  simp [handleUpdateRequest, hc, hst]

/-- `handle_update_response` in UPDATE_SENT, on a response from the bound peer: the record
is ANSWERED again, with the timer stopped, and calls the handler. -/
theorem handleUpdateResponse_accept {c : Conn} {cl : String} {msg : Message}
    (hc : strCaseEq c.clientidRemote cl = true) (hst : c.state = .updateSent) :
    handleUpdateResponse c cl msg =
      ⟨{ c with tmrLocal := none, state := .answered },
        if c.updateResph then [.updateResph msg.sdp msg.props] else [], 0⟩ := by
  simp [handleUpdateResponse, hc, hst]

theorem State.bound_of_answered {st : State}
    (h : st = .answered ∨ st = .datachanEstablished) : st.bound = true := by
  rcases h with rfl | rfl <;> rfl

/-- Two records past the SETUP exchange whose ids fit each other's buffers pass each
other's session and client id checks. -/
theorem Pair.Reach.checks_pass {d : Deps} {P : Pair} (h : Pair.Reach d P)
    (ha : P.a.conn.state.bound = true) (hb : P.b.conn.state.bound = true)
    (hfit : P.a.conn.clientid.data.length < d.clientidRemoteSize ∧
      P.a.conn.sessidLocal.data.length < d.sessidRemoteSize ∧
      P.b.conn.clientid.data.length < d.clientidRemoteSize ∧
      P.b.conn.sessidLocal.data.length < d.sessidRemoteSize) :
    strCaseEq P.a.conn.sessidRemote P.b.conn.sessidLocal = true ∧
      strCaseEq P.a.conn.clientidRemote P.b.conn.clientid = true ∧
      strCaseEq P.b.conn.sessidRemote P.a.conn.sessidLocal = true ∧
      strCaseEq P.b.conn.clientidRemote P.a.conn.clientid = true :=
  ⟨h.sessid_check ha hfit.2.2.2, strCaseEq_comm _ _ ▸ h.clientid_check ha hfit.2.2.1,
    h.swap.sessid_check hb hfit.2.1, strCaseEq_comm _ _ ▸ h.swap.clientid_check hb hfit.1⟩

/-- A reachable IDLE record's application has not started a call. -/
theorem Pair.Reach.idle_not_started {d : Deps} {P : Pair} (h : Pair.Reach d P)
    (ha : P.a.conn.state = .idle) : P.a.started = false := by
  cases hs : P.a.started
  · rfl
  · cases (h.callers.1.started hs).symm.trans (h.callers.1.coupled.1 ha)

-- ================================================================ the call

/-- A's application starts the call, B takes the SETUP, B's application answers, A takes
the answer. -/
def setupSchedule (sdp sdp' : Option String) (props props' : Option Props) :
    List (Bool × Pair.Move) :=
  [(true, .call (.start sdp props)), (false, .deliver), (false, .call (.answer sdp' props')),
    (true, .deliver)]

/-- Two IDLE records with nothing on the way, whose client ids fit each other's
`clientid_remote` buffers: when A's application starts a call and B's answers it, the
SETUP request and response take both records to ANSWERED, B's application is handed A's
offer and A's application B's answer, and nothing is left on the way. -/
theorem call_setup_completes {P : Pair} (h : Pair.Reach d P)
    (hfit : P.a.conn.clientid.data.length < d.clientidRemoteSize ∧
      P.b.conn.clientid.data.length < d.clientidRemoteSize)
    (ha : P.a.conn.state = .idle) (hb : P.b.conn.state = .idle)
    (hab : P.ab = []) (hba : P.ba = [])
    (sdp sdp' : Option String) (props props' : Option Props) :
    ∃ Q, P.execAll d (setupSchedule sdp sdp' props props') = some Q ∧
      Q.a.conn.state = .answered ∧ Q.b.conn.state = .answered ∧
      Q.b.delivered = some sdp ∧ Q.a.delivered = some sdp' ∧ Q.ab = [] ∧ Q.ba = [] := by
  have hsa := h.idle_not_started ha
  have ⟨hwa, hwb⟩ := h.wf
  obtain ⟨⟨a, sa, pa, da⟩, ⟨b, sb, pb, db⟩, ab, ba⟩ := P
  simp only at ha hb hab hba hsa hwa hwb hfit
  subst hab hba
  simp [Pair.execAll, setupSchedule, Pair.sideExec, Pair.swap, Endpoint.may, allowed,
    Endpoint.run, econnStep, ha, hb, hsa, econnStart_sent, econnAnswer_sent, hwa.transp,
    hwb.transp, econnRecvMessage, setupMessage, messageInit, recvSetup_fit d hfit.1,
    recvSetup_fit d hfit.2, hwa.cid, hwb.cid, handleSetupRequest, handleSetupResponse, hwa.connh,
    hwb.connh, hwa.answerh, Message.isRequest, Effect.sdp, Effect.sent, Event.isStart]

/-- alpha calls bravo and bravo answers. -/
theorem alpha_calls_bravo :
    ∃ Q, pairAB.execAll specDeps (setupSchedule (some "v=0") (some "v=1") none none) = some Q ∧
      Q.a.conn.state = .answered ∧ Q.b.conn.state = .answered ∧
      Q.b.delivered = some (some "v=0") ∧ Q.a.delivered = some (some "v=1") ∧
      Q.ab = [] ∧ Q.ba = [] :=
  call_setup_completes specDeps pairAB_reach (by decide) rfl rfl rfl rfl _ _ _ _

-- ================================================================ glare

/-- Both applications start a call, each record takes the other's SETUP, B's application
answers, A takes the answer. -/
def glareAnswerSchedule (sdpA sdpB sdp' : Option String) (propsA propsB props' : Option Props) :
    List (Bool × Pair.Move) :=
  [(true, .call (.start sdpA propsA)), (false, .call (.start sdpB propsB)), (true, .deliver),
    (false, .deliver), (false, .call (.answer sdp' props')), (true, .deliver)]

/-- Two IDLE records with nothing on the way, whose client ids fit each other's
`clientid_remote` buffers, with `econn_iswinner` deciding for A on A's side and against B
on B's: when both applications start a call at once, A keeps waiting with `conflict` 1, B
enters CONFLICT_RESOLUTION with `conflict` -1 and hands its application A's offer; B's
answer then takes both records to ANSWERED and hands A's application the answer, and
nothing is left on the way. -/
theorem glare_resolves {P : Pair} (h : Pair.Reach d P)
    (hfit : P.a.conn.clientid.data.length < d.clientidRemoteSize ∧
      P.b.conn.clientid.data.length < d.clientidRemoteSize)
    (ha : P.a.conn.state = .idle) (hb : P.b.conn.state = .idle)
    (hab : P.ab = []) (hba : P.ba = [])
    (hwin : d.iswinner P.a.conn.useridSelf P.a.conn.clientid P.b.conn.useridSelf
      P.b.conn.clientid = true)
    (hlose : d.iswinner P.b.conn.useridSelf P.b.conn.clientid P.a.conn.useridSelf
      P.a.conn.clientid = false)
    (sdpA sdpB sdp' : Option String) (propsA propsB props' : Option Props) :
    ∃ Q, P.execAll d (glareAnswerSchedule sdpA sdpB sdp' propsA propsB props') = some Q ∧
      Q.a.conn.state = .answered ∧ Q.b.conn.state = .answered ∧ Q.a.conn.conflict = 1 ∧
      Q.b.conn.conflict = -1 ∧ Q.b.delivered = some sdpA ∧ Q.a.delivered = some sdp' ∧
      Q.ab = [] ∧ Q.ba = [] := by
  have hsa := h.idle_not_started ha
  have hsb := h.swap.idle_not_started hb
  have ⟨hwa, hwb⟩ := h.wf
  obtain ⟨⟨a, sa, pa, da⟩, ⟨b, sb, pb, db⟩, ab, ba⟩ := P
  simp only [Pair.swap] at ha hb hab hba hsa hsb hwa hwb hfit hwin hlose
  subst hab hba
  simp [Pair.execAll, glareAnswerSchedule, Pair.sideExec, Pair.swap, Endpoint.may, allowed,
    Endpoint.run, econnStep, ha, hb, hsa, hsb, econnStart_sent, econnAnswer_sent, hwa.transp,
    hwb.transp, econnRecvMessage, setupMessage, messageInit, recvSetup_fit d hfit.1,
    recvSetup_fit d hfit.2, hwa.cid, hwb.cid, handleSetupRequest, handleSetupResponse, hwin,
    hlose, hwa.answerh, hwb.answerh, Message.isRequest, Effect.sdp, Effect.sent, Event.isStart]

/-- bravo wins the glare with alpha, and alpha answers bravo's offer. -/
theorem bravo_wins_glare :
    ∃ Q, pairAB.swap.execAll specDeps
        (glareAnswerSchedule (some "v=1") (some "v=0") (some "v=2") none none none) = some Q ∧
      Q.a.conn.state = .answered ∧ Q.b.conn.state = .answered ∧ Q.a.conn.conflict = 1 ∧
      Q.b.conn.conflict = -1 ∧ Q.b.delivered = some (some "v=1") ∧
      Q.a.delivered = some (some "v=2") ∧ Q.ab = [] ∧ Q.ba = [] :=
  glare_resolves specDeps pairAB_reach.swap (by decide) rfl rfl rfl rfl (by decide) (by decide)
    _ _ _ _ _ _

/-- What a record `x` reports of a glare with its peer `y` in `conflict`: 1 only when
`econn_iswinner` decided for it against `y`, -1 only when it decided against it. -/
def GlareRole (x y : Conn) : Prop :=
  (x.conflict = 1 → d.iswinner x.useridSelf x.clientid y.useridSelf y.clientid = true) ∧
    (x.conflict = -1 → d.iswinner x.useridSelf x.clientid y.useridSelf y.clientid = false)

section Roles

variable {d} {c c' : Conn} {e : Event} {r : Int} {effs : List Effect}

/-- Only `handle_setup_request` in PENDING_OUTGOING writes `conflict`, with what
`econn_iswinner` said about the sender. -/
theorem Moves.conflict (hm : Moves d c e r c' effs) :
    c'.conflict = c.conflict ∨ ∃ u cl m, e = .recvMessage u cl m ∧
      (c'.conflict = 1 ∧ d.iswinner c.useridSelf c.clientid u cl = true ∨
        c'.conflict = -1 ∧ d.iswinner c.useridSelf c.clientid u cl = false) := by
  cases hm
  case glareWin hwin => exact .inr ⟨_, _, _, rfl, .inl ⟨rfl, hwin⟩⟩
  case glareLose hwin => exact .inr ⟨_, _, _, rfl, .inr ⟨rfl, hwin⟩⟩
  all_goals exact .inl rfl

/-- A step of `x` whose messages come from `y` keeps its role against `y`. -/
theorem GlareRole.step {y : Conn} (hm : Moves d c e r c' effs) (hx : GlareRole d c y)
    (he : ∀ u cl m, e = .recvMessage u cl m → u = y.useridSelf ∧ cl = y.clientid) :
    GlareRole d c' y := by
  have hf := hm.fixed
  simp only [Conn.fixed, Prod.mk.injEq] at hf
  obtain ⟨hu, hc, -⟩ := hf
  rw [GlareRole, hu, hc]
  rcases hm.conflict with h | ⟨u, cl, m, rfl, h⟩
  · rwa [h]
  · obtain ⟨rfl, rfl⟩ := he u cl m rfl
    rcases h with ⟨h1, hw⟩ | ⟨h1, hw⟩ <;> simp [h1, hw]

/-- A role against `y` is one against every record with `y`'s ids. -/
theorem GlareRole.peer {x y y' : Conn} (hx : GlareRole d x y) (h : y'.fixed = y.fixed) :
    GlareRole d x y' := by
  simp only [Conn.fixed, Prod.mk.injEq] at h
  obtain ⟨hu, hc, -⟩ := h
  rw [GlareRole, hu, hc]
  exact hx

/-- A step of A keeps both roles: A's messages come from B only, and no step changes the
ids. -/
theorem Pair.SideStep.glareRole {P Q : Pair} (h : Pair.SideStep d P Q)
    (ha : GlareRole d P.a.conn P.b.conn) (hb : GlareRole d P.b.conn P.a.conn) :
    GlareRole d Q.a.conn Q.b.conn ∧ GlareRole d Q.b.conn Q.a.conn := by
  cases h with
  | @call a b ab ba e hmay =>
    have hm := econnStep_moves d a.conn e 0
    refine ⟨GlareRole.step hm ha ?_, hb.peer hm.fixed⟩
    rintro u cl m rfl
    simp [Endpoint.may] at hmay
  | @deliver a b ab rest m =>
    have hm := econnStep_moves d a.conn (.recvMessage b.conn.useridSelf b.conn.clientid m) 0
    refine ⟨GlareRole.step hm ha ?_, hb.peer hm.fixed⟩
    rintro _ _ _ ⟨⟩
    exact ⟨rfl, rfl⟩

/-- In every run, each record's role is what `econn_iswinner` said against its peer. -/
theorem Pair.Reach.glareRole {P : Pair} (h : Pair.Reach d P) :
    GlareRole d P.a.conn P.b.conn ∧ GlareRole d P.b.conn P.a.conn := by
  induction h with
  | init ha hb =>
    unfold econnAlloc at ha hb
    split at ha <;> split at hb <;> cases ha <;> cases hb
    exact ⟨by simp [GlareRole], by simp [GlareRole]⟩
  | step _ hs ih =>
    rcases hs with hs | hs
    · exact hs.glareRole ih.1 ih.2
    · exact (hs.glareRole ih.2 ih.1).symm

end Roles

/-- In every run of two records, with `econn_iswinner` antisymmetric on their ids, the two
never report the same role in a glare: never both winners, never both losers. -/
theorem glare_roles_differ {P : Pair} (h : Pair.Reach d P)
    (hwin : d.iswinner P.b.conn.useridSelf P.b.conn.clientid P.a.conn.useridSelf
      P.a.conn.clientid = !d.iswinner P.a.conn.useridSelf P.a.conn.clientid
        P.b.conn.useridSelf P.b.conn.clientid) :
    (P.a.conn.conflict = 1 → P.b.conn.conflict ≠ 1) ∧
      (P.a.conn.conflict = -1 → P.b.conn.conflict ≠ -1) := by
  obtain ⟨⟨ha1, ha2⟩, ⟨hb1, hb2⟩⟩ := h.glareRole
  refine ⟨fun h1 h1' => ?_, fun h1 h1' => ?_⟩
  · have := hb1 h1'
    simp [hwin, ha1 h1] at this
  · have := hb2 h1'
    simp [hwin, ha2 h1] at this

/-- In the glare of alpha and bravo, bravo wins and alpha loses. -/
theorem glare_roles_alpha_bravo :
    let P := (pairAB.execAll specDeps glareSchedule).getD pairAB
    P.a.conn.conflict = -1 ∧ P.b.conn.conflict = 1 ∧
      (P.a.conn.conflict = 1 → P.b.conn.conflict ≠ 1) ∧
        (P.a.conn.conflict = -1 → P.b.conn.conflict ≠ -1) := by
  have hrun : pairAB.execAll specDeps glareSchedule =
      some ((pairAB.execAll specDeps glareSchedule).getD pairAB) := rfl
  exact ⟨by decide, by decide, glare_roles_differ specDeps
    (Pair.Reach.of_execAll specDeps pairAB_reach hrun) (by decide)⟩

-- ============================================================== the UPDATE

/-- A's application updates the call, B takes the UPDATE, B's application answers, A takes
the answer. -/
def updateSchedule (sdp sdp' : Option String) (props props' : Option Props) :
    List (Bool × Pair.Move) :=
  [(true, .call (.updateReq sdp props)), (false, .deliver),
    (false, .call (.updateResp sdp' props')), (true, .deliver)]

/-- Two records in ANSWERED or DATACHAN_ESTABLISHED with nothing on the way, whose client
and session ids fit each other's buffers: when A's application updates the call and B's
answers the update, the UPDATE request and response take both records to ANSWERED with no
timer armed, B's application is handed A's new offer and A's application B's new answer,
and nothing is left on the way. -/
theorem update_completes {P : Pair} (h : Pair.Reach d P)
    (hfit : P.a.conn.clientid.data.length < d.clientidRemoteSize ∧
      P.a.conn.sessidLocal.data.length < d.sessidRemoteSize ∧
      P.b.conn.clientid.data.length < d.clientidRemoteSize ∧
      P.b.conn.sessidLocal.data.length < d.sessidRemoteSize)
    (ha : P.a.conn.state = .answered ∨ P.a.conn.state = .datachanEstablished)
    (hb : P.b.conn.state = .answered ∨ P.b.conn.state = .datachanEstablished)
    (hab : P.ab = []) (hba : P.ba = [])
    (sdp sdp' : Option String) (props props' : Option Props) :
    ∃ Q, P.execAll d (updateSchedule sdp sdp' props props') = some Q ∧
      Q.a.conn.state = .answered ∧ Q.b.conn.state = .answered ∧
      Q.a.conn.tmrLocal = none ∧ Q.b.conn.tmrLocal = none ∧
      Q.b.delivered = some sdp ∧ Q.a.delivered = some sdp' ∧ Q.ab = [] ∧ Q.ba = [] := by
  obtain ⟨hsa, hca, hsb, hcb⟩ := h.checks_pass (State.bound_of_answered ha)
    (State.bound_of_answered hb) hfit
  have ⟨hwa, hwb⟩ := h.wf
  obtain ⟨⟨a, sa, pa, da⟩, ⟨b, sb, pb, db⟩, ab, ba⟩ := P
  simp only at ha hb hab hba hwa hwb hsa hca hsb hcb
  subst hab hba
  simp [Pair.execAll, updateSchedule, Pair.sideExec, Pair.swap, Endpoint.may, allowed,
    Endpoint.run, econnStep, ha, hb, econnUpdateReq_sent, econnUpdateResp_sent, hwa.transp,
    hwb.transp, econnRecvMessage, setupMessage, messageInit, recvUpdate, hsa, hca, hsb, hcb,
    handleUpdateRequest_accept d hcb hb, handleUpdateResponse_accept, hwa.updateResph,
    hwb.updateReqh, Message.isRequest, Effect.sdp, Effect.sent, Event.isStart]

/-- alpha updates the established call with bravo. -/
theorem established_update :
    let P := (pairAB.execAll specDeps establishedSchedule).getD pairAB
    P.a.conn.state = .datachanEstablished ∧ P.b.conn.state = .datachanEstablished ∧
      ∃ Q, P.execAll specDeps (updateSchedule (some "v=2") (some "v=3") none none) = some Q ∧
        Q.a.conn.state = .answered ∧ Q.b.conn.state = .answered ∧
        Q.a.conn.tmrLocal = none ∧ Q.b.conn.tmrLocal = none ∧
        Q.b.delivered = some (some "v=2") ∧ Q.a.delivered = some (some "v=3") ∧
        Q.ab = [] ∧ Q.ba = [] := by
  have hrun : pairAB.execAll specDeps establishedSchedule =
      some ((pairAB.execAll specDeps establishedSchedule).getD pairAB) := rfl
  exact ⟨by decide, by decide, update_completes specDeps
    (Pair.Reach.of_execAll specDeps pairAB_reach hrun) (by decide) (.inr (by decide))
    (.inr (by decide)) rfl rfl _ _ _ _⟩

/-- Both applications update the call at once, each record takes the other's UPDATE, B's
application answers, A takes the answer. -/
def updateGlareSchedule (sdpA sdpB sdp' : Option String) (propsA propsB props' : Option Props) :
    List (Bool × Pair.Move) :=
  [(true, .call (.updateReq sdpA propsA)), (false, .call (.updateReq sdpB propsB)),
    (true, .deliver), (false, .deliver), (false, .call (.updateResp sdp' props')),
    (true, .deliver)]

/-- Two records in ANSWERED or DATACHAN_ESTABLISHED with nothing on the way, whose client
and session ids fit each other's buffers, with `econn_iswinner` deciding for A on A's side
and against B on B's: when both applications update the call at once, A drops B's UPDATE,
B takes A's in UPDATE_SENT and hands its application A's offer; B's answer then takes
both records to ANSWERED with no timer armed and hands A's application the answer, and
nothing is left on the way. -/
theorem update_glare_resolves {P : Pair} (h : Pair.Reach d P)
    (hfit : P.a.conn.clientid.data.length < d.clientidRemoteSize ∧
      P.a.conn.sessidLocal.data.length < d.sessidRemoteSize ∧
      P.b.conn.clientid.data.length < d.clientidRemoteSize ∧
      P.b.conn.sessidLocal.data.length < d.sessidRemoteSize)
    (ha : P.a.conn.state = .answered ∨ P.a.conn.state = .datachanEstablished)
    (hb : P.b.conn.state = .answered ∨ P.b.conn.state = .datachanEstablished)
    (hab : P.ab = []) (hba : P.ba = [])
    (hwin : d.iswinner P.a.conn.useridSelf P.a.conn.clientid P.b.conn.useridSelf
      P.b.conn.clientid = true)
    (hlose : d.iswinner P.b.conn.useridSelf P.b.conn.clientid P.a.conn.useridSelf
      P.a.conn.clientid = false)
    (sdpA sdpB sdp' : Option String) (propsA propsB props' : Option Props) :
    ∃ Q, P.execAll d (updateGlareSchedule sdpA sdpB sdp' propsA propsB props') = some Q ∧
      Q.a.conn.state = .answered ∧ Q.b.conn.state = .answered ∧
      Q.a.conn.tmrLocal = none ∧ Q.b.conn.tmrLocal = none ∧
      Q.b.delivered = some sdpA ∧ Q.a.delivered = some sdp' ∧ Q.ab = [] ∧ Q.ba = [] := by
  obtain ⟨hsa, hca, hsb, hcb⟩ := h.checks_pass (State.bound_of_answered ha)
    (State.bound_of_answered hb) hfit
  have ⟨hwa, hwb⟩ := h.wf
  obtain ⟨⟨a, sa, pa, da⟩, ⟨b, sb, pb, db⟩, ab, ba⟩ := P
  simp only at ha hb hab hba hwa hwb hsa hca hsb hcb hwin hlose
  subst hab hba
  simp [Pair.execAll, updateGlareSchedule, Pair.sideExec, Pair.swap, Endpoint.may, allowed,
    Endpoint.run, econnStep, ha, hb, econnUpdateReq_sent, econnUpdateResp_sent, hwa.transp,
    hwb.transp, econnRecvMessage, setupMessage, messageInit, recvUpdate, hsa, hca, hsb, hcb,
    handleUpdateRequest_glare, hwin, hlose, handleUpdateResponse_accept, hwa.updateResph,
    hwb.updateReqh, Message.isRequest, Effect.sdp, Effect.sent, Event.isStart]

/-- alpha and bravo update the established call at once; bravo wins, alpha answers. -/
theorem bravo_wins_update_glare :
    let P := ((pairAB.execAll specDeps establishedSchedule).getD pairAB).swap
    P.a.conn.state = .datachanEstablished ∧ P.b.conn.state = .datachanEstablished ∧
      ∃ Q, P.execAll specDeps
          (updateGlareSchedule (some "v=2") (some "v=3") (some "v=4") none none none) =
          some Q ∧
        Q.a.conn.state = .answered ∧ Q.b.conn.state = .answered ∧
        Q.a.conn.tmrLocal = none ∧ Q.b.conn.tmrLocal = none ∧
        Q.b.delivered = some (some "v=2") ∧ Q.a.delivered = some (some "v=4") ∧
        Q.ab = [] ∧ Q.ba = [] := by
  have hrun : pairAB.execAll specDeps establishedSchedule =
      some ((pairAB.execAll specDeps establishedSchedule).getD pairAB) := rfl
  exact ⟨by decide, by decide, update_glare_resolves specDeps
    (Pair.Reach.of_execAll specDeps pairAB_reach hrun).swap (by decide) (.inr (by decide))
    (.inr (by decide)) rfl rfl (by decide) (by decide) _ _ _ _ _ _⟩

end Econn
