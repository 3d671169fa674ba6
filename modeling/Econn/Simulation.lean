/-
The glare model of Glare.lean is what two econn records do: every step of a pair of
records (Pair.lean) is a step of its abstraction, or leaves the abstraction as it was.

# The abstraction

`Endpoint.side` keeps a record's state, whether `clientid_remote` and `sessid_remote`
are set, and what its application has seen; `Message.glare` a message's type, response
flag and SDP. `glareIds` says how an endpoint's ids come through the peer's
`str_ncpy`, and who wins a glare. With the peer's bound ids as `Wf` describes them,
each of econn.c's checks on an inbound message is a test of those flags
(`setupPasses_eq`, `strCaseEq_clientidRemote`, `strCaseEq_sessidRemote`), so
`econn_recv_message` is `Glare.recv` (`Endpoint.run_deliver`), and an application call
or timer expiry is a `Glare.Acts` or changes nothing the abstraction sees
(`Endpoint.run_call`).

# Agreement

`Pair.Reach.glare` carries every run of the pair to a run of the model, where
`Glare.Reach.agree` holds; `pair_agreement` reads it back on the records.
-/
import Econn.Pair
import Econn.Agreement

namespace Econn

variable (d : Deps)

-- ========================================================= the abstraction

/-- The glare kind of a message: its type, and for SETUP, UPDATE and HANGUP whether it
is a response. -/
def Message.kind (m : Message) : Glare.Kind :=
  match m.msgType, m.resp with
  | .setup, false => .req
  | .setup, true => .sresp
  | .update, false => .ureq
  | .update, true => .uresp
  | .cancel, _ => .cancel
  | .hangup, false => .hreq
  | .hangup, true => .hresp
  | _, _ => .other

/-- A message in the glare model. -/
def Message.glare (m : Message) : Glare.Msg := ⟨m.kind, m.sdp⟩

/-- An endpoint in the glare model. -/
def Endpoint.side (x : Endpoint) : Glare.Side :=
  ⟨x.conn.state, strIsset x.conn.clientidRemote, strIsset x.conn.sessidRemote, x.started,
    x.passed, x.delivered⟩

/-- How the ids of `x` come through its peer `y`'s buffers, and whether `x` wins a glare
against `y`. -/
def glareIds (x y : Conn) : Glare.Ids :=
  ⟨strCaseEq (strNcpy d.clientidRemoteSize x.clientid) x.clientid,
    strCaseEq (strNcpy d.sessidRemoteSize x.sessidLocal) x.sessidLocal,
    d.iswinner x.useridSelf x.clientid y.useridSelf y.clientid⟩

/-- A pair in the glare model. -/
def Pair.glare (P : Pair) : Glare.Joint :=
  ⟨P.a.side, P.b.side, P.ab.map Message.glare, P.ba.map Message.glare⟩

theorem Pair.glare_swap (P : Pair) : P.swap.glare = P.glare.swap := rfl

-- ============================================================ the checks

section Checks

variable {d} {x y : Conn} {cxy : List Message}

theorem strCaseEq_empty {s : String} (h : strIsset s = true) : strCaseEq "" s = false := by
  cases hc : strCaseEq "" s
  · rfl
  · have hl : s.data.length = 0 := (length_eq_of_strCaseEq hc).symm
    exact absurd (List.length_eq_zero.mp hl) ((strIsset_iff s).mp h)

/-- `recv_setup`'s check: nothing bound, or the bound client id is the sender's. -/
theorem setupPasses_eq (hx : EndWf d x y cxy) :
    setupPasses x y.clientid = (!strIsset x.clientidRemote || (glareIds d y x).cidOK) := by
  rcases hx.cid with h | h <;> simp [setupPasses, h, glareIds]

/-- The client id checks of UPDATE and CANCEL. -/
theorem strCaseEq_clientidRemote (hx : EndWf d x y cxy) (hy : strIsset y.clientid = true) :
    strCaseEq x.clientidRemote y.clientid =
      (strIsset x.clientidRemote && (glareIds d y x).cidOK) := by
  rcases hx.cid with h | h
  · simp [h, strCaseEq_empty hy]
  · simp [h, glareIds, strIsset_strNcpy d.two_le_clientidRemoteSize hy]

/-- The session id checks of UPDATE, CANCEL and HANGUP, on a message from `y`. -/
theorem strCaseEq_sessidRemote (hx : EndWf d x y cxy) (hy : strIsset y.sessidLocal = true) :
    strCaseEq x.sessidRemote y.sessidLocal =
      (strIsset x.sessidRemote && (glareIds d y x).sidOK) := by
  rcases hx.sid with h | h
  · simp [h, strCaseEq_empty hy]
  · simp [h, glareIds, strIsset_strNcpy d.two_le_sessidRemoteSize hy]

end Checks

-- ================================================= application and timer

section Calls

variable {d} {y : Conn} {cxy : List Message}

theorem glare_setupMessage (sessid : String) (resp : Bool) (sdp : Option String)
    (props : Option Props) (update : Bool) :
    (setupMessage sessid resp sdp props update).glare =
      ⟨if update then (if resp then .uresp else .ureq) else (if resp then .sresp else .req),
        sdp⟩ := by
  cases update <;> cases resp <;> rfl

/-- An allowed call or a timer expiry is a step of the glare model, or changes nothing it
sees: a call the code ignores in that state, `econn_set_error`, a PROPSYNC without props,
an unarmed timer. -/
theorem Endpoint.run_call {x : Endpoint} {e : Event} (hw : EndWf d x.conn y cxy)
    (h : x.may e = true) :
    Glare.Acts x.side (x.run d e).1.side ((x.run d e).2.map Message.glare) ∨
      (x.run d e).1.side = x.side ∧ (x.run d e).2 = [] := by
  obtain ⟨c, st, pa, de⟩ := x
  have ht : c.transp = true := hw.transp
  have hidle : c.state = .idle → c.tmrLocal = none := hw.idle
  cases e with
  | start sdp props =>
    simp only [Endpoint.may, allowed, Bool.and_eq_true, Bool.not_eq_true',
      decide_eq_true_eq] at h
    obtain ⟨hfirst, hst⟩ := h
    refine .inl ?_
    convert Glare.Acts.start (x := Endpoint.side ⟨c, st, pa, de⟩) (v := sdp) hst hfirst
      using 1 <;> by_cases h0 : c.conf.timeoutSetup = 0 <;>
      simp [Endpoint.side, Endpoint.run, econnStep, econnStart, hst, ht, sendResult,
        sendEffects, h0, Event.isStart, Event.passedSdp, Effect.sdp, Effect.sent, hfirst,
        glare_setupMessage]
  | answer sdp props =>
    simp only [Endpoint.may, allowed, decide_eq_true_eq] at h
    have hst : ¬(c.state ≠ .pendingIncoming ∧ c.state ≠ .conflictResolution) := by tauto
    refine .inl ?_
    convert Glare.Acts.answer (x := Endpoint.side ⟨c, st, pa, de⟩) (v := sdp) h using 1 <;>
      simp [Endpoint.side, Endpoint.run, econnStep, econnAnswer, hst, ht, sendResult,
        sendEffects, Event.isStart, Event.passedSdp, Effect.sdp, Effect.sent, glare_setupMessage]
  | updateReq sdp props =>
    simp only [Endpoint.may, allowed, decide_eq_true_eq] at h
    refine .inl ?_
    convert Glare.Acts.updateReq (x := Endpoint.side ⟨c, st, pa, de⟩) (v := sdp) h using 1 <;>
      by_cases h0 : c.conf.timeoutSetup = 0 <;>
      simp [Endpoint.side, Endpoint.run, econnStep, econnUpdateReq, ht, sendResult,
        sendEffects, h0, Event.isStart, Event.passedSdp, Effect.sdp, Effect.sent,
        glare_setupMessage]
  | updateResp sdp props =>
    simp only [Endpoint.may, allowed, decide_eq_true_eq] at h
    refine .inl ?_
    convert Glare.Acts.updateResp (x := Endpoint.side ⟨c, st, pa, de⟩) (v := sdp) h using 1 <;>
      simp [Endpoint.side, Endpoint.run, econnStep, econnUpdateResp, h, ht, sendResult,
        sendEffects, Event.isStart, Event.passedSdp, Effect.sdp, Effect.sent, glare_setupMessage]
  | setDatachanEstablished =>
    simp only [Endpoint.may, allowed, decide_eq_true_eq] at h
    refine .inl ?_
    convert Glare.Acts.datachan (x := Endpoint.side ⟨c, st, pa, de⟩) h using 1 <;>
      simp [Endpoint.side, Endpoint.run, econnStep, econnSetDatachanEstablished, h,
        Event.isStart, Event.passedSdp]
  | endCall =>
    cases hs : c.state
    case pendingIncoming =>
      exact .inl (by
        convert Glare.Acts.endIgnore (x := Endpoint.side ⟨c, st, pa, de⟩) hs using 1 <;>
          simp [Endpoint.side, Endpoint.run, econnStep, econnEnd, hs, Event.isStart,
            Event.passedSdp])
    case datachanEstablished =>
      exact .inl (by
        convert Glare.Acts.endHangup (x := Endpoint.side ⟨c, st, pa, de⟩) hs using 1 <;>
          simp [Endpoint.side, Endpoint.run, econnStep, econnEnd, hs, Event.isStart,
            Event.passedSdp, sendHangup, ht, sendEffects, Effect.sdp, Effect.sent, Message.glare,
            Message.kind, messageInit])
    case idle | updateSent | updateRecv | hangupSent | hangupRecv | terminating =>
      exact .inr (by simp [Endpoint.side, Endpoint.run, econnStep, econnEnd, hs,
        Event.isStart, Event.passedSdp])
    all_goals
      exact .inl (by
        convert Glare.Acts.endCancel (x := Endpoint.side ⟨c, st, pa, de⟩)
          (by simp [Endpoint.side, hs])
          using 1 <;>
          simp [Endpoint.side, Endpoint.run, econnStep, econnEnd, hs, Event.isStart,
            Event.passedSdp, sendCancel, ht, sendEffects, Effect.sdp, Effect.sent, Message.glare,
            Message.kind, messageInit])
  | sendPropsync resp props =>
    simp only [Endpoint.may, allowed, decide_eq_true_eq] at h
    cases props with
    | none =>
      exact .inr (by simp [Endpoint.side, Endpoint.run, econnStep, econnSendPropsync,
        Event.isStart, Event.passedSdp])
    | some p =>
      refine .inl ?_
      convert Glare.Acts.propsync (x := Endpoint.side ⟨c, st, pa, de⟩) h using 1 <;>
        simp [Endpoint.side, Endpoint.run, econnStep, econnSendPropsync, h, ht, Event.isStart,
          Event.passedSdp, sendEffects, Effect.sdp, Effect.sent, Message.glare, Message.kind,
          messageInit]
  | setError err =>
    exact .inr (by simp [Endpoint.side, Endpoint.run, econnStep, econnSetError,
      Event.isStart, Event.passedSdp])
  | recvMessage => simp [Endpoint.may] at h
  | tmrFire =>
    cases htm : c.tmrLocal with
    | none =>
      exact .inr (by simp [Endpoint.side, Endpoint.run, econnStep, econnTmrFire, htm,
        Event.isStart, Event.passedSdp])
    | some t =>
      have hidle : c.state ≠ .idle := fun hi => by simp [hidle hi] at htm
      refine .inl ?_
      convert Glare.Acts.timer (x := Endpoint.side ⟨c, st, pa, de⟩) hidle using 1 <;>
        by_cases hpo : c.state = .pendingOutgoing <;>
        simp [Endpoint.side, Endpoint.run, econnStep, econnTmrFire, htm, closedConn,
          closeEffects, hpo, ht, sendEffects, Event.isStart, Event.passedSdp, Effect.sdp,
          Effect.sent, Message.glare, Message.kind, messageInit] <;>
        split <;> simp [Effect.sdp]

end Calls

-- ============================================================= deliveries

section Deliveries

variable {d} {y : Conn} {cxy cyx : List Message}

/-- `econn_close` hands the application no SDP. -/
theorem closeEffects_sdp (c : Conn) (err : Int) :
    (closeEffects c err).filterMap Effect.sdp = [] := by
  unfold closeEffects sendEffects
  repeat' split
  all_goals rfl

/-- Outside PENDING_OUTGOING, `econn_close` sends nothing. -/
theorem closeEffects_sent (c : Conn) (err : Int) (h : c.state ≠ .pendingOutgoing) :
    (closeEffects c err).filterMap Effect.sent = [] := by
  simp only [closeEffects, h, if_false, List.nil_append]
  split <;> rfl

/-- A delivered message is `Glare.recv`: econn.c's checks on it are the model's tests of
the bound flags, its handlers the model's transitions. -/
theorem Endpoint.run_deliver {x : Endpoint} {m : Message} (hx : EndWf d x.conn y cxy)
    (hy : EndWf d y x.conn cyx) (hm : m.sessidSender = y.sessidLocal) :
    let r := x.run d (.recvMessage y.useridSelf y.clientid m)
    let g := Glare.recv x.side (glareIds d y x.conn) (glareIds d x.conn y).wins m.glare
    r.1.side = g.1 ∧ r.2.map Message.glare = g.2 := by
  obtain ⟨c, st, pa, de⟩ := x
  obtain ⟨ty, sess, resp, sdp, props, time, age⟩ := m
  simp only at hm hx hy
  subst hm
  have hcid := strCaseEq_clientidRemote hx hy.clientid
  have hcid' : strCaseEq y.clientid c.clientidRemote = _ := (strCaseEq_comm _ _).trans hcid
  have hsid := strCaseEq_sessidRemote hx hy.sessid
  have hgate : (strIsset c.clientidRemote && !(glareIds d y c).cidOK) =
      !setupPasses c y.clientid := by
    rw [setupPasses_eq hx]
    cases strIsset c.clientidRemote <;> cases (glareIds d y c).cidOK <;> rfl
  have hadopt : strIsset (adoptClientid d c y.clientid) = true :=
    strIsset_adoptClientid (d := d) hy.clientid
  have hsess := strIsset_strNcpy d.two_le_sessidRemoteSize hy.sessid
  have ht : c.transp = true := hx.transp
  have h1 : c.connh = true := hx.connh
  have h2 : c.answerh = true := hx.answerh
  have h3 : c.updateReqh = true := hx.updateReqh
  have h4 : c.updateResph = true := hx.updateResph
  have hsetup : ∀ msg, setupPasses c y.clientid = false →
      recvSetup d c y.useridSelf y.clientid msg = ⟨c, [], 0⟩ := fun msg hp => by
    have : strIsset c.clientidRemote = true ∧ strCaseEq c.clientidRemote y.clientid = false := by
      simpa [setupPasses] using hp
    simp [recvSetup, this]
  cases ty <;> cases resp <;>
    simp only [Endpoint.run, Endpoint.side, econnStep, econnRecvMessage, Glare.recv,
      Message.glare, Message.kind, Event.isStart, Event.passedSdp, Bool.or_false, Option.none_or]
  case setup.false =>
    cases hp : setupPasses c y.clientid
    · rw [hsetup _ hp]
      simp [hgate, hp]
    · rw [recvSetup_eq c _ _ _ hp]
      cases hs : c.state <;>
        simp [hgate, hp, hs, handleSetupRequest, Message.isRequest, hadopt, hsess, h1, h2,
          Effect.sdp, Effect.sent]
      cases hw : d.iswinner c.useridSelf c.clientid y.useridSelf y.clientid <;>
        simp [hw, glareIds, hadopt, hsess, h2, Effect.sdp, Effect.sent]
  case setup.true =>
    cases hp : setupPasses c y.clientid
    · rw [hsetup _ hp]
      simp [hgate, hp]
    · rw [recvSetup_eq c _ _ _ hp]
      by_cases hs : c.state = .pendingOutgoing ∨ c.state = .conflictResolution
      · have hs' : ¬(c.state ≠ .pendingOutgoing ∧ c.state ≠ .conflictResolution) := by tauto
        simp [hgate, hp, hs, hs', handleSetupResponse, Message.isRequest, hadopt, hsess, h2,
          Effect.sdp, Effect.sent]
      · have hs' : c.state ≠ .pendingOutgoing ∧ c.state ≠ .conflictResolution := by tauto
        simp [hgate, hp, hs, hs', handleSetupResponse, Message.isRequest, hadopt]
  case update.false =>
    simp only [recvUpdate, hsid, Message.isRequest, handleUpdateRequest, hcid, Glare.accepts]
    by_cases hS : (strIsset c.sessidRemote && (glareIds d y c).sidOK) = true
    · by_cases hC : (strIsset c.clientidRemote && (glareIds d y c).cidOK) = true
      · simp only [Bool.and_eq_true] at hS hC
        obtain ⟨s, hst⟩ : ∃ s, c.state = s := ⟨_, rfl⟩
        cases s <;> simp [hS, hC, hst, h3, Effect.sdp, Effect.sent]
        cases hw : d.iswinner c.useridSelf c.clientid y.useridSelf y.clientid <;>
          simp [hS, hC, hst, hw, glareIds, h3, Effect.sdp, Effect.sent]
      · simp only [Bool.and_eq_true, not_and, Bool.not_eq_true] at hS hC
        by_cases hcr : strIsset c.clientidRemote = true <;> simp [hS, hC, hcr]
    · simp only [Bool.and_eq_true, not_and, Bool.not_eq_true] at hS
      by_cases hsr : strIsset c.sessidRemote = true <;> simp [hS, hsr]
  case update.true =>
    simp only [recvUpdate, hsid, Message.isRequest, handleUpdateResponse, hcid, Glare.accepts]
    by_cases hS : (strIsset c.sessidRemote && (glareIds d y c).sidOK) = true
    · by_cases hC : (strIsset c.clientidRemote && (glareIds d y c).cidOK) = true
      · simp only [Bool.and_eq_true] at hS hC
        by_cases hs : c.state = .updateSent <;> simp [hS, hC, hs, h4, Effect.sdp, Effect.sent]
      · simp only [Bool.and_eq_true, not_and, Bool.not_eq_true] at hS hC
        by_cases hcr : strIsset c.clientidRemote = true <;> simp [hS, hC, hcr]
    · simp only [Bool.and_eq_true, not_and, Bool.not_eq_true] at hS
      by_cases hsr : strIsset c.sessidRemote = true <;> simp [hS, hsr]
  case cancel.false | cancel.true =>
    simp only [recvCancel, hcid', hsid, Glare.accepts]
    by_cases hC : (strIsset c.clientidRemote && (glareIds d y c).cidOK) = true
    · by_cases hS : (strIsset c.sessidRemote && (glareIds d y c).sidOK) = true
      · simp only [Bool.and_eq_true] at hS hC
        by_cases hst : c.state = .pendingIncoming ∨ c.state = .answered ∨
            c.state = .datachanEstablished
        · rcases hst with hst | hst | hst <;>
            simp [hS, hC, hst, closedConn, closeEffects_sdp, closeEffects_sent]
        · simp only [not_or] at hst
          simp [hS, hC, hst]
      · simp only [Bool.and_eq_true, not_and, Bool.not_eq_true] at hS hC
        by_cases hsr : strIsset c.sessidRemote = true <;> simp [hS, hC, hsr]
    · simp only [Bool.and_eq_true, not_and, Bool.not_eq_true] at hC
      by_cases hcr : strIsset c.clientidRemote = true <;> simp [hC, hcr]
  case hangup.false | hangup.true =>
    simp only [recvHangup, hsid, Message.isRequest]
    by_cases hS : (strIsset c.sessidRemote && (glareIds d y c).sidOK) = true
    · simp only [Bool.and_eq_true] at hS
      by_cases hst : c.state = .datachanEstablished ∨ c.state = .hangupSent
      · rcases hst with hst | hst <;>
          simp [hS, hst, ht, closedConn, closeEffects_sdp, closeEffects_sent, sendHangup,
            sendEffects, Effect.sdp, Effect.sent, Message.glare, Message.kind, messageInit]
      · simp only [not_or] at hst
        simp [hS, hst]
    · simp only [Bool.and_eq_true, not_and, Bool.not_eq_true] at hS
      by_cases hsr : strIsset c.sessidRemote = true <;> simp [hS, hsr]
  all_goals simp
end Deliveries

-- ============================================================ simulation

section Simulation

variable {d}

theorem glareIds_congr {x x' y y' : Conn} (hx : x'.fixed = x.fixed) (hy : y'.fixed = y.fixed) :
    glareIds d x' y' = glareIds d x y := by
  simp only [Conn.fixed, Prod.mk.injEq] at hx hy
  simp [glareIds, hx, hy]

/-- One step of A is a step of A in the glare model, or changes nothing it sees; the ids
stay as they were. -/
theorem Pair.SideStep.glare {P Q : Pair} (h : Pair.SideStep d P Q) (hw : P.Wf d) :
    glareIds d Q.a.conn Q.b.conn = glareIds d P.a.conn P.b.conn ∧
      glareIds d Q.b.conn Q.a.conn = glareIds d P.b.conn P.a.conn ∧
      (Glare.SideStep (glareIds d P.a.conn P.b.conn) (glareIds d P.b.conn P.a.conn)
        P.glare Q.glare ∨ Q.glare = P.glare) := by
  cases h with
  | @call a b ab ba e hmay =>
    have hf := (econnStep_moves d a.conn e 0).fixed
    refine ⟨glareIds_congr hf rfl, glareIds_congr rfl hf, ?_⟩
    rcases Endpoint.run_call hw.1 hmay with hact | ⟨hside, hout⟩
    · refine .inl ?_
      simp only [Pair.glare, List.map_append]
      exact .act hact
    · exact .inr (by simp [Pair.glare, hside, hout])
  | @deliver a b ab rest m =>
    have hf := (econnStep_moves d a.conn (.recvMessage b.conn.useridSelf b.conn.clientid m) 0).fixed
    refine ⟨glareIds_congr hf rfl, glareIds_congr rfl hf, .inl ?_⟩
    obtain ⟨h1, h2⟩ := Endpoint.run_deliver hw.1 hw.2 (hw.2.sent m (List.mem_cons_self _ _)).1
    simp only [Pair.glare, List.map_cons, List.map_append]
    rw [h1, h2]
    exact .recv

/-- Every run of the pair is a run of the glare model, with the ids the records were
allocated with. -/
theorem Pair.Reach.glare {P : Pair} (h : Pair.Reach d P) :
    Glare.Reach (glareIds d P.a.conn P.b.conn) (glareIds d P.b.conn P.a.conn) P.glare := by
  induction h with
  | init ha hb =>
    obtain ⟨ha1, -, -, -, ha5, ha6, -⟩ := econnAlloc_ok ha
    obtain ⟨hb1, -, -, -, hb5, hb6, -⟩ := econnAlloc_ok hb
    exact .init (by simp [Endpoint.side, ha1, ha5, ha6]) (by simp [Endpoint.side, hb1, hb5, hb6])
  | step hP hs ih =>
    rcases hs with hs | hs
    · obtain ⟨hia, hib, hg⟩ := hs.glare hP.wf
      rw [hia, hib]
      exact hg.elim (fun hg => ih.step (.inl hg)) (fun hg => hg ▸ ih)
    · obtain ⟨hia, hib, hg⟩ := hs.glare (Pair.wf_swap hP.wf)
      simp only [Pair.swap] at hia hib
      rw [hia, hib]
      rcases hg with hg | hg
      · exact ih.step (.inr (by simpa only [Pair.glare_swap] using hg))
      · have : _ = _ := congrArg Glare.Joint.swap hg
        simp only [← Pair.glare_swap, Pair.swap_swap] at this
        exact this ▸ ih

end Simulation

-- ============================================================= agreement

/-- Two records that talk only to each other, each driven by an application that keeps to
the spec's table and starts at most once, with the winner rule antisymmetric on their two
id pairs: whenever both are in ANSWERED or DATACHAN_ESTABLISHED and no message is in
flight, each application was last handed the SDP the other one last passed. -/
theorem pair_agreement {P : Pair} (h : Pair.Reach d P)
    (hwin : d.iswinner P.b.conn.useridSelf P.b.conn.clientid P.a.conn.useridSelf
      P.a.conn.clientid = !d.iswinner P.a.conn.useridSelf P.a.conn.clientid
        P.b.conn.useridSelf P.b.conn.clientid)
    (ha : P.a.conn.state = .answered ∨ P.a.conn.state = .datachanEstablished)
    (hb : P.b.conn.state = .answered ∨ P.b.conn.state = .datachanEstablished)
    (hab : P.ab = []) (hba : P.ba = []) :
    P.b.delivered = P.a.passed ∧ P.a.delivered = P.b.passed :=
  Glare.Reach.agree hwin (Pair.Reach.glare h) (State.est_iff.mpr ha) (State.est_iff.mpr hb)
    (by simp [Pair.glare, hab]) (by simp [Pair.glare, hba])

/-- In every run, the SDP of the last SETUP or UPDATE on its way from A is the SDP A's
application last passed: no stale offer is in flight. -/
theorem pair_inflight_sdp {P : Pair} (h : Pair.Reach d P)
    (hwin : d.iswinner P.b.conn.useridSelf P.b.conn.clientid P.a.conn.useridSelf
      P.a.conn.clientid = !d.iswinner P.a.conn.useridSelf P.a.conn.clientid
        P.b.conn.useridSelf P.b.conn.clientid) :
    Glare.lastSdp (P.ab.map Message.glare) = none ∨
      Glare.lastSdp (P.ab.map Message.glare) = P.a.passed :=
  ((Pair.Reach.glare h).inv hwin).passedA

/-- alpha's offer on its way carries the SDP alpha passed. -/
theorem inflight_offer :
    let P := (pairAB.execAll specDeps [(true, .call (.start (some "v=0") none))]).getD pairAB
    Glare.lastSdp (P.ab.map Message.glare) = some (some "v=0") ∧
      (Glare.lastSdp (P.ab.map Message.glare) = none ∨
        Glare.lastSdp (P.ab.map Message.glare) = P.a.passed) := by
  have hrun : pairAB.execAll specDeps [(true, .call (.start (some "v=0") none))] =
      some ((pairAB.execAll specDeps [(true, .call (.start (some "v=0") none))]).getD pairAB) :=
    rfl
  exact ⟨by decide,
    pair_inflight_sdp specDeps (Pair.Reach.of_execAll specDeps pairAB_reach hrun) (by decide)⟩

/-- alpha calls bravo, bravo answers. -/
def callSchedule : List (Bool × Pair.Move) :=
  [(true, .call (.start (some "v=0") none)), (false, .deliver),
    (false, .call (.answer (some "v=1") none)), (true, .deliver)]

/-- alpha and bravo call each other at once and bravo wins the glare, so alpha answers
bravo's offer; then both update the call at once, bravo wins again, and alpha answers
bravo's UPDATE. -/
def doubleGlareSchedule : List (Bool × Pair.Move) :=
  [(true, .call (.start (some "v=0") none)), (false, .call (.start (some "v=1") none)),
    (true, .deliver), (false, .deliver), (true, .call (.answer (some "v=2") none)),
    (false, .deliver),
    (true, .call (.updateReq (some "v=3") none)), (false, .call (.updateReq (some "v=4") none)),
    (true, .deliver), (false, .deliver), (true, .call (.updateResp (some "v=5") none)),
    (false, .deliver)]

/-- The call of `callSchedule`, renegotiated by alpha and answered by bravo. -/
def renegotiateSchedule : List (Bool × Pair.Move) :=
  callSchedule ++ [(true, .call (.updateReq (some "v=2") none)), (false, .deliver),
    (false, .call (.updateResp (some "v=3") none)), (true, .deliver)]

/-- After the call is answered, each side holds the other's SDP; so it does after a glare
and an UPDATE glare, and after a renegotiation. -/
theorem call_agreement :
    let P := (pairAB.execAll specDeps callSchedule).getD pairAB
    let G := (pairAB.execAll specDeps doubleGlareSchedule).getD pairAB
    let U := (pairAB.execAll specDeps renegotiateSchedule).getD pairAB
    (P.a.conn.state = .answered ∧ P.b.conn.state = .answered ∧ P.ab = [] ∧ P.ba = [] ∧
      P.b.delivered = P.a.passed ∧ P.a.delivered = P.b.passed) ∧
    (G.a.conn.state = .answered ∧ G.b.conn.state = .answered ∧ G.ab = [] ∧ G.ba = [] ∧
      G.b.delivered = G.a.passed ∧ G.a.delivered = G.b.passed) ∧
    (U.a.conn.state = .answered ∧ U.b.conn.state = .answered ∧ U.ab = [] ∧ U.ba = [] ∧
      U.b.delivered = U.a.passed ∧ U.a.delivered = U.b.passed) := by
  have hrun : pairAB.execAll specDeps callSchedule =
      some ((pairAB.execAll specDeps callSchedule).getD pairAB) := rfl
  have hglare : pairAB.execAll specDeps doubleGlareSchedule =
      some ((pairAB.execAll specDeps doubleGlareSchedule).getD pairAB) := rfl
  have hreneg : pairAB.execAll specDeps renegotiateSchedule =
      some ((pairAB.execAll specDeps renegotiateSchedule).getD pairAB) := rfl
  exact ⟨⟨by decide, by decide, rfl, rfl,
      pair_agreement specDeps (Pair.Reach.of_execAll specDeps pairAB_reach hrun)
        (by decide) (.inl (by decide)) (.inl (by decide)) rfl rfl⟩,
    ⟨by decide, by decide, rfl, rfl,
      pair_agreement specDeps (Pair.Reach.of_execAll specDeps pairAB_reach hglare)
        (by decide) (.inl (by decide)) (.inl (by decide)) rfl rfl⟩,
    ⟨by decide, by decide, rfl, rfl,
      pair_agreement specDeps (Pair.Reach.of_execAll specDeps pairAB_reach hreneg)
        (by decide) (.inl (by decide)) (.inl (by decide)) rfl rfl⟩⟩

end Econn
