/-
One step of a record (src/src/econn/econn.c): the events that can happen to a
`struct econn` next, and the state machine they drive.

# Events

`Event` is a call of the application, an inbound message handed to
`econn_recv_message`, or the expiry of `tmr_local`; `econnStep` runs one. The
transport's answer to a send is an argument of the step (every event sends at most
once), so a run can pick any result for every send.

# The state machine

`Moves c e r c' effs` is econn's transition table, read off the code: each constructor
is one path through the entry point `e` names, with the guards that select it, the
record it leaves and what it does outside the record. `econnStep_moves` says the code
takes one of these paths on every event, so the invariants of Run.lean and the
two-endpoint model are proved over `Moves` by one case per row, and never unfold
econn.c's functions again.
-/
import Econn.Conn

namespace Econn

variable (d : Deps)

-- ================================================================ events

/-- One thing that can happen to a record: a call of the application, an inbound
message handed to `econn_recv_message`, or the expiry of `tmr_local`. -/
inductive Event where
  | start (sdp : Option String) (props : Option Props)
  | answer (sdp : Option String) (props : Option Props)
  | updateReq (sdp : Option String) (props : Option Props)
  | updateResp (sdp : Option String) (props : Option Props)
  | setDatachanEstablished
  /-- `econn_end`. -/
  | endCall
  | sendPropsync (resp : Bool) (props : Option Props)
  | setError (err : Int)
  | recvMessage (useridSender clientidSender : String) (msg : Message)
  | tmrFire

/-- Run one event; a send it makes is answered with `r`. -/
def econnStep (c : Conn) (e : Event) (r : Int) : Res :=
  match e with
  | .start sdp props => econnStart c sdp props r
  | .answer sdp props => econnAnswer c sdp props r
  | .updateReq sdp props => econnUpdateReq c sdp props r
  | .updateResp sdp props => econnUpdateResp c sdp props r
  | .setDatachanEstablished => econnSetDatachanEstablished c
  | .endCall => econnEnd c r
  | .sendPropsync resp props => econnSendPropsync c resp props r
  | .setError err => econnSetError c err
  | .recvMessage useridSender clientidSender msg =>
    econnRecvMessage d c useridSender clientidSender msg r
  | .tmrFire => econnTmrFire c r

/-- The spec's preconditions (§4.3): the states in which the application may make each
call. `econn_end`, `econn_set_error`, inbound messages and the timer have none. -/
def allowed (c : Conn) : Event → Bool
  | .start .. => c.state = .idle ∨ c.state = .pendingOutgoing
  | .answer .. => c.state = .pendingIncoming ∨ c.state = .conflictResolution
  | .updateReq .. => c.state = .answered ∨ c.state = .datachanEstablished
  | .updateResp .. => c.state = .updateRecv
  | .sendPropsync .. => c.state = .datachanEstablished
  | .setDatachanEstablished => c.state = .answered
  | _ => true

-- ============================================================ what is sent

/-- What `transp_send` returns: the handler's answer, or `ENOTSUP` with none bound. -/
def sendResult (transp : Bool) (r : Int) : Int := if transp then r else ENOTSUP

/-- What `transp_send` does outside the record: the message goes to the handler, when
there is one. -/
def sendEffects (transp : Bool) (msg : Message) : List Effect :=
  if transp then [.send msg] else []

@[simp] theorem transpSend_eq (c : Conn) (msg : Message) (r : Int) :
    transpSend c msg r = (sendResult c.transp r, sendEffects c.transp msg) := by
  unfold transpSend sendResult sendEffects; split <;> rfl

/-- The SETUP or UPDATE `econn_send_setup` builds. -/
def setupMessage (sessid : String) (resp : Bool) (sdp : Option String) (props : Option Props)
    (update : Bool) : Message :=
  { messageInit (if update then .update else .setup) sessid with
    sdp := sdp, props := props, resp := resp }

/-- `econn_send_setup` changes the record only when the send fails. -/
@[simp] theorem econnSendSetup_eq (c : Conn) (resp : Bool) (sdp : Option String)
    (props : Option Props) (update : Bool) (r : Int) :
    econnSendSetup c resp sdp props update r =
      if sendResult c.transp r = 0 then
        ⟨c, sendEffects c.transp (setupMessage c.sessidLocal resp sdp props update), 0⟩
      else ⟨{ c with setupErr := sendResult c.transp r, state := .terminating },
        sendEffects c.transp (setupMessage c.sessidLocal resp sdp props update),
        sendResult c.transp r⟩ := by
  by_cases h : sendResult c.transp r = 0 <;> simp [econnSendSetup, setupMessage, h]

/-- What `econn_close` does outside the record: the best-effort CANCEL from
PENDING_OUTGOING, then the close handler. -/
def closeEffects (c : Conn) (err : Int) : List Effect :=
  (if c.state = .pendingOutgoing then sendEffects c.transp (messageInit .cancel c.sessidLocal)
    else []) ++ if c.closeh then [.closeh err] else []

/-- The record `econn_close` leaves: stopped, TERMINATING, closed, the close handler
cleared. -/
def closedConn (c : Conn) (err : Int) : Conn :=
  { c with
    tmrLocal := none, setupErr := err, state := .terminating, closed := true, closeh := false }

@[simp] theorem econnClose_eq (c : Conn) (err r : Int) :
    econnClose c err r = ⟨closedConn c err, closeEffects c err, 0⟩ := by
  cases hc : c.closeh <;>
    simp [econnClose, closedConn, closeEffects, sendCancel, sendEffects, hc]

-- ========================================================= the state machine

/-- The client id `recv_setup` leaves in place before it dispatches: the one already
bound, or the sender's, copied into the buffer. -/
def adoptClientid (c : Conn) (clientidSender : String) : String :=
  if strIsset c.clientidRemote then c.clientidRemote
  else strNcpy d.clientidRemoteSize clientidSender

/-- A SETUP from `clientidSender` gets past `recv_setup`'s check: no client id is bound
yet, or the bound one matches. -/
def setupPasses (c : Conn) (clientidSender : String) : Bool :=
  !strIsset c.clientidRemote || strCaseEq c.clientidRemote clientidSender

/-- The states in which the handler of a message acts; in every other state it drops
the message ("ignore ... in wrong state"). -/
def handles (st : State) (msg : Message) : Bool :=
  match msg.msgType, msg.resp with
  | .setup, false => st = .idle ∨ st = .pendingOutgoing
  | .setup, true => st = .pendingOutgoing ∨ st = .conflictResolution
  | .update, false => st = .answered ∨ st = .datachanEstablished ∨ st = .updateSent
  | .update, true => st = .updateSent
  | .cancel, _ => st = .pendingIncoming ∨ st = .answered ∨ st = .datachanEstablished
  | .hangup, _ => st = .datachanEstablished ∨ st = .hangupSent
  | _, _ => false

/-- What `econn_start` and `econn_update_req` leave in `tmr_local` after a good send:
the setup timer, or, with a zero `timeout_setup`, whatever was there. -/
def armSetup (c : Conn) : Option Tmr :=
  if c.conf.timeoutSetup = 0 then c.tmrLocal else some ⟨.localHandler, c.conf.timeoutSetup⟩

/-- econn's transition table: every path through an entry point, with its guards, the
record it leaves and its effects in order. `stay` is every path that changes nothing:
a call rejected in its state, a message dropped by a check, an unarmed timer. -/
inductive Moves (c : Conn) : Event → Int → Conn → List Effect → Prop
  | stay {e : Event} {r : Int} : Moves c e r c []
  | start {sdp : Option String} {props : Option Props} {r : Int}
      (hst : c.state = .idle ∨ c.state = .pendingOutgoing) (hr : sendResult c.transp r = 0) :
      Moves c (.start sdp props) r
        { c with
          state := .pendingOutgoing, dir := .outgoing,
          tmrLocal := armSetup c }
        (sendEffects c.transp (setupMessage c.sessidLocal false sdp props false))
  | startFail {sdp : Option String} {props : Option Props} {r : Int}
      (hst : c.state = .idle ∨ c.state = .pendingOutgoing) (hr : sendResult c.transp r ≠ 0) :
      Moves c (.start sdp props) r
        { c with state := .terminating, dir := .outgoing, setupErr := sendResult c.transp r }
        (sendEffects c.transp (setupMessage c.sessidLocal false sdp props false))
  | answer {sdp : Option String} {props : Option Props} {r : Int}
      (hst : c.state = .pendingIncoming ∨ c.state = .conflictResolution)
      (hr : sendResult c.transp r = 0) :
      Moves c (.answer sdp props) r { c with tmrLocal := none, state := .answered }
        (sendEffects c.transp (setupMessage c.sessidLocal true sdp props false))
  | answerFail {sdp : Option String} {props : Option Props} {r : Int}
      (hst : c.state = .pendingIncoming ∨ c.state = .conflictResolution)
      (hr : sendResult c.transp r ≠ 0) :
      Moves c (.answer sdp props) r
        { c with tmrLocal := none, setupErr := sendResult c.transp r, state := .terminating }
        (sendEffects c.transp (setupMessage c.sessidLocal true sdp props false))
  /-- `econn_update_req` in any state: it has no rejecting case. -/
  | updateReq {sdp : Option String} {props : Option Props} {r : Int}
      (hr : sendResult c.transp r = 0) :
      Moves c (.updateReq sdp props) r
        { c with
          state := .updateSent,
          tmrLocal := armSetup c }
        (sendEffects c.transp (setupMessage c.sessidLocal false sdp props true))
  | updateReqFail {sdp : Option String} {props : Option Props} {r : Int}
      (hr : sendResult c.transp r ≠ 0) :
      Moves c (.updateReq sdp props) r
        { c with state := .terminating, setupErr := sendResult c.transp r }
        (sendEffects c.transp (setupMessage c.sessidLocal false sdp props true))
  | updateResp {sdp : Option String} {props : Option Props} {r : Int}
      (hst : c.state = .updateRecv) (hr : sendResult c.transp r = 0) :
      Moves c (.updateResp sdp props) r { c with tmrLocal := none, state := .answered }
        (sendEffects c.transp (setupMessage c.sessidLocal true sdp props true))
  | updateRespFail {sdp : Option String} {props : Option Props} {r : Int}
      (hst : c.state = .updateRecv) (hr : sendResult c.transp r ≠ 0) :
      Moves c (.updateResp sdp props) r
        { c with tmrLocal := none, setupErr := sendResult c.transp r, state := .terminating }
        (sendEffects c.transp (setupMessage c.sessidLocal true sdp props true))
  | datachan {r : Int} (hst : c.state = .answered) :
      Moves c .setDatachanEstablished r { c with state := .datachanEstablished } []
  /-- `econn_end` on an unanswered incoming call: no CANCEL, close in 1 ms. -/
  | endIgnore {r : Int} (hst : c.state = .pendingIncoming) :
      Moves c .endCall r
        { c with state := .terminating, tmrLocal := some ⟨.cancelHandler, 1⟩ } []
  | endCancel {r : Int}
      (hst : c.state = .pendingOutgoing ∨ c.state = .answered ∨
        c.state = .conflictResolution) :
      Moves c .endCall r
        { c with state := .terminating, tmrLocal := some ⟨.cancelHandler, 1⟩ }
        (sendEffects c.transp (messageInit .cancel c.sessidLocal))
  | endHangup {r : Int} (hst : c.state = .datachanEstablished) :
      Moves c .endCall r
        { c with
          state := .hangupSent, tmrLocal := some ⟨.termHandler, c.conf.timeoutTerm⟩ }
        (sendEffects c.transp { messageInit .hangup c.sessidLocal with resp := false })
  | propsync {resp : Bool} {p : Props} {r : Int} (hst : c.state = .datachanEstablished) :
      Moves c (.sendPropsync resp (some p)) r c
        (sendEffects c.transp { messageInit .propsync c.sessidLocal with
          resp := resp, props := some p })
  | setError {err r : Int} : Moves c (.setError err) r { c with err := err } []
  | tmrFire {r : Int} {t : Tmr} (ht : c.tmrLocal = some t) :
      Moves c .tmrFire r (closedConn c (tmrHandlerErr c t.handler))
        (closeEffects c (tmrHandlerErr c t.handler))
  /-- A SETUP that `recv_setup` lets through and its handler drops for the state: only
  the client id it adopted remains. -/
  | adopt {useridSender clientidSender : String} {msg : Message} {r : Int}
      (hty : msg.msgType = .setup) (hcid : setupPasses c clientidSender)
      (hst : handles c.state msg = false) :
      Moves c (.recvMessage useridSender clientidSender msg) r
        { c with clientidRemote := adoptClientid d c clientidSender } []
  | incoming {useridSender clientidSender : String} {msg : Message} {r : Int}
      (hty : msg.msgType = .setup) (hreq : msg.resp = false)
      (hcid : setupPasses c clientidSender) (hst : c.state = .idle) :
      Moves c (.recvMessage useridSender clientidSender msg) r
        { c with
          clientidRemote := adoptClientid d c clientidSender, state := .pendingIncoming,
          dir := .incoming, sessidRemote := strNcpy d.sessidRemoteSize msg.sessidSender,
          tmrLocal := some ⟨.localHandler, c.conf.timeoutSetup⟩ }
        (if c.connh then
          [.connh msg.time useridSender clientidSender msg.age msg.sdp msg.props] else [])
  | glareWin {useridSender clientidSender : String} {msg : Message} {r : Int}
      (hty : msg.msgType = .setup) (hreq : msg.resp = false)
      (hcid : setupPasses c clientidSender) (hst : c.state = .pendingOutgoing)
      (hwin : d.iswinner c.useridSelf c.clientid useridSender clientidSender = true) :
      Moves c (.recvMessage useridSender clientidSender msg) r
        { c with
          clientidRemote := adoptClientid d c clientidSender,
          sessidRemote := strNcpy d.sessidRemoteSize msg.sessidSender, conflict := 1 } []
  | glareLose {useridSender clientidSender : String} {msg : Message} {r : Int}
      (hty : msg.msgType = .setup) (hreq : msg.resp = false)
      (hcid : setupPasses c clientidSender) (hst : c.state = .pendingOutgoing)
      (hwin : d.iswinner c.useridSelf c.clientid useridSender clientidSender = false) :
      Moves c (.recvMessage useridSender clientidSender msg) r
        { c with
          clientidRemote := adoptClientid d c clientidSender,
          sessidRemote := strNcpy d.sessidRemoteSize msg.sessidSender, conflict := -1,
          state := .conflictResolution }
        (if c.answerh then [.answerh true msg.sdp msg.props] else [])
  | setupAnswered {useridSender clientidSender : String} {msg : Message} {r : Int}
      (hty : msg.msgType = .setup) (hresp : msg.resp = true)
      (hcid : setupPasses c clientidSender)
      (hst : c.state = .pendingOutgoing ∨ c.state = .conflictResolution) :
      Moves c (.recvMessage useridSender clientidSender msg) r
        { c with
          clientidRemote := adoptClientid d c clientidSender, tmrLocal := none,
          state := .answered, sessidRemote := strNcpy d.sessidRemoteSize msg.sessidSender }
        (if c.answerh then [.answerh false msg.sdp msg.props] else [])
  /-- An UPDATE request accepted; `reset` tells the loser of an UPDATE glare. -/
  | updateRecv {useridSender clientidSender : String} {msg : Message} {r : Int}
      (hty : msg.msgType = .update) (hreq : msg.resp = false)
      (hsid : strCaseEq c.sessidRemote msg.sessidSender = true)
      (hcid : strCaseEq c.clientidRemote clientidSender = true)
      (hst : c.state = .answered ∨ c.state = .datachanEstablished ∨
        c.state = .updateSent ∧
          d.iswinner c.useridSelf c.clientid useridSender clientidSender = false) :
      Moves c (.recvMessage useridSender clientidSender msg) r
        { c with
          state := .updateRecv, tmrLocal := some ⟨.localHandler, c.conf.timeoutSetup⟩ }
        (if c.updateReqh then
          [.updateReqh useridSender clientidSender msg.sdp msg.props
            (c.state = .updateSent)] else [])
  | updateAnswered {useridSender clientidSender : String} {msg : Message} {r : Int}
      (hty : msg.msgType = .update) (hresp : msg.resp = true)
      (hsid : strCaseEq c.sessidRemote msg.sessidSender = true)
      (hcid : strCaseEq c.clientidRemote clientidSender = true)
      (hst : c.state = .updateSent) :
      Moves c (.recvMessage useridSender clientidSender msg) r
        { c with tmrLocal := none, state := .answered }
        (if c.updateResph then [.updateResph msg.sdp msg.props] else [])
  | cancel {useridSender clientidSender : String} {msg : Message} {r : Int}
      (hty : msg.msgType = .cancel)
      (hcid : strCaseEq clientidSender c.clientidRemote = true)
      (hst : c.state = .pendingIncoming ∨ c.state = .answered ∨
        c.state = .datachanEstablished)
      (hsid : strCaseEq c.sessidRemote msg.sessidSender = true) :
      Moves c (.recvMessage useridSender clientidSender msg) r
        (closedConn c ECANCELED) (if c.closeh then [.closeh ECANCELED] else [])
  /-- A HANGUP accepted: a request is answered with a HANGUP response first. -/
  | hangup {useridSender clientidSender : String} {msg : Message} {r : Int}
      (hty : msg.msgType = .hangup)
      (hsid : strCaseEq c.sessidRemote msg.sessidSender = true)
      (hst : c.state = .datachanEstablished ∨ c.state = .hangupSent) :
      Moves c (.recvMessage useridSender clientidSender msg) r (closedConn c 0)
        ((if msg.isRequest then sendEffects c.transp { messageInit .hangup c.sessidLocal with
          resp := true } else []) ++ if c.closeh then [.closeh 0] else [])


-- ====================================================== the code's paths

section Paths

variable {d} (c : Conn) (r : Int)

theorem econnStart_moves (sdp : Option String) (props : Option Props) :
    Moves d c (.start sdp props) r (econnStart c sdp props r).conn
      (econnStart c sdp props r).effects := by
  by_cases hst : c.state = .idle ∨ c.state = .pendingOutgoing
  · by_cases hr : sendResult c.transp r = 0
    · have hm := (Moves.start hst hr : Moves d c (.start sdp props) r _ _)
      by_cases ht : c.conf.timeoutSetup = 0 <;>
        simp only [armSetup, ht, if_true, if_false] at hm <;>
        simpa [econnStart, hst, hr, ht] using hm
    · simpa [econnStart, hst, hr] using
        (Moves.startFail hst hr : Moves d c (.start sdp props) r _ _)
  · simpa [econnStart, hst] using Moves.stay (d := d) (c := c) (e := .start sdp props) (r := r)

theorem econnAnswer_moves (sdp : Option String) (props : Option Props) :
    Moves d c (.answer sdp props) r (econnAnswer c sdp props r).conn
      (econnAnswer c sdp props r).effects := by
  by_cases hst : c.state = .pendingIncoming ∨ c.state = .conflictResolution
  · have hst' : ¬(c.state ≠ .pendingIncoming ∧ c.state ≠ .conflictResolution) := by tauto
    by_cases hr : sendResult c.transp r = 0
    · simpa [econnAnswer, hst', hr] using
        (Moves.answer hst hr : Moves d c (.answer sdp props) r _ _)
    · simpa [econnAnswer, hst', hr] using
        (Moves.answerFail hst hr : Moves d c (.answer sdp props) r _ _)
  · have hst' : c.state ≠ .pendingIncoming ∧ c.state ≠ .conflictResolution := by tauto
    simpa [econnAnswer, hst'] using Moves.stay (d := d) (c := c) (e := .answer sdp props) (r := r)

theorem econnUpdateReq_moves (sdp : Option String) (props : Option Props) :
    Moves d c (.updateReq sdp props) r (econnUpdateReq c sdp props r).conn
      (econnUpdateReq c sdp props r).effects := by
  by_cases hr : sendResult c.transp r = 0
  · have hm := (Moves.updateReq hr : Moves d c (.updateReq sdp props) r _ _)
    by_cases ht : c.conf.timeoutSetup = 0 <;>
      simp only [armSetup, ht, if_true, if_false] at hm <;>
      simpa [econnUpdateReq, hr, ht] using hm
  · simpa [econnUpdateReq, hr] using
      (Moves.updateReqFail hr : Moves d c (.updateReq sdp props) r _ _)

theorem econnUpdateResp_moves (sdp : Option String) (props : Option Props) :
    Moves d c (.updateResp sdp props) r (econnUpdateResp c sdp props r).conn
      (econnUpdateResp c sdp props r).effects := by
  by_cases hst : c.state = .updateRecv
  · by_cases hr : sendResult c.transp r = 0
    · simpa [econnUpdateResp, hst, hr] using
        (Moves.updateResp hst hr : Moves d c (.updateResp sdp props) r _ _)
    · simpa [econnUpdateResp, hst, hr] using
        (Moves.updateRespFail hst hr : Moves d c (.updateResp sdp props) r _ _)
  · simpa [econnUpdateResp, hst] using
      Moves.stay (d := d) (c := c) (e := .updateResp sdp props) (r := r)

theorem econnEnd_moves : Moves d c .endCall r (econnEnd c r).conn (econnEnd c r).effects := by
  cases hst : c.state <;> simp only [econnEnd, hst, sendCancel, sendHangup, transpSend_eq]
  case pendingIncoming => exact .endIgnore hst
  case pendingOutgoing => exact .endCancel (by simp [hst])
  case answered => exact .endCancel (by simp [hst])
  case conflictResolution => exact .endCancel (by simp [hst])
  case datachanEstablished => exact .endHangup hst
  all_goals exact .stay

theorem econnTmrFire_moves :
    Moves d c .tmrFire r (econnTmrFire c r).conn (econnTmrFire c r).effects := by
  cases ht : c.tmrLocal with
  | none => simpa [econnTmrFire, ht] using Moves.stay (d := d) (c := c) (e := .tmrFire) (r := r)
  | some t =>
    simpa [econnTmrFire, ht, closedConn, closeEffects] using Moves.tmrFire (d := d) (r := r) ht

variable (useridSender clientidSender : String) (msg : Message)

/-- `recv_setup` dispatches on the record with the client id adopted. -/
theorem recvSetup_eq (h : setupPasses c clientidSender = true) :
    recvSetup d c useridSender clientidSender msg =
      let c := { c with clientidRemote := adoptClientid d c clientidSender }
      if msg.isRequest then handleSetupRequest d c useridSender clientidSender msg
      else handleSetupResponse d c msg := by
  by_cases hs : strIsset c.clientidRemote
  · simp only [setupPasses, hs, Bool.not_true, Bool.false_or] at h
    simp [recvSetup, adoptClientid, hs, h]
  · simp [recvSetup, adoptClientid, hs]

theorem recvSetup_moves (hty : msg.msgType = .setup) :
    Moves d c (.recvMessage useridSender clientidSender msg) r
      (recvSetup d c useridSender clientidSender msg).conn
      (recvSetup d c useridSender clientidSender msg).effects := by
  by_cases hp : setupPasses c clientidSender = true
  · rw [recvSetup_eq c useridSender clientidSender msg hp]
    cases hreq : msg.resp
    · simp only [Message.isRequest, hreq, Bool.not_false, if_true]
      by_cases hi : c.state = .idle
      · simpa [handleSetupRequest, hi] using
          (Moves.incoming hty hreq hp hi :
            Moves d c (.recvMessage useridSender clientidSender msg) r _ _)
      by_cases ho : c.state = .pendingOutgoing
      · cases hw : d.iswinner c.useridSelf c.clientid useridSender clientidSender
        · simpa [handleSetupRequest, ho, hw] using
            (Moves.glareLose hty hreq hp ho hw :
              Moves d c (.recvMessage useridSender clientidSender msg) r _ _)
        · simpa [handleSetupRequest, ho, hw] using
            (Moves.glareWin hty hreq hp ho hw :
              Moves d c (.recvMessage useridSender clientidSender msg) r _ _)
      have hst : handles c.state msg = false := by simp [handles, hty, hreq, hi, ho]
      have : handleSetupRequest d { c with clientidRemote := adoptClientid d c clientidSender }
          useridSender clientidSender msg =
          ⟨{ c with clientidRemote := adoptClientid d c clientidSender }, [], 0⟩ := by
        unfold handleSetupRequest; split <;> simp_all
      simpa [this] using
        (Moves.adopt hty hp hst : Moves d c (.recvMessage useridSender clientidSender msg) r _ _)
    · simp only [Message.isRequest, hreq, Bool.not_true]
      by_cases hs : c.state = .pendingOutgoing ∨ c.state = .conflictResolution
      · have hs' : ¬(c.state ≠ .pendingOutgoing ∧ c.state ≠ .conflictResolution) := by tauto
        simpa [handleSetupResponse, hs'] using
          (Moves.setupAnswered hty hreq hp hs :
            Moves d c (.recvMessage useridSender clientidSender msg) r _ _)
      · have hs' : c.state ≠ .pendingOutgoing ∧ c.state ≠ .conflictResolution := by tauto
        have hst : handles c.state msg = false := by simpa [handles, hty, hreq] using hs'
        simpa [handleSetupResponse, hs'] using
          (Moves.adopt hty hp hst : Moves d c (.recvMessage useridSender clientidSender msg) r _ _)
  · have : strIsset c.clientidRemote = true ∧
        strCaseEq c.clientidRemote clientidSender = false := by
      simpa [setupPasses] using hp
    simpa [recvSetup, this] using
      Moves.stay (d := d) (c := c) (e := .recvMessage useridSender clientidSender msg) (r := r)

theorem recvUpdate_moves (hty : msg.msgType = .update) :
    Moves d c (.recvMessage useridSender clientidSender msg) r
      (recvUpdate d c useridSender clientidSender msg).conn
      (recvUpdate d c useridSender clientidSender msg).effects := by
  have stay := Moves.stay (d := d) (c := c) (e := .recvMessage useridSender clientidSender msg)
    (r := r)
  by_cases hsid : strCaseEq c.sessidRemote msg.sessidSender = true
  · by_cases hcid : strCaseEq c.clientidRemote clientidSender = true
    · cases hreq : msg.resp
      · by_cases hst : c.state = .answered ∨ c.state = .datachanEstablished ∨
            c.state = .updateSent ∧
              d.iswinner c.useridSelf c.clientid useridSender clientidSender = false
        · have hm := (Moves.updateRecv hty hreq hsid hcid hst :
            Moves d c (.recvMessage useridSender clientidSender msg) r _ _)
          rcases hst with hs | hs | ⟨hs, hw⟩
          · simpa [recvUpdate, handleUpdateRequest, Message.isRequest, hsid, hcid, hreq, hs]
              using hm
          · simpa [recvUpdate, handleUpdateRequest, Message.isRequest, hsid, hcid, hreq, hs]
              using hm
          · simpa [recvUpdate, handleUpdateRequest, Message.isRequest, hsid, hcid, hreq, hs, hw]
              using hm
        · have : handleUpdateRequest d c useridSender clientidSender msg = ⟨c, [], 0⟩ := by
            cases hs : c.state <;> simp_all [handleUpdateRequest]
          simpa [recvUpdate, Message.isRequest, hsid, hreq, this] using stay
      · by_cases hst : c.state = .updateSent
        · simpa [recvUpdate, handleUpdateResponse, Message.isRequest, hsid, hcid, hreq, hst] using
            (Moves.updateAnswered hty hreq hsid hcid hst :
            Moves d c (.recvMessage useridSender clientidSender msg) r _ _)
        · simpa [recvUpdate, handleUpdateResponse, Message.isRequest, hsid, hcid, hreq, hst]
            using stay
    · cases hreq : msg.resp <;>
        simpa [recvUpdate, handleUpdateRequest, handleUpdateResponse, Message.isRequest, hsid,
          hcid, hreq] using stay
  · simpa [recvUpdate, hsid] using stay

theorem recvCancel_moves (hty : msg.msgType = .cancel) :
    Moves d c (.recvMessage useridSender clientidSender msg) r
      (recvCancel c clientidSender msg r).conn (recvCancel c clientidSender msg r).effects := by
  have stay := Moves.stay (d := d) (c := c) (e := .recvMessage useridSender clientidSender msg)
    (r := r)
  by_cases hcid : strCaseEq clientidSender c.clientidRemote = true
  · by_cases hst : c.state = .pendingIncoming ∨ c.state = .answered ∨
        c.state = .datachanEstablished
    · have hst' : ¬(c.state ≠ .pendingIncoming ∧ c.state ≠ .answered ∧
          c.state ≠ .datachanEstablished) := by tauto
      by_cases hsid : strCaseEq c.sessidRemote msg.sessidSender = true
      · simpa [recvCancel, hcid, hst', hsid, closedConn, closeEffects] using
          (Moves.cancel hty hcid hst hsid :
            Moves d c (.recvMessage useridSender clientidSender msg) r _ _)
      · simpa [recvCancel, hcid, hst', hsid] using stay
    · have hst' : c.state ≠ .pendingIncoming ∧ c.state ≠ .answered ∧
          c.state ≠ .datachanEstablished := by tauto
      simpa [recvCancel, hcid, hst'] using stay
  · simpa [recvCancel, hcid] using stay

theorem recvHangup_moves (hty : msg.msgType = .hangup) :
    Moves d c (.recvMessage useridSender clientidSender msg) r (recvHangup c msg r).conn
      (recvHangup c msg r).effects := by
  have stay := Moves.stay (d := d) (c := c) (e := .recvMessage useridSender clientidSender msg)
    (r := r)
  by_cases hsid : strCaseEq c.sessidRemote msg.sessidSender = true
  · by_cases hst : c.state = .datachanEstablished ∨ c.state = .hangupSent
    · have hst' : ¬(c.state ≠ .datachanEstablished ∧ c.state ≠ .hangupSent) := by tauto
      simpa [recvHangup, hsid, hst', closedConn, closeEffects, sendHangup] using
        (Moves.hangup hty hsid hst : Moves d c (.recvMessage useridSender clientidSender msg) r _ _)
    · have hst' : c.state ≠ .datachanEstablished ∧ c.state ≠ .hangupSent := by tauto
      simpa [recvHangup, hsid, hst'] using stay
  · simpa [recvHangup, hsid] using stay

theorem econnRecvMessage_moves :
    Moves d c (.recvMessage useridSender clientidSender msg) r
      (econnRecvMessage d c useridSender clientidSender msg r).conn
      (econnRecvMessage d c useridSender clientidSender msg r).effects := by
  cases hty : msg.msgType <;> simp only [econnRecvMessage, hty]
  case setup => exact recvSetup_moves c r useridSender clientidSender msg hty
  case update => exact recvUpdate_moves c r useridSender clientidSender msg hty
  case cancel => exact recvCancel_moves c r useridSender clientidSender msg hty
  case hangup => exact recvHangup_moves c r useridSender clientidSender msg hty
  all_goals exact .stay

end Paths

/-- Every event takes one of the paths of the table. -/
theorem econnStep_moves (c : Conn) (e : Event) (r : Int) :
    Moves d c e r (econnStep d c e r).conn (econnStep d c e r).effects := by
  cases e with
  | start sdp props => exact econnStart_moves c r sdp props
  | answer sdp props => exact econnAnswer_moves c r sdp props
  | updateReq sdp props => exact econnUpdateReq_moves c r sdp props
  | updateResp sdp props => exact econnUpdateResp_moves c r sdp props
  | setDatachanEstablished =>
    by_cases hst : c.state = .answered
    · simpa [econnStep, econnSetDatachanEstablished, hst] using
        Moves.datachan (d := d) (r := r) hst
    · simpa [econnStep, econnSetDatachanEstablished, hst] using
        Moves.stay (d := d) (c := c) (e := .setDatachanEstablished) (r := r)
  | endCall => exact econnEnd_moves c r
  | sendPropsync resp props =>
    cases props with
    | none => exact .stay
    | some p =>
      by_cases hst : c.state = .datachanEstablished
      · simpa [econnStep, econnSendPropsync, hst] using
          (Moves.propsync hst : Moves d c (.sendPropsync resp (some p)) r _ _)
      · simpa [econnStep, econnSendPropsync, hst] using
          Moves.stay (d := d) (c := c) (e := .sendPropsync resp (some p)) (r := r)
  | setError err => exact .setError
  | recvMessage useridSender clientidSender msg =>
    exact econnRecvMessage_moves c r useridSender clientidSender msg
  | tmrFire => exact econnTmrFire_moves c r

end Econn
