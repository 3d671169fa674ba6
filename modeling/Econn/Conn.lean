/-
econn itself (src/src/econn/econn.c): the connection record, the handlers of inbound
messages, the application's operations, and the timer that bounds every wait.

# Calls and their effects

Every entry point is a function from the record to a `Res`: the record after the call,
what the call did outside the record in the order it did it, and the int it returned.
The effects are the messages handed to the transport's send handler and the five
application callbacks. econn.c calls each callback last ("calling the callback handlers
MUST be done last"), so a callback that re-enters econn is the next call of the run,
not something in the middle of this one.

The transport's send handler is the one thing a call consults that the record does not
hold: each call that can send takes `r`, what the handler returns when asked. A call
sends at most once, so one value per call is all the runs need.

# Parameters and ghost state

`Deps` carries what econn.c uses but src/ does not define: the sizes of the
`clientid_remote` and `sessid_remote` buffers, which `str_ncpy` fills, and
`econn_iswinner`. The record has one field `struct econn` lacks, `closed`: set by
`econnClose` and by nothing else, so that "has the connection been closed" can be asked
of a record whether or not it has a close handler.
-/
import Econn.Basic

namespace Econn

-- =============================================================== record

/-- `struct econn_conf`. -/
structure Conf where
  timeoutSetup : Nat
  timeoutTerm : Nat
  deriving DecidableEq, Repr

/-- `default_conf`. -/
def defaultConf : Conf := ⟨30000, 5000⟩

/-- The handlers econn arms `tmr_local` with: `tmr_local_handler`, `tmr_cancel_handler`
and `tmr_term_handler`. -/
inductive TmrHandler where
  | localHandler
  | cancelHandler
  | termHandler
  deriving DecidableEq, Repr

/-- An armed libre timer: the handler it will run and the delay it was started with. -/
structure Tmr where
  handler : TmrHandler
  delay : Nat
  deriving DecidableEq, Repr

/-- `struct econn`: the fields econn.c reads or writes. Handler pointers are kept as
whether they are set; `transp` is whether a transport with a send handler is bound. -/
structure Conn where
  conf : Conf
  useridSelf : String
  clientid : String
  clientidRemote : String
  sessidLocal : String
  sessidRemote : String
  state : State
  dir : Dir
  conflict : Int
  setupErr : Int
  err : Int
  tmrLocal : Option Tmr
  transp : Bool
  connh : Bool
  answerh : Bool
  updateReqh : Bool
  updateResph : Bool
  closeh : Bool
  /-- Ghost: `econn_close` has run on this record. -/
  closed : Bool
  deriving DecidableEq

/-- What a call does outside the record. -/
inductive Effect where
  /-- A message handed to `transp->sendh`. -/
  | send (m : Message)
  | connh (time : Nat) (useridSender clientidSender : String) (age : Nat)
      (sdp : Option String) (props : Option Props)
  | answerh (fromConflict : Bool) (sdp : Option String) (props : Option Props)
  | updateReqh (useridSender clientidSender : String) (sdp : Option String)
      (props : Option Props) (shouldReset : Bool)
  | updateResph (sdp : Option String) (props : Option Props)
  | closeh (err : Int)

/-- What a call leaves behind: the record, its effects in order, and the int it returns
(0 for the `void` functions). -/
structure Res where
  conn : Conn
  effects : List Effect
  ret : Int

/-- What econn.c uses and src/ does not define: the sizes of the `clientid_remote` and
`sessid_remote` buffers of `struct econn`, and `econn_iswinner`. -/
structure Deps where
  clientidRemoteSize : Nat
  sessidRemoteSize : Nat
  two_le_clientidRemoteSize : 2 ≤ clientidRemoteSize
  two_le_sessidRemoteSize : 2 ≤ sessidRemoteSize
  iswinner : String → String → String → String → Bool

variable (d : Deps)

-- ========================================================= sending, closing

/-- `transp_send`: the message goes to the send handler, which returns `r`; with no
handler bound nothing is sent and the result is `ENOTSUP`. -/
def transpSend (c : Conn) (msg : Message) (r : Int) : Int × List Effect :=
  if c.transp then (r, [.send msg]) else (ENOTSUP, [])

/-- `send_cancel`. -/
def sendCancel (c : Conn) (r : Int) : Int × List Effect :=
  transpSend c (messageInit .cancel c.sessidLocal) r

/-- `send_hangup`. -/
def sendHangup (c : Conn) (resp : Bool) (r : Int) : Int × List Effect :=
  transpSend c { messageInit .hangup c.sessidLocal with resp := resp } r

/-- `econn_close`: cancel the timer, record the error, send a best-effort CANCEL from
PENDING_OUTGOING, enter TERMINATING, and call the close handler last, clearing it
first. -/
def econnClose (c : Conn) (err : Int) (r : Int) : Res :=
  let c1 := { c with tmrLocal := none, setupErr := err }
  let sent := if c.state = .pendingOutgoing then (sendCancel c1 r).2 else []
  let c2 := { c1 with state := .terminating, closed := true }
  if c.closeh then ⟨{ c2 with closeh := false }, sent ++ [.closeh err], 0⟩
  else ⟨c2, sent, 0⟩

/-- `econn_send_setup`: a SETUP or UPDATE carrying the SDP; a failed send records the
error and moves to TERMINATING, without closing. -/
def econnSendSetup (c : Conn) (resp : Bool) (sdp : Option String) (props : Option Props)
    (update : Bool) (r : Int) : Res :=
  let msg := { messageInit (if update then .update else .setup) c.sessidLocal with
    sdp := sdp, props := props, resp := resp }
  let s := transpSend c msg r
  if s.1 ≠ 0 then ⟨{ c with setupErr := s.1, state := .terminating }, s.2, s.1⟩
  else ⟨c, s.2, 0⟩

-- ======================================================= inbound messages

/-- `handle_setup_request`. -/
def handleSetupRequest (c : Conn) (useridSender clientidSender : String)
    (msg : Message) : Res :=
  match c.state with
  | .idle =>
    let c := { c with
      state := .pendingIncoming, dir := .incoming,
      sessidRemote := strNcpy d.sessidRemoteSize msg.sessidSender,
      tmrLocal := some ⟨.localHandler, c.conf.timeoutSetup⟩ }
    ⟨c, if c.connh then [.connh msg.time useridSender clientidSender msg.age msg.sdp msg.props]
      else [], 0⟩
  | .pendingOutgoing =>
    let c := { c with sessidRemote := strNcpy d.sessidRemoteSize msg.sessidSender }
    if d.iswinner c.useridSelf c.clientid useridSender clientidSender then
      -- we are winner: drop the remote offer and expect a new ANSWER
      ⟨{ c with conflict := 1 }, [], 0⟩
    else
      ⟨{ c with conflict := -1, state := .conflictResolution },
        if c.answerh then [.answerh true msg.sdp msg.props] else [], 0⟩
  | _ => ⟨c, [], 0⟩

/-- `handle_setup_response`. -/
def handleSetupResponse (c : Conn) (msg : Message) : Res :=
  if c.state ≠ .pendingOutgoing ∧ c.state ≠ .conflictResolution then ⟨c, [], 0⟩
  else
    let c := { c with
      tmrLocal := none, state := .answered,
      sessidRemote := strNcpy d.sessidRemoteSize msg.sessidSender }
    ⟨c, if c.answerh then [.answerh false msg.sdp msg.props] else [], 0⟩

/-- `recv_setup`: an unset `clientid_remote` adopts the sender's client id before the
message is dispatched; a set one that differs drops the message. -/
def recvSetup (c : Conn) (useridSender clientidSender : String) (msg : Message) : Res :=
  if strIsset c.clientidRemote then
    if !strCaseEq c.clientidRemote clientidSender then ⟨c, [], 0⟩
    else if msg.isRequest then handleSetupRequest d c useridSender clientidSender msg
    else handleSetupResponse d c msg
  else
    let c := { c with clientidRemote := strNcpy d.clientidRemoteSize clientidSender }
    if msg.isRequest then handleSetupRequest d c useridSender clientidSender msg
    else handleSetupResponse d c msg

/-- `handle_update_request`: the timer is re-armed and the callback called on both paths
that enter UPDATE_RECV; `should_reset` tells the loser of an UPDATE glare. -/
def handleUpdateRequest (c : Conn) (useridSender clientidSender : String)
    (msg : Message) : Res :=
  let recv (reset : Bool) : Res :=
    let c := { c with
      state := .updateRecv, tmrLocal := some ⟨.localHandler, c.conf.timeoutSetup⟩ }
    ⟨c, if c.updateReqh then
      [.updateReqh useridSender clientidSender msg.sdp msg.props reset] else [], 0⟩
  if !strCaseEq c.clientidRemote clientidSender then ⟨c, [], 0⟩
  else match c.state with
    | .answered | .datachanEstablished => recv false
    | .updateSent =>
      if d.iswinner c.useridSelf c.clientid useridSender clientidSender then ⟨c, [], 0⟩
      else recv true
    | _ => ⟨c, [], 0⟩

/-- `handle_update_response`. -/
def handleUpdateResponse (c : Conn) (clientidSender : String) (msg : Message) : Res :=
  if !strCaseEq c.clientidRemote clientidSender then ⟨c, [], 0⟩
  else if c.state ≠ .updateSent then ⟨c, [], 0⟩
  else
    let c := { c with tmrLocal := none, state := .answered }
    ⟨c, if c.updateResph then [.updateResph msg.sdp msg.props] else [], 0⟩

/-- `recv_update`: the session id is checked first, the client id by the handlers. -/
def recvUpdate (c : Conn) (useridSender clientidSender : String) (msg : Message) : Res :=
  if !strCaseEq c.sessidRemote msg.sessidSender then ⟨c, [], 0⟩
  else if msg.isRequest then handleUpdateRequest d c useridSender clientidSender msg
  else handleUpdateResponse c clientidSender msg

/-- `recv_cancel`: client id, then state, then session id; an accepted CANCEL closes
with `ECANCELED`. -/
def recvCancel (c : Conn) (clientidSender : String) (msg : Message) (r : Int) : Res :=
  if !strCaseEq clientidSender c.clientidRemote then ⟨c, [], 0⟩
  else if c.state ≠ .pendingIncoming ∧ c.state ≠ .answered ∧
      c.state ≠ .datachanEstablished then ⟨c, [], 0⟩
  else if !strCaseEq c.sessidRemote msg.sessidSender then ⟨c, [], 0⟩
  else econnClose { c with state := .terminating } ECANCELED r

/-- `recv_hangup`: session id, then state; a HANGUP request is answered with a HANGUP
response whatever the send gives, then the connection closes normally. -/
def recvHangup (c : Conn) (msg : Message) (r : Int) : Res :=
  if !strCaseEq c.sessidRemote msg.sessidSender then ⟨c, [], 0⟩
  else if c.state ≠ .datachanEstablished ∧ c.state ≠ .hangupSent then ⟨c, [], 0⟩
  else
    let c := { c with state := .hangupRecv }
    let sent := if msg.isRequest then (sendHangup c true r).2 else []
    let res := econnClose { c with state := .terminating } 0 r
    ⟨res.conn, sent ++ res.effects, 0⟩

/-- `econn_recv_message`. -/
def econnRecvMessage (c : Conn) (useridSender clientidSender : String) (msg : Message)
    (r : Int) : Res :=
  match msg.msgType with
  | .setup => recvSetup d c useridSender clientidSender msg
  | .update => recvUpdate d c useridSender clientidSender msg
  | .cancel => recvCancel c clientidSender msg r
  | .hangup => recvHangup c msg r
  | _ => ⟨c, [], 0⟩

-- ================================================================= timer

/-- The error each timer handler closes with: `ETIMEDOUT` for `tmr_local_handler`, the
error the application set for the other two. -/
def tmrHandlerErr (c : Conn) : TmrHandler → Int
  | .localHandler => ETIMEDOUT
  | .cancelHandler => c.err
  | .termHandler => c.err

/-- `tmr_local` fires: libre disarms it and runs its handler, and every handler runs
`econn_close`. -/
def econnTmrFire (c : Conn) (r : Int) : Res :=
  match c.tmrLocal with
  | none => ⟨c, [], 0⟩
  | some t => econnClose { c with tmrLocal := none } (tmrHandlerErr c t.handler) r

-- ============================================================ operations

/-- `econn_alloc`. `sessidLocal` is the token `rand_str` draws. -/
def econnAlloc (conf : Option Conf) (useridSelf clientid : String) (transp : Bool)
    (connh answerh updateReqh updateResph closeh : Bool) (sessidLocal : String) :
    Except Int Conn :=
  if !strIsset useridSelf || !strIsset clientid then .error EINVAL
  else .ok {
    conf := conf.getD defaultConf, useridSelf := useridSelf, clientid := clientid,
    clientidRemote := "", sessidLocal := sessidLocal, sessidRemote := "", state := .idle,
    dir := .unknown, conflict := 0, setupErr := 0, err := 0, tmrLocal := none,
    transp := transp, connh := connh, answerh := answerh, updateReqh := updateReqh,
    updateResph := updateResph, closeh := closeh, closed := false }

/-- `econn_start`. -/
def econnStart (c : Conn) (sdp : Option String) (props : Option Props) (r : Int) : Res :=
  if c.state = .idle ∨ c.state = .pendingOutgoing then
    let s := econnSendSetup { c with state := .pendingOutgoing, dir := .outgoing }
      false sdp props false r
    if s.ret ≠ 0 then s
    else if s.conn.conf.timeoutSetup = 0 then ⟨s.conn, s.effects, EPROTO⟩
    else ⟨{ s.conn with tmrLocal := some ⟨.localHandler, s.conn.conf.timeoutSetup⟩ },
      s.effects, 0⟩
  else ⟨c, [], EPROTO⟩

/-- `econn_update_req`. The state switch has no rejecting case ("SSJ think we should
return -1 here"): every state goes on to UPDATE_SENT. -/
def econnUpdateReq (c : Conn) (sdp : Option String) (props : Option Props) (r : Int) : Res :=
  let s := econnSendSetup { c with state := .updateSent } false sdp props true r
  if s.ret ≠ 0 then s
  else if s.conn.conf.timeoutSetup = 0 then ⟨s.conn, s.effects, EPROTO⟩
  else ⟨{ s.conn with tmrLocal := some ⟨.localHandler, s.conn.conf.timeoutSetup⟩ },
    s.effects, 0⟩

/-- `econn_update_resp`. -/
def econnUpdateResp (c : Conn) (sdp : Option String) (props : Option Props) (r : Int) : Res :=
  if c.state ≠ .updateRecv then ⟨c, [], EPROTO⟩
  else
    let s := econnSendSetup { c with tmrLocal := none } true sdp props true r
    if s.ret ≠ 0 then s else ⟨{ s.conn with state := .answered }, s.effects, 0⟩

/-- `econn_answer`. -/
def econnAnswer (c : Conn) (sdp : Option String) (props : Option Props) (r : Int) : Res :=
  if c.state ≠ .pendingIncoming ∧ c.state ≠ .conflictResolution then ⟨c, [], EPROTO⟩
  else
    let s := econnSendSetup { c with tmrLocal := none } true sdp props false r
    if s.ret ≠ 0 then s else ⟨{ s.conn with state := .answered }, s.effects, 0⟩

/-- `econn_end`: an unanswered incoming call is ignored, an outgoing or answered one is
cancelled, an established one hung up; the first two close on a 1 ms timer, the last
when the HANGUP response comes or the term timer fires. -/
def econnEnd (c : Conn) (r : Int) : Res :=
  match c.state with
  | .pendingIncoming =>
    ⟨{ c with state := .terminating, tmrLocal := some ⟨.cancelHandler, 1⟩ }, [], 0⟩
  | .pendingOutgoing | .answered | .conflictResolution =>
    ⟨{ c with state := .terminating, tmrLocal := some ⟨.cancelHandler, 1⟩ },
      (sendCancel c r).2, 0⟩
  | .datachanEstablished =>
    ⟨{ c with state := .hangupSent, tmrLocal := some ⟨.termHandler, c.conf.timeoutTerm⟩ },
      (sendHangup c false r).2, 0⟩
  | _ => ⟨c, [], 0⟩

/-- `econn_can_send_propsync`. -/
def econnCanSendPropsync (c : Conn) : Bool := c.state = .datachanEstablished

/-- `econn_send_propsync`. -/
def econnSendPropsync (c : Conn) (resp : Bool) (props : Option Props) (r : Int) : Res :=
  match props with
  | none => ⟨c, [], EINVAL⟩
  | some p =>
    if c.state ≠ .datachanEstablished then ⟨c, [], EPROTO⟩
    else
      let s := transpSend c { messageInit .propsync c.sessidLocal with
        resp := resp, props := some p } r
      ⟨c, s.2, s.1⟩

/-- `econn_set_datachan_established`. -/
def econnSetDatachanEstablished (c : Conn) : Res :=
  if c.state = .answered then ⟨{ c with state := .datachanEstablished }, [], 0⟩
  else ⟨c, [], 0⟩

/-- `econn_set_error`. -/
def econnSetError (c : Conn) (err : Int) : Res := ⟨{ c with err := err }, [], 0⟩

end Econn
