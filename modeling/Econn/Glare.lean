/-
The call two econn endpoints set up between them, abstracted to what agreement on the
SDP depends on: the glare protocol of econn.c with everything else taken out.

# What is kept

Of a record, `Side` keeps the state, whether the peer's client id and session id are
bound (`clientid_remote`, `sessid_remote` set), whether the application has called
`econn_start`, the SDP its application passed last and the SDP econn handed to its
application last. Of a message, `Msg` keeps its kind and its SDP. What econn.c's id
checks need of the ids is `Ids`, one per endpoint: whether its client id and session id
come through the peer's `str_ncpy` into a fixed buffer unchanged up to case, so that a
later `str_casecmp` against them succeeds, and whether it wins a glare.

# The steps

`Acts` is what an application call or a timer expiry does to its endpoint and what it
sends; the calls are the spec's (§4.3) in the states it allows them. `recv` is what a
delivered message does to the endpoint it reaches, and what that endpoint answers.
`SideStep` is one step of endpoint A, whose outgoing channel is `ab` and incoming one
`ba`; `Step` a step of either endpoint, B's being A's on the swapped state. Pair.lean
proves that a step of two econn records is a `Step` of their abstraction or leaves the
abstraction as it was.

The timer is coarser than the code: it may expire in every state but IDLE, where econn
never arms it, and its expiry sends a CANCEL from PENDING_OUTGOING, as `econn_close`
does.
-/
import Econn.Basic

namespace Econn.Glare

-- ================================================================ parties

/-- An endpoint, as far as the glare protocol is concerned. -/
structure Side where
  st : State
  /-- `clientid_remote` is set. -/
  cid : Bool
  /-- `sessid_remote` is set. -/
  sid : Bool
  /-- The application has called `econn_start`. -/
  started : Bool
  /-- The SDP the application last passed to `econn_start`, `econn_answer`,
  `econn_update_req` or `econn_update_resp`; `none` before the first. -/
  passed : Option (Option String)
  /-- The SDP econn last handed to the application's connect, answer, update-request or
  update-response handler; `none` before the first. -/
  deliv : Option (Option String)
  deriving DecidableEq, Repr

/-- How an endpoint's ids fare at its peer, and whether it wins a glare there. -/
structure Ids where
  /-- The client id survives the peer's copy: `str_casecmp` of the copy and the id
  succeeds. -/
  cidOK : Bool
  /-- The session id survives the peer's copy. -/
  sidOK : Bool
  /-- `econn_iswinner` of this endpoint's ids against the peer's. -/
  wins : Bool
  deriving DecidableEq, Repr

/-- A SETUP request or response, an UPDATE request or response, a CANCEL, a HANGUP
request or response, and PROPSYNC (`econn_recv_message` ignores it). -/
inductive Kind where
  | req
  | sresp
  | ureq
  | uresp
  | cancel
  | hreq
  | hresp
  | other
  deriving DecidableEq, Repr

/-- A message in a channel: its kind and its SDP. -/
structure Msg where
  kind : Kind
  sdp : Option String
  deriving DecidableEq, Repr

/-- The two endpoints and the two channels between them, in sending order. -/
structure Joint where
  a : Side
  b : Side
  ab : List Msg
  ba : List Msg
  deriving DecidableEq, Repr

/-- The same state with the endpoints' roles exchanged. -/
def Joint.swap (J : Joint) : Joint := ⟨J.b, J.a, J.ba, J.ab⟩

@[simp] theorem Joint.swap_swap (J : Joint) : J.swap.swap = J := rfl

-- ============================================================ application

/-- What an application call, in a state the spec allows it, or a timer expiry does to
the endpoint, and what it sends. `econn_start` is called at most once. -/
inductive Acts (x : Side) : Side → List Msg → Prop
  | start {v : Option String}
      (hst : x.st = .idle ∨ x.st = .pendingOutgoing) (hfirst : x.started = false) :
      Acts x { x with st := .pendingOutgoing, started := true, passed := some v } [⟨.req, v⟩]
  | answer {v : Option String}
      (hst : x.st = .pendingIncoming ∨ x.st = .conflictResolution) :
      Acts x { x with st := .answered, passed := some v } [⟨.sresp, v⟩]
  | updateReq {v : Option String}
      (hst : x.st = .answered ∨ x.st = .datachanEstablished) :
      Acts x { x with st := .updateSent, passed := some v } [⟨.ureq, v⟩]
  | updateResp {v : Option String} (hst : x.st = .updateRecv) :
      Acts x { x with st := .answered, passed := some v } [⟨.uresp, v⟩]
  | datachan (hst : x.st = .answered) : Acts x { x with st := .datachanEstablished } []
  /-- `econn_end` on an unanswered incoming call. -/
  | endIgnore (hst : x.st = .pendingIncoming) : Acts x { x with st := .terminating } []
  | endCancel
      (hst : x.st = .pendingOutgoing ∨ x.st = .answered ∨ x.st = .conflictResolution) :
      Acts x { x with st := .terminating } [⟨.cancel, none⟩]
  | endHangup (hst : x.st = .datachanEstablished) :
      Acts x { x with st := .hangupSent } [⟨.hreq, none⟩]
  | propsync (hst : x.st = .datachanEstablished) : Acts x x [⟨.other, none⟩]
  | timer (hst : x.st ≠ .idle) :
      Acts x { x with st := .terminating }
        (if x.st = .pendingOutgoing then [⟨.cancel, none⟩] else [])

-- ============================================================== delivery

/-- Both of econn.c's checks on an UPDATE or CANCEL pass: the peer's client id and
session id are bound, and the sender's match them. -/
def accepts (x : Side) (iy : Ids) : Bool := x.cid && iy.cidOK && x.sid && iy.sidOK

/-- What a message does to the endpoint `x` it is delivered to, and what `x` answers;
`iy` is how the sender's ids fare at `x`, `win` whether `x` wins a glare. A SETUP
binds the sender's client id unless another is bound (`recv_setup`); a request in
IDLE rings, in PENDING_OUTGOING it is a glare the winner drops; a response is taken
in PENDING_OUTGOING and CONFLICT_RESOLUTION. An UPDATE request glare is won the same
way. CANCEL and HANGUP end the call; only a HANGUP request is answered. -/
def recv (x : Side) (iy : Ids) (win : Bool) (m : Msg) : Side × List Msg :=
  match m.kind with
  | .req =>
    if x.cid && !iy.cidOK then (x, [])
    else match x.st with
      | .idle =>
        ({ x with cid := true, sid := true, st := .pendingIncoming, deliv := some m.sdp }, [])
      | .pendingOutgoing =>
        if win then ({ x with cid := true, sid := true }, [])
        else ({ x with
          cid := true, sid := true, st := .conflictResolution, deliv := some m.sdp }, [])
      | _ => ({ x with cid := true }, [])
  | .sresp =>
    if x.cid && !iy.cidOK then (x, [])
    else if x.st = .pendingOutgoing ∨ x.st = .conflictResolution then
      ({ x with cid := true, sid := true, st := .answered, deliv := some m.sdp }, [])
    else ({ x with cid := true }, [])
  | .ureq =>
    if accepts x iy && (x.st = .answered || x.st = .datachanEstablished ||
        x.st = .updateSent && !win) then
      ({ x with st := .updateRecv, deliv := some m.sdp }, [])
    else (x, [])
  | .uresp =>
    if accepts x iy && x.st = .updateSent then
      ({ x with st := .answered, deliv := some m.sdp }, [])
    else (x, [])
  | .cancel =>
    if accepts x iy && (x.st = .pendingIncoming || x.st = .answered ||
        x.st = .datachanEstablished) then ({ x with st := .terminating }, [])
    else (x, [])
  | .hreq =>
    if x.sid && iy.sidOK && (x.st = .datachanEstablished || x.st = .hangupSent) then
      ({ x with st := .terminating }, [⟨.hresp, none⟩])
    else (x, [])
  | .hresp =>
    if x.sid && iy.sidOK && (x.st = .datachanEstablished || x.st = .hangupSent) then
      ({ x with st := .terminating }, [])
    else (x, [])
  | .other => (x, [])

-- ================================================================= steps

/-- One step of endpoint A: its application or timer acts, or the first message from B
is delivered to it. `ia` and `ib` are how A's and B's ids fare at the peer. -/
inductive SideStep (ia ib : Ids) : Joint → Joint → Prop
  | act {a a' b : Side} {out ab ba : List Msg} (h : Acts a a' out) :
      SideStep ia ib ⟨a, b, ab, ba⟩ ⟨a', b, ab ++ out, ba⟩
  | recv {a b : Side} {m : Msg} {ab rest : List Msg} :
      SideStep ia ib ⟨a, b, ab, m :: rest⟩
        ⟨(recv a ib ia.wins m).1, b, ab ++ (recv a ib ia.wins m).2, rest⟩

/-- One step of either endpoint. -/
def Step (ia ib : Ids) (J J' : Joint) : Prop :=
  SideStep ia ib J J' ∨ SideStep ib ia J.swap J'.swap

/-- The states two endpoints reach from a pair that has done nothing yet. -/
inductive Reach (ia ib : Ids) : Joint → Prop
  | init {a b : Side} (ha : a = ⟨.idle, false, false, false, none, none⟩)
      (hb : b = ⟨.idle, false, false, false, none, none⟩) : Reach ia ib ⟨a, b, [], []⟩
  | step {J J' : Joint} (h : Reach ia ib J) (hs : Step ia ib J J') : Reach ia ib J'

end Econn.Glare
