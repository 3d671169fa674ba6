/-
What the application's calls return when they fail (src/src/econn/econn.c), and what
they have done by then.

# EPROTO

Five calls hand the application's SDP or props to the transport: `econn_start`,
`econn_answer`, `econn_update_req`, `econn_update_resp` and `econn_send_propsync`. Three
kinds of path return EPROTO from them:

- the state checks of all but `econn_update_req`, which return before touching anything
  (the spec's "precondition violations return PROTOCOL without changing state");
- the check of a zero `timeout_setup` in `econn_start` and `econn_update_req`, which
  comes after the SETUP or UPDATE has gone to the transport and the record has moved to
  PENDING_OUTGOING or UPDATE_SENT;
- the transport's own answer: a send that returns EPROTO is passed back, by
  `econn_send_setup` after it has moved the record to TERMINATING, and by
  `econn_send_propsync`.

Only the first leaves the record as it was (`start_eproto_after_send` shows the other
two). `econnStep_eproto_unchanged` is what holds: with a nonzero `timeout_setup` and a
transport that does not answer EPROTO, a call that returns EPROTO changed nothing,
inside the record or outside it.
-/
import Econn.Run

namespace Econn

variable (d : Deps)

/-- `econn_start`, `econn_answer`, `econn_update_req`, `econn_update_resp` and
`econn_send_propsync`: the calls that hand the application's SDP or props to the
transport. -/
def Event.sendsPayload : Event → Bool
  | .start .. | .answer .. | .updateReq .. | .updateResp .. | .sendPropsync .. => true
  | _ => false

/-- A send returns what the handler answers, or ENOTSUP with none bound. -/
theorem sendResult_ne_eproto {r : Int} (hr : r ≠ EPROTO) (transp : Bool) :
    sendResult transp r ≠ EPROTO := by
  cases transp
  · simp [sendResult, ENOTSUP, EPROTO]
  · exact hr

/-- With a nonzero `timeout_setup` and a transport that does not answer EPROTO, each of
the five calls returns EPROTO only from its state check, before it has changed anything:
the record is as it was and nothing was sent or called back. -/
theorem econnStep_eproto_unchanged {c : Conn} {e : Event} {r : Int}
    (he : e.sendsPayload = true) (hts : c.conf.timeoutSetup ≠ 0) (hr : r ≠ EPROTO)
    (hret : (econnStep d c e r).ret = EPROTO) :
    (econnStep d c e r).conn = c ∧ (econnStep d c e r).effects = [] := by
  have hs := sendResult_ne_eproto hr c.transp
  cases e <;> simp only [Event.sendsPayload, reduceCtorEq] at he
  case start =>
    by_cases hst : c.state = .idle ∨ c.state = .pendingOutgoing
    · by_cases h0 : sendResult c.transp r = 0 <;>
        simp_all [econnStep, econnStart]
    · simp [econnStep, econnStart, hst]
  case answer =>
    by_cases hst : c.state ≠ .pendingIncoming ∧ c.state ≠ .conflictResolution
    · simp [econnStep, econnAnswer, hst]
    · by_cases h0 : sendResult c.transp r = 0 <;>
        simp_all [econnStep, econnAnswer]
  case updateReq =>
    by_cases h0 : sendResult c.transp r = 0 <;>
      simp_all [econnStep, econnUpdateReq]
  case updateResp =>
    by_cases hst : c.state = .updateRecv
    · by_cases h0 : sendResult c.transp r = 0 <;>
        simp_all [econnStep, econnUpdateResp]
    · simp [econnStep, econnUpdateResp, hst]
  case sendPropsync props =>
    cases props
    · simp [econnStep, econnSendPropsync, EINVAL, EPROTO] at hret
    · by_cases hst : c.state = .datachanEstablished
      · simp_all [econnStep, econnSendPropsync]
      · simp [econnStep, econnSendPropsync, hst]

/-- `econn_can_send_propsync` tells the application in advance whether
`econn_send_propsync` with props will fail its state check: over a transport that does
not answer EPROTO, the call returns EPROTO exactly when the query says no. -/
theorem econnSendPropsync_eproto_iff {c : Conn} {resp : Bool} {p : Props} {r : Int}
    (hr : r ≠ EPROTO) :
    (econnSendPropsync c resp (some p) r).ret = EPROTO ↔ econnCanSendPropsync c = false := by
  by_cases hst : c.state = .datachanEstablished
  · simp [econnSendPropsync, econnCanSendPropsync, hst, sendResult_ne_eproto hr c.transp]
  · simp [econnSendPropsync, econnCanSendPropsync, hst]

/-- alpha's fresh record answers a call it never received: EPROTO, and nothing
changed. -/
theorem answer_idle_eproto :
    (econnStep specDeps alpha (.answer (some "v=1") none) 0).ret = EPROTO ∧
      (econnStep specDeps alpha (.answer (some "v=1") none) 0).conn = alpha ∧
      (econnStep specDeps alpha (.answer (some "v=1") none) 0).effects = [] :=
  ⟨rfl, econnStep_eproto_unchanged specDeps rfl (by decide) (by decide) rfl⟩

/-- Two EPROTO returns after the call has acted. alpha allocated with a zero
`timeout_setup` starts a call: the SETUP goes out, the record is PENDING_OUTGOING and
outgoing, and `econn_start` returns EPROTO. alpha with the default configuration starts
a call over a transport that answers EPROTO: the record is TERMINATING with that error
in `setup_err`, and `econn_start` returns it. -/
theorem start_eproto_after_send :
    let c := { alpha with conf := ⟨0, 5000⟩ }
    let res := econnStep specDeps c (.start (some "v=0") none) 0
    let res' := econnStep specDeps alpha (.start (some "v=0") none) EPROTO
    Reachable specDeps c ∧ res.ret = EPROTO ∧ res.conn.state = .pendingOutgoing ∧
      res.conn.dir = .outgoing ∧
      res.effects = [.send (setupMessage "sA1" false (some "v=0") none false)] ∧
      Reachable specDeps alpha ∧ res'.ret = EPROTO ∧ res'.conn.state = .terminating ∧
      res'.conn.setupErr = EPROTO ∧
      res'.effects = [.send (setupMessage "sA1" false (some "v=0") none false)] :=
  ⟨Run.alloc (show econnAlloc (some ⟨0, 5000⟩) "alpha" "c1" true true true true true true
      "sA1" = .ok { alpha with conf := ⟨0, 5000⟩ } from rfl),
    rfl, rfl, rfl, rfl, Run.alloc alpha_alloc, rfl, rfl, rfl, rfl⟩

end Econn
