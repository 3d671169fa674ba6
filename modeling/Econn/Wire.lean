/-
What a record hands to its transport, against the wire format (src/src/econn/econn.c,
src/src/econn_fmt/msg.c): the two halves of econn meet at the message.

# What crosses

econn.c builds every message it sends itself: a SETUP or UPDATE from the SDP and props
the application passed (`econn_send_setup`), a CANCEL or HANGUP with the header only, a
PROPSYNC with the props the application passed. The transport encodes it with
`econn_message_encode`, and the peer decodes it with `econn_message_decode`.
`sent_crosses_wire`: when the application passes an SDP and props with each call that
sends them, and the record's session id fits the `sessid_sender` buffer, every message
of every step encodes, and decodes back to its wire fields.

Both conditions are needed: a NULL SDP is refused by the encoder (`jzon_add_str`), and a
SETUP or UPDATE without props encodes and does not decode
(`econnMessageDecode_encode_without_props`).

# What the peer reads

`econn_recv_message` reads of a message only the fields the wire carries and, in the
connect handler's arguments, the two stamps the decoder sets; the record it leaves does
not depend on the stamps at all. So `delivered_as_sent`: a message that crosses the wire
is handled at the peer as the message as sent would be, stamped with the receive times,
and leaves the peer's record as the message as sent leaves it. The two-record model
(`Pair`) hands messages over directly; this is what makes that faithful to a deployment
where the transport carries their encodings.
-/
import Econn.Codec
import Econn.Pair

namespace Econn

variable (d : Deps) (cd : Codec)

/-- The application passes an SDP and props with each call that sends them:
`econn_start`, `econn_answer`, `econn_update_req` and `econn_update_resp`. -/
def Event.payloadGiven : Event → Bool
  | .start sdp props | .answer sdp props | .updateReq sdp props | .updateResp sdp props =>
    sdp.isSome && props.isSome
  | _ => true

variable {d} {c c' : Conn} {e : Event} {r : Int} {effs : List Effect}

theorem send_mem_sendEffects {m msg : Message} {transp : Bool} :
    Effect.send m ∈ sendEffects transp msg ↔ transp = true ∧ m = msg := by
  cases transp <;> simp [sendEffects]

/-- What a step sends carries the payload its type needs: a SETUP or UPDATE the SDP and
props of the call, a PROPSYNC its props. -/
theorem Moves.sent_payload (hm : Moves d c e r c' effs) (he : e.payloadGiven = true)
    {m : Message} (hmem : Effect.send m ∈ effs) :
    (m.msgType = .setup ∨ m.msgType = .update → m.sdp.isSome ∧ m.props.isSome) ∧
      (m.msgType = .propsync → m.props.isSome) := by
  cases hm <;> simp only [send_mem_sendEffects, closeEffects, List.mem_append,
    List.mem_ite_nil_right, List.mem_singleton, List.not_mem_nil, reduceCtorEq, and_false,
    false_or, or_false] at hmem <;>
    simp_all [setupMessage, messageInit, Event.payloadGiven]

/-- The encoder takes every message of a known type with the payload its type needs. -/
theorem econnMessageEncode_ok {m : Message} (hty : m.msgType ≠ .invalid)
    (hsu : m.msgType = .setup ∨ m.msgType = .update → m.sdp.isSome ∧ m.props.isSome)
    (hps : m.msgType = .propsync → m.props.isSome) : ∃ o, econnMessageEncode cd m = .ok o := by
  obtain ⟨t, s, b, sdp, p, _, _⟩ := m
  cases t
  case invalid => exact absurd rfl hty
  case cancel | hangup => exact ⟨_, rfl⟩
  case propsync =>
    obtain ⟨q, rfl⟩ := Option.isSome_iff_exists.mp (hps rfl)
    exact ⟨_, rfl⟩
  case setup | update =>
    obtain ⟨hs, hp⟩ := hsu (by simp)
    obtain ⟨v, rfl⟩ := Option.isSome_iff_exists.mp hs
    obtain ⟨q, rfl⟩ := Option.isSome_iff_exists.mp hp
    exact ⟨_, rfl⟩

/-- What a step hands to the transport encodes, and decodes back to its wire fields. -/
theorem Moves.sent_encodes (hm : Moves d c e r c' effs) (he : e.payloadGiven = true)
    (hsess : c.sessidLocal.data.length < cd.sessidSenderSize) {m : Message}
    (hmem : Effect.send m ∈ effs) :
    ∃ o, econnMessageEncode cd m = .ok o ∧ ∀ currTime msgTime,
      econnMessageDecode cd currTime msgTime o = .ok (stamp currTime msgTime (wireFields m)) := by
  obtain ⟨hs, hty⟩ := hm.sent hmem
  obtain ⟨hsu, hps⟩ := hm.sent_payload he hmem
  obtain ⟨o, ho⟩ := econnMessageEncode_ok cd hty hsu hps
  exact ⟨o, ho, fun currTime msgTime => econnMessageDecode_encode_wire cd currTime msgTime m o ho
    (strNcpy_of_length_lt (hs ▸ hsess)) fun h => (hsu h).2⟩

variable (d)

/-- When the application passes an SDP and props with each call that sends them, and the
record's session id fits the `sessid_sender` buffer: every message any step of the record
hands to its transport encodes, and its encoding decodes back to the message's wire
fields. -/
theorem sent_crosses_wire (he : e.payloadGiven = true)
    (hsess : c.sessidLocal.data.length < cd.sessidSenderSize) {m : Message}
    (hm : Effect.send m ∈ (econnStep d c e r).effects) (currTime msgTime : Nat) :
    ∃ o, econnMessageEncode cd m = .ok o ∧
      econnMessageDecode cd currTime msgTime o =
        .ok (stamp currTime msgTime (wireFields m)) := by
  obtain ⟨o, ho, hdec⟩ := (econnStep_moves d c e r).sent_encodes cd he hsess hm
  exact ⟨o, ho, hdec currTime msgTime⟩

/-- The SETUP request alpha sends when it starts a call with an SDP and empty props. -/
def alphaOffer : Message := setupMessage "sA1" false (some "v=0") (some ⟨[]⟩) false

/-- alpha's offer crosses the wire. -/
theorem offer_crosses_wire :
    (econnStep specDeps alpha (.start (some "v=0") (some ⟨[]⟩)) 0).effects =
        [.send alphaOffer] ∧
      ∃ o, econnMessageEncode specCodec alphaOffer = .ok o ∧
        econnMessageDecode specCodec 5 3 o = .ok (stamp 5 3 (wireFields alphaOffer)) := by
  have hs : (econnStep specDeps alpha (.start (some "v=0") (some ⟨[]⟩)) 0).effects =
      [.send alphaOffer] := rfl
  exact ⟨hs, sent_crosses_wire specDeps specCodec (c := alpha)
    (e := .start (some "v=0") (some ⟨[]⟩)) (r := 0) rfl (by decide)
    (hs ▸ List.mem_singleton_self _) 5 3⟩

-- ====================================================== what the peer reads

/-- `econn_recv_message` reads of a message only what the wire carries, and the stamps. -/
theorem econnRecvMessage_wireFields (y : Conn) (u cl : String) (m : Message) (t s : Nat)
    (r : Int) :
    econnRecvMessage d y u cl (stamp t s (wireFields m)) r =
      econnRecvMessage d y u cl (stamp t s m) r := by
  obtain ⟨ty, sess, resp, sdp, props, time, age⟩ := m
  cases ty <;> rfl

theorem stamp_msgType (t s : Nat) (m : Message) : (stamp t s m).msgType = m.msgType := rfl

theorem stamp_sessidSender (t s : Nat) (m : Message) :
    (stamp t s m).sessidSender = m.sessidSender := rfl

theorem stamp_isRequest (t s : Nat) (m : Message) : (stamp t s m).isRequest = m.isRequest := rfl

/-- `handle_setup_request` passes the stamps to the connect handler only. -/
theorem handleSetupRequest_stamp_conn (c : Conn) (u cl : String) (m : Message) (t s : Nat) :
    (handleSetupRequest d c u cl (stamp t s m)).conn = (handleSetupRequest d c u cl m).conn := by
  unfold handleSetupRequest
  split <;> simp only [stamp_sessidSender, apply_ite Res.conn]

/-- The stamps reach the connect handler only: the record `econn_recv_message` leaves does
not depend on them. -/
theorem econnRecvMessage_stamp_conn (y : Conn) (u cl : String) (m : Message) (t s : Nat)
    (r : Int) :
    (econnRecvMessage d y u cl (stamp t s m) r).conn = (econnRecvMessage d y u cl m r).conn := by
  obtain ⟨ty, sess, resp, sdp, props, time, age⟩ := m
  cases ty
  case setup =>
    simp only [econnRecvMessage, recvSetup, stamp_msgType, stamp_isRequest, apply_ite Res.conn,
      handleSetupRequest_stamp_conn, handleSetupResponse, stamp_sessidSender]
  all_goals rfl

/-- The wire is transparent to the protocol. When the application passes an SDP and props
with each call that sends them, and the sender's session id fits the `sessid_sender`
buffer, every message a step sends encodes, and whatever record receives the decoding,
from whatever sender, `econn_recv_message` does with it what it does with the message as
sent, stamped with the receive times; and the record it leaves is the one the message as
sent leaves, which is what the pair model, handing messages over directly, computes. -/
theorem delivered_as_sent (he : e.payloadGiven = true)
    (hsess : c.sessidLocal.data.length < cd.sessidSenderSize) {m : Message}
    (hm : Effect.send m ∈ (econnStep d c e r).effects) (y : Conn) (u cl : String) (r' : Int)
    (currTime msgTime : Nat) :
    ∃ o m', econnMessageEncode cd m = .ok o ∧ econnMessageDecode cd currTime msgTime o = .ok m' ∧
      econnRecvMessage d y u cl m' r' = econnRecvMessage d y u cl (stamp currTime msgTime m) r' ∧
      (econnRecvMessage d y u cl m' r').conn = (econnRecvMessage d y u cl m r').conn := by
  obtain ⟨o, ho, hdec⟩ := (econnStep_moves d c e r).sent_encodes cd he hsess hm
  have hrecv := econnRecvMessage_wireFields d y u cl m currTime msgTime r'
  exact ⟨o, _, ho, hdec currTime msgTime, hrecv,
    (congrArg Res.conn hrecv).trans (econnRecvMessage_stamp_conn d y u cl m currTime msgTime r')⟩

/-- alpha's offer, through the wire, rings at bravo as it does in the pair model. -/
theorem offer_rings_through_wire :
    ∃ o m', econnMessageEncode specCodec alphaOffer = .ok o ∧
      econnMessageDecode specCodec 5 3 o = .ok m' ∧
      econnRecvMessage specDeps bravo "alpha" "c1" m' 0 =
        econnRecvMessage specDeps bravo "alpha" "c1" (stamp 5 3 alphaOffer) 0 ∧
      (econnRecvMessage specDeps bravo "alpha" "c1" m' 0).conn =
        (econnRecvMessage specDeps bravo "alpha" "c1" alphaOffer 0).conn := by
  have hs : (econnStep specDeps alpha (.start (some "v=0") (some ⟨[]⟩)) 0).effects =
      [.send alphaOffer] := rfl
  exact delivered_as_sent specDeps specCodec (c := alpha)
    (e := .start (some "v=0") (some ⟨[]⟩)) (r := 0) rfl (by decide)
    (hs ▸ List.mem_singleton_self _) bravo "alpha" "c1" 0 5 3

end Econn
