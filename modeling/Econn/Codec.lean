/-
What the wire format guarantees, and where it does not: the encoder and the decoder of
Fmt.lean against each other.

# The round trip

`econnMessageDecode_encode`: for every message the decoder is able to read back — a
SETUP or UPDATE that carries its props, a CANCEL, a HANGUP, a PROPSYNC — decoding the
encoder's object returns the message's wire fields (`wireFields`), stamped with the
decode times. The session id must fit the `sessid_sender` buffer, which `str_ncpy`
otherwise truncates.

# Where it breaks

The encoder treats props as optional for SETUP and UPDATE ("props is optional for
SETUP"); the decoder requires them for SETUP (`goto out` on the props error) and, by
the leaked `err`, for UPDATE too. `econnMessageDecode_encode_without_props` is the
failing round trip. `econnMessageDecode_without_sessid` is the other slip: an object
with a good version and any type string but no `sessid` decodes with result 0.
-/
import Econn.Fmt

namespace Econn

variable (cd : Codec)

-- ========================================================= wire fields

/-- The fields the wire carries for a message's type: SDP and props for SETUP and UPDATE,
props for PROPSYNC, only the header for CANCEL and HANGUP. -/
def wireFields (m : Message) : Message :=
  let hdr := { econnMessageAlloc with
    msgType := m.msgType, sessidSender := m.sessidSender, resp := m.resp }
  match m.msgType with
  | .setup | .update => { hdr with sdp := m.sdp, props := m.props }
  | .propsync => { hdr with props := m.props }
  | _ => hdr

-- ============================================================ round trip

/-- The decoder reads the header back: version accepted, then the type name, session id
and response flag go to the payload step. -/
theorem econnMessageDecode_msgHeader (currTime msgTime : Nat) (m : Message)
    (rest : List (String × Json)) :
    econnMessageDecode cd currTime msgTime (msgHeader m ++ rest) =
      decodePayload cd currTime msgTime (econnMsgName m.msgType)
        { econnMessageAlloc with
          sessidSender := strNcpy cd.sessidSenderSize m.sessidSender, resp := m.resp }
        (msgHeader m ++ rest) := by
  simp [econnMessageDecode, msgHeader, jzonStr, jzonBool, jzonLookup, List.lookup_cons,
    econnProtoVersion, strCaseEq]

/-- `str_ncpy` into the same buffer leaves a copy as it is. -/
theorem strNcpy_strNcpy (size : Nat) (s : String) :
    strNcpy size (strNcpy size s) = strNcpy size s := by
  simp [strNcpy, List.take_take]

/-- Encode then decode gives back the wire fields, for every message the decoder can read
whose session id the `sessid_sender` buffer holds as it is. -/
theorem econnMessageDecode_encode_wire (currTime msgTime : Nat) (m : Message)
    (o : List (String × Json)) (henc : econnMessageEncode cd m = .ok o)
    (hsess : strNcpy cd.sessidSenderSize m.sessidSender = m.sessidSender)
    (hprops : m.msgType = .setup ∨ m.msgType = .update → m.props.isSome) :
    econnMessageDecode cd currTime msgTime o = .ok (stamp currTime msgTime (wireFields m)) := by
  obtain ⟨t, s, b, sdp, p, _, _⟩ := m
  cases t <;> cases sdp <;> cases p <;>
    simp only [econnMessageEncode, econnPropsEncode, Except.ok.injEq, reduceCtorEq,
      Option.isSome_none, Bool.false_eq_true, or_true, true_or, imp_false, not_true_eq_false]
      at henc hprops <;> subst henc <;>
    (first
      | rw [List.append_assoc, econnMessageDecode_msgHeader]
      | rw [econnMessageDecode_msgHeader]
      | rw [← List.append_nil (msgHeader _), econnMessageDecode_msgHeader]) <;>
    simp [decodePayload, econnMsgName, strCaseEq, jzonStr, econnPropsDecode, jzonObject,
      jzonLookup, msgHeader, List.lookup_cons, hsess, wireFields, econnMessageAlloc, messageInit]

/-- Encode then decode gives back the wire fields, for every message the decoder can
read: a SETUP or UPDATE with its SDP and props, CANCEL, HANGUP, PROPSYNC with props. -/
theorem econnMessageDecode_encode (currTime msgTime : Nat) (m : Message)
    (o : List (String × Json)) (henc : econnMessageEncode cd m = .ok o)
    (hsess : m.sessidSender.data.length < cd.sessidSenderSize)
    (hprops : m.msgType = .setup ∨ m.msgType = .update → m.props.isSome) :
    econnMessageDecode cd currTime msgTime o = .ok (stamp currTime msgTime (wireFields m)) :=
  econnMessageDecode_encode_wire cd currTime msgTime m o henc (strNcpy_of_length_lt hsess) hprops

/-- A codec to run on: a `sessid_sender` buffer of 64 bytes and, for jzon's three
failures, ENOENT (2), EPROTO and EINVAL. -/
def specCodec : Codec := ⟨64, 2, EPROTO, EINVAL, by decide, by decide, by decide⟩

/-- alpha's offer with empty props comes back from its encoding. -/
theorem decode_encode_offer :
    let m : Message := { messageInit .setup "sA1" with sdp := some "v=0", props := some ⟨[]⟩ }
    econnMessageDecode specCodec 5 3
        (econnPropsEncode (msgHeader m ++ [("sdp", .str "v=0")]) ⟨[]⟩) =
      .ok (stamp 5 3 (wireFields m)) :=
  econnMessageDecode_encode specCodec 5 3 _ _ rfl (by decide) (fun _ => rfl)

-- ================================================ forwarding what was read

/-- What `decodePayload` hands back from a header the decoder read: the encoder takes it,
its session id is a copy the buffer holds as it is, a SETUP or UPDATE has its props, and
it carries only its wire fields. -/
theorem decodePayload_ok {currTime msgTime : Nat} {type sessid : String} {resp : Bool}
    {o : List (String × Json)} {m : Message}
    (h : decodePayload cd currTime msgTime type { econnMessageAlloc with
      sessidSender := strNcpy cd.sessidSenderSize sessid, resp := resp } o = .ok m) :
    (∃ o', econnMessageEncode cd m = .ok o') ∧
      strNcpy cd.sessidSenderSize m.sessidSender = m.sessidSender ∧
      (m.msgType = .setup ∨ m.msgType = .update → m.props.isSome) ∧
      ∀ t s, stamp t s (wireFields m) = stamp t s m := by
  unfold decodePayload at h
  repeat' split at h
  all_goals cases h
  all_goals exact ⟨⟨_, rfl⟩, strNcpy_strNcpy _ _, by simp [stamp], fun _ _ => rfl⟩

/-- What the decoder hands back with a known type: the encoder takes it, its session id is
a copy the buffer holds as it is, a SETUP or UPDATE has its props, and it carries only
its wire fields. The zeroed message of a missing `sessid` is the one of unknown type. -/
theorem econnMessageDecode_ok {currTime msgTime : Nat} {o : List (String × Json)} {m : Message}
    (h : econnMessageDecode cd currTime msgTime o = .ok m) (hty : m.msgType ≠ .invalid) :
    (∃ o', econnMessageEncode cd m = .ok o') ∧
      strNcpy cd.sessidSenderSize m.sessidSender = m.sessidSender ∧
      (m.msgType = .setup ∨ m.msgType = .update → m.props.isSome) ∧
      ∀ t s, stamp t s (wireFields m) = stamp t s m := by
  unfold econnMessageDecode at h
  repeat' split at h
  all_goals first
    | exact decodePayload_ok cd h
    | cases h <;> exact absurd rfl hty

/-- Every message the decoder accepts with a known type can be passed on: it encodes, and
its encoding decodes to the same message, stamped with the new decode times. -/
theorem econnMessageDecode_forward (t1 s1 t2 s2 : Nat) (o : List (String × Json)) (m : Message)
    (hdec : econnMessageDecode cd t1 s1 o = .ok m) (hty : m.msgType ≠ .invalid) :
    ∃ o', econnMessageEncode cd m = .ok o' ∧
      econnMessageDecode cd t2 s2 o' = .ok (stamp t2 s2 m) := by
  obtain ⟨⟨o', henc⟩, hsess, hprops, hwire⟩ := econnMessageDecode_ok cd hdec hty
  exact ⟨o', henc,
    by rw [econnMessageDecode_encode_wire cd t2 s2 m o' henc hsess hprops, hwire]⟩

/-- A CANCEL whose type name is in capitals is read, and passed on with the name the
encoder writes. -/
theorem forward_cancel :
    let o : List (String × Json) := [("version", .str "3.0"), ("type", .str "CANCEL"),
      ("sessid", .str "sB2"), ("resp", .bool false)]
    let m := stamp 5 3 { econnMessageAlloc with msgType := .cancel, sessidSender := "sB2" }
    econnMessageDecode specCodec 5 3 o = .ok m ∧
      ∃ o', econnMessageEncode specCodec m = .ok o' ∧
        econnMessageDecode specCodec 7 4 o' = .ok (stamp 7 4 m) :=
  ⟨rfl, econnMessageDecode_forward specCodec 5 3 7 4 [("version", .str "3.0"),
    ("type", .str "CANCEL"), ("sessid", .str "sB2"), ("resp", .bool false)] _ rfl (by decide)⟩

-- ========================================================= the two slips

/-- A SETUP or UPDATE without props encodes, and its encoding does not decode: the
decoder asks `jzon_object` for `"props"` and returns its error. -/
theorem econnMessageDecode_encode_without_props (currTime msgTime : Nat) (isSetup : Bool)
    (sessid sdp : String) (resp : Bool) (time age : Nat) :
    let m : Message :=
      ⟨if isSetup then .setup else .update, sessid, resp, some sdp, none, time, age⟩
    ∃ o, econnMessageEncode cd m = .ok o ∧
      econnMessageDecode cd currTime msgTime o = .error cd.jzonMissing := by
  cases isSetup <;> refine ⟨_, rfl, ?_⟩ <;> rw [econnMessageDecode_msgHeader] <;>
    simp [decodePayload, econnMsgName, strCaseEq, jzonStr, econnPropsDecode, jzonObject,
      jzonLookup, msgHeader, List.lookup_cons]

/-- An object with the right version and any `type` string, but no `sessid`, decodes
with result 0: the zeroed message comes back, though `sessid`, `resp` and the payload
are missing and the type may be unknown. -/
theorem econnMessageDecode_without_sessid (currTime msgTime : Nat) (type : String) :
    econnMessageDecode cd currTime msgTime
      [("version", .str "3.0"), ("type", .str type)] = .ok econnMessageAlloc := by
  simp [econnMessageDecode, jzonStr, jzonLookup, List.lookup_cons, econnProtoVersion, strCaseEq]

end Econn
