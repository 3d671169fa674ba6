/-
The econn wire format (src/src/econn_fmt/msg.c): `econn_message_encode` builds a jzon
object from a message, `econn_message_decode` reads a message back out of one.

# The text layer

jzon turns an object into text and back; it is not under src/. The model works one
level down, at the object: `econnMessageEncode` returns the object the encoder hands to
`jzon_encode`, and `econnMessageDecode` takes the object `jzon_decode` produced. What
jzon does reach into the code is its errors: `jzon_bool` and `jzon_object` fail with an
errno of their own on a missing key or a wrong JSON type, and `jzon_add_str` refuses a
NULL string. Those errnos are the fields of `Codec`, nonzero by construction.

# The decoder, as written

`econnMessageDecode` follows the C control flow, `goto out` included: `out` reports
whatever `err` holds. Two paths reach it with a value the code does not mean:

- a missing `sessid` jumps to `out` with `err` still 0, so the call succeeds and hands
  back the zeroed message;
- an UPDATE without `props` logs "no props" and carries on, but the props error stays
  in `err`, so the call fails.

Both are kept, and Codec.lean states what follows from them.
-/
import Econn.Basic

namespace Econn

/-- What msg.c takes from code that is not under src/: the size of the `sessid_sender`
buffer, and the errnos jzon reports. -/
structure Codec where
  sessidSenderSize : Nat
  /-- `jzon_bool` or `jzon_object` on a key that is not there. -/
  jzonMissing : Int
  /-- `jzon_bool` or `jzon_object` on a value of another JSON type. -/
  jzonWrongType : Int
  /-- `jzon_add_str` given a NULL string. -/
  jzonNullStr : Int
  jzonMissing_ne : jzonMissing ≠ 0
  jzonWrongType_ne : jzonWrongType ≠ 0
  jzonNullStr_ne : jzonNullStr ≠ 0

variable (cd : Codec)

-- ======================================================= jzon accessors

/-- `odict_lookup`: the first entry of a key. -/
def jzonLookup (o : List (String × Json)) (key : String) : Option Json := o.lookup key

/-- `jzon_str`: the string under a key; `NULL` when it is absent or not a string. -/
def jzonStr (o : List (String × Json)) (key : String) : Option String :=
  match jzonLookup o key with
  | some (.str s) => some s
  | _ => none

/-- `jzon_bool`. -/
def jzonBool (o : List (String × Json)) (key : String) : Except Int Bool :=
  match jzonLookup o key with
  | some (.bool b) => .ok b
  | some _ => .error cd.jzonWrongType
  | none => .error cd.jzonMissing

/-- `jzon_object`. -/
def jzonObject (o : List (String × Json)) (key : String) :
    Except Int (List (String × Json)) :=
  match jzonLookup o key with
  | some (.obj d) => .ok d
  | some _ => .error cd.jzonWrongType
  | none => .error cd.jzonMissing

-- ================================================================ encoder

/-- `econn_proto_version`. -/
def econnProtoVersion : String := "3.0"

/-- Modelled from the spec: `econn_msg_name` (not under src/) gives the wire name of a
type, `"setup"` … `"propsync"`. -/
def econnMsgName : MsgType → String
  | .setup => "setup"
  | .update => "update"
  | .cancel => "cancel"
  | .hangup => "hangup"
  | .propsync => "propsync"
  | .invalid => "???"

/-- `econn_props_encode`: the dictionary becomes the object entry `"props"`. -/
def econnPropsEncode (o : List (String × Json)) (props : Props) : List (String × Json) :=
  o ++ [("props", .obj props.dict)]

/-- The object `jzon_creatf` and `jzon_add_bool` build first: version, type name,
session id and the response flag. -/
def msgHeader (m : Message) : List (String × Json) :=
  [("version", .str econnProtoVersion), ("type", .str (econnMsgName m.msgType)),
    ("sessid", .str m.sessidSender), ("resp", .bool m.resp)]

/-- `econn_message_encode`, up to the object handed to `jzon_encode`. -/
def econnMessageEncode (m : Message) : Except Int (List (String × Json)) :=
  let o := msgHeader m
  match m.msgType with
  | .setup | .update =>
    match m.sdp with
    | none => .error cd.jzonNullStr
    | some sdp =>
      let o := o ++ [("sdp", .str sdp)]
      -- props is optional for SETUP
      match m.props with
      | some p => .ok (econnPropsEncode o p)
      | none => .ok o
  | .cancel | .hangup => .ok o
  | .propsync =>
    -- props is mandatory for PROPSYNC
    match m.props with
    | some p => .ok (econnPropsEncode o p)
    | none => .error EINVAL
  | .invalid => .error EBADMSG

-- ================================================================ decoder

/-- `econn_props_decode`: the `"props"` object, wrapped by `econn_props_alloc`. -/
def econnPropsDecode (o : List (String × Json)) : Except Int Props :=
  match jzonObject cd o "props" with
  | .ok d => .ok ⟨d⟩
  | .error e => .error e

/-- Modelled from the spec: `econn_message_alloc` (not under src/) returns a zeroed
message. -/
def econnMessageAlloc : Message := messageInit .invalid ""

/-- The stamps `econn_message_decode` sets last: `time = msg_time`, and the age, which
is 0 for a message from the future. -/
def stamp (currTime msgTime : Nat) (m : Message) : Message :=
  { m with time := msgTime, age := if msgTime > currTime then 0 else currTime - msgTime }

/-- The tail of `econn_message_decode`: the `str_casecmp` chain on the type name, which
reads the payload of the named type into `msg` and stamps it. -/
def decodePayload (currTime msgTime : Nat) (type : String) (msg : Message)
    (o : List (String × Json)) : Except Int Message :=
  if strCaseEq type "setup" then
    match jzonStr o "sdp" with
    | none => .error EBADMSG
    | some sdp =>
      match econnPropsDecode cd o with
      | .error e => .error e
      | .ok p => .ok (stamp currTime msgTime
          { msg with msgType := .setup, sdp := some sdp, props := some p })
  else if strCaseEq type "update" then
    match jzonStr o "sdp" with
    | none => .error EBADMSG
    | some sdp =>
      match econnPropsDecode cd o with
      -- "decode UPDATE: no props" is only logged; `err` keeps the props error
      | .error e => .error e
      | .ok p => .ok (stamp currTime msgTime
          { msg with msgType := .update, sdp := some sdp, props := some p })
  else if strCaseEq type "cancel" then .ok (stamp currTime msgTime { msg with msgType := .cancel })
  else if strCaseEq type "hangup" then .ok (stamp currTime msgTime { msg with msgType := .hangup })
  else if strCaseEq type "propsync" then
    match econnPropsDecode cd o with
    | .error e => .error e
    | .ok p => .ok (stamp currTime msgTime { msg with msgType := .propsync, props := some p })
  else .error EBADMSG

/-- `econn_message_decode`, from the object `jzon_decode` produced. Each `.error` is a
`goto out` with that `err`; the `.ok econnMessageAlloc` is the jump on a missing
`sessid`, taken while `err` is still 0. -/
def econnMessageDecode (currTime msgTime : Nat) (o : List (String × Json)) :
    Except Int Message :=
  match jzonStr o "version" with
  | none => .error EBADMSG
  | some ver =>
  if !strCaseEq econnProtoVersion ver then .error EPROTO else
  match jzonStr o "type" with
  | none => .error EBADMSG
  | some type =>
  match jzonStr o "sessid" with
  | none => .ok econnMessageAlloc
  | some sessid =>
  let msg := { econnMessageAlloc with sessidSender := strNcpy cd.sessidSenderSize sessid }
  match jzonBool cd o "resp" with
  | .error e => .error e
  | .ok resp => decodePayload cd currTime msgTime type { msg with resp := resp } o

end Econn
