/-
The data model shared by econn (src/src/econn/econn.c) and its wire format
(src/src/econn_fmt/msg.c): the errno values the two files return, the connection
states, the message record, and the libre C-string helpers every identity check of
econn goes through.

# What is transcribed, and what is taken as given

The headers that declare `struct econn`, `struct econn_message` and `enum econn_msg`
are not under src/. The enums are transcribed from the names the two files use; the
sizes of the fixed `char` arrays that `str_ncpy` fills are left as parameters
(`Deps` in Conn.lean, `Codec` in Fmt.lean) rather than guessed.

C strings are Lean `String`s read through their character list, one `Char` for each byte
of the C string, so a length such as `s.data.length < size` counts bytes and compares
with the size of a `char` array.
`str_casecmp` is equality after ASCII `tolower`, `str_ncpy(dst, src, n)` keeps the first
`n - 1` bytes, `str_isset` is non-emptiness. Everything here computes, so a concrete
record or message can be run through the model by `decide` or `rfl`.
-/
import Mathlib.Tactic.Tauto
import Mathlib.Tactic.CasesM
import Mathlib.Tactic.Convert
import Mathlib.Tactic.Use
import Mathlib.Data.List.Lex
import Mathlib.Data.Char

namespace Econn

-- ============================================================ errno values

/-- `EINVAL`, as the Linux headers number it. -/
def EINVAL : Int := 22

/-- `ENOMEM`. -/
def ENOMEM : Int := 12

/-- `EPROTO`. -/
def EPROTO : Int := 71

/-- `EBADMSG`. -/
def EBADMSG : Int := 74

/-- `ENOTSUP`: what `transp_send` returns when no send handler is bound. -/
def ENOTSUP : Int := 95

/-- `ETIMEDOUT`: the error `tmr_local_handler` closes with. -/
def ETIMEDOUT : Int := 110

/-- `ECANCELED`: the error a received CANCEL closes with. -/
def ECANCELED : Int := 125

-- ================================================================= enums

/-- `enum econn_state`, in the order econn.c lists its cases. -/
inductive State where
  | idle
  | pendingOutgoing
  | pendingIncoming
  | conflictResolution
  | answered
  | datachanEstablished
  | updateSent
  | updateRecv
  | hangupSent
  | hangupRecv
  | terminating
  deriving DecidableEq, Repr

/-- `enum econn_dir`. -/
inductive Dir where
  | unknown
  | incoming
  | outgoing
  deriving DecidableEq, Repr

/-- `enum econn_msg`: the five members econn sends and receives. `invalid` stands for
every other value of the enum, the zero of a freshly allocated message among them. -/
inductive MsgType where
  | setup
  | update
  | cancel
  | hangup
  | propsync
  | invalid
  deriving DecidableEq, Repr

-- ============================================================ JSON values

/-- A JSON value as jzon holds it in an `odict`: an object keeps its entries in order,
and a lookup takes the first entry of a key. -/
inductive Json where
  | null
  | bool (b : Bool)
  | num (n : Int)
  | str (s : String)
  | arr (a : List Json)
  | obj (o : List (String × Json))

/-- `struct econn_props`: the dictionary it wraps. -/
structure Props where
  dict : List (String × Json)

-- =============================================================== messages

/-- `struct econn_message`. The union `u` is flattened to what it carries:
`u.setup.sdp_msg`, and the props pointer of `u.setup` or of `u.propsync`. `time` and
`age` are the `uint64_t` stamps the decoder sets. -/
structure Message where
  msgType : MsgType
  sessidSender : String
  resp : Bool
  sdp : Option String
  props : Option Props
  time : Nat
  age : Nat

/-- `econn_message_isrequest`: a message is a request when it is not a response. -/
def Message.isRequest (m : Message) : Bool := !m.resp

/-- Modelled from the spec: `econn_message_init` (not under src/) clears a message and
gives it a type and the sender's session id. -/
def messageInit (t : MsgType) (sessid : String) : Message :=
  { msgType := t, sessidSender := sessid, resp := false, sdp := none, props := none,
    time := 0, age := 0 }

-- ========================================================== C strings

/-- libre `str_isset`: a non-empty string. -/
def strIsset (s : String) : Bool := !s.data.isEmpty

/-- libre `str_casecmp(a, b) == 0`: the two strings agree up to ASCII case. -/
def strCaseEq (a b : String) : Bool :=
  a.data.map Char.toLower == b.data.map Char.toLower

/-- libre `str_ncpy(dst, src, size)`: what lands in a `char[size]` buffer, the first
`size - 1` bytes of `src`. -/
def strNcpy (size : Nat) (src : String) : String := ⟨src.data.take (size - 1)⟩

@[simp] theorem strIsset_empty : strIsset "" = false := rfl

theorem strIsset_iff (s : String) : strIsset s = true ↔ s.data ≠ [] := by
  simp [strIsset, List.isEmpty_iff]

theorem strCaseEq_refl (s : String) : strCaseEq s s = true := by
  simp [strCaseEq]

theorem strCaseEq_comm (a b : String) : strCaseEq a b = strCaseEq b a :=
  Bool.beq_comm

/-- Case folding keeps the length, so strings of different lengths never agree. -/
theorem length_eq_of_strCaseEq {a b : String} (h : strCaseEq a b = true) :
    a.data.length = b.data.length := by
  simpa using congrArg List.length (beq_iff_eq.mp h)

/-- A copy into a buffer with room for the whole string is the string itself. -/
theorem strNcpy_of_length_lt {size : Nat} {s : String} (h : s.data.length < size) :
    strNcpy size s = s := by
  simp [strNcpy, List.take_of_length_le (by omega : s.data.length ≤ size - 1)]

/-- A string agrees with its copy exactly when the buffer has room for all of it. -/
theorem strCaseEq_strNcpy_iff {size : Nat} (hsize : 1 ≤ size) (s : String) :
    strCaseEq (strNcpy size s) s = true ↔ s.data.length < size := by
  refine ⟨fun h => ?_, fun h => by rw [strNcpy_of_length_lt h]; exact strCaseEq_refl s⟩
  have := length_eq_of_strCaseEq h
  simp only [strNcpy, List.length_take] at this
  omega

/-- A buffer of at least two bytes keeps a non-empty string non-empty. -/
theorem strIsset_strNcpy {size : Nat} (hsize : 2 ≤ size) {s : String}
    (h : strIsset s = true) : strIsset (strNcpy size s) = true := by
  obtain ⟨l⟩ := s
  cases l with
  | nil => simp [strIsset] at h
  | cons c l => simp [strIsset, strNcpy, show size - 1 = (size - 2) + 1 by omega]

end Econn
