/-
The checks `econn_recv_message` makes before a message may act (src/src/econn/econn.c):
the peer's client id, the peer's session id, and the state. Each is a single call, so
everything here holds of every record, reachable or not.

# Foreign messages

Not every handler checks both ids. `recv_setup` checks only the client id, and adopts
the sender's when none is bound yet; `recv_hangup` checks only the session id.
`econnRecvMessage_foreign` is what the checks do guarantee: a client id other than the
bound one stops everything but a HANGUP, a session id other than the bound one stops
everything but a SETUP. `foreign_hangup_closes` is the HANGUP from another client that
closes an established call.

# Messages in the wrong state

A handler that drops a message for the state changes nothing, with one exception:
`recv_setup` has adopted the sender's client id before the handler looks at the state,
so a SETUP in the wrong state still binds an unbound record
(`econnRecvMessage_wrong_state`, `stray_setup_response_binds`).

# The adopted peer

Once `recv_setup` has bound `clientid_remote` from a sender, no path writes it again,
whatever the run does next. What it holds is the sender's id as `str_ncpy` copied it into
the buffer, and every later check compares that copy with the id a message names. So the
peer passes the client id checks for the rest of the run exactly when its id fits the
buffer. `sessid_remote` is written by every SETUP that its handler acts on and by no other
step (`econnStep_setup_writes`, `Moves.sessidRemote_kept`); over a run with no such step
after the one that last wrote it (`AfterNoSetup`), a message carrying the session id that
step copied passes the session checks exactly when that id fits its buffer, and is
dropped otherwise (`adopted_peer_checks`). A longer id is cut, and the peer that was
adopted is refused from then on (`long_clientid_refused`).

# The binding past the SETUP exchange

Only the SETUP handlers write `sessid_remote`, and they act in IDLE, PENDING_OUTGOING and
CONFLICT_RESOLUTION only; no path leads from ANSWERED or a later state back to those. So
once a record is past the exchange, its session binding is fixed for the rest of every
run, whatever arrives from whomever (`binding_fixed_after_setup`): a third party's SETUP
cannot move an answered call to another session.
-/
import Econn.Run

namespace Econn

variable {d : Deps}

-- ====================================================== foreign messages

/-- A message from outside the bound session leaves the record as it was and does
nothing outside it: one whose client id differs from a bound `clientid_remote`, unless
it is a HANGUP, or whose session id differs from `sessid_remote`, unless it is a
SETUP. -/
theorem econnRecvMessage_foreign (c : Conn) (useridSender clientidSender : String)
    (msg : Message) (r : Int)
    (h : strIsset c.clientidRemote = true ∧ strCaseEq c.clientidRemote clientidSender = false ∧
        msg.msgType ≠ .hangup ∨
      strCaseEq c.sessidRemote msg.sessidSender = false ∧ msg.msgType ≠ .setup) :
    (econnRecvMessage d c useridSender clientidSender msg r).conn = c ∧
      (econnRecvMessage d c useridSender clientidSender msg r).effects = [] := by
  have hm := econnRecvMessage_moves c r useridSender clientidSender msg (d := d)
  generalize (econnRecvMessage d c useridSender clientidSender msg r).conn = c' at hm ⊢
  generalize (econnRecvMessage d c useridSender clientidSender msg r).effects = effs at hm ⊢
  have hcomm := strCaseEq_comm clientidSender c.clientidRemote
  cases hm <;> simp_all [setupPasses]

/-- An established call (alpha, after calling bravo on client "c2" with session "sB2")
receives a HANGUP from another client, "c3", that carries the session id: it closes. -/
theorem foreign_hangup_closes :
    let c := (econnStep specDeps (econnStep specDeps
      (econnStep specDeps alpha (.start (some "v=0") none) 0).conn
      (.recvMessage "bravo" "c2" { messageInit .setup "sB2" with resp := true, sdp := some "v=1" })
      0).conn .setDatachanEstablished 0).conn
    let res := econnRecvMessage specDeps c "bravo" "c3" (messageInit .hangup "sB2") 0
    Reachable specDeps c ∧ c.state = .datachanEstablished ∧ strIsset c.clientidRemote = true ∧
      strCaseEq c.clientidRemote "c3" = false ∧ res.conn.state = .terminating ∧
      res.conn.closed = true :=
  ⟨((Run.alloc alpha_alloc).step _ _ rfl |>.step _ _ rfl |>.step _ _ rfl), by decide,
    by decide, by decide, by decide, by decide⟩

/-- The same call drops an UPDATE from client "c3": nothing changes. -/
theorem foreign_update_dropped :
    let c := (econnStep specDeps (econnStep specDeps
      (econnStep specDeps alpha (.start (some "v=0") none) 0).conn
      (.recvMessage "bravo" "c2" { messageInit .setup "sB2" with resp := true, sdp := some "v=1" })
      0).conn .setDatachanEstablished 0).conn
    (econnRecvMessage specDeps c "bravo" "c3" (messageInit .update "sB2") 0).conn = c ∧
      (econnRecvMessage specDeps c "bravo" "c3" (messageInit .update "sB2") 0).effects = [] :=
  econnRecvMessage_foreign _ _ _ _ _ (.inl ⟨by decide, by decide, by decide⟩)

-- ================================================= messages in the wrong state

theorem handleSetupRequest_drop (c : Conn) (useridSender clientidSender : String)
    (msg : Message) (h : c.state ≠ .idle ∧ c.state ≠ .pendingOutgoing) :
    handleSetupRequest d c useridSender clientidSender msg = ⟨c, [], 0⟩ := by
  cases hs : c.state <;> simp_all [handleSetupRequest]

theorem handleUpdateRequest_drop (c : Conn) (useridSender clientidSender : String)
    (msg : Message)
    (h : c.state ≠ .answered ∧ c.state ≠ .datachanEstablished ∧ c.state ≠ .updateSent) :
    handleUpdateRequest d c useridSender clientidSender msg = ⟨c, [], 0⟩ := by
  cases hs : c.state <;> simp_all [handleUpdateRequest]

/-- A message whose handler does not act in the record's state changes nothing but, for
a SETUP, the client id `recv_setup` adopted before dispatching; it sends nothing and
calls no callback. -/
theorem econnRecvMessage_wrong_state (c : Conn) (useridSender clientidSender : String)
    (msg : Message) (r : Int) (hst : handles c.state msg = false) :
    (econnRecvMessage d c useridSender clientidSender msg r).conn =
        { c with
          clientidRemote := if msg.msgType = .setup then adoptClientid d c clientidSender
            else c.clientidRemote } ∧
      (econnRecvMessage d c useridSender clientidSender msg r).effects = [] := by
  cases hty : msg.msgType <;> cases hreq : msg.resp <;>
    simp only [handles, hty, hreq, decide_eq_false_iff_not, not_or] at hst <;>
    simp only [econnRecvMessage, hty, reduceCtorEq, if_true, if_false]
  case setup.false | setup.true =>
    by_cases hp : setupPasses c clientidSender = true
    · simp [recvSetup_eq c useridSender clientidSender msg hp, Message.isRequest, hreq,
        handleSetupRequest_drop, handleSetupResponse, hst]
    · have : strIsset c.clientidRemote = true ∧
          strCaseEq c.clientidRemote clientidSender = false := by
        simpa [setupPasses] using hp
      simp [recvSetup, adoptClientid, this]
  case update.false =>
    simp [recvUpdate, Message.isRequest, hreq, handleUpdateRequest_drop, hst]
  case update.true =>
    simp [recvUpdate, Message.isRequest, hreq, handleUpdateResponse, hst]
  case cancel.false | cancel.true => simp [recvCancel, hst]
  case hangup.false | hangup.true => simp [recvHangup, hst]
  all_goals simp

/-- A SETUP response reaches alpha's fresh record, which is IDLE and expects none: the
handler drops it, but `clientid_remote` now holds the stray sender's id. -/
theorem stray_setup_response_binds :
    let msg : Message := { messageInit .setup "sB2" with resp := true, sdp := some "v=1" }
    let res := econnRecvMessage specDeps alpha "bravo" "c2" msg 0
    Reachable specDeps alpha ∧ handles alpha.state msg = false ∧ alpha.clientidRemote = "" ∧
      res.conn.clientidRemote = "c2" :=
  ⟨Run.alloc alpha_alloc, by decide, rfl, by decide⟩

/-- The stray SETUP response at alpha's fresh record: only the adopted client id
changes. -/
theorem stray_setup_response_adopts :
    let msg : Message := { messageInit .setup "sB2" with resp := true, sdp := some "v=1" }
    (econnRecvMessage specDeps alpha "bravo" "c2" msg 0).conn =
        { alpha with
          clientidRemote := if msg.msgType = .setup then adoptClientid specDeps alpha "c2"
            else alpha.clientidRemote } ∧
      (econnRecvMessage specDeps alpha "bravo" "c2" msg 0).effects = [] :=
  econnRecvMessage_wrong_state _ _ _ _ _ (by decide)

-- ======================================================= the adopted peer

/-- The records a run reaches from `c`: any events, each send answered with anything. -/
inductive After (d : Deps) (c : Conn) : Conn → Prop
  | refl : After d c c
  | step {c' : Conn} (e : Event) (r : Int) (h : After d c c') : After d c (econnStep d c' e r).conn

section Adopted

variable {c c' : Conn} {e : Event} {r : Int} {effs : List Effect}

/-- No path writes a `clientid_remote` that is set: `recv_setup` adopts only into an
empty one. -/
theorem Moves.clientidRemote_kept (hm : Moves d c e r c' effs)
    (h : strIsset c.clientidRemote = true) : c'.clientidRemote = c.clientidRemote := by
  cases hm <;> simp_all [adoptClientid, closedConn]

theorem After.clientidRemote (h : After d c c') (hb : strIsset c.clientidRemote = true) :
    c'.clientidRemote = c.clientidRemote := by
  induction h with
  | refl => rfl
  | step e r _ ih => rw [(econnStep_moves d _ e r).clientidRemote_kept (ih ▸ hb), ih]

theorem handleSetupRequest_clientidRemote (u cl : String) (msg : Message) :
    (handleSetupRequest d c u cl msg).conn.clientidRemote = c.clientidRemote := by
  unfold handleSetupRequest
  split
  case h_2 => by_cases hw : d.iswinner c.useridSelf c.clientid u cl <;> simp [hw]
  all_goals rfl

theorem handleSetupResponse_clientidRemote (msg : Message) :
    (handleSetupResponse d c msg).conn.clientidRemote = c.clientidRemote := by
  unfold handleSetupResponse
  split <;> rfl

/-- A SETUP at a record with no client id bound binds the sender's, as the buffer holds
it, whichever handler it reaches. -/
theorem econnStep_setup_binds (u cl : String) {msg : Message}
    (hunset : strIsset c.clientidRemote = false) (hty : msg.msgType = .setup) :
    (econnStep d c (.recvMessage u cl msg) r).conn.clientidRemote =
      strNcpy d.clientidRemoteSize cl := by
  have hp : setupPasses c cl = true := by simp [setupPasses, hunset]
  simp only [econnStep, econnRecvMessage, hty, recvSetup_eq c u cl msg hp]
  split <;> simp [handleSetupRequest_clientidRemote, handleSetupResponse_clientidRemote,
    adoptClientid, hunset]

/-- The events that reach a SETUP handler in a state where it acts: a SETUP that gets
past `recv_setup`'s client id check, in a state its handler takes. These are the steps
that write `sessid_remote`. -/
def Event.setupActs (c : Conn) : Event → Bool
  | .recvMessage _ clientidSender msg =>
    msg.msgType = .setup && setupPasses c clientidSender && handles c.state msg
  | _ => false

/-- The records a run reaches from `c` through events none of which is a SETUP its
handler acts on. -/
inductive AfterNoSetup (d : Deps) (c : Conn) : Conn → Prop
  | refl : AfterNoSetup d c c
  | step {c' : Conn} (e : Event) (r : Int) (h : AfterNoSetup d c c')
      (hq : e.setupActs c' = false) : AfterNoSetup d c (econnStep d c' e r).conn

/-- Every SETUP its handler acts on copies the sender's session id into
`sessid_remote`: `handle_setup_request` in IDLE and PENDING_OUTGOING, winner or loser,
and `handle_setup_response`. -/
theorem econnStep_setup_writes (u cl : String) {msg : Message}
    (h : (Event.recvMessage u cl msg).setupActs c = true) :
    (econnStep d c (.recvMessage u cl msg) r).conn.sessidRemote =
      strNcpy d.sessidRemoteSize msg.sessidSender := by
  simp only [Event.setupActs, Bool.and_eq_true, decide_eq_true_eq] at h
  obtain ⟨⟨hty, hp⟩, hst⟩ := h
  simp only [econnStep, econnRecvMessage, hty, recvSetup_eq c u cl msg hp]
  cases hreq : msg.resp <;> simp only [handles, hty, hreq, decide_eq_true_eq] at hst
  case false =>
    rcases hst with hst | hst
    · simp [Message.isRequest, hreq, handleSetupRequest, hst]
    · by_cases hw : d.iswinner c.useridSelf c.clientid u cl <;>
        simp [Message.isRequest, hreq, handleSetupRequest, hst, hw]
  case true =>
    rcases hst with hst | hst <;> simp [Message.isRequest, hreq, handleSetupResponse, hst]

/-- No other path writes `sessid_remote`. -/
theorem Moves.sessidRemote_kept (hm : Moves d c e r c' effs) (h : e.setupActs c = false) :
    c'.sessidRemote = c.sessidRemote := by
  cases hm
  case incoming | glareWin | glareLose => simp_all [Event.setupActs, handles]
  case setupAnswered => casesm _ ∨ _ <;> simp_all [Event.setupActs, handles]
  all_goals rfl

theorem AfterNoSetup.sessidRemote (h : AfterNoSetup d c c') :
    c'.sessidRemote = c.sessidRemote := by
  induction h with
  | refl => rfl
  | step e r _ hq ih => rw [(econnStep_moves d _ e r).sessidRemote_kept hq, ih]

/-- A record whose `sessid_remote` does not match a message's session id drops the
message in `recv_update`, `recv_cancel` and `recv_hangup`, whatever else it carries. -/
theorem recv_sessid_drop {msg : Message} (u cl : String) (r : Int)
    (h : strCaseEq c.sessidRemote msg.sessidSender = false) :
    recvUpdate d c u cl msg = ⟨c, [], 0⟩ ∧ recvCancel c cl msg r = ⟨c, [], 0⟩ ∧
      recvHangup c msg r = ⟨c, [], 0⟩ := by
  simp [recvUpdate, recvCancel, recvHangup, h]

/-- Once `recv_setup` has bound `clientid_remote` from the non-empty client id `cl`, every
later record holds the same copy of `cl`; the client id checks of `recv_setup`,
`handle_update_request`, `handle_update_response` and `recv_cancel` pass for `cl`
exactly when `cl` fits the buffer. Whenever the step that last wrote `sessid_remote` was
a SETUP carrying the session id `s`, every later record holds the copy of `s`, and the
session check of `recv_update`, `recv_cancel` and `recv_hangup` passes for a message
carrying `s` exactly when `s` fits its buffer; otherwise all three drop the message. -/
theorem adopted_peer_checks {u cl : String} {msg : Message}
    (hunset : strIsset c.clientidRemote = false) (hcl : strIsset cl = true)
    (hty : msg.msgType = .setup)
    (hlater : After d (econnStep d c (.recvMessage u cl msg) r).conn c') :
    (c'.clientidRemote = strNcpy d.clientidRemoteSize cl ∧
      (setupPasses c' cl = true ↔ cl.data.length < d.clientidRemoteSize) ∧
      (strCaseEq c'.clientidRemote cl = true ↔ cl.data.length < d.clientidRemoteSize) ∧
      (strCaseEq cl c'.clientidRemote = true ↔ cl.data.length < d.clientidRemoteSize)) ∧
    ∀ (s : String) (c₀ c₁ : Conn) (u₀ cl₀ : String) (m₀ : Message) (r₀ : Int),
      m₀.sessidSender = s → (Event.recvMessage u₀ cl₀ m₀).setupActs c₀ = true →
      AfterNoSetup d (econnStep d c₀ (.recvMessage u₀ cl₀ m₀) r₀).conn c₁ →
      c₁.sessidRemote = strNcpy d.sessidRemoteSize s ∧
      ∀ m : Message, m.sessidSender = s →
        (strCaseEq c₁.sessidRemote m.sessidSender = true ↔
          s.data.length < d.sessidRemoteSize) ∧
        (d.sessidRemoteSize ≤ s.data.length → ∀ (u' cl' : String) (r' : Int),
          recvUpdate d c₁ u' cl' m = ⟨c₁, [], 0⟩ ∧ recvCancel c₁ cl' m r' = ⟨c₁, [], 0⟩ ∧
            recvHangup c₁ m r' = ⟨c₁, [], 0⟩) := by
  have hbind := econnStep_setup_binds (d := d) (r := r) u cl hunset hty
  have hset : strIsset (strNcpy d.clientidRemoteSize cl) = true :=
    strIsset_strNcpy d.two_le_clientidRemoteSize hcl
  have hkept : c'.clientidRemote = strNcpy d.clientidRemoteSize cl :=
    (hlater.clientidRemote (hbind ▸ hset)).trans hbind
  have hcheck := strCaseEq_strNcpy_iff (Nat.le_of_succ_le d.two_le_clientidRemoteSize) cl
  refine ⟨⟨hkept, ?_, ?_, ?_⟩, fun s c₀ c₁ u₀ cl₀ m₀ r₀ hs hacts hrun => ?_⟩
  · simpa [setupPasses, hkept, hset] using hcheck
  · rwa [hkept]
  · rwa [hkept, strCaseEq_comm]
  have hsid : c₁.sessidRemote = strNcpy d.sessidRemoteSize s :=
    hrun.sessidRemote.trans (hs ▸ econnStep_setup_writes u₀ cl₀ hacts)
  have hiff := strCaseEq_strNcpy_iff (Nat.le_of_succ_le d.two_le_sessidRemoteSize) s
  refine ⟨hsid, fun m hm => ⟨by rwa [hsid, hm], fun hlong u' cl' r' => ?_⟩⟩
  refine recv_sessid_drop u' cl' r' (Bool.eq_false_iff.mpr fun hpass => ?_)
  rw [hsid, hm] at hpass
  exact absurd (hiff.mp hpass) (Nat.not_lt.mpr hlong)

/-- bravo calls alpha from client "c2" in session "sB2", and alpha answers: alpha's
record holds both ids, and its checks accept bravo's. -/
theorem adopted_bravo_checks :
    let m := messageInit .setup "sB2"
    let c := (econnStep specDeps alpha (.recvMessage "bravo" "c2" m) 0).conn
    let c₁ := (econnStep specDeps c (.answer (some "v=1") none) 0).conn
    (c₁.clientidRemote = strNcpy specDeps.clientidRemoteSize "c2" ∧
      (setupPasses c₁ "c2" = true ↔ "c2".data.length < specDeps.clientidRemoteSize) ∧
      (strCaseEq c₁.clientidRemote "c2" = true ↔
        "c2".data.length < specDeps.clientidRemoteSize) ∧
      (strCaseEq "c2" c₁.clientidRemote = true ↔
        "c2".data.length < specDeps.clientidRemoteSize)) ∧
    c₁.sessidRemote = strNcpy specDeps.sessidRemoteSize "sB2" ∧
      ∀ m : Message, m.sessidSender = "sB2" →
        (strCaseEq c₁.sessidRemote m.sessidSender = true ↔
          "sB2".data.length < specDeps.sessidRemoteSize) ∧
        (specDeps.sessidRemoteSize ≤ "sB2".data.length → ∀ (u' cl' : String) (r' : Int),
          recvUpdate specDeps c₁ u' cl' m = ⟨c₁, [], 0⟩ ∧
            recvCancel c₁ cl' m r' = ⟨c₁, [], 0⟩ ∧ recvHangup c₁ m r' = ⟨c₁, [], 0⟩) :=
  have h := adopted_peer_checks (d := specDeps) (c := alpha) (r := 0) rfl (by decide)
    (by decide) (.step (.answer (some "v=1") none) 0 .refl)
  ⟨h.1, h.2 "sB2" alpha _ "bravo" "c2" _ 0 rfl (by decide)
    (.step (.answer (some "v=1") none) 0 .refl rfl)⟩

/-- bravo calls alpha from a client whose id fills alpha's 64-byte buffer: alpha binds
the id cut to 63 characters, and drops bravo's CANCEL, which names the whole id. -/
theorem long_clientid_refused :
    let cl := String.mk (List.replicate 64 'c')
    let c := (econnStep specDeps alpha (.recvMessage "bravo" cl (messageInit .setup "sB2")) 0).conn
    let res := econnRecvMessage specDeps c "bravo" cl (messageInit .cancel "sB2") 0
    Reachable specDeps c ∧ c.state = .pendingIncoming ∧
      c.clientidRemote = strNcpy specDeps.clientidRemoteSize cl ∧
      strCaseEq cl c.clientidRemote = false ∧ res.conn = c ∧ res.effects = [] :=
  ⟨(Run.alloc alpha_alloc).step _ _ rfl, by decide, rfl, by decide, by decide, rfl⟩

end Adopted

-- =============================================== the binding past SETUP

/-- ANSWERED and every state after it: DATACHAN_ESTABLISHED, UPDATE_SENT, UPDATE_RECV,
HANGUP_SENT, HANGUP_RECV and TERMINATING. -/
def State.pastSetup : State → Bool
  | .answered | .datachanEstablished | .updateSent | .updateRecv | .hangupSent | .hangupRecv
  | .terminating => true
  | _ => false

section PastSetup

variable {c c' : Conn} {e : Event} {r : Int} {effs : List Effect}

/-- No step leaves the states past the SETUP exchange, and none of them writes
`sessid_remote`. -/
theorem Moves.pastSetup (hm : Moves d c e r c' effs) (h : c.state.pastSetup = true) :
    c'.state.pastSetup = true ∧ c'.sessidRemote = c.sessidRemote := by
  cases hm <;> (try casesm* _ ∨ _) <;> simp_all [State.pastSetup, closedConn]

theorem After.pastSetup (h : After d c c') (hst : c.state.pastSetup = true) :
    c'.state.pastSetup = true ∧ c'.sessidRemote = c.sessidRemote := by
  induction h with
  | refl => exact ⟨hst, rfl⟩
  | step e r _ ih =>
    have := (econnStep_moves d _ e r).pastSetup ih.1
    exact ⟨this.1, this.2.trans ih.2⟩

/-- Once a record is past the SETUP exchange, every run from it, whatever the events, the
senders and the transport's answers, stays past it, never changes `sessid_remote`, and
never changes a `clientid_remote` that is set. -/
theorem binding_fixed_after_setup (h : After d c c') (hst : c.state.pastSetup = true) :
    c'.state.pastSetup = true ∧ c'.sessidRemote = c.sessidRemote ∧
      (strIsset c.clientidRemote = true → c'.clientidRemote = c.clientidRemote) :=
  ⟨(h.pastSetup hst).1, (h.pastSetup hst).2, h.clientidRemote⟩

/-- alpha's call, answered by bravo on client "c2" in session "sB2", gets a SETUP request
from client "c3" in session "s3": the binding stays. -/
theorem third_setup_keeps_binding :
    let c := (econnStep specDeps (econnStep specDeps alpha (.start (some "v=0") none) 0).conn
      (.recvMessage "bravo" "c2" { messageInit .setup "sB2" with resp := true, sdp := some "v=1" })
      0).conn
    let c' := (econnStep specDeps c
      (.recvMessage "user3" "c3" { messageInit .setup "s3" with sdp := some "v=3" }) 0).conn
    c.state = .answered ∧ c'.state.pastSetup = true ∧ c'.sessidRemote = c.sessidRemote ∧
      (strIsset c.clientidRemote = true → c'.clientidRemote = c.clientidRemote) :=
  ⟨by decide, binding_fixed_after_setup (.step _ 0 .refl) (by decide)⟩

end PastSetup

end Econn
