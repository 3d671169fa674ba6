/-
Runs of one record (src/src/econn/econn.c): a `struct econn` from `econn_alloc`, taken
through any sequence of the application's calls, inbound messages and expiries of
`tmr_local`, with any answer from the transport at each send.

# Runs

`Run guard` is every record reached from `econn_alloc` by events that pass `guard`:
`Reachable` lets every event through, `AppReachable` only the calls the spec's table
allows (§4.3) in the state at hand. Every invariant below is proved by one case per row
of `Moves` (Step.lean), never by unfolding econn.c's functions.

# What every run keeps

- `TimerCoupled`: with a nonzero `timeout_setup`, the waiting states have `tmr_local`
  armed, and its expiry closes the record; IDLE, ANSWERED and DATACHAN_ESTABLISHED have
  it stopped (`reachable_timer_coupling`).
- `NoSilentTerm`: a TERMINATING record that has not been closed has its timer armed, or
  holds in `setup_err` the error of the send that moved it there
  (`reachable_terminating_closes`). A failed send in `econn_send_setup` is the one way
  into TERMINATING that arms nothing (`start_send_failure_silent`).

# Where `econn_update_req` breaks the rest

`econn_update_req` switches on the state and rejects nothing ("SSJ think we should
return -1 here"), so it moves any record to UPDATE_SENT and sends: out of TERMINATING,
both while the cancel timer `econn_end` armed is pending, which it replaces with the
setup timer, and after the close handler has run (`econnUpdateReq_after_close`); and out
of IDLE before any peer is bound (`econnUpdateReq_unbound`). With the spec's precondition in force
(`AppReachable`), TERMINATING is absorbing and silent once closed
(`terminating_absorbing`), and every state past the SETUP exchange has a bound peer
(`established_bound`).
-/
import Econn.Step

namespace Econn

variable (d : Deps)

-- ================================================================== runs

/-- The records reached from `econn_alloc` by events that pass `guard`, each send
answered with any result. -/
inductive Run (guard : Conn → Event → Bool) : Conn → Prop
  | alloc {conf : Option Conf} {useridSelf clientid : String}
      {transp connh answerh updateReqh updateResph closeh : Bool} {sessidLocal : String}
      {c : Conn}
      (h : econnAlloc conf useridSelf clientid transp connh answerh updateReqh updateResph
        closeh sessidLocal = .ok c) : Run guard c
  | step {c : Conn} (e : Event) (r : Int) (hc : Run guard c) (hg : guard c e = true) :
      Run guard (econnStep d c e r).conn

/-- Every record some run reaches, whatever the application calls and whatever the
transport answers. -/
def Reachable (c : Conn) : Prop := Run d (fun _ _ => true) c

/-- The records reached by an application that keeps to the spec's preconditions. -/
def AppReachable (c : Conn) : Prop := Run d allowed c

variable {d}

theorem Reachable.step {c : Conn} (hc : Reachable d c) (e : Event) (r : Int) :
    Reachable d (econnStep d c e r).conn :=
  Run.step e r hc rfl

/-- What `econn_alloc` hands back: an IDLE record with nothing bound, no timer, no
error, not closed, and a non-empty client id. -/
theorem econnAlloc_ok {conf : Option Conf} {useridSelf clientid : String}
    {transp connh answerh updateReqh updateResph closeh : Bool} {sessidLocal : String}
    {c : Conn}
    (h : econnAlloc conf useridSelf clientid transp connh answerh updateReqh updateResph
      closeh sessidLocal = .ok c) :
    c.state = .idle ∧ c.tmrLocal = none ∧ c.closed = false ∧ c.setupErr = 0 ∧
      c.clientidRemote = "" ∧ c.sessidRemote = "" ∧ strIsset c.clientid = true := by
  unfold econnAlloc at h
  split at h
  · cases h
  · cases h
    simp_all

-- ============================================== a deployment to run on

/-- Modelled from the spec: `econn_iswinner` (not under src/) orders (userid, clientid)
pairs lexicographically, and the greater pair wins (§4.2, scenario S2). -/
def lexWinner (useridSelf clientidSelf useridPeer clientidPeer : String) : Bool :=
  useridPeer.data < useridSelf.data ∨
    useridPeer = useridSelf ∧ clientidPeer.data < clientidSelf.data

/-- Buffers of 64 bytes, room for every id the runs below use, and the spec's winner
rule. -/
def specDeps : Deps := ⟨64, 64, by decide, by decide, lexWinner⟩

/-- The record user "alpha" on client "c1" allocates, with a transport, every handler,
the default configuration and the session token "sA1". -/
def alpha : Conn where
  conf := defaultConf
  useridSelf := "alpha"
  clientid := "c1"
  clientidRemote := ""
  sessidLocal := "sA1"
  sessidRemote := ""
  state := .idle
  dir := .unknown
  conflict := 0
  setupErr := 0
  err := 0
  tmrLocal := none
  transp := true
  connh := true
  answerh := true
  updateReqh := true
  updateResph := true
  closeh := true
  closed := false

theorem alpha_alloc :
    econnAlloc none "alpha" "c1" true true true true true true "sA1" = .ok alpha := rfl

/-- No event changes the configuration. -/
theorem Moves.conf {c c' : Conn} {e : Event} {r : Int} {effs : List Effect}
    (hm : Moves d c e r c' effs) : c'.conf = c.conf := by
  cases hm <;> rfl

-- ====================================================== the timer coupling

/-- PENDING_OUTGOING, PENDING_INCOMING, CONFLICT_RESOLUTION, UPDATE_SENT, UPDATE_RECV and
HANGUP_SENT: the states that wait on the peer or on the application. -/
def State.waiting : State → Bool
  | .pendingOutgoing | .pendingIncoming | .conflictResolution | .updateSent | .updateRecv
  | .hangupSent => true
  | _ => false

/-- IDLE, ANSWERED and DATACHAN_ESTABLISHED: nothing is outstanding. -/
def State.quiet : State → Bool
  | .idle | .answered | .datachanEstablished => true
  | _ => false

/-- A waiting state has `tmr_local` armed, a quiet one has it stopped. -/
def TimerCoupled (c : Conn) : Prop :=
  (c.state.waiting → c.tmrLocal.isSome) ∧ (c.state.quiet → c.tmrLocal = none)

/-- One step keeps the coupling, given a nonzero `timeout_setup`: every path into a
waiting state arms the timer (the conflict loser keeps the one PENDING_OUTGOING armed),
every path into a quiet state stops it. -/
theorem Moves.timerCoupled {c c' : Conn} {e : Event} {r : Int} {effs : List Effect}
    (hm : Moves d c e r c' effs) (hts : c.conf.timeoutSetup ≠ 0) (h : TimerCoupled c) :
    TimerCoupled c' := by
  unfold TimerCoupled at *
  cases hm <;> simp_all [State.waiting, State.quiet, armSetup, closedConn]

/-- When `tmr_local` is armed, its expiry closes the record: every handler econn arms it
with runs `econn_close`. -/
theorem econnTmrFire_closed {c : Conn} (h : c.tmrLocal.isSome) (r : Int) :
    (econnTmrFire c r).conn.closed = true := by
  obtain ⟨t, ht⟩ := Option.isSome_iff_exists.mp h
  simp [econnTmrFire, ht, closedConn]

theorem Run.timerCoupled {guard : Conn → Event → Bool} {c : Conn} (hc : Run d guard c)
    (hts : 0 < c.conf.timeoutSetup) : TimerCoupled c := by
  induction hc with
  | alloc h =>
    obtain ⟨hs, ht, -⟩ := econnAlloc_ok h
    simp [TimerCoupled, hs, ht, State.waiting]
  | @step c e r _ _ ih =>
    have hm := econnStep_moves d c e r
    rw [hm.conf] at hts
    exact hm.timerCoupled (by omega) (ih hts)

/-- The timer coupling, over every run of a record whose `timeout_setup` is nonzero: a
waiting state has `tmr_local` armed and its expiry closes the record; IDLE, ANSWERED and
DATACHAN_ESTABLISHED have it stopped. -/
theorem reachable_timer_coupling {c : Conn} (hc : Reachable d c)
    (hts : 0 < c.conf.timeoutSetup) :
    (c.state.waiting → c.tmrLocal.isSome ∧ ∀ r, (econnTmrFire c r).conn.closed = true) ∧
      (c.state.quiet → c.tmrLocal = none) :=
  have key := Run.timerCoupled hc hts
  ⟨fun hw => ⟨key.1 hw, econnTmrFire_closed (key.1 hw)⟩, key.2⟩


/-- Right after `econn_start` the record waits in PENDING_OUTGOING with the setup timer
armed. -/
theorem timer_coupling_after_start :
    let c := (econnStep specDeps alpha (.start (some "v=0") none) 0).conn
    c.state = .pendingOutgoing ∧ c.tmrLocal.isSome ∧
      (c.state.waiting → c.tmrLocal.isSome ∧ ∀ r, (econnTmrFire c r).conn.closed = true) ∧
      (c.state.quiet → c.tmrLocal = none) :=
  ⟨by decide, by decide,
    reachable_timer_coupling (Run.step _ 0 (Run.alloc alpha_alloc) rfl) (by decide)⟩

-- ================================================== closing TERMINATING

/-- A TERMINATING record that has not been closed has `tmr_local` armed, or a nonzero
`setup_err`. -/
def NoSilentTerm (c : Conn) : Prop :=
  c.state = .terminating → c.closed = false → c.tmrLocal.isSome ∨ c.setupErr ≠ 0

/-- One step keeps `NoSilentTerm`: the paths into TERMINATING either close, arm the
1 ms cancel timer, or are a failed send, which records its nonzero error. -/
theorem Moves.noSilentTerm {c c' : Conn} {e : Event} {r : Int} {effs : List Effect}
    (hm : Moves d c e r c' effs) (h : NoSilentTerm c) : NoSilentTerm c' := by
  unfold NoSilentTerm at *
  cases hm <;> simp_all [closedConn]

theorem Run.noSilentTerm {guard : Conn → Event → Bool} {c : Conn} (hc : Run d guard c) :
    NoSilentTerm c := by
  induction hc with
  | alloc h =>
    obtain ⟨hs, -⟩ := econnAlloc_ok h
    simp [NoSilentTerm, hs]
  | @step c e r _ _ ih => exact (econnStep_moves d c e r).noSilentTerm ih

/-- Every run: a TERMINATING record that `econn_close` has not run on either has its
timer armed, whose expiry closes it, or holds in `setup_err` the nonzero error of the
failed send that moved it to TERMINATING. -/
theorem reachable_terminating_closes {c : Conn} (hc : Reachable d c)
    (hterm : c.state = .terminating) (hopen : c.closed = false) :
    (c.tmrLocal.isSome ∧ ∀ r, (econnTmrFire c r).conn.closed = true) ∨ c.setupErr ≠ 0 :=
  (hc.noSilentTerm hterm hopen).imp (fun h => ⟨h, econnTmrFire_closed h⟩) id

/-- `econn_start` whose send fails: TERMINATING, not closed, no timer; `setup_err` and
the call's result are the send's error. -/
theorem start_send_failure_silent :
    let c := (econnStep specDeps alpha (.start (some "v=0") none) 5).conn
    Reachable specDeps c ∧ c.state = .terminating ∧ c.closed = false ∧ c.tmrLocal = none :=
  ⟨Run.step _ 5 (Run.alloc alpha_alloc) rfl, by decide, by decide, by decide⟩

/-- After the failed `econn_start` the record is TERMINATING and open, and the error is in
`setup_err`. -/
theorem terminating_closes_failed_start :
    let c := (econnStep specDeps alpha (.start (some "v=0") none) 5).conn
    (c.tmrLocal.isSome ∧ ∀ r, (econnTmrFire c r).conn.closed = true) ∨ c.setupErr ≠ 0 :=
  reachable_terminating_closes (Run.step _ 5 (Run.alloc alpha_alloc) rfl) (by decide)
    (by decide)

-- =============================================== `econn_update_req` in any state

/-- A record with a transport and a close handler starts a call. If the application ends
it, `econn_end` sends the CANCEL and leaves the record TERMINATING with the 1 ms cancel
timer armed; an `econn_update_req` before that timer fires hands an UPDATE to the
transport, moves the record to UPDATE_SENT and replaces the cancel timer with the setup
timer. If instead the setup timer expires, `econn_close` sends the CANCEL, calls the close
handler and leaves the record TERMINATING; a later `econn_update_req` still hands an
UPDATE to the transport and moves the record to UPDATE_SENT. -/
theorem econnUpdateReq_after_close {conf : Option Conf} {useridSelf clientid : String}
    {connh answerh updateReqh updateResph : Bool} {sessidLocal : String} {c : Conn}
    (h : econnAlloc conf useridSelf clientid true connh answerh updateReqh updateResph true
      sessidLocal = .ok c)
    (hts : 0 < c.conf.timeoutSetup) (sdp sdp' : Option String) (props props' : Option Props) :
    let ended := econnStep d (econnStep d c (.start sdp props) 0).conn .endCall 0
    let updEnded := econnStep d ended.conn (.updateReq sdp' props') 0
    let fired := econnStep d (econnStep d c (.start sdp props) 0).conn .tmrFire 0
    let upd := econnStep d fired.conn (.updateReq sdp' props') 0
    (ended.conn.state = .terminating ∧ ended.conn.tmrLocal = some ⟨.cancelHandler, 1⟩ ∧
      ended.effects = [.send (messageInit .cancel sessidLocal)] ∧
      updEnded.conn.state = .updateSent ∧
      updEnded.conn.tmrLocal = some ⟨.localHandler, c.conf.timeoutSetup⟩ ∧
      updEnded.effects = [.send (setupMessage sessidLocal false sdp' props' true)]) ∧
    fired.conn.state = .terminating ∧
      fired.effects = [.send (messageInit .cancel sessidLocal), .closeh ETIMEDOUT] ∧
      upd.conn.state = .updateSent ∧
      upd.effects = [.send (setupMessage sessidLocal false sdp' props' true)] := by
  unfold econnAlloc at h
  split at h
  · cases h
  · cases h
    have hts' : (conf.getD defaultConf).timeoutSetup ≠ 0 := by simpa using Nat.pos_iff_ne_zero.mp hts
    simp [econnStep, econnStart, econnEnd, econnTmrFire, econnUpdateReq, hts', sendResult,
      sendEffects, sendCancel, closeEffects, closedConn, tmrHandlerErr, setupMessage]

/-- alpha ends the call it started and updates it before the cancel timer fires; alpha's
call, timed out and closed, also still sends an UPDATE. -/
theorem updateReq_after_close_alpha :
    let ended := econnStep specDeps
      (econnStep specDeps alpha (.start (some "v=0") none) 0).conn .endCall 0
    let updEnded := econnStep specDeps ended.conn (.updateReq (some "v=1") none) 0
    let fired := econnStep specDeps
      (econnStep specDeps alpha (.start (some "v=0") none) 0).conn .tmrFire 0
    let upd := econnStep specDeps fired.conn (.updateReq (some "v=1") none) 0
    (ended.conn.state = .terminating ∧ ended.conn.tmrLocal = some ⟨.cancelHandler, 1⟩ ∧
      ended.effects = [.send (messageInit .cancel "sA1")] ∧
      updEnded.conn.state = .updateSent ∧
      updEnded.conn.tmrLocal = some ⟨.localHandler, alpha.conf.timeoutSetup⟩ ∧
      updEnded.effects = [.send (setupMessage "sA1" false (some "v=1") none true)]) ∧
    fired.conn.state = .terminating ∧
      fired.effects = [.send (messageInit .cancel "sA1"), .closeh ETIMEDOUT] ∧
      upd.conn.state = .updateSent ∧
      upd.effects = [.send (setupMessage "sA1" false (some "v=1") none true)] :=
  econnUpdateReq_after_close alpha_alloc (by decide) _ _ _ _

/-- A freshly allocated record with a transport: `econn_update_req` moves it to
UPDATE_SENT with no peer bound, though no message was ever received. -/
theorem econnUpdateReq_unbound {conf : Option Conf} {useridSelf clientid : String}
    {connh answerh updateReqh updateResph closeh : Bool} {sessidLocal : String} {c : Conn}
    (h : econnAlloc conf useridSelf clientid true connh answerh updateReqh updateResph closeh
      sessidLocal = .ok c)
    (sdp : Option String) (props : Option Props) :
    let c' := (econnStep d c (.updateReq sdp props) 0).conn
    Reachable d c' ∧ c'.state = .updateSent ∧ c'.clientidRemote = "" ∧
      c'.sessidRemote = "" := by
  refine ⟨Run.step _ 0 (Run.alloc h) rfl, ?_⟩
  obtain ⟨-, -, -, -, hcid, hsid, -⟩ := econnAlloc_ok h
  unfold econnAlloc at h
  split at h
  · cases h
  · cases h
    by_cases hts : (conf.getD defaultConf).timeoutSetup = 0 <;>
      simp [econnStep, econnUpdateReq, hts, sendResult]

/-- alpha's fresh record, UPDATE_SENT with no peer. -/
theorem updateReq_unbound_alpha :
    let c' := (econnStep specDeps alpha (.updateReq (some "v=0") none) 0).conn
    Reachable specDeps c' ∧ c'.state = .updateSent ∧ c'.clientidRemote = "" ∧
      c'.sessidRemote = "" :=
  econnUpdateReq_unbound alpha_alloc _ _

-- ===================================== with the preconditions in force

/-- A closed record is TERMINATING, with no timer and no close handler left. -/
def ClosedQuiet (c : Conn) : Prop :=
  c.closed = true → c.state = .terminating ∧ c.tmrLocal = none ∧ c.closeh = false

/-- An allowed step keeps `ClosedQuiet`: every path that leaves TERMINATING or arms the
timer needs a state other than TERMINATING, `econn_update_req` included once its
precondition holds; the paths that close leave the record quiet. -/
theorem Moves.closedQuiet {c c' : Conn} {e : Event} {r : Int} {effs : List Effect}
    (hm : Moves d c e r c' effs) (he : allowed c e = true) (h : ClosedQuiet c) :
    ClosedQuiet c' := by
  unfold ClosedQuiet at *
  cases hcl : c.closed <;> cases hm <;> simp_all [allowed, closedConn]

theorem AppReachable.closedQuiet {c : Conn} (hc : AppReachable d c) : ClosedQuiet c := by
  induction hc with
  | alloc h =>
    obtain ⟨-, -, hcl, -⟩ := econnAlloc_ok h
    simp [ClosedQuiet, hcl]
  | @step c e r _ he ih => exact (econnStep_moves d c e r).closedQuiet he ih

/-- An allowed step from TERMINATING stays there, and from a quiet closed record it does
nothing outside the record: every path that acts needs another state or an armed
timer. -/
theorem Moves.terminating {c c' : Conn} {e : Event} {r : Int} {effs : List Effect}
    (hm : Moves d c e r c' effs) (he : allowed c e = true) (hq : ClosedQuiet c) :
    (c.state = .terminating → c'.state = .terminating) ∧ (c.closed = true → effs = []) := by
  unfold ClosedQuiet at hq
  constructor
  · intro hst
    cases hm <;> simp_all [allowed, closedConn]
  · intro hcl
    cases hm <;> simp_all [allowed]

/-- With `econn_update_req` called only in ANSWERED or DATACHAN_ESTABLISHED, as the spec
asks: every allowed event leaves a TERMINATING record TERMINATING, and once
`econn_close` has run no event calls a callback or sends. -/
theorem terminating_absorbing {c : Conn} (hc : AppReachable d c) {e : Event}
    (he : allowed c e = true) (r : Int) :
    (c.state = .terminating → (econnStep d c e r).conn.state = .terminating) ∧
      (c.closed = true → (econnStep d c e r).effects = []) :=
  (econnStep_moves d c e r).terminating he hc.closedQuiet

/-- alpha's call, timed out and closed, stays TERMINATING and silent when its application
ends it. -/
theorem terminating_absorbing_alpha :
    let c := (econnStep specDeps
      (econnStep specDeps alpha (.start (some "v=0") none) 0).conn .tmrFire 0).conn
    c.state = .terminating ∧ c.closed = true ∧
      ((c.state = .terminating → (econnStep specDeps c .endCall 0).conn.state = .terminating) ∧
        (c.closed = true → (econnStep specDeps c .endCall 0).effects = [])) :=
  ⟨by decide, by decide, terminating_absorbing (d := specDeps) (e := .endCall) (Run.step .tmrFire 0
    (Run.step (.start (some "v=0") none) 0 (Run.alloc alpha_alloc) rfl) rfl) rfl 0⟩

/-- An inbound message that names its sender: a non-empty client id and session id. -/
def idsNamed : Event → Bool
  | .recvMessage _ clientidSender msg => strIsset clientidSender && strIsset msg.sessidSender
  | _ => true

/-- PENDING_INCOMING, CONFLICT_RESOLUTION and every state after the SETUP exchange have
both remote ids set. -/
def PeerBound (c : Conn) : Prop :=
  c.state = .pendingIncoming ∨ c.state = .conflictResolution ∨ c.state = .answered ∨
      c.state = .datachanEstablished ∨ c.state = .updateSent ∨ c.state = .updateRecv ∨
      c.state = .hangupSent →
    strIsset c.clientidRemote = true ∧ strIsset c.sessidRemote = true

/-- What a SETUP that names its sender leaves in `clientid_remote` is set. -/
theorem strIsset_adoptClientid {c : Conn} {clientidSender : String}
    (h : strIsset clientidSender = true) :
    strIsset (adoptClientid d c clientidSender) = true := by
  unfold adoptClientid
  split
  · assumption
  · exact strIsset_strNcpy d.two_le_clientidRemoteSize h

/-- An allowed step on a message that names its sender keeps `PeerBound`: the paths into
PENDING_INCOMING, CONFLICT_RESOLUTION and ANSWERED by a SETUP copy both ids, the others
start from a bound state. -/
theorem Moves.peerBound {c c' : Conn} {e : Event} {r : Int} {effs : List Effect}
    (hm : Moves d c e r c' effs) (he : (allowed c e && idsNamed e) = true) (h : PeerBound c) :
    PeerBound c' := by
  unfold PeerBound at *
  cases hm <;>
    simp only [allowed, idsNamed, Bool.and_eq_true, decide_eq_true_eq, and_true] at he <;>
    (try casesm* _ ∨ _) <;> simp_all [closedConn, strIsset_adoptClientid,
      strIsset_strNcpy d.two_le_sessidRemoteSize]

/-- With the spec's preconditions and inbound messages that name their sender, ANSWERED,
DATACHAN_ESTABLISHED, UPDATE_SENT, UPDATE_RECV and HANGUP_SENT are reached only with both
`clientid_remote` and `sessid_remote` set. -/
theorem established_bound {c : Conn} (hc : Run d (fun c e => allowed c e && idsNamed e) c)
    (hst : c.state = .answered ∨ c.state = .datachanEstablished ∨ c.state = .updateSent ∨
      c.state = .updateRecv ∨ c.state = .hangupSent) :
    strIsset c.clientidRemote = true ∧ strIsset c.sessidRemote = true := by
  have key : PeerBound c := by
    clear hst
    induction hc with
    | alloc h =>
      obtain ⟨hs, -⟩ := econnAlloc_ok h
      simp [PeerBound, hs]
    | @step c e r _ he ih => exact (econnStep_moves d c e r).peerBound he ih
  exact key (by tauto)

/-- alpha's call, answered by bravo, has both of bravo's ids bound. -/
theorem established_bound_alpha :
    let c := (econnStep specDeps (econnStep specDeps alpha (.start (some "v=0") none) 0).conn
      (.recvMessage "bravo" "c2" { messageInit .setup "sB2" with resp := true }) 0).conn
    c.state = .answered ∧ strIsset c.clientidRemote = true ∧ strIsset c.sessidRemote = true :=
  ⟨by decide, established_bound (d := specDeps)
    (Run.step (.recvMessage "bravo" "c2" { messageInit .setup "sB2" with resp := true }) 0
      (Run.step (.start (some "v=0") none) 0 (Run.alloc alpha_alloc) rfl) rfl)
    (.inl (by decide))⟩

end Econn
