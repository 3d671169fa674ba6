/-
What the application sees of one record over a whole run (src/src/econn/econn.c): the
callbacks econn makes, the direction `econn_current_dir` reports, and how `econn_end`
finishes.

# The log

`Trace c log` is every record reached from `econn_alloc` by any events, each send
answered with any result, beside `log`: what the record did outside itself, every step's
effects appended in order. Nothing restricts the events, so what holds of a `Trace` holds
whatever the application calls and whoever sends the messages.

# Callbacks

- The close handler is called at most once: `econn_close` reads `conn->closeh`, clears
  it and only then calls it, and every path that calls it goes through `econn_close`
  (`closeh_at_most_once`).
- The connect handler is called at most once: `handle_setup_request` calls it only on
  the way out of IDLE, and no path leads back (`connh_at_most_once`).

Each is one step lemma whose statement folds in what bounds the rest of the run: the
handler still set, the record still IDLE.

# The direction

`econn_start` sets the outgoing direction and `handle_setup_request` the incoming one,
each only from IDLE (or, for `econn_start`, from PENDING_OUTGOING, which it entered that
way). So a direction, once set, is never changed, and the states that belong to one side
of a call report that side (`reachable_direction`).

# Ending a call

`econn_end` arms `tmr_local` in every state it acts in, and does nothing in UPDATE_SENT,
UPDATE_RECV and HANGUP_SENT, which wait with the timer armed already. So with a nonzero
`timeout_setup`, a call that is under way is closed by the first expiry after
`econn_end` (`end_then_timer_closes`). IDLE has nothing to end, and a TERMINATING record
whose send failed has no timer (`start_send_failure_silent`).

Which error the close handler reports depends on the timer that fires. `econn_end` arms
the cancel or the term timer, whose handlers close with the error the application set
with `econn_set_error`; in HANGUP_SENT the term timer is armed already. In UPDATE_SENT and
UPDATE_RECV it does nothing, and the setup timer that is armed there closes with
ETIMEDOUT instead (`end_reports_error`). That rests on one more coupling over the run:
a waiting state's timer runs `tmr_term_handler` in HANGUP_SENT and `tmr_local_handler`
in the others (`HandlerCoupled`).
-/
import Econn.Orphan

namespace Econn

variable (d : Deps)

-- ================================================================== the log

/-- A call of the close handler. -/
def Effect.isCloseh : Effect → Bool
  | .closeh _ => true
  | _ => false

/-- A call of the connect handler. -/
def Effect.isConnh : Effect → Bool
  | .connh .. => true
  | _ => false

/-- The records reached from `econn_alloc` by any events, each send answered with any
result, beside the log of their effects in order. -/
inductive Trace : Conn → List Effect → Prop
  | alloc {conf : Option Conf} {useridSelf clientid : String}
      {transp connh answerh updateReqh updateResph closeh : Bool} {sessidLocal : String}
      {c : Conn}
      (h : econnAlloc conf useridSelf clientid transp connh answerh updateReqh updateResph
        closeh sessidLocal = .ok c) : Trace c []
  | step {c : Conn} {log : List Effect} (e : Event) (r : Int) (hc : Trace c log) :
      Trace (econnStep d c e r).conn (log ++ (econnStep d c e r).effects)

variable {d}

@[simp] theorem sendEffects_countP_isCloseh (transp : Bool) (msg : Message) :
    (sendEffects transp msg).countP Effect.isCloseh = 0 := by
  cases transp <;> rfl

@[simp] theorem sendEffects_countP_isConnh (transp : Bool) (msg : Message) :
    (sendEffects transp msg).countP Effect.isConnh = 0 := by
  cases transp <;> rfl

@[simp] theorem closeEffects_countP_isCloseh (c : Conn) (err : Int) :
    (closeEffects c err).countP Effect.isCloseh = c.closeh.toNat := by
  unfold closeEffects
  cases h : c.closeh <;> split <;> simp [h, Effect.isCloseh]

@[simp] theorem closeEffects_countP_isConnh (c : Conn) (err : Int) :
    (closeEffects c err).countP Effect.isConnh = 0 := by
  unfold closeEffects
  cases c.closeh <;> split <;> simp [Effect.isConnh]

-- ============================================================= callbacks

section Callbacks

variable {c c' : Conn} {e : Event} {r : Int} {effs : List Effect}

/-- A step calls the close handler at most once, only if the record holds one, and then
clears it; no step sets it again. -/
theorem Moves.closeh_count (hm : Moves d c e r c' effs) :
    effs.countP Effect.isCloseh + c'.closeh.toNat ≤ c.closeh.toNat := by
  cases hm <;> simp [closedConn, apply_ite (List.countP Effect.isCloseh), Effect.isCloseh] <;>
    cases c.closeh <;> simp

/-- A step calls the connect handler at most once, only from IDLE, and then leaves it;
no step enters IDLE. -/
theorem Moves.connh_count (hm : Moves d c e r c' effs) :
    effs.countP Effect.isConnh + (decide (c'.state = .idle)).toNat ≤
      (decide (c.state = .idle)).toNat := by
  cases hm <;> simp_all [closedConn, apply_ite (List.countP Effect.isConnh), Effect.isConnh]
  split <;> simp

theorem Trace.closeh_count {c : Conn} {log : List Effect} (h : Trace d c log) :
    log.countP Effect.isCloseh + c.closeh.toNat ≤ 1 := by
  induction h with
  | alloc => simp [Bool.toNat_le]
  | @step c log e r _ ih =>
    have := (econnStep_moves d c e r).closeh_count
    rw [List.countP_append]
    omega

theorem Trace.connh_count {c : Conn} {log : List Effect} (h : Trace d c log) :
    log.countP Effect.isConnh + (decide (c.state = .idle)).toNat ≤ 1 := by
  induction h with
  | alloc => simp [Bool.toNat_le]
  | @step c log e r _ ih =>
    have := (econnStep_moves d c e r).connh_count
    rw [List.countP_append]
    omega

end Callbacks

/-- Over every run of a record, whatever the events and whatever the transport answers,
the close handler is called at most once, and once it has been called the record holds
none. -/
theorem closeh_at_most_once {c : Conn} {log : List Effect} (h : Trace d c log) :
    log.countP Effect.isCloseh ≤ 1 ∧ (0 < log.countP Effect.isCloseh → c.closeh = false) := by
  have key := h.closeh_count
  refine ⟨by omega, fun hp => ?_⟩
  cases hc : c.closeh
  · rfl
  · simp only [hc, Bool.toNat_true] at key
    omega

/-- alpha starts a call and its setup timer expires: the close handler is called once. -/
theorem timeout_closes_once :
    let s := econnStep specDeps alpha (.start (some "v=0") none) 0
    let s' := econnStep specDeps s.conn .tmrFire 0
    (s.effects ++ s'.effects).countP Effect.isCloseh = 1 ∧
      ((s.effects ++ s'.effects).countP Effect.isCloseh ≤ 1 ∧
        (0 < (s.effects ++ s'.effects).countP Effect.isCloseh → s'.conn.closeh = false)) :=
  ⟨by decide,
    closeh_at_most_once
      (.step .tmrFire 0 (.step (.start (some "v=0") none) 0 (.alloc alpha_alloc)))⟩

/-- Over every run of a record, whatever the events and whatever the transport answers,
the connect handler is called at most once, and once it has been called the record has
left IDLE. -/
theorem connh_at_most_once {c : Conn} {log : List Effect} (h : Trace d c log) :
    log.countP Effect.isConnh ≤ 1 ∧ (0 < log.countP Effect.isConnh → c.state ≠ .idle) := by
  have key := h.connh_count
  refine ⟨by omega, fun hp hst => ?_⟩
  simp only [hst, decide_True, Bool.toNat_true] at key
  omega

/-- bravo's SETUP reaches alpha twice: alpha's application hears of the call once. -/
theorem repeated_setup_connects_once :
    let m : Message := { messageInit .setup "sB2" with sdp := some "v=0" }
    let s := econnStep specDeps alpha (.recvMessage "bravo" "c2" m) 0
    let s' := econnStep specDeps s.conn (.recvMessage "bravo" "c2" m) 0
    (s.effects ++ s'.effects).countP Effect.isConnh = 1 ∧
      ((s.effects ++ s'.effects).countP Effect.isConnh ≤ 1 ∧
        (0 < (s.effects ++ s'.effects).countP Effect.isConnh → s'.conn.state ≠ .idle)) :=
  ⟨by decide, connh_at_most_once (.step _ 0 (.step _ 0 (.alloc alpha_alloc)))⟩

-- ============================================================ the direction

/-- IDLE reports no direction, PENDING_OUTGOING and CONFLICT_RESOLUTION the outgoing one,
PENDING_INCOMING the incoming one. -/
def DirCoupled (c : Conn) : Prop :=
  (c.state = .idle → c.dir = .unknown) ∧
    (c.state = .pendingOutgoing ∨ c.state = .conflictResolution → c.dir = .outgoing) ∧
    (c.state = .pendingIncoming → c.dir = .incoming)

section Direction

variable {c c' : Conn} {e : Event} {r : Int} {effs : List Effect}

/-- What a step does to the direction: nothing, while IDLE, PENDING_OUTGOING,
CONFLICT_RESOLUTION and PENDING_INCOMING are entered only from where the direction is
fixed already; or `econn_start` sets the outgoing one; or a SETUP request taken in IDLE
sets the incoming one. -/
theorem Moves.dir_cases (hm : Moves d c e r c' effs) :
    c'.dir = c.dir ∧ (c'.state = .idle → c.state = .idle) ∧
        (c'.state = .pendingOutgoing → c.state = .pendingOutgoing) ∧
        (c'.state = .conflictResolution →
          c.state = .pendingOutgoing ∨ c.state = .conflictResolution) ∧
        (c'.state = .pendingIncoming → c.state = .pendingIncoming) ∨
      c'.dir = .outgoing ∧ (c'.state = .pendingOutgoing ∨ c'.state = .terminating) ∧
        (c.state = .idle ∨ c.state = .pendingOutgoing) ∧ e.isStart = true ∨
      c'.dir = .incoming ∧ c'.state = .pendingIncoming ∧ c.state = .idle ∧
        ∃ u cl m, e = .recvMessage u cl m ∧ m.msgType = .setup ∧ m.resp = false := by
  cases hm
  case start hst _ => exact .inr (.inl ⟨rfl, .inl rfl, hst, rfl⟩)
  case startFail hst _ => exact .inr (.inl ⟨rfl, .inr rfl, hst, rfl⟩)
  case incoming hty hreq _ hst => exact .inr (.inr ⟨rfl, rfl, hst, _, _, _, rfl, hty, hreq⟩)
  all_goals exact .inl ⟨rfl, by simp_all [closedConn]⟩

/-- One step keeps the coupling. -/
theorem Moves.dirCoupled (hm : Moves d c e r c' effs) (h : DirCoupled c) : DirCoupled c' := by
  obtain ⟨h1, h2, h3⟩ := h
  rcases hm.dir_cases with ⟨hd, hi, hp, hc, hpi⟩ | ⟨hd, hs, -⟩ | ⟨hd, hs, -⟩
  · refine ⟨fun hs => ?_, fun hs => ?_, fun hs => ?_⟩ <;> rw [hd]
    · exact h1 (hi hs)
    · exact h2 (hs.elim (fun hs => .inl (hp hs)) hc)
    · exact h3 (hpi hs)
  · rcases hs with hs | hs <;> simp [DirCoupled, hd, hs]
  · simp [DirCoupled, hd, hs]

/-- A set direction is kept: the two paths that set one leave IDLE or PENDING_OUTGOING,
whose direction the coupling fixes. -/
theorem Moves.dir_kept (hm : Moves d c e r c' effs) (h : DirCoupled c) (hd : c.dir ≠ .unknown) :
    c'.dir = c.dir := by
  rcases hm.dir_cases with ⟨hd', -⟩ | ⟨hd', -, hs | hs, -⟩ | ⟨-, -, hs, -⟩
  · exact hd'
  · exact absurd (h.1 hs) hd
  · rw [hd', h.2.1 (.inl hs)]
  · exact absurd (h.1 hs) hd

theorem Run.dirCoupled {guard : Conn → Event → Bool} (hc : Run d guard c) : DirCoupled c := by
  induction hc with
  | alloc h =>
    unfold econnAlloc at h
    split at h
    · cases h
    · cases h
      simp [DirCoupled]
  | @step c e r _ _ ih => exact (econnStep_moves d c e r).dirCoupled ih

end Direction

/-- Over every run of a record: IDLE reports no direction, PENDING_OUTGOING and
CONFLICT_RESOLUTION report outgoing, PENDING_INCOMING incoming, and once a direction is
reported no event changes it. -/
theorem reachable_direction {c : Conn} (hc : Reachable d c) :
    (c.state = .idle → c.dir = .unknown) ∧
      (c.state = .pendingOutgoing ∨ c.state = .conflictResolution → c.dir = .outgoing) ∧
      (c.state = .pendingIncoming → c.dir = .incoming) ∧
      ∀ e r, c.dir ≠ .unknown → (econnStep d c e r).conn.dir = c.dir :=
  have key := Run.dirCoupled hc
  ⟨key.1, key.2.1, key.2.2, fun e r => (econnStep_moves d c e r).dir_kept key⟩

/-- alpha has started a call: it reports the outgoing direction, and keeps it when
bravo's SETUP crosses its own. -/
theorem start_reports_outgoing :
    let c := (econnStep specDeps alpha (.start (some "v=0") none) 0).conn
    c.dir = .outgoing ∧
      ((c.state = .idle → c.dir = .unknown) ∧
        (c.state = .pendingOutgoing ∨ c.state = .conflictResolution → c.dir = .outgoing) ∧
        (c.state = .pendingIncoming → c.dir = .incoming) ∧
        ∀ e r, c.dir ≠ .unknown → (econnStep specDeps c e r).conn.dir = c.dir) :=
  ⟨rfl, reachable_direction (Run.step _ 0 (Run.alloc alpha_alloc) rfl)⟩

-- ============================================================ ending a call

theorem Run.ne_hangupRecv {guard : Conn → Event → Bool} {c : Conn} (hc : Run d guard c) :
    c.state ≠ .hangupRecv := by
  induction hc with
  | alloc h => simp [(econnAlloc_ok h).1]
  | @step c e r _ _ ih => exact (econnStep_moves d c e r).ne_hangupRecv ih

/-- `econn_end` leaves `tmr_local` armed and the close handler as it was, in every state
but IDLE and TERMINATING of a record that keeps the timer coupling and is not in
HANGUP_RECV: it arms the timer itself, or does nothing in a waiting state. -/
theorem econnEnd_armed {c : Conn} (r : Int) (hw : c.state.waiting → c.tmrLocal.isSome)
    (hidle : c.state ≠ .idle) (hterm : c.state ≠ .terminating) (hhr : c.state ≠ .hangupRecv) :
    (econnEnd c r).conn.tmrLocal.isSome ∧ (econnEnd c r).conn.closeh = c.closeh := by
  obtain ⟨s, hs⟩ : ∃ s, c.state = s := ⟨_, rfl⟩
  cases s <;> simp_all [econnEnd, State.waiting]

/-- With a nonzero `timeout_setup`, `econn_end` on a record in any state but IDLE and
TERMINATING leaves `tmr_local` armed, and its next expiry closes the record and calls the
close handler, if one is set. -/
theorem end_then_timer_closes {c : Conn} (hc : Reachable d c) (hts : 0 < c.conf.timeoutSetup)
    (hidle : c.state ≠ .idle) (hterm : c.state ≠ .terminating) (r r' : Int) :
    let c' := (econnStep d c .endCall r).conn
    c'.tmrLocal.isSome ∧ (econnStep d c' .tmrFire r').conn.closed = true ∧
      (c.closeh = true →
        ∃ err, Effect.closeh err ∈ (econnStep d c' .tmrFire r').effects) := by
  obtain ⟨harm, hcl⟩ :=
    econnEnd_armed r (Run.timerCoupled hc hts).1 hidle hterm (Run.ne_hangupRecv hc)
  obtain ⟨t, ht⟩ := Option.isSome_iff_exists.mp harm
  refine ⟨harm, econnTmrFire_closed harm r', fun hc' =>
    ⟨tmrHandlerErr (econnEnd c r).conn t.handler, ?_⟩⟩
  simp [econnStep, econnTmrFire, ht, closeEffects, hcl, hc']

/-- alpha ends the call it started: the cancel timer is armed, and its expiry closes the
record and calls the close handler. -/
theorem end_call_closes_alpha :
    let c := (econnStep specDeps alpha (.start (some "v=0") none) 0).conn
    let c' := (econnStep specDeps c .endCall 0).conn
    c'.tmrLocal.isSome ∧ (econnStep specDeps c' .tmrFire 0).conn.closed = true ∧
      (c.closeh = true →
        ∃ err, Effect.closeh err ∈ (econnStep specDeps c' .tmrFire 0).effects) :=
  end_then_timer_closes (Run.step _ 0 (Run.alloc alpha_alloc) rfl) (by decide) (by decide)
    (by decide) 0 0

/-- The handler `tmr_local` runs in a waiting state: `tmr_term_handler` in HANGUP_SENT,
`tmr_local_handler` while a SETUP or UPDATE is outstanding. -/
def State.timerHandler : State → TmrHandler
  | .hangupSent => .termHandler
  | _ => .localHandler

/-- A waiting record's timer runs the handler of its state. -/
def HandlerCoupled (c : Conn) : Prop :=
  ∀ t, c.tmrLocal = some t → c.state.waiting = true → t.handler = c.state.timerHandler

/-- Every step keeps the handler coupling, given a nonzero `timeout_setup`: the paths into
a waiting state arm the timer of that state, and the glare loser keeps the setup timer of
PENDING_OUTGOING. -/
theorem Moves.handlerCoupled {c c' : Conn} {e : Event} {r : Int} {effs : List Effect}
    (hm : Moves d c e r c' effs) (hts : c.conf.timeoutSetup ≠ 0) (h : HandlerCoupled c) :
    HandlerCoupled c' := by
  intro t ht hw
  cases hm
  case start | updateReq =>
    simp only [armSetup, hts, if_false, Option.some.injEq] at ht
    subst ht
    rfl
  case incoming | updateRecv | endHangup =>
    cases ht
    rfl
  case glareLose =>
    have hst : c.state = .pendingOutgoing := by assumption
    simpa [hst, State.timerHandler] using h t ht (by simp [hst, State.waiting])
  case stay | propsync | setError | adopt | glareWin => exact h t ht hw
  all_goals cases hw

theorem Run.handlerCoupled {guard : Conn → Event → Bool} {c : Conn} (hc : Run d guard c)
    (hts : 0 < c.conf.timeoutSetup) : HandlerCoupled c := by
  induction hc with
  | alloc h =>
    intro t ht
    simp [(econnAlloc_ok h).2.1] at ht
  | @step c e r _ _ ih =>
    have hm := econnStep_moves d c e r
    rw [hm.conf] at hts
    exact hm.handlerCoupled (by omega) (ih hts)

/-- With a nonzero `timeout_setup`, every reachable record's waiting timer runs the
handler of its state. One with a close handler in any state but IDLE and TERMINATING,
whose application sets the error `err` and ends the call: the next expiry closes it, and
the close handler is the one effect, reporting `err`, or ETIMEDOUT when an UPDATE was
outstanding. -/
theorem end_reports_error {c : Conn} (hc : Reachable d c) (hts : 0 < c.conf.timeoutSetup)
    (hcl : c.closeh = true) (hidle : c.state ≠ .idle) (hterm : c.state ≠ .terminating)
    (err r r' r'' : Int) :
    let c' := (econnStep d (econnStep d c (.setError err) r).conn .endCall r').conn
    let res := econnStep d c' .tmrFire r''
    let reported := if c.state = .updateSent ∨ c.state = .updateRecv then ETIMEDOUT else err
    HandlerCoupled c ∧ res.effects = [.closeh reported] ∧ res.conn.closed = true ∧
      res.conn.setupErr = reported := by
  have harm := (Run.timerCoupled hc hts).1
  have hh := Run.handlerCoupled hc hts
  have hhr := Run.ne_hangupRecv hc
  refine ⟨hh, ?_⟩
  obtain ⟨s, hs⟩ : ∃ s, c.state = s := ⟨_, rfl⟩
  cases s
  case idle => exact absurd hs hidle
  case terminating => exact absurd hs hterm
  case hangupRecv => exact absurd hs hhr
  case updateSent | updateRecv | hangupSent =>
    obtain ⟨t, ht⟩ := Option.isSome_iff_exists.mp (harm (by simp [hs, State.waiting]))
    have hth := hh t ht (by simp [hs, State.waiting])
    simp only [hs, State.timerHandler] at hth
    simp [econnStep, econnSetError, econnEnd, econnTmrFire, hs, ht, hth, tmrHandlerErr,
      closeEffects, closedConn, hcl]
  all_goals simp [econnStep, econnSetError, econnEnd, econnTmrFire, hs, tmrHandlerErr,
    closeEffects, closedConn, hcl]

/-- alpha's timer runs the setup handler after it starts a call; alpha sets the error 7
and ends the call: the close handler reports 7. -/
theorem end_reports_alpha_error :
    let c := (econnStep specDeps alpha (.start (some "v=0") none) 0).conn
    let c' := (econnStep specDeps (econnStep specDeps c (.setError 7) 0).conn .endCall 0).conn
    let res := econnStep specDeps c' .tmrFire 0
    let reported := if c.state = .updateSent ∨ c.state = .updateRecv then ETIMEDOUT else 7
    HandlerCoupled c ∧ res.effects = [.closeh reported] ∧ res.conn.closed = true ∧
      res.conn.setupErr = reported :=
  end_reports_error (Run.step (.start (some "v=0") none) 0 (Run.alloc alpha_alloc) rfl)
    (by decide) rfl (by decide) (by decide) 7 0 0 0

end Econn
