/-
What one endpoint's close leaves the other in.

# The question

When A's close handler has run and nothing A sent is still on the way, is B closed, or
about to be closed by its own timer? The setting is Pair.lean's: every send answered 0,
both applications keeping to the spec's table, any armed timer free to expire.

# What holds

Not always. A HANGUP that reaches B in ANSWERED, before B's application has reported the
data channel, is dropped by `recv_hangup`, and A closes when its term timer expires: B
stays ANSWERED with no timer (`orphan_after_hangup`). What every run keeps instead is
that B is then TERMINATING, has `tmr_local` armed, or is in ANSWERED or
DATACHAN_ESTABLISHED, which only B's own application ends.

# The invariant

Per record, `Settled`: the timer coupling of Run.lean (given a nonzero `timeout_setup`),
a closed record stays quiet in TERMINATING, and no record stands in HANGUP_RECV, which
`recv_hangup` leaves within the same call. Per direction, `Awaits`: while B is IDLE it
has bound nothing and sent nothing, and A is IDLE with nothing sent or the first message
on the way to B is a SETUP request, which takes B out of IDLE. A closed record is
TERMINATING and so not IDLE; with A's channel empty, B is not IDLE either, and each state
B can be in has its timer armed or is established.
-/
import Econn.Pair

namespace Econn

variable (d : Deps)

-- ================================================================ vocabulary

/-- The channel's first message is a SETUP request. -/
def opensWithRequest : List Message → Bool
  | m :: _ => m.msgType = .setup && !m.resp
  | [] => false

theorem opensWithRequest_append {ch : List Message} (h : opensWithRequest ch = true)
    (out : List Message) : opensWithRequest (ch ++ out) = true := by
  cases ch with
  | nil => cases h
  | cons m rest => exact h

/-- What every run keeps of one record. -/
structure Settled (c : Conn) : Prop where
  timer : c.conf.timeoutSetup ≠ 0 → TimerCoupled c
  closed : ClosedQuiet c
  notHangupRecv : c.state ≠ .hangupRecv

/-- While `y` is IDLE, nothing of `x` has reached it: `y` has bound no client id and sent
nothing, and `x` is IDLE with nothing sent, or its first message on the way is a SETUP
request. -/
def Awaits (x y : Conn) (cxy cyx : List Message) : Prop :=
  y.state = .idle →
    y.clientidRemote = "" ∧ cyx = [] ∧
      (x.state = .idle ∧ cxy = [] ∨ opensWithRequest cxy = true)

/-- Both records settled, and each awaits the other while IDLE. -/
structure Pair.Tended (P : Pair) : Prop where
  a : Settled P.a.conn
  b : Settled P.b.conn
  ab : Awaits P.a.conn P.b.conn P.ab P.ba
  ba : Awaits P.b.conn P.a.conn P.ba P.ab

theorem Pair.Tended.swap {P : Pair} (h : P.Tended) : P.swap.Tended := ⟨h.b, h.a, h.ba, h.ab⟩

-- ================================================================ one record

section Record

variable {d} {c c' : Conn} {e : Event} {r : Int} {effs : List Effect}

/-- No path leads into IDLE. -/
theorem Moves.idle_before (hm : Moves d c e r c' effs) (h : c'.state = .idle) :
    c.state = .idle := by
  cases hm <;> simp_all [closedConn]

/-- No path stops in HANGUP_RECV: `recv_hangup` goes on to close. -/
theorem Moves.ne_hangupRecv (hm : Moves d c e r c' effs) (h : c.state ≠ .hangupRecv) :
    c'.state ≠ .hangupRecv := by
  cases hm <;> simp_all [closedConn]

theorem Moves.settled (hm : Moves d c e r c' effs) (he : allowed c e = true) (h : Settled c) :
    Settled c' where
  timer ht := by
    rw [hm.conf] at ht
    exact hm.timerCoupled ht (h.timer ht)
  closed := hm.closedQuiet he h.closed
  notHangupRecv := hm.ne_hangupRecv h.notHangupRecv

/-- From IDLE with no timer, an application call either changes neither the state nor
the bound client id and sends nothing, or is `econn_start`, whose SETUP request goes out
first. -/
theorem Moves.idle_call {x : Endpoint} (hm : Moves d x.conn e 0 c' effs) (hmay : x.may e = true)
    (hst : x.conn.state = .idle) (ht : x.conn.tmrLocal = none) (htr : x.conn.transp = true) :
    c'.state = .idle ∧ c'.clientidRemote = x.conn.clientidRemote ∧ effs.filterMap Effect.sent = [] ∨
      c'.state = .pendingOutgoing ∧ opensWithRequest (effs.filterMap Effect.sent) = true := by
  cases hm <;>
    simp_all [Endpoint.may, allowed, sendResult, sendEffects, setupMessage, messageInit,
      Effect.sent, opensWithRequest]

/-- A SETUP request takes an IDLE record that has bound no client id to PENDING_INCOMING. -/
theorem econnStep_request_idle {u cl : String} {m : Message} (hst : c.state = .idle)
    (hc : c.clientidRemote = "") (hty : m.msgType = .setup) (hreq : m.resp = false) :
    (econnStep d c (.recvMessage u cl m) r).conn.state = .pendingIncoming := by
  have hp : setupPasses c cl = true := by simp [setupPasses, hc]
  simp [econnStep, econnRecvMessage, hty, recvSetup_eq c u cl m hp, Message.isRequest, hreq,
    handleSetupRequest, hst]

end Record

-- ================================================================== the pair

section Pair

variable {d}

/-- A step of A keeps the pair tended. -/
theorem Pair.SideStep.tended {P Q : Pair} (h : Pair.SideStep d P Q) (hw : P.Wf d)
    (hi : P.Tended) : Q.Tended := by
  cases h with
  | @call a b ab ba e hmay =>
    have hm := econnStep_moves d a.conn e 0
    have he : allowed a.conn e = true := by cases e <;> simp_all [Endpoint.may]
    have hcall := fun hst => hm.idle_call hmay hst (hw.1.idle hst) hw.1.transp
    refine ⟨hm.settled he hi.a, hi.b, fun hb => ?_, fun ha' => ?_⟩
    · obtain ⟨hbc, hba, hor⟩ := hi.ab hb
      refine ⟨hbc, hba, ?_⟩
      rcases hor with ⟨hst, rfl⟩ | hopen
      · rcases hcall hst with ⟨hst', -, hout⟩ | ⟨-, hout⟩
        · exact .inl ⟨hst', by simp [Endpoint.run, hout]⟩
        · exact .inr hout
      · exact .inr (opensWithRequest_append hopen _)
    · have ha := hm.idle_before ha'
      obtain ⟨hac, rfl, hor⟩ := hi.ba ha
      rcases hcall ha with ⟨-, hc', hout⟩ | ⟨hst', -⟩
      · exact ⟨hc'.trans hac, by simp [Endpoint.run, hout], hor⟩
      · simp [Endpoint.run, hst'] at ha'
  | @deliver a b ab rest m =>
    have hm := econnStep_moves d a.conn (.recvMessage b.conn.useridSelf b.conn.clientid m) 0
    refine ⟨hm.settled rfl hi.a, hi.b, fun hb => ?_, fun ha' => ?_⟩
    · obtain ⟨-, hba, -⟩ := hi.ab hb
      cases hba
    · obtain ⟨hac, -, hor⟩ := hi.ba (hm.idle_before ha')
      rcases hor with ⟨-, hrest⟩ | hopen
      · cases hrest
      · simp only [opensWithRequest, Bool.and_eq_true, decide_eq_true_eq, Bool.not_eq_true']
          at hopen
        have : (econnStep d a.conn (.recvMessage b.conn.useridSelf b.conn.clientid m) 0).conn.state =
            .pendingIncoming := econnStep_request_idle (hm.idle_before ha') hac hopen.1 hopen.2
        simp [Endpoint.run, this] at ha'

/-- Every pair two allocations reach is tended. -/
theorem Pair.Reach.tended {P : Pair} (h : Pair.Reach d P) : P.Tended := by
  induction h with
  | init ha hb =>
    obtain ⟨ha1, ha2, ha3, -, ha5, -⟩ := econnAlloc_ok ha
    obtain ⟨hb1, hb2, hb3, -, hb5, -⟩ := econnAlloc_ok hb
    refine ⟨⟨fun _ => ?_, ?_, ?_⟩, ⟨fun _ => ?_, ?_, ?_⟩, fun _ => ?_, fun _ => ?_⟩ <;>
      simp_all [TimerCoupled, ClosedQuiet, State.waiting]
  | step hP hs ih =>
    rcases hs with hs | hs
    · exact hs.tended hP.wf ih
    · exact (hs.tended (Pair.wf_swap hP.wf) ih.swap).swap

/-- In a tended pair, once A is closed and its channel is empty, B is TERMINATING, has
its timer armed, or is established. -/
theorem Pair.Tended.peer_covered {P : Pair} (hi : P.Tended)
    (htb : P.b.conn.conf.timeoutSetup ≠ 0) (hcl : P.a.conn.closed = true) (hab : P.ab = []) :
    P.b.conn.state = .terminating ∨ P.b.conn.tmrLocal.isSome ∨
      P.b.conn.state = .answered ∨ P.b.conn.state = .datachanEstablished := by
  have hta := (hi.a.closed hcl).1
  have hcoupled := (hi.b.timer htb).1
  obtain ⟨s, hs⟩ : ∃ s, P.b.conn.state = s := ⟨_, rfl⟩
  cases s
  case idle =>
    obtain ⟨-, -, ⟨hidle, -⟩ | hopen⟩ := hi.ab hs
    · simp [hta] at hidle
    · simp [hab, opensWithRequest] at hopen
  case hangupRecv => exact absurd hs hi.b.notHangupRecv
  all_goals simp_all [State.waiting]

end Pair

-- =============================================================== the result

/-- Two records that talk only to each other, with nonzero setup timeouts: once one has
closed and nothing it sent is on the way, the other is TERMINATING, has `tmr_local`
armed, or is in ANSWERED or DATACHAN_ESTABLISHED. -/
theorem pair_no_orphan_waiting {P : Pair} (h : Pair.Reach d P)
    (hta : P.a.conn.conf.timeoutSetup ≠ 0) (htb : P.b.conn.conf.timeoutSetup ≠ 0) :
    (P.a.conn.closed = true → P.ab = [] →
      P.b.conn.state = .terminating ∨ P.b.conn.tmrLocal.isSome ∨
        P.b.conn.state = .answered ∨ P.b.conn.state = .datachanEstablished) ∧
    (P.b.conn.closed = true → P.ba = [] →
      P.a.conn.state = .terminating ∨ P.a.conn.tmrLocal.isSome ∨
        P.a.conn.state = .answered ∨ P.a.conn.state = .datachanEstablished) :=
  ⟨h.tended.peer_covered htb, h.swap.tended.peer_covered hta⟩

/-- alpha calls bravo, bravo answers, alpha reports its data channel and hangs up before
bravo reports its own; bravo drops the HANGUP, and alpha's term timer expires. -/
def orphanSchedule : List (Bool × Pair.Move) :=
  [(true, .call (.start (some "v=0") none)), (false, .deliver),
    (false, .call (.answer (some "v=1") none)), (true, .deliver),
    (true, .call .setDatachanEstablished), (true, .call .endCall), (false, .deliver),
    (true, .call .tmrFire)]

/-- alpha is closed and has nothing on the way, and bravo is ANSWERED with no timer. -/
theorem orphan_after_hangup :
    let P := (pairAB.execAll specDeps orphanSchedule).getD pairAB
    Pair.Reach specDeps P ∧ P.a.conn.closed = true ∧ P.ab = [] ∧
      P.b.conn.state = .answered ∧ P.b.conn.tmrLocal = none := by
  have hrun : pairAB.execAll specDeps orphanSchedule =
      some ((pairAB.execAll specDeps orphanSchedule).getD pairAB) := rfl
  exact ⟨Pair.Reach.of_execAll specDeps pairAB_reach hrun, by decide, rfl, by decide, rfl⟩

/-- The orphaned bravo is covered by the established case. -/
theorem orphan_peer_established :
    let P := (pairAB.execAll specDeps orphanSchedule).getD pairAB
    P.a.conn.closed = true ∧ P.ab = [] ∧
      (P.b.conn.state = .terminating ∨ P.b.conn.tmrLocal.isSome ∨
        P.b.conn.state = .answered ∨ P.b.conn.state = .datachanEstablished) := by
  have hrun : pairAB.execAll specDeps orphanSchedule =
      some ((pairAB.execAll specDeps orphanSchedule).getD pairAB) := rfl
  exact ⟨by decide, rfl, (pair_no_orphan_waiting specDeps
    (Pair.Reach.of_execAll specDeps pairAB_reach hrun) (by decide) (by decide)).1 (by decide) rfl⟩

end Econn
