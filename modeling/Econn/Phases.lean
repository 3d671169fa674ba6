/-
Where the two records of a pair stand relative to each other (src/src/econn/econn.c):
the states they can be in together, and who called whom.

# The phases

`Phases x y wins answerOnWay` is what the state `x` of one record says of the state `y`
of its peer while the call is under way. IDLE sees the peer IDLE or PENDING_OUTGOING.
PENDING_INCOMING sees it PENDING_OUTGOING. CONFLICT_RESOLUTION sees it PENDING_OUTGOING,
and belongs to the loser of the glare (`wins` false). ANSWERED and DATACHAN_ESTABLISHED see
it ANSWERED, DATACHAN_ESTABLISHED or UPDATE_SENT, or PENDING_OUTGOING with the SETUP
response on its way (`answerOnWay`). UPDATE_RECV sees it UPDATE_SENT.

`pair_phases`: in every run of two records whose ids fit each other's buffers, with the
winner rule antisymmetric on their ids, one record has ended (HANGUP_SENT, HANGUP_RECV or
TERMINATING) or both directions keep `Phases`. So the two are never both
PENDING_INCOMING, both CONFLICT_RESOLUTION or both UPDATE_RECV, and neither is IDLE while
the other has taken its call.

# Why the ids must fit

The invariant of Agreement.lean keeps a third case, `Blocked`: one record's messages are
dropped at the other for good, which happens when the peer's buffer truncates an id. A
SETUP response dropped so leaves the answerer ANSWERED and the caller PENDING_OUTGOING,
with nothing on the way. When the ids fit, `Blocked` needs a record in UPDATE_SENT that
has not bound its peer's session id; `Side.Bound` rules that out, a second invariant of
the glare model: a record past the SETUP exchange has bound both of its peer's ids.

# Who called

`pair_one_callee`: a record that reports the incoming direction has a peer that reports
the outgoing one. The SETUP request it took was sent by `econn_start`, which set the
outgoing direction, and a direction once set is kept (Callbacks.lean).
-/
import Econn.Simulation
import Econn.Callbacks

namespace Econn

/-- What the state `x` of one record says of the state `y` of its peer while the call is
under way; `wins` is whether `x` wins a glare, `answerOnWay` whether a SETUP response of
`x` is on its way to `y`. -/
structure Phases (x y : State) (wins : Bool) (answerOnWay : Prop) : Prop where
  idle : x = .idle → y = .idle ∨ y = .pendingOutgoing
  pendingIncoming : x = .pendingIncoming → y = .pendingOutgoing
  conflictResolution : x = .conflictResolution → y = .pendingOutgoing ∧ wins = false
  established : x.est = true →
    y.est = true ∨ y = .updateSent ∨ y = .pendingOutgoing ∧ answerOnWay
  updateRecv : x = .updateRecv → y = .updateSent

end Econn

namespace Econn.Glare

-- ====================================================== bound peers

/-- A record past the SETUP exchange has bound both of its peer's ids. -/
def Side.Bound (x : Side) : Prop := x.st.bound = true → x.cid = true ∧ x.sid = true

section Bound

variable {x x' y : Side} {out : List Msg} {ix : Ids}

/-- An application call enters a state past the SETUP exchange only from another. -/
theorem Acts.bound (h : Acts x x' out) (hb : x.Bound) : x'.Bound := by
  unfold Side.Bound at *
  cases h <;> (try casesm* _ ∨ _) <;> simp_all [State.bound]

/-- A SETUP binds both ids on its way past the exchange; the other messages need them
bound already, or leave the exchange. The endpoint a delivery leaves is the same, or has
both ids bound, or has bound the client id in the same state, or has ended, or has
taken an UPDATE its checks accepted. -/
theorem recv_bound (hb : x.Bound) (iy : Ids) (w : Bool) (m : Msg) : (recv x iy w m).1.Bound := by
  obtain ⟨k, v⟩ := m
  unfold Side.Bound at *
  cases k <;> simp only [recv] <;> (repeat' split) <;> first
    | exact hb
    | exact fun _ => ⟨rfl, rfl⟩
    | exact fun h => ⟨rfl, (hb h).2⟩
    | exact fun h => absurd h Bool.false_ne_true
    | simp_all [accepts]

theorem SideStep.bound {ia ib : Ids} {J J' : Joint} (h : SideStep ia ib J J') (ha : J.a.Bound)
    (hb : J.b.Bound) : J'.a.Bound ∧ J'.b.Bound := by
  cases h with
  | act h => exact ⟨h.bound ha, hb⟩
  | recv => exact ⟨recv_bound ha _ _ _, hb⟩

theorem Reach.bound {ia ib : Ids} {J : Joint} (h : Reach ia ib J) : J.a.Bound ∧ J.b.Bound := by
  induction h with
  | init ha hb =>
    subst ha hb
    simp [Side.Bound, State.bound]
  | step _ hs ih =>
    rcases hs with hs | hs
    · exact hs.bound ih.1 ih.2
    · exact (hs.bound ih.2 ih.1).symm

/-- With ids that come through the buffers, a record that has bound its peer's ids never
drops the peer's messages for good. -/
theorem Blocked.not_of_fit (hy : y.Bound) (hc : ix.cidOK = true) (hs : ix.sidOK = true) :
    ¬ Blocked y ix := by
  rintro (⟨-, -, h⟩ | ⟨hst, -, h⟩)
  · simp [hc] at h
  · obtain ⟨h1, h2⟩ := hy (by simp [hst, State.bound])
    simp [accepts, h1, h2, hc, hs] at h

end Bound

-- ============================================================ the phases

theorem Dir.phases {x y : Side} {cxy cyx : List Msg} {ix : Ids} (D : Dir x y cxy cyx ix) :
    Phases x.st y.st ix.wins (.sresp ∈ sdps cxy) :=
  ⟨fun h => (D.idle h).2.1, D.pi, D.cr, D.est, fun h => (D.ur h).1⟩

/-- In every reachable state of the glare model with ids that come through the buffers,
an endpoint has ended or both directions keep `Phases`. -/
theorem Reach.phases {ia ib : Ids} {J : Joint} (hw : ib.wins = !ia.wins) (h : Reach ia ib J)
    (hfa : ia.cidOK = true ∧ ia.sidOK = true) (hfb : ib.cidOK = true ∧ ib.sidOK = true) :
    J.a.st.dead = true ∨ J.b.st.dead = true ∨
      Phases J.a.st J.b.st ia.wins (.sresp ∈ sdps J.ab) ∧
        Phases J.b.st J.a.st ib.wins (.sresp ∈ sdps J.ba) := by
  obtain ⟨-, -, hl⟩ := h.inv hw
  obtain ⟨ha, hb⟩ := h.bound
  rcases hl with hd | hd | hbl | hbl | ⟨D1, D2⟩
  · exact .inl hd
  · exact .inr (.inl hd)
  · exact absurd hbl (Blocked.not_of_fit hb hfa.1 hfa.2)
  · exact absurd hbl (Blocked.not_of_fit ha hfb.1 hfb.2)
  · exact .inr (.inr ⟨D1.phases, D2.phases⟩)

end Econn.Glare

namespace Econn

variable (d : Deps)

theorem Message.kind_eq_sresp (m : Message) :
    m.kind = .sresp ↔ m.msgType = .setup ∧ m.resp = true := by
  unfold Message.kind
  split <;> simp_all

theorem sresp_mem_sdps (ch : List Message) :
    Glare.Kind.sresp ∈ Glare.sdps (ch.map Message.glare) ↔
      ∃ m ∈ ch, m.msgType = .setup ∧ m.resp = true := by
  simp [Glare.sdps, Message.glare, Glare.Kind.carriesSdp, ← Message.kind_eq_sresp]

variable {d}

/-- An id comes through its peer's buffer when the buffer has room for all of it. -/
theorem glareIds_ok {x y : Conn} (hc : x.clientid.data.length < d.clientidRemoteSize)
    (hs : x.sessidLocal.data.length < d.sessidRemoteSize) :
    (glareIds d x y).cidOK = true ∧ (glareIds d x y).sidOK = true :=
  ⟨(strCaseEq_strNcpy_iff (Nat.le_of_succ_le d.two_le_clientidRemoteSize) _).mpr hc,
    (strCaseEq_strNcpy_iff (Nat.le_of_succ_le d.two_le_sessidRemoteSize) _).mpr hs⟩

variable (d)

/-- Two records that talk only to each other, driven by applications that keep to the
spec's table, with the winner rule antisymmetric on their id pairs and ids that fit each
other's buffers: in every run, one of them has ended, or each one's state fits the
other's as `Phases` says. -/
theorem pair_phases {P : Pair} (h : Pair.Reach d P)
    (hwin : d.iswinner P.b.conn.useridSelf P.b.conn.clientid P.a.conn.useridSelf
      P.a.conn.clientid = !d.iswinner P.a.conn.useridSelf P.a.conn.clientid
        P.b.conn.useridSelf P.b.conn.clientid)
    (hfit : P.a.conn.clientid.data.length < d.clientidRemoteSize ∧
      P.a.conn.sessidLocal.data.length < d.sessidRemoteSize ∧
      P.b.conn.clientid.data.length < d.clientidRemoteSize ∧
      P.b.conn.sessidLocal.data.length < d.sessidRemoteSize) :
    P.a.conn.state.dead = true ∨ P.b.conn.state.dead = true ∨
      Phases P.a.conn.state P.b.conn.state
          (d.iswinner P.a.conn.useridSelf P.a.conn.clientid P.b.conn.useridSelf
            P.b.conn.clientid)
          (∃ m ∈ P.ab, m.msgType = .setup ∧ m.resp = true) ∧
        Phases P.b.conn.state P.a.conn.state
          (d.iswinner P.b.conn.useridSelf P.b.conn.clientid P.a.conn.useridSelf
            P.a.conn.clientid)
          (∃ m ∈ P.ba, m.msgType = .setup ∧ m.resp = true) := by
  obtain ⟨h1, h2, h3, h4⟩ := hfit
  have := (Pair.Reach.glare h).phases hwin (glareIds_ok h1 h2) (glareIds_ok h3 h4)
  simpa only [← sresp_mem_sdps] using this

/-- alpha and bravo start at once: alpha, the loser, is in CONFLICT_RESOLUTION, and bravo
waits in PENDING_OUTGOING for its answer. -/
def glareSchedule : List (Bool × Pair.Move) :=
  [(true, .call (.start (some "v=0") none)), (false, .call (.start (some "v=1") none)),
    (true, .deliver), (false, .deliver)]

theorem glare_phases :
    let P := (pairAB.execAll specDeps glareSchedule).getD pairAB
    P.a.conn.state = .conflictResolution ∧ P.b.conn.state = .pendingOutgoing ∧
      (P.a.conn.state.dead = true ∨ P.b.conn.state.dead = true ∨
        Phases P.a.conn.state P.b.conn.state
            (specDeps.iswinner P.a.conn.useridSelf P.a.conn.clientid P.b.conn.useridSelf
              P.b.conn.clientid)
            (∃ m ∈ P.ab, m.msgType = .setup ∧ m.resp = true) ∧
          Phases P.b.conn.state P.a.conn.state
            (specDeps.iswinner P.b.conn.useridSelf P.b.conn.clientid P.a.conn.useridSelf
              P.a.conn.clientid)
            (∃ m ∈ P.ba, m.msgType = .setup ∧ m.resp = true)) := by
  have hrun : pairAB.execAll specDeps glareSchedule =
      some ((pairAB.execAll specDeps glareSchedule).getD pairAB) := rfl
  exact ⟨by decide, by decide,
    pair_phases specDeps (Pair.Reach.of_execAll specDeps pairAB_reach hrun) (by decide)
      (by decide)⟩

-- ============================================================ who called

section Callers

variable {d} {c : Conn} {r : Int}

theorem Message.kind_eq_req (m : Message) :
    m.kind = .req ↔ m.msgType = .setup ∧ m.resp = false := by
  unfold Message.kind
  split <;> simp_all

/-- In the glare model, a SETUP request goes out only with `econn_start`. -/
theorem Glare.Acts.started_of_req {x x' : Glare.Side} {out : List Glare.Msg}
    (h : Glare.Acts x x' out) {v : Option String} (hm : ⟨.req, v⟩ ∈ out) :
    x'.started = true := by
  cases h <;> (try split at hm) <;> simp_all

/-- A delivery answers with a HANGUP response at most. -/
theorem Glare.recv_kind (x : Glare.Side) (iy : Glare.Ids) (w : Bool) (m : Glare.Msg)
    {m' : Glare.Msg} (h : m' ∈ (Glare.recv x iy w m).2) : m'.kind = .hresp := by
  obtain ⟨k, v⟩ := m
  cases k <;> simp only [Glare.recv] at h <;> (repeat' split at h) <;>
    first | exact absurd h (List.not_mem_nil _) | simp [List.mem_singleton.mp h]

/-- `econn_start`, in a state the spec allows it, sets the outgoing direction whatever
the send gives. -/
theorem econnStart_dir {sdp : Option String} {props : Option Props}
    (hst : c.state = .idle ∨ c.state = .pendingOutgoing) :
    (econnStart c sdp props r).conn.dir = .outgoing := by
  by_cases h0 : sendResult c.transp r = 0
  · simp [econnStart, hst, h0]
    split <;> rfl
  · simp [econnStart, hst, h0]

/-- Who called, as a record `x` with peer `y` and outgoing channel `cxy` keeps it: a
SETUP request on its way was sent after `econn_start`, which set the outgoing direction;
the incoming direction was set by a request of the peer, which had started; and the
direction fits the state. -/
structure Callers (x y : Endpoint) (cxy : List Message) : Prop where
  sent : ∀ m ∈ cxy, m.kind = .req → x.started = true
  started : x.started = true → x.conn.dir = .outgoing
  incoming : x.conn.dir = .incoming → y.started = true
  coupled : DirCoupled x.conn

/-- A record that has started keeps the outgoing direction over any step. -/
theorem Callers.started_step {x y : Endpoint} {cxy : List Message} {c' : Conn} {e : Event}
    {effs : List Effect} (ha : Callers x y cxy) (hm : Moves d x.conn e r c' effs)
    (hs : x.started = true) : c'.dir = .outgoing :=
  (hm.dir_kept ha.coupled (by simp [ha.started hs])).trans (ha.started hs)

/-- After a step, the incoming direction comes from before the step, where the peer had
started, or from a SETUP request the step took. -/
theorem Callers.incoming_step {x y : Endpoint} {cxy : List Message} {c' : Conn} {e : Event}
    {effs : List Effect} (ha : Callers x y cxy) (hm : Moves d x.conn e r c' effs)
    (hi : c'.dir = .incoming) :
    y.started = true ∨ ∃ u cl m, e = .recvMessage u cl m ∧ m.kind = .req := by
  rcases hm.dir_cases with ⟨hd, -⟩ | ⟨hd, -⟩ | ⟨-, -, -, u, cl, m, he, hty, hreq⟩
  · exact .inl (ha.incoming (hd ▸ hi))
  · simp [hd] at hi
  · exact .inr ⟨u, cl, m, he, (Message.kind_eq_req _).mpr ⟨hty, hreq⟩⟩

/-- A step of A keeps who called, on both sides. -/
theorem Pair.SideStep.callers {P Q : Pair} (h : Pair.SideStep d P Q) (hw : P.Wf d)
    (ha : Callers P.a P.b P.ab) (hb : Callers P.b P.a P.ba) :
    Callers Q.a Q.b Q.ab ∧ Callers Q.b Q.a Q.ba := by
  cases h with
  | @call a b ab ba e hmay =>
    dsimp only at ha hb hw ⊢
    have hm := econnStep_moves d a.conn e 0
    refine ⟨⟨fun m hm' hk => ?_, fun hs => ?_, fun hi => ?_, hm.dirCoupled ha.coupled⟩,
      { hb with incoming := fun hi => by simp [Endpoint.run, hb.incoming hi] }⟩
    · rcases List.mem_append.mp hm' with hm' | hm'
      · simp [Endpoint.run, ha.sent m hm' hk]
      · rcases Endpoint.run_call hw.1 hmay with hact | ⟨-, hout⟩
        · exact hact.started_of_req (v := m.sdp)
            (List.mem_map.mpr ⟨m, hm', by simp [Message.glare, hk]⟩)
        · simp [hout] at hm'
    · simp only [Endpoint.run, Bool.or_eq_true] at hs
      rcases hs with hs | hs
      · exact ha.started_step hm hs
      · cases e <;> simp_all [Event.isStart, Endpoint.may, allowed, Endpoint.run, econnStep,
          econnStart_dir]
    · rcases ha.incoming_step hm hi with hs | ⟨u, cl, m, rfl, -⟩
      · exact hs
      · simp [Endpoint.may] at hmay
  | @deliver a b ab rest m =>
    dsimp only at ha hb hw ⊢
    have hm := econnStep_moves d a.conn (.recvMessage b.conn.useridSelf b.conn.clientid m) 0
    refine ⟨⟨fun m' hm' hk => ?_, fun hs => ?_, fun hi => ?_, hm.dirCoupled ha.coupled⟩,
      ⟨fun m' hm' => hb.sent m' (.tail _ hm'), hb.started,
        fun hi => by simp [Endpoint.run, hb.incoming hi], hb.coupled⟩⟩
    · rcases List.mem_append.mp hm' with hm' | hm'
      · simp [Endpoint.run, ha.sent m' hm' hk]
      · obtain ⟨-, hout⟩ :=
          Endpoint.run_deliver hw.1 hw.2 (hw.2.sent m (List.mem_cons_self _ _)).1
        have := Glare.recv_kind _ _ _ _ (hout ▸ List.mem_map_of_mem Message.glare hm')
        simp [Message.glare, hk] at this
    · simp only [Endpoint.run, Event.isStart, Bool.or_false] at hs
      exact ha.started_step hm hs
    · rcases ha.incoming_step hm hi with hs | ⟨u, cl, m', he, hk⟩
      · exact hs
      · cases he
        exact hb.sent _ (List.mem_cons_self _ _) hk

theorem Pair.Reach.callers {P : Pair} (h : Pair.Reach d P) :
    Callers P.a P.b P.ab ∧ Callers P.b P.a P.ba := by
  induction h with
  | init ha hb =>
    have hca := Run.dirCoupled (show Reachable d _ from .alloc ha)
    have hcb := Run.dirCoupled (show Reachable d _ from .alloc hb)
    have hia := hca.1 (econnAlloc_ok ha).1
    have hib := hcb.1 (econnAlloc_ok hb).1
    exact ⟨⟨by simp, by simp, by simp [hia], hca⟩,
      ⟨by simp, by simp, by simp [hib], hcb⟩⟩
  | step hP hs ih =>
    rcases hs with hs | hs
    · exact hs.callers hP.wf ih.1 ih.2
    · exact (hs.callers (Pair.wf_swap hP.wf) ih.2 ih.1).symm

end Callers

/-- In every run of two records, a record that reports the incoming direction has a peer
that reports the outgoing one: the two never both take the call as incoming. -/
theorem pair_one_callee {P : Pair} (h : Pair.Reach d P) :
    (P.a.conn.dir = .incoming → P.b.conn.dir = .outgoing) ∧
      (P.b.conn.dir = .incoming → P.a.conn.dir = .outgoing) :=
  have key := h.callers
  ⟨fun hi => key.2.started (key.1.incoming hi), fun hi => key.1.started (key.2.incoming hi)⟩

/-- alpha calls bravo and bravo answers: bravo took the call as incoming, alpha placed it
as outgoing. -/
theorem call_one_callee :
    let P := (pairAB.execAll specDeps callSchedule).getD pairAB
    P.b.conn.dir = .incoming ∧ P.a.conn.dir = .outgoing ∧
      ((P.a.conn.dir = .incoming → P.b.conn.dir = .outgoing) ∧
        (P.b.conn.dir = .incoming → P.a.conn.dir = .outgoing)) := by
  have hrun : pairAB.execAll specDeps callSchedule =
      some ((pairAB.execAll specDeps callSchedule).getD pairAB) := rfl
  exact ⟨by decide, by decide,
    pair_one_callee specDeps (Pair.Reach.of_execAll specDeps pairAB_reach hrun)⟩

end Econn
