/-
Two econn records talking to each other: the setting of the agreement property.

# The pair

Each record belongs to an application that calls econn only in the states the spec
allows (§4.3), and `econn_start` at most once; its timer may expire at any time. Its
transport appends every message it is handed to a FIFO channel towards the other record,
and answers 0; a delivery pops the channel's first message and hands it to
`econn_recv_message` of the other record, with the sender's user and client id. Both
records come from `econn_alloc` with a transport and all five handlers, and the tokens
`rand_str` draws for their session ids are not empty. Beside its record, an `Endpoint`
keeps what its application has seen: whether it started, the SDP it passed last, and the
SDP it was handed last.

# What every run keeps

`Wf`: the fixed fields stay as `econn_alloc` set them, a record has bound of its peer
nothing or the peer's ids as its buffers hold them, an IDLE record has no timer, and
what a record has sent carries its session id.
-/
import Econn.Run

namespace Econn

variable (d : Deps)

-- ============================================================= the pair

/-- `econn_start` is the call. -/
def Event.isStart : Event → Bool
  | .start .. => true
  | _ => false

/-- The SDP the application passes with the call: to `econn_start`, `econn_answer`,
`econn_update_req` or `econn_update_resp`. -/
def Event.passedSdp : Event → Option (Option String)
  | .start sdp _ | .answer sdp _ | .updateReq sdp _ | .updateResp sdp _ => some sdp
  | _ => none

/-- The message an effect hands to the transport. -/
def Effect.sent : Effect → Option Message
  | .send m => some m
  | _ => none

/-- The SDP an effect hands to the application: the connect, answer, update-request and
update-response handlers carry one. -/
def Effect.sdp : Effect → Option (Option String)
  | .connh _ _ _ _ sdp _ | .answerh _ sdp _ | .updateReqh _ _ sdp _ _ | .updateResph sdp _ =>
    some sdp
  | _ => none

/-- A record and what its application has seen. -/
structure Endpoint where
  conn : Conn
  started : Bool
  /-- The SDP the application last passed to econn. -/
  passed : Option (Option String)
  /-- The SDP econn last handed to the application. -/
  delivered : Option (Option String)

/-- econn runs `e` on the endpoint's record, every send answered 0; beside the endpoint,
what the event sent. -/
def Endpoint.run (x : Endpoint) (e : Event) : Endpoint × List Message :=
  let res := econnStep d x.conn e 0
  (⟨res.conn, x.started || e.isStart, e.passedSdp.or x.passed,
    ((res.effects.filterMap Effect.sdp).getLast?).or x.delivered⟩,
    res.effects.filterMap Effect.sent)

/-- What the application may do: a call the spec allows in the record's state, and
`econn_start` once; or the timer expires. Messages come only from the channel. -/
def Endpoint.may (x : Endpoint) : Event → Bool
  | .start sdp props => !x.started && allowed x.conn (.start sdp props)
  | .recvMessage .. => false
  | e => allowed x.conn e

/-- Two endpoints and their channels, in sending order. -/
structure Pair where
  a : Endpoint
  b : Endpoint
  ab : List Message
  ba : List Message

/-- The same pair with the endpoints' roles exchanged. -/
def Pair.swap (P : Pair) : Pair := ⟨P.b, P.a, P.ba, P.ab⟩

/-- One step of endpoint A: its application calls or its timer expires, or the first
message from B is delivered to it. -/
inductive Pair.SideStep : Pair → Pair → Prop
  | call {a b : Endpoint} {ab ba : List Message} {e : Event} (h : a.may e = true) :
      SideStep ⟨a, b, ab, ba⟩ ⟨(a.run d e).1, b, ab ++ (a.run d e).2, ba⟩
  | deliver {a b : Endpoint} {ab rest : List Message} {m : Message} :
      SideStep ⟨a, b, ab, m :: rest⟩
        ⟨(a.run d (.recvMessage b.conn.useridSelf b.conn.clientid m)).1, b,
          ab ++ (a.run d (.recvMessage b.conn.useridSelf b.conn.clientid m)).2, rest⟩

/-- One step of either endpoint. -/
def Pair.Step (P Q : Pair) : Prop := Pair.SideStep d P Q ∨ Pair.SideStep d P.swap Q.swap

/-- The pairs two freshly allocated records reach. -/
inductive Pair.Reach : Pair → Prop
  | init {confA confB : Option Conf} {userA clientA sessA userB clientB sessB : String}
      {ca cb : Conn}
      (ha : econnAlloc confA userA clientA true true true true true true sessA = .ok ca)
      (hb : econnAlloc confB userB clientB true true true true true true sessB = .ok cb)
      (hsa : strIsset sessA = true) (hsb : strIsset sessB = true) :
      Reach ⟨⟨ca, false, none, none⟩, ⟨cb, false, none, none⟩, [], []⟩
  | step {P Q : Pair} (h : Reach P) (hs : Pair.Step d P Q) : Reach Q

/-- A move of one endpoint: its application calls (or its timer expires), or the next
message for it is delivered. -/
inductive Pair.Move where
  | call (e : Event)
  | deliver

/-- Endpoint A makes the move, when it may. -/
def Pair.sideExec (P : Pair) : Pair.Move → Option Pair
  | .call e =>
    if P.a.may e then some ⟨(P.a.run d e).1, P.b, P.ab ++ (P.a.run d e).2, P.ba⟩ else none
  | .deliver =>
    match P.ba with
    | m :: rest =>
      let r := P.a.run d (.recvMessage P.b.conn.useridSelf P.b.conn.clientid m)
      some ⟨r.1, P.b, P.ab ++ r.2, rest⟩
    | [] => none

/-- A schedule: each entry is a move of A (`true`) or of B (`false`). -/
def Pair.execAll (P : Pair) : List (Bool × Pair.Move) → Option Pair
  | [] => some P
  | (isA, mv) :: rest =>
    let next := if isA then P.sideExec d mv else (P.swap.sideExec d mv).map Pair.swap
    next.bind fun Q => Q.execAll rest

theorem Pair.sideExec_step {P Q : Pair} {mv : Pair.Move} (h : P.sideExec d mv = some Q) :
    Pair.SideStep d P Q := by
  obtain ⟨a, b, ab, ba⟩ := P
  cases mv with
  | call e =>
    simp only [sideExec] at h
    split at h
    · cases h
      exact .call (by assumption)
    · cases h
  | deliver =>
    simp only [sideExec] at h
    split at h
    · cases h
      exact .deliver
    · cases h

theorem Pair.swap_swap (P : Pair) : P.swap.swap = P := rfl

/-- A schedule that runs to the end is a run of the pair. -/
theorem Pair.Reach.of_execAll {P Q : Pair} {sched : List (Bool × Pair.Move)} (hP : Pair.Reach d P)
    (h : P.execAll d sched = some Q) : Pair.Reach d Q := by
  induction sched generalizing P with
  | nil => cases h; exact hP
  | cons step rest ih =>
    obtain ⟨isA, mv⟩ := step
    simp only [Pair.execAll, Option.bind_eq_some] at h
    obtain ⟨P', hP', hrest⟩ := h
    refine ih (hP.step ?_) hrest
    cases isA with
    | true => exact .inl (sideExec_step d (by simpa using hP'))
    | false =>
      simp only [Option.map_eq_some', if_false, Bool.false_eq_true] at hP'
      obtain ⟨R, hR, rfl⟩ := hP'
      exact .inr (sideExec_step d hR)

-- ============================================== a deployment to run on

/-- The record user "bravo" on client "c2" allocates, with a transport, every handler,
the default configuration and the session token "sB2". -/
def bravo : Conn := { alpha with useridSelf := "bravo", clientid := "c2", sessidLocal := "sB2" }

theorem bravo_alloc :
    econnAlloc none "bravo" "c2" true true true true true true "sB2" = .ok bravo := rfl

/-- alpha and bravo, freshly allocated, with empty channels. -/
def pairAB : Pair := ⟨⟨alpha, false, none, none⟩, ⟨bravo, false, none, none⟩, [], []⟩

theorem pairAB_reach : Pair.Reach specDeps pairAB :=
  .init alpha_alloc bravo_alloc (by decide) (by decide)

-- ======================================================= well-formedness

/-- What holds of a record `x` with peer `y` and outgoing channel `cxy` on every run: a
transport and the four handlers that hand over an SDP are bound, the ids are set, what is
bound of the peer is the peer's id as the buffer holds it, an IDLE record has no timer,
and every message sent carries the record's session id. -/
structure EndWf (x y : Conn) (cxy : List Message) : Prop where
  transp : x.transp = true
  connh : x.connh = true
  answerh : x.answerh = true
  updateReqh : x.updateReqh = true
  updateResph : x.updateResph = true
  clientid : strIsset x.clientid = true
  sessid : strIsset x.sessidLocal = true
  cid : x.clientidRemote = "" ∨ x.clientidRemote = strNcpy d.clientidRemoteSize y.clientid
  sid : x.sessidRemote = "" ∨ x.sessidRemote = strNcpy d.sessidRemoteSize y.sessidLocal
  idle : x.state = .idle → x.tmrLocal = none
  sent : ∀ m ∈ cxy, m.sessidSender = x.sessidLocal ∧ m.msgType ≠ .invalid

/-- Both endpoints are well formed. -/
def Pair.Wf (P : Pair) : Prop := EndWf d P.a.conn P.b.conn P.ab ∧ EndWf d P.b.conn P.a.conn P.ba

section Moves

variable {d} {c c' : Conn} {e : Event} {r : Int} {effs : List Effect}

/-- The fields `econn_alloc` sets for good. -/
def Conn.fixed (c : Conn) : String × String × String × Bool × Bool × Bool × Bool × Bool :=
  (c.useridSelf, c.clientid, c.sessidLocal, c.transp, c.connh, c.answerh, c.updateReqh,
    c.updateResph)

theorem Moves.fixed (hm : Moves d c e r c' effs) : c'.fixed = c.fixed := by
  cases hm <;> rfl

theorem Moves.idle (hm : Moves d c e r c' effs) (h : c.state = .idle → c.tmrLocal = none) :
    c'.state = .idle → c'.tmrLocal = none := by
  cases hm <;> simp_all [closedConn]

/-- What a record sends carries its session id and a type. -/
theorem Moves.sent (hm : Moves d c e r c' effs) {m : Message} (hmem : Effect.send m ∈ effs) :
    m.sessidSender = c.sessidLocal ∧ m.msgType ≠ .invalid := by
  cases hm <;> (try simp only [sendEffects, closeEffects, List.mem_append] at hmem) <;>
    (repeat' split at hmem) <;> simp_all [setupMessage, messageInit]

theorem adoptClientid_peer {ycl : String}
    (hc : c.clientidRemote = "" ∨ c.clientidRemote = strNcpy d.clientidRemoteSize ycl) :
    adoptClientid d c ycl = "" ∨ adoptClientid d c ycl = strNcpy d.clientidRemoteSize ycl := by
  unfold adoptClientid
  split
  · exact hc
  · exact .inr rfl

/-- A record binds of its peer only what the peer's messages carry. -/
theorem Moves.peer {ycl ysess : String}
    (hm : Moves d c e r c' effs)
    (he : ∀ u cl m, e = .recvMessage u cl m → cl = ycl ∧ m.sessidSender = ysess)
    (hc : c.clientidRemote = "" ∨ c.clientidRemote = strNcpy d.clientidRemoteSize ycl)
    (hs : c.sessidRemote = "" ∨ c.sessidRemote = strNcpy d.sessidRemoteSize ysess) :
    (c'.clientidRemote = "" ∨ c'.clientidRemote = strNcpy d.clientidRemoteSize ycl) ∧
      (c'.sessidRemote = "" ∨ c'.sessidRemote = strNcpy d.sessidRemoteSize ysess) := by
  cases hm <;> first
    | exact ⟨hc, hs⟩
    | obtain ⟨rfl, hsess⟩ := he _ _ _ rfl
      first
        | exact ⟨adoptClientid_peer hc, .inr (by rw [hsess])⟩
        | exact ⟨adoptClientid_peer hc, hs⟩

end Moves

-- ========================================================== runs keep Wf

section Wf

variable {d}

/-- A step keeps a record well formed, on a message from its peer if it is one. -/
theorem EndWf.step {c y : Conn} {cxy : List Message} {e : Event} (hx : EndWf d c y cxy)
    (he : ∀ u cl m, e = .recvMessage u cl m → cl = y.clientid ∧ m.sessidSender = y.sessidLocal) :
    EndWf d (econnStep d c e 0).conn y (cxy ++ (econnStep d c e 0).effects.filterMap Effect.sent) := by
  have hm := econnStep_moves d c e 0
  have hf := hm.fixed
  simp only [Conn.fixed, Prod.mk.injEq] at hf
  obtain ⟨-, hcl, hsl, htr, h1, h2, h3, h4⟩ := hf
  obtain ⟨hc, hs⟩ := hm.peer he hx.cid hx.sid
  refine ⟨htr.trans hx.transp, h1.trans hx.connh, h2.trans hx.answerh, h3.trans hx.updateReqh,
    h4.trans hx.updateResph, hcl ▸ hx.clientid, hsl ▸ hx.sessid, hc, hs, hm.idle hx.idle,
    fun m hmem => ?_⟩
  rw [hsl]
  rcases List.mem_append.mp hmem with h | h
  · exact hx.sent m h
  · obtain ⟨eff, heff, hsent⟩ := List.mem_filterMap.mp h
    cases eff <;> simp only [Effect.sent, Option.some.injEq, reduceCtorEq] at hsent
    subst hsent
    exact hm.sent heff

/-- The peer's well-formedness reads only the fields a step keeps. -/
theorem EndWf.peer {y c c' : Conn} {cyx : List Message} (hy : EndWf d y c cyx)
    (hf : c'.fixed = c.fixed) : EndWf d y c' cyx := by
  simp only [Conn.fixed, Prod.mk.injEq] at hf
  obtain ⟨-, hcl, hsl, -⟩ := hf
  exact { hy with cid := hcl ▸ hy.cid, sid := hsl ▸ hy.sid }

theorem EndWf.pop {y c : Conn} {m : Message} {rest : List Message}
    (hy : EndWf d y c (m :: rest)) : EndWf d y c rest :=
  { hy with sent := fun m' hm => hy.sent m' (.tail _ hm) }

theorem Pair.wf_swap {P : Pair} (h : P.Wf d) : P.swap.Wf d := ⟨h.2, h.1⟩

/-- An application call, a timer expiry or a delivery keeps the pair well formed. -/
theorem Pair.SideStep.wf {P Q : Pair} (h : Pair.SideStep d P Q) (hw : P.Wf d) : Q.Wf d := by
  cases h with
  | @call a b ab ba e hmay =>
    exact ⟨hw.1.step fun u cl m he => by simp [he, Endpoint.may] at hmay,
      hw.2.peer (econnStep_moves d a.conn e 0).fixed⟩
  | @deliver a b ab rest m =>
    exact ⟨hw.1.step fun u cl m' he => by
        cases he; exact ⟨rfl, (hw.2.sent m (List.mem_cons_self _ _)).1⟩,
      hw.2.pop.peer (econnStep_moves d a.conn _ 0).fixed⟩

theorem Pair.Reach.wf {P : Pair} (h : Pair.Reach d P) : P.Wf d := by
  induction h with
  | init ha hb hsa hsb =>
    unfold econnAlloc at ha hb
    split at ha
    · cases ha
    split at hb
    · cases hb
    cases ha
    cases hb
    constructor <;>
      exact ⟨rfl, rfl, rfl, rfl, rfl, by simp_all, by simp_all, .inl rfl, .inl rfl, fun _ => rfl,
        by simp⟩
  | step _ hs ih =>
    rcases hs with hs | hs
    · exact hs.wf ih
    · exact Pair.wf_swap (hs.wf (Pair.wf_swap ih))

/-- The pairs reached are closed under exchanging the endpoints. -/
theorem Pair.Reach.swap {P : Pair} (h : Pair.Reach d P) : Pair.Reach d P.swap := by
  induction h with
  | init ha hb hsa hsb => exact .init hb ha hsb hsa
  | step _ hs ih => exact ih.step hs.symm

/-- In a pair, a record binds of its peer nothing or the peer's own ids, as its buffers
hold them, and every message on its way carries its sender's session id. -/
theorem pair_binds_only_peer {P : Pair} (h : Pair.Reach d P) :
    (P.a.conn.clientidRemote = "" ∨
        P.a.conn.clientidRemote = strNcpy d.clientidRemoteSize P.b.conn.clientid) ∧
      (P.a.conn.sessidRemote = "" ∨
        P.a.conn.sessidRemote = strNcpy d.sessidRemoteSize P.b.conn.sessidLocal) ∧
      ∀ m ∈ P.ab, m.sessidSender = P.a.conn.sessidLocal :=
  ⟨h.wf.1.cid, h.wf.1.sid, fun m hm => (h.wf.1.sent m hm).1⟩

/-- alpha, answered by bravo, has bound bravo's ids. -/
theorem answered_binds_bravo :
    let P := (pairAB.execAll specDeps [(true, .call (.start none none)), (false, .deliver),
      (false, .call (.answer none none)), (true, .deliver)]).getD pairAB
    P.a.conn.clientidRemote = "c2" ∧ P.a.conn.sessidRemote = "sB2" ∧
      (P.a.conn.clientidRemote = "" ∨
          P.a.conn.clientidRemote = strNcpy specDeps.clientidRemoteSize P.b.conn.clientid) ∧
        (P.a.conn.sessidRemote = "" ∨
          P.a.conn.sessidRemote = strNcpy specDeps.sessidRemoteSize P.b.conn.sessidLocal) ∧
        ∀ m ∈ P.ab, m.sessidSender = P.a.conn.sessidLocal := by
  have hrun : pairAB.execAll specDeps [(true, .call (.start none none)), (false, .deliver),
      (false, .call (.answer none none)), (true, .deliver)] =
      some ((pairAB.execAll specDeps [(true, .call (.start none none)), (false, .deliver),
        (false, .call (.answer none none)), (true, .deliver)]).getD pairAB) := rfl
  exact ⟨by decide, by decide, pair_binds_only_peer (Pair.Reach.of_execAll specDeps pairAB_reach hrun)⟩

end Wf

end Econn
