/-
Why two endpoints agree on the SDP: an invariant of the glare model of Glare.lean.

# The invariant

A state of two endpoints is in one of three situations. One endpoint is dead (HANGUP_SENT,
HANGUP_RECV or TERMINATING). Or one endpoint's messages are lost for good at the other:
it sits in PENDING_OUTGOING with another client id bound, or in UPDATE_SENT with a check
that fails (`Blocked`). Or the call is live, and each direction of it satisfies `Dir`:
the SDP messages in flight follow one of a few sequences, each tied to the sender's state
(`outShapes`), and each message in flight says which states its receiver can be in. When
a direction carries no SDP, its receiver has been handed the SDP the sender passed last,
unless a glare or a failed check leaves the receiver behind for good (`Lag`).
`SdpPassed` holds throughout: the last SDP in a channel is the one its sender passed last.

# The proof

`Dead` and `Blocked` are never left (`Blocked.step`). From a live call, each kind of step
of A gives `Dir` back in both directions (`Acts.core`, `recv_core`), or makes A dead,
or blocks B's messages at A. B's steps are A's on the swapped state.
-/
import Econn.Glare

namespace Econn

/-- HANGUP_SENT, HANGUP_RECV, TERMINATING: the call is over for this endpoint. -/
def State.dead : State → Bool
  | .hangupSent | .hangupRecv | .terminating => true
  | _ => false

/-- ANSWERED and DATACHAN_ESTABLISHED. -/
def State.est : State → Bool
  | .answered | .datachanEstablished => true
  | _ => false

/-- The states reached through a SETUP exchange, which bind both ids of the peer. -/
def State.bound : State → Bool
  | .pendingIncoming | .conflictResolution | .answered | .datachanEstablished
  | .updateSent | .updateRecv => true
  | _ => false

theorem State.ne_of_est {st : State} (h : st.est = true) :
    st ≠ .idle ∧ st ≠ .pendingOutgoing ∧ st ≠ .pendingIncoming ∧ st ≠ .conflictResolution ∧
      st ≠ .updateSent ∧ st ≠ .updateRecv := by
  cases st <;> simp_all [State.est]

theorem State.est_iff {st : State} :
    st.est = true ↔ st = .answered ∨ st = .datachanEstablished := by
  cases st <;> simp [State.est]

end Econn

namespace Econn.Glare

-- ================================================== statement vocabulary

/-- The kinds that carry an SDP to the application. -/
def Kind.carriesSdp : Kind → Bool
  | .req | .sresp | .ureq | .uresp => true
  | _ => false

/-- The kinds that end a call. -/
def Kind.ends : Kind → Bool
  | .cancel | .hreq | .hresp => true
  | _ => false

/-- The kinds of the SDP messages of a channel, in order. -/
def sdps (ch : List Msg) : List Kind := (ch.map Msg.kind).filter Kind.carriesSdp

@[simp] theorem sdps_nil : sdps [] = [] := rfl

@[simp] theorem sdps_cons (m : Msg) (ch : List Msg) :
    sdps (m :: ch) = if m.kind.carriesSdp then m.kind :: sdps ch else sdps ch := by
  simp only [sdps, List.map_cons, List.filter_cons]

@[simp] theorem sdps_append (ch ch' : List Msg) : sdps (ch ++ ch') = sdps ch ++ sdps ch' := by
  simp only [sdps, List.map_append, List.filter_append]

/-- The SDP of the last SDP message of a channel. -/
def lastSdp : List Msg → Option (Option String)
  | [] => none
  | m :: ch => (lastSdp ch).or (if m.kind.carriesSdp then some m.sdp else none)

theorem lastSdp_append (ch : List Msg) (m : Msg) :
    lastSdp (ch ++ [m]) = if m.kind.carriesSdp then some m.sdp else lastSdp ch := by
  induction ch with
  | nil => cases h : m.kind.carriesSdp <;> simp [lastSdp, h]
  | cons m' ch ih =>
    rw [List.cons_append, lastSdp, lastSdp, ih]
    cases m.kind.carriesSdp <;> simp

theorem lastSdp_eq_none {ch : List Msg} : lastSdp ch = none ↔ sdps ch = [] := by
  induction ch with
  | nil => simp [lastSdp]
  | cons m ch ih => cases h : m.kind.carriesSdp <;> simp [lastSdp, h, ih]

theorem lastSdp_cons_of_sdps_nil {m : Msg} {rest : List Msg} (hm : m.kind.carriesSdp = true)
    (h : sdps rest = []) : lastSdp (m :: rest) = some m.sdp := by
  simp [lastSdp, lastSdp_eq_none.mpr h, hm]

theorem lastSdp_cons_of_sdps_ne {m : Msg} {rest : List Msg} (h : sdps rest ≠ []) :
    lastSdp (m :: rest) = lastSdp rest := by
  obtain ⟨v, hv⟩ := Option.ne_none_iff_exists'.mp (mt lastSdp_eq_none.mp h)
  simp [lastSdp, hv]

/-- The last SDP in a channel is the SDP its sender passed last. -/
def SdpPassed (x : Side) (cxy : List Msg) : Prop := lastSdp cxy = none ∨ lastSdp cxy = x.passed

/-- The SDP sequences a channel can carry from an endpoint in each state; a winner of
glares sends no sequence that starts with a request the peer answers. -/
def outShapes : State → Bool → List (List Kind)
  | .idle, _ | .pendingIncoming, _ => [[]]
  | .pendingOutgoing, _ | .conflictResolution, _ => [[], [.req]]
  | .answered, w | .datachanEstablished, w =>
    [[], [.sresp], [.uresp]] ++ if w then [] else [[.req, .sresp], [.ureq, .uresp]]
  | .updateSent, w =>
    [[], [.ureq], [.sresp, .ureq], [.uresp, .ureq]] ++
      if w then [] else [[.req, .sresp, .ureq], [.ureq, .uresp, .ureq]]
  | .updateRecv, w => [[]] ++ if w then [] else [[.ureq]]
  | _, _ => []

/-- The messages of the endpoint with ids `ix` cannot reach `y` any more: `y` waits in
PENDING_OUTGOING with another client id bound, or in UPDATE_SENT with a check on those
ids that fails. -/
def Blocked (y : Side) (ix : Ids) : Prop :=
  y.st = .pendingOutgoing ∧ y.cid = true ∧ ix.cidOK = false ∨
    y.st = .updateSent ∧ y.cid = true ∧ accepts y ix = false

/-- Why `y` may not have been handed the SDP `x` passed last, though nothing from `x` is
in flight: `y` won a SETUP or UPDATE glare against `x` and dropped its offer, or `y`
refuses `x`'s UPDATE. -/
def Lag (x y : Side) (ix : Ids) : Prop :=
  (x.st = .pendingOutgoing ∨ x.st = .conflictResolution) ∧ y.st = .pendingOutgoing ∧
      ix.wins = false ∨
    (x.st = .updateSent ∨ x.st = .updateRecv) ∧ y.st = .updateSent ∧ ix.wins = false ∨
    x.st = .updateSent ∧ y.st.est = true ∧ accepts y ix = false

/-- One direction of a live call, from `x` to `y`: what is in flight, and what it and
the sender's state say about the receiver. -/
structure Dir (x y : Side) (cxy cyx : List Msg) (ix : Ids) : Prop where
  noEnd : ∀ m ∈ cxy, m.kind.ends = false
  shape : sdps cxy ∈ outShapes x.st ix.wins
  req : .req ∈ sdps cxy →
    (y.st = .idle ∨ y.st = .pendingOutgoing) ∧ y.cid = false ∧ x.started = true
  sresp : .sresp ∈ sdps cxy → y.st = .pendingOutgoing
  ureq : .ureq ∈ sdps cxy →
    y.st.est = true ∨ y.st = .updateSent ∨ y.st = .pendingOutgoing ∧ .sresp ∈ sdps cxy
  uresp : .uresp ∈ sdps cxy → y.st = .updateSent ∧ sdps cyx = [] ∧ x.deliv = y.passed
  bound : x.st.bound = true → x.cid = true ∧ x.sid = true
  idle : x.st = .idle →
    x.started = false ∧ (y.st = .idle ∨ y.st = .pendingOutgoing) ∧ y.cid = false
  po : x.st = .pendingOutgoing → x.started = true
  pi : x.st = .pendingIncoming → y.st = .pendingOutgoing
  cr : x.st = .conflictResolution → y.st = .pendingOutgoing ∧ ix.wins = false
  est : x.st.est = true →
    y.st.est = true ∨ y.st = .updateSent ∨ y.st = .pendingOutgoing ∧ .sresp ∈ sdps cxy
  ur : x.st = .updateRecv → y.st = .updateSent ∧ sdps cyx = []
  sync : sdps cxy = [] → y.deliv = x.passed ∨ Lag x y ix

/-- The invariant of the glare model. -/
structure Inv (ia ib : Ids) (J : Joint) : Prop where
  passedA : SdpPassed J.a J.ab
  passedB : SdpPassed J.b J.ba
  live : J.a.st.dead = true ∨ J.b.st.dead = true ∨ Blocked J.b ia ∨ Blocked J.a ib ∨
    Dir J.a J.b J.ab J.ba ia ∧ Dir J.b J.a J.ba J.ab ib

-- ================================================== shapes and channels

theorem outShapes_req {st : State} {w : Bool} {l : List Kind} (h : .req :: l ∈ outShapes st w) :
    (st = .pendingOutgoing ∨ st = .conflictResolution) ∧ l = [] ∨
      st.est = true ∧ l = [.sresp] ∧ w = false ∨
      st = .updateSent ∧ l = [.sresp, .ureq] ∧ w = false := by
  cases st <;> cases w <;> simp [outShapes] at h ⊢ <;> simp [h, State.est]

theorem outShapes_sresp {st : State} {w : Bool} {l : List Kind}
    (h : .sresp :: l ∈ outShapes st w) :
    st.est = true ∧ l = [] ∨ st = .updateSent ∧ l = [.ureq] := by
  cases st <;> cases w <;> simp [outShapes] at h ⊢ <;> simp [h, State.est]

theorem outShapes_ureq {st : State} {w : Bool} {l : List Kind} (h : .ureq :: l ∈ outShapes st w) :
    st = .updateSent ∧ l = [] ∨ st = .updateRecv ∧ l = [] ∧ w = false ∨
      st.est = true ∧ l = [.uresp] ∧ w = false ∨
      st = .updateSent ∧ l = [.uresp, .ureq] ∧ w = false := by
  cases st <;> cases w <;> simp [outShapes] at h ⊢ <;> simp [h, State.est]

theorem outShapes_uresp {st : State} {w : Bool} {l : List Kind}
    (h : .uresp :: l ∈ outShapes st w) :
    st.est = true ∧ l = [] ∨ st = .updateSent ∧ l = [.ureq] := by
  cases st <;> cases w <;> simp [outShapes] at h ⊢ <;> simp [h, State.est]

/-- An established endpoint's channel holds no SDP once requests and responses to SETUP
and UPDATE responses are ruled out. -/
theorem outShapes_est_nil {st : State} {w : Bool} {l : List Kind} (hst : st.est = true)
    (h : l ∈ outShapes st w) (hr : .req ∉ l) (hs : .sresp ∉ l) (hu : .uresp ∉ l) : l = [] := by
  cases st <;> cases w <;> simp [State.est, outShapes] at hst h <;>
    rcases h with h | h | h | h | h <;> simp_all

theorem outShapes_updateSent_sub {w : Bool} {l : List Kind}
    (h : l ∈ outShapes .updateSent w) (hr : .req ∉ l) (hs : .sresp ∉ l) (hu : .uresp ∉ l) :
    l = [] ∨ l = [.ureq] := by
  cases w <;> simp [outShapes] at h <;> rcases h with h | h | h | h | h | h <;> simp_all

theorem outShapes_updateReq :
    ∀ w, ∀ l ∈ outShapes .answered w, l ++ [.ureq] ∈ outShapes .updateSent w := by
  decide

theorem outShapes_updateResp :
    ∀ w, ∀ l ∈ outShapes .updateRecv w, l ++ [.uresp] ∈ outShapes .answered w := by
  decide

theorem sdps_tail_nil {m : Msg} {rest : List Msg} (h : sdps (m :: rest) = []) :
    sdps rest = [] := by
  rw [sdps_cons] at h
  split at h
  · cases h
  · exact h

theorem noEnd_append {ch out : List Msg} (h : ∀ m ∈ ch, m.kind.ends = false)
    (h' : ∀ m ∈ out, m.kind.ends = false) : ∀ m ∈ ch ++ out, m.kind.ends = false :=
  fun m hm => (List.mem_append.mp hm).elim (h m) (h' m)

/-- The last SDP of the channel from `y` is the head `m`: what `y` passed last. -/
theorem SdpPassed.head {y : Side} {m : Msg} {rest : List Msg} (h : SdpPassed y (m :: rest))
    (hm : m.kind.carriesSdp = true) (hr : sdps rest = []) : y.passed = some m.sdp := by
  rw [SdpPassed, lastSdp_cons_of_sdps_nil hm hr] at h
  simpa [eq_comm] using h

theorem SdpPassed.pop {y : Side} {m : Msg} {rest : List Msg} (h : SdpPassed y (m :: rest)) :
    SdpPassed y rest := by
  by_cases hr : sdps rest = []
  · exact .inl (lastSdp_eq_none.mpr hr)
  · rwa [SdpPassed, lastSdp_cons_of_sdps_ne hr] at h

theorem lastSdp_append_quiet (ch : List Msg) {out : List Msg} (hout : sdps out = []) :
    lastSdp (ch ++ out) = lastSdp ch := by
  induction ch with
  | nil => exact lastSdp_eq_none.mpr hout
  | cons m ch ih => rw [List.cons_append, lastSdp, lastSdp, ih]

theorem SdpPassed.append_quiet {x : Side} {ch out : List Msg} (h : SdpPassed x ch)
    (hout : sdps out = []) : SdpPassed x (ch ++ out) := by
  rwa [SdpPassed, lastSdp_append_quiet ch hout]

-- ================================================== framing a direction

section Live

variable {x y : Side} {cxy cyx : List Msg} {ix iy : Ids}

/-- A direction says of its incoming channel only that it carries no SDP. -/
theorem Dir.in_congr {cyx' : List Msg} (D : Dir x y cxy cyx ix)
    (h : sdps cyx = [] → sdps cyx' = []) : Dir x y cxy cyx' ix :=
  { D with
    uresp := fun hk => (D.uresp hk).imp_right (And.imp_left h)
    ur := fun hk => (D.ur hk).imp_right h }

theorem Dir.pop_in {m : Msg} {rest : List Msg} (D : Dir x y cxy (m :: rest) ix) :
    Dir x y cxy rest ix :=
  D.in_congr sdps_tail_nil

/-- A direction keeps when a message with no SDP and no end is appended or consumed. -/
theorem Dir.out_congr {cxy' : List Msg} (D : Dir x y cxy cyx ix) (h : sdps cxy' = sdps cxy)
    (hq : ∀ m ∈ cxy', m.kind.ends = false) : Dir x y cxy' cyx ix := by
  obtain ⟨-, h1, h2, h3, h4, h5, h6, h7, h8, h9, h10, h11, h12, h13⟩ := D
  rw [← h] at h1 h2 h3 h4 h5 h11 h13
  exact ⟨hq, h1, h2, h3, h4, h5, h6, h7, h8, h9, h10, h11, h12, h13⟩

/-- The sender changes nothing the direction reads of it. -/
theorem Dir.sender_congr {x' : Side} (D : Dir x y cxy cyx ix) (hst : x'.st = x.st)
    (hs : x'.started = x.started) (hp : x'.passed = x.passed) (hd : x'.deliv = x.deliv)
    (hb : x'.st.bound = true → x'.cid = true ∧ x'.sid = true) : Dir x' y cxy cyx ix := by
  obtain ⟨h0, h1, h2, h3, h4, h5, -, h7, h8, h9, h10, h11, h12, h13⟩ := D
  refine ⟨h0, ?_, ?_, h3, h4, ?_, hb, ?_, ?_, ?_, ?_, ?_, ?_, ?_⟩ <;>
    simp only [hst, hs, hp, hd, Lag] <;> assumption

-- ============================================ a live call: application calls

/-- `econn_start` from IDLE: the SETUP request joins an empty channel, towards a peer in
IDLE or PENDING_OUTGOING with no client id bound. -/
theorem start_core {v : Option String} (hst : x.st = .idle ∨ x.st = .pendingOutgoing)
    (hfirst : x.started = false) (D1 : Dir x y cxy cyx ix) (D2 : Dir y x cyx cxy iy) :
    let x' := { x with st := .pendingOutgoing, started := true, passed := some v }
    Dir x' y (cxy ++ [⟨.req, v⟩]) cyx ix ∧ Dir y x' cyx (cxy ++ [⟨.req, v⟩]) iy := by
  have hx : x.st = .idle := hst.resolve_right fun h => by simp [D1.po h] at hfirst
  have hs : sdps cxy = [] := by simpa [hx, outShapes] using D1.shape
  obtain ⟨-, hy, hycid⟩ := D1.idle hx
  have hy' : y.st ≠ .conflictResolution ∧ y.st.est = false ∧ y.st ≠ .updateRecv := by
    rcases hy with hy | hy <;> simp [hy, State.est]
  refine ⟨⟨noEnd_append D1.noEnd (by simp [Kind.ends]), by simp [hs, outShapes],
    fun _ => ⟨hy, hycid, rfl⟩, ?_, ?_, ?_, by simp [State.bound], by simp, fun _ => rfl,
    by simp, by simp, by simp [State.est], by simp, by simp [hs, Kind.carriesSdp]⟩,
    ⟨D2.noEnd, D2.shape, fun h => ⟨.inr rfl, (D2.req h).2⟩, fun _ => rfl, ?_, ?_, D2.bound,
    fun h => ⟨(D2.idle h).1, .inr rfl, (D2.idle h).2.2⟩, D2.po, fun _ => rfl, ?_, ?_, ?_,
    fun ht => (D2.sync ht).imp_right fun h => by simp [Lag, hx, State.est] at h⟩⟩
  all_goals simp [hs, hy', Kind.carriesSdp]
  · exact fun h => by simpa [hx, State.est] using D2.ureq h
  · exact fun h => by simpa [hx] using D2.uresp h

/-- `econn_answer`: the SETUP response goes to the peer waiting in PENDING_OUTGOING, which
has nothing in flight. -/
theorem answer_core {v : Option String}
    (hst : x.st = .pendingIncoming ∨ x.st = .conflictResolution)
    (D1 : Dir x y cxy cyx ix) (D2 : Dir y x cyx cxy iy) :
    let x' := { x with st := .answered, passed := some v }
    Dir x' y (cxy ++ [⟨.sresp, v⟩]) cyx ix ∧ Dir y x' cyx (cxy ++ [⟨.sresp, v⟩]) iy := by
  have hy : y.st = .pendingOutgoing := hst.elim D1.pi fun h => (D1.cr h).1
  have ht : sdps cyx = [] := by
    have hreq : .req ∉ sdps cyx := fun h => by
      rcases hst with hx | hx <;> simpa [hx] using (D2.req h).1
    have := D2.shape
    simp only [hy, outShapes, List.mem_cons, List.mem_singleton, List.not_mem_nil,
      or_false] at this
    exact this.resolve_right fun h => by simp [h] at hreq
  have hsync : x.deliv = y.passed :=
    (D2.sync ht).resolve_right fun h => by
      rcases hst with hx | hx <;> simp [Lag, hx, State.est] at h
  have hs : sdps cxy = [] ∨ sdps cxy = [.req] ∧ ix.wins = false := by
    rcases hst with hx | hx
    · exact .inl (by simpa [hx, outShapes] using D1.shape)
    · simpa [hx, outShapes, (D1.cr hx).2] using D1.shape
  refine ⟨⟨noEnd_append D1.noEnd (by simp [Kind.ends]), ?_, fun h => D1.req ?_, fun _ => hy,
    ?_, ?_, fun _ => D1.bound ?_, by simp, by simp, by simp, by simp,
    fun _ => .inr (.inr ⟨hy, by simp [Kind.carriesSdp]⟩), by simp, by simp [Kind.carriesSdp]⟩,
    ⟨D2.noEnd, D2.shape, by simp [ht], by simp [ht], by simp [ht], by simp [ht], D2.bound,
    by simp [hy], D2.po, by simp [hy], by simp [hy], by simp [hy, State.est], by simp [hy],
    fun _ => .inl hsync⟩⟩
  · rcases hs with hs | ⟨hs, hw⟩
    · simp [hs, outShapes, Kind.carriesSdp]
    · simp [hs, outShapes, hw, Kind.carriesSdp]
  · simpa [Kind.carriesSdp] using h
  · rcases hs with hs | ⟨hs, -⟩ <;> simp [hs, Kind.carriesSdp]
  · rcases hs with hs | ⟨hs, -⟩ <;> simp [hs, Kind.carriesSdp]
  · rcases hst with hx | hx <;> simp [hx, State.bound]

/-- `econn_update_req` from ANSWERED or DATACHAN_ESTABLISHED. Unless the peer refuses
the endpoint's UPDATEs for good, both directions keep. -/
theorem updateReq_core {v : Option String}
    (hst : x.st = .answered ∨ x.st = .datachanEstablished)
    (D1 : Dir x y cxy cyx ix) (D2 : Dir y x cyx cxy iy) :
    let x' := { x with st := .updateSent, passed := some v }
    Blocked x' iy ∨
      Dir x' y (cxy ++ [⟨.ureq, v⟩]) cyx ix ∧ Dir y x' cyx (cxy ++ [⟨.ureq, v⟩]) iy := by
  have hx : x.st.est = true := by rcases hst with h | h <;> simp [h, State.est]
  obtain ⟨hx1, hx2, -, -, hx5, -⟩ := State.ne_of_est hx
  have hb := D1.bound (by rcases hst with h | h <;> simp [h, State.bound])
  by_cases hacc : accepts x iy = false
  · exact .inl (.inr ⟨rfl, hb.1, hacc⟩)
  have hsh : sdps cxy ∈ outShapes .answered ix.wins := by
    have := D1.shape
    rcases hst with h | h <;> rw [h] at this <;> exact this
  refine .inr ⟨⟨noEnd_append D1.noEnd (by simp [Kind.ends]),
    by simpa [Kind.carriesSdp] using outShapes_updateReq ix.wins _ hsh,
    fun h => D1.req (by simpa [Kind.carriesSdp] using h),
    fun h => D1.sresp (by simpa [Kind.carriesSdp] using h), fun _ => ?_,
    fun h => D1.uresp (by simpa [Kind.carriesSdp] using h), fun _ => hb, by simp, by simp,
    by simp, by simp, by simp [State.est], by simp, by simp [Kind.carriesSdp]⟩,
    ⟨D2.noEnd, D2.shape, fun h => absurd (D2.req h).1 (by simp [hx1, hx2]),
    fun h => absurd (D2.sresp h) hx2, fun _ => .inr (.inl rfl),
    fun h => absurd (D2.uresp h).1 hx5, D2.bound,
    fun h => absurd (D2.idle h).2.1 (by simp [hx1, hx2]), D2.po,
    fun h => absurd (D2.pi h) hx2, fun h => absurd (D2.cr h).1 hx2, fun _ => .inr (.inl rfl),
    fun h => absurd (D2.ur h).1 hx5,
    fun ht => (D2.sync ht).imp_right fun h => by simp [Lag, hx2, hx5, hacc] at h⟩⟩
  rcases D1.est hx with h | h | ⟨h1, h2⟩
  · exact .inl h
  · exact .inr (.inl h)
  · exact .inr (.inr ⟨h1, by simp [h2]⟩)
/-- `econn_update_resp` from UPDATE_RECV, towards the peer waiting in UPDATE_SENT with
nothing in flight. -/
theorem updateResp_core {v : Option String} (hx : x.st = .updateRecv)
    (D1 : Dir x y cxy cyx ix) (D2 : Dir y x cyx cxy iy) :
    let x' := { x with st := .answered, passed := some v }
    Dir x' y (cxy ++ [⟨.uresp, v⟩]) cyx ix ∧ Dir y x' cyx (cxy ++ [⟨.uresp, v⟩]) iy := by
  obtain ⟨hy, ht⟩ := D1.ur hx
  have hsync : x.deliv = y.passed :=
    (D2.sync ht).resolve_right fun h => by simp [Lag, hx, State.est] at h
  have hsh := D1.shape
  rw [hx] at hsh
  exact ⟨⟨noEnd_append D1.noEnd (by simp [Kind.ends]),
    by simpa [Kind.carriesSdp] using outShapes_updateResp ix.wins _ hsh,
    fun h => absurd (D1.req (by simpa [Kind.carriesSdp] using h)).1 (by simp [hy]),
    fun h => absurd (D1.sresp (by simpa [Kind.carriesSdp] using h)) (by simp [hy]),
    fun _ => .inr (.inl hy), fun _ => ⟨hy, ht, hsync⟩,
    fun _ => D1.bound (by simp [hx, State.bound]), by simp, by simp, by simp, by simp,
    fun _ => .inr (.inl hy), by simp, by simp [Kind.carriesSdp]⟩,
    ⟨D2.noEnd, D2.shape, by simp [ht], by simp [ht], by simp [ht], by simp [ht], D2.bound,
    by simp [hy], D2.po, by simp [hy], by simp [hy], by simp [hy, State.est], by simp [hy],
    fun _ => .inl hsync⟩⟩

/-- `econn_set_datachan_established`: ANSWERED and DATACHAN_ESTABLISHED are one state to
the protocol. -/
theorem datachan_core (hx : x.st = .answered) (D1 : Dir x y cxy cyx ix)
    (D2 : Dir y x cyx cxy iy) :
    let x' := { x with st := .datachanEstablished }
    Dir x' y cxy cyx ix ∧ Dir y x' cyx cxy iy := by
  have hsh := D1.shape
  rw [hx] at hsh
  exact ⟨⟨D1.noEnd, hsh, D1.req, D1.sresp, D1.ureq, D1.uresp,
    fun _ => D1.bound (by simp [hx, State.bound]), by simp, by simp, by simp, by simp,
    fun _ => D1.est (by simp [hx, State.est]), by simp,
    fun hs => .inl ((D1.sync hs).resolve_right fun h => by simp [Lag, hx, State.est] at h)⟩,
    ⟨D2.noEnd, D2.shape, fun h => absurd (D2.req h).1 (by simp [hx]),
    fun h => absurd (D2.sresp h) (by simp [hx]), fun _ => .inl rfl,
    fun h => absurd (D2.uresp h).1 (by simp [hx]), D2.bound,
    fun h => absurd (D2.idle h).2.1 (by simp [hx]), D2.po, fun h => absurd (D2.pi h) (by simp [hx]),
    fun h => absurd (D2.cr h).1 (by simp [hx]), fun _ => .inl rfl,
    fun h => absurd (D2.ur h).1 (by simp [hx]),
    fun ht => (D2.sync ht).imp_right fun h => by simp_all [Lag, State.est, accepts]⟩⟩

/-- Every application call and timer expiry from a live call: the endpoint ends, or the
peer's UPDATEs are refused for good, or both directions keep. -/
theorem Acts.core {x' : Side} {out : List Msg} (h : Acts x x' out) (D1 : Dir x y cxy cyx ix)
    (D2 : Dir y x cyx cxy iy) :
    x'.st.dead = true ∨ Blocked x' iy ∨
      Dir x' y (cxy ++ out) cyx ix ∧ Dir y x' cyx (cxy ++ out) iy := by
  cases h with
  | start hst hfirst => exact .inr (.inr (start_core hst hfirst D1 D2))
  | answer hst => exact .inr (.inr (answer_core hst D1 D2))
  | updateReq hst => exact .inr (updateReq_core hst D1 D2)
  | updateResp hst => exact .inr (.inr (updateResp_core hst D1 D2))
  | datachan hst =>
    rw [List.append_nil]
    exact .inr (.inr (datachan_core hst D1 D2))
  | propsync =>
    exact .inr (.inr ⟨D1.out_congr (by simp [Kind.carriesSdp])
      (noEnd_append D1.noEnd (by simp [Kind.ends])), D2.in_congr (by simp [Kind.carriesSdp])⟩)
  | endIgnore | endCancel | endHangup | timer => exact .inl rfl

-- ================================================== a live call: deliveries

/-- Answered with both ids bound, nothing in flight, towards a peer that is established
or waits on an UPDATE and was handed what this endpoint passed last. -/
theorem Dir.of_answered {x' : Side} (hx : x'.st = .answered) (hb : x'.cid = true ∧ x'.sid = true)
    (hq : ∀ m ∈ cxy, m.kind.ends = false) (hs : sdps cxy = [])
    (hy : y.st.est = true ∨ y.st = .updateSent) (hsync : y.deliv = x'.passed) :
    Dir x' y cxy cyx ix :=
  ⟨hq, by simp [hx, hs, outShapes], by simp [hs], by simp [hs], by simp [hs], by simp [hs],
    fun _ => hb, by simp [hx], by simp [hx], by simp [hx], by simp [hx],
    fun _ => hy.imp_right .inl, by simp [hx], fun _ => .inl hsync⟩

/-- The peer's channel is drained of SDP and its last SDP handed over. -/
theorem Dir.drained {x' : Side} {rest cxy' : List Msg} (D : Dir y x cyx cxy iy)
    (hq : ∀ m ∈ rest, m.kind.ends = false) (hr : sdps rest = [])
    (hy : y.st = .pendingOutgoing ∨ y.st.est = true ∨ y.st = .updateSent)
    (hest : y.st.est = true → x'.st.est = true) (hd : x'.deliv = y.passed) :
    Dir y x' rest cxy' iy := by
  have hy' : y.st ≠ .idle ∧ y.st ≠ .pendingIncoming ∧ y.st ≠ .conflictResolution ∧
      y.st ≠ .updateRecv := by
    rcases hy with hy | hy | hy
    · simp [hy]
    · rcases State.est_iff.mp hy with hy | hy <;> simp [hy]
    · simp [hy]
  refine ⟨hq, ?_, by simp [hr], by simp [hr], by simp [hr], by simp [hr], D.bound,
    fun h => absurd h hy'.1, D.po, fun h => absurd h hy'.2.1, fun h => absurd h hy'.2.2.1,
    fun h => .inl (hest h), fun h => absurd h hy'.2.2.2, fun _ => .inl hd⟩
  rcases hy with hy | hy | hy
  · simp [hy, hr, outShapes]
  · rcases State.est_iff.mp hy with hy | hy <;> simp [hy, hr, outShapes]
  · simp [hy, hr, outShapes]

/-- The peer waits in UPDATE_SENT with its UPDATE request the only SDP in flight, towards
an established endpoint. -/
theorem Dir.ureq_pending {x' : Side} {rest cxy' : List Msg} (D : Dir y x cyx cxy iy)
    (hq : ∀ m ∈ rest, m.kind.ends = false) (hy : y.st = .updateSent)
    (hr : sdps rest = [.ureq]) (hx : x'.st.est = true) : Dir y x' rest cxy' iy :=
  ⟨hq, by simp [hy, hr, outShapes], by simp [hr], by simp [hr], fun _ => .inl hx, by simp [hr],
    D.bound, by simp [hy], D.po, by simp [hy], by simp [hy], by simp [hy, State.est],
    by simp [hy], by simp [hr]⟩

theorem noEnd_tail {m : Msg} {rest : List Msg} (h : ∀ m' ∈ m :: rest, m'.kind.ends = false) :
    ∀ m' ∈ rest, m'.kind.ends = false :=
  fun m' hm => h m' (.tail _ hm)

section Deliver

variable {v : Option String} {rest : List Msg}

/-- A SETUP request rings an IDLE endpoint; the offer was the only SDP its caller sent. -/
theorem recvReq_idle (hx : x.st = .idle) (hpy : SdpPassed y (⟨.req, v⟩ :: rest))
    (D1 : Dir x y cxy (⟨.req, v⟩ :: rest) ix) (D2 : Dir y x (⟨.req, v⟩ :: rest) cxy iy) :
    let x' := { x with cid := true, sid := true, st := .pendingIncoming, deliv := some v }
    Dir x' y cxy rest ix ∧ Dir y x' rest cxy iy := by
  have hs : sdps cxy = [] := by simpa [hx, outShapes] using D1.shape
  have hsh := D2.shape
  simp only [sdps_cons, Kind.carriesSdp, if_true] at hsh
  have hy : y.st = .pendingOutgoing :=
    (D1.idle hx).2.1.resolve_left fun h => by simp [h, outShapes] at hsh
  have hr : sdps rest = [] := by simpa [hy, outShapes] using hsh
  have hsync : y.deliv = x.passed :=
    (D1.sync hs).resolve_right fun h => by simp [Lag, hx, State.est] at h
  exact ⟨⟨D1.noEnd, by simp [hs, outShapes], by simp [hs], by simp [hs], by simp [hs],
    by simp [hs], fun _ => ⟨rfl, rfl⟩, by simp, by simp, fun _ => hy, by simp,
    by simp [State.est], by simp, fun _ => .inl hsync⟩,
    D2.drained (noEnd_tail D2.noEnd) hr (.inl hy) (by simp [hy, State.est])
      (hpy.head rfl hr).symm⟩

/-- A SETUP glare the endpoint wins: it drops the offer and keeps waiting for the answer
to its own; the loser is left in PENDING_OUTGOING or CONFLICT_RESOLUTION. -/
theorem recvReq_win (hw : iy.wins = !ix.wins) (hx : x.st = .pendingOutgoing)
    (hwin : ix.wins = true) (D1 : Dir x y cxy (⟨.req, v⟩ :: rest) ix)
    (D2 : Dir y x (⟨.req, v⟩ :: rest) cxy iy) :
    let x' := { x with cid := true, sid := true }
    Dir x' y cxy rest ix ∧ Dir y x' rest cxy iy := by
  have hyw : iy.wins = false := by simp [hw, hwin]
  have hsh := D2.shape
  simp only [sdps_cons, Kind.carriesSdp, if_true] at hsh
  refine ⟨D1.pop_in.sender_congr rfl rfl rfl rfl (by simp [hx, State.bound]), ?_⟩
  rcases outShapes_req hsh with ⟨hy, hr⟩ | ⟨hy, hr, -⟩ | ⟨hy, hr, -⟩
  · refine ⟨noEnd_tail D2.noEnd, ?_, by simp [hr], by simp [hr], by simp [hr], by simp [hr],
      D2.bound, ?_, D2.po, ?_, fun _ => ⟨hx, hyw⟩, ?_, ?_, fun _ => .inr (.inl ⟨hy, hx, hyw⟩)⟩ <;>
      rcases hy with hy | hy <;> simp [hy, hr, outShapes, State.est]
  · rcases State.est_iff.mp hy with hy | hy <;>
      exact ⟨noEnd_tail D2.noEnd, by simp [hy, hr, outShapes, hyw], by simp [hr], fun _ => hx,
        by simp [hr], by simp [hr], D2.bound, by simp [hy], D2.po, by simp [hy], by simp [hy],
        fun _ => .inr (.inr ⟨hx, by simp [hr]⟩), by simp [hy], by simp [hr]⟩
  · exact ⟨noEnd_tail D2.noEnd, by simp [hy, hr, outShapes, hyw], by simp [hr], fun _ => hx,
      fun _ => .inr (.inr ⟨hx, by simp [hr]⟩), by simp [hr], D2.bound, by simp [hy], D2.po,
      by simp [hy], by simp [hy], by simp [hy, State.est], by simp [hy], by simp [hr]⟩

/-- A SETUP glare the endpoint loses: it turns to CONFLICT_RESOLUTION with the winner's
offer, and the winner waits in PENDING_OUTGOING. -/
theorem recvReq_lose (hw : iy.wins = !ix.wins) (hx : x.st = .pendingOutgoing)
    (hwin : ix.wins = false) (hpy : SdpPassed y (⟨.req, v⟩ :: rest))
    (D1 : Dir x y cxy (⟨.req, v⟩ :: rest) ix) (D2 : Dir y x (⟨.req, v⟩ :: rest) cxy iy) :
    let x' := { x with cid := true, sid := true, st := .conflictResolution, deliv := some v }
    Dir x' y cxy rest ix ∧ Dir y x' rest cxy iy := by
  have hyw : iy.wins = true := by simp [hw, hwin]
  have hsh := D2.shape
  simp only [sdps_cons, Kind.carriesSdp, if_true] at hsh
  obtain ⟨hy, hr⟩ : y.st = .pendingOutgoing ∧ sdps rest = [] := by
    rcases outShapes_req hsh with ⟨hy | hy, hr⟩ | ⟨-, -, h⟩ | ⟨-, -, h⟩
    · exact ⟨hy, hr⟩
    · simp [(D2.cr hy).2] at hyw
    all_goals simp [h] at hyw
  have hs : sdps cxy = [] ∨ sdps cxy = [.req] := by simpa [hx, outShapes] using D1.shape
  have hsh1 := D1.shape
  rw [hx] at hsh1
  refine ⟨⟨D1.noEnd, hsh1, D1.req, ?_, ?_, ?_, fun _ => ⟨rfl, rfl⟩, by simp, by simp, by simp,
    fun _ => ⟨hy, hwin⟩, by simp [State.est], by simp, fun _ => .inr (.inl ⟨.inr rfl, hy, hwin⟩)⟩,
    D2.drained (noEnd_tail D2.noEnd) hr (.inl hy) (by simp [hy, State.est])
      (hpy.head rfl hr).symm⟩ <;>
    rcases hs with hs | hs <;> simp [hs]

/-- The SETUP response reaches the caller in PENDING_OUTGOING; the callee is established
or has sent an UPDATE behind it. -/
theorem recvSresp_take (hx : x.st = .pendingOutgoing) (hpy : SdpPassed y (⟨.sresp, v⟩ :: rest))
    (D1 : Dir x y cxy (⟨.sresp, v⟩ :: rest) ix) (D2 : Dir y x (⟨.sresp, v⟩ :: rest) cxy iy) :
    let x' := { x with cid := true, sid := true, st := .answered, deliv := some v }
    Dir x' y cxy rest ix ∧ Dir y x' rest cxy iy := by
  have hsh := D2.shape
  simp only [sdps_cons, Kind.carriesSdp, if_true] at hsh
  have hy : y.st.est = true ∨ y.st = .updateSent := (outShapes_sresp hsh).imp And.left And.left
  have hyo : y.st ≠ .idle ∧ y.st ≠ .pendingOutgoing := by
    rcases hy with hy | hy
    · rcases State.est_iff.mp hy with hy | hy <;> simp [hy]
    · simp [hy]
  have hs : sdps cxy = [] := by
    have : sdps cxy = [] ∨ sdps cxy = [.req] := by simpa [hx, outShapes] using D1.shape
    exact this.resolve_right fun h => by
      rcases (D1.req (by simp [h])).1 with h' | h' <;> simp [h', hyo] at *
  have hsync : y.deliv = x.passed :=
    (D1.sync hs).resolve_right fun h => by simp [Lag, hx, hyo.2] at h
  refine ⟨Dir.of_answered rfl ⟨rfl, rfl⟩ D1.noEnd hs hy hsync, ?_⟩
  rcases outShapes_sresp hsh with ⟨hy, hr⟩ | ⟨hy, hr⟩
  · exact D2.drained (noEnd_tail D2.noEnd) hr (.inr (.inl hy)) (fun _ => rfl)
      (hpy.head rfl hr).symm
  · exact D2.ureq_pending (noEnd_tail D2.noEnd) hy hr rfl

/-- An UPDATE request the endpoint drops: its checks refuse it, or it won the UPDATE glare.
-/
theorem recvUreq_drop (hw : iy.wins = !ix.wins) (hx : x.st.est = true ∨ x.st = .updateSent)
    (hc : (accepts x iy && (x.st = .answered || x.st = .datachanEstablished ||
      x.st = .updateSent && !ix.wins)) = false)
    (D1 : Dir x y cxy (⟨.ureq, v⟩ :: rest) ix) (D2 : Dir y x (⟨.ureq, v⟩ :: rest) cxy iy) :
    Blocked x iy ∨ Dir x y cxy rest ix ∧ Dir y x rest cxy iy := by
  have hsh := D2.shape
  simp only [sdps_cons, Kind.carriesSdp, if_true] at hsh
  have hb : x.cid = true := (D1.bound (by
    rcases hx with hx | hx
    · rcases State.est_iff.mp hx with h | h <;> simp [h, State.bound]
    · simp [hx, State.bound])).1
  have hxu : x.st.est = true ∨ x.st = .updateSent ∧ x.st ≠ .pendingOutgoing := by
    rcases hx with hx | hx
    · exact .inl hx
    · exact .inr ⟨hx, by simp [hx]⟩
  rcases outShapes_ureq hsh with ⟨hy, hr⟩ | ⟨hy, hr, hyw⟩ | ⟨hy, hr, hyw⟩ | ⟨hy, hr, hyw⟩
  · -- the peer waits in UPDATE_SENT: it lags until it gives up, or its UPDATEs are lost
    rcases hx with hx | hx
    · have hacc : accepts x iy = false := by
        rcases State.est_iff.mp hx with h | h <;> simpa [h] using hc
      refine .inr ⟨D1.pop_in, noEnd_tail D2.noEnd, by simp [hy, hr, outShapes], by simp [hr],
        by simp [hr], by simp [hr], by simp [hr], D2.bound, by simp [hy], D2.po, by simp [hy],
        by simp [hy], by simp [hy, State.est], by simp [hy],
        fun _ => .inr (.inr (.inr ⟨hy, hx, hacc⟩))⟩
    · cases hacc : accepts x iy
      · exact .inl (.inr ⟨hx, hb, hacc⟩)
      · have hwin : ix.wins = true := by simpa [hx, hacc] using hc
        refine .inr ⟨D1.pop_in, noEnd_tail D2.noEnd, by simp [hy, hr, outShapes], by simp [hr],
          by simp [hr], by simp [hr], by simp [hr], D2.bound, by simp [hy], D2.po, by simp [hy],
          by simp [hy], by simp [hy, State.est], by simp [hy],
          fun _ => .inr (.inr (.inl ⟨.inl hy, hx, by simp [hw, hwin]⟩))⟩
  · -- the peer answered from UPDATE_RECV after losing: the endpoint won the glare
    obtain ⟨hxu, hs⟩ := D2.ur hy
    exact .inr ⟨D1.pop_in, noEnd_tail D2.noEnd, by simp [hy, hr, outShapes, hyw], by simp [hr],
      by simp [hr], by simp [hr], by simp [hr], D2.bound, by simp [hy], D2.po, by simp [hy],
      by simp [hy], by simp [hy, State.est], fun _ => ⟨hxu, hs⟩,
      fun _ => .inr (.inr (.inl ⟨.inr hy, hxu, hyw⟩))⟩
  · -- the peer's UPDATE response follows: the endpoint waits in UPDATE_SENT
    have hu := D2.uresp (by simp [hr, Kind.carriesSdp])
    rcases State.est_iff.mp hy with hy | hy <;>
      exact .inr ⟨D1.pop_in, noEnd_tail D2.noEnd, by simp [hy, hr, outShapes, hyw], by simp [hr],
        by simp [hr], by simp [hr], fun _ => hu, D2.bound, by simp [hy], D2.po, by simp [hy],
        by simp [hy], fun _ => .inr (.inl hu.1), by simp [hy], by simp [hr]⟩
  · have hu := D2.uresp (by simp [hr, Kind.carriesSdp])
    exact .inr ⟨D1.pop_in, noEnd_tail D2.noEnd, by simp [hy, hr, outShapes, hyw], by simp [hr],
      by simp [hr], fun _ => .inr (.inl hu.1), fun _ => hu, D2.bound, by simp [hy], D2.po,
      by simp [hy], by simp [hy], by simp [hy, State.est], by simp [hy], by simp [hr]⟩

/-- An UPDATE request the endpoint takes, from ANSWERED or DATACHAN_ESTABLISHED, or as the
loser of an UPDATE glare: the sender waits in UPDATE_SENT with nothing else in flight. -/
theorem recvUreq_take (hw : iy.wins = !ix.wins)
    (hc : (accepts x iy && (x.st = .answered || x.st = .datachanEstablished ||
      x.st = .updateSent && !ix.wins)) = true) (hpy : SdpPassed y (⟨.ureq, v⟩ :: rest))
    (D1 : Dir x y cxy (⟨.ureq, v⟩ :: rest) ix) (D2 : Dir y x (⟨.ureq, v⟩ :: rest) cxy iy) :
    let x' := { x with st := .updateRecv, deliv := some v }
    Dir x' y cxy rest ix ∧ Dir y x' rest cxy iy := by
  have hx : x.st.est = true ∨ x.st = .updateSent ∧ ix.wins = false := by
    cases h : x.st <;> simp_all [State.est]
  have hsh := D2.shape
  simp only [sdps_cons, Kind.carriesSdp, if_true] at hsh
  have hus : x.st = .updateSent → ix.wins = false := fun h => by
    rcases hx with hx | hx
    · simp [h, State.est] at hx
    · exact hx.2
  obtain ⟨hy, hr⟩ : y.st = .updateSent ∧ sdps rest = [] := by
    rcases outShapes_ureq hsh with h | ⟨hy, -, hyw⟩ | ⟨-, hr, hyw⟩ | ⟨-, hr, hyw⟩
    · exact h
    · simp [hw, hus (D2.ur hy).1] at hyw
    all_goals simp [hw, hus (D2.uresp (by simp [hr, Kind.carriesSdp])).1] at hyw
  have hbd := D1.bound (by
    rcases hx with hx | ⟨hx, -⟩
    · rcases State.est_iff.mp hx with h | h <;> simp [h, State.bound]
    · simp [hx, State.bound])
  have hreq : .req ∉ sdps cxy := fun h => by simpa [hy] using (D1.req h).1
  have hsr : .sresp ∉ sdps cxy := fun h => by simpa [hy] using D1.sresp h
  have hur : .uresp ∉ sdps cxy := fun h => by simpa [Kind.carriesSdp] using (D1.uresp h).2.1
  have hs : sdps cxy = [] ∨ sdps cxy = [.ureq] ∧ ix.wins = false := by
    rcases hx with hx | ⟨hx, hwin⟩
    · exact .inl (outShapes_est_nil hx D1.shape hreq hsr hur)
    · exact (outShapes_updateSent_sub (hx ▸ D1.shape) hreq hsr hur).imp_right (⟨·, hwin⟩)
  refine ⟨⟨D1.noEnd, ?_, fun h => absurd h hreq, fun h => absurd h hsr, fun _ => .inr (.inl hy),
    fun h => absurd h hur, fun _ => hbd, by simp, by simp, by simp, by simp, by simp [State.est],
    fun _ => ⟨hy, hr⟩, fun hs => ?_⟩,
    D2.drained (noEnd_tail D2.noEnd) hr (.inr (.inr hy)) (by simp [hy, State.est])
      (hpy.head rfl hr).symm⟩
  · rcases hs with hs | ⟨hs, hwin⟩
    · simp [hs, outShapes]
    · simp [hs, outShapes, hwin]
  · rcases hx with hx | ⟨-, hwin⟩
    · exact .inl ((D1.sync hs).resolve_right fun h => by
        rcases State.est_iff.mp hx with h' | h' <;> simp [Lag, h'] at h)
    · exact .inr (.inr (.inl ⟨.inr rfl, hy, hwin⟩))

/-- The UPDATE response reaches the endpoint waiting in UPDATE_SENT; unless its checks
refuse it for good, the endpoint is answered again. -/
theorem recvUresp_core (hpy : SdpPassed y (⟨.uresp, v⟩ :: rest))
    (D1 : Dir x y cxy (⟨.uresp, v⟩ :: rest) ix) (D2 : Dir y x (⟨.uresp, v⟩ :: rest) cxy iy) :
    let r := recv x iy ix.wins ⟨.uresp, v⟩
    Blocked r.1 iy ∨ Dir r.1 y (cxy ++ r.2) rest ix ∧ Dir y r.1 rest (cxy ++ r.2) iy := by
  obtain ⟨hx, hs, hsync⟩ := D2.uresp (by simp [Kind.carriesSdp])
  cases hacc : accepts x iy
  · simp only [recv, hacc, Bool.false_and, Bool.false_eq_true, if_false]
    exact .inl (.inr ⟨hx, (D1.bound (by simp [hx, State.bound])).1, hacc⟩)
  have e : recv x iy ix.wins ⟨.uresp, v⟩ = ({ x with st := .answered, deliv := some v }, []) := by
    simp [recv, hacc, hx]
  rw [e]
  simp only [List.append_nil]
  have hsh := D2.shape
  simp only [sdps_cons, Kind.carriesSdp, if_true] at hsh
  have hy : y.st.est = true ∨ y.st = .updateSent := (outShapes_uresp hsh).imp And.left And.left
  refine .inr ⟨Dir.of_answered rfl (D1.bound (by simp [hx, State.bound])) D1.noEnd hs hy hsync,
    ?_⟩
  rcases outShapes_uresp hsh with ⟨hy, hr⟩ | ⟨hy, hr⟩
  · exact D2.drained (noEnd_tail D2.noEnd) hr (.inr (.inl hy)) (fun _ => rfl)
      (hpy.head rfl hr).symm
  · exact D2.ureq_pending (noEnd_tail D2.noEnd) hy hr rfl

end Deliver

/-- Every delivery into a live call: the endpoint ends, or its peer's messages are lost at
it for good, or both directions keep. -/
theorem recv_core (hw : iy.wins = !ix.wins) {m : Msg} {rest : List Msg}
    (hpy : SdpPassed y (m :: rest)) (D1 : Dir x y cxy (m :: rest) ix)
    (D2 : Dir y x (m :: rest) cxy iy) :
    let r := recv x iy ix.wins m
    r.1.st.dead = true ∨ Blocked r.1 iy ∨
      Dir r.1 y (cxy ++ r.2) rest ix ∧ Dir y r.1 rest (cxy ++ r.2) iy := by
  obtain ⟨k, v⟩ := m
  have hend := D2.noEnd _ (List.mem_cons_self _ _)
  cases k with
  | req =>
    obtain ⟨hx | hx, hcid, -⟩ := D2.req (by simp [Kind.carriesSdp])
    · have e : recv x iy ix.wins ⟨.req, v⟩ =
          ({ x with cid := true, sid := true, st := .pendingIncoming, deliv := some v }, []) := by
        simp [recv, hcid, hx]
      rw [e]
      simpa using .inr (.inr (recvReq_idle hx hpy D1 D2))
    · by_cases hwin : ix.wins = false
      · have e : recv x iy ix.wins ⟨.req, v⟩ = ({ x with
            cid := true, sid := true, st := .conflictResolution, deliv := some v }, []) := by
          simp [recv, hcid, hx, hwin]
        rw [e]
        simpa using .inr (.inr (recvReq_lose hw hx hwin hpy D1 D2))
      · simp only [Bool.not_eq_false] at hwin
        have e : recv x iy ix.wins ⟨.req, v⟩ = ({ x with cid := true, sid := true }, []) := by
          simp [recv, hcid, hx, hwin]
        rw [e]
        simpa using .inr (.inr (recvReq_win hw hx hwin D1 D2))
  | sresp =>
    have hx := D2.sresp (by simp [Kind.carriesSdp])
    by_cases hblk : x.cid = true ∧ iy.cidOK = false
    · have e : recv x iy ix.wins ⟨.sresp, v⟩ = (x, []) := by simp [recv, hblk]
      rw [e]
      exact .inr (.inl (.inl ⟨hx, hblk⟩))
    · have e : recv x iy ix.wins ⟨.sresp, v⟩ =
          ({ x with cid := true, sid := true, st := .answered, deliv := some v }, []) := by
        simp only [Bool.not_eq_true, not_and] at hblk
        cases hc : x.cid <;> cases hk : iy.cidOK <;> simp_all [recv]
      rw [e]
      simpa using .inr (.inr (recvSresp_take hx hpy D1 D2))
  | ureq =>
    have hsh := D2.shape
    simp only [sdps_cons, Kind.carriesSdp, if_true] at hsh
    have hx : x.st.est = true ∨ x.st = .updateSent := by
      rcases D2.ureq (by simp [Kind.carriesSdp]) with h | h | ⟨-, h⟩
      · exact .inl h
      · exact .inr h
      · rcases outShapes_ureq hsh with ⟨-, hr⟩ | ⟨-, hr, -⟩ | ⟨-, hr, -⟩ | ⟨-, hr, -⟩ <;>
          simp [hr, Kind.carriesSdp] at h
    cases hc : (accepts x iy && (x.st = .answered || x.st = .datachanEstablished ||
        x.st = .updateSent && !ix.wins))
    · have e : recv x iy ix.wins ⟨.ureq, v⟩ = (x, []) := by simp [recv, hc]
      rw [e]
      simpa [or_assoc] using .inr (recvUreq_drop hw hx hc D1 D2)
    · have e : recv x iy ix.wins ⟨.ureq, v⟩ =
          ({ x with st := .updateRecv, deliv := some v }, []) := by simp [recv, hc]
      rw [e]
      simpa using .inr (.inr (recvUreq_take hw hc hpy D1 D2))
  | uresp => exact .inr (recvUresp_core hpy D1 D2)
  | cancel | hreq | hresp => simp [Kind.ends] at hend
  | other =>
    show x.st.dead = true ∨ Blocked x iy ∨
      Dir x y (cxy ++ []) rest ix ∧ Dir y x rest (cxy ++ []) iy
    rw [List.append_nil]
    exact .inr (.inr ⟨D1.pop_in, D2.out_congr (by simp [Kind.carriesSdp]) (noEnd_tail D2.noEnd)⟩)

end Live

-- ========================================= what never comes back, and `SdpPassed`

section Absorb

variable {x x' : Side} {out : List Msg} {iy : Ids}

/-- A dead endpoint stays dead: only its timer can act, and it terminates. -/
theorem Acts.dead (h : Acts x x' out) (hd : x.st.dead = true) : x'.st.dead = true := by
  cases h with
  | start hst | answer hst | updateReq hst =>
    rcases hst with h | h <;> simp [h, State.dead] at hd
  | updateResp hst | datachan hst | propsync hst => simp [hst, State.dead] at hd
  | endIgnore | endCancel | endHangup | timer => rfl

theorem recv_dead (hd : x.st.dead = true) (w : Bool) (m : Msg) :
    (recv x iy w m).1.st.dead = true := by
  obtain ⟨st, cid, sid, started, passed, deliv⟩ := x
  obtain ⟨k, v⟩ := m
  cases st <;> cases hd <;> cases k <;> simp only [recv] <;> (try split) <;> first | rfl | simp_all

/-- An endpoint that refuses the peer's messages for good keeps refusing them until it
ends. -/
theorem Acts.blocked (h : Acts x x' out) (hb : Blocked x iy) :
    x'.st.dead = true ∨ Blocked x' iy := by
  cases h with
  | start hst =>
    rcases hb with ⟨-, h1, h2⟩ | ⟨h0, -⟩
    · exact .inr (.inl ⟨rfl, h1, h2⟩)
    · rcases hst with h | h <;> simp [h] at h0
  | answer hst | updateReq hst =>
    rcases hb with ⟨h0, -⟩ | ⟨h0, -⟩ <;> rcases hst with h | h <;> simp [h] at h0
  | updateResp hst | datachan hst | propsync hst | endIgnore hst | endHangup hst =>
    rcases hb with ⟨h0, -⟩ | ⟨h0, -⟩ <;> simp [hst] at h0
  | endCancel | timer => exact .inl rfl

theorem recv_blocked (hb : Blocked x iy) (w : Bool) (m : Msg) : Blocked (recv x iy w m).1 iy := by
  obtain ⟨st, cid, sid, started, passed, deliv⟩ := x
  obtain ⟨k, v⟩ := m
  rcases hb with ⟨hs, hc, hk⟩ | ⟨hs, hc, ha⟩ <;> subst hs hc
  · cases k <;> simp [recv, Blocked, accepts, hk]
  · cases k <;> simp [recv, Blocked, ha]

/-- A call sends an SDP exactly when it passes one. -/
theorem Acts.passed {cxy : List Msg} (h : Acts x x' out) (hp : SdpPassed x cxy) :
    SdpPassed x' (cxy ++ out) := by
  cases h with
  | start | answer | updateReq | updateResp =>
    exact .inr (by simp [lastSdp_append, Kind.carriesSdp])
  | timer => exact hp.append_quiet (by split <;> simp [Kind.carriesSdp])
  | _ => exact hp.append_quiet (by simp [Kind.carriesSdp])

/-- A delivery passes no SDP and sends none. -/
theorem recv_passed (x : Side) (iy : Ids) (w : Bool) (m : Msg) :
    (recv x iy w m).1.passed = x.passed ∧ sdps (recv x iy w m).2 = [] := by
  obtain ⟨k, v⟩ := m
  cases k <;> simp only [recv] <;> (repeat' split) <;> simp [Kind.carriesSdp]

end Absorb

-- ==================================================== the invariant holds

/-- The invariant read from B's side. -/
theorem Inv.swap {ia ib : Ids} {J : Joint} (hi : Inv ia ib J) : Inv ib ia J.swap := by
  obtain ⟨hpa, hpb, h | h | h | h | ⟨D1, D2⟩⟩ := hi
  exacts [⟨hpb, hpa, .inr (.inl h)⟩, ⟨hpb, hpa, .inl h⟩, ⟨hpb, hpa, .inr (.inr (.inr (.inl h)))⟩,
    ⟨hpb, hpa, .inr (.inr (.inl h))⟩, ⟨hpb, hpa, .inr (.inr (.inr (.inr ⟨D2, D1⟩)))⟩]

/-- One step of A keeps the invariant. -/
theorem SideStep.inv {ia ib : Ids} {J J' : Joint} (hw : ib.wins = !ia.wins)
    (h : SideStep ia ib J J') (hi : Inv ia ib J) : Inv ia ib J' := by
  obtain ⟨hpa, hpb, hl⟩ := hi
  cases h with
  | act ha =>
    refine ⟨ha.passed hpa, hpb, ?_⟩
    rcases hl with hd | hd | hb | hb | ⟨D1, D2⟩
    · exact .inl (ha.dead hd)
    · exact .inr (.inl hd)
    · exact .inr (.inr (.inl hb))
    · exact (ha.blocked hb).imp_right fun h => .inr (.inr (.inl h))
    · rcases ha.core D1 D2 with h | h | h
      · exact .inl h
      · exact .inr (.inr (.inr (.inl h)))
      · exact .inr (.inr (.inr (.inr h)))
  | @recv a b m ab rest =>
    obtain ⟨hp1, hp2⟩ := recv_passed a ib ia.wins m
    refine ⟨?_, hpb.pop, ?_⟩
    · have := hpa.append_quiet hp2
      rwa [SdpPassed, ← hp1] at this
    rcases hl with hd | hd | hb | hb | ⟨D1, D2⟩
    · exact .inl (recv_dead hd _ _)
    · exact .inr (.inl hd)
    · exact .inr (.inr (.inl hb))
    · exact .inr (.inr (.inr (.inl (recv_blocked hb _ _))))
    · rcases recv_core hw hpb D1 D2 with h | h | h
      · exact .inl h
      · exact .inr (.inr (.inr (.inl h)))
      · exact .inr (.inr (.inr (.inr h)))

theorem Step.inv {ia ib : Ids} {J J' : Joint} (hw : ib.wins = !ia.wins) (h : Step ia ib J J')
    (hi : Inv ia ib J) : Inv ia ib J' := by
  rcases h with h | h
  · exact h.inv hw hi
  · simpa using (h.inv (by simp [hw]) hi.swap).swap

/-- The invariant holds in every state two endpoints reach, given that exactly one of
them wins a glare. -/
theorem Reach.inv {ia ib : Ids} {J : Joint} (hw : ib.wins = !ia.wins) (h : Reach ia ib J) :
    Inv ia ib J := by
  induction h with
  | init ha hb =>
    subst ha hb
    refine ⟨.inl rfl, .inl rfl, .inr (.inr (.inr (.inr ⟨?_, ?_⟩)))⟩ <;>
      exact ⟨by simp, by simp [outShapes], by simp, by simp, by simp, by simp, by simp [State.bound],
        fun _ => ⟨rfl, .inl rfl, rfl⟩, by simp, by simp, by simp, by simp [State.est], by simp,
        fun _ => .inl rfl⟩
  | step _ hs ih => exact hs.inv hw ih

/-- Agreement: once both endpoints are ANSWERED or DATACHAN_ESTABLISHED and nothing is in
flight, each was handed the SDP the other passed last. -/
theorem Reach.agree {ia ib : Ids} {J : Joint} (hw : ib.wins = !ia.wins) (h : Reach ia ib J)
    (ha : J.a.st.est = true) (hb : J.b.st.est = true) (hab : J.ab = []) (hba : J.ba = []) :
    J.b.deliv = J.a.passed ∧ J.a.deliv = J.b.passed := by
  obtain ⟨-, -, hl⟩ := h.inv hw
  obtain ⟨-, ha2, -, ha4, ha5, ha6⟩ := State.ne_of_est ha
  obtain ⟨-, hb2, -, hb4, hb5, hb6⟩ := State.ne_of_est hb
  rcases hl with hd | hd | hbl | hbl | ⟨D1, D2⟩
  · rcases State.est_iff.mp ha with h | h <;> simp [h, State.dead] at hd
  · rcases State.est_iff.mp hb with h | h <;> simp [h, State.dead] at hd
  · rcases hbl with ⟨h, -⟩ | ⟨h, -⟩ <;> simp_all
  · rcases hbl with ⟨h, -⟩ | ⟨h, -⟩ <;> simp_all
  · exact ⟨(D1.sync (by simp [hab])).resolve_right fun h => by simp [Lag, ha2, ha4, ha5, ha6] at h,
      (D2.sync (by simp [hba])).resolve_right fun h => by simp [Lag, hb2, hb4, hb5, hb6] at h⟩

end Econn.Glare
