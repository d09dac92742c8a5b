import ModbusRs.Core.Adu

/-!
# The TCP transport of the async side

`TokioTcpTransport::recv` keeps what the socket has given it in `rx_buf`, and returns one ADU at a
time. On a stream of ADUs it returns exactly those, however the socket cuts the stream into reads.
-/

namespace ModbusRs

open Outcome

/-- The kinds of I/O error that `map_io_error` tells apart. -/
inductive IoErrorKind where
  | connectionRefused
  | notFound
  | brokenPipe
  | connectionReset
  | connectionAborted
  | unexpectedEof
  | wouldBlock
  | timedOut
  | other
  deriving DecidableEq, Repr

/-- What a read of the socket gives: at most 128 bytes, and none at the end of the stream. -/
inductive SocketRead where
  | data (chunk : HVec UInt8 128)
  | error (kind : IoErrorKind)

/-- `TokioTcpTransport`, apart from the socket. -/
structure TokioTcpTransport where
  connected : Bool
  rxBuf : List UInt8
  deriving DecidableEq, Repr

namespace TokioTcpTransport

/-- `from_stream`. -/
def fromStream : TokioTcpTransport := ⟨true, []⟩

/-- `map_io_error`. -/
def mapIoError : IoErrorKind → MbusError
  | .connectionRefused | .notFound => .connectionFailed
  | .brokenPipe | .connectionReset | .connectionAborted | .unexpectedEof => .connectionClosed
  | .wouldBlock | .timedOut => .timeout
  | .other => .ioError

/-- `MBAP_PREFIX_LEN`. -/
abbrev mbapPrefixLen : Nat := 6

variable [Features] (t : TokioTcpTransport)

/-- The first step of the loop of `recv`: a frame at the front of `rx_buf`, or an error that
empties it. -/
def takeFrame : Option (Fallible (HVec UInt8 maxAduFrameLen) × TokioTcpTransport) :=
  if t.rxBuf.length ≥ mbapPrefixLen then
    let remainingLen := (fromBeBytes (t.rxBuf.getD 4 0) (t.rxBuf.getD 5 0)).toNat
    if remainingLen = 0 then some (.err .invalidDataLen, { t with rxBuf := [] })
    else
      let totalLen := mbapPrefixLen + remainingLen
      if totalLen > maxAduFrameLen then some (.err .bufferTooSmall, { t with rxBuf := [] })
      else if t.rxBuf.length ≥ totalLen then
        match HVec.empty.extendFromSlice (t.rxBuf.take totalLen) with
        | some frame => some (.ok frame, { t with rxBuf := t.rxBuf.drop totalLen })
        | none => some (.panic, t)
      else none
  else none

/-- The second step of the loop of `recv`: what the socket gives is appended to `rx_buf`. -/
def append (read : SocketRead) : Except MbusError Unit × TokioTcpTransport :=
  match read with
  | .data chunk =>
    if chunk.length = 0 then (.error .connectionClosed, { t with connected := false })
    else if t.rxBuf.length + chunk.length > 2 * maxAduFrameLen then
      (.error .bufferTooSmall, { t with rxBuf := [] })
    else (.ok (), { t with rxBuf := t.rxBuf ++ chunk.toList })
  | .error kind =>
    (.error (mapIoError kind),
      if mapIoError kind = .connectionClosed then { t with connected := false } else t)

/-- The loop of `recv`, over what the socket will give: the result, if the call returns before the
socket has nothing left to give, the transport after it and the reads that are left. -/
def recvLoop : List SocketRead → TokioTcpTransport →
    Option (Fallible (HVec UInt8 maxAduFrameLen)) × TokioTcpTransport × List SocketRead
  | [], t =>
    match t.takeFrame with
    | some (result, t) => (some result, t, [])
    | none => (none, t, [])
  | read :: reads, t =>
    match t.takeFrame with
    | some (result, t) => (some result, t, read :: reads)
    | none =>
      match t.append read with
      | (.error e, t) => (some (.err e), t, reads)
      | (.ok _, t) => recvLoop reads t

/-- `recv`. -/
def recv (reads : List SocketRead) (t : TokioTcpTransport) :
    Option (Fallible (HVec UInt8 maxAduFrameLen)) × TokioTcpTransport × List SocketRead :=
  if !t.connected then (some (.err .connectionClosed), t, reads)
  else recvLoop reads t

/-- The results of successive calls, the transport after them and the reads that are left. -/
def recvCalls : Nat → List SocketRead → TokioTcpTransport →
    List (Option (Fallible (HVec UInt8 maxAduFrameLen))) × TokioTcpTransport × List SocketRead
  | 0, reads, t => ([], t, reads)
  | calls + 1, reads, t =>
    let (result, t, reads) := recv reads t
    let (results, t, reads) := recvCalls calls reads t
    (result :: results, t, reads)

/-- The states in which successive calls that return frames look at `rx_buf`. -/
inductive Visits : List SocketRead → TokioTcpTransport → TokioTcpTransport → Prop
  | here {reads : List SocketRead} {t : TokioTcpTransport} : Visits reads t t
  | read {read : SocketRead} {reads : List SocketRead} {t t' t'' : TokioTcpTransport}
    (hnone : t.takeFrame = none) (happend : t.append read = (.ok (), t'))
    (h : Visits reads t' t'') : Visits (read :: reads) t t''
  | call {reads : List SocketRead} {frame : HVec UInt8 maxAduFrameLen}
    {t t' t'' : TokioTcpTransport} (hframe : t.takeFrame = some (.ok frame, t'))
    (h : Visits reads t' t'') : Visits reads t t''

/-- A Modbus TCP ADU: its length field counts the bytes behind it, and there are at least two. -/
def IsAdu (adu : List UInt8) : Prop :=
  8 ≤ adu.length ∧ adu.length ≤ maxAduFrameLen ∧
    mbapPrefixLen + (fromBeBytes (adu.getD 4 0) (adu.getD 5 0)).toNat = adu.length

instance (adu : List UInt8) : Decidable (IsAdu adu) := inferInstanceAs (Decidable (_ ∧ _ ∧ _))

variable {t}

/-! ### One round -/

omit [Features] in
lemma getD_append_left {front : List UInt8} (tail : List UInt8) {i : Nat} (h : i < front.length) :
    (front ++ tail).getD i 0 = front.getD i 0 := by
  rw [List.getD_eq_getElem?_getD, List.getD_eq_getElem?_getD, List.getElem?_append_left h]

/-- A buffer that starts with an ADU. -/
lemma takeFrame_of_adu {frame : HVec UInt8 maxAduFrameLen} {tail : List UInt8}
    (h : IsAdu frame.toList) (hbuf : t.rxBuf = frame.toList ++ tail) :
    t.takeFrame = some (.ok frame, { t with rxBuf := tail }) := by
  obtain ⟨hmin, hmax, hlen⟩ := h
  have hsix : mbapPrefixLen = 6 := rfl
  have hget (i : Nat) (hi : i < frame.toList.length) :
      t.rxBuf.getD i 0 = frame.toList.getD i 0 := by
    rw [hbuf, getD_append_left tail hi]
  have hall : t.rxBuf.length = frame.toList.length + tail.length := by
    rw [hbuf, List.length_append]
  have hextend : HVec.empty.extendFromSlice frame.toList = some frame :=
    HVec.extendFromSlice_eq_some.mpr rfl
  rw [takeFrame, if_pos (by omega), hget 4 (by omega), hget 5 (by omega)]
  dsimp only
  rw [if_neg (by omega), if_neg (by omega), if_pos (by omega), hlen, hbuf, List.take_left,
    List.drop_left, hextend]

/-- A buffer that holds the front of an ADU. -/
lemma takeFrame_of_front {adu : List UInt8} (h : IsAdu adu) (hfront : t.rxBuf <+: adu)
    (hlt : t.rxBuf.length < adu.length) : t.takeFrame = none := by
  obtain ⟨hmin, hmax, hlen⟩ := h
  have hsix : mbapPrefixLen = 6 := rfl
  obtain ⟨later, hbuf⟩ := hfront
  rw [takeFrame]
  split
  · have hget (i : Nat) (hi : i < t.rxBuf.length) : t.rxBuf.getD i 0 = adu.getD i 0 := by
      rw [← hbuf, getD_append_left later hi]
    rw [hget 4 (by omega), hget 5 (by omega)]
    dsimp only
    rw [if_neg (by omega), if_neg (by omega), if_neg (by omega)]
  · rfl

lemma takeFrame_of_nil (h : t.rxBuf = []) : t.takeFrame = none := by
  rw [takeFrame, h]
  rfl

/-- There is room for a read behind the front of an ADU. -/
lemma append_data (chunk : HVec UInt8 128) (hne : chunk.toList ≠ [])
    (hlt : t.rxBuf.length < maxAduFrameLen) :
    t.append (.data chunk) = (.ok (), { t with rxBuf := t.rxBuf ++ chunk.toList }) := by
  have hcap : 260 ≤ maxAduFrameLen := by
    unfold maxAduFrameLen
    split <;> decide
  have hpos : chunk.length ≠ 0 := fun h => hne (List.length_eq_zero_iff.mp h)
  have hchunk : chunk.length ≤ 128 := chunk.length_le
  rw [append, if_neg hpos, if_neg (by omega)]

/-! ### A stream of frames -/

variable {frame : HVec UInt8 maxAduFrameLen} {frames : List (HVec UInt8 maxAduFrameLen)}
  {chunks : List (HVec UInt8 128)}

variable (t frames chunks) in
/-- What has arrived and what will arrive is a stream of frames, with at most one read behind the
front of the first. -/
structure Streams : Prop where
  connected : t.connected = true
  adus : ∀ frame ∈ frames, IsAdu frame.toList
  nonempty : ∀ chunk ∈ chunks, chunk.toList ≠ []
  stream : t.rxBuf ++ chunks.flatMap HVec.toList = frames.flatMap HVec.toList
  bounded : t.rxBuf.length ≤ 2 * maxAduFrameLen

/-- The first frame has arrived, or there is room for a read. -/
lemma Streams.round (h : Streams t (frame :: frames) chunks) :
    (∃ t', t.takeFrame = some (.ok frame, t') ∧ Streams t' frames chunks) ∨
      t.takeFrame = none ∧ ∃ chunk rest, chunks = chunk :: rest ∧
        ∃ t', t.append (.data chunk) = (.ok (), t') ∧ Streams t' (frame :: frames) rest := by
  have hadu : IsAdu frame.toList := h.adus frame List.mem_cons_self
  have hstream := h.stream
  rw [List.flatMap_cons] at hstream
  by_cases hle : frame.toList.length ≤ t.rxBuf.length
  · have hprefix : frame.toList <+: t.rxBuf ++ chunks.flatMap HVec.toList :=
      hstream ▸ List.prefix_append _ _
    obtain ⟨tail, hbuf⟩ := List.prefix_of_prefix_length_le hprefix (List.prefix_append _ _) hle
    refine .inl ⟨_, takeFrame_of_adu hadu hbuf.symm, h.connected,
      fun f hf => h.adus f (List.mem_cons_of_mem _ hf), h.nonempty, ?_, ?_⟩
    · rw [← hbuf, List.append_assoc] at hstream
      exact List.append_cancel_left hstream
    · have hlen := congrArg List.length hbuf
      rw [List.length_append] at hlen
      have hbounded := h.bounded
      change tail.length ≤ 2 * maxAduFrameLen
      omega
  · have hprefix : t.rxBuf <+: frame.toList ++ frames.flatMap HVec.toList :=
      hstream ▸ List.prefix_append _ _
    have hfront : t.rxBuf <+: frame.toList :=
      List.prefix_of_prefix_length_le hprefix (List.prefix_append _ _) (Nat.le_of_not_le hle)
    refine .inr ⟨takeFrame_of_front hadu hfront (Nat.lt_of_not_le hle), ?_⟩
    cases chunks with
    | nil =>
      rw [List.flatMap_nil, List.append_nil] at hstream
      rw [hstream, List.length_append] at hle
      exact absurd (Nat.le_add_right _ _) hle
    | cons chunk rest =>
      have hlt : t.rxBuf.length < maxAduFrameLen := by
        have hmax := hadu.2.1
        omega
      have hcap : 260 ≤ maxAduFrameLen := by
        unfold maxAduFrameLen
        split <;> decide
      have hchunk : chunk.toList.length ≤ 128 := chunk.length_le
      refine ⟨chunk, rest, rfl, _, append_data chunk (h.nonempty chunk List.mem_cons_self) hlt,
        h.connected, h.adus, fun c hc => h.nonempty c (List.mem_cons_of_mem _ hc), ?_, ?_⟩
      · have hall := h.stream
        rw [List.flatMap_cons, ← List.append_assoc] at hall
        exact hall
      · change (t.rxBuf ++ chunk.toList).length ≤ 2 * maxAduFrameLen
        rw [List.length_append]
        omega

/-- Without a frame nothing is left. -/
lemma Streams.nil (h : Streams t [] chunks) : t = fromStream ∧ chunks = [] := by
  obtain ⟨hbuf, hchunks⟩ := List.append_eq_nil_iff.mp h.stream
  refine ⟨?_, ?_⟩
  · cases t
    exact congrArg₂ TokioTcpTransport.mk h.connected hbuf
  · cases chunks with
    | nil => rfl
    | cons chunk rest =>
      rw [List.flatMap_cons] at hchunks
      exact absurd (List.append_eq_nil_iff.mp hchunks).1 (h.nonempty chunk List.mem_cons_self)

/-- A call returns the first frame. -/
lemma Streams.recv (h : Streams t (frame :: frames) chunks) :
    ∃ t' rest, TokioTcpTransport.recv (chunks.map .data) t =
      (some (.ok frame), t', rest.map .data) ∧ Streams t' frames rest := by
  have hloop : ∃ t' rest, recvLoop (chunks.map .data) t =
      (some (.ok frame), t', rest.map .data) ∧ Streams t' frames rest := by
    induction chunks generalizing t with
    | nil =>
      rcases h.round with ⟨t', htake, h'⟩ | ⟨-, chunk, rest, hnil, -⟩
      · refine ⟨t', [], ?_, h'⟩
        rw [List.map_nil, recvLoop, htake]
      · cases hnil
    | cons chunk chunks ih =>
      rcases h.round with ⟨t', htake, h'⟩ | ⟨hnone, _, _, heq, t', happend, h'⟩
      · refine ⟨t', chunk :: chunks, ?_, h'⟩
        rw [List.map_cons, recvLoop, htake]
      · cases heq
        obtain ⟨t'', rest, hrun, h''⟩ := ih h'
        refine ⟨t'', rest, ?_, h''⟩
        rw [List.map_cons, recvLoop, hnone]
        dsimp only
        rw [happend]
        exact hrun
  rw [TokioTcpTransport.recv, h.connected]
  exact hloop

lemma Streams.recvCalls (h : Streams t frames chunks) :
    TokioTcpTransport.recvCalls frames.length (chunks.map .data) t =
      (frames.map fun frame => some (.ok frame), fromStream, []) := by
  induction frames generalizing t chunks with
  | nil =>
    obtain ⟨rfl, rfl⟩ := h.nil
    rfl
  | cons frame frames ih =>
    obtain ⟨t', rest, hrecv, h'⟩ := h.recv
    rw [List.length_cons, TokioTcpTransport.recvCalls, hrecv]
    dsimp only
    rw [ih h', List.map_cons]

/-- Every state on the way streams the frames and reads that are left. -/
lemma Streams.visits {reads : List SocketRead} {t' : TokioTcpTransport}
    (hvisits : Visits reads t t') (h : Streams t frames chunks) (hreads : reads = chunks.map .data) :
    ∃ frames' chunks', Streams t' frames' chunks' := by
  induction hvisits generalizing frames chunks with
  | here => exact ⟨frames, chunks, h⟩
  | read hnone happend _ ih =>
    cases chunks with
    | nil => cases hreads
    | cons chunk rest =>
      rw [List.map_cons, List.cons.injEq] at hreads
      obtain ⟨rfl, hrest⟩ := hreads
      cases frames with
      | nil => cases h.nil.2
      | cons frame frames =>
        rcases h.round with ⟨_, htake, _⟩ | ⟨_, _, _, heq, _, happend', h'⟩
        · cases hnone.symm.trans htake
        · cases heq
          cases happend.symm.trans happend'
          exact ih h' hrest
  | call hframe _ ih =>
    cases frames with
    | nil =>
      obtain ⟨rfl, rfl⟩ := h.nil
      cases hframe
    | cons frame frames =>
      rcases h.round with ⟨_, htake, h'⟩ | ⟨hnone, _⟩
      · cases hframe.symm.trans htake
        exact ih h' hreads
      · cases hframe.symm.trans hnone

/-- **TCP reassembly.** Whichever reads a stream of ADUs is cut into, successive calls return the
ADUs in order, and `rx_buf` stays within its limit. -/
theorem recv_reassembles (frames : List (HVec UInt8 maxAduFrameLen))
    (chunks : List (HVec UInt8 128)) (hframes : ∀ frame ∈ frames, IsAdu frame.toList)
    (hchunks : ∀ chunk ∈ chunks, chunk.toList ≠ [])
    (hstream : chunks.flatMap HVec.toList = frames.flatMap HVec.toList) :
    TokioTcpTransport.recvCalls frames.length (chunks.map .data) fromStream =
        (frames.map fun frame => some (.ok frame), fromStream, []) ∧
      ∀ t, Visits (chunks.map .data) fromStream t → t.rxBuf.length ≤ 2 * maxAduFrameLen := by
  have h : Streams fromStream frames chunks :=
    ⟨rfl, hframes, hchunks, hstream, Nat.zero_le _⟩
  refine ⟨h.recvCalls, fun t hvisits => ?_⟩
  obtain ⟨_, _, h'⟩ := h.visits hvisits rfl
  exact h'.bounded

omit [Features] in
/-- Two ADUs, the first of them in two pieces. -/
theorem recv_reassembles_pieces :
    letI := Features.minimal
    recvCalls 2 [.data (.ofSlice [0, 1, 0, 0, 0]),
        .data (.ofSlice [3, 9, 0x84, 1, 0, 2, 0, 0, 0, 2, 9, 7])] fromStream =
      ([some (.ok (.ofSlice [0, 1, 0, 0, 0, 3, 9, 0x84, 1])),
        some (.ok (.ofSlice [0, 2, 0, 0, 0, 2, 9, 7]))], fromStream, []) :=
  let _ := Features.minimal
  (recv_reassembles [.ofSlice [0, 1, 0, 0, 0, 3, 9, 0x84, 1], .ofSlice [0, 2, 0, 0, 0, 2, 9, 7]]
    [.ofSlice [0, 1, 0, 0, 0], .ofSlice [3, 9, 0x84, 1, 0, 2, 0, 0, 0, 2, 9, 7]]
    (by decide) (by decide) (by decide)).1

end TokioTcpTransport

end ModbusRs
