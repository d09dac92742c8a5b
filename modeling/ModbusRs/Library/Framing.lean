import Mathlib.Algebra.GroupWithZero.Nat
import Mathlib.Data.List.Basic

/-!
# Cutting frames out of a stream

A receiver keeps what has arrived in a buffer, and cuts frames off its front for as long as it
finds one there; what it finds depends on the bytes of the buffer only. The buffer has a
capacity, and a chunk that does not fit empties it. For streams of frames that are recognised
as soon as they are complete, the frames that are found do not depend on how the stream is cut
into chunks, exactly as long as no chunk overflows the buffer.
-/

namespace Framing

variable {β μ : Type}

/-- What a receiver finds at the front of a buffer. -/
inductive Head (μ : Type) where
  | incomplete
  | frame (length : Nat) (message : Option μ)
  | garbage
  deriving DecidableEq

/-- The messages at the front of a buffer, and what is left of it. -/
def cut (head : List β → Head μ) : Nat → List β → List μ × List β
  | 0, buffer => ([], buffer)
  | rounds + 1, buffer =>
    if buffer.isEmpty then ([], buffer)
    else match head buffer with
      | .incomplete => ([], buffer)
      | .frame length message =>
        (message.toList ++ (cut head rounds (buffer.drop length)).1,
          (cut head rounds (buffer.drop length)).2)
      | .garbage => cut head rounds (buffer.drop 1)

/-- The buffer after a chunk has arrived. -/
def store (capacity : Nat) (buffer chunk : List β) : List β :=
  if buffer.length + chunk.length ≤ capacity then buffer ++ chunk else []

/-- The messages found in chunks that arrive one after the other. -/
def received (head : List β → Head μ) (capacity : Nat) : List (List β) → List β → List μ
  | [], _ => []
  | chunk :: chunks, buffer =>
    let buffer := store capacity buffer chunk
    (cut head buffer.length buffer).1 ++
      received head capacity chunks (cut head buffer.length buffer).2

/-- The frames that are not complete after some bytes, and the bytes there are of the first. -/
def advance : List (List β) → Nat → List (List β) × Nat
  | [], arrived => ([], arrived)
  | frame :: frames, arrived =>
    if frame.length ≤ arrived then advance frames (arrived - frame.length)
    else (frame :: frames, arrived)

/-- No chunk overflows the buffer, which holds `waiting` bytes of the first frame. -/
def Fits (capacity : Nat) : List (List β) → Nat → List (List β) → Prop
  | _, _, [] => True
  | frames, waiting, chunk :: chunks =>
    waiting + chunk.length ≤ capacity ∧
      Fits capacity (advance frames (waiting + chunk.length)).1
        (advance frames (waiting + chunk.length)).2 chunks

/-- A frame is recognised when it is complete and no earlier. -/
structure Recognised (head : List β → Head μ) (frame : List β) (message : μ) : Prop where
  ne_nil : frame ≠ []
  complete : ∀ tail, head (frame ++ tail) = .frame frame.length (some message)
  front : ∀ front, front <+: frame → front ≠ frame → head front = .incomplete

section Cut

variable {head : List β → Head μ}

/-- A buffer that starts with a frame. -/
lemma cut_frame {frame : List β} {message : μ} (h : Recognised head frame message) (rounds : Nat)
    (tail : List β) :
    cut head (rounds + 1) (frame ++ tail) =
      (message :: (cut head rounds tail).1, (cut head rounds tail).2) := by
  have hne : (frame ++ tail).isEmpty = false := by
    cases frame with
    | nil => exact absurd rfl h.ne_nil
    | cons b rest => rfl
  rw [cut, if_neg (by simp [hne]), h.complete]
  simp only [List.drop_left, Option.toList_some, List.singleton_append]

/-- A buffer that holds the front of a frame. -/
lemma cut_front {frame front : List β} {message : μ} (h : Recognised head frame message)
    (hfront : front <+: frame) (hne : front ≠ frame) (rounds : Nat) :
    cut head rounds front = ([], front) := by
  cases rounds with
  | zero => rfl
  | succ rounds =>
    rw [cut]
    split
    · rfl
    · rw [h.front front hfront hne]

lemma cut_nil (rounds : Nat) : cut head rounds [] = ([], []) := by
  cases rounds <;> rfl

/-- A buffer that holds the beginning of a stream of frames. -/
lemma cut_stream {stream : List (List β × μ)} (hstream : ∀ f ∈ stream, Recognised head f.1 f.2)
    {rounds : Nat} {buffer later : List β} (hbuffer : buffer ++ later = (stream.map Prod.fst).flatten)
    (hrounds : buffer.length ≤ rounds) :
    ∃ found rest left, stream = found ++ rest ∧
      cut head rounds buffer = (found.map Prod.snd, left) ∧
      left ++ later = (rest.map Prod.fst).flatten ∧
      (∀ f ∈ rest.head?, left.length < f.1.length) ∧
      advance (stream.map Prod.fst) buffer.length = (rest.map Prod.fst, left.length) := by
  induction stream generalizing rounds buffer with
  | nil =>
    obtain ⟨rfl, rfl⟩ := List.append_eq_nil_iff.mp hbuffer
    exact ⟨[], [], [], rfl, cut_nil rounds, rfl, nofun, rfl⟩
  | cons f stream ih =>
    obtain ⟨frame, message⟩ := f
    have hframe : Recognised head frame message := hstream _ List.mem_cons_self
    have hrest : ∀ f ∈ stream, Recognised head f.1 f.2 :=
      fun f hf => hstream f (List.mem_cons_of_mem _ hf)
    simp only [List.map_cons, List.flatten_cons] at hbuffer ⊢
    by_cases hle : frame.length ≤ buffer.length
    · have hprefix : frame <+: buffer ++ later := hbuffer ▸ List.prefix_append _ _
      obtain ⟨tail, rfl⟩ := List.prefix_of_prefix_length_le hprefix (List.prefix_append _ later) hle
      rw [List.append_assoc, List.append_cancel_left_eq] at hbuffer
      rw [List.length_append] at hrounds
      have hpos := List.length_pos_of_ne_nil hframe.ne_nil
      obtain ⟨rounds, rfl⟩ : ∃ r, rounds = r + 1 := ⟨rounds - 1, by omega⟩
      obtain ⟨found, rest, left, rfl, hcut, hleft, hwaiting, hadvance⟩ :=
        ih hrest hbuffer (Nat.le_of_lt_succ (by omega : tail.length < rounds + 1))
      refine ⟨(frame, message) :: found, rest, left, rfl, ?_, hleft, hwaiting, ?_⟩
      · rw [cut_frame hframe, hcut]
        rfl
      · rw [advance, if_pos hle, List.length_append, Nat.add_sub_cancel_left]
        exact hadvance
    · have hfront : buffer <+: frame :=
        List.prefix_of_prefix_length_le (List.prefix_append _ later)
          (hbuffer ▸ List.prefix_append _ _) (Nat.le_of_not_le hle)
      have hne : buffer ≠ frame := fun h => hle (Nat.le_of_eq (congrArg List.length h.symm))
      refine ⟨[], (frame, message) :: stream, buffer, rfl, cut_front hframe hfront hne rounds,
        hbuffer, ?_, ?_⟩
      · intro f hf
        cases hf
        exact Nat.lt_of_not_le hle
      · rw [advance, if_neg hle]
        rfl

/-- What is found and what is left add up to no more than the buffer. -/
lemma cut_size {size : μ → Nat}
    (hsize : ∀ buffer length message, head buffer = .frame length (some message) →
      size message ≤ length ∧ length ≤ buffer.length) (rounds : Nat) (buffer : List β) :
    ((cut head rounds buffer).1.map size).sum + (cut head rounds buffer).2.length ≤
      buffer.length := by
  induction rounds generalizing buffer with
  | zero => simp [cut]
  | succ rounds ih =>
    rw [cut]
    split
    · simp
    · cases hhead : head buffer with
      | incomplete => simp
      | garbage =>
        have h := ih (buffer.drop 1)
        rw [List.length_drop] at h
        dsimp only
        omega
      | frame length message =>
        have h := ih (buffer.drop length)
        rw [List.length_drop] at h
        dsimp only
        cases message with
        | none =>
          simp only [Option.toList_none, List.nil_append]
          omega
        | some message =>
          obtain ⟨hle, hlength⟩ := hsize buffer length message hhead
          simp only [Option.toList_some, List.singleton_append, List.map_cons, List.sum_cons]
          omega

end Cut

/-! ### Chunks -/

section Chunks

variable {head : List β → Head μ} {capacity : Nat} {size : μ → Nat}

/-- What is found adds up to no more than what has arrived. -/
lemma received_size
    (hsize : ∀ buffer length message, head buffer = .frame length (some message) →
      size message ≤ length ∧ length ≤ buffer.length) (chunks : List (List β)) (buffer : List β) :
    ((received head capacity chunks buffer).map size).sum ≤
      buffer.length + chunks.flatten.length := by
  induction chunks generalizing buffer with
  | nil => simp [received]
  | cons chunk chunks ih =>
    have hstore : (store capacity buffer chunk).length ≤ buffer.length + chunk.length := by
      unfold store
      split
      · exact Nat.le_of_eq (List.length_append)
      · exact Nat.zero_le _
    have hcut := cut_size hsize (store capacity buffer chunk).length (store capacity buffer chunk)
    have hrest := ih (cut head (store capacity buffer chunk).length (store capacity buffer chunk)).2
    rw [received, List.map_append, List.sum_append, List.flatten_cons, List.length_append]
    omega

lemma flatten_length_eq {stream : List (List β × μ)}
    (hstream : ∀ f ∈ stream, size f.2 = f.1.length) :
    (stream.map Prod.fst).flatten.length = ((stream.map Prod.snd).map size).sum := by
  induction stream with
  | nil => rfl
  | cons f stream ih =>
    simp only [List.map_cons, List.flatten_cons, List.length_append, List.sum_cons]
    rw [ih fun f hf => hstream f (List.mem_cons_of_mem _ hf), hstream f List.mem_cons_self]

/-- The frames of a stream are found, whichever chunks it arrives in, as long as no chunk
overflows the buffer. -/
theorem received_iff_fits
    (hsize : ∀ buffer length message, head buffer = .frame length (some message) →
      size message ≤ length ∧ length ≤ buffer.length)
    {stream : List (List β × μ)} (hstream : ∀ f ∈ stream, Recognised head f.1 f.2)
    (hsizes : ∀ f ∈ stream, size f.2 = f.1.length) {chunks : List (List β)} {buffer : List β}
    (hwaiting : ∀ f ∈ stream.head?, buffer.length < f.1.length)
    (hchunks : buffer ++ chunks.flatten = (stream.map Prod.fst).flatten) :
    received head capacity chunks buffer = stream.map Prod.snd ↔
      Fits capacity (stream.map Prod.fst) buffer.length chunks := by
  induction chunks generalizing stream buffer with
  | nil =>
    refine iff_of_true ?_ trivial
    cases stream with
    | nil => rfl
    | cons f stream =>
      have hlt := hwaiting f rfl
      rw [List.flatten_nil, List.append_nil, List.map_cons, List.flatten_cons] at hchunks
      rw [hchunks, List.length_append] at hlt
      exact absurd hlt (Nat.not_lt.mpr (Nat.le_add_right _ _))
  | cons chunk chunks ih =>
    rw [List.flatten_cons, ← List.append_assoc] at hchunks
    rw [received, Fits, store]
    by_cases hfits : buffer.length + chunk.length ≤ capacity
    · obtain ⟨found, rest, left, rfl, hcut, hleft, hwaiting, hadvance⟩ :=
        cut_stream hstream hchunks (Nat.le_refl _)
      have hrest : ∀ f ∈ rest, Recognised head f.1 f.2 :=
        fun f hf => hstream f (List.mem_append_right _ hf)
      rw [List.length_append] at hadvance
      rw [if_pos hfits, hcut, hadvance, List.map_append, List.append_cancel_left_eq,
        and_iff_right hfits]
      exact ih hrest (fun f hf => hsizes f (List.mem_append_right _ hf)) hwaiting hleft
    · -- the bytes that are thrown away are missing from what can be found
      refine iff_of_false (fun hreceived => ?_) fun h => hfits h.1
      have hfound : ((received head capacity chunks []).map size).sum ≤
          [].length + chunks.flatten.length := received_size hsize chunks []
      have hall := congrArg List.length hchunks
      rw [flatten_length_eq hsizes] at hall
      rw [if_neg hfits, List.length_nil, cut, List.nil_append] at hreceived
      rw [hreceived, List.length_nil] at hfound
      simp only [List.length_append] at hall
      omega

end Chunks

end Framing
