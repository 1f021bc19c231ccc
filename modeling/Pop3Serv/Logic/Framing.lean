import Mathlib

/-!
# Frames of a stream

A stream is cut into frames by a predicate on buffers: a frame ends with the first
element that makes the buffer `full`. A receiver that is given chunks looks at its
buffer only between chunks, so the buffers it finds full (`regroup`) are the frames of
the stream only if no chunk goes past the end of a frame (`Aligned`).
-/

namespace Pop3Serv.Logic

variable {α : Type*} {full : List α → Bool} {buffer xs ys : List α} {chunks : List (List α)}

/-- A buffer that is full stays full whatever is appended. -/
def Lasting (full : List α → Bool) : Prop := ∀ xs ys, full xs = true → full (xs ++ ys) = true

/-- Full, and not before its last element. -/
structure IsFrame (full : List α → Bool) (frame : List α) : Prop where
  whole : full frame = true
  before : full frame.dropLast = false

instance (full : List α → Bool) (frame : List α) : Decidable (IsFrame full frame) :=
  decidable_of_iff (full frame = true ∧ full frame.dropLast = false)
    ⟨fun h => ⟨h.1, h.2⟩, fun h => ⟨h.whole, h.before⟩⟩

/-- The frames of a stream, when some of the first one is in the buffer already. -/
def frames (full : List α → Bool) : List α → List α → List (List α)
  | _, [] => []
  | buffer, x :: rest =>
    if full (buffer ++ [x]) then (buffer ++ [x]) :: frames full [] rest
    else frames full (buffer ++ [x]) rest

/-- The buffers a receiver of chunks finds full, each emptied before the next chunk. -/
def regroup (full : List α → Bool) : List α → List (List α) → List (List α)
  | _, [] => []
  | buffer, chunk :: chunks =>
    if full (buffer ++ chunk) then (buffer ++ chunk) :: regroup full [] chunks
    else regroup full (buffer ++ chunk) chunks

/-- No chunk goes past the end of a frame. -/
def Aligned (full : List α → Bool) : List α → List (List α) → Prop
  | _, [] => True
  | buffer, chunk :: chunks =>
    if full (buffer ++ chunk) then IsFrame full (buffer ++ chunk) ∧ Aligned full [] chunks
    else Aligned full (buffer ++ chunk) chunks

instance Aligned.decidable (full : List α → Bool) :
    (buffer : List α) → (chunks : List (List α)) → Decidable (Aligned full buffer chunks)
  | _, [] => .isTrue trivial
  | buffer, chunk :: chunks => by
    unfold Aligned
    have := Aligned.decidable full [] chunks
    have := Aligned.decidable full (buffer ++ chunk) chunks
    infer_instance

theorem Lasting.short (lasting : Lasting full) (h : full (xs ++ ys) = false) : full xs = false := by
  cases early : full xs with
  | false => rfl
  | true => rw [lasting xs ys early] at h; cases h

/-- Elements that do not fill the buffer are only put into it. -/
theorem frames_short (lasting : Lasting full) (short : full (buffer ++ xs) = false) (ys : List α) :
    frames full buffer (xs ++ ys) = frames full (buffer ++ xs) ys := by
  induction xs generalizing buffer with
  | nil => simp
  | cons x xs ih =>
    have short : full ((buffer ++ [x]) ++ xs) = false := by simpa using short
    rw [List.cons_append, frames, lasting.short short, if_neg (by simp), ih short]
    simp

/-- Elements that complete a frame. -/
theorem frames_frame (lasting : Lasting full) (unfinished : full buffer = false)
    (frame : IsFrame full (buffer ++ xs)) (ys : List α) :
    frames full buffer (xs ++ ys) = (buffer ++ xs) :: frames full [] ys := by
  rcases List.eq_nil_or_concat xs with rfl | ⟨xs, x, rfl⟩
  · rw [List.append_nil] at frame
    cases unfinished.symm.trans frame.whole
  · have last : full ((buffer ++ xs) ++ [x]) = true := by simpa using frame.whole
    have before : full (buffer ++ xs) = false := by
      have := frame.before
      rwa [List.concat_eq_append, ← List.append_assoc, List.dropLast_concat] at this
    rw [List.concat_eq_append, List.append_assoc, frames_short lasting before, List.singleton_append, frames,
      if_pos last, List.append_assoc]

/-- **A receiver of chunks that end where frames end finds the frames of the stream.** -/
theorem regroup_eq_frames (lasting : Lasting full) (unfinished : full buffer = false)
    (aligned : Aligned full buffer chunks) :
    regroup full buffer chunks = frames full buffer chunks.flatten := by
  have empty : full [] = false := lasting.short (show full ([] ++ buffer) = false from unfinished)
  induction chunks generalizing buffer with
  | nil => rfl
  | cons chunk chunks ih =>
    rw [Aligned] at aligned
    rw [regroup, List.flatten_cons]
    split at aligned
    · rename_i filled
      obtain ⟨frame, rest⟩ := aligned
      rw [if_pos filled, frames_frame lasting unfinished frame, ih empty rest]
    · rename_i short
      rw [if_neg short, frames_short lasting (by simpa using short), ih (by simpa using short) aligned]

/-- The buffers found full are full. -/
theorem full_of_mem_regroup {found : List α} (member : found ∈ regroup full buffer chunks) :
    full found = true := by
  induction chunks generalizing buffer with
  | nil => cases member
  | cons chunk chunks ih =>
    rw [regroup] at member
    split at member
    · rename_i filled
      rcases List.mem_cons.mp member with rfl | later
      · exact filled
      · exact ih later
    · exact ih member

/-- A stream put together from frames has these frames. -/
theorem frames_flatten (lasting : Lasting full) (empty : full [] = false)
    (each : ∀ chunk ∈ chunks, IsFrame full chunk) : frames full [] chunks.flatten = chunks := by
  induction chunks with
  | nil => rfl
  | cons chunk chunks ih =>
    rw [List.flatten_cons, frames_frame lasting empty (each chunk List.mem_cons_self),
      ih fun later member => each later (List.mem_cons_of_mem _ member)]
    rfl

end Pop3Serv.Logic
