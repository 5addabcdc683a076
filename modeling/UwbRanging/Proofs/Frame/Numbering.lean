import UwbRanging.Proofs.Frame.Refusal

namespace UwbRanging

-- A number that the counter gave is gone from it.
theorem Header.number_snd (h : Header) (counter : SequenceCounter) :
    (h.number counter).2 = if h.seq.isSome then counter else ⟨counter.next + 1⟩ := by
  unfold number
  cases h.seq <;> rfl

namespace Frame

variable (f : Frame) (counter : SequenceCounter)

-- The frame with the number that it goes out with: its own, else the next one of the counter.
def numbered : Frame := { f with header.seq := some (f.header.seq.getD counter.next) }

variable {f}

theorem numbered_of_seq (hseq : f.header.seq.isSome = true) : f.numbered counter = f := by
  obtain ⟨n, hn⟩ := Option.isSome_iff_exists.mp hseq
  have hsame : some (f.header.seq.getD counter.next) = f.header.seq := by rw [hn]; rfl
  rw [numbered, hsame]

theorem encode_of_security (hsecurity : f.header.security = true) :
    f.encode counter = ⟨.error (.unsupported .security), f, counter⟩ := by
  rw [encode, Header.encode, if_pos hsecurity]
  rfl

theorem encode_of_not_security (hsecurity : f.header.security = false) :
    f.encode counter = ⟨do return (f.numbered counter).header.toWire ++ (← f.payload.encode), f.numbered counter,
      if f.header.seq.isSome then counter else ⟨counter.next + 1⟩⟩ := by
  rw [encode, Header.encode_of_not_security hsecurity, Header.number_fst, Header.number_snd]
  rfl

theorem encode_of_payload (hsecurity : f.header.security = false) {body : List UInt8}
    (hbody : f.payload.encode = .ok body) :
    f.encode counter = ⟨.ok ((f.numbered counter).header.toWire ++ body), f.numbered counter,
      if f.header.seq.isSome then counter else ⟨counter.next + 1⟩⟩ := by
  rw [encode_of_not_security counter hsecurity, hbody]
  rfl

variable {counter}

-- A frame is refused for its header, or else for its payload.
theorem outcome_eq_error_iff {error : FrameError} : (f.encode counter).outcome = .error error ↔
    f.header.security = true ∧ error = .unsupported .security ∨
      f.header.security = false ∧ f.payload.Refuses error := by
  cases hsecurity : f.header.security with
  | true =>
    rw [encode_of_security counter hsecurity]
    simp [eq_comm]
  | false =>
    rw [encode_of_not_security counter hsecurity, ← Payload.encode_eq_error_iff]
    simpa using bind_return_eq_error_iff (x := f.payload.encode)

theorem exists_of_outcome_ok {bytes : List UInt8} (h : (f.encode counter).outcome = .ok bytes) :
    f.header.security = false ∧ ∃ body, f.payload.encode = .ok body ∧
      bytes = (f.numbered counter).header.toWire ++ body := by
  cases hsecurity : f.header.security with
  | true =>
    rw [encode_of_security counter hsecurity] at h
    cases h
  | false =>
    refine ⟨rfl, ?_⟩
    cases hbody : f.payload.encode with
    | error e =>
      rw [encode_of_not_security counter hsecurity, hbody] at h
      cases h
    | ok body =>
      rw [encode_of_payload counter hsecurity hbody] at h
      exact ⟨body, rfl, (Except.ok.inj h).symm⟩

theorem outcome_eq_security_iff :
    (f.encode counter).outcome = .error (.unsupported .security) ↔ f.header.security = true := by
  rw [outcome_eq_error_iff]
  constructor
  · rintro (⟨hsecurity, -⟩ | ⟨-, hpayload⟩)
    · exact hsecurity
    · exact (Payload.not_refuses_security hpayload).elim
  · exact fun hsecurity => .inl ⟨hsecurity, rfl⟩

theorem seq_of_ok {bytes : List UInt8} (h : (f.encode counter).outcome = .ok bytes) :
    (f.encode counter).frame.header.seq = some (f.header.seq.getD counter.next) := by
  obtain ⟨hsecurity, body, hbody, -⟩ := exists_of_outcome_ok h
  rw [encode_of_payload counter hsecurity hbody]
  rfl

theorem counter_of_ok {bytes : List UInt8} (h : (f.encode counter).outcome = .ok bytes) :
    (f.encode counter).counter = if f.header.seq.isSome then counter else ⟨counter.next + 1⟩ := by
  obtain ⟨hsecurity, body, hbody, -⟩ := exists_of_outcome_ok h
  rw [encode_of_payload counter hsecurity hbody]

-- The number on the air is the one that the frame holds afterwards.
theorem getElem?_two_of_ok {bytes : List UInt8} (h : (f.encode counter).outcome = .ok bytes) :
    bytes[2]? = (f.encode counter).frame.header.seq := by
  obtain ⟨hsecurity, body, hbody, rfl⟩ := exists_of_outcome_ok h
  rw [encode_of_payload counter hsecurity hbody]
  exact (f.numbered counter).header.getElem?_toWire_two body

-- A frame that has gone out goes out again as it did, and takes no number from any counter.
theorem encode_again {bytes : List UInt8} (h : (f.encode counter).outcome = .ok bytes) (later : SequenceCounter) :
    (f.encode counter).frame.encode later = ⟨.ok bytes, (f.encode counter).frame, later⟩ := by
  obtain ⟨hsecurity, body, hbody, rfl⟩ := exists_of_outcome_ok h
  rw [encode_of_payload counter hsecurity hbody]
  have hagain := encode_of_payload (f := f.numbered counter) later hsecurity hbody
  rwa [numbered_of_seq later rfl] at hagain

-- Whether it is written or not, a frame gets its number unless it is refused for its header.
theorem frame_encode : (f.encode counter).frame = if f.header.security then f else f.numbered counter := by
  cases hsecurity : f.header.security with
  | true => rw [encode_of_security counter hsecurity, if_pos rfl]
  | false => rw [encode_of_not_security counter hsecurity, if_neg Bool.false_ne_true]

theorem counter_encode : (f.encode counter).counter =
    if f.header.security || f.header.seq.isSome then counter else ⟨counter.next + 1⟩ := by
  cases hsecurity : f.header.security with
  | true => rw [encode_of_security counter hsecurity, Bool.true_or, if_pos rfl]
  | false => rw [encode_of_not_security counter hsecurity, Bool.false_or]

-- A frame that takes no number is left as it was, and so is the counter. One that takes a number shows it.
theorem encode_traceless_iff : (f.encode counter).frame = f ∧ (f.encode counter).counter = counter ↔
    (f.header.security || f.header.seq.isSome) = true := by
  constructor
  · rintro ⟨hframe, -⟩
    rw [frame_encode] at hframe
    cases hsecurity : f.header.security with
    | true => rfl
    | false =>
      rw [hsecurity, if_neg Bool.false_ne_true] at hframe
      rw [← hframe]
      rfl
  · intro htaken
    rw [frame_encode, counter_encode, if_pos htaken]
    refine ⟨?_, rfl⟩
    split
    · rfl
    · rename_i hsecurity
      rw [Bool.not_eq_true] at hsecurity
      rw [hsecurity, Bool.false_or] at htaken
      exact numbered_of_seq counter htaken

-- What is left of a frame that could not be written.
structure Refusal (f : Frame) (counter : SequenceCounter) (error : FrameError) : Prop where
  cause : f.header.security = true ∧ error = .unsupported .security ∨
    f.header.security = false ∧ f.payload.Refuses error
  -- it gets its number before its payload is looked at, and keeps it
  kept : (f.encode counter).frame = if f.header.security then f else f.numbered counter
  taken : (f.encode counter).counter =
    if f.header.security || f.header.seq.isSome then counter else ⟨counter.next + 1⟩
  traceless : (f.encode counter).frame = f ∧ (f.encode counter).counter = counter ↔
    (f.header.security || f.header.seq.isSome) = true
  -- with a payload that can be written it goes out under that number, and takes no other
  repaired : f.header.security = false → ∀ (payload : Payload) (body : List UInt8), payload.encode = .ok body →
    ∀ later, ∃ bytes,
      { (f.encode counter).frame with payload := payload }.encode later =
        ⟨.ok bytes, { (f.encode counter).frame with payload := payload }, later⟩ ∧
      bytes[2]? = some (f.header.seq.getD counter.next)
  -- a number that it took is missing from the frames that go out in its place
  next : ∀ (other : Frame) (body : List UInt8), other.header.security = false → other.header.seq = none →
    other.payload.encode = .ok body → ∃ bytes, (other.encode (f.encode counter).counter).outcome = .ok bytes ∧
      bytes[2]? = some (if f.header.security || f.header.seq.isSome then counter.next else counter.next + 1)

theorem encode_refused (f : Frame) (counter : SequenceCounter) (error : FrameError)
    (hrefused : (f.encode counter).outcome = .error error) : f.Refusal counter error where
  cause := outcome_eq_error_iff.mp hrefused
  kept := frame_encode
  taken := counter_encode
  traceless := encode_traceless_iff
  repaired hsecurity payload body hbody later := by
    rw [frame_encode, hsecurity, if_neg Bool.false_ne_true]
    have hagain := encode_of_payload (f := { f.numbered counter with payload := payload }) later hsecurity hbody
    rw [numbered_of_seq later rfl] at hagain
    exact ⟨_, hagain, (f.numbered counter).header.getElem?_toWire_two body⟩
  next other body hsecurity hseq hbody := by
    rw [encode_of_payload _ hsecurity hbody, counter_encode]
    refine ⟨_, rfl, ?_⟩
    rw [Header.getElem?_toWire_two, numbered, hseq]
    split <;> rfl

-- A report whose entries do not agree is refused as the last number of a round is due. The frame keeps that number,
-- and the next one starts the new round.
theorem encode_refused_mixedEntries :
    let f : Frame := {
      header := { src := some (.short 1) }
      payload := .timing ⟨true, none, [⟨.short 7, some 1, none⟩, ⟨.short 8, none, none⟩]⟩ }
    (f.encode ⟨255⟩).outcome = .error (.unsupported .mixedTimingEntries) ∧
      (f.encode ⟨255⟩).frame = { f with header.seq := some 255 } ∧ (f.encode ⟨255⟩).counter = ⟨0⟩ ∧
      f.payload.Refuses (.unsupported .mixedTimingEntries) := by
  intro f
  have hrefused : (f.encode ⟨255⟩).outcome = .error (.unsupported .mixedTimingEntries) := rfl
  have hrefusal := encode_refused f ⟨255⟩ _ hrefused
  refine ⟨hrefused, hrefusal.kept, hrefusal.taken, ?_⟩
  rcases hrefusal.cause with ⟨hsecurity, -⟩ | ⟨-, hpayload⟩
  · cases hsecurity
  · exact hpayload

-- A payload of another protocol that starts like one of this protocol is refused. The frame has got a number all the
-- same, and the counter has moved on.
theorem encode_refused_leavesTrace :
    ({ header := {}, payload := .raw [0x37] } : Frame).encode {} =
      ⟨.error (.unsupported (.rawMagic 0x37)), { header := { seq := some 0 }, payload := .raw [0x37] }, ⟨1⟩⟩ := rfl

end Frame

end UwbRanging
