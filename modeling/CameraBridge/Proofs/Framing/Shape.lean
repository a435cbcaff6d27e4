import CameraBridge.Proofs.Framing.Reading

namespace CameraBridge

/-! The shape of a body's frames: which class declares its length, how full each frame is, how the
continuations are numbered, and that no other frames of that class could do with fewer. -/

/-- The class that declares the length of a body. -/
def LengthClass.ofLength (length : Nat) : LengthClass :=
  if length ≤ 19 then .short else if length ≤ 8190 then .medium else .long

theorem LengthClass.headerLength_bounds (lengthClass : LengthClass) :
    1 ≤ lengthClass.headerLength ∧ lengthClass.headerLength ≤ 3 := by
  cases lengthClass <;> decide

/-- Whatever fits one write is a message on any channel. -/
theorem Message.mapM_make (channel : Channel) (rename : MessageError → FrameError)
    {frames : List Bytes} (fit : ∀ frame ∈ frames, frame.length ≤ maxWrite) :
    ∃ messages, frames.mapM (fun frame => (make channel frame).mapError rename) = .ok messages ∧
      messages.map payload = frames ∧ ∀ message ∈ messages, message.channel = channel := by
  induction frames with
  | nil => exact ⟨[], rfl, rfl, by simp⟩
  | cons frame rest ih =>
      obtain ⟨messages, made, same, onChannel⟩ :=
        ih fun other member => fit other (List.mem_cons_of_mem _ member)
      have fits : frame.length ≤ maxWrite := fit frame List.mem_cons_self
      have first : (make channel frame).mapError rename = .ok ⟨channel, frame, fits⟩ := by
        rw [make, dif_pos fits]
        rfl
      refine ⟨⟨channel, frame, fits⟩ :: messages, ?_, by rw [List.map_cons, same], ?_⟩
      · rw [List.mapM_cons, first, made]
        rfl
      · intro message member
        rcases List.mem_cons.mp member with rfl | later
        · rfl
        · exact onChannel message later

namespace Header

theorem length_pos_of_read {frame : Bytes} {header : Header} (read : read frame = .ok header) :
    1 ≤ frame.length := by
  cases frame with
  | nil => cases read
  | cons => exact Nat.succ_pos _

theorem ofStart_append {lengthClass : LengthClass} {header : Bytes}
    (width : header.length = lengthClass.headerLength) (declared : Nat) (part : Bytes) :
    ofStart lengthClass declared (header ++ part) =
      .start lengthClass declared part[0]? part[1]? := by
  simp only [ofStart, ← width, List.getElem?_append_right (Nat.le_refl _),
    List.getElem?_append_right (Nat.le_add_right _ 1), Nat.sub_self, Nat.add_sub_cancel_left]

end Header

namespace Frame

/-- What stands behind the header of a frame. -/
def content (frame : Bytes) : Bytes :=
  match Header.read frame with
  | .ok header => frame.drop header.length
  | .error _ => []

theorem content_start {frame : Bytes} {lengthClass : LengthClass} {declared : Nat}
    {feature action : Option UInt8}
    (read : Header.read frame = .ok (.start lengthClass declared feature action)) :
    content frame = frame.drop lengthClass.headerLength := by
  simp only [content, read, Header.length]

theorem content_continuation {frame : Bytes} {sequence : Nat}
    (read : Header.read frame = .ok (.continuation sequence)) : content frame = frame.drop 1 := by
  simp only [content, read, Header.length]

/-- Frames that bring a body in some class: a start frame declares its length, all others go on with
it, and each is one write at most. -/
structure Carries (lengthClass : LengthClass) (body : Bytes) (frames : List Bytes) : Prop where
  starts : ∃ first ∈ frames.head?, ∃ feature action,
    Header.read first = .ok (.start lengthClass body.length feature action)
  goesOn : ∀ frame ∈ frames.tail, ∃ sequence, Header.read frame = .ok (.continuation sequence)
  fits : ∀ frame ∈ frames, frame.length ≤ maxWrite
  whole : frames.flatMap content = body

/-- How the frames of a body look. -/
structure Shape (body : Bytes) (frames : List Bytes) : Prop where
  sized : ∀ frame ∈ frames, 1 ≤ frame.length ∧ frame.length ≤ 20
  full : ∀ frame ∈ frames.dropLast, frame.length = 20
  starts : ∃ first ∈ frames.head?,
    Header.read first = .ok (.start (.ofLength body.length) body.length body[0]? body[1]?)
  numbered : ∀ number frame, frames.tail[number]? = some frame →
    Header.read frame = .ok (.continuation (number % 16))
  whole : frames.flatMap content = body
  fewest : ∀ others, Carries (.ofLength body.length) body others → frames.length ≤ others.length

/-! ### Continuations -/

theorem continuations_length (sequence : Nat) (rest : Bytes) :
    (continuations sequence rest).length = (rest.length + 18) / 19 := by
  fun_induction continuations sequence rest with
  | case1 => rfl
  | case2 sequence byte tail ih =>
      rw [List.length_cons, ih, List.length_drop, List.length_cons]
      simp only [chunk, maxWrite]
      omega

theorem continuations_fit (sequence : Nat) (rest : Bytes) :
    ∀ frame ∈ continuations sequence rest, frame.length ≤ maxWrite := by
  fun_induction continuations sequence rest with
  | case1 => simp
  | case2 sequence byte tail ih =>
      intro frame member
      rcases List.mem_cons.mp member with rfl | later
      · simp only [List.length_cons, List.length_take, chunk, maxWrite]
        omega
      · exact ih frame later

/-- A continuation that is followed by another one is filled. -/
theorem continuations_full (sequence : Nat) (rest : Bytes) :
    ∀ frame ∈ (continuations sequence rest).dropLast, frame.length = maxWrite := by
  fun_induction continuations sequence rest with
  | case1 => simp
  | case2 sequence byte tail ih =>
      intro frame member
      cases left : tail.drop (chunk - 1) with
      | nil => simp [left, continuations] at member
      | cons next more =>
          have long : chunk - 1 < tail.length := by
            apply Nat.lt_of_not_le
            intro covered
            simp [List.drop_eq_nil_of_le covered] at left
          have another : continuations (sequence + 1) (tail.drop (chunk - 1)) ≠ [] := by
            rw [left, continuations]
            exact List.cons_ne_nil _ _
          rw [List.dropLast_cons_of_ne_nil another] at member
          rcases List.mem_cons.mp member with rfl | later
          · simp only [List.length_cons, List.length_take, chunk, maxWrite] at long ⊢
            omega
          · exact ih frame later

theorem continuations_numbered (sequence : Nat) (rest : Bytes) (number : Nat) (frame : Bytes)
    (found : (continuations sequence rest)[number]? = some frame) :
    Header.read frame = .ok (.continuation ((sequence + number) % 16)) := by
  fun_induction continuations sequence rest generalizing number with
  | case1 => simp at found
  | case2 sequence byte tail ih =>
      cases number with
      | zero =>
          obtain rfl := Option.some.inj found
          exact Header.read_continuation sequence _
      | succ number =>
          rw [List.getElem?_cons_succ] at found
          rw [ih number found, Nat.add_assoc, Nat.add_comm 1]

theorem continuations_whole (sequence : Nat) (rest : Bytes) :
    (continuations sequence rest).flatMap content = rest := by
  fun_induction continuations sequence rest with
  | case1 => rfl
  | case2 sequence byte tail ih =>
      rw [List.flatMap_cons, ih, content_continuation (Header.read_continuation sequence _),
        List.drop_one, List.tail_cons]
      exact List.take_append_drop chunk (byte :: tail)

/-! ### Whole bodies -/

/-- How a body is framed: short and alone, or in a filled start frame and continuations. -/
inductive Framed (body : Bytes) : List Bytes → Prop where
  | alone (short : body.length ≤ chunk) : Framed body [UInt8.ofNat body.length :: body]
  | filled {header : Bytes} (long : chunk < body.length)
      (width : header.length = (LengthClass.ofLength body.length).headerLength)
      (read : ∀ part, Header.read (header ++ part) =
        .ok (Header.ofStart (.ofLength body.length) body.length (header ++ part))) :
      Framed body (fill header body)

theorem ofBody_framed {body : Bytes} (bounded : body.length ≤ maxBody) :
    ∃ frames, ofBody body = .ok frames ∧ Framed body frames := by
  unfold ofBody
  by_cases short : body.length ≤ chunk
  · exact ⟨_, if_pos short, .alone short⟩
  · have long := Nat.lt_of_not_le short
    simp only [if_neg short]
    simp only [chunk, maxWrite, Nat.reduceSub] at short
    by_cases medium : body.length < mediumLimit
    · have known : LengthClass.ofLength body.length = .medium := by
        rw [LengthClass.ofLength, if_neg short, if_pos (Nat.le_of_lt_succ medium)]
      simp only [mediumLimit] at medium
      refine ⟨_, if_pos medium, .filled long (by rw [known]; rfl) fun part => ?_⟩
      rw [known]
      exact Header.read_medium (by omega) part
    · have known : LengthClass.ofLength body.length = .long := by
        rw [LengthClass.ofLength, if_neg short, if_neg fun small => medium (Nat.lt_succ_of_le small)]
      simp only [maxBody] at bounded
      refine ⟨_, (if_neg medium).trans (if_pos bounded), .filled long (by rw [known]; rfl) fun part => ?_⟩
      rw [known]
      exact Header.read_long (by omega) part

theorem ofBody_long {body : Bytes} (long : maxBody < body.length) :
    ofBody body = .error (.bodyTooLarge body.length) := by
  have above : ¬ body.length ≤ chunk ∧ ¬ body.length < mediumLimit ∧ ¬ body.length ≤ maxBody := by
    simp only [maxBody, chunk, maxWrite, mediumLimit] at long ⊢
    omega
  simp only [ofBody, above, if_false]

theorem framed_of_ofBody {body : Bytes} {frames : List Bytes} (made : ofBody body = .ok frames) :
    Framed body frames := by
  by_cases bounded : body.length ≤ maxBody
  · obtain ⟨others, again, framed⟩ := ofBody_framed bounded
    cases made.symm.trans again
    exact framed
  · rw [ofBody_long (Nat.lt_of_not_le bounded)] at made
    cases made

theorem content_length_le {frames : List Bytes}
    (goesOn : ∀ frame ∈ frames, ∃ sequence, Header.read frame = .ok (.continuation sequence))
    (fits : ∀ frame ∈ frames, frame.length ≤ maxWrite) :
    (frames.flatMap content).length ≤ chunk * frames.length := by
  induction frames with
  | nil => exact Nat.le_refl _
  | cons frame rest ih =>
      have others := ih (fun other member => goesOn other (List.mem_cons_of_mem _ member))
        fun other member => fits other (List.mem_cons_of_mem _ member)
      obtain ⟨sequence, read⟩ := goesOn frame List.mem_cons_self
      have one := fits frame List.mem_cons_self
      rw [List.flatMap_cons, List.length_append, content_continuation read, List.length_drop,
        List.length_cons]
      simp only [chunk, maxWrite] at one others ⊢
      omega

/-- What some frames can carry: a write less the header, and a write less one byte for each further
frame. -/
theorem Carries.capacity {lengthClass : LengthClass} {body : Bytes} {frames : List Bytes}
    (carries : Carries lengthClass body frames) :
    1 ≤ frames.length ∧
      body.length ≤ maxWrite - lengthClass.headerLength + chunk * (frames.length - 1) := by
  obtain ⟨⟨first, atHead, feature, action, read⟩, goesOn, fits, rfl⟩ := carries
  obtain ⟨rest, rfl⟩ := List.head?_eq_some_iff.mp atHead
  have others := content_length_le goesOn fun frame member => fits frame (List.mem_cons_of_mem _ member)
  have one := fits first List.mem_cons_self
  refine ⟨Nat.succ_pos _, ?_⟩
  rw [List.flatMap_cons, List.length_append, content_start read, List.length_drop, List.length_cons,
    Nat.add_sub_cancel]
  exact Nat.add_le_add (Nat.sub_le_sub_right one _) others

theorem fill_fewest {header body : Bytes} {lengthClass : LengthClass} {others : List Bytes}
    (width : header.length = lengthClass.headerLength) (carries : Carries lengthClass body others) :
    (fill header body).length ≤ others.length := by
  obtain ⟨nonempty, capacity⟩ := carries.capacity
  rw [fill, List.length_cons, continuations_length, List.length_drop, width]
  simp only [chunk, maxWrite] at capacity ⊢
  omega

theorem Framed.shape {body : Bytes} {frames : List Bytes} (framed : Framed body frames) :
    Shape body frames := by
  cases framed with
  | alone short =>
      have known : LengthClass.ofLength body.length = .short := if_pos short
      simp only [chunk, maxWrite] at short
      have fits : body.length < 32 := by omega
      have read := Header.read_short fits body
      refine ⟨?_, by simp, ⟨_, rfl, ?_⟩, by simp, ?_, fun others carries => carries.capacity.1⟩
      · intro frame member
        rw [List.mem_singleton.mp member, List.length_cons]
        omega
      · rw [known, read]
        rfl
      · rw [List.flatMap_singleton, content_start read]
        rfl
  | @filled header long width read =>
      have bounds := (LengthClass.ofLength body.length).headerLength_bounds
      rw [← width] at bounds
      simp only [chunk, maxWrite] at long
      have opened := read (body.take (maxWrite - header.length))
      rw [Header.ofStart_append width] at opened
      have size : (header ++ body.take (maxWrite - header.length)).length = 20 := by
        rw [List.length_append, List.length_take]
        simp only [maxWrite]
        omega
      refine ⟨?_, ?_, ⟨_, rfl, ?_⟩, ?_, ?_, fun others => fill_fewest width⟩
      · intro frame member
        rcases List.mem_cons.mp member with rfl | later
        · omega
        · obtain ⟨number, found⟩ := List.mem_iff_getElem?.mp later
          exact ⟨Header.length_pos_of_read (continuations_numbered _ _ number frame found),
            continuations_fit _ _ frame later⟩
      · intro frame member
        rw [fill, List.dropLast_cons_of_ne_nil] at member
        · rcases List.mem_cons.mp member with rfl | later
          · exact size
          · exact continuations_full _ _ frame later
        · apply List.ne_nil_of_length_pos
          rw [continuations_length, List.length_drop]
          simp only [maxWrite]
          omega
      · rw [opened, List.getElem?_take_of_lt, List.getElem?_take_of_lt] <;>
        · simp only [maxWrite]
          omega
      · intro number frame found
        rw [continuations_numbered 0 _ number frame found, Nat.zero_add]
      · rw [fill, List.flatMap_cons, continuations_whole, content_start opened, ← width,
          List.drop_left, List.take_append_drop]

/-- A body whose length cannot be declared has no frames. All others have, of the least number for
their class, and each of them is one message. -/
theorem frames_of_every_body (channel : Channel) (body : Bytes) :
    (65535 < body.length →
      ofBody body = .error (.bodyTooLarge body.length) ∧
        messages channel body = .error (.bodyTooLarge body.length)) ∧
      (body.length ≤ 65535 →
        ∃ frames, ofBody body = .ok frames ∧ Shape body frames ∧
          ∃ sent, messages channel body = .ok sent ∧ sent.map Message.payload = frames ∧
            ∀ message ∈ sent, message.channel = channel) := by
  constructor
  · intro long
    have failed := ofBody_long long
    exact ⟨failed, by rw [messages, failed]; rfl⟩
  · intro bounded
    obtain ⟨frames, made, framed⟩ := ofBody_framed bounded
    have shape := framed.shape
    obtain ⟨sent, built, same, onChannel⟩ := Message.mapM_make channel
      (fun _ => .bodyTooLarge body.length) fun frame member => (shape.sized frame member).2
    refine ⟨frames, made, shape, sent, ?_, same, onChannel⟩
    rw [messages, made]
    exact built

/-- The shortest body of the long class, and the shortest one that has no frames. -/
theorem frames_of_every_body_at_limits :
    (List.replicate 8191 (7 : UInt8)).length ≤ 65535 ∧
      (∃ frames, ofBody (List.replicate 8191 7) = .ok frames ∧
        (∃ first ∈ frames.head?, Header.read first = .ok (.start .long 8191 (some 7) (some 7))) ∧
        ∃ sent, messages .net (List.replicate 8191 7) = .ok sent ∧
          sent.map Message.payload = frames ∧ ∀ message ∈ sent, message.channel = .net) ∧
      65535 < (List.replicate 65536 (7 : UInt8)).length ∧
      messages .net (List.replicate 65536 7) = .error (.bodyTooLarge 65536) := by
  have bounded : (List.replicate 8191 (7 : UInt8)).length ≤ 65535 := by
    rw [List.length_replicate]
    decide
  have long : 65535 < (List.replicate 65536 (7 : UInt8)).length := by
    rw [List.length_replicate]
    decide
  obtain ⟨frames, made, shape, sent⟩ := (frames_of_every_body .net _).2 bounded
  have starts := shape.starts
  have failed := ((frames_of_every_body .net _).1 long).2
  rw [List.length_replicate] at starts failed
  exact ⟨bounded, ⟨frames, made, starts, sent⟩, long, failed⟩

end Frame

end CameraBridge
