import CameraBridge.Proofs.Framing.Shape
import CameraBridge.Proofs.Reassembly.Observation

namespace CameraBridge.Reassembler

/-! Bodies that are split into frames and put together again. The frames of a body are numbered
modulo sixteen, but a reassembler never looks at the numbers: it counts the bytes that are missing,
and the last continuation is the one that brings exactly these. -/

def notifications (channel : Channel) (frames : List Bytes) : List Input :=
  frames.map (.push channel)

/-- What is seen of a body that the last of some notifications completes: nothing until then. -/
def arrival (count : Nat) (assembled : Assembled) : List (Option Outcome × Status) :=
  List.replicate (count - 1) (some (.ok none), .accumulating) ++
    [(some (.ok (some assembled)), .idle)]

theorem arrival_succ {count : Nat} (positive : 0 < count) (assembled : Assembled) :
    arrival (count + 1) assembled = (some (.ok none), .accumulating) :: arrival count assembled := by
  obtain ⟨before, rfl⟩ : ∃ before, count = before + 1 := ⟨count - 1, by omega⟩
  rfl

/-! ### Continuations -/

/-- The continuations of exactly what a body misses complete it, with the last one of them. -/
theorem observe_continuations (assembly : Assembly) {rest : Bytes}
    (channel : Channel) (sequence : Nat) (nonempty : rest ≠ [])
    (missing : assembly.missing = rest.length) :
    let frames := Frame.continuations sequence rest
    (gathering assembly).observe (notifications channel frames) =
        arrival frames.length ⟨assembly.channel, assembly.received.reverse ++ rest,
          assembly.frames + frames.length⟩ ∧
      (gathering assembly).run (notifications channel frames) = .idle := by
  -- On the number of missing bytes: each continuation but the last brings nineteen of them.
  induction size : rest.length using Nat.strongRecOn generalizing assembly sequence rest with
  | ind size ih =>
      subst size
      have read := Header.read_continuation sequence (rest.take Frame.chunk)
      have push := push_continuation (gathering assembly) channel read
      rw [List.drop_one, List.tail_cons] at push
      rw [Frame.continuations_cons sequence nonempty]
      by_cases last : rest.length ≤ Frame.chunk
      · have all : rest.take Frame.chunk = rest := List.take_of_length_le last
        have none : rest.drop Frame.chunk = [] := List.drop_eq_nil_of_le last
        rw [all, extend_whole missing.symm] at push
        rw [all, none, Frame.continuations]
        exact observe_push push []
      · have size : (rest.take Frame.chunk).length = Frame.chunk := by
          rw [List.length_take]
          omega
        have left : (rest.drop Frame.chunk).length = rest.length - Frame.chunk := List.length_drop
        have more : rest.drop Frame.chunk ≠ [] := by
          intro empty
          rw [empty, List.length_nil] at left
          omega
        have shorter : (rest.drop Frame.chunk).length < rest.length := by
          rw [left]
          simp only [Frame.chunk, maxWrite] at last ⊢
          omega
        rw [extend_partial (by omega)] at push
        obtain ⟨observed, ended⟩ := observe_push push
          (notifications channel (Frame.continuations (sequence + 1) (rest.drop Frame.chunk)))
        have still : assembly.missing - (rest.take Frame.chunk).length =
            (rest.drop Frame.chunk).length := by
          simp only [size, left, missing]
        obtain ⟨restObserved, restEnded⟩ := ih _ shorter { assembly with
            received := (rest.take Frame.chunk).reverse ++ assembly.received
            missing := assembly.missing - (rest.take Frame.chunk).length
            frames := assembly.frames + 1 } (sequence + 1) more still rfl
        refine ⟨observed.trans ?_, ended.trans restEnded⟩
        rw [restObserved, List.length_cons, arrival_succ (Frame.continuations_length_pos _ more)]
        simp only [status, List.reverse_append, List.reverse_reverse, List.append_assoc,
          List.take_append_drop, Nat.add_assoc, Nat.add_comm 1]

/-! ### Whole bodies -/

/-- A start frame that is filled with a body's first bytes, and the continuations of the others. -/
theorem observe_fill {header body : Bytes} (lengthClass : LengthClass)
    {feature action : Option UInt8} (reassembler : Reassembler) (channel : Channel)
    (width : header.length = lengthClass.headerLength)
    (read : Header.read (header ++ body.take (maxWrite - header.length)) =
      .ok (.start lengthClass body.length feature action))
    (long : maxWrite - header.length < body.length) :
    let frames := Frame.fill header body
    reassembler.observe (notifications channel frames) =
        arrival frames.length ⟨channel, body, frames.length⟩ ∧
      reassembler.run (notifications channel frames) = .idle := by
  have push := push_start reassembler channel read
  have size : (body.take (maxWrite - header.length)).length = maxWrite - header.length := by
    rw [List.length_take]
    omega
  have left : (body.drop (maxWrite - header.length)).length =
      body.length - (maxWrite - header.length) := List.length_drop
  have more : body.drop (maxWrite - header.length) ≠ [] := by
    intro empty
    rw [empty, List.length_nil] at left
    omega
  rw [← width, List.drop_left, start_partial (by omega)] at push
  obtain ⟨observed, ended⟩ := observe_push push
    (notifications channel (Frame.continuations 0 (body.drop (maxWrite - header.length))))
  obtain ⟨restObserved, restEnded⟩ := observe_continuations
    ⟨channel, (body.take (maxWrite - header.length)).reverse,
      body.length - (body.take (maxWrite - header.length)).length, 1⟩
    channel 0 more (by simp only [size, left])
  refine ⟨observed.trans ?_, ended.trans restEnded⟩
  rw [restObserved, Frame.fill, List.length_cons,
    arrival_succ (Frame.continuations_length_pos _ more)]
  simp only [status, List.reverse_reverse, List.take_append_drop, Nat.add_comm]

/-- The frames of a body, whatever was gathered before them. -/
theorem observe_ofBody (reassembler : Reassembler) (channel : Channel) (body : Bytes)
    (nonempty : 1 ≤ body.length) (bounded : body.length ≤ Frame.maxBody) :
    ∃ frames, Frame.ofBody body = .ok frames ∧
      reassembler.observe (notifications channel frames) =
        arrival frames.length ⟨channel, body, frames.length⟩ ∧
      reassembler.run (notifications channel frames) = .idle := by
  obtain ⟨frames, made, framed⟩ := Frame.ofBody_framed bounded
  refine ⟨frames, made, ?_⟩
  cases framed with
  | alone short =>
      have push := push_start reassembler channel
        (Header.read_short (show body.length < 32 by simp only [Frame.chunk, maxWrite] at short; omega)
          body)
      rw [LengthClass.headerLength, List.drop_one, List.tail_cons, start_whole nonempty rfl] at push
      exact observe_push push []
  | filled long width read =>
      refine observe_fill _ reassembler channel width (read _) ?_
      have wide := (LengthClass.ofLength body.length).headerLength_bounds
      simp only [Frame.chunk, maxWrite] at long ⊢
      omega

/-! ### Bodies one after the other -/

/-- The frames of every body as notifications on its channel, in order. -/
def allNotifications (bodies : List (Channel × Bytes)) (framed : List (List Bytes)) : List Input :=
  (List.zipWith (fun entry frames => notifications entry.1 frames) bodies framed).flatten

def allArrivals (bodies : List (Channel × Bytes)) (framed : List (List Bytes)) :
    List (Option Outcome × Status) :=
  (List.zipWith (fun entry frames =>
    arrival frames.length ⟨entry.1, entry.2, frames.length⟩) bodies framed).flatten

theorem observe_bodies (reassembler : Reassembler) (bodies : List (Channel × Bytes))
    (sized : ∀ entry ∈ bodies, 1 ≤ entry.2.length ∧ entry.2.length ≤ Frame.maxBody) :
    ∃ framed, bodies.mapM (fun entry => Frame.ofBody entry.2) = .ok framed ∧
      reassembler.observe (allNotifications bodies framed) = allArrivals bodies framed := by
  induction bodies generalizing reassembler with
  | nil => exact ⟨[], rfl, rfl⟩
  | cons entry rest ih =>
      obtain ⟨nonempty, bounded⟩ := sized entry (by simp)
      obtain ⟨frames, made, observed, ended⟩ :=
        observe_ofBody reassembler entry.1 entry.2 nonempty bounded
      obtain ⟨framed, restMade, restObserved⟩ := ih (reassembler.run (notifications entry.1 frames))
        (fun other member => sized other (by simp [member]))
      refine ⟨frames :: framed, by rw [List.mapM_cons, made, restMade]; rfl, ?_⟩
      change reassembler.observe (notifications entry.1 frames ++ allNotifications rest framed) =
        arrival frames.length ⟨entry.1, entry.2, frames.length⟩ ++ allArrivals rest framed
      rw [observe_append, observed, restObserved]

/-- Every list of bodies comes back from its frames, whatever was gathered before: all frames of a
body but the last lead to nothing, and the last one to the body on its channel. A command of any
feature, action and payload is one such body and keeps its three parts. -/
theorem framing_round_trip (reassembler : Reassembler) :
    (∀ bodies : List (Channel × Bytes),
      (∀ entry ∈ bodies, 1 ≤ entry.2.length ∧ entry.2.length ≤ 65535) →
      ∃ framed, bodies.mapM (fun entry => Frame.ofBody entry.2) = .ok framed ∧
        reassembler.observe (allNotifications bodies framed) = allArrivals bodies framed) ∧
    (∀ (channel : Channel) (feature action : UInt8) (payload : Bytes), payload.length ≤ 65533 →
      ∃ frames assembled, Frame.ofCommand feature action payload = .ok frames ∧
        reassembler.observe (notifications channel frames) = arrival frames.length assembled ∧
        assembled.channel = channel ∧ assembled.frames = frames.length ∧
        assembled.feature? = some feature ∧ assembled.action? = some action ∧
        assembled.payload = payload) := by
  refine ⟨observe_bodies reassembler, ?_⟩
  intro channel feature action payload bounded
  have sized : (feature :: action :: payload).length = payload.length + 2 := rfl
  obtain ⟨frames, made, observed, _⟩ := observe_ofBody reassembler channel
    (feature :: action :: payload) (by omega) (by rw [sized, Frame.maxBody]; omega)
  exact ⟨frames, _, made, observed, rfl, rfl, rfl, rfl, rfl⟩

theorem framing_round_trip_mid_message :
    let held := gathering ⟨.net, [1, 2], 5, 1⟩
    let bodies := [(Channel.query, List.replicate 20 7), (.cmd, [0x13, 0])]
    (∀ entry ∈ bodies, 1 ≤ entry.2.length ∧ entry.2.length ≤ 65535) ∧
      (∃ framed, bodies.mapM (fun entry => Frame.ofBody entry.2) = .ok framed ∧
        held.observe (allNotifications bodies framed) = allArrivals bodies framed) ∧
      ∃ frames assembled, Frame.ofCommand 0x3C 1 [9] = .ok frames ∧
        held.observe (notifications .settings frames) = arrival frames.length assembled ∧
        assembled.channel = .settings ∧ assembled.frames = frames.length ∧
        assembled.feature? = some 0x3C ∧ assembled.action? = some 1 ∧ assembled.payload = [9] :=
  ⟨by decide, (framing_round_trip _).1 _ (by decide),
    (framing_round_trip _).2 .settings 0x3C 1 [9] (by decide)⟩

end CameraBridge.Reassembler
