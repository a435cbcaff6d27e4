import CameraBridge.Reassembly

namespace CameraBridge.Reassembler

/-! Runs of a reassembler: notifications and resets in any order, and what is seen after each. -/

inductive Input where
  | push (channel : Channel) (frame : Bytes)
  | reset
  deriving DecidableEq

/-- Where the gathering stands, as seen from outside. -/
inductive Status where
  | idle
  | accumulating
  | error
  deriving DecidableEq

def status : Reassembler → Status
  | .idle => .idle
  | .gathering _ => .accumulating
  | .broken => .error

def after (reassembler : Reassembler) : Input → Reassembler
  | .push channel frame => (reassembler.push channel frame).1
  | .reset => reassembler.reset

/-- The outcome of a notification; a reset has none. -/
def outcome? (reassembler : Reassembler) : Input → Option Outcome
  | .push channel frame => some (reassembler.push channel frame).2
  | .reset => none

def run (reassembler : Reassembler) (inputs : List Input) : Reassembler :=
  inputs.foldl after reassembler

def observe : Reassembler → List Input → List (Option Outcome × Status)
  | _, [] => []
  | reassembler, input :: rest =>
      (reassembler.outcome? input, (reassembler.after input).status) ::
        (reassembler.after input).observe rest

theorem run_append (reassembler : Reassembler) (left right : List Input) :
    reassembler.run (left ++ right) = (reassembler.run left).run right :=
  List.foldl_append

theorem observe_append (reassembler : Reassembler) (left right : List Input) :
    reassembler.observe (left ++ right) =
      reassembler.observe left ++ (reassembler.run left).observe right := by
  induction left generalizing reassembler with
  | nil => rfl
  | cons input rest ih => simp only [List.cons_append, observe, ih, run, List.foldl_cons]

theorem observe_push {reassembler next : Reassembler} {channel : Channel} {frame : Bytes}
    {outcome : Outcome} (pushed : reassembler.push channel frame = (next, outcome))
    (rest : List Input) :
    reassembler.observe (.push channel frame :: rest) =
        (some outcome, next.status) :: next.observe rest ∧
      reassembler.run (.push channel frame :: rest) = next.run rest := by
  constructor
  · simp only [observe, outcome?, after, pushed]
  · simp only [run, List.foldl_cons, after, pushed]

/-- What is seen at a position is decided by the inputs up to it. -/
theorem observe_getElem? (reassembler : Reassembler) (inputs : List Input) (position : Nat) :
    (reassembler.observe inputs)[position]? = inputs[position]?.map fun input =>
      ((reassembler.run (inputs.take position)).outcome? input,
        (reassembler.run (inputs.take (position + 1))).status) := by
  induction inputs generalizing reassembler position with
  | nil => rfl
  | cons input rest ih =>
      cases position with
      | zero => rfl
      | succ position => exact ih (reassembler.after input) position

theorem run_take_succ {inputs : List Input} {position : Nat} {input : Input}
    (reassembler : Reassembler) (found : inputs[position]? = some input) :
    reassembler.run (inputs.take (position + 1)) =
      (reassembler.run (inputs.take position)).after input := by
  rw [List.take_add_one, found, run_append]
  rfl

/-! ### What one notification does, by the header of its frame -/

variable {reassembler : Reassembler} {channel : Channel} {frame part : Bytes} {declared : Nat}
  {assembly : Assembly}

theorem push_malformed (reassembler : Reassembler) (channel : Channel) {cause : FrameError}
    (read : Header.read frame = .error cause) :
    reassembler.push channel frame = (.broken, .error (.malformed cause)) := by
  simp only [push, read]

theorem push_continuation (reassembler : Reassembler) (channel : Channel) {sequence : Nat}
    (read : Header.read frame = .ok (.continuation sequence)) :
    reassembler.push channel frame = reassembler.extend (frame.drop 1) := by
  simp only [push, read]

/-- Whatever was gathered before, a start frame begins anew. -/
theorem push_start (reassembler : Reassembler) (channel : Channel) {lengthClass : LengthClass}
    {feature action : Option UInt8}
    (read : Header.read frame = .ok (.start lengthClass declared feature action)) :
    reassembler.push channel frame =
      start channel declared (frame.drop lengthClass.headerLength) := by
  simp only [push, read]

/-! ### What a part of a body does, by its length -/

theorem start_partial (short : part.length < declared) :
    start channel declared part =
      (.gathering ⟨channel, part.reverse, declared - part.length, 1⟩, .ok none) := by
  have positive : declared ≠ 0 := by omega
  have fits : ¬ declared < part.length := by omega
  have missing : declared - part.length ≠ 0 := by omega
  simp only [start, settle, if_neg positive, if_neg fits, if_neg missing]

theorem start_whole (positive : 0 < declared) (whole : part.length = declared) :
    start channel declared part = (.idle, .ok (some ⟨channel, part, 1⟩)) := by
  have nonzero : declared ≠ 0 := by omega
  have fits : ¬ declared < part.length := by omega
  have complete : declared - part.length = 0 := by omega
  simp only [start, settle, if_neg nonzero, if_neg fits, if_pos complete, List.reverse_reverse]

theorem start_over (positive : 0 < declared) (long : declared < part.length) :
    start channel declared part = (.broken, .error (.overflow declared 0 part.length)) := by
  have nonzero : declared ≠ 0 := by omega
  simp only [start, if_neg nonzero, if_pos long]

theorem extend_partial (short : part.length < assembly.missing) :
    (gathering assembly).extend part =
      (.gathering { assembly with
          received := part.reverse ++ assembly.received
          missing := assembly.missing - part.length
          frames := assembly.frames + 1 }, .ok none) := by
  have fits : ¬ assembly.missing < part.length := by omega
  have missing : assembly.missing - part.length ≠ 0 := by omega
  simp only [extend, settle, if_neg fits, if_neg missing]

theorem extend_whole (whole : part.length = assembly.missing) :
    (gathering assembly).extend part =
      (.idle, .ok (some
        ⟨assembly.channel, assembly.received.reverse ++ part, assembly.frames + 1⟩)) := by
  have fits : ¬ assembly.missing < part.length := by omega
  have complete : assembly.missing - part.length = 0 := by omega
  simp only [extend, settle, if_neg fits, if_pos complete, List.reverse_append,
    List.reverse_reverse]

theorem extend_over (long : assembly.missing < part.length) :
    (gathering assembly).extend part =
      (.broken, .error (.overflow assembly.declared assembly.received.length part.length)) := by
  simp only [extend, if_pos long]

theorem extend_stray (stray : ∀ assembly, reassembler ≠ .gathering assembly) :
    reassembler.extend part = (reassembler, .ok none) := by
  cases reassembler with
  | idle => rfl
  | broken => rfl
  | gathering assembly => exact absurd rfl (stray assembly)

end CameraBridge.Reassembler
