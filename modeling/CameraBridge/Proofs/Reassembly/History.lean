import CameraBridge.Proofs.Reassembly.Observation

namespace CameraBridge.Reassembler

/-! The outcome of a notification told from the inputs alone, without a reassembler: it depends on
the frames since the last one that was no continuation, and on nothing before. Positions count from
zero; a stretch of them is given by its first one and the first one past it. -/

variable {inputs : List Input} {position first past declared : Nat} {channel : Channel}

/-- The bytes after the header at a position; none where no frame came. -/
def partAt (inputs : List Input) (position : Nat) : Bytes :=
  match inputs[position]? with
  | some (.push _ frame) =>
      match Header.read frame with
      | .ok header => frame.drop header.length
      | .error _ => []
  | _ => []

def gathered (inputs : List Input) (first past : Nat) : Bytes :=
  (List.range' first (past - first)).flatMap (partAt inputs)

def ContinuesAt (inputs : List Input) (position : Nat) : Prop :=
  ∃ channel frame sequence, inputs[position]? = some (.push channel frame) ∧
    Header.read frame = .ok (.continuation sequence)

/-- A stretch begins with a start frame of a positive length and goes on in continuations alone. -/
structure Opened (inputs : List Input) (first past : Nat) (channel : Channel) (declared : Nat) :
    Prop where
  before : first < past
  opens : ∃ frame lengthClass feature action, inputs[first]? = some (.push channel frame) ∧
    Header.read frame = .ok (.start lengthClass declared feature action)
  positive : 1 ≤ declared
  continued : ∀ position, first < position → position < past → ContinuesAt inputs position

/-- Nowhere in a stretch have all declared bytes come. -/
def Unfilled (inputs : List Input) (first past declared : Nat) : Prop :=
  ∀ cut, first < cut → cut ≤ past → (gathered inputs first cut).length < declared

/-- What a reassembler holds of a stretch. -/
def held (inputs : List Input) (first past : Nat) (channel : Channel) (declared : Nat) : Assembly :=
  ⟨channel, (gathered inputs first past).reverse, declared - (gathered inputs first past).length,
    past - first⟩

/-! ### Stretches -/

theorem gathered_succ (ordered : first ≤ position) :
    gathered inputs first (position + 1) =
      gathered inputs first position ++ partAt inputs position := by
  have count : position + 1 - first = position - first + 1 := by omega
  have last : first + (position - first) = position := by omega
  rw [gathered, count, List.range'_1_concat, List.flatMap_append, last, gathered]
  simp only [List.flatMap_cons, List.flatMap_nil, List.append_nil]

theorem gathered_self (inputs : List Input) (first : Nat) : gathered inputs first first = [] := by
  simp [gathered]

theorem gathered_one (inputs : List Input) (first : Nat) :
    gathered inputs first (first + 1) = partAt inputs first := by
  rw [gathered_succ (Nat.le_refl first), gathered_self, List.nil_append]

theorem partAt_push {frame : Bytes} {header : Header}
    (found : inputs[position]? = some (.push channel frame))
    (read : Header.read frame = .ok header) :
    partAt inputs position = frame.drop header.length := by
  simp only [partAt, found, read]

theorem Opened.shorten (opened : Opened inputs first (past + 1) channel declared)
    (before : first < past) : Opened inputs first past channel declared :=
  ⟨before, opened.opens, opened.positive,
    fun position after inside => opened.continued position after (by omega)⟩

theorem Opened.lengthen (opened : Opened inputs first past channel declared)
    (continues : ContinuesAt inputs past) : Opened inputs first (past + 1) channel declared := by
  refine ⟨Nat.lt_succ_of_lt opened.before, opened.opens, opened.positive, ?_⟩
  intro position after inside
  rcases Nat.lt_succ_iff_lt_or_eq.mp inside with inside | rfl
  · exact opened.continued position after inside
  · exact continues

theorem Unfilled.shorten (unfilled : Unfilled inputs first (past + 1) declared) :
    Unfilled inputs first past declared :=
  fun cut after inside => unfilled cut after (by omega)

theorem Unfilled.lengthen (unfilled : Unfilled inputs first past declared)
    (short : (gathered inputs first (past + 1)).length < declared) :
    Unfilled inputs first (past + 1) declared := by
  intro cut after inside
  rcases Nat.le_succ_iff.mp inside with inside | rfl
  · exact unfilled cut after inside
  · exact short

/-! ### From stretches to reassemblers -/

/-- What a notification leads to at the end of a stretch that was never filled before it. -/
structure Ending (inputs : List Input) (first position : Nat) (channel : Channel) (declared : Nat)
    (pushed : Reassembler × Outcome) : Prop where
  short : (gathered inputs first (position + 1)).length < declared →
    pushed = (.gathering (held inputs first (position + 1) channel declared), .ok none)
  whole : (gathered inputs first (position + 1)).length = declared →
    pushed = (.idle, .ok (some
      ⟨channel, gathered inputs first (position + 1), position - first + 1⟩))
  long : declared < (gathered inputs first (position + 1)).length →
    pushed = (.broken, .error (.overflow declared (gathered inputs first position).length
      (partAt inputs position).length))

theorem ending_of_start {target : Channel} {frame : Bytes} (reassembler : Reassembler)
    (opened : Opened inputs position (position + 1) channel declared)
    (found : inputs[position]? = some (.push target frame)) :
    Ending inputs position position channel declared (reassembler.push target frame) := by
  obtain ⟨same, lengthClass, feature, action, opens, read⟩ := opened.opens
  rw [found, Option.some.injEq, Input.push.injEq] at opens
  obtain ⟨rfl, rfl⟩ := opens
  have part := partAt_push found read
  rw [Header.length] at part
  have positive := opened.positive
  rw [push_start _ _ read, ← part]
  constructor <;> rw [gathered_one]
  · intro short
    rw [start_partial short, held, gathered_one, Nat.add_sub_cancel_left]
  · intro whole
    rw [start_whole positive whole, Nat.sub_self]
  · intro long
    rw [start_over positive long, gathered_self, List.length_nil]

theorem ending_of_continuation {target : Channel} {frame : Bytes} {sequence : Nat}
    (before : first < position) (short : (gathered inputs first position).length < declared)
    (found : inputs[position]? = some (.push target frame))
    (read : Header.read frame = .ok (.continuation sequence)) :
    Ending inputs first position channel declared
      ((gathering (held inputs first position channel declared)).push target frame) := by
  have part := partAt_push found read
  rw [Header.length] at part
  have total : gathered inputs first (position + 1) =
      gathered inputs first position ++ partAt inputs position :=
    gathered_succ (Nat.le_of_lt before)
  have size : (gathered inputs first (position + 1)).length =
      (gathered inputs first position).length + (partAt inputs position).length := by
    rw [total, List.length_append]
  have frames : position + 1 - first = position - first + 1 := by omega
  rw [push_continuation _ _ read, ← part]
  constructor
  · intro short
    rw [extend_partial (by simp only [held]; omega)]
    simp only [held, total, List.reverse_append, List.length_append, frames, Nat.sub_sub]
  · intro whole
    rw [extend_whole (by simp only [held]; omega)]
    simp only [held, total, List.reverse_reverse]
  · intro long
    rw [extend_over (by simp only [held]; omega)]
    have all : (gathered inputs first position).length +
        (declared - (gathered inputs first position).length) = declared := by omega
    simp only [held, Assembly.declared, List.length_reverse, all]

def reached (inputs : List Input) (position : Nat) : Reassembler :=
  run .idle (inputs.take position)

theorem reached_succ {target : Channel} {frame : Bytes}
    (found : inputs[position]? = some (.push target frame)) :
    reached inputs (position + 1) = ((reached inputs position).push target frame).1 :=
  run_take_succ .idle found

/-- A stretch that was never filled is held. -/
theorem reached_of_opened (opened : Opened inputs first past channel declared)
    (unfilled : Unfilled inputs first past declared) :
    reached inputs past = .gathering (held inputs first past channel declared) := by
  induction past with
  | zero => exact absurd opened.before (Nat.not_lt_zero _)
  | succ past ih =>
      have short := unfilled (past + 1) opened.before (Nat.le_refl _)
      rcases Nat.lt_succ_iff_lt_or_eq.mp opened.before with before | rfl
      · obtain ⟨target, frame, sequence, found, read⟩ :=
          opened.continued past before (Nat.lt_succ_self past)
        have holding := ih (opened.shorten before) unfilled.shorten
        have ending : Ending inputs first past channel declared _ :=
          ending_of_continuation before (unfilled past before (Nat.le_succ past)) found read
        rw [reached_succ found, holding, ending.short short]
      · obtain ⟨frame, lengthClass, feature, action, found, read⟩ := opened.opens
        rw [reached_succ found, (ending_of_start _ opened found).short short]

theorem ending_of_opened {target : Channel} {frame : Bytes}
    (opened : Opened inputs first (position + 1) channel declared)
    (unfilled : Unfilled inputs first position declared)
    (found : inputs[position]? = some (.push target frame)) :
    Ending inputs first position channel declared ((reached inputs position).push target frame) := by
  rcases Nat.lt_succ_iff_lt_or_eq.mp opened.before with before | rfl
  · obtain ⟨_, _, sequence, same, read⟩ :=
      opened.continued position before (Nat.lt_succ_self position)
    rw [found, Option.some.injEq, Input.push.injEq] at same
    obtain ⟨rfl, rfl⟩ := same
    rw [reached_of_opened (opened.shorten before) unfilled]
    exact ending_of_continuation before (unfilled position before (Nat.le_refl _)) found read
  · exact ending_of_start _ opened found

/-! ### From reassemblers to stretches -/

/-- A body that the notification at a position completes: all its frames came since its start
frame, with nothing else between, and none of them but the last filled it. -/
def Completes (inputs : List Input) (position : Nat) (assembled : Assembled) : Prop :=
  ∃ first channel declared, Opened inputs first (position + 1) channel declared ∧
    Unfilled inputs first position declared ∧
    (gathered inputs first (position + 1)).length = declared ∧
    assembled = ⟨channel, gathered inputs first (position + 1), position - first + 1⟩

def Overflows (inputs : List Input) (position total saved incoming : Nat) : Prop :=
  ∃ first channel, Opened inputs first (position + 1) channel total ∧
    Unfilled inputs first position total ∧
    total < (gathered inputs first (position + 1)).length ∧
    saved = (gathered inputs first position).length ∧ incoming = (partAt inputs position).length

def MalformedAt (inputs : List Input) (position : Nat) (cause : FrameError) : Prop :=
  ∃ channel frame, inputs[position]? = some (.push channel frame) ∧
    Header.read frame = .error cause

/-- After a position some of a body has come and some is missing. -/
def Accumulates (inputs : List Input) (position : Nat) : Prop :=
  ∃ first channel declared, Opened inputs first (position + 1) channel declared ∧
    Unfilled inputs first (position + 1) declared

/-- All that a notification can lead to, each with its reason in the inputs. -/
inductive Verdict (inputs : List Input) (position : Nat) : Reassembler → Outcome → Prop
  | malformed {cause} (reason : MalformedAt inputs position cause) :
      Verdict inputs position .broken (.error (.malformed cause))
  | overflows {total saved incoming} (reason : Overflows inputs position total saved incoming) :
      Verdict inputs position .broken (.error (.overflow total saved incoming))
  | completes {assembled} (reason : Completes inputs position assembled) :
      Verdict inputs position .idle (.ok (some assembled))
  | accumulates {assembly} (reason : Accumulates inputs position) :
      Verdict inputs position (.gathering assembly) (.ok none)
  | empty : Verdict inputs position .idle (.ok none)
  | stray {reassembler} (kept : reached inputs position = reassembler)
      (nothing : ∀ assembly, reassembler ≠ .gathering assembly)
      (continues : ContinuesAt inputs position) :
      Verdict inputs position reassembler (.ok none)

theorem Ending.verdict {pushed : Reassembler × Outcome}
    (ending : Ending inputs first position channel declared pushed)
    (opened : Opened inputs first (position + 1) channel declared)
    (unfilled : Unfilled inputs first position declared) :
    Verdict inputs position pushed.1 pushed.2 := by
  rcases Nat.lt_trichotomy (gathered inputs first (position + 1)).length declared with
    short | whole | long
  · rw [ending.short short]
    exact .accumulates ⟨first, channel, declared, opened, unfilled.lengthen short⟩
  · rw [ending.whole whole]
    exact .completes ⟨first, channel, declared, opened, unfilled, whole, rfl⟩
  · rw [ending.long long]
    exact .overflows ⟨first, channel, opened, unfilled, long, rfl, rfl⟩

/-- What is gathered is what came in a stretch that was never filled. -/
def Explained (inputs : List Input) (position : Nat) : Prop :=
  ∀ assembly, reached inputs position = .gathering assembly →
    ∃ first channel declared, Opened inputs first position channel declared ∧
      Unfilled inputs first position declared

theorem verdict_of_explained {target : Channel} {frame : Bytes}
    (explained : Explained inputs position)
    (found : inputs[position]? = some (.push target frame)) :
    Verdict inputs position ((reached inputs position).push target frame).1
      ((reached inputs position).push target frame).2 := by
  cases read : Header.read frame with
  | error cause =>
      rw [push_malformed _ _ read]
      exact .malformed ⟨target, frame, found, read⟩
  | ok header =>
      cases header with
      | start lengthClass declared feature action =>
          by_cases zero : declared = 0
          · rw [push_start _ _ read, start, if_pos zero]
            exact .empty
          · have opened : Opened inputs position (position + 1) target declared :=
              ⟨Nat.lt_succ_self _, ⟨frame, lengthClass, feature, action, found, read⟩, by omega,
                fun other after inside => by omega⟩
            exact (ending_of_start _ opened found).verdict opened
              (fun cut after inside => by omega)
      | continuation sequence =>
          have continues : ContinuesAt inputs position := ⟨target, frame, sequence, found, read⟩
          by_cases gathers : ∃ assembly, reached inputs position = .gathering assembly
          · obtain ⟨assembly, gathers⟩ := gathers
            obtain ⟨first, channel, declared, opened, unfilled⟩ := explained assembly gathers
            have longer := opened.lengthen continues
            exact (ending_of_opened longer unfilled found).verdict longer unfilled
          · have nothing := fun assembly same => gathers ⟨assembly, same⟩
            rw [push_continuation _ _ read, extend_stray nothing]
            exact .stray rfl nothing continues

theorem explained_run (inputs : List Input) {position : Nat} (within : position ≤ inputs.length) :
    Explained inputs position := by
  induction position with
  | zero => exact fun _ => nofun
  | succ position ih =>
      intro assembly gathers
      cases found : inputs[position]? with
      | none =>
          have beyond := List.getElem?_eq_none_iff.mp found
          omega
      | some input =>
          cases input with
          | reset =>
              rw [reached, run_take_succ .idle found] at gathers
              exact nomatch gathers
          | push target frame =>
              have verdict := verdict_of_explained (ih (by omega)) found
              rw [← reached_succ found, gathers] at verdict
              generalize ((reached inputs position).push target frame).2 = outcome at verdict
              cases verdict with
              | accumulates reason => exact reason
              | stray kept nothing continues => exact absurd rfl (nothing assembly)

theorem verdict_push {target : Channel} {frame : Bytes}
    (found : inputs[position]? = some (.push target frame)) :
    Verdict inputs position ((reached inputs position).push target frame).1
      ((reached inputs position).push target frame).2 :=
  verdict_of_explained
    (explained_run inputs (Nat.le_of_lt (List.getElem?_eq_some_iff.mp found).1)) found

/-! ### Outcomes -/

/-- The outcome at a position of a history that began with an idle reassembler. -/
def outcomeAt (inputs : List Input) (position : Nat) : Option Outcome :=
  (observe .idle inputs)[position]?.bind Prod.fst

theorem outcomeAt_push {target : Channel} {frame : Bytes}
    (found : inputs[position]? = some (.push target frame)) :
    outcomeAt inputs position = some ((reached inputs position).push target frame).2 := by
  rw [outcomeAt, observe_getElem?, found]
  rfl

theorem push_of_outcomeAt {outcome : Outcome} (seen : outcomeAt inputs position = some outcome) :
    ∃ target frame, inputs[position]? = some (.push target frame) ∧
      ((reached inputs position).push target frame).2 = outcome := by
  rw [outcomeAt, observe_getElem?] at seen
  cases found : inputs[position]? with
  | none =>
      rw [found] at seen
      exact nomatch seen
  | some input =>
      rw [found] at seen
      cases input with
      | reset => exact nomatch seen
      | push target frame => exact ⟨target, frame, rfl, Option.some.inj seen⟩

theorem verdict_of_outcomeAt {outcome : Outcome}
    (seen : outcomeAt inputs position = some outcome) :
    ∃ next, Verdict inputs position next outcome := by
  obtain ⟨target, frame, found, rfl⟩ := push_of_outcomeAt seen
  exact ⟨_, verdict_push found⟩

theorem Opened.last_push (opened : Opened inputs first (position + 1) channel declared) :
    ∃ target frame, inputs[position]? = some (.push target frame) := by
  rcases Nat.lt_succ_iff_lt_or_eq.mp opened.before with before | rfl
  · obtain ⟨target, frame, _, found, _⟩ :=
      opened.continued position before (Nat.lt_succ_self position)
    exact ⟨target, frame, found⟩
  · obtain ⟨frame, _, _, _, found, _⟩ := opened.opens
    exact ⟨channel, frame, found⟩

theorem outcomeAt_completes_iff {assembled : Assembled} :
    outcomeAt inputs position = some (.ok (some assembled)) ↔
      Completes inputs position assembled := by
  constructor
  · intro seen
    obtain ⟨next, verdict⟩ := verdict_of_outcomeAt seen
    cases verdict with
    | completes reason => exact reason
  · rintro ⟨first, channel, declared, opened, unfilled, whole, rfl⟩
    obtain ⟨target, frame, found⟩ := opened.last_push
    rw [outcomeAt_push found, (ending_of_opened opened unfilled found).whole whole]

theorem outcomeAt_overflows_iff {total saved incoming : Nat} :
    outcomeAt inputs position = some (.error (.overflow total saved incoming)) ↔
      Overflows inputs position total saved incoming := by
  constructor
  · intro seen
    obtain ⟨next, verdict⟩ := verdict_of_outcomeAt seen
    cases verdict with
    | overflows reason => exact reason
  · rintro ⟨first, channel, opened, unfilled, long, rfl, rfl⟩
    obtain ⟨target, frame, found⟩ := opened.last_push
    rw [outcomeAt_push found, (ending_of_opened opened unfilled found).long long]

theorem outcomeAt_malformed_iff {cause : FrameError} :
    outcomeAt inputs position = some (.error (.malformed cause)) ↔
      MalformedAt inputs position cause := by
  constructor
  · intro seen
    obtain ⟨next, verdict⟩ := verdict_of_outcomeAt seen
    cases verdict with
    | malformed reason => exact reason
  · rintro ⟨target, frame, found, read⟩
    rw [outcomeAt_push found, push_malformed _ _ read]

theorem outcomeAt_nothing_iff :
    outcomeAt inputs position = some (.ok none) ↔
      (∃ channel frame, inputs[position]? = some (.push channel frame)) ∧
      (∀ assembled, ¬ Completes inputs position assembled) ∧
      (∀ total saved incoming, ¬ Overflows inputs position total saved incoming) ∧
      ∀ cause, ¬ MalformedAt inputs position cause := by
  constructor
  · intro seen
    obtain ⟨target, frame, found, _⟩ := push_of_outcomeAt seen
    refine ⟨⟨target, frame, found⟩, ?_, ?_, ?_⟩
    · intro assembled completes
      rw [outcomeAt_completes_iff.mpr completes] at seen
      exact nomatch seen
    · intro total saved incoming overflows
      rw [outcomeAt_overflows_iff.mpr overflows] at seen
      exact nomatch seen
    · intro cause malformed
      rw [outcomeAt_malformed_iff.mpr malformed] at seen
      exact nomatch seen
  · rintro ⟨⟨target, frame, found⟩, notWhole, notLong, notMalformed⟩
    have seen := outcomeAt_push found
    obtain ⟨next, verdict⟩ := verdict_of_outcomeAt seen
    rw [seen]
    generalize ((reached inputs position).push target frame).2 = outcome at verdict
    cases verdict with
    | malformed reason => exact absurd reason (notMalformed _)
    | overflows reason => exact absurd reason (notLong _ _ _)
    | completes reason => exact absurd reason (notWhole _)
    | accumulates reason => rfl
    | empty => rfl
    | stray kept nothing continues => rfl

/-! ### Statuses -/

def statusAt (inputs : List Input) (position : Nat) : Option Status :=
  (observe .idle inputs)[position]?.map Prod.snd

theorem statusAt_eq {input : Input} (found : inputs[position]? = some input) :
    statusAt inputs position = some (reached inputs (position + 1)).status := by
  rw [statusAt, observe_getElem?, found]
  rfl

theorem found_of_statusAt {status : Status} (seen : statusAt inputs position = some status) :
    ∃ input, inputs[position]? = some input ∧ (reached inputs (position + 1)).status = status := by
  rw [statusAt, observe_getElem?] at seen
  cases found : inputs[position]? with
  | none =>
      rw [found] at seen
      exact nomatch seen
  | some input =>
      rw [found] at seen
      exact ⟨input, rfl, Option.some.inj seen⟩

theorem statusAt_accumulating_iff :
    statusAt inputs position = some .accumulating ↔ Accumulates inputs position := by
  constructor
  · intro seen
    obtain ⟨input, found, status⟩ := found_of_statusAt seen
    cases reassembler : reached inputs (position + 1) with
    | gathering assembly =>
        exact explained_run inputs (List.getElem?_eq_some_iff.mp found).1 assembly reassembler
    | idle => rw [reassembler] at status; exact nomatch status
    | broken => rw [reassembler] at status; exact nomatch status
  · rintro ⟨first, channel, declared, opened, unfilled⟩
    obtain ⟨target, frame, found⟩ := opened.last_push
    rw [statusAt_eq found, reached_of_opened opened unfilled]
    rfl

/-- A failure has been followed by continuations alone. -/
def FailedSince (inputs : List Input) (position : Nat) : Prop :=
  ∃ failed ≤ position, (∃ cause, outcomeAt inputs failed = some (.error cause)) ∧
    ∀ later, failed < later → later ≤ position → ContinuesAt inputs later

/-- A reassembler is broken by a failure or stays so over a stray continuation. -/
theorem failure_of_broken (within : position < inputs.length)
    (broken : reached inputs (position + 1) = .broken) :
    (∃ cause, outcomeAt inputs position = some (.error cause)) ∨
      reached inputs position = .broken ∧ ContinuesAt inputs position := by
  have found := List.getElem?_eq_getElem within
  cases input : inputs[position] with
  | reset =>
      rw [input] at found
      rw [reached, run_take_succ .idle found] at broken
      exact nomatch broken
  | push target frame =>
      rw [input] at found
      have verdict := verdict_push found
      rw [outcomeAt_push found]
      rw [← reached_succ found, broken] at verdict
      generalize ((reached inputs position).push target frame).2 = outcome at verdict
      cases verdict with
      | malformed reason => exact .inl ⟨_, rfl⟩
      | overflows reason => exact .inl ⟨_, rfl⟩
      | stray kept nothing continues => exact .inr ⟨kept, continues⟩

theorem failedSince_of_broken (within : position < inputs.length)
    (broken : reached inputs (position + 1) = .broken) : FailedSince inputs position := by
  -- Back from the position, over the stray continuations that leave everything as it is.
  induction position with
  | zero =>
      rcases failure_of_broken within broken with failed | ⟨earlier, _⟩
      · exact ⟨0, Nat.le_refl 0, failed, fun later after inside => by omega⟩
      · exact nomatch earlier
  | succ position ih =>
      rcases failure_of_broken within broken with failed | ⟨earlier, continues⟩
      · exact ⟨position + 1, Nat.le_refl _, failed, fun later after inside => by omega⟩
      · obtain ⟨failed, before, failure, continued⟩ := ih (by omega) earlier
        refine ⟨failed, Nat.le_succ_of_le before, failure, ?_⟩
        intro later after inside
        rcases Nat.le_succ_iff.mp inside with inside | rfl
        · exact continued later after inside
        · exact continues

theorem broken_of_failedSince (failedSince : FailedSince inputs position) :
    reached inputs (position + 1) = .broken := by
  obtain ⟨failed, before, ⟨cause, failure⟩, continued⟩ := failedSince
  induction before with
  | refl =>
      obtain ⟨target, frame, found, outcome⟩ := push_of_outcomeAt failure
      have verdict := verdict_push found
      rw [outcome] at verdict
      rw [reached_succ found]
      generalize ((reached inputs failed).push target frame).1 = next at verdict
      cases verdict with
      | malformed reason => rfl
      | overflows reason => rfl
  | @step position before ih =>
      have broken := ih (fun later after inside => continued later after (by omega))
      obtain ⟨target, frame, sequence, found, read⟩ :=
        continued (position + 1) (Nat.lt_succ_of_le before) (Nat.le_refl _)
      rw [reached_succ found, broken, push_continuation _ _ read]
      rfl

theorem FailedSince.last_push (failedSince : FailedSince inputs position) :
    ∃ target frame, inputs[position]? = some (.push target frame) := by
  obtain ⟨failed, before, ⟨cause, failure⟩, continued⟩ := failedSince
  rcases Nat.lt_or_eq_of_le before with before | rfl
  · obtain ⟨target, frame, _, found, _⟩ := continued position before (Nat.le_refl _)
    exact ⟨target, frame, found⟩
  · obtain ⟨target, frame, found, _⟩ := push_of_outcomeAt failure
    exact ⟨target, frame, found⟩

theorem statusAt_error_iff :
    statusAt inputs position = some .error ↔ FailedSince inputs position := by
  constructor
  · intro seen
    obtain ⟨input, found, status⟩ := found_of_statusAt seen
    apply failedSince_of_broken (List.getElem?_eq_some_iff.mp found).1
    cases reassembler : reached inputs (position + 1) with
    | broken => rfl
    | idle => rw [reassembler] at status; exact nomatch status
    | gathering assembly => rw [reassembler] at status; exact nomatch status
  · intro failedSince
    obtain ⟨target, frame, found⟩ := failedSince.last_push
    rw [statusAt_eq found, broken_of_failedSince failedSince]
    rfl

theorem statusAt_idle_iff :
    statusAt inputs position = some .idle ↔
      position < inputs.length ∧ ¬ Accumulates inputs position ∧ ¬ FailedSince inputs position := by
  rw [← statusAt_accumulating_iff, ← statusAt_error_iff]
  constructor
  · intro seen
    obtain ⟨input, found, _⟩ := found_of_statusAt seen
    refine ⟨(List.getElem?_eq_some_iff.mp found).1, ?_, ?_⟩
    · intro other
      cases seen.symm.trans other
    · intro other
      cases seen.symm.trans other
  · rintro ⟨within, notAccumulating, notFailed⟩
    have seen := statusAt_eq (List.getElem?_eq_getElem within)
    cases status : (reached inputs (position + 1)).status with
    | idle => rw [seen, status]
    | accumulating => exact absurd (seen.trans (congrArg some status)) notAccumulating
    | error => exact absurd (seen.trans (congrArg some status)) notFailed

/-- The exact meaning of every notification of every history, and of the status after it: a body is
handed out if and only if the frames since its start frame, with nothing else between, bring all of
it and no more. No failure is felt any longer than until the next start frame or reset. -/
theorem outcome_of_history (inputs : List Input) (position : Nat) :
    (∀ assembled, outcomeAt inputs position = some (.ok (some assembled)) ↔
      Completes inputs position assembled) ∧
    (∀ total saved incoming,
      outcomeAt inputs position = some (.error (.overflow total saved incoming)) ↔
        Overflows inputs position total saved incoming) ∧
    (∀ cause, outcomeAt inputs position = some (.error (.malformed cause)) ↔
      MalformedAt inputs position cause) ∧
    (outcomeAt inputs position = some (.ok none) ↔
      (∃ channel frame, inputs[position]? = some (.push channel frame)) ∧
      (∀ assembled, ¬ Completes inputs position assembled) ∧
      (∀ total saved incoming, ¬ Overflows inputs position total saved incoming) ∧
      ∀ cause, ¬ MalformedAt inputs position cause) ∧
    (statusAt inputs position = some .accumulating ↔ Accumulates inputs position) ∧
    (statusAt inputs position = some .error ↔ FailedSince inputs position) ∧
    (statusAt inputs position = some .idle ↔
      position < inputs.length ∧ ¬ Accumulates inputs position ∧
        ¬ FailedSince inputs position) :=
  ⟨fun _ => outcomeAt_completes_iff, fun _ _ _ => outcomeAt_overflows_iff,
    fun _ => outcomeAt_malformed_iff, outcomeAt_nothing_iff, statusAt_accumulating_iff,
    statusAt_error_iff, statusAt_idle_iff⟩

end CameraBridge.Reassembler
