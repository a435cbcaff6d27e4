namespace CameraBridge

/-! Runs of a system on which something acts from outside: a list of acts, and of each act at most
one sight for whoever watches. -/

variable {State Act Sight : Type}

/-- What is seen of some acts, and where they lead; nothing if one of them is not possible. -/
def trace (act : Act → State → Option State) (look : Act → State → State → Option Sight)
    (state : State) : List Act → Option (List Sight × State)
  | [] => some ([], state)
  | next :: rest =>
      match act next state with
      | none => none
      | some after =>
          match trace act look after rest with
          | none => none
          | some (sights, last) => some ((look next state after).toList ++ sights, last)

variable {act : Act → State → Option State} {look : Act → State → State → Option Sight}
  {state middle last : State} {acts : List Act} {sights : List Sight}

theorem trace_cons_invert {next : Act} {rest : List Act}
    (traced : trace act look state (next :: rest) = some (sights, last)) :
    ∃ after later, act next state = some after ∧ trace act look after rest = some (later, last) ∧
      sights = (look next state after).toList ++ later := by
  cases acted : act next state with
  | none => simp [trace, acted] at traced
  | some after =>
      cases remaining : trace act look after rest with
      | none => simp [trace, acted, remaining] at traced
      | some pair =>
          obtain ⟨later, final⟩ := pair
          simp only [trace, acted, remaining, Option.some.injEq, Prod.mk.injEq] at traced
          obtain ⟨rfl, rfl⟩ := traced
          exact ⟨after, later, rfl, remaining, rfl⟩

theorem trace_cons {next : Act} {rest : List Act} {after : State} {later : List Sight}
    (acted : act next state = some after)
    (remaining : trace act look after rest = some (later, last)) :
    trace act look state (next :: rest) = some ((look next state after).toList ++ later, last) := by
  simp only [trace, acted, remaining]

theorem trace_single_invert {next : Act} {sight : Sight}
    (traced : trace act look state [next] = some ([sight], last)) :
    act next state = some last ∧ look next state last = some sight := by
  obtain ⟨after, later, acted, remaining, shown⟩ := trace_cons_invert traced
  cases remaining
  rw [List.append_nil] at shown
  exact ⟨acted, Option.toList_eq_singleton_iff.mp shown.symm⟩

theorem trace_append {earlier later : List Act} {before after : List Sight}
    (first : trace act look state earlier = some (before, middle))
    (second : trace act look middle later = some (after, last)) :
    trace act look state (earlier ++ later) = some (before ++ after, last) := by
  induction earlier generalizing state before with
  | nil =>
      cases first
      exact second
  | cons next rest ih =>
      obtain ⟨between, others, acted, remaining, rfl⟩ := trace_cons_invert first
      simp only [List.cons_append, trace, acted, ih remaining, List.append_assoc]

theorem trace_append_invert {earlier later : List Act}
    (traced : trace act look state (earlier ++ later) = some (sights, last)) :
    ∃ before middle after, trace act look state earlier = some (before, middle) ∧
      trace act look middle later = some (after, last) ∧ sights = before ++ after := by
  induction earlier generalizing state sights with
  | nil => exact ⟨[], state, sights, rfl, traced, rfl⟩
  | cons next rest ih =>
      obtain ⟨between, others, acted, remaining, rfl⟩ := trace_cons_invert traced
      obtain ⟨before, middle, after, first, second, rfl⟩ := ih remaining
      refine ⟨_, middle, after, ?_, second, (List.append_assoc _ _ _).symm⟩
      simp only [trace, acted, first]

theorem filterMap_seen {Kind : Type} (view : Sight → Option Kind) (sights : List Sight)
    (seen : Option Sight) :
    (sights ++ seen.toList).filterMap view =
      sights.filterMap view ++ (seen.bind view).toList := by
  cases seen with
  | none => simp
  | some sight => cases shown : view sight <;> simp [shown]

/-- What every act keeps, of a state and of all that was seen on the way to it, holds wherever acts
lead. -/
theorem trace_history {holds : List Sight → State → Prop} {seen : List Sight}
    (kept : ∀ sights next before after, holds sights before → act next before = some after →
      holds (sights ++ (look next before after).toList) after)
    (first : holds seen state) (traced : trace act look state acts = some (sights, last)) :
    holds (seen ++ sights) last := by
  induction acts generalizing state seen sights with
  | nil =>
      cases traced
      rw [List.append_nil]
      exact first
  | cons next rest ih =>
      obtain ⟨after, later, acted, remaining, rfl⟩ := trace_cons_invert traced
      rw [← List.append_assoc]
      exact ih (kept seen next state after first acted) remaining

theorem trace_invariant {holds : State → Prop}
    (kept : ∀ next before after, holds before → act next before = some after → holds after)
    (first : holds state) (traced : trace act look state acts = some (sights, last)) :
    holds last :=
  @trace_history _ _ _ _ _ _ _ _ _ (fun _ => holds) [] (fun _ => kept) first traced

/-- A sight divides a run into what led to it, the act that showed it and the rest. -/
theorem trace_split {before after : List Sight} {sight : Sight}
    (traced : trace act look state acts = some (before ++ sight :: after, last)) :
    ∃ earlier next later middle between, acts = earlier ++ next :: later ∧
      trace act look state earlier = some (before, middle) ∧ act next middle = some between ∧
      look next middle between = some sight ∧
      trace act look between later = some (after, last) := by
  induction acts generalizing state before with
  | nil => simp [trace] at traced
  | cons next rest ih =>
      obtain ⟨between, later, acted, remaining, shown⟩ := trace_cons_invert traced
      have onward : ∀ rear, later = rear ++ sight :: after →
          (look next state between).toList ++ rear = before →
          ∃ earlier other later middle between, next :: rest = earlier ++ other :: later ∧
            trace act look state earlier = some (before, middle) ∧ act other middle = some between ∧
            look other middle between = some sight ∧
            trace act look between later = some (after, last) := by
        rintro rear rfl rfl
        obtain ⟨earlier, other, later, middle, beyond, rfl, reached, moved, seen, rest⟩ :=
          ih remaining
        refine ⟨next :: earlier, other, later, middle, beyond, rfl, ?_, moved, seen, rest⟩
        simp only [trace, acted, reached]
      cases seen : look next state between with
      | none =>
          rw [seen] at shown onward
          exact onward before shown.symm rfl
      | some other =>
          rw [seen] at shown onward
          cases before with
          | nil =>
              simp only [List.nil_append, Option.toList_some, List.singleton_append,
                List.cons.injEq] at shown
              obtain ⟨rfl, rfl⟩ := shown
              exact ⟨[], next, rest, state, between, rfl, rfl, acted, seen, remaining⟩
          | cons head tail =>
              simp only [List.cons_append, Option.toList_some, List.cons.injEq] at shown
              obtain ⟨rfl, rfl⟩ := shown
              exact onward tail rfl rfl

end CameraBridge
