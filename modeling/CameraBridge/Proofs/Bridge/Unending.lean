import Mathlib.Order.Lattice
import CameraBridge.Proofs.Bridge.Schedule

namespace CameraBridge.Bridge

/-! Runs without an end. What a task cannot put off for ever it does, if the clock goes on and the task
is not passed over. -/

structure Unending (first : Bridge) where
  bridge : Nat → Bridge
  next : Nat → Act
  starts : bridge 0 = first
  follows : ∀ moment, (bridge moment).act (next moment) = some (bridge (moment + 1))

namespace Unending

variable {Sight : Type} {look : Act → Bridge → Bridge → Option Sight} {first : Bridge} {task : Task}

/-- What was seen before a moment. -/
def seen (look : Act → Bridge → Bridge → Option Sight) (run : Unending first) : Nat → List Sight
  | 0 => []
  | moment + 1 =>
      run.seen look moment ++
        (look (run.next moment) (run.bridge moment) (run.bridge (moment + 1))).toList

/-- A task that could move from some moment on does move. -/
def IsFair (run : Unending first) (task : Task) : Prop :=
  ∀ start, (∀ moment, start ≤ moment → ((run.bridge moment).step task).isSome = true) →
    ∃ moment, start ≤ moment ∧ run.next moment = .move task

/-- The clock leaves every reading behind. -/
def IsTimely (run : Unending first) : Prop :=
  ∀ reading, ∃ start, ∀ moment, start ≤ moment → reading ≤ (run.bridge moment).now

variable {run : Unending first}

/-- Up to each moment it is a run like any other. -/
theorem watched (run : Unending first) (moment : Nat) :
    first.watch look ((List.range moment).map run.next) =
      some (run.seen look moment, run.bridge moment) := by
  induction moment with
  | zero => simp only [List.range_zero, List.map_nil, watch, seen, run.starts]
  | succ moment ih =>
      rw [List.range_succ, List.map_append]
      have last : (run.bridge moment).watch look [run.next moment] =
          some ((look (run.next moment) (run.bridge moment) (run.bridge (moment + 1))).toList,
            run.bridge (moment + 1)) := by
        simp only [watch, run.follows moment, List.append_nil]
      exact watch_append ih last

theorem IsTimely.past (timely : run.IsTimely) (deadlines : List Time) :
    ∃ start, ∀ moment, start ≤ moment → ∀ deadline ∈ deadlines, deadline ≤ (run.bridge moment).now := by
  induction deadlines with
  | nil => exact ⟨0, fun _ _ _ => nofun⟩
  | cons first rest ih =>
      obtain ⟨late, past⟩ := ih
      obtain ⟨start, elapsed⟩ := timely first
      refine ⟨max start late, fun moment later deadline member => ?_⟩
      rcases List.mem_cons.mp member with rfl | other
      · exact elapsed moment (Nat.le_trans (Nat.le_max_left _ _) later)
      · exact past moment (Nat.le_trans (Nat.le_max_right _ _) later) deadline other

/-- While something holds the task can move, at the latest when its time is up. So it moves while this
holds, unless something happens before. -/
theorem comes (fair : run.IsFair task) (timely : run.IsTimely) {holds happens : Nat → Prop}
    {start : Nat} {deadlines : List Time} (there : holds start)
    (kept : ∀ moment, holds moment → run.next moment ≠ .move task →
      happens (moment + 1) ∨ holds (moment + 1))
    (able : ∀ moment, holds moment → (∀ deadline ∈ deadlines, deadline ≤ (run.bridge moment).now) →
      happens moment ∨ ((run.bridge moment).step task).isSome = true) :
    ∃ moment, start ≤ moment ∧
      (happens moment ∨ holds moment ∧ run.next moment = .move task) := by
  -- If it never came to that, the task could move from some moment on, and fairness makes it move.
  by_contra never
  have quiet : ∀ moment, start ≤ moment →
      ¬ happens moment ∧ (holds moment → run.next moment ≠ .move task) := fun moment later =>
    ⟨fun happened => never ⟨moment, later, .inl happened⟩,
      fun held moved => never ⟨moment, later, .inr ⟨held, moved⟩⟩⟩
  have still : ∀ moment, start ≤ moment → holds moment := by
    intro moment later
    induction moment, later using Nat.le_induction with
    | base => exact there
    | succ moment later ih =>
        exact (kept moment ih ((quiet moment later).2 ih)).resolve_left
          (quiet (moment + 1) (Nat.le_succ_of_le later)).1
  obtain ⟨late, elapsed⟩ := timely.past deadlines
  obtain ⟨moment, later, moved⟩ := fair (max start late) fun moment later => by
    have begun : start ≤ moment := Nat.le_trans (Nat.le_max_left _ _) later
    have waited := elapsed moment (Nat.le_trans (Nat.le_max_right _ _) later)
    exact (able moment (still moment begun) waited).resolve_left (quiet moment begun).1
  have begun : start ≤ moment := Nat.le_trans (Nat.le_max_left _ _) later
  exact (quiet moment begun).2 (still moment begun) moved

/-! ### Some of them -/

/-- Nothing happens but that time passes. -/
def idle (bridge : Bridge) : Unending bridge where
  bridge moment := { bridge with now := bridge.now + moment }
  next _ := .pass 1
  starts := rfl
  follows _ := rfl

/-- One act, and then all that follows. -/
def cons {after : Bridge} (next : Act) (acted : first.act next = some after) (run : Unending after) :
    Unending first where
  bridge
    | 0 => first
    | moment + 1 => run.bridge moment
  next
    | 0 => next
    | moment + 1 => run.next moment
  starts := rfl
  follows
    | 0 => acted.trans (congrArg some run.starts.symm)
    | moment + 1 => run.follows moment

theorem seen_cons {after : Bridge} {next : Act} (acted : first.act next = some after)
    (run : Unending after) (moment : Nat) :
    (cons next acted run).seen look (moment + 1) =
      (look next first after).toList ++ run.seen look moment := by
  induction moment with
  | zero =>
      have led : (cons next acted run).bridge 1 = after := run.starts
      simp only [seen, led, List.nil_append, List.append_nil]
      rfl
  | succ moment ih =>
      rw [seen, ih, List.append_assoc]
      rfl

theorem seen_idle (unseen : ∀ before after, look (.pass 1) before after = none) (bridge : Bridge)
    (moment : Nat) : (idle bridge).seen look moment = [] := by
  induction moment with
  | zero => rfl
  | succ moment ih =>
      rw [seen, ih]
      exact congrArg Option.toList (unseen _ _)

/-- Any acts can be followed by any run from where they lead. -/
theorem continues {acts : List Act} {sights : List Sight} {last : Bridge}
    (watched : first.watch look acts = some (sights, last)) (rest : Unending last) :
    ∃ run : Unending first, (List.range acts.length).map run.next = acts ∧
      ∀ moment, run.next (acts.length + moment) = rest.next moment ∧
        run.bridge (acts.length + moment) = rest.bridge moment ∧
        run.seen look (acts.length + moment) = sights ++ rest.seen look moment := by
  induction acts generalizing first sights with
  | nil =>
      cases watched
      refine ⟨rest, rfl, fun moment => ?_⟩
      rw [List.length_nil, Nat.zero_add, List.nil_append]
      exact ⟨rfl, rfl, rfl⟩
  | cons next others ih =>
      obtain ⟨after, later, acted, remaining, rfl⟩ := watch_cons_invert watched
      obtain ⟨run, same, onward⟩ := ih remaining
      refine ⟨cons next acted run, ?_, fun moment => ?_⟩
      · rw [List.length_cons, List.range_succ_eq_map, List.map_cons, List.map_map]
        exact congrArg (next :: ·) same
      · obtain ⟨acts, bridges, seen⟩ := onward moment
        rw [List.length_cons, Nat.succ_add, seen_cons, seen, List.append_assoc]
        exact ⟨acts, bridges, rfl⟩

/-- A task that has to wait for good is not passed over. -/
theorem isFair_of_waits (start : Nat)
    (waits : ∀ moment, start ≤ moment → (run.bridge moment).step task = none) : run.IsFair task := by
  intro begun able
  have moves := able (max start begun) (Nat.le_max_right _ _)
  rw [waits _ (Nat.le_max_left _ _)] at moves
  cases moves

end Unending

end CameraBridge.Bridge
