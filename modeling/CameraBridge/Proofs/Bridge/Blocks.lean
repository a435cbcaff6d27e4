import CameraBridge.Proofs.Bridge.Queues
import CameraBridge.Proofs.Bridge.Straddle

namespace CameraBridge

/-! The writes of a run, block by block. The writer takes one command or payload at a time and writes
it from the front, and nothing else in between, until it is through with it or finds the camera gone. -/

namespace QueueSight

def queued? : QueueSight → Option Outgoing
  | .queued item => some item
  | _ => none

def taken? : QueueSight → Option Outgoing
  | .took item => some item
  | _ => none

def written? : QueueSight → Option Message
  | .wrote message => some message
  | _ => none

end QueueSight

section Flow

variable {Content : Type}

def queuedAmong (pick : Outgoing → Option Content) (sights : List QueueSight) : List Content :=
  (sights.filterMap QueueSight.queued?).filterMap pick

def takenAmong (pick : Outgoing → Option Content) (sights : List QueueSight) : List Content :=
  (sights.filterMap QueueSight.taken?).filterMap pick

def writtenAmong (sights : List QueueSight) : List Message :=
  sights.filterMap QueueSight.written?

theorem queuedAmong_append (pick : Outgoing → Option Content) (earlier later : List QueueSight) :
    queuedAmong pick (earlier ++ later) = queuedAmong pick earlier ++ queuedAmong pick later := by
  simp only [queuedAmong, List.filterMap_append]

theorem takenAmong_append (pick : Outgoing → Option Content) (earlier later : List QueueSight) :
    takenAmong pick (earlier ++ later) = takenAmong pick earlier ++ takenAmong pick later := by
  simp only [takenAmong, List.filterMap_append]

end Flow

/-- What is seen from one taking to the next. -/
structure Block where
  item : Outgoing
  span : List QueueSight

namespace Block

def sights (block : Block) : List QueueSight := .took block.item :: block.span

def written (block : Block) : List Message := writtenAmong block.span

end Block

/-- The connection was found lost, and nothing was written after that. -/
def IsCut (span : List QueueSight) : Prop :=
  ∃ before found after, span = before ++ .cut found :: after ∧ found ≠ .connected ∧
    writtenAmong after = []

theorem IsCut.cons {span : List QueueSight} (cut : IsCut span) (sight : QueueSight) :
    IsCut (sight :: span) := by
  obtain ⟨before, found, after, rfl, away, silent⟩ := cut
  exact ⟨sight :: before, found, after, rfl, away, silent⟩

namespace Bridge

variable {bridge before after last : Bridge} {sight : Option QueueSight} {acts : List Act}
  {sights : List QueueSight}

theorem WriterTurn.running (turn : WriterTurn before after sight) : before.writer ≠ .stopped := by
  intro stopped
  cases turn with
  | went running => exact running stopped
  | took item free => exact nomatch free.symm.trans stopped
  | wrote message due => simp [stopped, Writer.left] at due
  | cut found away due => exact due (congrArg Writer.left stopped)

theorem QueueMove.stopped (move : QueueMove before after sight) (stopped : before.writer = .stopped) :
    after.writer = .stopped ∧ sight.bind QueueSight.taken? = none := by
  cases move with
  | own turn => exact absurd stopped turn.running
  | fed arrival same fed => exact ⟨same.trans stopped, by cases arrival <;> rfl⟩
  | ended stopped => exact ⟨stopped, rfl⟩

/-- Once the writer has stopped, nothing more is taken. -/
theorem stopped_watch (stopped : bridge.writer = .stopped)
    (watched : bridge.watch queueSight? acts = some (sights, last)) :
    last.writer = .stopped ∧ sights.filterMap QueueSight.taken? = [] := by
  induction acts generalizing bridge sights with
  | nil =>
      cases watched
      exact ⟨stopped, rfl⟩
  | cons next rest ih =>
      obtain ⟨after, later, acted, remaining, rfl⟩ := watch_cons_invert watched
      obtain ⟨still, untaken⟩ := (act_queueMove acted).stopped stopped
      obtain ⟨final, none⟩ := ih still remaining
      refine ⟨final, ?_⟩
      rw [List.filterMap_append, none, List.append_nil]
      cases seen : queueSight? next bridge after with
      | none => rfl
      | some sight =>
          rw [seen] at untaken
          simpa using untaken

theorem WriterTurn.balance (turn : WriterTurn before after sight) :
    before.queuedCommands = takenAmong Outgoing.command? sight.toList ++ after.queuedCommands ∧
      before.queuedBatches = takenAmong Outgoing.batch? sight.toList ++ after.queuedBatches ∧
      sight.bind QueueSight.queued? = none := by
  cases turn with
  | took item free due commands batches => cases item <;> exact ⟨commands, batches, rfl⟩
  | went running same spared | wrote message due spared | cut found away due dropped spared =>
      obtain ⟨commands, batches⟩ := spared
      simp only [Option.bind_none, Option.toList_none, List.append_nil] at commands batches
      exact ⟨commands.symm, batches.symm, rfl⟩

/-- Unless the queues are closed, what leaves them is what was at their front. -/
theorem QueueMove.balance (move : QueueMove before after sight) :
    (sight = none ∧ after.writer = .stopped) ∨
      (before.queuedCommands ++ queuedAmong Outgoing.command? sight.toList =
          takenAmong Outgoing.command? sight.toList ++ after.queuedCommands ∧
        before.queuedBatches ++ queuedAmong Outgoing.batch? sight.toList =
          takenAmong Outgoing.batch? sight.toList ++ after.queuedBatches) := by
  cases move with
  | own turn =>
      obtain ⟨commands, batches, unfed⟩ := turn.balance
      have come : sight.toList.filterMap QueueSight.queued? = [] := by
        cases sight with
        | none => rfl
        | some sight => simpa using unfed
      refine .inr ⟨?_, ?_⟩
      · rw [queuedAmong, come, List.filterMap_nil, List.append_nil, ← commands]
      · rw [queuedAmong, come, List.filterMap_nil, List.append_nil, ← batches]
  | fed arrival same fed =>
      obtain ⟨commands, batches⟩ := fed
      rw [commands, batches]
      cases arrival with
      | none => exact .inr ⟨rfl, rfl⟩
      | some item => cases item <;> exact .inr ⟨rfl, rfl⟩
  | ended stopped commands batches => exact .inl ⟨rfl, stopped⟩

theorem taken_onward {Content : Type} {held kept come gone comes goes : List Content}
    (balance : held ++ come = gone ++ kept) (onward : goes <+: kept ++ comes) :
    gone ++ goes <+: held ++ (come ++ comes) := by
  rw [← List.append_assoc, balance, List.append_assoc]
  exact (List.prefix_append_right_inj gone).mpr onward

/-- Both queues are first in, first out: what is taken is the beginning of what was ever queued. -/
theorem taken_watch (watched : bridge.watch queueSight? acts = some (sights, last)) :
    takenAmong Outgoing.command? sights <+:
        bridge.queuedCommands ++ queuedAmong Outgoing.command? sights ∧
      takenAmong Outgoing.batch? sights <+:
        bridge.queuedBatches ++ queuedAmong Outgoing.batch? sights := by
  induction acts generalizing bridge sights with
  | nil =>
      cases watched
      exact ⟨List.nil_prefix, List.nil_prefix⟩
  | cons next rest ih =>
      obtain ⟨after, later, acted, remaining, rfl⟩ := watch_cons_invert watched
      obtain ⟨commands, batches⟩ := ih remaining
      simp only [takenAmong_append, queuedAmong_append]
      obtain ⟨unseen, stopped⟩ | ⟨ofCommands, ofBatches⟩ := (act_queueMove acted).balance
      · have untaken := (stopped_watch stopped remaining).2
        rw [unseen]
        simp [takenAmong, untaken]
      · exact ⟨taken_onward ofCommands commands, taken_onward ofBatches batches⟩

/-- What is seen while the writer works through the frames that are due. -/
structure Piece (last : Bridge) (final : Prop) (frames : List Message) (span : List QueueSight) :
    Prop where
  untaken : ∀ item, .took item ∉ span
  in_order : writtenAmong span <+: frames
  whole : writtenAmong span = frames ∨ IsCut span ∨
    final ∧ (writtenAmong span ++ last.writer.left = frames ∨ last.writer = .stopped)

namespace Piece

variable {final : Prop} {frames : List Message} {span : List QueueSight}

theorem nothing : Piece last final [] [] where
  untaken := by simp
  in_order := List.nil_prefix
  whole := .inl rfl

theorem after_queued (piece : Piece last final frames span) (item : Outgoing) :
    Piece last final frames (.queued item :: span) where
  untaken := by simpa using piece.untaken
  in_order := piece.in_order
  whole := by
    obtain all | cut | midway := piece.whole
    · exact .inl all
    · exact .inr (.inl (cut.cons (.queued item)))
    · exact .inr (.inr midway)

theorem after_wrote (piece : Piece last final frames span) (message : Message) :
    Piece last final (message :: frames) (.wrote message :: span) where
  untaken := by simpa using piece.untaken
  in_order := (List.prefix_cons_inj message).mpr piece.in_order
  whole := by
    obtain all | cut | ⟨atEnd, left | stopped⟩ := piece.whole
    · exact .inl (congrArg (message :: ·) all)
    · exact .inr (.inl (cut.cons (.wrote message)))
    · exact .inr (.inr ⟨atEnd, .inl (congrArg (message :: ·) left)⟩)
    · exact .inr (.inr ⟨atEnd, .inr stopped⟩)

theorem after_cut (piece : Piece last final [] span) {found : Connectivity}
    (away : found ≠ .connected) : Piece last final frames (.cut found :: span) where
  untaken := by simpa using piece.untaken
  in_order := by
    have nothing : writtenAmong span = [] := List.prefix_nil.mp piece.in_order
    exact nothing ▸ List.nil_prefix
  whole := .inr (.inl ⟨[], found, span, rfl, away, List.prefix_nil.mp piece.in_order⟩)

/-- At the end whatever is due is left. -/
theorem after_end (piece : Piece last final [] span) (atEnd : final)
    (stopped : last.writer = .stopped) : Piece last final frames span where
  untaken := piece.untaken
  in_order := by
    have nothing : writtenAmong span = [] := List.prefix_nil.mp piece.in_order
    exact nothing ▸ List.nil_prefix
  whole := .inr (.inr ⟨atEnd, .inr stopped⟩)

end Piece

/-- A run from anywhere is a piece of what was due at its start, and blocks. -/
theorem blocks_watch (watched : bridge.watch queueSight? acts = some (sights, last)) :
    ∃ early blocks, sights = early ++ blocks.flatMap Block.sights ∧
      Piece last (blocks = []) bridge.writer.left early ∧
      ∀ front block back, blocks = front ++ block :: back →
        Piece last (back = []) block.item.frames block.span := by
  induction acts generalizing bridge sights with
  | nil =>
      cases watched
      refine ⟨[], [], rfl, ?_, by simp⟩
      exact ⟨by simp, List.nil_prefix, .inr (.inr ⟨rfl, .inl rfl⟩)⟩
  | cons next rest ih =>
      obtain ⟨after, later, acted, remaining, rfl⟩ := watch_cons_invert watched
      obtain ⟨early, blocks, rfl, piece, others⟩ := ih remaining
      have move := act_queueMove acted
      generalize queueSight? next bridge after = sight at move ⊢
      cases move with
      | fed arrival same fed =>
          rw [same] at piece
          cases arrival with
          | none => exact ⟨early, blocks, rfl, piece, others⟩
          | some item => exact ⟨.queued item :: early, blocks, rfl, piece.after_queued item, others⟩
      | own turn =>
          cases turn with
          | went running same =>
              rw [same] at piece
              exact ⟨early, blocks, rfl, piece, others⟩
          | took item free due =>
              rw [due] at piece
              refine ⟨[], ⟨item, early⟩ :: blocks, rfl, ?_, ?_⟩
              · rw [free]
                exact .nothing
              · intro front block back whole
                cases front with
                | nil =>
                    obtain ⟨rfl, rfl⟩ := List.cons.inj whole
                    exact piece
                | cons first front => exact others front block back (List.cons.inj whole).2
          | wrote message due =>
              rw [due]
              exact ⟨.wrote message :: early, blocks, rfl, piece.after_wrote message, others⟩
          | cut found away due dropped =>
              rw [dropped] at piece
              exact ⟨.cut found :: early, blocks, rfl, piece.after_cut away, others⟩
      | ended stopped =>
          obtain ⟨final, untaken⟩ := stopped_watch stopped remaining
          have none : blocks = [] := by
            cases blocks with
            | nil => rfl
            | cons block rest => simp [Block.sights, QueueSight.taken?] at untaken
          rw [stopped] at piece
          exact ⟨early, blocks, rfl, piece.after_end none final, others⟩

theorem untaken_taken {span : List QueueSight} (untaken : ∀ item, .took item ∉ span) :
    span.filterMap QueueSight.taken? = [] := by
  rw [List.filterMap_eq_nil_iff]
  intro sight member
  cases sight with
  | took item => exact absurd member (untaken item)
  | queued | wrote | cut => rfl

theorem blocks_taken {blocks : List Block}
    (untaken : ∀ block ∈ blocks, ∀ item, .took item ∉ block.span) :
    (blocks.flatMap Block.sights).filterMap QueueSight.taken? = blocks.map Block.item := by
  induction blocks with
  | nil => rfl
  | cons block rest ih =>
      have others := ih fun other member => untaken other (List.mem_cons_of_mem _ member)
      have own := untaken_taken (untaken block List.mem_cons_self)
      rw [List.flatMap_cons, List.filterMap_append, others, Block.sights, List.filterMap_cons, own]
      rfl

theorem blocks_written (blocks : List Block) :
    writtenAmong (blocks.flatMap Block.sights) = blocks.flatMap Block.written := by
  induction blocks with
  | nil => rfl
  | cons block rest ih =>
      rw [List.flatMap_cons, List.flatMap_cons, ← ih, writtenAmong, List.filterMap_append]
      rfl

/-- The writes of a run come in blocks, each the frames of one command or payload from the first one
on. A block is whole unless the connection was found lost at its end, or the run or the bridge came
to its end. The commands of the blocks are taken in the order in which they were queued, each once,
and so are the payloads. What is seen to be written is what the link is called with, and nothing else
is written. -/
theorem writes_in_blocks (idle : bridge.writer = .idle)
    (watched : bridge.watch queueSight? acts = some (sights, last)) :
    (∃ early blocks, sights = early ++ blocks.flatMap Block.sights ∧
      writtenAmong sights = blocks.flatMap Block.written ∧
      (∀ front block back, blocks = front ++ block :: back →
        Piece last (back = []) block.item.frames block.span) ∧
      blocks.filterMap (fun block => block.item.command?) <+:
        bridge.queuedCommands ++ queuedAmong Outgoing.command? sights ∧
      blocks.filterMap (fun block => block.item.batch?) <+:
        bridge.queuedBatches ++ queuedAmong Outgoing.batch? sights) ∧
    ∀ next after, last.act next = some after →
      LinkUse next last after ((queueSight? next last after).bind QueueSight.handed?) := by
  obtain ⟨early, blocks, rfl, first, others⟩ := blocks_watch watched
  obtain ⟨commands, batches⟩ := taken_watch watched
  have silent : writtenAmong early = [] := by
    have none := first.in_order
    rw [idle] at none
    exact List.prefix_nil.mp none
  have spans : ∀ block ∈ blocks, ∀ item, .took item ∉ block.span := by
    intro block member
    obtain ⟨front, back, whole⟩ := List.append_of_mem member
    exact (others front block back whole).untaken
  have taken : (early ++ blocks.flatMap Block.sights).filterMap QueueSight.taken? =
      blocks.map Block.item := by
    rw [List.filterMap_append, untaken_taken first.untaken, blocks_taken spans, List.nil_append]
  rw [takenAmong, taken, List.filterMap_map] at commands batches
  refine ⟨⟨early, blocks, rfl, ?_, others, commands, batches⟩, fun _ _ => queueSight?_linkUse⟩
  rw [← blocks_written, writtenAmong, List.filterMap_append]
  change writtenAmong early ++ _ = _
  rw [silent, List.nil_append]
  rfl

def statusQuery : Message := ⟨.query, [2, 19, 13], by decide⟩

/-- A command is queued while the first frame of a payload waits for its acknowledgement, which never
comes. -/
def drainBoth : List Act :=
  writeFirst ++
    [.submit statusQuery, .move (.call 0), .move (.call 0),
      .pass 1200, .move .writer, .move .writer, .move .writer,
      .pass 1200, .move .writer, .move .writer, .move .writer, .move .writer]

theorem watch_drainBoth : ((start {} 8 { connectivity := .connected } {}).watch queueSight?
    drainBoth).map Prod.fst =
      some [.queued (.batch [firstFrame, secondFrame]), .took (.batch [firstFrame, secondFrame]),
        .wrote firstFrame, .queued (.command statusQuery), .wrote secondFrame, .took (.command statusQuery),
        .wrote statusQuery] := by
  decide +kernel

theorem call_drainBoth : (((start {} 8 { connectivity := .connected } {}).watch queueSight?
    (drainBoth.take 9)).bind fun (_, ready) => (ready.act (.move .writer)).bind fun after =>
      queueSight? (.move .writer) ready after) = some (.wrote firstFrame) := by
  decide +kernel

/-- The command waits for the second frame, and the link is called with the first one. -/
theorem writes_in_blocks_while_draining :
    (start {} 8 { connectivity := .connected } {}).writer = .idle ∧
      (∃ blocks : List Block, [firstFrame, secondFrame, statusQuery] = blocks.flatMap Block.written ∧
        blocks.filterMap (fun block => block.item.command?) <+: [statusQuery] ∧
        blocks.filterMap (fun block => block.item.batch?) <+: [[firstFrame, secondFrame]]) ∧
      ∃ ready after, ready.act (.move .writer) = some after ∧
        LinkUse (.move .writer) ready after (some (.settings, firstFrame.payload)) := by
  have idle : (start {} 8 { connectivity := .connected } {}).writer = .idle := rfl
  refine ⟨idle, ?_, ?_⟩
  · obtain ⟨⟨sights, last⟩, watched, seen⟩ := Option.map_eq_some_iff.mp watch_drainBoth
    simp only at seen
    subst seen
    obtain ⟨⟨early, blocks, -, written, -, commands, batches⟩, -⟩ := writes_in_blocks idle watched
    exact ⟨blocks, written, commands, batches⟩
  · obtain ⟨⟨sights, ready⟩, watched, called⟩ := Option.bind_eq_some_iff.mp call_drainBoth
    obtain ⟨after, acted, seen⟩ := Option.bind_eq_some_iff.mp called
    have use := (writes_in_blocks idle watched).2 _ _ acted
    rw [seen] at use
    exact ⟨ready, after, acted, use⟩

end Bridge

end CameraBridge
