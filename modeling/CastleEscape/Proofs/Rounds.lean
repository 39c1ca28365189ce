import CastleEscape.Proofs.Deed
import CastleEscape.Proofs.ShippedWording
import CastleEscape.Session

/-!
# Rounds

A session goes in rounds. Every round begins with the prompt, and one event is read; only a line
that wishes to quit has one more event read, after a question of its own. What a round comes to is
what its line comes to when it is heard out in a world of which nothing waits to be shown, and all
that is told is shown before the next round.

`Course` says which rounds a session may go through, and how it closes. That a session does go
through such rounds is an induction on the events: one round takes its own events from them
(`Session.run_atPrompt`), and the round that meets the end of the input is the last.
-/

namespace CastleEscape

/-- What is read in one round. -/
inductive Round where
  | line (text : String)
  | quit (text : String) (answer : Event)
  | interrupt
  | endOfInput
  | failure (reason : String)
  deriving DecidableEq

namespace Round

/-- The events of a round, in the order in which they are read. -/
def events : Round → List Event
  | line text => [.line text]
  | quit text answer => [.line text, answer]
  | interrupt => [.interrupt]
  | endOfInput => [.endOfInput]
  | failure reason => [.failure reason]

/-- An answer is read for a wish to quit and for no other line. -/
def IsSound : Round → Prop
  | line text => Command.parse? text ≠ some .quit
  | quit text _ => Command.parse? text = some .quit
  | _ => True

/-- The line that is heard out. One that asks nothing may have any answer, as nobody looks at it. -/
def input? : Round → Option Input
  | line text => some ⟨text, .endOfInput⟩
  | quit text answer => some ⟨text, answer⟩
  | _ => none

/-- What a round comes to: the end of the input quits, and an interrupt does nothing. -/
def exchange (world : World) : Round → Scene.Exchange
  | line text => (⟨world, []⟩ : Scene).hear text .endOfInput
  | quit text answer => (⟨world, []⟩ : Scene).hear text answer
  | interrupt => ⟨⟨world, []⟩, [], none⟩
  | endOfInput => ⟨⟨world.finish .quit, []⟩, [], none⟩
  | failure reason => ⟨⟨world, []⟩, [], some (.command reason)⟩

/-- The world after a round. -/
def after (round : Round) (world : World) : World := (round.exchange world).scene.world

/-- What is shown in a round, from its prompt to the last of what it has to tell. -/
def shows (round : Round) (world : World) : List Display :=
  (⟨world, []⟩ : Scene).prompt .prompt ::
    ((round.exchange world).shows ++ (round.exchange world).scene.shows)

def showsAll (world : World) : List Round → List Display
  | [] => []
  | round :: rounds => round.shows world ++ showsAll (round.after world) rounds

end Round

/-- A session that is open in this world goes through these rounds, every one of which but the last
leaves it open, and is then closed in that world and at that stage. A round that fails leaves the
world as it found it. -/
inductive Course : World → List Round → World → Stage → Prop where
  | ended {world : World} {round : Round} {ending : Ending} (hopen : world.ending = none)
      (hsound : round.IsSound) (hread : (round.exchange world).failure = none)
      (hending : (round.after world).ending = some ending) :
      Course world [round] (round.after world) (.ended ending)
  | failed {world : World} {round : Round} {failure : ReadFailure} (hopen : world.ending = none)
      (hsound : round.IsSound) (hfailure : (round.exchange world).failure = some failure) :
      Course world [round] world (.failed failure)
  | next {world last : World} {round : Round} {rounds : List Round} {stage : Stage}
      (hopen : world.ending = none) (hsound : round.IsSound)
      (hread : (round.exchange world).failure = none)
      (hrest : Course (round.after world) rounds last stage) :
      Course world (round :: rounds) last stage

/-! ## One round -/

theorem World.hear_eq_asksToQuit_iff {world : World} {line : String} :
    world.hear line = .asksToQuit ↔ Command.parse? line = some .quit := by
  unfold World.hear
  cases hparse : Command.parse? line with
  | none => simp
  | some command => cases command <;> simp [World.respond, World.respond.settle]

theorem World.hear_of_quit {world : World} {line : String}
    (hquit : Command.parse? line = some .quit) : world.hear line = .asksToQuit :=
  hear_eq_asksToQuit_iff.mpr hquit

/-- What is shown and what becomes of a wish to quit, once the answer to it can be read. -/
theorem Scene.hear_of_confirms {scene : Scene} {line : String} {answer : Event} {confirmed : Bool}
    (hquit : Command.parse? line = some .quit) (hanswer : answer.confirmsQuit = .ok confirmed) :
    scene.hear line answer =
      ⟨scene.shown.settle (scene.world.leave confirmed), scene.asks, none⟩ := by
  simp [hear, World.hear_of_quit hquit, hanswer]

theorem Scene.hear_of_failure {scene : Scene} {line : String} {answer : Event}
    {failure : ReadFailure} (hquit : Command.parse? line = some .quit)
    (hanswer : answer.confirmsQuit = .error failure) :
    scene.hear line answer = ⟨scene.shown, scene.asks, some failure⟩ := by
  simp [hear, World.hear_of_quit hquit, hanswer]

/-- A line that asks nothing shows nothing yet and cannot fail. -/
theorem Scene.hear_of_ne_quit {scene : Scene} {line : String} {answer : Event}
    (hstay : Command.parse? line ≠ some .quit) :
    ∃ world speech, scene.world.hear line = .settled world speech ∧
      scene.hear line answer = ⟨⟨world, scene.waiting ++ speech⟩, [], none⟩ := by
  cases hhear : scene.world.hear line with
  | settled world speech => exact ⟨world, speech, rfl, by simp [hear, hhear]⟩
  | asksToQuit => exact absurd (World.hear_eq_asksToQuit_iff.mp hhear) hstay

namespace Scene

theorem wording_of_settled {world after : World} {line : String} {speech : List Narration}
    (hhear : world.hear line = .settled after speech) : after.wording = world.wording := by
  have hworld := world_hear ⟨world, []⟩ line .endOfInput
  simp only [hear, hhear] at hworld
  rw [hworld, World.wording_next]

theorem wording_hear (scene : Scene) (line : String) (answer : Event) :
    (scene.hear line answer).scene.world.wording = scene.world.wording := by
  rw [world_hear, World.wording_next]

end Scene

namespace Round

variable {round : Round} {world : World}

/-- But for the end of the input, a round changes the world just by its line. -/
theorem run_cons (hround : round ≠ .endOfInput) (world : World) (rounds : List Round) :
    world.run ((round :: rounds).filterMap input?) =
      (round.after world).run (rounds.filterMap input?) := by
  cases round with
  | line text => rfl
  | quit text answer => rfl
  | interrupt => rfl
  | endOfInput => exact absurd rfl hround
  | failure reason => rfl

/-- A round that fails leaves nothing to be shown and the world as it was. -/
theorem scene_of_failure (hsound : round.IsSound) {failure : ReadFailure}
    (hfailure : (round.exchange world).failure = some failure) :
    (round.exchange world).scene = ⟨world, []⟩ := by
  cases round with
  | line text =>
      obtain ⟨after, speech, _, hhear⟩ :=
        @Scene.hear_of_ne_quit ⟨world, []⟩ text .endOfInput hsound
      simp [exchange, hhear] at hfailure
  | quit text answer =>
      cases hanswer : answer.confirmsQuit with
      | ok confirmed => simp [exchange, Scene.hear_of_confirms hsound hanswer] at hfailure
      | error => simp [exchange, Scene.hear_of_failure hsound hanswer, Scene.shown]
  | interrupt => cases hfailure
  | endOfInput => cases hfailure
  | failure reason => rfl

/-- Only an event that is a failure makes a round fail. -/
theorem failure_mem_events (hsound : round.IsSound) {failure : ReadFailure}
    (hfailure : (round.exchange world).failure = some failure) :
    ∃ reason, .failure reason ∈ round.events := by
  cases round with
  | line text =>
      obtain ⟨after, speech, _, hhear⟩ :=
        @Scene.hear_of_ne_quit ⟨world, []⟩ text .endOfInput hsound
      simp [exchange, hhear] at hfailure
  | quit text answer =>
      cases hanswer : answer.confirmsQuit with
      | ok confirmed => simp [exchange, Scene.hear_of_confirms hsound hanswer] at hfailure
      | error other =>
          cases answer with
          | failure reason => exact ⟨reason, by simp [events]⟩
          | _ => cases hanswer
  | interrupt => cases hfailure
  | endOfInput => cases hfailure
  | failure reason => exact ⟨reason, List.mem_singleton_self _⟩

/-- At either prompt the end of the input quits. -/
theorem quits_of_endOfInput (hopen : world.ending = none) (hsound : round.IsSound)
    (hend : .endOfInput ∈ round.events) :
    (round.exchange world).failure = none ∧ (round.after world).ending = some .quit := by
  cases round with
  | quit text answer =>
      obtain rfl : answer = .endOfInput := by simpa [events, eq_comm] using hend
      have hhear := @Scene.hear_of_confirms ⟨world, []⟩ text .endOfInput true hsound rfl
      refine ⟨congrArg Scene.Exchange.failure hhear, ?_⟩
      have hworld : (world.leave true).world.ending = none := hopen
      rw [after, exchange, hhear]
      exact Act.ending_settle_of_some hworld rfl
  | endOfInput => exact ⟨rfl, by simp [after, exchange, World.finish, hopen]⟩
  | _ => simp [events] at hend

end Round

/-- An interrupt refuses to quit just as an answer does that is no yes. -/
theorem Scene.hear_interrupt {scene : Scene} {line answer : String}
    (hquit : Command.parse? line = some .quit) (hno : ¬ StartsWithYes answer) :
    scene.hear line .interrupt = scene.hear line (.line answer) := by
  have hanswer : (Event.line answer).confirmsQuit = .ok false := by
    simpa [Event.confirmsQuit, ← isAffirmative_iff] using hno
  rw [hear_of_confirms hquit hanswer, hear_of_confirms hquit rfl]

/-! ## Taking events -/

namespace Session

/-- A session at its prompt, with nothing left to be shown. -/
def atPrompt (world : World) : Session := ⟨⟨world, []⟩, .command⟩

/-- The report of a session of which something had been shown before. -/
def Report.precededBy (report : Report) (shows : List Display) : Report :=
  { report with shows := shows ++ report.shows }

variable {session : Session}

theorem run_of_closed (hclosed : session.isOpen = false) (events : List Event) :
    session.run events = ⟨session, [], events⟩ := by
  cases events with
  | cons event rest => simp [run, hclosed]
  | nil =>
      obtain ⟨scene, stage⟩ := session
      cases stage with
      | command => cases hclosed
      | confirmation => cases hclosed
      | ended ending => rfl
      | failed failure => rfl

theorem proceed_of_ending {scene : Scene} {ending : Ending}
    (hending : scene.world.ending = some ending) :
    proceed scene = (⟨⟨scene.world, []⟩, .ended ending⟩, scene.shows) := by
  simp [proceed, hending, Scene.shown]

theorem proceed_of_open {scene : Scene} (hopen : scene.world.ending = none) :
    proceed scene = (atPrompt scene.world, scene.shows ++ [scene.prompt .prompt]) := by
  simp [proceed, hopen, Scene.shown, atPrompt]

theorem isOpen_feed_endOfInput (session : Session) :
    (session.feed .endOfInput).1.isOpen = false := by
  obtain ⟨scene, stage⟩ := session
  cases stage with
  | command =>
      obtain ⟨ending, hending⟩ : ∃ ending, (scene.world.finish .quit).ending = some ending := by
        cases hended : scene.world.ending <;> simp [World.finish, hended]
      have hfeed : feed ⟨scene, .command⟩ .endOfInput =
          proceed ⟨scene.world.finish .quit, scene.waiting⟩ := rfl
      rw [hfeed, @proceed_of_ending ⟨scene.world.finish .quit, scene.waiting⟩ ending hending]
      rfl
  | confirmation =>
      obtain ⟨ending, hending⟩ :
          ∃ ending, (scene.settle (scene.world.leave true)).world.ending = some ending := by
        cases hended : scene.world.ending <;>
          simp [Scene.settle, Act.ending_settle, World.leave, hended]
      have hfeed : feed ⟨scene, .confirmation⟩ .endOfInput =
          proceed (scene.settle (scene.world.leave true)) := rfl
      rw [hfeed, proceed_of_ending hending]
      rfl
  | ended ending => rfl
  | failed failure => rfl

/-- An open session takes the next event; after the last one the input is at its end. -/
theorem run_of_open (hopen : session.isOpen = true) (events : List Event) :
    session.run events =
      ((session.feed (events.headD .endOfInput)).1.run events.tail).precededBy
        (session.feed (events.headD .endOfInput)).2 := by
  cases events with
  | cons event rest => simp [run, hopen, Report.precededBy]
  | nil =>
      have hclosed := run_of_closed session.isOpen_feed_endOfInput []
      simp [run, hclosed, Report.precededBy]

/-! No event changes the wording. -/

theorem wording_proceed (scene : Scene) :
    (proceed scene).1.scene.world.wording = scene.world.wording := by
  unfold proceed
  split <;> rfl

theorem wording_feed (session : Session) (event : Event) :
    (session.feed event).1.scene.world.wording = session.scene.world.wording := by
  obtain ⟨scene, stage⟩ := session
  cases stage with
  | command =>
      cases event with
      | line text =>
          simp only [feed, feedCommand]
          cases hhear : scene.world.hear text with
          | settled world speech =>
              exact (wording_proceed _).trans (Scene.wording_of_settled hhear)
          | asksToQuit => rfl
      | endOfInput => exact wording_proceed _
      | interrupt => exact wording_proceed _
      | failure reason => rfl
  | confirmation =>
      simp only [feed, feedConfirmation]
      cases event.confirmsQuit with
      | ok confirmed => exact (wording_proceed _).trans (Act.wording_settle _)
      | error failure => rfl
  | ended ending => rfl
  | failed failure => rfl

theorem wording_run (session : Session) (events : List Event) :
    (session.run events).session.scene.world.wording = session.scene.world.wording := by
  induction events generalizing session with
  | nil => exact session.wording_feed .endOfInput
  | cons event rest ih =>
      unfold run
      split
      · exact (ih _).trans (session.wording_feed event)
      · rfl

/-! ## One round of a session -/

/-- What is read first of some events, if it is this event. -/
theorem headD_of_prefix {event : Event} {more events : List Event}
    (hreads : event :: more <+: events ++ [.endOfInput]) : events.headD .endOfInput = event := by
  obtain ⟨rest, hsplit⟩ := hreads
  cases events with
  | nil => simpa using (List.cons.inj hsplit).1.symm
  | cons first events => exact (List.cons.inj hsplit).1.symm

theorem tail_reads {event : Event} {more events : List Event} (hevent : event ≠ .endOfInput)
    (hreads : event :: more <+: events ++ [.endOfInput]) :
    more <+: events.tail ++ [.endOfInput] := by
  obtain ⟨rest, hsplit⟩ := hreads
  cases events with
  | nil => exact absurd (List.cons.inj hsplit).1 hevent
  | cons first events => exact ⟨rest, (List.cons.inj hsplit).2⟩

/-- **One round.** From its prompt on, a session takes the events of the round. If that fails, it
is closed as it was at the prompt; otherwise it shows what there is and goes on as the world is
then. -/
theorem run_atPrompt {world : World} {round : Round} {events : List Event}
    (hsound : round.IsSound) (hreads : round.events <+: events ++ [.endOfInput]) :
    (atPrompt world).run events =
      match (round.exchange world).failure with
      | some failure =>
        ⟨⟨⟨world, []⟩, .failed failure⟩, (round.exchange world).shows,
          events.drop round.events.length⟩
      | none =>
        ((proceed (round.exchange world).scene).1.run
          (events.drop round.events.length)).precededBy
            ((round.exchange world).shows ++ (proceed (round.exchange world).scene).2) := by
  cases round with
  | line text =>
      obtain ⟨after, speech, hheard, hhear⟩ :=
        @Scene.hear_of_ne_quit ⟨world, []⟩ text .endOfInput hsound
      have hhead := headD_of_prefix hreads
      rw [run_of_open rfl, hhead]
      simp [feed, atPrompt, feedCommand, hheard, Round.exchange, hhear, Round.events]
  | quit text answer =>
      have hhead := headD_of_prefix hreads
      have hanswer := headD_of_prefix (tail_reads Event.noConfusion hreads)
      have hasks : (atPrompt world).feed (.line text) =
          (⟨⟨world, []⟩, .confirmation⟩, (⟨world, []⟩ : Scene).asks) := by
        simp [feed, atPrompt, feedCommand, World.hear_of_quit hsound, Scene.shown]
      have hrest : events.tail.tail = events.drop (Round.quit text answer).events.length := by
        rw [← List.drop_one, ← List.drop_one, List.drop_drop]
        rfl
      rw [run_of_open rfl, hhead, hasks, run_of_open rfl, hanswer, hrest]
      cases hconfirms : answer.confirmsQuit with
      | ok confirmed =>
          simp [feed, feedConfirmation, hconfirms, Round.exchange,
            Scene.hear_of_confirms hsound hconfirms, Scene.shown, Report.precededBy]
      | error failure =>
          have hclosed : ((⟨⟨world, []⟩, .failed failure⟩ : Session)).isOpen = false := rfl
          simp [feed, feedConfirmation, hconfirms, Round.exchange,
            Scene.hear_of_failure hsound hconfirms, Report.precededBy, run_of_closed hclosed]
  | interrupt =>
      rw [run_of_open rfl, headD_of_prefix hreads]
      simp [feed, atPrompt, feedCommand, Round.exchange, Round.events]
  | endOfInput =>
      rw [run_of_open rfl, headD_of_prefix hreads]
      simp [feed, atPrompt, feedCommand, Round.exchange, Round.events]
  | failure reason =>
      have hclosed : ((⟨⟨world, []⟩, .failed (.command reason)⟩ : Session)).isOpen = false := rfl
      rw [run_of_open rfl, headD_of_prefix hreads]
      simp [feed, atPrompt, feedCommand, Round.exchange, Round.events, run_of_closed hclosed,
        Report.precededBy]

/-! ## A whole session -/

section Play

variable {world : World} {round : Round} {events : List Event}

theorem play_eq (world : World) (events : List Event) :
    play ⟨world, []⟩ events =
      ((atPrompt world).run events).precededBy [(⟨world, []⟩ : Scene).prompt .prompt] := rfl

theorem play_of_failure (hsound : round.IsSound)
    (hreads : round.events <+: events ++ [.endOfInput]) {failure : ReadFailure}
    (hfailure : (round.exchange world).failure = some failure) :
    play ⟨world, []⟩ events =
      ⟨⟨⟨world, []⟩, .failed failure⟩, round.shows world, events.drop round.events.length⟩ := by
  have hscene := Round.scene_of_failure hsound hfailure
  rw [play_eq, run_atPrompt hsound hreads, hfailure]
  simp [Report.precededBy, Round.shows, hscene, Scene.shows, Display.ofNarration,
    Narration.allLines]

theorem play_of_ending (hsound : round.IsSound)
    (hreads : round.events <+: events ++ [.endOfInput])
    (hread : (round.exchange world).failure = none) {ending : Ending}
    (hending : (round.after world).ending = some ending) :
    play ⟨world, []⟩ events =
      ⟨⟨⟨round.after world, []⟩, .ended ending⟩, round.shows world,
        events.drop round.events.length⟩ := by
  have hclosed :
      (⟨⟨(round.exchange world).scene.world, []⟩, .ended ending⟩ : Session).isOpen = false := rfl
  rw [play_eq, run_atPrompt hsound hreads, hread, proceed_of_ending hending]
  simp [run_of_closed hclosed, Report.precededBy, Round.shows, Round.after]

theorem play_of_open (hsound : round.IsSound)
    (hreads : round.events <+: events ++ [.endOfInput])
    (hread : (round.exchange world).failure = none) (hopen : (round.after world).ending = none) :
    play ⟨world, []⟩ events =
      (play ⟨round.after world, []⟩ (events.drop round.events.length)).precededBy
        (round.shows world) := by
  rw [play_eq, run_atPrompt hsound hreads, hread, proceed_of_open hopen, play_eq]
  simp [Report.precededBy, Round.shows, Round.after, Scene.prompt]

end Play

/-! ## From events to rounds -/

/-- Whatever is to come, some round is read of it. -/
theorem exists_round (events : List Event) :
    ∃ round : Round, round.IsSound ∧ round.events <+: events ++ [.endOfInput] := by
  cases events with
  | nil => exact ⟨.endOfInput, trivial, List.prefix_rfl⟩
  | cons event rest =>
      cases event with
      | line text =>
          by_cases hquit : Command.parse? text = some .quit
          · cases rest with
            | nil => exact ⟨.quit text .endOfInput, hquit, List.prefix_rfl⟩
            | cons answer rest => exact ⟨.quit text answer, hquit, rest ++ [.endOfInput], rfl⟩
          · exact ⟨.line text, hquit, rest ++ [.endOfInput], rfl⟩
      | endOfInput => exact ⟨.endOfInput, trivial, rest ++ [.endOfInput], rfl⟩
      | interrupt => exact ⟨.interrupt, trivial, rest ++ [.endOfInput], rfl⟩
      | failure reason => exact ⟨.failure reason, trivial, rest ++ [.endOfInput], rfl⟩

/-- Every session goes through some rounds to its close. -/
theorem exists_course {world : World} (hopen : world.ending = none) (events : List Event) :
    ∃ rounds : List Round,
      Course world rounds (play ⟨world, []⟩ events).session.scene.world
        (play ⟨world, []⟩ events).session.stage ∧
      (play ⟨world, []⟩ events).session.scene.waiting = [] ∧
      rounds.flatMap Round.events <+: events ++ [.endOfInput] ∧
      (play ⟨world, []⟩ events).remaining =
        events.drop (rounds.flatMap Round.events).length ∧
      (play ⟨world, []⟩ events).shows = Round.showsAll world rounds := by
  induction hlength : events.length using Nat.strong_induction_on generalizing world events with
  | _ length ih =>
      obtain ⟨round, hsound, hreads⟩ := exists_round events
      cases hread : (round.exchange world).failure with
      | some failure =>
          rw [play_of_failure hsound hreads hread]
          exact ⟨[round], .failed hopen hsound hread, rfl, by simpa using hreads, by simp,
            by simp [Round.showsAll]⟩
      | none =>
          cases hending : (round.after world).ending with
          | some ending =>
              rw [play_of_ending hsound hreads hread hending]
              exact ⟨[round], .ended hopen hsound hread hending, rfl, by simpa using hreads,
                by simp, by simp [Round.showsAll]⟩
          | none =>
              rw [play_of_open hsound hreads hread hending]
              rcases List.prefix_concat_iff.mp hreads with hall | ⟨rest, rfl⟩
              · -- the end of the input has been met, which leaves nothing open
                have hend : .endOfInput ∈ round.events := by simp [hall]
                have hquits := (Round.quits_of_endOfInput hopen hsound hend).2
                simp [hending] at hquits
              · have hshorter : rest.length < length := by
                  rw [← hlength, List.length_append]
                  cases round <;> simp [Round.events]
                rw [List.drop_left]
                obtain ⟨rounds, hrest, hwaiting, ⟨unread, hunread⟩, hremaining, hshows⟩ :=
                  ih rest.length hshorter hending rest rfl
                refine ⟨round :: rounds, .next hopen hsound hread hrest, hwaiting,
                  ⟨unread, by simp [← hunread]⟩, ?_, ?_⟩
                · simpa [Report.precededBy] using hremaining
                · simpa [Report.precededBy, Round.showsAll] using hshows

end Session

/-! ## What a course says -/

theorem Display.prompts_append (colored : Bool) (displays more : List Display) :
    prompts colored (displays ++ more) = prompts colored displays ++ prompts colored more :=
  List.filterMap_append

theorem Display.prompts_ofNarration (colored : Bool) (wording : Wording)
    (speech : List Narration) : prompts colored (ofNarration wording speech) = [] := by
  simp [prompts, ofNarration, List.filterMap_map]

/-- Every event that is read has its prompt. -/
theorem Round.length_prompts_shows {round : Round} (hsound : round.IsSound) (colored : Bool)
    (world : World) :
    (Display.prompts colored (round.shows world)).length = round.events.length := by
  have hprompts : ∀ exchange : Scene.Exchange,
      (Display.prompts colored ((⟨world, []⟩ : Scene).prompt .prompt ::
        (exchange.shows ++ exchange.scene.shows))).length =
          (Display.prompts colored exchange.shows).length + 1 := by
    intro exchange
    rw [← List.singleton_append, Display.prompts_append, Display.prompts_append, Scene.shows,
      Display.prompts_ofNarration, List.append_nil, List.length_append, Nat.add_comm]
    rfl
  have hasks : (Display.prompts colored (⟨world, []⟩ : Scene).asks).length = 1 := by
    rw [Scene.asks, Display.prompts_append, Scene.shows, Display.prompts_ofNarration]
    rfl
  rw [shows, hprompts]
  cases round with
  | line text =>
      obtain ⟨after, speech, _, hhear⟩ :=
        @Scene.hear_of_ne_quit ⟨world, []⟩ text .endOfInput hsound
      rw [exchange, hhear]
      rfl
  | quit text answer =>
      cases hanswer : answer.confirmsQuit with
      | ok confirmed => rw [exchange, Scene.hear_of_confirms hsound hanswer, hasks]; rfl
      | error failure => rw [exchange, Scene.hear_of_failure hsound hanswer, hasks]; rfl
  | _ => rfl

namespace Course

variable {world last : World} {rounds : List Round} {stage : Stage}

theorem ending_eq_none (hcourse : Course world rounds last stage) : world.ending = none := by
  cases hcourse <;> assumption

theorem length_prompts (hcourse : Course world rounds last stage) (colored : Bool) :
    (Display.prompts colored (Round.showsAll world rounds)).length =
      (rounds.flatMap Round.events).length := by
  induction hcourse with
  | ended _ hsound => simpa [Round.showsAll] using Round.length_prompts_shows hsound colored _
  | failed _ hsound => simpa [Round.showsAll] using Round.length_prompts_shows hsound colored _
  | next _ hsound _ _ ih =>
      rw [Round.showsAll, Display.prompts_append, List.length_append, ih, List.flatMap_cons,
        List.length_append, Round.length_prompts_shows hsound]

/-- The stage tells of the ending that the world has come to, if it has come to one. -/
theorem stage_cases (hcourse : Course world rounds last stage) :
    (∃ ending, stage = .ended ending ∧ last.ending = some ending) ∨
      ∃ failure, stage = .failed failure ∧ last.ending = none := by
  induction hcourse with
  | ended _ _ _ hending => exact Or.inl ⟨_, rfl, hending⟩
  | failed hopen => exact Or.inr ⟨_, rfl, hopen⟩
  | next _ _ _ _ ih => exact ih

/-- A session only fails if reading an event does. -/
theorem failure_mem (hcourse : Course world rounds last stage) {failure : ReadFailure}
    (hfailed : stage = .failed failure) :
    ∃ reason, .failure reason ∈ rounds.flatMap Round.events := by
  induction hcourse with
  | ended => cases hfailed
  | failed _ hsound hfailure =>
      obtain ⟨reason, hreason⟩ := Round.failure_mem_events hsound hfailure
      exact ⟨reason, by simpa using hreason⟩
  | next _ _ _ _ ih =>
      obtain ⟨reason, hreason⟩ := ih hfailed
      exact ⟨reason, List.mem_append_right _ hreason⟩

/-- The last world is what comes of the lines that are read at the prompt, one after the other; the
end of the input quits in addition. -/
theorem last_eq (hcourse : Course world rounds last stage) :
    (.endOfInput ∉ rounds → last = world.run (rounds.filterMap Round.input?)) ∧
    (.endOfInput ∈ rounds →
      last = (world.run (rounds.filterMap Round.input?)).finish .quit) := by
  induction hcourse with
  | @ended world round ending hopen hsound hread hending =>
      by_cases hend : round = .endOfInput
      · subst hend
        exact ⟨fun hnot => absurd (List.mem_singleton_self _) hnot, fun _ => rfl⟩
      · refine ⟨fun _ => (Round.run_cons hend world []).symm, fun hmem => ?_⟩
        exact absurd (List.mem_singleton.mp hmem).symm hend
  | @failed world round failure hopen hsound hfailure =>
      have hend : round ≠ .endOfInput := by
        rintro rfl
        cases hfailure
      have hafter : round.after world = world :=
        congrArg Scene.world (Round.scene_of_failure hsound hfailure)
      refine ⟨fun _ => ((Round.run_cons hend world []).trans hafter).symm, fun hmem => ?_⟩
      exact absurd (List.mem_singleton.mp hmem).symm hend
  | @next world last round rounds stage hopen hsound hread hrest ih =>
      have hend : round ≠ .endOfInput := by
        rintro rfl
        have hquits := (Round.quits_of_endOfInput hopen hsound (List.mem_singleton_self _)).2
        simp [hrest.ending_eq_none] at hquits
      rw [Round.run_cons hend, List.mem_cons, or_iff_right hend.symm]
      exact ih

end Course

namespace Session

/-- **A session is its lines.** Whatever events are to come, an open session of which nothing waits
to be shown is closed at last. It goes in rounds: the events are read in their order, each of them
once and with one prompt, none after the round that closes the session, and the others remain. All
that the rounds have to tell is shown in its order, and nothing waits in the end. The last world is
what comes of the lines that were read at the prompt, where a wish to quit has the event after it
for its answer; the end of the input at the prompt quits in addition. The ending is that of the
world; when reading fails the world is still open, and it is as it was before that round. An
interrupt refuses to quit, and the end of the input at either prompt quits. -/
theorem course_of_events :
    (∀ (world : World) (events : List Event), world.ending = none →
      let report := play ⟨world, []⟩ events
      let last := report.session.scene.world
      ∃ rounds : List Round,
        let reads := rounds.flatMap Round.events
        Course world rounds last report.session.stage ∧
        reads <+: events ++ [.endOfInput] ∧
        report.remaining = events.drop reads.length ∧
        report.shows = Round.showsAll world rounds ∧
        (∀ colored, (Display.prompts colored report.shows).length = reads.length) ∧
        report.session.scene.waiting = [] ∧
        (.endOfInput ∉ rounds → last = world.run (rounds.filterMap Round.input?)) ∧
        (.endOfInput ∈ rounds →
          last = (world.run (rounds.filterMap Round.input?)).finish .quit) ∧
        ((∃ ending, report.session.stage = .ended ending ∧ last.ending = some ending) ∨
          ∃ failure, report.session.stage = .failed failure ∧ last.ending = none)) ∧
    (∀ (scene : Scene) (line answer : String), Command.parse? line = some .quit →
      ¬ StartsWithYes answer → scene.hear line .interrupt = scene.hear line (.line answer)) ∧
    (∀ (world : World) (round : Round), world.ending = none → round.IsSound →
      .endOfInput ∈ round.events →
        (round.exchange world).failure = none ∧ (round.after world).ending = some .quit) := by
  refine ⟨?_, fun scene line answer => Scene.hear_interrupt,
    fun world round => Round.quits_of_endOfInput⟩
  intro world events hopen report last
  obtain ⟨rounds, hcourse, hwaiting, hreads, hremaining, hshows⟩ := exists_course hopen events
  obtain ⟨hlast, hquit⟩ := hcourse.last_eq
  refine ⟨rounds, hcourse, hreads, hremaining, hshows, fun colored => ?_, hwaiting, hlast, hquit,
    hcourse.stage_cases⟩
  show (Display.prompts colored (play ⟨world, []⟩ events).shows).length = _
  rw [hshows, hcourse.length_prompts]

/-- An interrupt and the end of the input are two rounds, and what follows them is not read. -/
theorem course_of_events_interrupted :
    ∃ wording, Wording.shipped = .ok wording ∧
      (World.atStart wording).ending = none ∧
      (∃ rounds last, Course (.atStart wording) rounds last (.ended .quit) ∧
        (rounds.flatMap Round.events).length = 2) ∧
      Command.parse? "quit" = some .quit ∧ ¬ StartsWithYes "no" ∧
      (Scene.atStart wording).hear "quit" .interrupt =
        (Scene.atStart wording).hear "quit" (.line "no") ∧
      (Round.endOfInput.after (.atStart wording)).ending = some .quit := by
  obtain ⟨wording, hshipped⟩ := Wording.exists_shipped
  have hparse : Command.parse? "quit" = some .quit := by decide +kernel
  have hno : ¬ StartsWithYes "no" := by
    rw [← isAffirmative_iff]
    decide
  have hremaining : (play ⟨.atStart wording, []⟩
      [.interrupt, .endOfInput, .line "look"]).remaining = [.line "look"] := rfl
  obtain ⟨rounds, hcourse, _, hdrop, _⟩ := course_of_events.1 (.atStart wording)
    [.interrupt, .endOfInput, .line "look"] rfl
  have hlength := congrArg List.length (hremaining.symm.trans hdrop)
  rw [List.length_drop] at hlength
  simp only [List.length_cons, List.length_nil] at hlength
  refine ⟨wording, hshipped, rfl, ⟨rounds, _, hcourse, by omega⟩, hparse, hno,
    course_of_events.2.1 (.atStart wording) "quit" "no" hparse hno, ?_⟩
  exact (course_of_events.2.2 (.atStart wording) .endOfInput rfl trivial
    (List.mem_singleton_self _)).2

end Session

end CastleEscape
