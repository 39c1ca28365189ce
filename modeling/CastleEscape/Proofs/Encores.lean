import CastleEscape.Launch
import CastleEscape.Proofs.Letters
import CastleEscape.Proofs.Rounds

/-!
# One session after the other

What the program shows is put together from performances, one for each session. A performance is a
matter of the wording and of the lines that are there when it begins (`Program.performance`); the
next one begins with the lines that are left, if the first of them is an answer that is no refusal
(`Program.Encore`). The scene that a session leaves is handed on, but restarting it leaves nothing
of it (`Scene.restart_eq_atStart`), so the program goes on as if it had just been started
(`Program.newSession_eq_start`). That there is a last performance is an induction on the number of
lines, of which every answer takes one.
-/

namespace CastleEscape

/-- The first character of an answer that is not blank is an n. -/
def StartsWithNo (answer : String) : Prop :=
  ∃ c, answer.toList.find? (fun c => !Text.isBlank c) = some c ∧ (c = 'n' ∨ c = 'N')

/-- Nothing but the two letters becomes a small n. -/
theorem Text.LowerCase.head?_ofChars_eq_n {c : Char} {rest : List Char} :
    (ofChars [] (c :: rest)).head? = some 'n' ↔ c = 'n' ∨ c = 'N' := by
  have hascii : ∀ code < 0x80, (Char.ofNat code).toLower = 'n' →
      Char.ofNat code = 'n' ∨ Char.ofNat code = 'N' := by
    decide
  constructor
  · intro hhead
    by_cases hsigma : c = 'Σ'
    · rw [ofChars, if_pos hsigma, List.singleton_append, List.head?_cons] at hhead
      split at hhead <;> simp at hhead
    · obtain ⟨first, more, hfirst⟩ := List.exists_cons_of_ne_nil (ofChar_ne_nil c)
      rw [ofChars, if_neg hsigma, hfirst, List.cons_append, List.head?_cons,
        Option.some.injEq] at hhead
      have hmem : 'n' ∈ ofChar c := by rw [hfirst, hhead]; exact List.mem_cons_self
      rcases ascii_of_mem_ofChar hmem (by decide) with ⟨hplain, hlower⟩ | ⟨_, hi⟩ | ⟨_, hk⟩
      · have hletter := hascii c.toNat hplain
        rw [Char.ofNat_toNat] at hletter
        exact hletter hlower.symm
      · cases hi
      · cases hk
  · rintro (rfl | rfl) <;> rfl

namespace Program

theorem isRefusal_iff {answer : String} : isRefusal answer = true ↔ StartsWithNo answer := by
  unfold isRefusal StartsWithNo
  rw [Text.lowerCase, Text.trimStart, String.toList_ofList, String.toList_ofList,
    Text.trimStartChars, List.find?_not_eq_head?_dropWhile, beq_iff_eq]
  cases answer.toList.dropWhile Text.isBlank with
  | nil => simp [Text.LowerCase.ofChars]
  | cons c rest => simp [Text.LowerCase.head?_ofChars_eq_n]

/-! ## Performances -/

/-- How the first session on these lines goes. -/
def firstSession (wording : Wording) (lines : List String) : Session.Report :=
  Session.play (.atStart wording) (lines.map .line)

/-- What is shown of the first session on these lines, from clearing the screen to the offer of
another one. -/
def performance (wording : Wording) (lines : List String) : List Display :=
  .clearScreen :: .intro wording.intro ::
    ((firstSession wording lines).shows ++ (offer (firstSession wording lines).session.scene).2)

/-- After the first session on these lines one of them answers the offer, with no refusal, and the
rest is left for the next session. -/
def Encore (wording : Wording) (lines rest : List String) : Prop :=
  ∃ answer, (firstSession wording lines).remaining = .line answer :: rest.map .line ∧
    ¬ StartsWithNo answer

section FirstSession

variable (wording : Wording) (lines : List String)

/-- With lines alone nothing can fail. -/
theorem exists_ending :
    ∃ ending, (firstSession wording lines).session.stage = .ended ending := by
  obtain ⟨rounds, hcourse, _, hreads, _⟩ :=
    Session.exists_course (rfl : (World.atStart wording).ending = none) (lines.map .line)
  rcases hcourse.stage_cases with ⟨ending, hended, _⟩ | ⟨failure, hfailed, _⟩
  · exact ⟨ending, hended⟩
  · obtain ⟨reason, hreason⟩ := hcourse.failure_mem hfailed
    simpa using hreads.subset hreason

theorem exists_remaining :
    ∃ left, (firstSession wording lines).remaining = (lines.drop left).map .line := by
  obtain ⟨rounds, _, _, _, hremaining, _⟩ :=
    Session.exists_course (rfl : (World.atStart wording).ending = none) (lines.map .line)
  exact ⟨_, hremaining.trans List.map_drop.symm⟩

theorem wording_firstSession :
    (firstSession wording lines).session.scene.world.wording = wording :=
  Session.wording_run ⟨.atStart wording, .command⟩ _

end FirstSession

/-! ## The machine -/

theorem run_cons (program : Program) (event : Event) (events : List Event) :
    program.run (event :: events) =
      (((program.feed event).1.run events).1,
        (program.feed event).2 ++ ((program.feed event).1.run events).2) := rfl

theorem run_append (program : Program) (events more : List Event) :
    program.run (events ++ more) =
      (((program.run events).1.run more).1,
        (program.run events).2 ++ ((program.run events).1.run more).2) := by
  induction events generalizing program with
  | nil => rfl
  | cons event rest ih => rw [List.cons_append, run_cons, ih, run_cons, List.append_assoc]

theorem play_eq_run (wording : Wording) (lines : List String) :
    play wording lines =
      (((start wording).1.run (lines.map .line ++ [.endOfInput, .endOfInput])).1,
        (start wording).2 ++
          ((start wording).1.run (lines.map .line ++ [.endOfInput, .endOfInput])).2) := rfl

theorem run_finished (events : List Event) : run .finished events = (.finished, []) := by
  induction events with
  | nil => rfl
  | cons event rest ih => simp [run, feed, ih]

theorem feed_playing_of_open {session : Session} {event : Event}
    (hopen : (session.feed event).1.isOpen = true) :
    feed (.playing session) event = (.playing (session.feed event).1, (session.feed event).2) := by
  cases hstage : (session.feed event).1.stage with
  | command => simp [feed, feedSession, hstage]
  | confirmation => simp [feed, feedSession, hstage]
  | ended ending => simp [Session.isOpen, Stage.isOpen, hstage] at hopen
  | failed failure => simp [Session.isOpen, Stage.isOpen, hstage] at hopen

theorem fst_offer (scene : Scene) : (offer scene).1 = .offering scene.shown := rfl

theorem feed_playing_of_ended {session : Session} {event : Event} {ending : Ending}
    (hended : (session.feed event).1.stage = .ended ending) :
    feed (.playing session) event =
      ((offer (session.feed event).1.scene).1,
        (session.feed event).2 ++ (offer (session.feed event).1.scene).2) := by
  simp [feed, feedSession, hended]

/-- **One session of the program.** A session that comes to an ending is followed by the offer of
another, which meets the events that the session has left. -/
theorem run_playing {session : Session} (hopen : session.isOpen = true) {events : List Event}
    {ending : Ending} (hended : (session.run events).session.stage = .ended ending)
    {last : Program} {more : List Display}
    (hrest : (offer (session.run events).session.scene).1.run
      ((session.run events).remaining ++ [.endOfInput, .endOfInput]) = (last, more)) :
    (playing session).run (events ++ [.endOfInput, .endOfInput]) =
      (last, (session.run events).shows ++
        (offer (session.run events).session.scene).2 ++ more) := by
  induction events generalizing session with
  | nil =>
      -- the session meets the end of the input, and so does the offer after it
      have hfinished : (offer (session.feed .endOfInput).1.scene).1.run
          [.endOfInput, .endOfInput] = (.finished, []) := rfl
      obtain ⟨rfl, rfl⟩ : .finished = last ∧ [] = more :=
        Prod.mk.inj (hfinished.symm.trans hrest)
      rw [List.nil_append, run_cons, feed_playing_of_ended hended, List.append_nil]
      exact Prod.ext rfl (List.append_nil _)
  | cons event rest ih =>
      simp only [Session.run, hopen, if_true] at hended hrest ⊢
      rw [List.cons_append, run_cons]
      cases hnext : (session.feed event).1.isOpen with
      | true =>
          rw [feed_playing_of_open hnext, ih hnext hended hrest]
          simp
      | false =>
          rw [Session.run_of_closed hnext] at hended hrest ⊢
          rw [feed_playing_of_ended hended, hrest]
          simp

/-! ## The next session -/

/-- Whatever the last session did, the next one begins as the first one did. -/
theorem newSession_eq_start (scene : Scene) : newSession scene = start scene.world.wording := by
  rw [start, newSession, newSession, Scene.restart_eq_atStart, Scene.restart_eq_atStart]
  rfl

theorem start_eq (wording : Wording) :
    start wording = (.playing ⟨.atStart wording, .command⟩,
      [.clearScreen, .intro wording.intro, (Scene.atStart wording).prompt .prompt]) := by
  rw [start, newSession, Scene.restart_eq_atStart]
  rfl

theorem feed_offering_of_yes (scene : Scene) {answer : String} (hyes : ¬ StartsWithNo answer) :
    (offering scene).feed (.line answer) = start scene.world.wording := by
  have hrefusal : isRefusal answer = false :=
    Bool.eq_false_iff.mpr fun hno => hyes (isRefusal_iff.mp hno)
  simp [feed, feedOffer, hrefusal, newSession_eq_start]

/-- Once the offer has been taken up, nothing of the last session has an effect on what follows. -/
theorem run_offering_of_yes (scene : Scene) {answer : String} (hyes : ¬ StartsWithNo answer)
    (lines : List String) :
    (offering scene).run ((answer :: lines).map .line ++ [.endOfInput, .endOfInput]) =
      play scene.world.wording lines := by
  rw [List.map_cons, List.cons_append, run_cons, feed_offering_of_yes scene hyes, play_eq_run]

section Offer

variable {wording : Wording} {lines rest : List String}

theorem play_eq {last : Program} {more : List Display}
    (hoffer : (offer (firstSession wording lines).session.scene).1.run
      ((firstSession wording lines).remaining ++ [.endOfInput, .endOfInput]) = (last, more)) :
    play wording lines = (last, performance wording lines ++ more) := by
  obtain ⟨ending, hended⟩ := exists_ending wording lines
  have hrun := @run_playing ⟨.atStart wording, .command⟩ rfl (lines.map .line) ending hended last
    more hoffer
  rw [play_eq_run, start_eq, hrun]
  simp [performance, firstSession, Session.play, Session.start]

theorem play_of_encore (hencore : Encore wording lines rest) :
    play wording lines =
      ((play wording rest).1, performance wording lines ++ (play wording rest).2) := by
  obtain ⟨answer, hremaining, hyes⟩ := hencore
  have hkept : (firstSession wording lines).session.scene.shown.world.wording = wording :=
    wording_firstSession wording lines
  refine play_eq ?_
  rw [fst_offer, hremaining, ← List.map_cons, run_offering_of_yes _ hyes, hkept]

theorem play_of_no_encore (hlast : ∀ rest, ¬ Encore wording lines rest) :
    play wording lines = (.finished, performance wording lines) := by
  refine (play_eq ?_).trans (congrArg _ (List.append_nil _))
  obtain ⟨left, hremaining⟩ := exists_remaining wording lines
  rw [fst_offer, hremaining]
  cases hleft : lines.drop left with
  | nil => simp [run, feed, feedOffer]
  | cons answer rest =>
      have hrefusal : isRefusal answer = true := by
        rw [isRefusal_iff]
        by_contra hyes
        exact hlast rest ⟨answer, by rw [hremaining, hleft, List.map_cons], hyes⟩
      simp [run, feed, feedOffer, hrefusal, run_finished]

end Offer

/-- The wording that the program goes on with, as long as it goes on. -/
def wording? : Program → Option Wording
  | playing session => some session.scene.world.wording
  | offering scene => some scene.world.wording
  | finished => none
  | failed _ => none

theorem wording?_feed {program : Program} {event : Event} {wording : Wording}
    (hgoes : (program.feed event).1.wording? = some wording) :
    program.wording? = some wording := by
  cases program with
  | playing session =>
      rw [← hgoes, wording?, ← session.wording_feed event, feed, feedSession]
      cases hstage : (session.feed event).1.stage with
      | failed failure => simp [feed, feedSession, hstage, wording?] at hgoes
      | _ => simp [hstage, wording?, fst_offer, Scene.shown]
  | offering scene =>
      cases event with
      | line answer =>
          cases hrefusal : isRefusal answer with
          | true => simp [feed, feedOffer, hrefusal, wording?] at hgoes
          | false =>
              have hagain : feed (.offering scene) (.line answer) = newSession scene := by
                simp [feed, feedOffer, hrefusal]
              rw [hagain] at hgoes
              exact hgoes
      | interrupt => exact hgoes
      | endOfInput => cases hgoes
      | failure reason => cases hgoes
  | finished => cases hgoes
  | failed message => cases hgoes

theorem wording?_run {program : Program} {events : List Event} {wording : Wording}
    (hgoes : (program.run events).1.wording? = some wording) :
    program.wording? = some wording := by
  induction events generalizing program with
  | nil => exact hgoes
  | cons event rest ih => exact wording?_feed (ih hgoes)

/-! ## All sessions -/

/-- What is shown is one performance after the other. -/
theorem exists_performances (wording : Wording) (lines : List String) :
    ∃ inputs : List (List String),
      inputs.head? = some lines ∧ inputs.IsChain (Encore wording) ∧
      (∀ last ∈ inputs.getLast?, ∀ rest, ¬ Encore wording last rest) ∧
      play wording lines = (.finished, inputs.flatMap (performance wording)) := by
  induction hlength : lines.length using Nat.strong_induction_on generalizing lines with
  | _ length ih =>
      by_cases hencore : ∃ rest, Encore wording lines rest
      · obtain ⟨rest, hencore⟩ := hencore
        have hshorter : rest.length < length := by
          obtain ⟨answer, hremaining, _⟩ := hencore
          obtain ⟨left, hleft⟩ := exists_remaining wording lines
          have hlengths := congrArg List.length (hleft.symm.trans hremaining)
          simp only [List.length_map, List.length_drop, List.length_cons] at hlengths
          omega
        obtain ⟨inputs, hhead, hchain, hlast, hplay⟩ := ih rest.length hshorter rest rfl
        obtain ⟨others, rfl⟩ := List.head?_eq_some_iff.mp hhead
        refine ⟨lines :: rest :: others, rfl, List.isChain_cons_cons.mpr ⟨hencore, hchain⟩,
          ?_, ?_⟩
        · rwa [List.getLast?_cons_cons]
        · rw [play_of_encore hencore, hplay]
          simp
      · rw [not_exists] at hencore
        refine ⟨[lines], rfl, List.IsChain.singleton _, ?_, ?_⟩
        · rintro last hlast
          obtain rfl : lines = last := by simpa using hlast
          exact hencore
        · rw [play_of_no_encore hencore]
          simp

/-- A performance is what a program shows first that begins with these lines. -/
theorem performance_first (wording : Wording) (lines : List String) :
    performance wording lines <+: (play wording lines).2 := by
  by_cases hencore : ∃ rest, Encore wording lines rest
  · obtain ⟨rest, hencore⟩ := hencore
    rw [play_of_encore hencore]
    exact List.prefix_append _ _
  · rw [not_exists] at hencore
    exact ⟨[], by rw [play_of_no_encore hencore, List.append_nil]⟩

/-- Once the offer has been taken up, the program goes on as if it had just been started. -/
theorem play_append {wording : Wording} {before rest : List String} {answer : String}
    {offered : Scene} {shows : List Display}
    (hoffer : (start wording).1.run (before.map .line) = (.offering offered, shows))
    (hyes : ¬ StartsWithNo answer) :
    play wording (before ++ answer :: rest) =
      ((play wording rest).1, (start wording).2 ++ shows ++ (play wording rest).2) := by
  have hkept : offered.world.wording = wording := by
    have hgoes : ((start wording).1.run (before.map .line)).1.wording? =
        some offered.world.wording := by
      rw [hoffer]
      rfl
    exact (Option.some.inj (wording?_run hgoes)).symm
  have hrest := run_offering_of_yes offered hyes rest
  rw [hkept] at hrest
  rw [play_eq_run, List.map_append, List.append_assoc, run_append, hoffer, hrest,
    List.append_assoc]

end Program

theorem Display.printAll_append (colored : Bool) (displays more : List Display) :
    printAll colored (displays ++ more) = printAll colored displays ++ printAll colored more := by
  rw [printAll, List.map_append, String.join_append]
  rfl

theorem Display.printAll_flatMap {α : Type} (colored : Bool) (parts : List α)
    (displays : α → List Display) :
    printAll colored (parts.flatMap displays) =
      String.join (parts.map fun part => printAll colored (displays part)) := by
  induction parts with
  | nil => rfl
  | cons part rest ih =>
      rw [List.flatMap_cons, printAll_append, ih, List.map_cons, String.join_cons]

/-- **Every session stands on its own.** With any wording that can be loaded and any input, the
program finishes and leaves with a zero. Its output is put together from performances, the first of
which is on all lines of the input: each of the others is on the lines that are left after an answer
that is no refusal, and the last one meets no such answer. A performance is what a program that was
just started shows first on those lines. So an input that stops with such an answer, and is followed
by another, makes the program print what it has printed so far and then what it prints on the other
input alone. Nothing else comes through: whatever scene the last session has left, with any floor
plan, whereabouts, turns, ending, hazards and narration that was never shown, the program that takes
the answer goes on as it would from its start. -/
theorem launch_encores {surroundings : Surroundings} {wording : Wording}
    (hloaded : surroundings.wording = .ok wording) :
    (∀ input : List UInt8, ∃ inputs : List (List String),
      inputs.head? = some (Text.Lines.ofBytes input) ∧
      inputs.IsChain (Program.Encore wording) ∧
      (∀ last ∈ inputs.getLast?, ∀ rest, ¬ Program.Encore wording last rest) ∧
      (Program.play wording (Text.Lines.ofBytes input)).1 = .finished ∧
      launch surroundings input = ⟨0, String.join (inputs.map fun lines =>
        Display.printAll surroundings.colored (Program.performance wording lines))⟩) ∧
    (∀ lines, Program.performance wording lines <+: (Program.play wording lines).2) ∧
    (∀ (used : List UInt8) (before : List String) (answer : String) (offered : Scene)
      (shows : List Display), used.getLast? = some 0x0A →
      Text.Lines.ofBytes used = before ++ [answer] →
      (Program.start wording).1.run (before.map .line) = (.offering offered, shows) →
      ¬ StartsWithNo answer →
      ∀ more : List UInt8, (launch surroundings (used ++ more)).output =
        Display.printAll surroundings.colored ((Program.start wording).2 ++ shows) ++
          (launch surroundings more).output) ∧
    (∀ left : Scene, left.world.wording = wording →
      ∀ (answer : String) (lines : List String), ¬ StartsWithNo answer →
      (Program.offering left).run ((answer :: lines).map .line ++ [.endOfInput, .endOfInput]) =
        Program.play wording lines) := by
  have hlaunch : ∀ input, launch surroundings input =
      ⟨(Program.play wording (Text.Lines.ofBytes input)).1.exitCode,
        Display.printAll surroundings.colored
          (Program.play wording (Text.Lines.ofBytes input)).2⟩ := by
    intro input
    rw [launch, hloaded]
  refine ⟨?_, Program.performance_first wording, ?_, ?_⟩
  · intro input
    obtain ⟨inputs, hhead, hchain, hlast, hplay⟩ :=
      Program.exists_performances wording (Text.Lines.ofBytes input)
    refine ⟨inputs, hhead, hchain, hlast, by rw [hplay], ?_⟩
    rw [hlaunch, hplay, Display.printAll_flatMap]
    rfl
  · intro used before answer offered shows hended hused hoffer hyes more
    have hlines : Text.Lines.ofBytes (used ++ more) =
        before ++ answer :: Text.Lines.ofBytes more := by
      rw [Text.Lines.ofBytes_append hended, hused, List.append_assoc, List.singleton_append]
    rw [hlaunch, hlaunch, hlines, Program.play_append hoffer hyes, Display.printAll_append]
  · intro left hwording answer lines hyes
    rw [Program.run_offering_of_yes left hyes, hwording]

/-- Whoever quits and answers the offer with a blank line begins all over again; and so does whoever
has lost a long game by candlelight, with the panels open and something left to be shown. -/
theorem launch_encores_blank :
    ∃ surroundings wording, Wording.shipped = .ok wording ∧ surroundings.wording = .ok wording ∧
      (launch surroundings []).exitCode = 0 ∧
      (∃ shown, ∀ more : List UInt8,
        (launch surroundings ([0x71, 0x75, 0x69, 0x74, 0x0A, 0x79, 0x0A, 0x0A] ++ more)).output =
          shown ++ (launch surroundings more).output) ∧
      (Program.offering
        { world :=
            { HiddenWay.panels.foldl World.reveal (.atStart wording) with
              turns := 21, ending := some .lost, candleIsLit := true }
          waiting := [.darkness] }).run
        [.line "", .line "look", .endOfInput, .endOfInput] = Program.play wording ["look"] := by
  obtain ⟨wording, hshipped⟩ := Wording.exists_shipped
  obtain ⟨surroundings, hloaded⟩ : ∃ surroundings : Surroundings,
      surroundings.wording = .ok wording := ⟨⟨fun _ => .nothing, none, none, false⟩, hshipped⟩
  have hquit : Command.parse? "quit" = some .quit := by decide +kernel
  have hblank : ¬ StartsWithNo "" := by
    rintro ⟨c, hc, _⟩
    cases hc
  have hused : Text.Lines.ofBytes [0x71, 0x75, 0x69, 0x74, 0x0A, 0x79, 0x0A, 0x0A] =
      ["quit", "y"] ++ [""] := by
    decide +kernel
  have hasks : (⟨.atStart wording, .command⟩ : Session).feed (.line "quit") =
      (⟨.atStart wording, .confirmation⟩, (Scene.atStart wording).asks) := by
    simp [Session.feed, Session.feedCommand, World.hear_of_quit hquit, Scene.shown, Scene.atStart]
  have hquits : ((⟨.atStart wording, .confirmation⟩ : Session).feed (.line "y")).1.stage =
      .ended .quit := by
    have hending : ((World.atStart wording).leave true).settle.1.ending = some .quit :=
      Act.ending_settle_of_some rfl rfl
    have hyes : (Event.line "y").confirmsQuit = .ok true := by decide
    simp [Session.feed, Session.feedConfirmation, hyes, Session.proceed, Scene.settle,
      Scene.atStart, hending]
  have hfirst : (Program.playing ⟨.atStart wording, .command⟩).feed (.line "quit") =
      (.playing ⟨.atStart wording, .confirmation⟩, (Scene.atStart wording).asks) := by
    rw [Program.feed_playing_of_open (by rw [hasks]; rfl), hasks]
  have hoffer : (Program.start wording).1.run (["quit", "y"].map .line) =
      (((Program.playing ⟨.atStart wording, .confirmation⟩).feed (.line "y")).1,
        (Scene.atStart wording).asks ++
          (((Program.playing ⟨.atStart wording, .confirmation⟩).feed (.line "y")).2 ++ [])) := by
    rw [Program.start_eq, List.map_cons, Program.run_cons, hfirst]
    rfl
  rw [Program.feed_playing_of_ended hquits, Program.fst_offer] at hoffer
  obtain ⟨hfinishes, _, hsplit, hagain⟩ := launch_encores hloaded
  obtain ⟨_, _, _, _, _, hexit⟩ := hfinishes []
  have hshown := hsplit _ _ _ _ _ rfl hused hoffer hblank
  exact ⟨surroundings, wording, hshipped, hloaded, congrArg Launch.exitCode hexit,
    ⟨_, hshown⟩, hagain _ rfl "" ["look"] hblank⟩

end CastleEscape
