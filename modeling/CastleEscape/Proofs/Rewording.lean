import CastleEscape.Proofs.Rounds

/-!
# The same game in other words

A world that is put into other words is the same world with another wording (`World.reword`). As
long as the items have the same names, but for case, the game goes on in the same way: every act,
every line and every session leads to the same, put into those words. There is one lemma for each
function of the game, and each says that it makes no difference whether rewording comes before it
or after it.

What is shown is the only thing that differs, and it differs only in how it is put: the cues are the
same (`Cue`, `ShownAlike`).
-/

namespace CastleEscape

/-- The items have the same names, but for case. -/
def Wording.NamesAlike (wording other : Wording) : Prop :=
  ∀ item, Text.lowerCase (wording.item item) = Text.lowerCase (other.item item)

theorem Wording.itemNamed?_congr {wording other : Wording} (hnames : wording.NamesAlike other)
    (typed : String) : other.itemNamed? typed = wording.itemNamed? typed := by
  simp only [itemNamed?, hnames _]

/-! ## Other words for a world and all that comes of it -/

def World.reword (world : World) (wording : Wording) : World := { world with wording := wording }

def Act.reword (act : Act) (wording : Wording) : Act :=
  { act with world := act.world.reword wording }

def Reaction.reword (wording : Wording) : Reaction → Reaction
  | .settled world speech => .settled (world.reword wording) speech
  | .asksToQuit => .asksToQuit

def Scene.reword (scene : Scene) (wording : Wording) : Scene :=
  { scene with world := scene.world.reword wording }

def Session.reword (session : Session) (wording : Wording) : Session :=
  { session with scene := session.scene.reword wording }

theorem Act.reword_ite (p : Prop) [Decidable p] (act other : Act) (wording : Wording) :
    (if p then act else other).reword wording =
      if p then act.reword wording else other.reword wording :=
  apply_ite (reword · wording) p act other

namespace World

variable {world : World} {wording : Wording}

@[simp] theorem wording_reword : (world.reword wording).wording = wording := rfl

@[simp] theorem plan_reword : (world.reword wording).plan = world.plan := rfl

@[simp] theorem whereabouts_reword : (world.reword wording).whereabouts = world.whereabouts := rfl

@[simp] theorem room_reword : (world.reword wording).room = world.room := rfl

@[simp] theorem ending_reword : (world.reword wording).ending = world.ending := rfl

@[simp] theorem auntieIsTied_reword :
    (world.reword wording).auntieIsTied = world.auntieIsTied := rfl

@[simp] theorem isWithinReach_reword (item : Item) :
    (world.reword wording).isWithinReach item = world.isWithinReach item := rfl

@[simp] theorem missingCompanion?_reword :
    (world.reword wording).missingCompanion? = world.missingCompanion? := rfl

/-! ## Acts -/

theorem go_reword (target : Option String) :
    (world.reword wording).go target = (world.go target).reword wording := by
  unfold go
  cases target.bind heading? with
  | none => rfl
  | some direction =>
      simp only [plan_reword, room_reword, missingCompanion?_reword]
      cases world.plan.exit? world.room direction with
      | none => rfl
      | some destination =>
          simp only [Act.reword_ite]
          cases world.missingCompanion? <;> rfl

theorem useItem_reword (item : Item) :
    (world.reword wording).useItem item = (world.useItem item).reword wording := by
  cases item with
  | key => simp only [useItem, room_reword, Act.reword_ite]; rfl
  | knife => simp only [useItem, auntieIsTied_reword, isWithinReach_reword, Act.reword_ite]; rfl
  | matchbox => simp only [useItem, isWithinReach_reword, Act.reword_ite]; rfl
  | steelBar => simp only [useItem, room_reword, whereabouts_reword, Act.reword_ite]; rfl
  | _ => rfl

section Names

variable (hnames : world.wording.NamesAlike wording)

include hnames

theorem find_reword (typed : String) (scope : Scope) :
    (world.reword wording).find typed scope = world.find typed scope := by
  unfold find
  rw [wording_reword, Wording.itemNamed?_congr hnames]
  rfl

theorem findHere_reword (typed : String) :
    (world.reword wording).findHere typed = world.findHere typed :=
  find_reword hnames typed _

theorem take_reword (object : Option String) :
    (world.reword wording).take object = (world.take object).reword wording := by
  unfold take
  cases object with
  | none => rfl
  | some typed =>
      simp only [findHere_reword hnames]
      cases world.findHere typed with
      | error => rfl
      | ok item =>
          simp only [whereabouts_reword]
          rw [Act.reword_ite]
          cases world.whereabouts.pickUp? item <;> rfl

theorem drop_reword (object : Option String) :
    (world.reword wording).drop object = (world.drop object).reword wording := by
  unfold drop
  cases object with
  | none => rfl
  | some typed =>
      simp only [find_reword hnames]
      cases world.find typed .carried <;> rfl

theorem examine_reword (object : Option String) :
    (world.reword wording).examine object = (world.examine object).reword wording := by
  unfold examine
  cases object with
  | none => rfl
  | some typed =>
      have hhere : (world.reword wording).isFireplaceHere typed = world.isFireplaceHere typed :=
        rfl
      simp only [hhere, findHere_reword hnames, auntieIsTied_reword]
      rw [Act.reword_ite]
      cases world.findHere typed with
      | error => rfl
      | ok item => cases item <;> rfl

theorem use_reword (object : Option String) :
    (world.reword wording).use object = (world.use object).reword wording := by
  unfold use
  cases object with
  | none => rfl
  | some typed =>
      simp only [findHere_reword hnames]
      cases world.findHere typed with
      | error => rfl
      | ok item => exact useItem_reword item

end Names

end World

/-! ## Settling and hearing -/

theorem Act.settle_reword (act : Act) (wording : Wording) :
    (act.reword wording).settle = (act.settle.1.reword wording, act.settle.2) := by
  refine Prod.ext ?_ ?_
  · show (act.reword wording).settle.1 = act.settle.1.reword wording
    rw [settle_eq, settle_eq]
    rfl
  · show (act.reword wording).settle.2 = act.settle.2
    rw [speech_settle_eq, speech_settle_eq]
    rfl

/-- A line is heard in the same way. -/
theorem World.hear_reword {world : World} {wording : Wording}
    (hnames : world.wording.NamesAlike wording) (line : String) :
    (world.reword wording).hear line = (world.hear line).reword wording := by
  have hsettle : ∀ act : Act,
      respond.settle (act.reword wording) = (respond.settle act).reword wording := by
    intro act
    rw [respond.settle, act.settle_reword]
    rfl
  unfold hear
  cases Command.parse? line with
  | none => rfl
  | some command =>
      cases command with
      | help => exact hsettle world.showHelp
      | inventory => exact hsettle world.listInventory
      | look => exact hsettle world.look
      | go target => exact (congrArg _ (go_reword target)).trans (hsettle _)
      | take object => exact (congrArg _ (take_reword hnames object)).trans (hsettle _)
      | examine object => exact (congrArg _ (examine_reword hnames object)).trans (hsettle _)
      | use object => exact (congrArg _ (use_reword hnames object)).trans (hsettle _)
      | drop object => exact (congrArg _ (drop_reword hnames object)).trans (hsettle _)
      | quit => rfl
      | unknown => rfl

/-! ## What is shown -/

/-- Something that is shown, before it is put into words. -/
inductive Cue where
  | tell (narration : Narration)
  | ask (message : Message)
  deriving DecidableEq

def Cue.displays (wording : Wording) : Cue → List Display
  | tell narration => Display.ofNarration wording [narration]
  | ask message => [.prompt (wording.message message)]

/-- The same is shown in two wordings. -/
def ShownAlike (wording other : Wording) (shows more : List Display) : Prop :=
  ∃ cues : List Cue, shows = cues.flatMap (Cue.displays wording) ∧
    more = cues.flatMap (Cue.displays other)

namespace ShownAlike

variable {wording other : Wording}

theorem nil : ShownAlike wording other [] [] := ⟨[], rfl, rfl⟩

theorem append {shows shows' more more' : List Display}
    (hshows : ShownAlike wording other shows shows') (hmore : ShownAlike wording other more more') :
    ShownAlike wording other (shows ++ more) (shows' ++ more') := by
  obtain ⟨cues, rfl, rfl⟩ := hshows
  obtain ⟨rest, rfl, rfl⟩ := hmore
  exact ⟨cues ++ rest, List.flatMap_append.symm, List.flatMap_append.symm⟩

theorem ask (message : Message) :
    ShownAlike wording other [.prompt (wording.message message)]
      [.prompt (other.message message)] :=
  ⟨[.ask message], by simp [Cue.displays], by simp [Cue.displays]⟩

theorem tell (speech : List Narration) :
    ShownAlike wording other (Display.ofNarration wording speech)
      (Display.ofNarration other speech) := by
  have hdisplays : ∀ wording : Wording,
      Display.ofNarration wording speech = (speech.map Cue.tell).flatMap (Cue.displays wording) := by
    intro wording
    simp [Display.ofNarration, Narration.allLines, Cue.displays, List.flatMap_map,
      List.map_flatMap]
  exact ⟨speech.map .tell, hdisplays wording, hdisplays other⟩

/-- The player is asked just as often. -/
theorem length_prompts {shows more : List Display} (hshown : ShownAlike wording other shows more)
    (colored : Bool) :
    (Display.prompts colored more).length = (Display.prompts colored shows).length := by
  obtain ⟨cues, rfl, rfl⟩ := hshown
  induction cues with
  | nil => rfl
  | cons cue rest ih =>
      simp only [List.flatMap_cons, Display.prompts_append, List.length_append, ih]
      cases cue with
      | tell narration => simp only [Cue.displays, Display.prompts_ofNarration]
      | ask message => rfl

end ShownAlike

namespace Scene

variable {scene : Scene} {wording : Wording}

/-- Two exchanges that differ in their words alone. -/
structure Exchange.Rewords (wording other : Wording) (exchange more : Exchange) : Prop where
  scene_eq : more.scene = exchange.scene.reword other
  failure_eq : more.failure = exchange.failure
  shown : ShownAlike wording other exchange.shows more.shows

@[simp] theorem world_reword : (scene.reword wording).world = scene.world.reword wording := rfl

theorem settle_reword (act : Act) :
    (scene.reword wording).settle (act.reword wording) = (scene.settle act).reword wording := by
  unfold settle
  rw [act.settle_reword]
  rfl

theorem shows_reword :
    ShownAlike scene.world.wording wording scene.shows (scene.reword wording).shows :=
  ShownAlike.tell scene.waiting

theorem asks_reword :
    ShownAlike scene.world.wording wording scene.asks (scene.reword wording).asks :=
  shows_reword.append (.ask .quitConfirm)

theorem hear_reword (hnames : scene.world.wording.NamesAlike wording) (line : String)
    (answer : Event) :
    Exchange.Rewords scene.world.wording wording (scene.hear line answer)
      ((scene.reword wording).hear line answer) := by
  unfold hear
  rw [world_reword, World.hear_reword hnames]
  cases scene.world.hear line with
  | settled world speech => exact ⟨rfl, rfl, .nil⟩
  | asksToQuit =>
      cases hanswer : answer.confirmsQuit with
      | ok confirmed =>
          refine ⟨?_, by simp [Reaction.reword], by simpa [Reaction.reword] using asks_reword⟩
          exact @settle_reword scene.shown wording (scene.world.leave confirmed)
      | error failure =>
          exact ⟨rfl, by simp [Reaction.reword], by simpa [Reaction.reword] using asks_reword⟩

end Scene

/-! ## One line after the other -/

/-- Whether the player is asked to answer this line. -/
def World.wantsAnswer (world : World) (line : String) : Bool :=
  match world.hear line with
  | .settled _ _ => false
  | .asksToQuit => true

namespace Scene

/-- Hears lines out, one after the other, with what each of them comes to. The answers are taken from
the events, of which the last component has what is left. -/
def hearAll (scene : Scene) : List String → List Event → List Exchange × List Event
  | [], events => ([], events)
  | line :: lines, events =>
    let exchange := scene.hear line (events.headD .endOfInput)
    let (more, left) :=
      exchange.scene.hearAll lines (if scene.world.wantsAnswer line then events.tail else events)
    (exchange :: more, left)

variable {scene : Scene} {wording : Wording}

theorem hearAll_reword (hnames : scene.world.wording.NamesAlike wording) (lines : List String)
    (events : List Event) :
    List.Forall₂ (Exchange.Rewords scene.world.wording wording) (scene.hearAll lines events).1
        ((scene.reword wording).hearAll lines events).1 ∧
      ((scene.reword wording).hearAll lines events).2 = (scene.hearAll lines events).2 := by
  induction lines generalizing scene events with
  | nil => exact ⟨.nil, rfl⟩
  | cons line lines ih =>
      have hasks : (scene.reword wording).world.wantsAnswer line = scene.world.wantsAnswer line := by
        unfold World.wantsAnswer
        rw [world_reword, World.hear_reword hnames]
        cases scene.world.hear line <;> rfl
      have hone := hear_reword hnames line (events.headD .endOfInput)
      have hwording := scene.wording_hear line (events.headD .endOfInput)
      rw [← hwording] at hnames
      obtain ⟨hmore, hleft⟩ :=
        ih hnames (if scene.world.wantsAnswer line then events.tail else events)
      rw [hwording] at hmore
      simp only [hearAll, hasks, hone.scene_eq]
      exact ⟨.cons hone hmore, hleft⟩

end Scene

/-! ## Sessions -/

namespace Session

variable {session : Session} {wording : Wording}

theorem proceed_reword (scene : Scene) :
    (proceed (scene.reword wording)).1 = (proceed scene).1.reword wording ∧
      ShownAlike scene.world.wording wording (proceed scene).2
        (proceed (scene.reword wording)).2 := by
  cases hended : scene.world.ending with
  | none =>
      have hreword : (scene.reword wording).world.ending = none := hended
      rw [proceed_of_open hended, proceed_of_open hreword]
      exact ⟨rfl, Scene.shows_reword.append (.ask .prompt)⟩
  | some ending =>
      have hreword : (scene.reword wording).world.ending = some ending := hended
      rw [proceed_of_ending hended, proceed_of_ending hreword]
      exact ⟨rfl, Scene.shows_reword⟩

/-- One event is taken in the same way. -/
theorem feed_reword (hnames : session.scene.world.wording.NamesAlike wording) (event : Event) :
    ((session.reword wording).feed event).1 = (session.feed event).1.reword wording ∧
      ShownAlike session.scene.world.wording wording (session.feed event).2
        ((session.reword wording).feed event).2 := by
  obtain ⟨scene, stage⟩ := session
  cases stage with
  | command =>
      cases event with
      | line text =>
          simp only [feed, reword, feedCommand, Scene.world_reword, World.hear_reword hnames]
          cases hhear : scene.world.hear text with
          | settled world speech =>
              rw [← Scene.wording_of_settled hhear]
              exact @proceed_reword wording ⟨world, scene.waiting ++ speech⟩
          | asksToQuit => exact ⟨rfl, Scene.asks_reword⟩
      | endOfInput => exact @proceed_reword wording ⟨scene.world.finish .quit, scene.waiting⟩
      | interrupt => exact proceed_reword scene
      | failure reason => exact ⟨rfl, .nil⟩
  | confirmation =>
      simp only [feed, reword, feedConfirmation]
      cases event.confirmsQuit with
      | ok confirmed =>
          have hsettle := @Scene.settle_reword scene wording (scene.world.leave confirmed)
          have hproceed := @proceed_reword wording (scene.settle (scene.world.leave confirmed))
          rw [← hsettle] at hproceed
          rw [← show _ = scene.world.wording from Act.wording_settle (scene.world.leave confirmed)]
          exact hproceed
      | error failure => exact ⟨rfl, .nil⟩
  | ended ending => exact ⟨rfl, .nil⟩
  | failed failure => exact ⟨rfl, .nil⟩

theorem run_reword (hnames : session.scene.world.wording.NamesAlike wording)
    (events : List Event) :
    ((session.reword wording).run events).session = (session.run events).session.reword wording ∧
      ((session.reword wording).run events).remaining = (session.run events).remaining ∧
      ShownAlike session.scene.world.wording wording (session.run events).shows
        ((session.reword wording).run events).shows := by
  induction events generalizing session with
  | nil =>
      obtain ⟨hnext, hshown⟩ := feed_reword hnames .endOfInput
      exact ⟨hnext, rfl, hshown⟩
  | cons event rest ih =>
      have hsame : (session.reword wording).isOpen = session.isOpen := rfl
      obtain ⟨hnext, hshown⟩ := feed_reword hnames event
      have hwording := session.wording_feed event
      rw [← hwording] at hnames
      obtain ⟨hlast, hremaining, hmore⟩ := ih hnames
      rw [hwording] at hmore
      simp only [run, hsame, hnext]
      cases session.isOpen with
      | true => exact ⟨hlast, hremaining, hshown.append hmore⟩
      | false => exact ⟨rfl, rfl, .nil⟩

/-- A whole session is played in the same way. -/
theorem play_reword {scene : Scene} (hnames : scene.world.wording.NamesAlike wording)
    (events : List Event) :
    (play (scene.reword wording) events).session =
        (play scene events).session.reword wording ∧
      (play (scene.reword wording) events).remaining = (play scene events).remaining ∧
      ShownAlike scene.world.wording wording (play scene events).shows
        (play (scene.reword wording) events).shows := by
  obtain ⟨hlast, hremaining, hmore⟩ := @run_reword ⟨scene, .command⟩ wording hnames events
  exact ⟨hlast, hremaining, (ShownAlike.ask .prompt).append hmore⟩

end Session

/-- **Wording cannot change the game.** In two wordings in which the items have the same names, but
for case, the same lines lead to the same, one by one: the worlds differ in nothing but their
wording, the same waits to be told, the same has been shown in its own words, with as many prompts,
the same failures come up and the same events are left. The same holds of a session with every
single event, and of a whole session whatever events are to come. -/
theorem Scene.game_of_namesAlike (scene : Scene) (wording : Wording)
    (hnames : scene.world.wording.NamesAlike wording) :
    (∀ (lines : List String) (events : List Event),
      let exchanges := scene.hearAll lines events
      let more := (scene.reword wording).hearAll lines events
      List.Forall₂ (Exchange.Rewords scene.world.wording wording) exchanges.1 more.1 ∧
      (∀ colored, more.1.map (fun exchange => (Display.prompts colored exchange.shows).length) =
        exchanges.1.map fun exchange => (Display.prompts colored exchange.shows).length) ∧
      more.2 = exchanges.2) ∧
    (∀ (stage : Stage) (event : Event),
      let step := Session.feed ⟨scene, stage⟩ event
      let more := Session.feed ⟨scene.reword wording, stage⟩ event
      more.1 = step.1.reword wording ∧ ShownAlike scene.world.wording wording step.2 more.2) ∧
    (∀ events : List Event,
      let report := Session.play scene events
      let more := Session.play (scene.reword wording) events
      more.session = report.session.reword wording ∧ more.remaining = report.remaining ∧
      ShownAlike scene.world.wording wording report.shows more.shows ∧
      ∀ colored, (Display.prompts colored more.shows).length =
        (Display.prompts colored report.shows).length) := by
  refine ⟨?_, ?_, ?_⟩
  · intro lines events exchanges more
    obtain ⟨hexchanges, hleft⟩ := hearAll_reword hnames lines events
    refine ⟨hexchanges, fun colored => ?_, hleft⟩
    rw [← List.forall₂_eq_eq_eq, List.forall₂_map_left_iff, List.forall₂_map_right_iff]
    exact hexchanges.flip.imp fun _ _ hone => hone.shown.length_prompts colored
  · intro stage event
    exact @Session.feed_reword ⟨scene, stage⟩ wording hnames event
  · intro events report more
    obtain ⟨hlast, hremaining, hshown⟩ := Session.play_reword hnames events
    exact ⟨hlast, hremaining, hshown, hshown.length_prompts⟩

/-- The same names, and not a single closer look. -/
def Wording.withoutCloseUps (wording : Wording) : Wording where
  script := { wording.script with closeUps := .empty }
  faultless := by
    obtain ⟨hhelp, hrooms, hitems, hmessages, hkeys, hnames⟩ :=
      Script.faults_eq_nil_iff.mp wording.faultless
    refine Script.faults_eq_nil_iff.mpr ⟨hhelp, hrooms, hitems, hmessages, ?_, hnames⟩
    simp only [Script.keyFaults, List.append_eq_nil_iff] at hkeys ⊢
    obtain ⟨⟨⟨hroomKeys, hitemKeys⟩, _⟩, hmessageKeys⟩ := hkeys
    exact ⟨⟨⟨hroomKeys, hitemKeys⟩, rfl⟩, hmessageKeys⟩

/-- Without closer looks to be read, the game is the one that comes with the program. -/
theorem Scene.game_of_namesAlike_withoutCloseUps :
    ∃ wording other : Wording, Wording.shipped = .ok wording ∧ other = wording.withoutCloseUps ∧
      wording.NamesAlike other ∧
      (Session.play (.atStart other) [.line "examine key", .line "quit", .interrupt]).remaining =
        (Session.play (.atStart wording)
          [.line "examine key", .line "quit", .interrupt]).remaining := by
  obtain ⟨wording, hshipped⟩ := Wording.exists_shipped
  have hnames : wording.NamesAlike wording.withoutCloseUps := fun _ => rfl
  obtain ⟨_, _, hplay⟩ :=
    (Scene.atStart wording).game_of_namesAlike wording.withoutCloseUps hnames
  exact ⟨wording, _, hshipped, rfl, hnames,
    (hplay [.line "examine key", .line "quit", .interrupt]).2.1⟩

end CastleEscape
