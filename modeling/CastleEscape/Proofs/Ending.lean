import CastleEscape.Proofs.Deed
import CastleEscape.Proofs.Parsing
import CastleEscape.Proofs.ShippedWording

/-!
# How a session ends

An open session has three ways to its ending: the gate, the wine and the wish to quit. A line that
takes none of them can still be the last one, when night falls on a player without a light. The
main statement says exactly which line leads to which ending, in any world and whatever is answered
to the question about quitting.

That a line leads there is read off its act; that nothing else does comes from the fact that there
are no other deeds.
-/

namespace CastleEscape

/-- A line that nothing comes of: it is blank, or it is not understood. -/
def Command.IsIgnored (line : String) : Prop :=
  Text.isBlankText line = true ∨ parse? line = some .unknown

namespace World

variable {world : World} {line : String} {answer : Event}

/-! ## The acts of the lines that end a session -/

/-- What a line that tries the gate says of the way that it goes. -/
theorem TriesGate.exists_go (htries : world.TriesGate line) :
    ∃ target destination, Command.parse? line = some (.go (some target)) ∧
      heading? target = some .south ∧ world.plan.exit? world.room .south = some destination ∧
      Gate.isCrossedBy world.room .south = true := by
  obtain ⟨⟨target, word, hparse, hword, hdirection⟩, hroom, hexit⟩ := htries
  obtain ⟨destination, hdestination⟩ := Option.isSome_iff_exists.mp hexit
  have hheading : heading? target = some .south := by
    simp [heading?, hword, hdirection]
  rw [hroom]
  exact ⟨target, destination, hparse, hheading, hdestination, rfl⟩

theorem missingCompanion?_eq_none
    (hall : ∀ item ∈ [Item.skye, .auntie, .cat, .doll], world.IsAtGate item) :
    world.missingCompanion? = none := by
  refine List.find?_eq_none.mpr fun item hitem => ?_
  have hreach : world.whereabouts.isWithinReach item Gate.room = true :=
    Whereabouts.isWithinReach_iff.mpr (hall item hitem)
  simp [hreach]

theorem act?_of_walksOut (hout : world.WalksOut line) :
    world.act? ⟨line, answer⟩ = some ⟨world, [.finale .won], ⟨false, some .won⟩⟩ := by
  obtain ⟨target, destination, hparse, hheading, hexit, hgate⟩ := hout.1.exists_go
  simp only [act?, hparse,
    go_of_all_there hheading hexit hgate (missingCompanion?_eq_none hout.2)]

theorem act?_of_missing {item : Item} (htries : world.TriesGate line)
    (hmissing : world.missingCompanion? = some item) :
    world.act? ⟨line, answer⟩ = some (world.refuse (Gate.refusal item)) := by
  obtain ⟨target, destination, hparse, hheading, hexit, hgate⟩ := htries.exists_go
  simp only [act?, hparse, go_of_missing hheading hexit hgate hmissing]

theorem act?_of_quits (hquits : Input.Quits ⟨line, answer⟩) :
    world.act? ⟨line, answer⟩ = some (world.leave true) := by
  obtain ⟨hparse, hanswer⟩ := hquits
  have hconfirms : answer.confirmsQuit = .ok true := Event.confirmsQuit_iff.mpr hanswer
  simp only at hparse
  simp only [act?, hparse, hconfirms]

/-! ## Lines without an act -/

theorem not_isIgnored_of_act? {act : Act} (hact : world.act? ⟨line, answer⟩ = some act) :
    ¬ Command.IsIgnored line := by
  rintro (hblank | hunknown)
  · simp [act?, Command.parse?_eq_none_iff.mpr hblank] at hact
  · simp [act?, hunknown] at hact

/-- A line that something comes of has an act, if the answer to it can be read. -/
theorem exists_act? {scene : Scene} (hread : (scene.hear line answer).failure = none)
    (hline : ¬ Command.IsIgnored line) :
    ∃ act, scene.world.act? ⟨line, answer⟩ = some act := by
  rw [Command.IsIgnored, ← Command.parse?_eq_none_iff, not_or] at hline
  rw [← Option.isSome_iff_exists]
  cases hparse : Command.parse? line with
  | none => exact absurd hparse hline.1
  | some command =>
      cases command with
      | unknown => exact absurd hparse hline.2
      | quit =>
          cases hanswer : answer.confirmsQuit with
          | ok confirmed => simp [act?, hparse, hanswer]
          | error failure =>
              simp [Scene.hear, World.hear, hparse, World.respond, hanswer] at hread
      | _ => simp [act?, hparse]

/-! ## Which ending -/

theorem leadsTo_iff {ending : Ending} :
    world.LeadsTo ⟨line, answer⟩ ending ↔
      ∃ act, world.act? ⟨line, answer⟩ = some act ∧ act.outcome.ending = some ending := by
  constructor
  · intro hleads
    cases ending with
    | won => exact ⟨_, act?_of_walksOut hleads, rfl⟩
    | lost => exact ⟨_, act?_of_uses hleads, rfl⟩
    | quit => exact ⟨_, act?_of_quits hleads, rfl⟩
  · rintro ⟨act, hact, hending⟩
    exact (deed_of_act? hact).leadsTo hending

/-- Night falls on the player after this line, which has not ended the session itself. -/
def IsOvertaken (world : World) (line : String) (answer : Event) : Prop :=
  ¬ Command.IsIgnored line ∧ (∀ ending, ¬ world.LeadsTo ⟨line, answer⟩ ending) ∧
    (world.next ⟨line, answer⟩).turns = 20 ∧
    world.candleIsLit = false ∧ ¬ world.LightsCandle line

/-- Night falls on an act that does not end the session just when the player is overtaken by it. -/
theorem isBenighted_iff {act : Act} (hact : world.act? ⟨line, answer⟩ = some act)
    (houtcome : act.outcome.ending = none) :
    act.isBenighted = true ↔ world.IsOvertaken line answer := by
  have hturns : (world.next ⟨line, answer⟩).turns = act.turnsAfter := by
    rw [next_of_act? hact, Act.turns_settle]
  have hleads : ∀ ending, ¬ world.LeadsTo ⟨line, answer⟩ ending := by
    intro ending hleads
    obtain ⟨other, hother, hending⟩ := leadsTo_iff.mp hleads
    rw [hact, Option.some.injEq] at hother
    subst hother
    simp [houtcome] at hending
  have hdark : act.world.candleIsLit = false ↔
      world.candleIsLit = false ∧ ¬ world.LightsCandle line := by
    rw [← Bool.not_eq_true, candleIsLit_of_act? hact, not_or, Bool.not_eq_true]
  simp only [Act.isBenighted, Bool.and_eq_true, beq_iff_eq, Bool.not_eq_true', hdark,
    IsOvertaken, hturns]
  constructor
  · rintro ⟨hnight, hdark⟩
    exact ⟨not_isIgnored_of_act? hact, hleads, hnight, hdark⟩
  · rintro ⟨_, _, hnight, hdark⟩
    exact ⟨hnight, hdark⟩

/-- The ending of an open session after one line, whichever ending it is. -/
theorem ending_next_iff {scene : Scene} (hopen : scene.world.ending = none)
    (hread : (scene.hear line answer).failure = none) {ending : Ending} :
    (scene.world.next ⟨line, answer⟩).ending = some ending ↔
      scene.world.LeadsTo ⟨line, answer⟩ ending ∨
        ending = .lost ∧ scene.world.IsOvertaken line answer := by
  cases hact : scene.world.act? ⟨line, answer⟩ with
  | none =>
      have hignored : Command.IsIgnored line := by
        by_contra hline
        obtain ⟨act, hsome⟩ := exists_act? hread hline
        simp [hact] at hsome
      simp [next_of_act?_eq_none hact, hopen, leadsTo_iff, hact, IsOvertaken, hignored]
  | some act =>
      rw [leadsTo_iff, ending_next_of_act? hopen hact]
      simp only [hact, Option.some.injEq, exists_eq_left']
      cases houtcome : act.outcome.ending with
      | none =>
          rw [Option.none_or, ← isBenighted_iff hact houtcome]
          by_cases hdark : act.isBenighted = true <;> simp [hdark, eq_comm]
      | some own =>
          have hleads : scene.world.LeadsTo ⟨line, answer⟩ own :=
            leadsTo_iff.mpr ⟨act, hact, houtcome⟩
          rw [Option.some_or]
          constructor
          · exact Or.inl
          · rintro (hown | ⟨_, _, hnot, _⟩)
            · exact hown
            · exact absurd hleads (hnot own)

/-! ## The gate -/

/-- The first of the companions who is not at the gate is the one who is missed. -/
theorem missingCompanion?_of_first {before rest : List (Item × Message)} {item : Item}
    {message : Message}
    (horder : [(Item.skye, Message.needSkye), (.auntie, .needAuntie), (.cat, .needCat),
      (.doll, .needDoll)] = before ++ (item, message) :: rest)
    (hbefore : ∀ other ∈ before, world.IsAtGate other.1) (hmissing : ¬ world.IsAtGate item) :
    world.missingCompanion? = some item ∧ Gate.refusal item = message := by
  have hpairs : Gate.companions.map (fun item => (item, Gate.refusal item)) =
      before ++ (item, message) :: rest := horder
  have hcompanions : Gate.companions = before.map Prod.fst ++ item :: rest.map Prod.fst := by
    have hfst := congrArg (List.map Prod.fst) hpairs
    simpa [Function.comp_def] using hfst
  constructor
  · have hreach : world.whereabouts.isWithinReach item Gate.room = false :=
      Bool.eq_false_iff.mpr fun hreach => hmissing (Whereabouts.isWithinReach_iff.mp hreach)
    refine List.find?_eq_some_iff_append.mpr ⟨by simp [hreach], _, _, hcompanions, ?_⟩
    intro other hother
    obtain ⟨pair, hpair, rfl⟩ := List.mem_map.mp hother
    have hthere : world.whereabouts.isWithinReach pair.1 Gate.room = true :=
      Whereabouts.isWithinReach_iff.mpr (hbefore pair hpair)
    simp [hthere]
  · have hmem : (item, message) ∈ Gate.companions.map fun item => (item, Gate.refusal item) := by
      rw [hpairs]
      simp
    obtain ⟨other, _, hother⟩ := List.mem_map.mp hmem
    rw [Prod.mk.injEq] at hother
    rw [← hother.1, hother.2]

end World

/-- **Exactly which line ends a session, and how.** An open session is won by walking out with
everyone there, and then nothing else changes; it is lost by drinking the wine, or by being
overtaken by the night; it is quit by a confirmed wish; no other line ends it. Where somebody is
missing at the gate, the first one who is missed is named, and nothing moves. -/
theorem Scene.ending_hear (scene : Scene) (line : String) (answer : Event)
    (hopen : scene.world.ending = none) (hread : (scene.hear line answer).failure = none) :
    let after := (scene.hear line answer).scene
    (after.world.ending = some .won ↔ scene.world.WalksOut line) ∧
    (scene.world.WalksOut line → after.world = { scene.world with ending := some .won }) ∧
    (after.world.ending = some .lost ↔
      scene.world.Uses line .wine ∨
        ¬ Command.IsIgnored line ∧ (∀ ending, ¬ scene.world.LeadsTo ⟨line, answer⟩ ending) ∧
          after.world.turns = 20 ∧
          scene.world.candleIsLit = false ∧ ¬ scene.world.LightsCandle line) ∧
    (after.world.ending = some .quit ↔ Input.Quits ⟨line, answer⟩) ∧
    ((∀ ending, ¬ scene.world.LeadsTo ⟨line, answer⟩ ending) →
      ¬ scene.world.IsOvertaken line answer → after.world.ending = none) ∧
    (∀ before item message rest,
      [(Item.skye, Message.needSkye), (.auntie, .needAuntie), (.cat, .needCat),
        (.doll, .needDoll)] = before ++ (item, message) :: rest →
      (∀ other ∈ before, scene.world.IsAtGate other.1) → ¬ scene.world.IsAtGate item →
      scene.world.TriesGate line →
        (∃ hazards : List Hazard, after.waiting =
          scene.waiting ++ .message message :: hazards.map fun hazard => .hazard hazard.message) ∧
        after.world.room = scene.world.room ∧ after.world.plan = scene.world.plan ∧
        after.world.whereabouts = scene.world.whereabouts ∧
        after.world.turns = scene.world.turns) := by
  intro after
  have hafter : after.world = scene.world.next ⟨line, answer⟩ := scene.world_hear line answer
  rw [hafter]
  refine ⟨?_, ?_, ?_, ?_, ?_, ?_⟩
  · simp [World.ending_next_iff hopen hread, World.LeadsTo]
  · intro hout
    rw [World.next_of_act? (World.act?_of_walksOut hout), Act.settle_eq]
    simp [hopen, Act.turnsAfter, Act.isOver]
  · simp [World.ending_next_iff hopen hread, World.LeadsTo, World.IsOvertaken]
  · simp [World.ending_next_iff hopen hread, World.LeadsTo]
  · intro hleads hnight
    rw [Option.eq_none_iff_forall_not_mem]
    intro ending hending
    rcases (World.ending_next_iff hopen hread).mp hending with hown | ⟨_, hdark⟩
    · exact hleads ending hown
    · exact hnight hdark
  · intro before item message rest horder hbefore hmissing htries
    obtain ⟨hfirst, hmessage⟩ := World.missingCompanion?_of_first horder hbefore hmissing
    have hact : scene.world.act? ⟨line, answer⟩ =
        some (scene.world.refuse (Gate.refusal item)) := World.act?_of_missing htries hfirst
    have hstay : Command.parse? line ≠ some .quit := by
      obtain ⟨⟨target, word, hparse, _⟩, _⟩ := htries
      simp [hparse]
    rw [World.next_of_act? hact]
    obtain ⟨hazards, hspeech⟩ := Act.speech_settle (scene.world.refuse (Gate.refusal item))
    refine ⟨⟨hazards, ?_⟩, ?_⟩
    · rw [Scene.waiting_hear hact hstay, hspeech, hmessage]
      rfl
    · simp [World.refuse, World.tell, Act.turnsAfter, Outcome.free]

/-- A player who quits at once, with no more input to answer the question, has quit. -/
theorem Scene.ending_hear_quit_atStart :
    ∃ wording, Wording.shipped = .ok wording ∧
      (Scene.atStart wording).world.ending = none ∧
      ((Scene.atStart wording).hear "quit" .endOfInput).failure = none ∧
      ((Scene.atStart wording).hear "quit" .endOfInput).scene.world.ending = some .quit := by
  obtain ⟨wording, hshipped⟩ := Wording.exists_shipped
  have hparse : Command.parse? "quit" = some .quit := by decide +kernel
  have hread : ((Scene.atStart wording).hear "quit" .endOfInput).failure = none := by
    simp [hear, World.hear, World.respond, hparse, Event.confirmsQuit]
  have hending := Scene.ending_hear (Scene.atStart wording) "quit" .endOfInput rfl hread
  exact ⟨wording, hshipped, rfl, hread, hending.2.2.2.1.mpr ⟨hparse, Or.inl rfl⟩⟩

end CastleEscape
