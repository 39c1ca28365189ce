import CastleEscape.Proofs.Board
import CastleEscape.Proofs.Effects
import CastleEscape.Proofs.Ending

/-!
# What is said of a change

Some narration is news: it tells the player that something has been taken or dropped, that somebody
has been freed, where the player has come to, or how it all ends. `News` says of each kind of news
which line it belongs to, and no act has other news than that (`World.news_of_act?`). As it is also
known of each line what it changes, what is said and what is changed can be compared by way of the
line.
-/

namespace CastleEscape

/-- Whether narration tells of something that has happened. -/
def Narration.isNews : Narration → Bool
  | .room _ | .aboutItem .took _ | .aboutItem .dropped _ | .message .cutRopes
  | .message .pryBoiler | .finale _ | .hazard _ => true
  | _ => false

/-- What an act can say on this line, with what has to hold for it. -/
inductive News (world : World) (line : String) : Narration → Prop where
  | plain (narration : Narration) (hplain : narration.isNews = false) : News world line narration
  | seen (hlook : Command.parse? line = some .look) : News world line (.room world.room)
  | entered (room : Room) (henters : world.Enters line room) : News world line (.room room)
  | took (item : Item) (slot : Nat) (hline : world.Takes line item)
      (hplace : world.whereabouts.placeOf item = .lying world.room)
      (hslot : world.whereabouts.freeSlot? = some slot) : News world line (.aboutItem .took item)
  | dropped (item : Item) (slot : Nat) (hline : world.Drops line item)
      (hplace : world.whereabouts.placeOf item = .carried slot) :
      News world line (.aboutItem .dropped item)
  | cutRopes (hcuts : world.CutsRopes line) : News world line (.message .cutRopes)
  | pried (huse : world.Uses line .steelBar) (hroom : world.room = .steamPlant)
      (habsent : world.whereabouts.placeOf .skye = .absent) :
      News world line (.message .pryBoiler)
  | won (hout : world.WalksOut line) : News world line (.finale .won)
  | drankWine (huse : world.Uses line .wine) : News world line (.finale .drinkWine)

/-! ## No act has other news -/

namespace World

variable {world : World} {line : String} {narration : Narration}

theorem isNews_refusal (item : Item) :
    (Narration.message (Gate.refusal item)).isNews = false := by
  cases item <;> rfl

theorem news_go {target : Option String} (hparse : Command.parse? line = some (.go target))
    (hsaid : narration ∈ (world.go target).speech) : News world line narration := by
  unfold go at hsaid
  cases hheading : target.bind heading? with
  | none =>
      rw [hheading] at hsaid
      exact .plain _ (by rw [List.mem_singleton.mp hsaid]; rfl)
  | some direction =>
      obtain ⟨text, rfl, htext⟩ := Option.bind_eq_some_iff.mp hheading
      have hheads := Command.heads_of_heading? hparse htext
      cases hexit : world.plan.exit? world.room direction with
      | none =>
          simp only [hheading, hexit] at hsaid
          exact .plain _ (by rw [List.mem_singleton.mp hsaid]; rfl)
      | some destination =>
          simp only [hheading, hexit] at hsaid
          split at hsaid
          case isFalse hgate =>
            rw [List.mem_singleton.mp hsaid]
            exact .entered _ (enters_of_heads hheads hexit (Bool.eq_false_iff.mpr hgate))
          case isTrue hgate =>
            cases hmissing : world.missingCompanion? with
            | some item =>
                rw [hmissing] at hsaid
                exact .plain _ (by rw [List.mem_singleton.mp hsaid, isNews_refusal])
            | none =>
                rw [hmissing] at hsaid
                rw [List.mem_singleton.mp hsaid]
                obtain ⟨hroom, rfl⟩ : world.room = .vestibule ∧ direction = .south := by
                  simpa [Gate.isCrossedBy, Gate.room, Gate.direction] using hgate
                rw [hroom] at hexit
                exact .won ⟨⟨hheads, hroom, by simp [hexit]⟩,
                  isAtGate_of_missingCompanion? hmissing⟩

theorem news_take {object : Option String} (hparse : Command.parse? line = some (.take object))
    (hsaid : narration ∈ (world.take object).speech) : News world line narration := by
  unfold take at hsaid
  cases object with
  | none => exact .plain _ (by rw [List.mem_singleton.mp hsaid]; rfl)
  | some typed =>
      simp only at hsaid
      split at hsaid
      · exact .plain _ (by rw [List.mem_singleton.mp hsaid]; rfl)
      · rename_i item hfind
        obtain ⟨hnamed, hscope⟩ := find_eq_ok hfind
        split at hsaid
        · exact .plain _ (by rw [List.mem_singleton.mp hsaid]; rfl)
        · rename_i hfree
          rw [Bool.not_eq_true] at hfree
          rw [Whereabouts.pickUp?_of_not_carried hfree] at hsaid
          cases hslot : world.whereabouts.freeSlot? with
          | none =>
              rw [hslot] at hsaid
              exact .plain _ (by rw [List.mem_singleton.mp hsaid]; rfl)
          | some slot =>
              rw [hslot] at hsaid
              rw [List.mem_singleton.mp hsaid]
              exact .took item slot ⟨typed, hparse, hnamed⟩
                (Whereabouts.placeOf_eq_lying hscope hfree) hslot

theorem news_drop {object : Option String} (hparse : Command.parse? line = some (.drop object))
    (hsaid : narration ∈ (world.drop object).speech) : News world line narration := by
  unfold drop at hsaid
  cases object with
  | none => exact .plain _ (by rw [List.mem_singleton.mp hsaid]; rfl)
  | some typed =>
      simp only at hsaid
      split at hsaid
      · exact .plain _ (by rw [List.mem_singleton.mp hsaid]; rfl)
      · rename_i item hfind
        obtain ⟨hnamed, hscope⟩ := find_eq_ok hfind
        obtain ⟨slot, hplace⟩ := Whereabouts.isCarried_iff.mp hscope
        rw [List.mem_singleton.mp hsaid]
        exact .dropped item slot ⟨typed, hparse, hnamed⟩ hplace

/-- A close look has no news, whatever comes to light. -/
theorem isNews_examine {object : Option String}
    (hsaid : narration ∈ (world.examine object).speech) : narration.isNews = false := by
  unfold examine at hsaid
  cases object with
  | none => rw [List.mem_singleton.mp hsaid]; rfl
  | some typed =>
      simp only at hsaid
      split at hsaid
      · rw [List.mem_singleton.mp hsaid]; rfl
      · split at hsaid
        · rw [List.mem_singleton.mp hsaid]; rfl
        · rw [List.mem_singleton.mp hsaid]
          cases world.auntieIsTied <;> rfl
        · rw [List.mem_singleton.mp hsaid]; rfl

theorem news_useItem {item : Item} (huse : world.Uses line item)
    (hsaid : narration ∈ (world.useItem item).speech) : News world line narration := by
  cases item with
  | wine =>
      rw [List.mem_singleton.mp hsaid]
      exact .drankWine huse
  | key =>
      simp only [useItem] at hsaid
      split at hsaid <;> exact .plain _ (by rw [List.mem_singleton.mp hsaid]; rfl)
  | knife =>
      simp only [useItem] at hsaid
      split at hsaid
      · rename_i hcut
        obtain ⟨htied, hauntie⟩ := Bool.and_eq_true_iff.mp hcut
        rcases List.mem_pair.mp hsaid with rfl | rfl
        · exact .cutRopes ⟨htied, huse, hauntie⟩
        · exact .plain _ rfl
      · exact .plain _ (by rw [List.mem_singleton.mp hsaid]; rfl)
  | matchbox =>
      simp only [useItem] at hsaid
      split at hsaid <;> exact .plain _ (by rw [List.mem_singleton.mp hsaid]; rfl)
  | steelBar =>
      simp only [useItem] at hsaid
      split at hsaid
      · rename_i hpry
        obtain ⟨hroom, habsent⟩ := Bool.and_eq_true_iff.mp hpry
        rw [List.mem_singleton.mp hsaid]
        exact .pried huse (beq_iff_eq.mp hroom) (Whereabouts.isAbsent_iff.mp habsent)
      · exact .plain _ (by rw [List.mem_singleton.mp hsaid]; rfl)
  | _ => exact .plain _ (by rw [List.mem_singleton.mp hsaid]; rfl)

theorem news_use {object : Option String} (hparse : Command.parse? line = some (.use object))
    (hsaid : narration ∈ (world.use object).speech) : News world line narration := by
  unfold use at hsaid
  cases object with
  | none => exact .plain _ (by rw [List.mem_singleton.mp hsaid]; rfl)
  | some typed =>
      simp only at hsaid
      split at hsaid
      · exact .plain _ (by rw [List.mem_singleton.mp hsaid]; rfl)
      · rename_i item hfind
        obtain ⟨hnamed, hscope⟩ := find_eq_ok hfind
        exact news_useItem ⟨⟨typed, hparse, hnamed⟩, hscope⟩ hsaid

theorem news_look (hparse : Command.parse? line = some .look)
    (hsaid : narration ∈ world.look.speech) : News world line narration := by
  simp only [look, tell, List.mem_cons, List.not_mem_nil, or_false] at hsaid
  rcases hsaid with rfl | rfl | rfl
  · exact .seen hparse
  · refine .plain _ ?_
    split <;> rfl
  · exact .plain _ rfl

/-- **No act has other news.** Whatever an act says is plain, or it is news that belongs to the
line. -/
theorem news_of_act? {answer : Event} {act : Act} (hact : world.act? ⟨line, answer⟩ = some act)
    (hsaid : narration ∈ act.speech) : News world line narration := by
  unfold act? at hact
  cases hparse : Command.parse? line with
  | none => simp [hparse] at hact
  | some command =>
      simp only [hparse] at hact
      cases command with
      | unknown => cases hact
      | help => cases hact; exact .plain _ (by rw [List.mem_singleton.mp hsaid]; rfl)
      | inventory => cases hact; exact .plain _ (by rw [List.mem_singleton.mp hsaid]; rfl)
      | look => cases hact; exact news_look hparse hsaid
      | go target => cases hact; exact news_go hparse hsaid
      | take object => cases hact; exact news_take hparse hsaid
      | drop object => cases hact; exact news_drop hparse hsaid
      | examine object => cases hact; exact .plain _ (isNews_examine hsaid)
      | use object => cases hact; exact news_use hparse hsaid
      | quit =>
          cases hanswer : answer.confirmsQuit with
          | error failure => simp [hanswer] at hact
          | ok confirmed =>
              simp only [hanswer, Option.some.injEq] at hact
              subst hact
              cases hsaid

end World

end CastleEscape
