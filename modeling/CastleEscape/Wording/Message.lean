/-!
# Messages

The 45 fixed texts that the game can choose to show. A message's symbol is its key in the wording.
A text may hold the marks for an item, a thing the player typed, a direction, a room or a count of
turns; which of them is filled in depends on the message.
-/

namespace CastleEscape

inductive Message where
  | youAre | dark | youSee | nothingSpecial | youCanGo | carrying | carryingNothing
  | notUnderstood | goWhere | noExit | needSkye | needAuntie | needCat | needDoll | won
  | takeWhat | alreadyCarrying | seeNoSuch | inventoryFull | took | dropWhat | notCarrying
  | dropped | examineWhat | dontSeeIt | fireplacePanels | nothingSpecialAboutIt | auntieBound
  | auntieStory | useWhat | unlockDoor | drinkWine | cutRopes | lightCandle | nothingToLight
  | pryBoiler | nothingHappens | quitConfirm | prompt | gameOver | playAgain | duskWarning
  | darknessFalls | candleBlowsOut | boilerCrying
  deriving DecidableEq

namespace Message

def all : List Message :=
  [youAre, dark, youSee, nothingSpecial, youCanGo, carrying, carryingNothing, notUnderstood,
   goWhere, noExit, needSkye, needAuntie, needCat, needDoll, won, takeWhat, alreadyCarrying,
   seeNoSuch, inventoryFull, took, dropWhat, notCarrying, dropped, examineWhat, dontSeeIt,
   fireplacePanels, nothingSpecialAboutIt, auntieBound, auntieStory, useWhat, unlockDoor,
   drinkWine, cutRopes, lightCandle, nothingToLight, pryBoiler, nothingHappens, quitConfirm,
   prompt, gameOver, playAgain, duskWarning, darknessFalls, candleBlowsOut, boilerCrying]

def symbol : Message → String
  | youAre => "you_are"
  | dark => "dark"
  | youSee => "you_see"
  | nothingSpecial => "nothing_special"
  | youCanGo => "you_can_go"
  | carrying => "carrying"
  | carryingNothing => "carrying_nothing"
  | notUnderstood => "not_understood"
  | goWhere => "go_where"
  | noExit => "no_exit"
  | needSkye => "need_skye"
  | needAuntie => "need_auntie"
  | needCat => "need_cat"
  | needDoll => "need_doll"
  | won => "won"
  | takeWhat => "take_what"
  | alreadyCarrying => "already_carrying"
  | seeNoSuch => "see_no_such"
  | inventoryFull => "inventory_full"
  | took => "took"
  | dropWhat => "drop_what"
  | notCarrying => "not_carrying"
  | dropped => "dropped"
  | examineWhat => "examine_what"
  | dontSeeIt => "dont_see_it"
  | fireplacePanels => "fireplace_panels"
  | nothingSpecialAboutIt => "nothing_special_about_it"
  | auntieBound => "auntie_bound"
  | auntieStory => "auntie_story"
  | useWhat => "use_what"
  | unlockDoor => "unlock_door"
  | drinkWine => "drink_wine"
  | cutRopes => "cut_ropes"
  | lightCandle => "light_candle"
  | nothingToLight => "nothing_to_light"
  | pryBoiler => "pry_boiler"
  | nothingHappens => "nothing_happens"
  | quitConfirm => "quit_confirm"
  | prompt => "prompt"
  | gameOver => "game_over"
  | playAgain => "play_again"
  | duskWarning => "dusk_warning"
  | darknessFalls => "darkness_falls"
  | candleBlowsOut => "candle_blows_out"
  | boilerCrying => "boiler_crying"

def ofSymbol? (symbol : String) : Option Message :=
  all.find? fun message => message.symbol == symbol

/-! ## The enumeration -/

@[simp] theorem mem_all (message : Message) : message ∈ all := by
  cases message <;> decide

theorem length_all : all.length = 45 := rfl

theorem nodup_all : all.Nodup := by decide

theorem ofSymbol?_symbol (message : Message) : ofSymbol? message.symbol = some message := by
  cases message <;> decide +kernel

theorem symbol_injective {a b : Message} (h : a.symbol = b.symbol) : a = b := by
  have := ofSymbol?_symbol a
  rw [h, ofSymbol?_symbol] at this
  exact (Option.some.inj this).symm

end Message

end CastleEscape
