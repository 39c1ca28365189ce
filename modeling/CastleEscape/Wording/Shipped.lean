/-!
# The shipped document

The wording that comes with the program, as the TOML document in which it is written down. The keys
are the symbols of rooms, items and messages.
-/

namespace CastleEscape.Wording

def shippedLines : List String :=
  ["# Display text for Skye's Castle Adventure.",
   "# Keys are the stable symbols of rooms, items and messages.",
   "",
   "intro = \"\"\"",
   "       Skye's Castle Adventure",
   "",
   "Your great-great-grandfather built a castle, but the family fell on hard times \\",
   "and it has been vacant for 80 years. Occasionally, family members visit the \\",
   "castle, although it is old and dusty and possibly not safe. Today your young \\",
   "granddaughter went to visit the castle with her aunt, but they did not return \\",
   "in the evening. Maybe you should have called the police, but instead you decide \\",
   "to go over there and find them on your own. It looks like a bad storm is \\",
   "brewing, and the castle has no electricity, so you had better find them before \\",
   "it gets too dark.",
   "\"\"\"",
   "",
   "help = \"\"\"",
   "Valid commands:",
   "go east/west/north/south/up/down",
   "look",
   "use <object>",
   "examine <object>",
   "take <object>",
   "drop <object>",
   "inventory",
   "help",
   "quit",
   "You can abbreviate commands and directions to the first letter.",
   "Type just the first letter of a direction to move.",
   "\"\"\"",
   "",
   "[locations]",
   "front_entrance = \"at the front door to the castle\"",
   "vestibule = \"in the vestibule\"",
   "entry = \"in the entry hall\"",
   "peacock_alley_1 = \"in Peacock Alley\"",
   "peacock_alley_2 = \"in Peacock Alley\"",
   "peacock_alley_3 = \"in Peacock Alley\"",
   "peacock_alley_4 = \"in Peacock Alley\"",
   "peacock_alley_5 = \"in Peacock Alley\"",
   "dining_room = \"in the large formal dining room\"",
   "conservatory = \"in a large conservatory with a stained glass dome sky light\"",
   "breakfast_room = \"in the breakfast room\"",
   "serving_room = \"in the serving room\"",
   "kitchen = \"in the kitchen\"",
   "hallway_1 = \"in a hallway\"",
   "hallway_2 = \"in a hallway\"",
   "elevator_1 = \"in the elevator on the main floor\"",
   "study = \"in a study, with a large desk and fireplace\"",
   "library = \"in the library\"",
   "great_hall = \"in the Great Hall\"",
   "stairs_1 = \"on the lower staircase\"",
   "landing = \"on the landing\"",
   "oak_drawing_room = \"in the oak drawing room\"",
   "smoking_room = \"in the smoking room\"",
   "covered_porch = \"on the covered porch\"",
   "billiards_room = \"in the billiards room\"",
   "hallway_10 = \"at the west end of a hallway\"",
   "hallway_11 = \"in a hallway\"",
   "hallway_12 = \"in a hallway\"",
   "hallway_13 = \"in a hallway\"",
   "hallway_14 = \"at the east end of a hallway\"",
   "corridor_1 = \"in a corridor\"",
   "corridor_2 = \"in a corridor\"",
   "narrow_hallway = \"in a narrow hallway\"",
   "round_room = \"in the Round Room\"",
   "pipe_organ_loft = \"in the pipe organ loft\"",
   "bedroom_1 = \"in a large bedroom\"",
   "sitting_room_1 = \"in the lady's sitting room\"",
   "bedroom_3 = \"in a small bedroom\"",
   "sir_henrys_bedroom = \"in Sir Henry's bedroom\"",
   "sitting_room_3 = \"in a sitting room\"",
   "ladys_bedroom = \"in Lady Pellatt's bedroom\"",
   "sitting_room_2 = \"in Sir Henry's sitting room\"",
   "guest_bedroom = \"in the guest bedroom\"",
   "elevator_2 = \"in the elevator on the second floor\"",
   "childrens_bedroom = \"in the children's bedroom\"",
   "servants_bedroom = \"in the servant's bedroom\"",
   "bedroom_4 = \"in the corner bedroom\"",
   "linen_room = \"in the linen room\"",
   "bedroom_2 = \"in a bedroom\"",
   "bath = \"in the bath room\"",
   "stairs_2 = \"on the upper staircase\"",
   "stairs_3 = \"on a narrow staircase\"",
   "wine_cellar = \"in the wine cellar\"",
   "tunnel_1 = \"in a damp underground tunnel\"",
   "tunnel_2 = \"in a damp underground tunnel\"",
   "tunnel_3 = \"in a damp underground tunnel\"",
   "steam_plant = \"in the steam plant\"",
   "tunnel_4 = \"in a damp underground tunnel\"",
   "stables = \"in the stables\"",
   "",
   "[items]",
   "pool_cue = \"pool cue\"",
   "umbrella = \"umbrella\"",
   "newspaper = \"newspaper\"",
   "sandwich = \"sandwich\"",
   "cat = \"cat\"",
   "wine = \"wine\"",
   "knife = \"knife\"",
   "candle = \"candle\"",
   "matches = \"matches\"",
   "auntie = \"Auntie\"",
   "doll = \"doll\"",
   "skye = \"Skye\"",
   "steel_bar = \"steel bar\"",
   "book = \"book\"",
   "hairbrush = \"hairbrush\"",
   "note = \"note\"",
   "perfume = \"perfume\"",
   "business_card = \"business card\"",
   "soap = \"soap\"",
   "menu = \"menu\"",
   "light_bulb = \"light bulb\"",
   "key = \"key\"",
   "",
   "[examine]",
   "newspaper = \"\"\"",
   "It reads:",
   "\"Pellatt's Folly? Five million dollar \"house on the hill\" took three years to \\",
   "build. Sole occupants of 98 room castle are Toronto financier and invalid wife.\"",
   "\"\"\"",
   "sandwich = \"A peanut butter sandwich. It looks fresh, so someone must have been here " ++
     "recently.\"",
   "cat = \"It is Skye's cat, Bailey. How did he get here?\"",
   "wine = \"An old bottle of wine. It looks very dusty and dirty.\"",
   "doll = \"It is a doll. It looks like one that belongs to Skye.\"",
   "book = \"\"\"It is titled \"The Curse of the Pharaohs\" by George Crabtree.\"\"\"",
   "note = \"\"\"It says: \"Reginald was here.\\\"\"\"\"",
   "business_card = \"\"\"It reads: \"Thomas Ridgway - chauffeur\\\"\"\"\"",
   "menu = \"\"\"",
   "It reads:",
   "First Course",
   "Hors D'Oeuvres",
   "Oysters",
   "",
   "Second Course",
   "Consomme Olga",
   "Cream of Barley",
   "",
   "Third Course",
   "Poached Salmon with Mousseline Sauce, Cucumbers",
   "",
   "Fourth Course",
   "Filet Mignons Lili",
   "Saute of Chicken, Lyonnaise",
   "Vegetable Marrow Farci",
   "",
   "Fifth Course",
   "Lamb, Mint Sauce",
   "Roast Duckling, Apple Sauce",
   "Sirloin of Beef, Chateau Potatoes",
   "Green Pea",
   "Creamed Carrots",
   "Boiled Rice",
   "Parmentier & Boiled New Potatoes",
   "",
   "Sixth Course",
   "Punch Romaine",
   "",
   "Seventh Course",
   "Roast Squab & Cress",
   "",
   "Eighth Course",
   "Cold Asparagus Vinaigrette",
   "",
   "Ninth Course",
   "Pate de Foie Gras",
   "Celery",
   "",
   "Tenth Course",
   "Waldorf Pudding",
   "Peaches in Chartreuse Jelly",
   "Chocolate & Vanilla Eclairs",
   "French Ice Cream",
   "\"\"\"",
   "",
   "[messages]",
   "you_are = \"You are \x7broom\x7d.\"",
   "dark = \"It is dark. You can't see.\"",
   "you_see = \"You see:\"",
   "nothing_special = \"nothing special\"",
   "you_can_go = \"You can go:\"",
   "carrying = \"You are carrying:\"",
   "carrying_nothing = \"nothing\"",
   "not_understood = \"I don't understand. Try 'help'.\"",
   "go_where = \"Go where?\"",
   "no_exit = \"You can't go \x7bdir\x7d from here.\"",
   "need_skye = \"You can't leave without Skye!\"",
   "need_auntie = \"You can't leave without Auntie!\"",
   "need_cat = \"Skye won't leave without her cat, Bailey!\"",
   "need_doll = \"Skye won't leave without her doll!\"",
   "won = \"\"\"",
   "Congratulations, you won the game!",
   "I hope you had as much fun playing the game as I did creating it.",
   "\"\"\"",
   "take_what = \"Take what?\"",
   "already_carrying = \"Already carrying it.\"",
   "see_no_such = \"I see no \x7bthing\x7d here.\"",
   "inventory_full = \"You can't carry any more. Drop something.\"",
   "took = \"Took \x7bitem\x7d.\"",
   "drop_what = \"Drop what?\"",
   "not_carrying = \"Not carrying \x7bthing\x7d.\"",
   "dropped = \"Dropped \x7bitem\x7d.\"",
   "examine_what = \"Examine what?\"",
   "dont_see_it = \"I don't see it here.\"",
   "fireplace_panels = \"On either side of the fireplace are secret panels, which now open and " ++
     "reveal staircases.\"",
   "nothing_special_about_it = \"You see nothing special about it.\"",
   "auntie_bound = \"She is tied up and gagged and can't speak. But where is Skye?\"",
   "auntie_story = \"Auntie says: Someone attacked me and tied me up! Skye went back into the " ++
     "tunnel to get help.\"",
   "use_what = \"Use what?\"",
   "unlock_door = \"You insert the key and unlock the door.\"",
   "drink_wine = \"\"\"",
   "It looks and smells bad, but you drink some anyway.",
   "You feel very sick and pass out.",
   "\"\"\"",
   "cut_ropes = \"You cut the ropes with the knife.\"",
   "light_candle = \"You light the candle. You can see!\"",
   "nothing_to_light = \"Nothing here to light.\"",
   "pry_boiler = \"\"\"",
   "You pry the boiler open with the steel bar.",
   "Skye was trapped inside! She is safe now.",
   "\"\"\"",
   "nothing_happens = \"Nothing happens.\"",
   "quit_confirm = \"Are you sure you want to quit (y/n)? \"",
   "prompt = \"? \"",
   "game_over = \"Game over after \x7bturns\x7d turns.\"",
   "play_again = \"Do you want to play again (y/n)? \"",
   "dusk_warning = \"It will be getting dark soon. You need some kind of light or soon you " ++
     "won't be able to see.\"",
   "darkness_falls = \"It is dark out and you have no light. You stumble around for a while and " ++
     "then fall, hit your head, and pass out.\"",
   "candle_blows_out = \"The candle blows out!\"",
   "boiler_crying = \"You see a steam boiler here. You can hear someone crying inside.\""]

/-- The lines of the document, each with a line feed at its end. -/
def shippedDocument : String :=
  String.join (shippedLines.map fun line => line ++ "\n")

end CastleEscape.Wording
