import CastleEscape.Text.LowerCase

/-!
# Directions

The six ways out of a room, in the order in which exits are listed. A direction is typed as its
name or as the first letter of it, in any case.
-/

namespace CastleEscape

inductive Direction where
  | north | south | east | west | up | down
  deriving DecidableEq

namespace Direction

def all : List Direction :=
  [north, south, east, west, up, down]

def name : Direction → String
  | north => "north"
  | south => "south"
  | east => "east"
  | west => "west"
  | up => "up"
  | down => "down"

def letter : Direction → String
  | north => "n"
  | south => "s"
  | east => "e"
  | west => "w"
  | up => "u"
  | down => "d"

def ofWord? (word : String) : Option Direction :=
  let small := Text.lowerCase word
  all.find? fun direction => small == direction.name || small == direction.letter

@[simp] theorem mem_all (direction : Direction) : direction ∈ all := by
  cases direction <;> decide

theorem length_all : all.length = 6 := rfl

end Direction

end CastleEscape
