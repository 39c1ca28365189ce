import CastleEscape.Command

/-!
# Completion

Completing a command word while it is typed. Places in a line are counted in bytes of UTF-8, and
only those at which a character ends or begins are places at all.
-/

namespace CastleEscape.Completion

/-- The word that is being typed: where it starts, and what there is of it. -/
structure Word where
  start : Nat
  text : String
  deriving DecidableEq

/-- The first characters of some, in reverse, that take up exactly this many bytes. -/
def firstBytes? (seen : List Char) : (bytes : Nat) → List Char → Option (List Char)
  | 0, _ => some seen
  | _ + 1, [] => none
  | bytes, c :: rest =>
    if c.utf8Size ≤ bytes then firstBytes? (c :: seen) (bytes - c.utf8Size) rest else none

/-- The word that ends at a place, which begins after the last blank before that place. -/
def wordAt? (line : String) (place : Nat) : Option Word := do
  let before ← firstBytes? [] place line.toList
  let text := String.ofList (before.takeWhile fun c => !Text.isBlank c).reverse
  return ⟨place - text.utf8ByteSize, text⟩

/-- Everything that can be completed, in alphabetical order and each once. -/
def terms : List String :=
  ((Verb.all.map Verb.name ++ Direction.all.map Direction.name).mergeSort
    fun a b => decide (a ≤ b)).eraseReps

/-- The terms that begin with what there is of a word, in whatever case it was typed. -/
def termsFor (word : String) : List String :=
  if word.isEmpty then []
  else terms.filter fun term => (Text.lowerCase word).toList.isPrefixOf term.toList

/-- One way to complete a word: how it is listed, and what is put in the place of the word. -/
structure Candidate where
  display : String
  replacement : String
  deriving DecidableEq

def candidatesFor (word : String) : List Candidate :=
  (termsFor word).map fun term => ⟨term, term⟩

/-- What is offered at a place in a line: where the word starts that is to be completed, and how. -/
structure Offer where
  start : Nat
  candidates : List Candidate
  deriving DecidableEq

def offer? (line : String) (place : Nat) : Option Offer := do
  let word ← wordAt? line place
  return ⟨word.start, candidatesFor word.text⟩

end CastleEscape.Completion
