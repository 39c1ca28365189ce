/-!
# UTF-8

Decoding of bytes by an automaton that keeps the character under way. Every byte either completes
a character, extends the one under way or shows that something malformed came before; a malformed
stretch is as long as a prefix of some character can be, and counts once.

* `units` is the sequence of characters and malformed stretches;
* `decodeLossy` puts the replacement character in place of each malformed stretch;
* `decode?` refuses bytes with a malformed stretch.
-/

namespace CastleEscape.Text.Utf8

/-- A character under way: the bits so far, the range in which the next byte has to lie, and how
many bytes follow that one. -/
structure Pending where
  bits : Nat
  low : UInt8
  high : UInt8
  after : Nat

/-- What a byte means where a character can begin. -/
inductive Opening where
  | whole (code : Nat)
  | starts (pending : Pending)
  | malformed

def opening (b : UInt8) : Opening :=
  if b < 0x80 then .whole b.toNat
  else if b < 0xC2 then .malformed
  else if b < 0xE0 then .starts ⟨b.toNat % 32, 0x80, 0xBF, 0⟩
  else if b = 0xE0 then .starts ⟨0, 0xA0, 0xBF, 1⟩
  else if b = 0xED then .starts ⟨13, 0x80, 0x9F, 1⟩
  else if b < 0xF0 then .starts ⟨b.toNat % 16, 0x80, 0xBF, 1⟩
  else if b = 0xF0 then .starts ⟨0, 0x90, 0xBF, 2⟩
  else if b < 0xF4 then .starts ⟨b.toNat % 8, 0x80, 0xBF, 2⟩
  else if b = 0xF4 then .starts ⟨4, 0x80, 0x8F, 2⟩
  else .malformed

/-- The units that one byte settles, and the character under way after it. -/
def step (pending : Option Pending) (b : UInt8) : List (Option Char) × Option Pending :=
  match pending with
  | none => fresh b
  | some p =>
    if p.low ≤ b ∧ b ≤ p.high then
      let bits := p.bits * 64 + b.toNat % 64
      match p.after with
      | 0 => ([some (.ofNat bits)], none)
      | after + 1 => ([], some ⟨bits, 0x80, 0xBF, after⟩)
    else
      let (units, next) := fresh b
      (none :: units, next)
where
  fresh (b : UInt8) : List (Option Char) × Option Pending :=
    match opening b with
    | .whole code => ([some (.ofNat code)], none)
    | .starts p => ([], some p)
    | .malformed => ([none], none)

def unitsFrom (pending : Option Pending) : List UInt8 → List (Option Char)
  | [] => if pending.isSome then [none] else []
  | b :: rest =>
    let (units, next) := step pending b
    units ++ unitsFrom next rest

/-- Characters in their order, with `none` for each malformed stretch. -/
def units (bytes : List UInt8) : List (Option Char) :=
  unitsFrom none bytes

def replacement : Char := '\uFFFD'

def decodeLossy (bytes : List UInt8) : List Char :=
  (units bytes).map (·.getD replacement)

def decode? (bytes : List UInt8) : Option (List Char) :=
  (units bytes).mapM id

end CastleEscape.Text.Utf8
