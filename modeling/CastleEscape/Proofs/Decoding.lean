import CastleEscape.Text.Utf8
import Mathlib.Data.List.Infix
import Mathlib.Order.Basic

/-!
# What lossy decoding makes of bytes

`Decodes` says it without an automaton: a character stands for itself where its bytes stand, and
where the bytes of no character stand, as many bytes as could still have become one count as one
replacement character, and otherwise a single byte does.

* `spells_iff`: the bytes that take the automaton through a character are the bytes of that
  character;
* `decodes_iff`: decoding does what the standard asks for, and nothing else;
* `decodeLossy_append_ascii`, `exists_of_decodeLossy_eq_append`: the bytes on either side of an ASCII
  character have no influence on each other.
-/

namespace CastleEscape.Text.Utf8

/-! ## What the standard asks for -/

/-- A character can begin like this. -/
def Begins (part : List UInt8) : Prop :=
  ∃ c, part <+: String.utf8EncodeChar c

/-- Between two characters, `part` is as much of `part ++ rest` as counts as one malformed
stretch. -/
structure IsMalformed (part rest : List UInt8) : Prop where
  nonempty : part ≠ []
  noCharacter : ∀ c, ¬String.utf8EncodeChar c <+: part ++ rest
  initial : part.length = 1 ∨ Begins part
  longest : ∀ more, more <+: rest → more ≠ [] → ¬Begins (part ++ more)

inductive Decodes : List UInt8 → List Char → Prop where
  | nil : Decodes [] []
  | character (c : Char) {rest : List UInt8} {text : List Char} (hrest : Decodes rest text) :
      Decodes (String.utf8EncodeChar c ++ rest) (c :: text)
  | malformed {part rest : List UInt8} {text : List Char} (hpart : IsMalformed part rest)
      (hrest : Decodes rest text) : Decodes (part ++ rest) (replacement :: text)

theorem Begins.of_append {part more : List UInt8} (hbegins : Begins (part ++ more)) :
    Begins part := by
  obtain ⟨c, hc⟩ := hbegins
  exact ⟨c, (List.prefix_append part more).trans hc⟩

/-- With less after it, a malformed stretch stays one. -/
theorem IsMalformed.of_append {part rest more : List UInt8}
    (hpart : IsMalformed part (rest ++ more)) : IsMalformed part rest where
  nonempty := hpart.nonempty
  noCharacter c hc := by
    refine hpart.noCharacter c (hc.trans ?_)
    rw [← List.append_assoc]
    exact List.prefix_append _ more
  initial := hpart.initial
  longest next hnext := hpart.longest next (hnext.trans (List.prefix_append rest more))

/-! ## What the automaton takes for a character -/

/-- These bytes complete the character under way, and this is its code. -/
inductive Pending.Completes : Pending → List UInt8 → Nat → Prop where
  | last {bits : Nat} {low high b : UInt8} (hlow : low ≤ b) (hhigh : b ≤ high) :
      Completes ⟨bits, low, high, 0⟩ [b] (bits * 64 + b.toNat % 64)
  | more {bits after code : Nat} {low high b : UInt8} {tail : List UInt8} (hlow : low ≤ b)
      (hhigh : b ≤ high)
      (htail : Completes ⟨bits * 64 + b.toNat % 64, 0x80, 0xBF, after⟩ tail code) :
      Completes ⟨bits, low, high, after + 1⟩ (b :: tail) code

/-- The automaton takes these bytes for the character with this code. -/
inductive Spells : List UInt8 → Nat → Prop where
  | whole {b : UInt8} {code : Nat} (hopening : opening b = .whole code) : Spells [b] code
  | starts {b : UInt8} {pending : Pending} {tail : List UInt8} {code : Nat}
      (hopening : opening b = .starts pending) (htail : pending.Completes tail code) :
      Spells (b :: tail) code

/-! ### By the number of bytes -/

theorem opening_one {b : UInt8} (hb : b < 0x80) : opening b = .whole b.toNat :=
  if_pos hb

theorem opening_two {b : UInt8} (hlow : 0xC2 ≤ b) (hhigh : b < 0xE0) :
    opening b = .starts ⟨b.toNat % 32, 0x80, 0xBF, 0⟩ := by
  rw [opening, if_neg (by grind), if_neg (by grind), if_pos hhigh]

theorem opening_three {b : UInt8} (hlow : 0xE0 ≤ b) (hhigh : b < 0xF0) :
    opening b = .starts
      ⟨b.toNat % 16, if b = 0xE0 then 0xA0 else 0x80, if b = 0xED then 0x9F else 0xBF, 1⟩ := by
  rcases eq_or_ne b 0xE0 with rfl | hE0
  · rfl
  rcases eq_or_ne b 0xED with rfl | hED
  · rfl
  rw [opening, if_neg (by grind), if_neg (by grind), if_neg (by grind), if_neg hE0, if_neg hED,
    if_pos hhigh, if_neg hE0, if_neg hED]

theorem opening_four {b : UInt8} (hlow : 0xF0 ≤ b) (hhigh : b ≤ 0xF4) :
    opening b = .starts
      ⟨b.toNat % 8, if b = 0xF0 then 0x90 else 0x80, if b = 0xF4 then 0x8F else 0xBF, 2⟩ := by
  rcases eq_or_ne b 0xF0 with rfl | hF0
  · rfl
  rcases eq_or_ne b 0xF4 with rfl | hF4
  · rfl
  have hlast : b < 0xF4 := by grind
  rw [opening, if_neg (by grind), if_neg (by grind), if_neg (by grind), if_neg (by grind),
    if_neg (by grind), if_neg (by grind), if_neg hF0, if_pos hlast, if_neg hF0, if_neg hF4]

theorem opening_malformed {b : UInt8} (hb : 0x80 ≤ b ∧ b < 0xC2 ∨ 0xF4 < b) :
    opening b = .malformed := by
  unfold opening
  grind

/-- Where a character can begin there are five kinds of bytes. -/
theorem opening_cases (b : UInt8) :
    b < 0x80 ∨ (0xC2 ≤ b ∧ b < 0xE0) ∨ (0xE0 ≤ b ∧ b < 0xF0) ∨ (0xF0 ≤ b ∧ b ≤ 0xF4) ∨
      (0x80 ≤ b ∧ b < 0xC2 ∨ 0xF4 < b) := by
  grind

theorem opening_eq_whole {b : UInt8} {code : Nat} (hopening : opening b = .whole code) :
    b < 0x80 ∧ b.toNat = code := by
  rcases opening_cases b with hb | hb | hb | hb | hb
  · rw [opening_one hb] at hopening
    cases hopening
    exact ⟨hb, rfl⟩
  · rw [opening_two hb.1 hb.2] at hopening
    cases hopening
  · rw [opening_three hb.1 hb.2] at hopening
    cases hopening
  · rw [opening_four hb.1 hb.2] at hopening
    cases hopening
  · rw [opening_malformed hb] at hopening
    cases hopening

/-- A character of several bytes is under way after one of three kinds of bytes. -/
theorem opening_eq_starts {b : UInt8} {pending : Pending} (hopening : opening b = .starts pending) :
    (0xC2 ≤ b ∧ b < 0xE0 ∧ pending = ⟨b.toNat % 32, 0x80, 0xBF, 0⟩) ∨
    (0xE0 ≤ b ∧ b < 0xF0 ∧ pending =
      ⟨b.toNat % 16, if b = 0xE0 then 0xA0 else 0x80, if b = 0xED then 0x9F else 0xBF, 1⟩) ∨
    (0xF0 ≤ b ∧ b ≤ 0xF4 ∧ pending =
      ⟨b.toNat % 8, if b = 0xF0 then 0x90 else 0x80, if b = 0xF4 then 0x8F else 0xBF, 2⟩) := by
  rcases opening_cases b with hb | hb | hb | hb | hb
  · rw [opening_one hb] at hopening
    cases hopening
  · rw [opening_two hb.1 hb.2] at hopening
    cases hopening
    exact Or.inl ⟨hb.1, hb.2, rfl⟩
  · rw [opening_three hb.1 hb.2] at hopening
    cases hopening
    exact Or.inr (Or.inl ⟨hb.1, hb.2, rfl⟩)
  · rw [opening_four hb.1 hb.2] at hopening
    cases hopening
    exact Or.inr (Or.inr ⟨hb.1, hb.2, rfl⟩)
  · rw [opening_malformed hb] at hopening
    cases hopening

section Codes

variable {b b₁ b₂ b₃ : UInt8}

/-- A code that is one belongs to a character, whose bytes hold the bits of the code. -/
theorem exists_char {code : Nat} (hvalid : code.isValidChar) :
    ∃ c : Char, c.toNat = code ∧ String.utf8EncodeChar c =
      if code ≤ 0x7F then [.ofNat code]
      else if code ≤ 0x7FF then [.ofNat (code / 64 % 32 + 0xC0), .ofNat (code % 64 + 0x80)]
      else if code ≤ 0xFFFF then
        [.ofNat (code / 4096 % 16 + 0xE0), .ofNat (code / 64 % 64 + 0x80),
          .ofNat (code % 64 + 0x80)]
      else
        [.ofNat (code / 262144 % 8 + 0xF0), .ofNat (code / 4096 % 64 + 0x80),
          .ofNat (code / 64 % 64 + 0x80), .ofNat (code % 64 + 0x80)] :=
  ⟨.ofNatAux code hvalid, rfl, rfl⟩

theorem exists_char_one (hb : b < 0x80) :
    ∃ c, c.toNat = b.toNat ∧ String.utf8EncodeChar c = [b] := by
  simp only [UInt8.lt_iff_toNat_lt, UInt8.reduceToNat] at hb
  obtain ⟨c, hcode, hbytes⟩ := exists_char (show b.toNat.isValidChar from Or.inl (by omega))
  refine ⟨c, hcode, ?_⟩
  rw [hbytes, if_pos (by omega), UInt8.ofNat_toNat]

theorem exists_char_two (hlow : 0xC2 ≤ b) (hhigh : b < 0xE0) (hlow₁ : 0x80 ≤ b₁)
    (hhigh₁ : b₁ ≤ 0xBF) :
    ∃ c, c.toNat = b.toNat % 32 * 64 + b₁.toNat % 64 ∧ String.utf8EncodeChar c = [b, b₁] := by
  simp only [UInt8.le_iff_toNat_le, UInt8.lt_iff_toNat_lt, UInt8.reduceToNat] at *
  generalize hcode : b.toNat % 32 * 64 + b₁.toNat % 64 = code
  obtain ⟨c, hc, hbytes⟩ := exists_char (show code.isValidChar from Or.inl (by omega))
  refine ⟨c, hc, ?_⟩
  rw [hbytes, if_neg (by omega), if_pos (by omega)]
  simp only [List.cons.injEq, ← UInt8.toNat_inj, UInt8.toNat_ofNat', and_true]
  omega

theorem exists_char_three (hlow : 0xE0 ≤ b) (hhigh : b < 0xF0)
    (hlow₁ : (if b = 0xE0 then 0xA0 else 0x80) ≤ b₁)
    (hhigh₁ : b₁ ≤ if b = 0xED then 0x9F else 0xBF) (hlow₂ : 0x80 ≤ b₂) (hhigh₂ : b₂ ≤ 0xBF) :
    ∃ c, c.toNat = (b.toNat % 16 * 64 + b₁.toNat % 64) * 64 + b₂.toNat % 64 ∧
      String.utf8EncodeChar c = [b, b₁, b₂] := by
  simp only [UInt8.le_iff_toNat_le, UInt8.lt_iff_toNat_lt, ← UInt8.toNat_inj,
    apply_ite UInt8.toNat, UInt8.reduceToNat] at *
  generalize hcode : (b.toNat % 16 * 64 + b₁.toNat % 64) * 64 + b₂.toNat % 64 = code
  -- the second byte is in the narrower range, so the code is not a shorter one nor a surrogate
  have hrange : 0x7FF < code ∧ (code < 0xD800 ∨ 0xDFFF < code) ∧ code ≤ 0xFFFF ∧
      0x80 ≤ b₁.toNat ∧ b₁.toNat ≤ 0xBF := by
    split at hlow₁ <;> split at hhigh₁ <;> omega
  clear hlow₁ hhigh₁
  obtain ⟨c, hc, hbytes⟩ := exists_char (show code.isValidChar by unfold Nat.isValidChar; omega)
  refine ⟨c, hc, ?_⟩
  rw [hbytes, if_neg (by omega), if_neg (by omega), if_pos (by omega)]
  simp only [List.cons.injEq, ← UInt8.toNat_inj, UInt8.toNat_ofNat', and_true]
  omega

theorem exists_char_four (hlow : 0xF0 ≤ b) (hhigh : b ≤ 0xF4)
    (hlow₁ : (if b = 0xF0 then 0x90 else 0x80) ≤ b₁)
    (hhigh₁ : b₁ ≤ if b = 0xF4 then 0x8F else 0xBF) (hlow₂ : 0x80 ≤ b₂) (hhigh₂ : b₂ ≤ 0xBF)
    (hlow₃ : 0x80 ≤ b₃) (hhigh₃ : b₃ ≤ 0xBF) :
    ∃ c, c.toNat =
        ((b.toNat % 8 * 64 + b₁.toNat % 64) * 64 + b₂.toNat % 64) * 64 + b₃.toNat % 64 ∧
      String.utf8EncodeChar c = [b, b₁, b₂, b₃] := by
  simp only [UInt8.le_iff_toNat_le, ← UInt8.toNat_inj, apply_ite UInt8.toNat,
    UInt8.reduceToNat] at *
  generalize hcode :
    ((b.toNat % 8 * 64 + b₁.toNat % 64) * 64 + b₂.toNat % 64) * 64 + b₃.toNat % 64 = code
  have hrange : 0xFFFF < code ∧ code < 0x110000 ∧ 0x80 ≤ b₁.toNat ∧ b₁.toNat ≤ 0xBF := by
    split at hlow₁ <;> split at hhigh₁ <;> omega
  clear hlow₁ hhigh₁
  obtain ⟨c, hc, hbytes⟩ := exists_char (show code.isValidChar by unfold Nat.isValidChar; omega)
  refine ⟨c, hc, ?_⟩
  rw [hbytes, if_neg (by omega), if_neg (by omega), if_neg (by omega)]
  simp only [List.cons.injEq, ← UInt8.toNat_inj, UInt8.toNat_ofNat', and_true]
  omega

/-- What the automaton takes for a character is the bytes of one. -/
theorem Spells.exists_char {bytes : List UInt8} {code : Nat} (hspells : Spells bytes code) :
    ∃ c, c.toNat = code ∧ String.utf8EncodeChar c = bytes := by
  cases hspells with
  | whole hopening =>
      obtain ⟨hb, rfl⟩ := opening_eq_whole hopening
      exact exists_char_one hb
  | starts hopening htail =>
      rcases opening_eq_starts hopening with ⟨hlow, hhigh, rfl⟩ | ⟨hlow, hhigh, rfl⟩ |
        ⟨hlow, hhigh, rfl⟩
      · cases htail with
        | last hlow₁ hhigh₁ => exact exists_char_two hlow hhigh hlow₁ hhigh₁
      · cases htail with
        | more hlow₁ hhigh₁ htail =>
            cases htail with
            | last hlow₂ hhigh₂ => exact exists_char_three hlow hhigh hlow₁ hhigh₁ hlow₂ hhigh₂
      · cases htail with
        | more hlow₁ hhigh₁ htail =>
            cases htail with
            | more hlow₂ hhigh₂ htail =>
                cases htail with
                | last hlow₃ hhigh₃ =>
                    exact exists_char_four hlow hhigh hlow₁ hhigh₁ hlow₂ hhigh₂ hlow₃ hhigh₃

theorem exists_byte {n : Nat} (hn : n < 256) : ∃ b : UInt8, b.toNat = n :=
  ⟨.ofNat n, UInt8.toNat_ofNat_of_lt' hn⟩

/-- The automaton takes some bytes for each character. -/
theorem exists_spells (c : Char) : ∃ bytes, Spells bytes c.toNat := by
  have hvalid : c.toNat < 0xD800 ∨ 0xDFFF < c.toNat ∧ c.toNat < 0x110000 := c.valid
  generalize c.toNat = code at *
  rcases Nat.lt_or_ge code 0x80 with hone | hmany
  · obtain ⟨b, rfl⟩ := exists_byte (n := code) (by omega)
    refine ⟨[b], .whole (opening_one ?_)⟩
    rw [UInt8.lt_iff_toNat_lt]
    exact hone
  obtain ⟨b₀, hb₀⟩ := exists_byte (n := code % 64 + 0x80) (by omega)
  have hb₀' : 0x80 ≤ b₀ ∧ b₀ ≤ 0xBF := by
    simp only [UInt8.le_iff_toNat_le, UInt8.reduceToNat]
    omega
  rcases Nat.lt_or_ge code 0x800 with htwo | hmany
  · obtain ⟨b, hb⟩ := exists_byte (n := code / 64 + 0xC0) (by omega)
    have hb' : 0xC2 ≤ b ∧ b < 0xE0 := by
      simp only [UInt8.le_iff_toNat_le, UInt8.lt_iff_toNat_lt, UInt8.reduceToNat]
      omega
    have hcode : b.toNat % 32 * 64 + b₀.toNat % 64 = code := by omega
    rw [← hcode]
    exact ⟨_, .starts (opening_two hb'.1 hb'.2) (.last hb₀'.1 hb₀'.2)⟩
  obtain ⟨b₁, hb₁⟩ := exists_byte (n := code / 64 % 64 + 0x80) (by omega)
  rcases Nat.lt_or_ge code 0x10000 with hthree | hmany
  · obtain ⟨b, hb⟩ := exists_byte (n := code / 4096 + 0xE0) (by omega)
    have hb' : 0xE0 ≤ b ∧ b < 0xF0 := by
      simp only [UInt8.le_iff_toNat_le, UInt8.lt_iff_toNat_lt, UInt8.reduceToNat]
      omega
    have hb₁' : (if b = 0xE0 then 0xA0 else 0x80) ≤ b₁ ∧ b₁ ≤ if b = 0xED then 0x9F else 0xBF := by
      simp only [UInt8.le_iff_toNat_le, ← UInt8.toNat_inj, apply_ite UInt8.toNat,
        UInt8.reduceToNat]
      split <;> split <;> omega
    have hcode : (b.toNat % 16 * 64 + b₁.toNat % 64) * 64 + b₀.toNat % 64 = code := by omega
    rw [← hcode]
    exact ⟨_, .starts (opening_three hb'.1 hb'.2) (.more hb₁'.1 hb₁'.2 (.last hb₀'.1 hb₀'.2))⟩
  · obtain ⟨b₂, hb₂⟩ := exists_byte (n := code / 4096 % 64 + 0x80) (by omega)
    obtain ⟨b, hb⟩ := exists_byte (n := code / 262144 + 0xF0) (by omega)
    have hb' : 0xF0 ≤ b ∧ b ≤ 0xF4 := by
      simp only [UInt8.le_iff_toNat_le, UInt8.reduceToNat]
      omega
    have hb₁' : 0x80 ≤ b₁ ∧ b₁ ≤ 0xBF := by
      simp only [UInt8.le_iff_toNat_le, UInt8.reduceToNat]
      omega
    have hb₂' : (if b = 0xF0 then 0x90 else 0x80) ≤ b₂ ∧ b₂ ≤ if b = 0xF4 then 0x8F else 0xBF := by
      simp only [UInt8.le_iff_toNat_le, ← UInt8.toNat_inj, apply_ite UInt8.toNat,
        UInt8.reduceToNat]
      split <;> split <;> omega
    have hcode : ((b.toNat % 8 * 64 + b₂.toNat % 64) * 64 + b₁.toNat % 64) * 64 +
        b₀.toNat % 64 = code := by omega
    rw [← hcode]
    exact ⟨_, .starts (opening_four hb'.1 hb'.2)
      (.more hb₂'.1 hb₂'.2 (.more hb₁'.1 hb₁'.2 (.last hb₀'.1 hb₀'.2)))⟩

end Codes

/-- The bytes of a character are those that take the automaton through it. -/
theorem spells_iff {bytes : List UInt8} {code : Nat} :
    Spells bytes code ↔ ∃ c, c.toNat = code ∧ String.utf8EncodeChar c = bytes := by
  constructor
  · exact Spells.exists_char
  · rintro ⟨c, rfl, rfl⟩
    obtain ⟨bytes, hspells⟩ := exists_spells c
    obtain ⟨same, hsame, rfl⟩ := hspells.exists_char
    rwa [Char.toNat_inj.mp hsame] at hspells

theorem spells_encode (c : Char) : Spells (String.utf8EncodeChar c) c.toNat :=
  spells_iff.mpr ⟨c, rfl, rfl⟩

/-! ## What the automaton says -/

theorem unitsFrom_cons (state : Option Pending) (b : UInt8) (rest : List UInt8) :
    unitsFrom state (b :: rest) = (step state b).1 ++ unitsFrom (step state b).2 rest := rfl

theorem Pending.Completes.unitsFrom {pending : Pending} {bytes : List UInt8} {code : Nat}
    (hcompletes : pending.Completes bytes code) (rest : List UInt8) :
    unitsFrom (some pending) (bytes ++ rest) = some (.ofNat code) :: unitsFrom none rest := by
  induction hcompletes with
  | last hlow hhigh => simp [Utf8.unitsFrom, step, hlow, hhigh]
  | more hlow hhigh _ ih => simp [Utf8.unitsFrom, step, hlow, hhigh, ih]

theorem unitsFrom_starts {b : UInt8} {pending : Pending} (hopening : opening b = .starts pending)
    (rest : List UInt8) : unitsFrom none (b :: rest) = unitsFrom (some pending) rest := by
  simp [unitsFrom, step, step.fresh, hopening]

theorem units_encode_append (c : Char) (rest : List UInt8) :
    units (String.utf8EncodeChar c ++ rest) = some c :: units rest := by
  have hspells := spells_encode c
  generalize String.utf8EncodeChar c = bytes at hspells
  generalize hcode : c.toNat = code at hspells
  have hchar : Char.ofNat code = c := by rw [← hcode, Char.ofNat_toNat]
  cases hspells with
  | whole hopening => simp [units, unitsFrom, step, step.fresh, hopening, hchar]
  | starts hopening htail =>
      rw [units, List.cons_append, unitsFrom_starts hopening, htail.unitsFrom, hchar, units]

theorem decodeLossy_encode_append (c : Char) (rest : List UInt8) :
    decodeLossy (String.utf8EncodeChar c ++ rest) = c :: decodeLossy rest := by
  rw [decodeLossy, units_encode_append]
  rfl

/-! ### A character that is never completed -/

/-- A character under way can be completed, and with any byte that lies in its range. -/
theorem Pending.exists_completes {low high b : UInt8} (hlow : low ≤ b) (hhigh : b ≤ high)
    (bits after : Nat) : ∃ tail code, Completes ⟨bits, low, high, after⟩ (b :: tail) code := by
  induction after generalizing bits low high b with
  | zero => exact ⟨[], _, .last hlow hhigh⟩
  | succ after ih =>
      obtain ⟨tail, code, htail⟩ := ih (show (0x80 : UInt8) ≤ 0x80 by decide)
        (show (0x80 : UInt8) ≤ 0xBF by decide) (bits * 64 + b.toNat % 64)
      exact ⟨_, code, .more hlow hhigh htail⟩

theorem range_of_opening {b : UInt8} {pending : Pending} (hopening : opening b = .starts pending) :
    0x80 ≤ pending.low ∧ pending.low ≤ pending.high := by
  rcases opening_eq_starts hopening with ⟨_, _, rfl⟩ | ⟨_, _, rfl⟩ | ⟨_, _, rfl⟩
  · exact show (0x80 : UInt8) ≤ 0x80 ∧ (0x80 : UInt8) ≤ 0xBF by decide
  · grind
  · grind

/-- The automaton has come silently from one character under way to another. -/
structure Pending.Leads (pending : Pending) (part : List UInt8) (next : Pending) : Prop where
  unitsFrom : ∀ rest, unitsFrom (some pending) (part ++ rest) = unitsFrom (some next) rest
  completes : ∀ {tail code}, next.Completes tail code → pending.Completes (part ++ tail) code

/-- Part of the way through a character the automaton has said nothing yet. -/
theorem Pending.Completes.leads {pending : Pending} {part tail : List UInt8} {code : Nat}
    (hcompletes : pending.Completes (part ++ tail) code) (htail : tail ≠ []) :
    ∃ next, pending.Leads part next := by
  induction part generalizing pending with
  | nil => exact ⟨pending, fun _ => rfl, id⟩
  | cons b part ih =>
      generalize hbytes : b :: part ++ tail = bytes at hcompletes
      cases hcompletes with
      | last =>
          rw [List.cons_append, List.cons.injEq, List.append_eq_nil_iff] at hbytes
          exact absurd hbytes.2.2 htail
      | more hlow hhigh hmore =>
          rw [List.cons_append, List.cons.injEq] at hbytes
          obtain ⟨rfl, rfl⟩ := hbytes
          obtain ⟨next, hunits, hnext⟩ := ih hmore
          refine ⟨next, fun rest => ?_, fun hlast => .more hlow hhigh (hnext hlast)⟩
          simpa [Utf8.unitsFrom, step, hlow, hhigh] using hunits rest

/-- A character that has begun and can neither be completed nor continued is given up. -/
theorem units_begun_append {part rest : List UInt8} (hmalformed : IsMalformed part rest)
    (hbegins : Begins part) : units (part ++ rest) = none :: units rest := by
  obtain ⟨c, tail, hencode⟩ := hbegins
  have htail : tail ≠ [] := by
    rintro rfl
    rw [List.append_nil] at hencode
    exact hmalformed.noCharacter c (hencode ▸ List.prefix_append part rest)
  obtain ⟨b, part, rfl⟩ := List.exists_cons_of_ne_nil hmalformed.nonempty
  generalize hbytes : b :: part ++ tail = bytes at hencode
  have hspells := hencode ▸ spells_encode c
  cases hspells with
  | whole =>
      rw [List.cons_append, List.cons.injEq, List.append_eq_nil_iff] at hbytes
      exact absurd hbytes.2.2 htail
  | @starts _ pending _ _ hopening hcompletes =>
      rw [List.cons_append, List.cons.injEq] at hbytes
      obtain ⟨rfl, rfl⟩ := hbytes
      obtain ⟨next, hunits, hnext⟩ := hcompletes.leads htail
      rw [units, List.cons_append, unitsFrom_starts hopening, hunits]
      cases rest with
      | nil => rfl
      | cons b' rest =>
          have hout : ¬(next.low ≤ b' ∧ b' ≤ next.high) := by
            rintro ⟨hlow, hhigh⟩
            obtain ⟨more, code, hmore⟩ := Pending.exists_completes hlow hhigh next.bits next.after
            obtain ⟨d, _, hd⟩ := (Spells.starts hopening (hnext hmore)).exists_char
            refine hmalformed.longest [b'] ⟨rest, rfl⟩ (by simp) ⟨d, more, ?_⟩
            rw [hd]
            simp
          simp [unitsFrom, step, hout, units]

/-- A byte with which no character begins is given up by itself. -/
theorem units_single_append {b : UInt8} (hbegins : ¬Begins [b]) (rest : List UInt8) :
    units (b :: rest) = none :: units rest := by
  cases hopening : opening b with
  | whole code =>
      obtain ⟨c, _, hc⟩ := (Spells.whole hopening).exists_char
      exact absurd ⟨c, hc ▸ List.prefix_refl [b]⟩ hbegins
  | starts pending =>
      obtain ⟨tail, code, htail⟩ := Pending.exists_completes (UInt8.le_refl pending.low)
        (range_of_opening hopening).2 pending.bits pending.after
      obtain ⟨c, _, hc⟩ := (Spells.starts hopening htail).exists_char
      exact absurd ⟨c, pending.low :: tail, hc.symm⟩ hbegins
  | malformed => simp [units, unitsFrom, step, step.fresh, hopening]

theorem units_malformed_append {part rest : List UInt8} (hmalformed : IsMalformed part rest) :
    units (part ++ rest) = none :: units rest := by
  by_cases hbegins : Begins part
  · exact units_begun_append hmalformed hbegins
  · have hlength := hmalformed.initial.resolve_right hbegins
    obtain ⟨b, rfl⟩ := List.length_eq_one_iff.mp hlength
    exact units_single_append hbegins rest

theorem decodeLossy_malformed_append {part rest : List UInt8}
    (hmalformed : IsMalformed part rest) :
    decodeLossy (part ++ rest) = replacement :: decodeLossy rest := by
  rw [decodeLossy, units_malformed_append hmalformed]
  rfl

/-! ## Decoding is exact -/

theorem Decodes.decodeLossy_eq {bytes : List UInt8} {text : List Char}
    (hdecodes : Decodes bytes text) : decodeLossy bytes = text := by
  induction hdecodes with
  | nil => rfl
  | character c _ ih => rw [decodeLossy_encode_append, ih]
  | malformed hpart _ ih => rw [decodeLossy_malformed_append hpart, ih]

/-- What has begun as a malformed stretch goes on for as long as it can. -/
theorem exists_isMalformed {part rest : List UInt8} (hnonempty : part ≠ [])
    (hinitial : part.length = 1 ∨ Begins part)
    (hcharacter : ∀ c, ¬String.utf8EncodeChar c <+: part ++ rest) :
    ∃ more last, rest = more ++ last ∧ IsMalformed (part ++ more) last := by
  induction rest generalizing part with
  | nil =>
      refine ⟨[], [], rfl, ?_⟩
      rw [List.append_nil]
      exact ⟨hnonempty, hcharacter, hinitial, fun more hmore hne =>
        absurd (List.prefix_nil.mp hmore) hne⟩
  | cons b rest ih =>
      by_cases hbegins : Begins (part ++ [b])
      · rw [List.append_cons] at hcharacter
        obtain ⟨more, last, rfl, hmalformed⟩ := ih (by simp) (Or.inr hbegins) hcharacter
        refine ⟨b :: more, last, rfl, ?_⟩
        rwa [List.append_cons]
      · refine ⟨[], b :: rest, rfl, ?_⟩
        rw [List.append_nil]
        refine ⟨hnonempty, hcharacter, hinitial, fun more hmore hne hlonger => ?_⟩
        obtain ⟨b', more, rfl⟩ := List.exists_cons_of_ne_nil hne
        obtain ⟨rfl, _⟩ := List.cons_prefix_cons.mp hmore
        rw [List.append_cons] at hlonger
        exact hbegins hlonger.of_append

theorem exists_decodes (bytes : List UInt8) : ∃ text, Decodes bytes text := by
  induction hlength : bytes.length using Nat.strong_induction_on generalizing bytes with
  | _ length ih =>
      subst hlength
      by_cases hcharacter : ∃ c, String.utf8EncodeChar c <+: bytes
      · obtain ⟨c, rest, rfl⟩ := hcharacter
        have hpos : 0 < (String.utf8EncodeChar c).length := by
          rw [String.length_utf8EncodeChar]
          exact c.utf8Size_pos
        obtain ⟨text, htext⟩ := ih rest.length (by rw [List.length_append]; omega) rest rfl
        exact ⟨_, .character c htext⟩
      · rw [not_exists] at hcharacter
        cases bytes with
        | nil => exact ⟨[], .nil⟩
        | cons b rest =>
            obtain ⟨more, last, rfl, hmalformed⟩ :=
              exists_isMalformed (List.cons_ne_nil b []) (Or.inl rfl) hcharacter
            have hshorter : last.length < (b :: more ++ last).length := by
              rw [List.length_append, List.length_cons]
              omega
            obtain ⟨text, htext⟩ := ih last.length hshorter last rfl
            exact ⟨_, .malformed hmalformed htext⟩

/-- **Decoding is exact.** It reads the characters of whatever bytes are characters, and replaces
every malformed stretch, as far as it reaches, with one replacement character. -/
theorem decodes_iff {bytes : List UInt8} {text : List Char} :
    Decodes bytes text ↔ decodeLossy bytes = text := by
  constructor
  · exact Decodes.decodeLossy_eq
  · rintro rfl
    obtain ⟨text, htext⟩ := exists_decodes bytes
    rwa [htext.decodeLossy_eq]

@[simp] theorem decodeLossy_eq_nil_iff {bytes : List UInt8} :
    decodeLossy bytes = [] ↔ bytes = [] := by
  constructor
  · intro hnone
    have hdecodes := decodes_iff.mpr hnone
    cases hdecodes
    rfl
  · rintro rfl
    rfl

/-! ## Text and back -/

/-- What is decoded from the bytes of a text is the text. -/
theorem decodeLossy_flatMap_encode (text : List Char) :
    decodeLossy (text.flatMap String.utf8EncodeChar) = text := by
  induction text with
  | nil => rfl
  | cons c text ih => rw [List.flatMap_cons, decodeLossy_encode_append, ih]

theorem decode?_flatMap_encode (text : List Char) :
    decode? (text.flatMap String.utf8EncodeChar) = some text := by
  rw [decode?]
  induction text with
  | nil => rfl
  | cons c text ih =>
      rw [List.flatMap_cons, units_encode_append, List.mapM_cons, ih]
      rfl

/-- Only the bytes of a text are decoded without replacing any of them. -/
theorem decode?_eq_some_iff {bytes : List UInt8} {text : List Char} :
    decode? bytes = some text ↔ bytes = text.flatMap String.utf8EncodeChar := by
  constructor
  · intro hdecode
    obtain ⟨lossy, hdecodes⟩ := exists_decodes bytes
    rw [decode?] at hdecode
    induction hdecodes generalizing text with
    | nil => cases hdecode; rfl
    | character c _ ih =>
        rw [units_encode_append, List.mapM_cons] at hdecode
        obtain ⟨_, hc, hdecode⟩ := Option.bind_eq_some_iff.mp hdecode
        obtain ⟨more, hmore, htext⟩ := Option.bind_eq_some_iff.mp hdecode
        cases hc
        cases htext
        rw [List.flatMap_cons, ← ih hmore]
    | malformed hpart =>
        rw [units_malformed_append hpart, List.mapM_cons] at hdecode
        cases hdecode
  · rintro rfl
    exact decode?_flatMap_encode text

theorem toList_toUTF8 (text : String) :
    text.toUTF8.data.toList = text.toList.flatMap String.utf8EncodeChar := by
  rw [String.toUTF8, ← String.utf8Encode_toList, List.utf8Encode, List.toList_data_toByteArray]

/-! ## ASCII characters -/

/-- Where the next byte of a character has to come, no byte of an ASCII character can. -/
theorem low_of_step {state : Option Pending} {b : UInt8} {next : Pending}
    (hstep : (step state b).2 = some next) : 0x80 ≤ next.low := by
  have hfresh : ∀ {next}, (step.fresh b).2 = some next → 0x80 ≤ next.low := by
    intro next hnext
    cases hopening : opening b with
    | starts pending =>
        simp only [step.fresh, hopening, Option.some.injEq] at hnext
        exact hnext ▸ (range_of_opening hopening).1
    | _ => simp [step.fresh, hopening] at hnext
  cases state with
  | none => exact hfresh hstep
  | some pending =>
      obtain ⟨bits, low, high, after⟩ := pending
      by_cases hrange : low ≤ b ∧ b ≤ high
      · cases after with
        | zero => simp [step, hrange] at hstep
        | succ after =>
            simp only [step, hrange, and_self, if_true, Option.some.injEq] at hstep
            exact hstep ▸ UInt8.le_refl 0x80
      · simp only [step, if_neg hrange] at hstep
        exact hfresh hstep

theorem unitsFrom_append_ascii (before : List UInt8) {b : UInt8} (hb : b < 0x80)
    (rest : List UInt8) {state : Option Pending} (hstate : ∀ p ∈ state, 0x80 ≤ p.low) :
    unitsFrom state (before ++ b :: rest) =
      unitsFrom state before ++ some (.ofNat b.toNat) :: units rest := by
  induction before generalizing state with
  | nil =>
      cases state with
      | none => simp [unitsFrom, step, step.fresh, opening_one hb, units]
      | some pending =>
          have hout : ¬(pending.low ≤ b ∧ b ≤ pending.high) := by
            have hlow := hstate pending rfl
            grind
          simp [unitsFrom, step, step.fresh, hout, opening_one hb, units]
  | cons a before ih =>
      rw [List.cons_append, unitsFrom_cons, ih fun p hp => low_of_step hp, unitsFrom_cons,
        List.append_assoc]

/-- An ASCII character stands between what comes before it and what comes after it. -/
theorem decodeLossy_append_ascii (before : List UInt8) {b : UInt8} (hb : b < 0x80)
    (rest : List UInt8) :
    decodeLossy (before ++ b :: rest) =
      decodeLossy before ++ .ofNat b.toNat :: decodeLossy rest := by
  rw [decodeLossy, units, unitsFrom_append_ascii before hb rest (by simp)]
  simp [decodeLossy, units]

theorem encode_ascii {b : UInt8} (hb : b < 0x80) :
    String.utf8EncodeChar (.ofNat b.toNat) = [b] := by
  obtain ⟨c, hc, hencode⟩ := exists_char_one hb
  rw [← hc, Char.ofNat_toNat, hencode]

/-- Where an ASCII character has been decoded, there is its byte. -/
theorem exists_of_decodeLossy_eq_append {bytes : List UInt8} {before after : List Char} {b : UInt8}
    (hb : b < 0x80) (hdecode : decodeLossy bytes = before ++ .ofNat b.toNat :: after) :
    ∃ first last, bytes = first ++ b :: last ∧ decodeLossy first = before ∧
      decodeLossy last = after := by
  have hencode := encode_ascii hb
  generalize Char.ofNat b.toNat = c at hdecode hencode
  generalize htext : before ++ c :: after = text at hdecode
  have hdecodes := decodes_iff.mpr hdecode
  clear hdecode
  induction hdecodes generalizing before with
  | nil => simp at htext
  | @character d rest _ hrest ih =>
      cases before with
      | nil =>
          obtain ⟨rfl, rfl⟩ := List.cons.inj htext
          exact ⟨[], rest, by rw [hencode]; rfl, rfl, hrest.decodeLossy_eq⟩
      | cons d' before =>
          obtain ⟨rfl, htail⟩ := List.cons.inj htext
          obtain ⟨first, last, rfl, hfirst, hlast⟩ := ih htail
          refine ⟨String.utf8EncodeChar d' ++ first, last, ?_, ?_, hlast⟩
          · rw [List.append_assoc]
          · rw [decodeLossy_encode_append, hfirst]
  | @malformed part rest _ hpart hrest ih =>
      cases before with
      | nil =>
          -- the replacement character is no ASCII character
          obtain ⟨rfl, _⟩ := List.cons.inj htext
          have hthree : (String.utf8EncodeChar replacement).length = 3 := by decide
          rw [hencode] at hthree
          cases hthree
      | cons d' before =>
          obtain ⟨rfl, htail⟩ := List.cons.inj htext
          obtain ⟨first, last, rfl, hfirst, hlast⟩ := ih htail
          refine ⟨part ++ first, last, ?_, ?_, hlast⟩
          · rw [List.append_assoc]
          · rw [decodeLossy_malformed_append hpart.of_append, hfirst]

theorem mem_decodeLossy_iff {bytes : List UInt8} {b : UInt8} (hb : b < 0x80) :
    .ofNat b.toNat ∈ decodeLossy bytes ↔ b ∈ bytes := by
  constructor
  · intro hmem
    obtain ⟨before, after, hdecode⟩ := List.append_of_mem hmem
    obtain ⟨first, last, rfl, _⟩ := exists_of_decodeLossy_eq_append hb hdecode
    simp
  · intro hmem
    obtain ⟨before, rest, rfl⟩ := List.append_of_mem hmem
    rw [decodeLossy_append_ascii before hb]
    exact List.mem_append_right _ List.mem_cons_self

theorem getLast?_decodeLossy_iff {bytes : List UInt8} {b : UInt8} (hb : b < 0x80) :
    (decodeLossy bytes).getLast? = some (.ofNat b.toNat) ↔ bytes.getLast? = some b := by
  constructor
  · intro hlast
    obtain ⟨front, hdecode⟩ := List.getLast?_eq_some_iff.mp hlast
    obtain ⟨first, last, rfl, _, hnone⟩ := exists_of_decodeLossy_eq_append hb hdecode
    rw [decodeLossy_eq_nil_iff.mp hnone, List.getLast?_concat]
  · intro hlast
    obtain ⟨front, rfl⟩ := List.getLast?_eq_some_iff.mp hlast
    rw [decodeLossy_append_ascii front hb]
    simp [decodeLossy, units, unitsFrom]

end CastleEscape.Text.Utf8
