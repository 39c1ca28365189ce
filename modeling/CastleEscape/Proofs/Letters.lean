import CastleEscape.Text.Blank
import CastleEscape.Text.LowerCase
import Mathlib.Data.List.Basic

/-!
# Letters in lower case

Which characters become a small letter of ASCII: the letters of ASCII itself, and two others. The
rest of the table leads from characters outside ASCII to characters outside ASCII, which is seen by
going through its runs. In the same way blanks are seen to stay blanks, and no letter becomes one.
-/

namespace CastleEscape.Text

/-! ## The case of ASCII letters -/

/-- What holds of the capitals of ASCII holds of every character that `Char.toLower` changes. -/
theorem congr_toLower {α : Type} [DecidableEq α] (f : Char → α)
    (hcapitals : ((List.range' 65 26).all fun n =>
      f (Char.ofNat n).toLower = f (Char.ofNat n)) = true) (c : Char) : f c.toLower = f c := by
  by_cases hcapital : 65 ≤ c.toNat ∧ c.toNat ≤ 90
  · have hmem : c.toNat ∈ List.range' 65 26 := by
      rw [List.mem_range'_1]
      omega
    have hsame := of_decide_eq_true (List.all_eq_true.mp hcapitals c.toNat hmem)
    rwa [Char.ofNat_toNat] at hsame
  · have hsame : c.toLower = c := by
      unfold Char.toLower
      rw [dif_neg]
      rintro ⟨hle, hge⟩
      exact hcapital ⟨UInt32.le_iff_toNat_le.mp hle, UInt32.le_iff_toNat_le.mp hge⟩
    rw [hsame]

theorem isBlank_toLower (c : Char) : isBlank c.toLower = isBlank c :=
  congr_toLower isBlank (by decide) c

/-! ## Small letters of ASCII -/

namespace LowerCase

theorem ofChar_ne_nil (c : Char) : ofChar c ≠ [] := by
  unfold ofChar
  split
  · simp
  · split <;> simp

/-- The small letters that the table gives are characters outside ASCII, but for that of the Kelvin
sign. -/
theorem bounds_of_mem_capitalRuns :
    ∀ run ∈ capitalRuns,
      (0x80 ≤ run.first + run.shift ∧
        (run.last + run.shift < 0xD800 ∨
          0xE000 ≤ run.first + run.shift ∧ run.last + run.shift < 0x110000)) ∨
        run.first = 0x212A ∧ run.last = 0x212A ∧ run.shift = -8383 := by
  decide +kernel

theorem small?_cases {run : CapitalRun} (hrun : run ∈ capitalRuns) {code small : Nat}
    (hsmall : run.small? code = some small) :
    0x80 ≤ small ∧ small.isValidChar ∨ code = 0x212A ∧ small = 0x6B := by
  simp only [CapitalRun.small?, Option.ite_none_right_eq_some, Option.some.injEq] at hsmall
  obtain ⟨⟨hfirst, hlast, _⟩, hcode⟩ := hsmall
  rcases bounds_of_mem_capitalRuns run hrun with ⟨hbeyond, hvalid⟩ | ⟨hkelvin, hkelvin', hshift⟩
  · refine Or.inl ⟨by omega, ?_⟩
    unfold Nat.isValidChar
    omega
  · exact Or.inr ⟨by omega, by omega⟩

theorem toNat_ofNat {code : Nat} (hvalid : code.isValidChar) : (Char.ofNat code).toNat = code := by
  rw [Char.ofNat, dif_pos hvalid]
  rfl

/-- Only from two characters outside ASCII does a small letter of ASCII come: from the dotted
capital I and from the Kelvin sign. -/
theorem ascii_of_mem_ofChar {c small : Char} (hmem : small ∈ ofChar c)
    (hascii : small.toNat < 0x80) :
    c.toNat < 0x80 ∧ small = c.toLower ∨ c = 'İ' ∧ small = 'i' ∨ c = '\u212a' ∧ small = 'k' := by
  unfold ofChar at hmem
  split at hmem
  case isTrue hplain => exact Or.inl ⟨hplain, List.mem_singleton.mp hmem⟩
  case isFalse hplain =>
    split at hmem
    case isTrue hdotted =>
      rcases List.mem_pair.mp hmem with rfl | rfl
      · exact Or.inr (Or.inl ⟨hdotted, rfl⟩)
      · exact absurd hascii (by decide)
    case isFalse =>
      rw [List.mem_singleton] at hmem
      cases hfound : capitalRuns.findSome? (·.small? c.toNat) with
      | none =>
          have hsame : small = c := by simpa [hfound] using hmem
          exact absurd (hsame ▸ hascii) hplain
      | some code =>
          have hletter : small = Char.ofNat code := by simpa [hfound] using hmem
          obtain ⟨run, hrun, hsmall⟩ := List.exists_of_findSome?_eq_some hfound
          rcases small?_cases hrun hsmall with ⟨hbeyond, hvalid⟩ | ⟨hkelvin, rfl⟩
          · rw [hletter, toNat_ofNat hvalid] at hascii
            exact absurd hascii (Nat.not_lt.mpr hbeyond)
          · refine Or.inr (Or.inr ⟨?_, hletter⟩)
            exact Char.toNat_inj.mp hkelvin

/-! ## Blanks

A capital is not blank, and neither is its small letter. -/

/-- The codes of the blank characters. -/
def blankRanges : List (Nat × Nat) :=
  [(0x09, 0x0D), (0x20, 0x20), (0x85, 0x85), (0xA0, 0xA0), (0x1680, 0x1680), (0x2000, 0x200A),
   (0x2028, 0x2029), (0x202F, 0x202F), (0x205F, 0x205F), (0x3000, 0x3000)]

theorem exists_blankRange {c : Char} (hblank : isBlank c = true) :
    ∃ range ∈ blankRanges, range.1 ≤ c.toNat ∧ c.toNat ≤ range.2 := by
  have hin : inRanges blankRanges c = true := by
    simp only [isBlank, Bool.or_eq_true, Bool.and_eq_true, decide_eq_true_eq, beq_iff_eq] at hblank
    simp only [inRanges, blankRanges, List.any_cons, List.any_nil, Bool.or_eq_true,
      Bool.and_eq_true, decide_eq_true_eq, Bool.false_eq_true, or_false]
    omega
  obtain ⟨range, hrange, hbounds⟩ := List.any_eq_true.mp hin
  rw [Bool.and_eq_true, decide_eq_true_eq, decide_eq_true_eq] at hbounds
  exact ⟨range, hrange, hbounds⟩

theorem capitalRuns_apart_from_blanks :
    ∀ run ∈ capitalRuns, ∀ range ∈ blankRanges,
      (run.last < range.1 ∨ range.2 < run.first) ∧
        (run.last + run.shift < range.1 ∨ range.2 < run.first + run.shift) := by
  decide +kernel

theorem isBlank_of_small? {run : CapitalRun} (hrun : run ∈ capitalRuns) {c : Char} {code : Nat}
    (hsmall : run.small? c.toNat = some code) :
    isBlank c = false ∧ isBlank (Char.ofNat code) = false := by
  have hcases := small?_cases hrun hsmall
  simp only [CapitalRun.small?, Option.ite_none_right_eq_some, Option.some.injEq] at hsmall
  obtain ⟨⟨hfirst, hlast, _⟩, hcode⟩ := hsmall
  constructor
  · refine Bool.eq_false_iff.mpr fun hblank => ?_
    obtain ⟨range, hrange, hfrom, hto⟩ := exists_blankRange hblank
    have hapart := (capitalRuns_apart_from_blanks run hrun range hrange).1
    omega
  · rcases hcases with ⟨hbeyond, hvalid⟩ | ⟨_, rfl⟩
    · refine Bool.eq_false_iff.mpr fun hblank => ?_
      obtain ⟨range, hrange, hfrom, hto⟩ := exists_blankRange hblank
      have hapart := (capitalRuns_apart_from_blanks run hrun range hrange).2
      rw [toNat_ofNat hvalid] at hfrom hto
      omega
    · rfl

/-- What a character becomes is blank if the character is. -/
theorem isBlank_of_mem_ofChar {c small : Char} (hmem : small ∈ ofChar c) :
    isBlank small = isBlank c := by
  unfold ofChar at hmem
  split at hmem
  case isTrue =>
    rw [List.mem_singleton.mp hmem]
    exact isBlank_toLower c
  case isFalse =>
    split at hmem
    case isTrue hdotted =>
      subst hdotted
      rcases List.mem_pair.mp hmem with rfl | rfl <;> rfl
    case isFalse =>
      rw [List.mem_singleton] at hmem
      cases hfound : capitalRuns.findSome? (·.small? c.toNat) with
      | none => rw [show small = c by simpa [hfound] using hmem]
      | some code =>
          obtain ⟨run, hrun, hsmall⟩ := List.exists_of_findSome?_eq_some hfound
          obtain ⟨hcapital, hletter⟩ := isBlank_of_small? hrun hsmall
          rw [show small = Char.ofNat code by simpa [hfound] using hmem, hcapital, hletter]

end LowerCase

end CastleEscape.Text
