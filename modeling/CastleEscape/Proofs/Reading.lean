import CastleEscape.Proofs.Decoding
import CastleEscape.Text.Lines
import Mathlib.Data.List.Induction

/-!
# Reading lines

`Lines.ofBytes` has all the lines of an input at once. Here they are read one after the other, as
long as there are any (`Reads`), they are the pieces between the line feeds (`split_eq_splitOn`), and
it makes no difference whether the input is first decoded and then split (`map_decodeLossy_split`):
no line feed and no return is ever part of a malformed stretch.

* `Lines.byLines` is the induction that all of this is proved by: one line, and the lines after it;
* `Lines.reading_exact` puts it together and says how text has to be written to be read back.
-/

namespace CastleEscape.Text.Lines

open Utf8 (decodeLossy)

/-! ## One line and the lines after it -/

section Splitting

variable {α : Type} [DecidableEq α] {feed ret : α}

theorem withoutReturn_eq_self_iff {line : List α} :
    withoutReturn ret line = line ↔ line.getLast? ≠ some ret := by
  constructor
  · intro hself hlast
    obtain ⟨front, rfl⟩ := List.getLast?_eq_some_iff.mp hlast
    rw [withoutReturn_concat] at hself
    simpa using congrArg List.length hself
  · intro hlast
    exact if_neg hlast

theorem mem_of_mem_withoutReturn {line : List α} {x : α} (hx : x ∈ withoutReturn ret line) :
    x ∈ line := by
  unfold withoutReturn at hx
  split at hx
  · exact List.mem_of_mem_dropLast hx
  · exact hx

theorem ended_reverse (line : List α) : ended ret line.reverse = withoutReturn ret line := by
  induction line using List.reverseRecOn with
  | nil => rfl
  | append_singleton front x =>
      rw [List.reverse_append, List.reverse_singleton, List.singleton_append, ended]
      by_cases hx : x = ret
      · rw [if_pos hx, hx, withoutReturn_concat, List.reverse_reverse]
      · rw [if_neg hx, withoutReturn_eq_self_iff.mpr (by simpa using hx)]
        simp

theorem splitFrom_ended (line : List α) {before : List α} (hbefore : feed ∉ before)
    (rest : List α) :
    splitFrom feed ret line.reverse (before ++ feed :: rest) =
      withoutReturn ret (line ++ before) :: split feed ret rest := by
  induction before generalizing line with
  | nil => simp [splitFrom, ended_reverse, split]
  | cons x before ih =>
      rw [List.mem_cons, not_or] at hbefore
      obtain ⟨hx, hbefore⟩ := hbefore
      have hnext := ih (line ++ [x]) hbefore
      rw [List.reverse_append, List.reverse_singleton, List.singleton_append,
        List.append_assoc] at hnext
      rw [List.cons_append, splitFrom, if_neg (Ne.symm hx), hnext]
      rfl

theorem split_ended {before : List α} (hbefore : feed ∉ before) (rest : List α) :
    split feed ret (before ++ feed :: rest) =
      withoutReturn ret before :: split feed ret rest :=
  splitFrom_ended [] hbefore rest

theorem splitFrom_last (line : List α) {last : List α} (hlast : feed ∉ last) :
    splitFrom feed ret line.reverse last = [line ++ last].filter (· ≠ []) := by
  induction last generalizing line with
  | nil => cases line <;> simp [splitFrom]
  | cons x last ih =>
      rw [List.mem_cons, not_or] at hlast
      obtain ⟨hx, hlast⟩ := hlast
      have hnext := ih (line ++ [x]) hlast
      rw [List.reverse_append, List.reverse_singleton, List.singleton_append,
        List.append_assoc] at hnext
      rw [splitFrom, if_neg (Ne.symm hx), hnext]
      rfl

theorem split_last {last : List α} (hlast : feed ∉ last) :
    split feed ret last = [last].filter (· ≠ []) :=
  splitFrom_last [] hlast

/-- What is true of everything without a line feed, and stays true with a line before it, is always
true. -/
theorem byLines {motive : List α → Prop} (feed : α) (last : ∀ last, feed ∉ last → motive last)
    (line : ∀ before rest, feed ∉ before → motive rest → motive (before ++ feed :: rest))
    (xs : List α) : motive xs := by
  induction hlength : xs.length using Nat.strong_induction_on generalizing xs with
  | _ length ih =>
      subst hlength
      by_cases hfeed : feed ∈ xs
      · obtain ⟨before, rest, rfl, hbefore⟩ := List.eq_append_cons_of_mem hfeed
        have hshorter : rest.length < (before ++ feed :: rest).length := by
          simp
          omega
        exact line before rest hbefore (ih rest.length hshorter rest rfl)
      · exact last xs hfeed

/-- There is nothing in the lines that was not there before. -/
theorem mem_of_mem_split {xs line : List α} {x : α} (hline : line ∈ split feed ret xs)
    (hx : x ∈ line) : x ∈ xs := by
  induction xs using byLines feed with
  | last last hlast =>
      rw [split_last hlast] at hline
      rwa [List.mem_singleton.mp (List.mem_filter.mp hline).1] at hx
  | line before rest hbefore ih =>
      rw [split_ended hbefore, List.mem_cons] at hline
      rw [List.mem_append]
      rcases hline with rfl | hline
      · exact Or.inl (mem_of_mem_withoutReturn hx)
      · exact Or.inr (List.mem_cons_of_mem _ (ih hline))

/-! ## The pieces between the line feeds -/

/-- The return goes from every piece that was ended by a line feed; the last piece was not, and is
no line if there is nothing in it. -/
theorem split_eq_splitOn (feed ret : α) (xs : List α) :
    split feed ret xs = (xs.splitOn feed).dropLast.map (withoutReturn ret) ++
      [(xs.splitOn feed).getLastD []].filter (· ≠ []) := by
  induction xs using byLines feed with
  | last last hlast =>
      rw [split_last hlast, List.splitOn_eq_singleton hlast]
      rfl
  | line before rest hbefore ih =>
      rw [split_ended hbefore, ih, List.splitOn_append_cons_self_of_not_mem hbefore]
      obtain ⟨piece, pieces, hpieces⟩ := List.exists_cons_of_ne_nil (List.splitOn_ne_nil feed rest)
      rw [hpieces]
      simp

end Splitting

/-! ## Splitting before and after decoding -/

theorem decodeLossy_withoutReturn (line : List UInt8) :
    decodeLossy (withoutReturn 0x0D line) = withoutReturn '\r' (decodeLossy line) := by
  by_cases hlast : line.getLast? = some 0x0D
  · obtain ⟨front, rfl⟩ := List.getLast?_eq_some_iff.mp hlast
    rw [withoutReturn_concat, Utf8.decodeLossy_append_ascii front (by decide)]
    exact (withoutReturn_concat (decodeLossy front)).symm
  · have hdecoded : (decodeLossy line).getLast? ≠ some '\r' := by
      rw [ne_eq, ← Utf8.getLast?_decodeLossy_iff (show (0x0D : UInt8) < 0x80 by decide)] at *
      exact hlast
    rw [withoutReturn_eq_self_iff.mpr hlast, withoutReturn_eq_self_iff.mpr hdecoded]

/-- No line feed and no return is ever part of a malformed stretch. -/
theorem map_decodeLossy_split (bytes : List UInt8) :
    (split 0x0A 0x0D bytes).map decodeLossy = ofChars (decodeLossy bytes) := by
  induction bytes using byLines (0x0A : UInt8) with
  | last last hlast =>
      have hdecoded : '\n' ∉ decodeLossy last := by
        intro hmem
        exact hlast ((Utf8.mem_decodeLossy_iff (show (0x0A : UInt8) < 0x80 by decide)).mp hmem)
      rw [split_last hlast, ofChars, split_last hdecoded]
      by_cases hnone : last = []
      · rw [hnone, Utf8.decodeLossy_eq_nil_iff.mpr rfl]
        rfl
      · simp [hnone]
  | line before rest hbefore ih =>
      have hdecoded : '\n' ∉ decodeLossy before := by
        intro hmem
        exact hbefore ((Utf8.mem_decodeLossy_iff (show (0x0A : UInt8) < 0x80 by decide)).mp hmem)
      rw [split_ended hbefore, List.map_cons, ih, decodeLossy_withoutReturn, ofChars,
        Utf8.decodeLossy_append_ascii before (by decide)]
      exact (split_ended hdecoded _).symm

theorem ofBytes_eq_ofText (bytes : List UInt8) :
    ofBytes bytes = ofText (.ofList (decodeLossy bytes)) := by
  rw [ofText, String.toList_ofList, ← map_decodeLossy_split, List.map_map]
  rfl

/-! ## One call after the other -/

theorem readUntilFeed_last {last : List UInt8} (hlast : 0x0A ∉ last) :
    readUntilFeed last = (last, []) := by
  induction last with
  | nil => rfl
  | cons b last ih =>
      rw [List.mem_cons, not_or] at hlast
      rw [readUntilFeed, if_neg (Ne.symm hlast.1), ih hlast.2]

theorem readUntilFeed_ended {before : List UInt8} (hbefore : 0x0A ∉ before) (rest : List UInt8) :
    readUntilFeed (before ++ 0x0A :: rest) = (before ++ [0x0A], rest) := by
  induction before with
  | nil => rfl
  | cons b before ih =>
      rw [List.mem_cons, not_or] at hbefore
      rw [List.cons_append, readUntilFeed, if_neg (Ne.symm hbefore.1), ih hbefore.2]
      rfl

theorem read?_ended {before : List UInt8} (hbefore : 0x0A ∉ before) (rest : List UInt8) :
    read? (before ++ 0x0A :: rest) =
      some (.ofList (decodeLossy (withoutReturn 0x0D before)), rest) := by
  have hending : withoutEnding (before ++ [0x0A]) = withoutReturn 0x0D before := by
    simp [withoutEnding]
  rw [read?, readUntilFeed_ended hbefore, ← hending]
  cases before <;> rfl

theorem read?_last {last : List UInt8} (hlast : 0x0A ∉ last) :
    read? last = if last = [] then none else some (.ofList (decodeLossy last), []) := by
  have hending : withoutEnding last = last := by
    refine if_neg fun hfeed => hlast ?_
    exact List.mem_of_getLast? hfeed
  rw [read?, readUntilFeed_last hlast]
  cases last with
  | nil => rfl
  | cons b last => simp only [hending, List.cons_ne_nil, if_false]

theorem ofBytes_ended {before : List UInt8} (hbefore : 0x0A ∉ before) (rest : List UInt8) :
    ofBytes (before ++ 0x0A :: rest) =
      .ofList (decodeLossy (withoutReturn 0x0D before)) :: ofBytes rest := by
  rw [ofBytes, split_ended hbefore]
  rfl

theorem ofBytes_last {last : List UInt8} (hlast : 0x0A ∉ last) :
    ofBytes last = if last = [] then [] else [.ofList (decodeLossy last)] := by
  rw [ofBytes, split_last hlast]
  cases last <;> rfl

/-- The next line is the first of those that there are, and the others are left. -/
theorem ofBytes_eq_read? (bytes : List UInt8) :
    ofBytes bytes = match read? bytes with
      | none => []
      | some (line, rest) => line :: ofBytes rest := by
  by_cases hfeed : 0x0A ∈ bytes
  · obtain ⟨before, rest, rfl, hbefore⟩ := List.eq_append_cons_of_mem hfeed
    rw [read?_ended hbefore, ofBytes_ended hbefore]
  · rw [read?_last hfeed, ofBytes_last hfeed]
    split <;> rfl

/-- Nothing is read twice and nothing is left out. -/
theorem reads_iff {bytes : List UInt8} {lines : List String} :
    Reads bytes lines ↔ ofBytes bytes = lines := by
  constructor
  · intro hreads
    induction hreads with
    | done hnone => rw [ofBytes_eq_read?, hnone]
    | line hline _ ih => rw [ofBytes_eq_read?, hline, ← ih]
  · rintro rfl
    induction bytes using byLines (0x0A : UInt8) with
    | last last hlast =>
        have hread := read?_last hlast
        rw [ofBytes_last hlast]
        split at hread
        case isTrue hnone =>
          rw [if_pos hnone]
          exact .done hread
        case isFalse hsome =>
          rw [if_neg hsome]
          exact .line hread (.done rfl)
    | line before rest hbefore ih =>
        rw [ofBytes_ended hbefore]
        exact .line (read?_ended hbefore rest) ih

/-! ## Writing lines to be read -/

/-- Lines with the same ending after each. -/
def written (ending : List UInt8) (lines : List String) : List UInt8 :=
  lines.flatMap fun line => line.toUTF8.data.toList ++ ending

/-- A return before every line feed. -/
def withReturns (bytes : List UInt8) : List UInt8 :=
  bytes.flatMap fun b => if b = 0x0A then [0x0D, 0x0A] else [b]

theorem decodeLossy_toUTF8 (text : String) : decodeLossy text.toUTF8.data.toList = text.toList := by
  rw [Utf8.toList_toUTF8, Utf8.decodeLossy_flatMap_encode]

theorem not_mem_toUTF8 {text : String} (hfeed : '\n' ∉ text.toList) :
    0x0A ∉ text.toUTF8.data.toList := by
  intro hmem
  rw [← Utf8.mem_decodeLossy_iff (by decide), decodeLossy_toUTF8] at hmem
  exact hfeed hmem

theorem ofBytes_written_crlf {lines : List String} (hfeeds : ∀ line ∈ lines, '\n' ∉ line.toList) :
    ofBytes (written [0x0D, 0x0A] lines) = lines := by
  induction lines with
  | nil => rfl
  | cons line lines ih =>
      obtain ⟨hline, hlines⟩ := List.forall_mem_cons.mp hfeeds
      have hbefore : 0x0A ∉ line.toUTF8.data.toList ++ [0x0D] := by
        rw [List.mem_append, not_or]
        exact ⟨not_mem_toUTF8 hline, by decide⟩
      have hwritten : written [0x0D, 0x0A] (line :: lines) =
          (line.toUTF8.data.toList ++ [0x0D]) ++ 0x0A :: written [0x0D, 0x0A] lines := by
        simp [written]
      rw [hwritten, ofBytes_ended hbefore, withoutReturn_concat, decodeLossy_toUTF8,
        String.ofList_toList, ih hlines]

theorem ofBytes_written_lf {lines : List String} (hfeeds : ∀ line ∈ lines, '\n' ∉ line.toList) :
    ofBytes (written [0x0A] lines) =
      lines.map fun line => .ofList (withoutReturn '\r' line.toList) := by
  induction lines with
  | nil => rfl
  | cons line lines ih =>
      obtain ⟨hline, hlines⟩ := List.forall_mem_cons.mp hfeeds
      have hwritten : written [0x0A] (line :: lines) =
          line.toUTF8.data.toList ++ 0x0A :: written [0x0A] lines := by
        simp [written]
      rw [hwritten, ofBytes_ended (not_mem_toUTF8 hline), decodeLossy_withoutReturn,
        decodeLossy_toUTF8, ih hlines, List.map_cons]

/-- With plain line feeds just those lines come back that have no return to lose. -/
theorem ofBytes_written_lf_iff {lines : List String}
    (hfeeds : ∀ line ∈ lines, '\n' ∉ line.toList) :
    ofBytes (written [0x0A] lines) = lines ↔
      ∀ line ∈ lines, line.toList.getLast? ≠ some '\r' := by
  have hself : ∀ line : String, .ofList (withoutReturn '\r' line.toList) = line ↔
      line.toList.getLast? ≠ some '\r' := by
    intro line
    rw [← withoutReturn_eq_self_iff, ← String.toList_inj, String.toList_ofList]
  rw [ofBytes_written_lf hfeeds]
  nth_rewrite 2 [← List.map_id lines]
  rw [List.map_inj_left]
  exact forall₂_congr fun line _ => hself line

theorem withReturns_of_not_mem {bytes : List UInt8} (hfeed : 0x0A ∉ bytes) :
    withReturns bytes = bytes := by
  induction bytes with
  | nil => rfl
  | cons b bytes ih =>
      rw [List.mem_cons, not_or] at hfeed
      rw [withReturns, List.flatMap_cons, if_neg (Ne.symm hfeed.1)]
      exact congrArg (b :: ·) (ih hfeed.2)

theorem ofBytes_withReturns {bytes : List UInt8} (hreturn : 0x0D ∉ bytes) :
    ofBytes (withReturns bytes) = ofBytes bytes := by
  induction bytes using byLines (0x0A : UInt8) with
  | last last hlast => rw [withReturns_of_not_mem hlast]
  | line before rest hbefore ih =>
      rw [List.mem_append, List.mem_cons, not_or, not_or] at hreturn
      obtain ⟨hreturn, _, hreturns⟩ := hreturn
      have hended : withReturns (before ++ 0x0A :: rest) =
          (before ++ [0x0D]) ++ 0x0A :: withReturns rest := by
        rw [withReturns, List.flatMap_append, ← withReturns, withReturns_of_not_mem hbefore,
          List.flatMap_cons, if_pos rfl, ← withReturns]
        simp
      have hbefore' : 0x0A ∉ before ++ [0x0D] := by
        rw [List.mem_append, not_or]
        exact ⟨hbefore, by decide⟩
      have hlast : before.getLast? ≠ some 0x0D := fun hlast =>
        hreturn (List.mem_of_getLast? hlast)
      rw [hended, ofBytes_ended hbefore', ofBytes_ended hbefore, withoutReturn_concat,
        withoutReturn_eq_self_iff.mpr hlast, ih hreturns]

/-! ## Reading is exact -/

/-- **Reading loses and mixes nothing.** Reading line after line comes to an end, and gives the
pieces between the line feeds: without the return, if there is one, wherever a line feed follows,
with what is left at the end if that is not empty, and decoded as the standard asks for. It gives the
same as decoding everything first; what is in one line has no influence on another. So lines without
line feeds that are written with returns and line feeds are read as they are, lines written with line
feeds are if none of them ends with a return, and where there are no returns, putting one before
every line feed makes no difference. -/
theorem reading_exact :
    (∀ bytes lines, Reads bytes lines ↔ ofBytes bytes = lines) ∧
    (∀ bytes, ofBytes bytes =
      ((bytes.splitOn 0x0A).dropLast.map (withoutReturn 0x0D) ++
        [(bytes.splitOn 0x0A).getLastD []].filter (· ≠ [])).map
          fun line => .ofList (decodeLossy line)) ∧
    (∀ bytes text, Utf8.Decodes bytes text ↔ decodeLossy bytes = text) ∧
    (∀ bytes, ofBytes bytes = ofText (.ofList (decodeLossy bytes))) ∧
    (∀ before rest : List UInt8,
      ofBytes (before ++ 0x0A :: rest) = ofBytes (before ++ [0x0A]) ++ ofBytes rest) ∧
    (∀ lines : List String, (∀ line ∈ lines, '\n' ∉ line.toList) →
      ofBytes (written [0x0D, 0x0A] lines) = lines ∧
        (ofBytes (written [0x0A] lines) = lines ↔
          ∀ line ∈ lines, line.toList.getLast? ≠ some '\r')) ∧
    (∀ bytes : List UInt8, 0x0D ∉ bytes → ofBytes (withReturns bytes) = ofBytes bytes) := by
  refine ⟨fun _ _ => reads_iff, ?_, fun _ _ => Utf8.decodes_iff, ofBytes_eq_ofText, ?_, ?_, ?_⟩
  · intro bytes
    rw [ofBytes, split_eq_splitOn]
  · intro before rest
    rw [List.append_cons]
    exact ofBytes_append List.getLast?_concat rest
  · intro lines hfeeds
    exact ⟨ofBytes_written_crlf hfeeds, ofBytes_written_lf_iff hfeeds⟩
  · intro bytes hreturn
    exact ofBytes_withReturns hreturn

/-- A character that is cut off by the end of a line is replaced in that line, and what should have
followed in the next one; of two returns before a line feed one is left, and so is the one at the end
of the input. -/
theorem reading_exact_cutOff :
    Reads [0x6E, 0xC3, 0x0A, 0xA9, 0x0D, 0x0D, 0x0A, 0x6F, 0x0D] ["n\uFFFD", "\uFFFD\r", "o\r"] ∧
      ofBytes (written [0x0D, 0x0A] ["n\r", "", "o"]) = ["n\r", "", "o"] ∧
      ofBytes (written [0x0A] ["n\r", "", "o"]) ≠ ["n\r", "", "o"] ∧
      ofBytes (withReturns [0x6E, 0xC3, 0x0A, 0xA9]) = ofBytes [0x6E, 0xC3, 0x0A, 0xA9] := by
  obtain ⟨hreads, _, _, _, _, hwritten, hreturns⟩ := reading_exact
  obtain ⟨hcrlf, hlf⟩ := hwritten ["n\r", "", "o"] (by decide)
  refine ⟨(hreads _ _).mpr (by decide +kernel), hcrlf, fun hsame => ?_, hreturns _ (by decide)⟩
  exact hlf.mp hsame "n\r" List.mem_cons_self (by decide)

end CastleEscape.Text.Lines
