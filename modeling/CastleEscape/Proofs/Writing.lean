import CastleEscape.DataFiles.Root
import CastleEscape.Proofs.Decoding
import CastleEscape.Proofs.Faults
import CastleEscape.Proofs.ShippedWording

/-!
# Writing scripts down

A script in which nothing calls for quotes around a key, or for escapes in a text, can be written
down as a document with a key and its text to a line. What is read from the document is the script
again (`Script.ofDocument?_document`), and so it is for a file on a disk
(`DataFiles.wording_ofScript`).

What is written is taken apart twice: into lines, each of which is read as one statement whatever
comes after it (`Toml.Writes`), and into tables, each of which is put after those before it.
-/

namespace CastleEscape

namespace Toml

/-! ## Words and plain texts -/

/-- Keys that can stand without quotes. -/
def IsWord (word : String) : Prop :=
  word ≠ "" ∧ ∀ c ∈ word.toList, isBareKeyChar c = true

/-- Texts that can stand between single quotes as they are. -/
def IsPlain (text : String) : Prop :=
  ∀ c ∈ text.toList, isTextChar c = true ∧ c ≠ '\''

instance (text : String) : Decidable (IsPlain text) := List.decidableBAll _ text.toList

instance (word : String) : Decidable (IsWord word) :=
  @instDecidableAnd _ _ _ (List.decidableBAll _ word.toList)

theorem ne_of_isBareKeyChar {c d : Char} (hc : isBareKeyChar c = true)
    (hd : isBareKeyChar d = false) : c ≠ d := by
  rintro rfl
  exact absurd hc (by rw [hd]; decide)

theorem isSpace_of_isBareKeyChar {c : Char} (hc : isBareKeyChar c = true) : isSpace c = false := by
  have hspace : c ≠ ' ' := ne_of_isBareKeyChar hc (by decide)
  have htab : c ≠ '\t' := ne_of_isBareKeyChar hc (by decide)
  simp [isSpace, hspace, htab]

theorem isTextChar_of_isBareKeyChar {c : Char} (hc : isBareKeyChar c = true) :
    isTextChar c = true := by
  have hascii : ∀ n < 128, isBareKeyChar (.ofNat n) = true → isTextChar (.ofNat n) = true := by
    decide
  by_cases hn : c.toNat < 128
  · rw [← c.ofNat_toNat] at hc ⊢
    exact hascii c.toNat hn hc
  · have hbounds : 32 ≤ c.toNat ∧ c.toNat ≠ 127 := by omega
    simp [isTextChar, hbounds]

theorem IsWord.isPlain {word : String} (hword : IsWord word) : IsPlain word :=
  fun c hc => ⟨isTextChar_of_isBareKeyChar (hword.2 c hc),
    ne_of_isBareKeyChar (hword.2 c hc) (by decide)⟩

theorem IsWord.exists_cons {word : String} (hword : IsWord word) :
    ∃ c cs, word.toList = c :: cs ∧ isBareKeyChar c = true := by
  cases hcs : word.toList with
  | nil => exact absurd (String.toList_eq_nil_iff.mp hcs) hword.1
  | cons c cs => exact ⟨c, cs, rfl, hword.2 c (hcs ▸ List.mem_cons_self)⟩

/-! ## Reading words and plain texts -/

theorem keyPart_word {word : String} (hword : IsWord word) {c : Char} (hc : isBareKeyChar c = false)
    (rest : List Char) : keyPart (word.toList ++ c :: rest) = some (word, c :: rest) := by
  obtain ⟨first, cs, hcs, hfirst⟩ := hword.exists_cons
  have htake : (word.toList ++ c :: rest).takeWhile isBareKeyChar = word.toList := by
    rw [List.takeWhile_append_of_pos hword.2, List.takeWhile_cons_of_neg (by simp [hc]),
      List.append_nil]
  unfold keyPart
  split
  · rename_i hquote
    rw [hcs] at hquote
    exact absurd (List.cons.inj hquote).1 (ne_of_isBareKeyChar hfirst (by decide))
  · rename_i hquote
    rw [hcs] at hquote
    exact absurd (List.cons.inj hquote).1 (ne_of_isBareKeyChar hfirst (by decide))
  · rw [htake]
    split
    · rename_i hnil
      rw [hcs] at hnil
      cases hnil
    · rw [String.ofList_toList, List.drop_left]

theorem key_word {word : String} (hword : IsWord word) {c : Char} (hc : isBareKeyChar c = false)
    (hspace : isSpace c = false) (hdot : c ≠ '.') (rest : List Char) :
    key (word.toList ++ c :: rest) = some ([word], c :: rest) := by
  obtain ⟨first, cs, hcs, hfirst⟩ := hword.exists_cons
  have hskip : skipSpaces (word.toList ++ c :: rest) = word.toList ++ c :: rest := by
    rw [hcs, List.cons_append, skipSpaces,
      List.dropWhile_cons_of_neg (by simp [isSpace_of_isBareKeyChar hfirst])]
  have hafter : skipSpaces (c :: rest) = c :: rest :=
    List.dropWhile_cons_of_neg (by simp [hspace])
  rw [key, show depthLimit - 1 = 78 + 1 from rfl, keyWithin, hskip, keyPart_word hword hc]
  simp only [Option.bind_eq_bind, Option.bind_some, hafter]
  split
  · rename_i hrest
    exact absurd (List.cons.inj hrest).1 hdot
  · rfl

theorem afterLineEnd?_of_ne {c : Char} (hfeed : c ≠ '\n') (hreturn : c ≠ '\r') (rest : List Char) :
    afterLineEnd? (c :: rest) = none := by
  unfold afterLineEnd?
  split
  · rename_i heq
    exact absurd (List.cons.inj heq).1 hfeed
  · rename_i heq
    exact absurd (List.cons.inj heq).1 hreturn
  · rfl

theorem literal_plain {text : List Char} (hplain : ∀ c ∈ text, isTextChar c = true ∧ c ≠ '\'')
    (rest : List Char) : literal false (text ++ '\'' :: rest) = some (text, rest) := by
  induction text with
  | nil => rfl
  | cons c text ih =>
      obtain ⟨⟨hc, hquote⟩, hplain⟩ := List.forall_mem_cons.mp hplain
      have hother : c ≠ '\n' ∧ c ≠ '\r' := by
        constructor <;> rintro rfl <;> exact absurd hc (by decide)
      rw [List.cons_append, literal, if_neg hquote, afterLineEnd?_of_ne hother.1 hother.2,
        ih hplain]
      simp [hc, prepend]

theorem value_plain {text : String} (hplain : IsPlain text) (rest : List Char) :
    value ('\'' :: text.toList ++ '\'' :: '\n' :: rest) = some (.text text, '\n' :: rest) := by
  have hquoted : quoted ('\'' :: text.toList ++ '\'' :: '\n' :: rest) =
      some (text.toList, '\n' :: rest) := by
    rw [← literal_plain hplain ('\n' :: rest)]
    rw [IsPlain] at hplain
    cases hcs : text.toList with
    | nil => rfl
    | cons c cs =>
        rw [hcs] at hplain
        have hquote := (List.forall_mem_cons.mp hplain).1.2
        simp [quoted, hquote]
  rw [value, List.cons_append, valueWithin.eq_def]
  show scalar _ = _
  rw [scalar, ← List.cons_append, hquoted, Option.map_some, Option.some_or]
  exact congrArg (fun text => some (Datum.text text, '\n' :: rest)) String.ofList_toList

/-! ## Lines -/

/-- Whatever comes after the line, it is read as the statement. -/
structure Writes (line : List Char) (statement : Statement) : Prop where
  begins : ∃ c cs, line = c :: cs ∧ (isBareKeyChar c = true ∨ c = '[')
  reads : ∀ rest, Statement.read (line ++ rest) = some (statement, rest)

def headerLine (word : String) : List Char := '[' :: word.toList ++ [']', '\n']

def assignmentLine (word text : String) : List Char :=
  word.toList ++ ['=', '\''] ++ text.toList ++ ['\'', '\n']

theorem writes_headerLine {word : String} (hword : IsWord word) :
    Writes (headerLine word) (.table [word]) where
  begins := ⟨'[', _, rfl, .inr rfl⟩
  reads := by
    intro rest
    obtain ⟨first, cs, hcs, hfirst⟩ := hword.exists_cons
    have hread := key_word hword (c := ']') (by decide) (by decide) (by decide) ('\n' :: rest)
    have hbracket : first ≠ '[' := ne_of_isBareKeyChar hfirst (by decide)
    have hline : headerLine word ++ rest = '[' :: (word.toList ++ ']' :: '\n' :: rest) := by
      simp [headerLine]
    rw [hline, Statement.read.eq_def]
    split
    · rename_i heq
      rw [hcs] at heq
      exact absurd (List.cons.inj (List.cons.inj heq).2).1 hbracket
    · rename_i heq
      rw [← (List.cons.inj heq).2, hread]
      rfl
    · rename_i hnot
      exact absurd rfl (hnot _)

theorem writes_assignmentLine {word text : String} (hword : IsWord word) (hplain : IsPlain text) :
    Writes (assignmentLine word text) (.assign [word] (.text text)) where
  begins := by
    obtain ⟨first, cs, hcs, hfirst⟩ := hword.exists_cons
    exact ⟨first, _, by rw [assignmentLine, hcs]; rfl, .inl hfirst⟩
  reads := by
    intro rest
    obtain ⟨first, cs, hcs, hfirst⟩ := hword.exists_cons
    have hbracket : first ≠ '[' := ne_of_isBareKeyChar hfirst (by decide)
    have hread := key_word hword (c := '=') (by decide) (by decide) (by decide)
      ('\'' :: text.toList ++ '\'' :: '\n' :: rest)
    have hline : assignmentLine word text ++ rest =
        word.toList ++ '=' :: ('\'' :: text.toList ++ '\'' :: '\n' :: rest) := by
      simp [assignmentLine]
    have hassign : assignment value (assignmentLine word text ++ rest) =
        some (([word], .text text), '\n' :: rest) := by
      have hvalue : value (skipSpaces ('\'' :: text.toList ++ '\'' :: '\n' :: rest)) =
          some (.text text, '\n' :: rest) := value_plain hplain rest
      rw [hline, assignment, hread]
      simp only [Option.bind_eq_bind, Option.bind_some, expect, if_pos, hvalue]
      rfl
    rw [Statement.read.eq_def]
    split
    · rename_i heq
      rw [hline, hcs] at heq
      exact absurd (List.cons.inj heq).1 hbracket
    · rename_i heq
      rw [hline, hcs] at heq
      exact absurd (List.cons.inj heq).1 hbracket
    · rw [hassign]
      rfl

theorem readLines_append {line : List Char} {statement : Statement}
    (hwrites : Writes line statement) (fuel : Nat) (rest : List Char) :
    readLines (fuel + 1) (line ++ rest) = (readLines fuel rest).map (statement :: ·) := by
  obtain ⟨⟨c, cs, rfl, hc⟩, hreads⟩ := hwrites
  have hother : isSpace c = false ∧ c ≠ '\n' ∧ c ≠ '\r' ∧ c ≠ '#' := by
    rcases hc with hc | rfl
    · exact ⟨isSpace_of_isBareKeyChar hc, ne_of_isBareKeyChar hc (by decide),
        ne_of_isBareKeyChar hc (by decide), ne_of_isBareKeyChar hc (by decide)⟩
    · decide
  obtain ⟨hspace, hfeed, hreturn, hcomment⟩ := hother
  have hskip : skipSpaces (c :: (cs ++ rest)) = c :: (cs ++ rest) :=
    List.dropWhile_cons_of_neg (by simp [hspace])
  have hstays : ((afterLineEnd? (c :: (cs ++ rest))).isSome ||
      (c :: (cs ++ rest)).head? == some '#') = false := by
    rw [afterLineEnd?_of_ne hfeed hreturn]
    simpa using hcomment
  have hread := hreads rest
  rw [List.cons_append] at hread ⊢
  simp only [readLines, hskip, hstays, Bool.false_eq_true, if_false, hread, Option.bind_eq_bind,
    Option.bind_some]
  cases readLines fuel rest <;> rfl

theorem readLines_flatten {lines : List (List Char)} {statements : List Statement}
    (hwrites : List.Forall₂ Writes lines statements) {fuel : Nat}
    (hfuel : lines.flatten.length < fuel) : readLines fuel lines.flatten = some statements := by
  induction hwrites generalizing fuel with
  | nil =>
      cases fuel with
      | zero => exact absurd hfuel (Nat.not_lt_zero _)
      | succ fuel => rfl
  | @cons line statement lines statements hline _ ih =>
      cases fuel with
      | zero => exact absurd hfuel (Nat.not_lt_zero _)
      | succ fuel =>
          have hrest : lines.flatten.length < fuel := by
            obtain ⟨⟨c, cs, rfl, _⟩, _⟩ := hline
            rw [List.flatten_cons, List.length_append, List.length_cons] at hfuel
            omega
          rw [List.flatten_cons, readLines_append hline, ih hrest]
          rfl

/-! ## Tables -/

/-- Texts under their keys, as the entries of a table. -/
def textNodes (texts : List (String × String)) : Entries :=
  texts.map fun entry => (entry.1, .value (.text entry.2))

theorem entriesToData_textNodes (texts : List (String × String)) :
    entriesToData (textNodes texts) = texts.map fun entry => (entry.1, .text entry.2) := by
  induction texts with
  | nil => simp [textNodes, entriesToData]
  | cons entry texts ih =>
      rw [textNodes, List.map_cons, entriesToData, ← textNodes, ih, Node.toDatum, List.map_cons]

/-- What stands before a key stays as it is. -/
theorem put_append {key : String} {node : Node} {front : Entries}
    (hfresh : key ∉ front.map (·.1)) (rest : Entries) :
    Entries.put key node (front ++ rest) = front ++ rest.put key node := by
  induction front with
  | nil => rfl
  | cons entry front ih =>
      rw [List.map_cons, List.mem_cons, not_or] at hfresh
      rw [List.cons_append, Entries.put, if_neg (Ne.symm hfresh.1), ih hfresh.2, List.cons_append]

theorem put_fresh {key : String} {node : Node} {entries : Entries}
    (hfresh : key ∉ entries.map (·.1)) : entries.put key node = entries ++ [(key, node)] := by
  have hput := @put_append key node entries hfresh []
  rwa [List.append_nil] at hput

theorem put_last {key : String} {node old : Node} {front : Entries}
    (hfresh : key ∉ front.map (·.1)) :
    Entries.put key node (front ++ [(key, old)]) = front ++ [(key, node)] := by
  rw [put_append hfresh]
  exact congrArg (front ++ ·) (if_pos rfl)

theorem lookup_fresh {key : String} {entries : Entries} (hfresh : key ∉ entries.map (·.1)) :
    entries.lookup key = none := by
  refine List.lookup_eq_none_iff.mpr fun entry hentry => ?_
  refine bne_iff_ne.mpr fun hsame => hfresh ?_
  rw [hsame]
  exact List.mem_map_of_mem hentry

theorem lookup_last {key : String} {node : Node} {front : Entries}
    (hfresh : key ∉ front.map (·.1)) :
    (front ++ [(key, node)]).lookup key = some node := by
  rw [List.lookup_append, lookup_fresh hfresh]
  simp

theorem assign_word {key : String} {value : Datum} {entries : Entries}
    (hfresh : key ∉ entries.map (·.1)) :
    entries.assign [key] value .header = some (entries ++ [(key, .value value)]) := by
  simp [Entries.assign, Entries.alter, lookup_fresh hfresh, put_fresh hfresh]

/-- The statements for the texts of a table. -/
def assignmentsOf (texts : List (String × String)) : List Statement :=
  texts.map fun entry => .assign [entry.1] (.text entry.2)

/-- Assignments go into the table that was opened last. -/
theorem foldlM_carryOut_assign {front : Entries} {table : String}
    (hfront : table ∉ front.map (·.1)) {texts more : List (String × String)}
    (hnodup : ((texts ++ more).map (·.1)).Nodup) :
    (assignmentsOf more).foldlM Progress.carryOut
        ⟨front ++ [(table, .table .header (textNodes texts))], [table]⟩ =
      some ⟨front ++ [(table, .table .header (textNodes (texts ++ more)))], [table]⟩ := by
  induction more generalizing texts with
  | nil => simp [assignmentsOf]
  | cons entry more ih =>
      have hfresh : entry.1 ∉ (textNodes texts).map (·.1) := by
        rw [textNodes, List.map_map]
        rw [List.map_append, List.nodup_append] at hnodup
        exact fun hmem => hnodup.2.2 _ hmem _ List.mem_cons_self rfl
      have hstep : Progress.carryOut ⟨front ++ [(table, .table .header (textNodes texts))], [table]⟩
          (.assign [entry.1] (.text entry.2)) =
          some ⟨front ++ [(table, .table .header (textNodes (texts ++ [entry])))], [table]⟩ := by
        simp only [Progress.carryOut, Entries.alter, lookup_last hfront, assign_word hfresh]
        simp [put_last hfront, textNodes]
      rw [List.append_cons texts entry more] at hnodup ⊢
      rw [← ih hnodup, assignmentsOf, List.map_cons, List.foldlM_cons, hstep]
      rfl

/-- A table with its texts is put at the end. -/
theorem foldlM_carryOut_table {front : Entries} {path : List String} {table : String}
    (hfront : table ∉ front.map (·.1)) {texts : List (String × String)}
    (hnodup : (texts.map (·.1)).Nodup) :
    (.table [table] :: assignmentsOf texts).foldlM Progress.carryOut ⟨front, path⟩ =
      some ⟨front ++ [(table, .table .header (textNodes texts))], [table]⟩ := by
  have hopen : Progress.carryOut ⟨front, path⟩ (.table [table]) =
      some ⟨front ++ [(table, .table .header (textNodes []))], [table]⟩ := by
    simp [Progress.carryOut, Entries.openTable, Entries.alter, lookup_fresh hfront,
      put_fresh hfront, textNodes]
  rw [List.foldlM_cons, hopen]
  exact foldlM_carryOut_assign hfront hnodup

end Toml

/-! ## Data -/

namespace Lexicon

theorem insertEntry_append {key text : String} {entries : List (String × String)}
    (hrise : ∀ entry ∈ entries, entry.1 < key) :
    insertEntry key text entries = entries ++ [(key, text)] := by
  induction entries with
  | nil => rfl
  | cons entry entries ih =>
      obtain ⟨hlt, hrise⟩ := List.forall_mem_cons.mp hrise
      rw [insertEntry, if_neg (String.lt_asymm hlt), if_neg (String.ne_of_lt hlt).symm, ih hrise,
        List.cons_append]

theorem entries_foldl_insert (front : Lexicon) {entries : List (String × String)}
    (hrise : KeysRise (front.entries ++ entries)) :
    (entries.foldl (fun lexicon entry => lexicon.insert entry.1 entry.2) front).entries =
      front.entries ++ entries := by
  induction entries generalizing front with
  | nil => simp
  | cons entry entries ih =>
      have hfront : (front.insert entry.1 entry.2).entries = front.entries ++ [entry] := by
        refine insertEntry_append fun earlier hearlier => ?_
        exact (List.pairwise_append.mp hrise).2.2 earlier hearlier entry List.mem_cons_self
      rw [List.append_cons front.entries entry entries, ← hfront] at hrise ⊢
      exact ih _ hrise

/-- A lexicon is made of its entries. -/
theorem ofList_entries (lexicon : Lexicon) : ofList lexicon.entries = lexicon := by
  have hentries : (ofList lexicon.entries).entries = lexicon.entries :=
    entries_foldl_insert empty lexicon.keysRise
  obtain ⟨entries, hrise⟩ := lexicon
  generalize ofList entries = made at hentries
  obtain ⟨madeEntries, _⟩ := made
  subst hentries
  rfl

end Lexicon

namespace Datum

theorem lexicon?_lexiconDatum (lexicon : Lexicon) :
    (Script.lexiconDatum lexicon).lexicon? = some lexicon := by
  have htexts : (lexicon.entries.map fun entry => (entry.1, Datum.text entry.2)).mapM
      (fun entry => do return (entry.1, ← entry.2.text?)) = some lexicon.entries := by
    rw [List.mapM_map]
    exact (List.mapM_pure (m := Option)).trans (congrArg some (List.map_id _))
  rw [Script.lexiconDatum, lexicon?, htexts]
  exact congrArg some lexicon.ofList_entries

end Datum

theorem Script.ofDatum?_toDatum (script : Script) : ofDatum? script.toDatum = some script := by
  simp [ofDatum?, toDatum, List.lookup_cons, ofFields?, lexiconOr, Datum.lexicon?_lexiconDatum,
    Datum.text?]

/-! ## Documents -/

/-- The table of a document that the texts for a subject stand in. -/
def Subject.table : Subject → String
  | room => "locations"
  | item => "items"
  | closeUp => "examine"
  | message => "messages"

namespace Script

/-- A script that can be written down without quotes around a key and without escapes. -/
structure IsPlain (script : Script) : Prop where
  intro : Toml.IsPlain script.intro
  help : Toml.IsPlain script.help
  texts : ∀ (subject : Subject) (key text : String),
    (script.lexicon subject).find? key = some text → Toml.IsWord key ∧ Toml.IsPlain text

def statements (script : Script) : List Toml.Statement :=
  .assign ["intro"] (.text script.intro) :: .assign ["help"] (.text script.help) ::
    Subject.all.flatMap fun subject =>
      .table [subject.table] :: Toml.assignmentsOf (script.lexicon subject).entries

def lines (script : Script) : List (List Char) :=
  Toml.assignmentLine "intro" script.intro :: Toml.assignmentLine "help" script.help ::
    Subject.all.flatMap fun subject =>
      Toml.headerLine subject.table ::
        (script.lexicon subject).entries.map fun entry => Toml.assignmentLine entry.1 entry.2

/-- The script written down. -/
def document (script : Script) : List Char := script.lines.flatten

variable {script : Script}

theorem IsPlain.writes (hplain : script.IsPlain) :
    List.Forall₂ Toml.Writes script.lines script.statements := by
  refine .cons (Toml.writes_assignmentLine (by decide) hplain.intro) ?_
  refine .cons (Toml.writes_assignmentLine (by decide) hplain.help) ?_
  generalize Subject.all = subjects
  induction subjects with
  | nil => exact .nil
  | cons subject subjects ih =>
      have hname : Toml.IsWord subject.table := by cases subject <;> decide
      refine List.rel_append (.cons (Toml.writes_headerLine hname) ?_) ih
      refine List.forall₂_map_left_iff.mpr (List.forall₂_map_right_iff.mpr ?_)
      refine List.forall₂_same.mpr fun entry hentry => ?_
      obtain ⟨hkey, htext⟩ := hplain.texts subject _ _ (Lexicon.mem_entries_iff.mp hentry)
      exact Toml.writes_assignmentLine hkey htext

/-- Every table comes after those before it. -/
theorem foldlM_carryOut_tables (script : Script) (front : Toml.Entries) (path : List String)
    (subjects : List Subject) (hnodup : (front.map (·.1) ++ subjects.map Subject.table).Nodup) :
    ∃ last, (subjects.flatMap fun subject =>
        .table [subject.table] :: Toml.assignmentsOf (script.lexicon subject).entries).foldlM
          Toml.Progress.carryOut ⟨front, path⟩ =
      some ⟨front ++ subjects.map fun subject =>
        (subject.table, .table .header (Toml.textNodes (script.lexicon subject).entries)),
        last⟩ := by
  induction subjects generalizing front path with
  | nil => exact ⟨path, by simp⟩
  | cons subject subjects ih =>
      have hfront : subject.table ∉ front.map (·.1) := by
        intro hmem
        exact (List.nodup_append.mp hnodup).2.2 _ hmem _ List.mem_cons_self rfl
      let made : Toml.Entries := front ++
        [(subject.table, .table .header (Toml.textNodes (script.lexicon subject).entries))]
      obtain ⟨last, hlast⟩ := ih made [subject.table] (by simpa [made] using hnodup)
      refine ⟨last, ?_⟩
      rw [List.flatMap_cons, List.foldlM_append,
        Toml.foldlM_carryOut_table hfront (script.lexicon subject).nodup_keys]
      simpa [made] using hlast

theorem carryOut_statements (script : Script) :
    ∃ progress, script.statements.foldlM Toml.Progress.carryOut ⟨[], []⟩ = some progress ∧
      .table (Toml.entriesToData progress.root) = script.toDatum := by
  obtain ⟨last, hlast⟩ := script.foldlM_carryOut_tables
    [("intro", .value (.text script.intro)), ("help", .value (.text script.help))] [] Subject.all
    (show ["intro", "help", "locations", "items", "examine", "messages"].Nodup by decide)
  refine ⟨_, hlast, ?_⟩
  simp [Subject.all, Subject.table, lexicon, toDatum, lexiconDatum, Toml.entriesToData,
    Toml.Node.toDatum, Toml.entriesToData_textNodes]

/-- **What is written down is read.** -/
theorem ofDocument?_document (hplain : script.IsPlain) :
    ofDocument? (.ofList script.document) = some script := by
  obtain ⟨progress, hprogress, hdatum⟩ := script.carryOut_statements
  have hread : Toml.readLines (script.document.length + 1) script.document =
      some script.statements :=
    Toml.readLines_flatten hplain.writes (Nat.lt_succ_self _)
  rw [ofDocument?_eq_ofChars?, String.toList_ofList, ofChars?]
  show (Toml.readLines (script.document.length + 1) script.document).bind _ = _
  rw [hread]
  show (script.statements.foldlM Toml.Progress.carryOut ⟨[], []⟩).bind _ = _
  rw [hprogress]
  show ofDatum? (.table (Toml.entriesToData progress.root)) = _
  rw [hdatum, ofDatum?_toDatum]

end Script

/-! ## On a disk -/

/-- A disk with nothing on it but the script, written down where it is looked for first. -/
def Disk.ofScript (script : Script) : Disk := fun path =>
  if path = DataFiles.mainDirectory then .directory
  else if path = "castle_engine/data/text.toml" then
    .file (.ok (script.document.flatMap String.utf8EncodeChar))
  else .nothing

/-- The wording is read from a file with its script written down. -/
theorem Wording.ofEntry_document {wording : Wording} (hplain : wording.script.IsPlain) :
    ofEntry (.file (.ok (wording.script.document.flatMap String.utf8EncodeChar))) =
      .ok wording := by
  rw [ofEntry, Text.Utf8.decode?_flatMap_encode]
  exact ofDocument_ok_iff.mpr (Script.ofDocument?_document hplain)

theorem DataFiles.wording_ofScript {wording : Wording} (hplain : wording.script.IsPlain)
    (programDirectory : Option String) :
    DataFiles.wording (Disk.ofScript wording.script) none programDirectory = .ok wording := by
  have hroot : root (Disk.ofScript wording.script) none programDirectory = mainDirectory := by
    simp [root, candidates, Disk.isDirectory, Disk.ofScript]
  have hpath : Path.join mainDirectory wordingFile = "castle_engine/data/text.toml" := by
    decide +kernel
  rw [DataFiles.wording, hroot, hpath, Disk.ofScript, if_neg (by decide), if_pos rfl]
  exact Wording.ofEntry_document hplain

/-! ## The script of symbols -/

theorem Room.isWord_symbol (room : Room) : Toml.IsWord room.symbol := by
  cases room <;> decide +kernel

theorem Item.isWord_symbol (item : Item) : Toml.IsWord item.symbol := by
  cases item <;> decide +kernel

theorem Message.isWord_symbol (message : Message) : Toml.IsWord message.symbol := by
  cases message <;> decide +kernel

theorem Subject.isWord_of_mem_symbols {subject : Subject} {symbol : String}
    (hsymbol : symbol ∈ subject.symbols) : Toml.IsWord symbol := by
  cases subject with
  | room =>
      obtain ⟨room, _, rfl⟩ := List.mem_map.mp hsymbol
      exact room.isWord_symbol
  | item | closeUp =>
      obtain ⟨item, _, rfl⟩ := List.mem_map.mp hsymbol
      exact item.isWord_symbol
  | message =>
      obtain ⟨message, _, rfl⟩ := List.mem_map.mp hsymbol
      exact message.isWord_symbol

/-- The script of symbols can be written down. -/
theorem Script.isPlain_ofSymbols : ofSymbols.IsPlain where
  intro := by decide
  help := by decide
  texts := by
    intro subject key text hfind
    cases hrequired : subject.isRequired with
    | true =>
        obtain ⟨hkey, rfl⟩ := (find?_ofSymbols_eq_some_iff subject hrequired).mp hfind
        have hword := subject.isWord_of_mem_symbols hkey
        exact ⟨hword, hword.isPlain⟩
    | false =>
        cases subject <;> cases hrequired
        cases hfind

end CastleEscape
