import CastleEscape.Proofs.Wrapping

/-!
# The best layout

Parts are laid out from the first to the last. For everything before a part the best layout is known
by then, so the best last line is found among those that begin at some earlier part. A line is not
made longer once its excess alone costs more than a layout that has been seen; nothing is lost by
that, because longer lines have no less of an excess. So no way to lay the parts out in lines costs
less than the one that is taken (`costOf_wrapParts_le`).
-/

namespace CastleEscape.Text.Wrap

/-! ## What lines cost -/

/-- The columns that parts take up on one line. The spaces after the last of them do not count. -/
def columnsOf : List Part → Nat
  | [] => 0
  | [part] => part.columns
  | part :: rest => part.columns + part.gap + columnsOf rest

/-- What a line costs. -/
def price (last : Bool) (row : List Part) : Nat :=
  lineCost last row.tail.isEmpty (columnsOf row)

/-- What some lines cost together, the last of which is the last of all. -/
def costOf : List (List Part) → Nat
  | [] => 0
  | row :: rest => price rest.isEmpty row + costOf rest

theorem columnsOf_cons (part : Part) {row : List Part} (hrow : row ≠ []) :
    columnsOf (part :: row) = part.columns + part.gap + columnsOf row := by
  cases row with
  | nil => exact absurd rfl hrow
  | cons next rest => rfl

theorem columnsOf_le_append (front : List Part) (row : List Part) :
    columnsOf row ≤ columnsOf (front ++ row) := by
  induction front with
  | nil => exact le_rfl
  | cons part front ih =>
      cases hrest : front ++ row with
      | nil =>
          rw [(List.append_eq_nil_iff.mp hrest).2]
          exact Nat.zero_le _
      | cons next rest =>
          rw [hrest] at ih
          rw [List.cons_append, hrest, columnsOf_cons part (List.cons_ne_nil next rest)]
          omega

/-- The excess of a line is part of what every longer line costs. -/
theorem excessCost_lt_price {columns : Nat} {row : List Part} (last : Bool)
    (hcolumns : columns ≤ columnsOf row) (hwide : 0 < excessCost columns) :
    excessCost columns < price last row := by
  unfold excessCost at hwide ⊢
  unfold price lineCost excessCost
  have hexcess : width < columnsOf row := by omega
  rw [if_pos hexcess]
  omega

/-! ## Layouts that go on -/

/-- A layout of lines with something on each, none of which is the last of all. -/
inductive Layout.IsOpen : Layout → Prop where
  | nothing : IsOpen ⟨0, []⟩
  | extend {layout : Layout} {row : List Part} (hlayout : IsOpen layout) (hrow : row ≠ []) :
      IsOpen (layout.below false row (columnsOf row))

/-- No other layout of the same parts costs less. -/
structure Layout.IsBest (layout : Layout) : Prop where
  isOpen : layout.IsOpen
  least : ∀ other : Layout, other.IsOpen → other.parts = layout.parts → layout.cost ≤ other.cost

theorem Layout.cost_below (layout : Layout) (last : Bool) (row : List Part) :
    (layout.below last row (columnsOf row)).cost = layout.cost + price last row := rfl

theorem Layout.IsOpen.eq_nothing {layout : Layout} (hopen : layout.IsOpen)
    (hparts : layout.parts = []) : layout = ⟨0, []⟩ := by
  cases hopen with
  | nothing => rfl
  | extend _ hrow =>
      rw [Layout.parts_below, List.append_eq_nil_iff] at hparts
      exact absurd hparts.2 hrow

theorem Layout.isBest_nothing : Layout.IsBest ⟨0, []⟩ :=
  ⟨.nothing, fun _ _ _ => Nat.zero_le _⟩

/-- Each of these layouts is the best of everything before the part that it stands with. -/
def AreBest (before : Layout) : List (Part × Layout) → Prop
  | [] => before = ⟨0, []⟩
  | (part, layout) :: earlier =>
    before.IsBest ∧ before.parts = layout.parts ++ [part] ∧ AreBest layout earlier

variable {before : Layout} {earlier : List (Part × Layout)} {line : List Part}

theorem AreBest.precede (hbest : AreBest before earlier) : Precede before earlier := by
  induction earlier generalizing before with
  | nil => trivial
  | cons entry earlier ih => exact ⟨hbest.2.1, ih hbest.2.2⟩

theorem AreBest.isBest (hbest : AreBest before earlier) : before.IsBest := by
  cases earlier with
  | nil => exact hbest ▸ Layout.isBest_nothing
  | cons entry earlier => exact hbest.1

/-! ## The best last line -/

/-- Some parts that come last end with the last of all. -/
theorem exists_eq_append_of_append_eq {front row parts : List Part} {part : Part}
    (hrow : row ≠ []) (hsame : front ++ row = parts ++ [part]) :
    ∃ more, row = more ++ [part] ∧ front ++ more = parts := by
  obtain ⟨more, next, rfl⟩ := (List.eq_nil_or_concat row).resolve_left hrow
  rw [List.concat_eq_append, ← List.append_assoc] at hsame
  obtain ⟨hparts, hnext⟩ := List.append_inj' hsame rfl
  exact ⟨more, by rw [List.concat_eq_append, hnext], hparts⟩

/-- Whatever is found costs no more than the shortest last line. -/
theorem cost_bestFrom_le (last : Bool) (limit : Nat) (line : List Part) (columns : Nat)
    (before : Layout) (earlier : List (Part × Layout)) :
    (bestFrom last limit line columns before earlier).cost ≤
      (before.below last line columns).cost := by
  cases earlier with
  | nil => exact le_rfl
  | cons entry earlier =>
      simp only [bestFrom]
      split
      · exact le_rfl
      split
      case isTrue hlonger => exact hlonger
      case isFalse => exact le_rfl

/-- What is found is a last line below an open layout. -/
theorem exists_bestFrom (last : Bool) (limit : Nat) (hbest : AreBest before earlier)
    (hline : line ≠ []) :
    ∃ (front : Layout) (row : List Part), front.IsOpen ∧ row ≠ [] ∧
      bestFrom last limit line (columnsOf line) before earlier =
        front.below last row (columnsOf row) := by
  induction earlier generalizing before line with
  | nil => exact ⟨before, line, hbest.isBest.isOpen, hline, rfl⟩
  | cons entry earlier ih =>
      obtain ⟨part, layout⟩ := entry
      obtain ⟨hbefore, _, hlayout⟩ := hbest
      have hshorter : ∃ (front : Layout) (row : List Part), front.IsOpen ∧ row ≠ [] ∧
          before.below last line (columnsOf line) = front.below last row (columnsOf row) :=
        ⟨before, line, hbefore.isOpen, hline, rfl⟩
      have hlonger := ih hlayout (List.cons_ne_nil part line)
      rw [columnsOf_cons part hline] at hlonger
      simp only [bestFrom]
      split
      · exact hshorter
      split
      · exact hlonger
      · exact hshorter

/-- A last line that begins with more of the parts before it does not cost less, unless it costs
more than the limit. -/
theorem cost_bestFrom_le_or (last : Bool) (limit : Nat) (hbest : AreBest before earlier)
    (hline : line ≠ []) {front : Layout} {more : List Part} (hfront : front.IsOpen)
    (hparts : front.parts ++ more = before.parts) :
    (bestFrom last limit line (columnsOf line) before earlier).cost ≤
        front.cost + price last (more ++ line) ∨
      limit < front.cost + price last (more ++ line) := by
  induction earlier generalizing before line more with
  | nil =>
      -- there is nothing before the line
      rw [show before = ⟨0, []⟩ from hbest] at hparts ⊢
      obtain ⟨hnone, rfl⟩ := List.append_eq_nil_iff.mp hparts
      rw [hfront.eq_nothing hnone]
      exact Or.inl le_rfl
  | cons entry earlier ih =>
      obtain ⟨part, layout⟩ := entry
      obtain ⟨hbefore, hbeforeParts, hlayout⟩ := hbest
      by_cases hmore : more = []
      · subst hmore
        rw [List.append_nil] at hparts
        have hleast := hbefore.least front hfront hparts
        have hshorter := cost_bestFrom_le last limit line (columnsOf line) before
          ((part, layout) :: earlier)
        rw [Layout.cost_below] at hshorter
        rw [List.nil_append]
        omega
      · obtain ⟨more, rfl, hfrontParts⟩ :=
          exists_eq_append_of_append_eq hmore (hparts.trans hbeforeParts)
        have hlonger := ih hlayout (List.cons_ne_nil part line) hfrontParts
        rw [columnsOf_cons part hline] at hlonger
        rw [List.append_assoc, List.singleton_append]
        simp only [bestFrom]
        split
        case isTrue hlimit =>
          -- no longer line is tried, and this is one of them
          have hcolumns : columnsOf line ≤ columnsOf (more ++ part :: line) := by
            have hle := columnsOf_le_append (more ++ [part]) line
            rwa [List.append_assoc, List.singleton_append] at hle
          have hexcess := excessCost_lt_price last hcolumns (Nat.zero_lt_of_lt hlimit)
          exact Or.inr (by omega)
        case isFalse =>
          split
          · exact hlonger
          case isFalse hcheaper =>
            exact hlonger.imp_left fun hle => by omega

/-- With the limit that is used no last line costs less. -/
theorem cost_bestFrom_least (last : Bool) (hbest : AreBest before earlier) (hline : line ≠ [])
    {front : Layout} {more : List Part} (hfront : front.IsOpen)
    (hparts : front.parts ++ more = before.parts) :
    (bestFrom last (before.below last line (columnsOf line)).cost line (columnsOf line) before
      earlier).cost ≤ front.cost + price last (more ++ line) := by
  have hshorter := cost_bestFrom_le last (before.below last line (columnsOf line)).cost line
    (columnsOf line) before earlier
  rcases cost_bestFrom_le_or last (before.below last line (columnsOf line)).cost hbest hline hfront
    hparts with hle | hlimit
  · exact hle
  · omega

/-! ## The best layout of everything -/

/-- Of all layouts that go on, the one that is found for everything up to a part is the best. -/
theorem isBest_bestFrom (part : Part) (hbest : AreBest before earlier) :
    (bestFrom false (before.below false [part] part.columns).cost [part] part.columns before
      earlier).IsBest := by
  have hpart : [part] ≠ [] := List.cons_ne_nil part []
  constructor
  · obtain ⟨front, row, hfront, hrow, hfound⟩ := exists_bestFrom false
      (before.below false [part] part.columns).cost hbest hpart
    simp only [columnsOf] at hfound
    exact hfound ▸ .extend hfront hrow
  · intro other hother hsame
    rw [parts_bestFrom _ _ _ _ hbest.precede] at hsame
    cases hother with
    | nothing => simp [Layout.parts] at hsame
    | @extend above row habove hrow =>
        -- the last line of the other layout ends with the part as well
        rw [Layout.parts_below] at hsame
        obtain ⟨more, rfl, hbefore⟩ := exists_eq_append_of_append_eq hrow hsame
        rw [Layout.cost_below]
        exact cost_bestFrom_least false hbest hpart habove hbefore

/-- What is laid out in the end is a last line below an open layout, and no other costs less. -/
theorem layOut_least {ps : List Part} (hsome : ps ≠ []) (hbest : AreBest before earlier) :
    (∃ (front : Layout) (row : List Part), front.IsOpen ∧ row ≠ [] ∧
      layOut before earlier ps = front.below true row (columnsOf row)) ∧
    ∀ (front : Layout) (row : List Part), front.IsOpen → row ≠ [] →
      front.parts ++ row = before.parts ++ ps →
      (layOut before earlier ps).cost ≤ front.cost + price true row := by
  induction ps generalizing before earlier with
  | nil => exact absurd rfl hsome
  | cons part rest ih =>
      have hpart : [part] ≠ [] := List.cons_ne_nil part []
      cases rest with
      | nil =>
          refine ⟨exists_bestFrom true _ hbest hpart, fun front row hfront hrow hparts => ?_⟩
          obtain ⟨more, rfl, hbefore⟩ := exists_eq_append_of_append_eq hrow hparts
          exact cost_bestFrom_least true hbest hpart hfront hbefore
      | cons next rest =>
          have hparts := parts_bestFrom false (before.below false [part] part.columns).cost [part]
            part.columns hbest.precede
          have hchain : AreBest (bestFrom false (before.below false [part] part.columns).cost [part]
              part.columns before earlier) ((part, before) :: earlier) :=
            ⟨isBest_bestFrom part hbest, hparts, hbest⟩
          have hlaid := ih (List.cons_ne_nil next rest) hchain
          rw [hparts, List.append_assoc, List.singleton_append] at hlaid
          exact hlaid

/-! ## Lines in their order -/

/-- The lines of an open layout cost what it costs, whatever comes below them. -/
theorem Layout.IsOpen.costOf_append {layout : Layout} (hopen : layout.IsOpen)
    {rows : List (List Part)} (hsome : rows ≠ []) :
    costOf (layout.lines.reverse ++ rows) = layout.cost + costOf rows := by
  induction hopen generalizing rows with
  | nothing => simp
  | @extend layout row _ _ ih =>
      have hrest : rows.isEmpty = false := List.isEmpty_eq_false_iff.mpr hsome
      have hcons := ih (List.cons_ne_nil row rows)
      rw [costOf, hrest] at hcons
      rw [Layout.cost_below, Layout.below, List.reverse_cons, List.append_assoc,
        List.singleton_append, hcons, Nat.add_assoc]

theorem Layout.IsOpen.ne_nil {layout : Layout} (hopen : layout.IsOpen) :
    ∀ row ∈ layout.lines, row ≠ [] := by
  induction hopen with
  | nothing => exact List.forall_mem_nil _
  | extend _ hrow ih => exact List.forall_mem_cons.mpr ⟨hrow, ih⟩

/-- Any lines with something on each make an open layout. -/
theorem Layout.exists_isOpen {rows : List (List Part)} (hrows : ∀ row ∈ rows, row ≠ []) :
    ∃ layout : Layout, layout.IsOpen ∧ layout.lines.reverse = rows := by
  induction rows using List.reverseRecOn with
  | nil => exact ⟨_, .nothing, rfl⟩
  | append_singleton rows row ih =>
      obtain ⟨layout, hopen, hlines⟩ := ih fun r hr => hrows r (List.mem_append_left _ hr)
      have hrow := hrows row (List.mem_append_right _ (List.mem_singleton_self row))
      refine ⟨_, .extend hopen hrow, ?_⟩
      rw [Layout.below, List.reverse_cons, hlines]

theorem ne_nil_of_mem_wrapParts {ps row : List Part} (hmem : row ∈ wrapParts ps) : row ≠ [] := by
  rw [wrapParts, List.mem_reverse] at hmem
  cases ps with
  | nil => cases hmem
  | cons part rest =>
      obtain ⟨⟨front, last, hfront, hlast, hlaid⟩, _⟩ :=
        layOut_least (List.cons_ne_nil part rest) (show AreBest ⟨0, []⟩ [] from rfl)
      have hlines : ∀ line ∈ last :: front.lines, line ≠ [] :=
        List.forall_mem_cons.mpr ⟨hlast, hfront.ne_nil⟩
      rw [hlaid] at hmem
      exact hlines row hmem

/-- **The cheapest lines are taken.** No way to lay parts out in lines, with something on each,
costs less than the one that is taken. -/
theorem costOf_wrapParts_le {rows : List (List Part)} (hrows : ∀ row ∈ rows, row ≠ []) :
    costOf (wrapParts rows.flatten) ≤ costOf rows := by
  rcases List.eq_nil_or_concat rows with rfl | ⟨above, last, rfl⟩
  · exact le_rfl
  rw [List.concat_eq_append] at hrows ⊢
  have hlast : last ≠ [] := hrows last (List.mem_append_right _ (List.mem_singleton_self last))
  have hsome : (above ++ [last]).flatten ≠ [] := by simp [hlast]
  obtain ⟨⟨front, row, hfront, hrow, hlaid⟩, hleast⟩ :=
    layOut_least hsome (show AreBest ⟨0, []⟩ [] from rfl)
  have hfound : costOf (wrapParts (above ++ [last]).flatten) = front.cost + price true row := by
    rw [wrapParts, hlaid, Layout.below, List.reverse_cons,
      hfront.costOf_append (List.cons_ne_nil row [])]
    rfl
  obtain ⟨other, hother, hlines⟩ :=
    Layout.exists_isOpen fun r hr => hrows r (List.mem_append_left [last] hr)
  have hcost : costOf (above ++ [last]) = other.cost + price true last := by
    rw [← hlines, hother.costOf_append (List.cons_ne_nil last [])]
    rfl
  have hle := hleast other last hother hlast (by simp [Layout.parts, hlines])
  rw [hlaid, Layout.cost_below] at hle
  rw [hfound, hcost]
  exact hle

end CastleEscape.Text.Wrap
