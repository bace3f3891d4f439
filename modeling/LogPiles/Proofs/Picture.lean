import LogPiles.Drawing
import LogPiles.Proofs.Reached
import LogPiles.Text.Numeral

/-!
# What a drawing shows

A drawing is read by columns.  Of the thirty-eight characters of a line twelve belong to each site
(`Drawing.part`), and the log in a row is the number that its digits stand for (`Drawing.logIn?`).

Two things could make a drawing lose a log.  A box has no more rows than its pile has capacity, and
the drawing has no more lines than its shortest box; and a number that is too wide for its row would
push the rest of the line to the right.  That neither comes about is due to the lair and not to the
drawing: in a sound lair all capacities are the size, no pile is higher, and the largest log has two
digits.  The rest is a law of boxes of one height and one width: they are set side by side line by
line (`Drawing.exists_joined`), and each is found again in its columns (`Drawing.part_joined`).
-/

namespace LogPiles

open Text

namespace Drawing

/-- The part of a line that belongs to the box of a site. -/
def part (site : Site) (line : List Char) : List Char :=
  (line.drop (site.index * (boxWidth + 3))).take (boxWidth + 2)

/-- The log in a line of a box, if there are digits. -/
def logIn? (line : List Char) : Option Log := digits? (line.filter isDigit)

/-- The log that is drawn at a site, so many rows below the first one. -/
def logAt? (lines : List (List Char)) (site : Site) (slot : Nat) : Option Log :=
  lines[slot + 2]?.bind fun line => logIn? (part site line)

/-! ## Boxes -/

variable {pile : Pile} {boxes : PerSite (List (List Char))} {count place slot : Nat}
  {logs : List Log} {line : List Char}

/-- What a row of a box shows: a log or nothing. -/
def content (log? : Option Log) : List Char := log?.elim [] decimal

theorem getElem?_rows (logs : List Log) (inside : slot < count) :
    (rows count logs)[slot]? = some (row (content logs[slot]?)) := by
  induction count generalizing logs slot with
  | zero => cases inside
  | succ count inductionHypothesis =>
      cases slot with
      | zero => cases logs <;> rfl
      | succ slot =>
          have rest := Nat.lt_of_succ_lt_succ inside
          cases logs with
          | nil => simpa [rows] using inductionHypothesis [] rest
          | cons log logs => simpa [rows] using inductionHypothesis logs rest

/-- Each row shows a log of the pile or nothing. -/
theorem exists_of_mem_rows (inside : line ∈ rows count logs) :
    ∃ log?, (∀ log ∈ log?, log ∈ logs) ∧ line = row (content log?) := by
  obtain ⟨slot, here, rfl⟩ := List.mem_iff_getElem.1 inside
  rw [length_rows] at here
  have shown := getElem?_rows logs here
  refine ⟨logs[slot]?, fun log lies => List.mem_of_getElem? lies, ?_⟩
  exact (List.getElem_eq_iff _).2 shown

theorem getElem?_box (pile : Pile) (inside : slot < pile.capacity) :
    (box pile)[slot + 2]? = some (row (content pile.logs[slot]?)) := by
  have within : slot < (rows pile.capacity pile.logs).length := by rwa [length_rows]
  simp [box, List.getElem?_append_left within, getElem?_rows pile.logs inside]

/-- A line of a box is its label, a border or a row. -/
theorem mem_box (inside : line ∈ box pile) :
    line = centred (boxWidth + 2) pile.site.label.toList ∨ line = border ∨
      line ∈ rows pile.capacity pile.logs := by
  simp only [box, List.mem_cons, List.mem_append, List.not_mem_nil, or_false,
    List.cons_append] at inside
  tauto

/-- All lines of a box have one width if its logs have not too many digits. -/
theorem width_box (narrow : ∀ log ∈ pile.logs, log < 10 ^ boxWidth) :
    ∀ line ∈ box pile, line.length = boxWidth + 2 := by
  intro line inside
  obtain rfl | rfl | inside := mem_box inside
  · apply length_centred
    cases pile.site <;> decide
  · rfl
  · obtain ⟨log?, known, rfl⟩ := exists_of_mem_rows inside
    have fits : (content log?).length ≤ boxWidth := by
      cases log? with
      | none => exact Nat.zero_le boxWidth
      | some log =>
          exact (Nat.length_toDigits_le_iff (by decide) (by decide)).2 (narrow log (known log rfl))
    simp [row, length_centred fits]

theorem newline_not_mem_box : ∀ line ∈ box pile, '\n' ∉ line := by
  intro line inside
  obtain rfl | rfl | inside := mem_box inside
  · cases pile.site <;> decide
  · decide
  · obtain ⟨log?, -, rfl⟩ := exists_of_mem_rows inside
    cases log? with
    | none => decide
    | some log => simp [row, content, centred, blanks, decimal]

theorem logIn?_row (log? : Option Log) : logIn? (row (content log?)) = log? := by
  cases log? with
  | none => decide
  | some log =>
      have digits : (row (decimal log)).filter isDigit = decimal log := by
        simp [row, filter_isDigit_centred, show isDigit '|' = false by decide]
      rw [logIn?, content, Option.elim_some, digits, digits?_decimal]

/-- The logs of a pile are read back from its box if they all have a row. -/
theorem logIn?_box (fits : pile.logs.length ≤ pile.capacity) (slot : Nat) :
    (box pile)[slot + 2]?.bind logIn? = pile.logs[slot]? := by
  obtain inside | outside := Nat.lt_or_ge slot pile.capacity
  · rw [getElem?_box pile inside, Option.bind_some, logIn?_row]
  · have nothing : pile.logs[slot]? = none := List.getElem?_eq_none (fits.trans outside)
    have rest : (box pile)[slot + 2]? = [border][slot - pile.capacity]? := by
      simp [box, List.getElem?_append_right, outside]
    rw [nothing, rest]
    cases slot - pile.capacity with
    | zero => decide
    | succ beyond => rfl

/-! ## Side by side -/

/-- Three lines side by side. -/
def joined (pieces : PerSite (List Char)) : List Char :=
  pieces.forest ++ ' ' :: pieces.base ++ ' ' :: pieces.hideout

variable {pieces : PerSite (List Char)}

theorem length_joined (wide : ∀ site, (pieces.get site).length = boxWidth + 2) :
    (joined pieces).length = 38 := by
  have forest : pieces.forest.length = 12 := wide .forest
  have base : pieces.base.length = 12 := wide .base
  have hideout : pieces.hideout.length = 12 := wide .hideout
  simp [joined, forest, base, hideout]

theorem newline_not_mem_joined (plain : ∀ site, '\n' ∉ pieces.get site) :
    '\n' ∉ joined pieces := by
  have forest : '\n' ∉ pieces.forest := plain .forest
  have base : '\n' ∉ pieces.base := plain .base
  have hideout : '\n' ∉ pieces.hideout := plain .hideout
  simp [joined, forest, base, hideout]

/-- Lines of one width are found again in their columns. -/
theorem part_joined (wide : ∀ site, (pieces.get site).length = boxWidth + 2) (site : Site) :
    part site (joined pieces) = pieces.get site := by
  have forest : pieces.forest.length = boxWidth + 2 := wide .forest
  have base : pieces.base.length = boxWidth + 2 := wide .base
  have hideout : pieces.hideout.length = boxWidth + 2 := wide .hideout
  cases site with
  | forest =>
      have split : joined pieces =
          pieces.forest ++ (' ' :: pieces.base ++ ' ' :: pieces.hideout) := by simp [joined]
      rw [part, split]
      exact List.take_left' forest
  | base =>
      have split : joined pieces =
          (pieces.forest ++ [' ']) ++ (pieces.base ++ ' ' :: pieces.hideout) := by simp [joined]
      rw [part, split, List.drop_left' (by simp [Site.index, forest])]
      exact List.take_left' base
  | hideout =>
      have split : joined pieces =
          (pieces.forest ++ ' ' :: pieces.base ++ [' ']) ++ pieces.hideout := by simp [joined]
      rw [part, split, List.drop_left' (by simp [Site.index, forest, base, boxWidth])]
      exact List.take_of_length_le hideout.le

theorem length_beside (tall : ∀ site, (boxes.get site).length = count) :
    (beside boxes).length = count := by
  have forest : boxes.forest.length = count := tall .forest
  have base : boxes.base.length = count := tall .base
  have hideout : boxes.hideout.length = count := tall .hideout
  simp [beside, forest, base, hideout]

theorem getElem?_beside (drawn : ∀ site, (boxes.get site)[place]? = some (pieces.get site)) :
    (beside boxes)[place]? = some (joined pieces) := by
  have forest : boxes.forest[place]? = some pieces.forest := drawn .forest
  have others : (boxes.base.zip boxes.hideout)[place]? = some (pieces.base, pieces.hideout) :=
    List.getElem?_zip_eq_some.2 ⟨drawn .base, drawn .hideout⟩
  rw [beside, List.getElem?_zipWith, forest, others]
  rfl

/-- Boxes of one height are set side by side line by line. -/
theorem exists_joined (tall : ∀ site, (boxes.get site).length = count) (inside : place < count) :
    ∃ pieces : PerSite (List Char), (beside boxes)[place]? = some (joined pieces) ∧
      ∀ site, (boxes.get site)[place]? = some (pieces.get site) := by
  have here : ∀ site, ∃ line, (boxes.get site)[place]? = some line := fun site =>
    ⟨_, List.getElem?_eq_getElem (by rwa [tall site])⟩
  obtain ⟨left, forest⟩ := here .forest
  obtain ⟨middle, base⟩ := here .base
  obtain ⟨right, hideout⟩ := here .hideout
  have drawn : ∀ site, (boxes.get site)[place]? =
      some ((⟨left, middle, right⟩ : PerSite (List Char)).get site) := by
    intro site
    cases site <;> assumption
  exact ⟨_, getElem?_beside drawn, drawn⟩

end Drawing

namespace Lair.Sound

open Drawing

variable {lair other : Lair} {log : Log} {site : Site} {place : Nat}

theorem nodup (sound : lair.Sound) : lair.position.logs.Nodup :=
  sound.conserved.nodup_iff.2 List.nodup_range'

/-- The logs of a sound lair are those up to its size. -/
theorem exists_mem_logs_iff (sound : lair.Sound) :
    (∃ site, log ∈ (lair.pile site).logs) ↔ 1 ≤ log ∧ log ≤ lair.size := by
  simp only [← get_position]
  rw [← Piles.mem_logs, sound.conserved.mem_iff, mem_logsUpTo]

/-- No pile of a sound lair is higher than its box. -/
theorem length_logs_le (sound : lair.Sound) (site : Site) :
    (lair.pile site).logs.length ≤ lair.size := by
  have total : lair.position.count = lair.size := by
    rw [Piles.count_eq_length_logs, sound.conserved.length_eq, length_logsUpTo]
  rw [← get_position, ← total]
  cases site <;> simp [Piles.count, PerSite.total, PerSite.map, PerSite.get] <;> omega

theorem tall (sound : lair.Sound) (site : Site) :
    ((lair.piles.map box).get site).length = lair.size + 3 := by
  rw [PerSite.get_map, length_box]
  exact congrArg (· + 3) (sound.capacity site)

theorem length_lines (sound : lair.Sound) : (lines lair).length = lair.size + 3 :=
  length_beside sound.tall

/-- No log of a sound lair is too wide for its row. -/
theorem narrow (sound : lair.Sound) (site : Site) :
    ∀ log ∈ (lair.pile site).logs, log < 10 ^ boxWidth := by
  intro log lies
  have known : log ≤ lair.size := (sound.exists_mem_logs_iff.1 ⟨site, lies⟩).2
  have room : sizeLimit < 10 ^ boxWidth := by decide
  exact (known.trans sound.within).trans_lt room

/-- Each line of the drawing shows one line of each box in its columns. -/
theorem exists_line (sound : lair.Sound) (inside : place < lair.size + 3) :
    ∃ line, (lines lair)[place]? = some line ∧ line.length = 38 ∧ '\n' ∉ line ∧
      ∀ site, (box (lair.pile site))[place]? = some (part site line) := by
  obtain ⟨pieces, here, drawn⟩ := exists_joined sound.tall inside
  simp only [PerSite.get_map] at drawn
  have member : ∀ site, pieces.get site ∈ box (lair.pile site) :=
    fun site => List.mem_of_getElem? (drawn site)
  have wide : ∀ site, (pieces.get site).length = boxWidth + 2 :=
    fun site => width_box (sound.narrow site) _ (member site)
  have plain : ∀ site, '\n' ∉ pieces.get site :=
    fun site => newline_not_mem_box _ (member site)
  refine ⟨joined pieces, here, length_joined wide, newline_not_mem_joined plain, ?_⟩
  intro site
  rw [part_joined wide site]
  exact drawn site

/-- A line of the drawing is one of those. -/
theorem of_mem_lines (sound : lair.Sound) {line : List Char} (inside : line ∈ lines lair) :
    line.length = 38 ∧ '\n' ∉ line := by
  obtain ⟨place, here, rfl⟩ := List.mem_iff_getElem.1 inside
  have within : place < lair.size + 3 := by rwa [sound.length_lines] at here
  obtain ⟨line, drawn, width, plain, -⟩ := sound.exists_line within
  obtain rfl := (List.getElem_eq_iff here).2 drawn
  exact ⟨width, plain⟩

/-- The lines of a drawing are found again in its text, and behind them there is nothing. -/
theorem splitOn_text (sound : lair.Sound) :
    (text lair).toList.splitOn '\n' = lines lair ++ [[]] := by
  have split := splitOn_unlines (fun line inside => (sound.of_mem_lines inside).2) []
  rw [List.append_nil] at split
  rw [text, String.toList_ofList, split]
  rfl

/-- The logs of each pile are read back from the text. -/
theorem logAt?_text (sound : lair.Sound) (site : Site) (slot : Nat) :
    logAt? ((text lair).toList.splitOn '\n') site slot = (lair.pile site).logs[slot]? := by
  have fits : (lair.pile site).logs.length ≤ (lair.pile site).capacity := by
    rw [sound.capacity site]
    exact sound.length_logs_le site
  rw [← logIn?_box fits slot, sound.splitOn_text, logAt?]
  obtain inside | outside := Nat.lt_or_ge (slot + 2) (lair.size + 3)
  · obtain ⟨line, drawn, -, -, parts⟩ := sound.exists_line inside
    rw [List.getElem?_append_left (by rwa [sound.length_lines]), drawn, parts site]
    rfl
  · have nothing : (box (lair.pile site))[slot + 2]? = none :=
      List.getElem?_eq_none (by rwa [length_box, sound.capacity site])
    rw [List.getElem?_append_right (by rwa [sound.length_lines]), nothing]
    cases slot + 2 - (lines lair).length with
    | zero => cases site <;> decide
    | succ beyond => rfl

/-- Each log of the lair is drawn in one place. -/
theorem existsUnique_place (sound : lair.Sound) (known : 1 ≤ log ∧ log ≤ lair.size) :
    ∃! place : Site × Nat, (lair.pile place.1).logs[place.2]? = some log := by
  obtain ⟨site, lies⟩ := sound.exists_mem_logs_iff.2 known
  obtain ⟨slot, here⟩ := List.mem_iff_getElem?.1 lies
  refine ⟨(site, slot), here, ?_⟩
  rintro ⟨other, below⟩ there
  have member := List.mem_of_getElem? there
  rw [← get_position] at lies member
  obtain rfl := Piles.site_unique sound.nodup lies member
  have once : (lair.pile site).logs.Nodup := (sound.ascending site).imp Nat.ne_of_lt
  obtain ⟨inside, -⟩ := List.getElem?_eq_some_iff.1 here
  obtain rfl := (List.getElem?_inj inside once).1 (here.trans there.symm)
  rfl

/-- Two sound lairs with the same drawing have the same piles. -/
theorem piles_eq_of_text_eq (sound : lair.Sound) (second : other.Sound)
    (same : text lair = text other) : lair.size = other.size ∧ lair.piles = other.piles := by
  have lines_eq : lines lair = lines other := by
    have split := congrArg (fun text => text.toList.splitOn '\n') same
    simpa [sound.splitOn_text, second.splitOn_text] using split
  have size_eq : lair.size = other.size := by
    have heights := congrArg List.length lines_eq
    rw [sound.length_lines, second.length_lines] at heights
    exact Nat.add_right_cancel heights
  refine ⟨size_eq, PerSite.ext_get fun site => ?_⟩
  change lair.pile site = other.pile site
  have logs_eq : (lair.pile site).logs = (other.pile site).logs := by
    apply List.ext_getElem?
    intro slot
    rw [← sound.logAt?_text, ← second.logAt?_text, same]
  have site_eq := (sound.site site).trans (second.site site).symm
  have capacity_eq := (sound.capacity site).trans
    (size_eq.trans (second.capacity site).symm)
  cases left : lair.pile site
  cases right : other.pile site
  simp_all

end Lair.Sound

/-- The drawing of a lair loses nothing, whatever was done to the lair.  It has three lines more
than the lair has logs, each of thirty-eight characters.  A row of a box shows the log that lies so
far below the top of its pile, or nothing where the pile ends, and this can be read back from the
text.  So each log is found in one place, nothing else is found anywhere, and lairs with the same
drawing have the same size and the same piles. -/
theorem drawing_loses_nothing {lair : Lair} (reached : lair.Reached) :
    (Drawing.text lair).toList.splitOn '\n' = Drawing.lines lair ++ [[]] ∧
    (Drawing.lines lair).length = lair.size + 3 ∧
    (∀ line ∈ Drawing.lines lair, line.length = 38) ∧
    (∀ slot < lair.size, ∃ line, (Drawing.lines lair)[slot + 2]? = some line ∧
      ∀ site, Drawing.part site line =
        Drawing.row (Drawing.content (lair.pile site).logs[slot]?)) ∧
    (∀ site slot, Drawing.logAt? ((Drawing.text lair).toList.splitOn '\n') site slot =
      (lair.pile site).logs[slot]?) ∧
    (∀ log, 1 ≤ log ∧ log ≤ lair.size ↔ ∃! place : Site × Nat,
      Drawing.logAt? ((Drawing.text lair).toList.splitOn '\n') place.1 place.2 = some log) ∧
    ∀ {other : Lair}, other.Reached → Drawing.text lair = Drawing.text other →
      lair.size = other.size ∧ lair.piles = other.piles := by
  have sound := reached.sound
  refine ⟨sound.splitOn_text, sound.length_lines, fun line inside => (sound.of_mem_lines inside).1,
    ?_, sound.logAt?_text, ?_, fun second same => sound.piles_eq_of_text_eq second.sound same⟩
  · intro slot inside
    have within : slot + 2 < lair.size + 3 := by omega
    obtain ⟨line, drawn, -, -, parts⟩ := sound.exists_line within
    refine ⟨line, drawn, fun site => ?_⟩
    have row := Drawing.getElem?_box (lair.pile site) (inside.trans_eq (sound.capacity site).symm)
    exact Option.some.inj ((parts site).symm.trans row)
  · intro log
    simp only [sound.logAt?_text]
    constructor
    · exact sound.existsUnique_place
    · rintro ⟨place, here, -⟩
      exact sound.exists_mem_logs_iff.1 ⟨place.1, List.mem_of_getElem? here⟩

/-- Two logs, drawn after the first move of a solution: the smaller one is seen at the base, and the
drawing is not the one of the fresh lair. -/
theorem drawing_loses_nothing_halfway :
    ((Lair.fresh 2).arrange ⟨[2], [1], []⟩).Reached ∧
      (Drawing.lines ((Lair.fresh 2).arrange ⟨[2], [1], []⟩)).length = 5 ∧
      Drawing.logAt? ((Drawing.text ((Lair.fresh 2).arrange ⟨[2], [1], []⟩)).toList.splitOn '\n')
        .base 0 = some 1 ∧
      Drawing.text ((Lair.fresh 2).arrange ⟨[2], [1], []⟩) ≠ Drawing.text (Lair.fresh 2) := by
  have built : Lair.ofNat 2 = .ok (Lair.fresh 2) := rfl
  have fresh := Lair.Reached.fresh built
  have told : ((⟨1, 1, .forest, .base⟩ : Move), (Lair.fresh 2).arrange ⟨[2], [1], []⟩) ∈
      ((Lair.fresh 2).transcript .recursive Observer.silent ()).calls := by decide
  have reached := fresh.shown .recursive Observer.silent () told
  obtain ⟨-, height, -, -, read, -, apart⟩ := drawing_loses_nothing reached
  refine ⟨reached, height, read .base 0, fun same => ?_⟩
  exact absurd (apart fresh same).2 (by decide)

end LogPiles
