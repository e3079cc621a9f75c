import ArrivalManager.Text.Lines

/-! A text is cut into the lines that it was laid out from, and a line into the fields that it joins. -/

namespace ArrivalManager

/-- Without a line feed a text is one piece. -/
theorem splitAtLineFeeds_whole {line : List Char} (whole : '\n' ∉ line) :
    splitAtLineFeeds line = [line] := by
  induction line with
  | nil => rfl
  | cons char line ih =>
    simp only [List.mem_cons, not_or] at whole
    simp [splitAtLineFeeds, ih whole.2, Ne.symm whole.1]

/-- What stands in front of the first line feed is the first piece. -/
theorem splitAtLineFeeds_append {line rest : List Char} (whole : '\n' ∉ line) :
    splitAtLineFeeds (line ++ '\n' :: rest) = line :: splitAtLineFeeds rest := by
  induction line with
  | nil =>
    -- There is always a piece behind the line feed, even if it is empty.
    have pieces : splitAtLineFeeds rest ≠ [] := by
      unfold splitAtLineFeeds
      grind
    obtain ⟨piece, others, split⟩ := List.exists_cons_of_ne_nil pieces
    simp [splitAtLineFeeds, split]
  | cons char line ih =>
    simp only [List.mem_cons, not_or] at whole
    simp [splitAtLineFeeds, ih whole.2, Ne.symm whole.1]

/-- Pieces with a line feed behind each, and a last one, are cut apart at the line feeds. -/
theorem splitAtLineFeeds_flatMap {pieces : List (List Char)} {last : List Char}
    (whole : ∀ piece ∈ pieces, '\n' ∉ piece) (unended : '\n' ∉ last) :
    splitAtLineFeeds (pieces.flatMap (· ++ ['\n']) ++ last) = pieces ++ [last] := by
  -- One piece after the other is cut off the front.
  induction pieces with
  | nil => exact splitAtLineFeeds_whole unended
  | cons piece pieces ih =>
    obtain ⟨first, others⟩ := List.forall_mem_cons.mp whole
    simp only [List.flatMap_cons, List.append_assoc, List.cons_append, List.nil_append]
    rw [splitAtLineFeeds_append first, ih others]

/-- A carriage return at the end of a line is dropped. -/
@[simp] theorem dropCarriageReturn_append (line : List Char) :
    dropCarriageReturn (line ++ ['\r']) = line := by
  simp [dropCarriageReturn]

/-- A line that does not end with a carriage return stays as it is. -/
theorem dropCarriageReturn_eq_self {line : List Char} (ended : line.getLast? ≠ some '\r') :
    dropCarriageReturn line = line := by
  unfold dropCarriageReturn
  split
  · rename_i rest reversed
    simp [← List.head?_reverse, reversed] at ended
  · rfl

/-- A line either stays as it is, or loses the carriage return at its end. -/
theorem dropCarriageReturn_cases (line : List Char) :
    dropCarriageReturn line = line ∨ line = dropCarriageReturn line ++ ['\r'] := by
  by_cases ended : line.getLast? = some '\r'
  · obtain ⟨front, rfl⟩ := List.getLast?_eq_some_iff.mp ended
    simp
  · exact .inl (dropCarriageReturn_eq_self ended)

/-- What is left of a line has no line feed in it if the line has none. -/
theorem not_mem_dropCarriageReturn {line : List Char} (whole : '\n' ∉ line) :
    '\n' ∉ dropCarriageReturn line := by
  -- What is left is in front of what is taken off.
  rcases dropCarriageReturn_cases line with same | longer
  · rwa [same]
  · rw [longer] at whole
    exact fun feed => whole (List.mem_append_left _ feed)

/-- What ends a line: a line feed, without or with a carriage return in front of it. -/
inductive LineEnd where
  | lineFeed
  | carriageReturn

/-- The characters that end a line. -/
def LineEnd.text : LineEnd → List Char
  | .lineFeed => ['\n']
  | .carriageReturn => ['\r', '\n']

/-- A text line by line: those that are ended, each with its end, and the last one, which is not. -/
structure Layout where
  rows : List (List Char × LineEnd)
  last : List Char

namespace Layout

/-- The lines one after the other. -/
def lines (layout : Layout) : List (List Char) := layout.rows.map (·.1) ++ [layout.last]

/-- The text that the lines make up. -/
def text (layout : Layout) : List Char :=
  layout.rows.flatMap (fun row => row.1 ++ row.2.text) ++ layout.last

/-- No line contains what ends lines, and no end of a line is longer than it is said to be. -/
structure Clean (layout : Layout) : Prop where
  whole : ∀ line ∈ layout.lines, '\n' ∉ line
  ended : ∀ line, (line, .lineFeed) ∈ layout.rows → line.getLast? ≠ some '\r'

/-- A line as it is read, without a carriage return in front of the line feed. -/
def readLine : List Char × LineEnd → List Char
  | (line, .lineFeed) => dropCarriageReturn line
  | (line, .carriageReturn) => line

/-- Everything in front of the line feed that ends a line. -/
def stem : List Char × LineEnd → List Char
  | (line, .lineFeed) => line
  | (line, .carriageReturn) => line ++ ['\r']

/-- The line feed stands behind everything else. -/
theorem stem_append (row : List Char × LineEnd) : row.1 ++ row.2.text = stem row ++ ['\n'] := by
  obtain ⟨line, ending⟩ := row
  cases ending with
  | lineFeed => rfl
  | carriageReturn => simp [stem, LineEnd.text]

/-- A line is read without the carriage return that its end begins with. -/
theorem dropCarriageReturn_stem (row : List Char × LineEnd) :
    dropCarriageReturn (stem row) = readLine row := by
  obtain ⟨line, ending⟩ := row
  cases ending with
  | lineFeed => rfl
  | carriageReturn => exact dropCarriageReturn_append line

/-- The end of a line has only one line feed. -/
theorem not_mem_stem {row : List Char × LineEnd} (whole : '\n' ∉ row.1) : '\n' ∉ stem row := by
  obtain ⟨line, ending⟩ := row
  cases ending with
  | lineFeed => exact whole
  | carriageReturn => simpa [stem] using whole

variable {layout : Layout}

/-- The lines of a text are those that it was laid out from, unless the last one is empty. -/
theorem textLines_text (whole : ∀ line ∈ layout.lines, '\n' ∉ line) :
    textLines layout.text
      = layout.rows.map readLine ++ if layout.last = [] then [] else [layout.last] := by
  have split : splitAtLineFeeds layout.text = layout.rows.map stem ++ [layout.last] := by
    have ended : layout.text = (layout.rows.map stem).flatMap (· ++ ['\n']) ++ layout.last := by
      simp only [text, stem_append, List.flatMap_map]
    rw [ended]
    refine splitAtLineFeeds_flatMap (List.forall_mem_map.mpr fun row member => ?_) (whole _ ?_)
    · refine not_mem_stem (whole _ ?_)
      exact List.mem_append_left _ (List.mem_map_of_mem member)
    · exact List.mem_append_right _ (List.mem_singleton_self _)
  -- The last piece is a line only if there is anything in it.
  simp only [textLines, split, List.dropLast_concat, List.map_map, List.getLast?_concat]
  have read : dropCarriageReturn ∘ stem = readLine := funext dropCarriageReturn_stem
  rw [read]
  cases layout.last with
  | nil => simp
  | cons char rest => simp

/-- Lines that contain nothing that ends lines are read as they are. -/
theorem Clean.map_readLine (clean : layout.Clean) :
    layout.rows.map readLine = layout.rows.map (·.1) := by
  -- Only a line that ends with a line feed alone could lose a character.
  refine List.map_congr_left fun row member => ?_
  obtain ⟨line, ending⟩ := row
  cases ending with
  | lineFeed => exact dropCarriageReturn_eq_self (clean.ended line member)
  | carriageReturn => rfl

/-- A layout is clean if its first row is, and those behind it are. -/
theorem clean_cons {line last : List Char} {ending : LineEnd} {rows : List (List Char × LineEnd)} :
    Clean ⟨(line, ending) :: rows, last⟩ ↔
      '\n' ∉ line ∧ (ending = .lineFeed → line.getLast? ≠ some '\r') ∧ Clean ⟨rows, last⟩ := by
  constructor
  · rintro ⟨whole, ended⟩
    obtain ⟨first, others⟩ := List.forall_mem_cons.mp whole
    refine ⟨first, ?_, others, fun line member => ended line (List.mem_cons_of_mem _ member)⟩
    rintro rfl
    exact ended line List.mem_cons_self
  · rintro ⟨first, short, whole, ended⟩
    refine ⟨List.forall_mem_cons.mpr ⟨first, whole⟩, fun other member => ?_⟩
    rcases List.mem_cons.mp member with same | member
    · cases same
      exact short rfl
    · exact ended other member

/-- Every text is laid out in lines. -/
theorem exists_clean (text : List Char) : ∃ layout : Layout, layout.Clean ∧ layout.text = text := by
  -- The text is put together from its end, one character in front of the other.
  induction text with
  | nil => exact ⟨⟨[], []⟩, ⟨by simp [lines], by simp⟩, rfl⟩
  | cons char text ih =>
    obtain ⟨⟨rows, last⟩, clean, rfl⟩ := ih
    by_cases feed : char = '\n'
    · subst feed
      exact ⟨⟨([], .lineFeed) :: rows, last⟩, clean_cons.mpr ⟨by simp, by simp, clean⟩, rfl⟩
    -- Any other character belongs to the first line, or to its end.
    cases rows with
    | nil =>
      refine ⟨⟨[], char :: last⟩, ⟨?_, by simp⟩, rfl⟩
      have whole := clean.whole last (by simp [lines])
      simpa [lines, Ne.symm feed] using whole
    | cons row rows =>
      obtain ⟨line, ending⟩ := row
      obtain ⟨whole, ended, others⟩ := clean_cons.mp clean
      have longer : '\n' ∉ char :: line := by simpa [Ne.symm feed] using whole
      cases line with
      | cons next line =>
        -- The line ends as it did before.
        refine ⟨⟨(char :: next :: line, ending) :: rows, last⟩, ?_, rfl⟩
        exact clean_cons.mpr ⟨longer, by simpa using ended, others⟩
      | nil =>
        cases ending with
        | carriageReturn =>
          refine ⟨⟨([char], .carriageReturn) :: rows, last⟩, ?_, rfl⟩
          exact clean_cons.mpr ⟨longer, by simp, others⟩
        | lineFeed =>
          by_cases carriage : char = '\r'
          · subst carriage
            refine ⟨⟨([], .carriageReturn) :: rows, last⟩, ?_, rfl⟩
            exact clean_cons.mpr ⟨by simp, by simp, others⟩
          · refine ⟨⟨([char], .lineFeed) :: rows, last⟩, ?_, rfl⟩
            exact clean_cons.mpr ⟨longer, by simpa using carriage, others⟩

end Layout

/-- The line that some fields make up. -/
def joinFields (fields : List (List Char)) : List Char := [',', ' '].intercalate fields

/-- A text that nothing parts into fields. -/
def Undivided (field : List Char) : Prop := ¬ [',', ' '] <:+: field

instance (field : List Char) : Decidable (Undivided field) :=
  inferInstanceAs (Decidable (¬ [',', ' '] <:+: field))

section Fields

variable {field rest : List Char} {fields : List (List Char)} {char : Char}

/-- A text is parted within what follows its first character, or by that one and the next one. -/
theorem undivided_cons :
    Undivided (char :: field) ↔ ¬ (char = ',' ∧ field.head? = some ' ') ∧ Undivided field := by
  have start : [' '] <+: field ↔ field.head? = some ' ' := by
    cases field with
    | nil => simp
    | cons next field => simp [List.cons_prefix_cons, eq_comm]
  unfold Undivided
  rw [List.infix_cons_iff, List.cons_prefix_cons, start, not_or, eq_comm]

/-- A single field is a line of its own. -/
@[simp] theorem joinFields_singleton : joinFields [field] = field := List.intercalate_singleton

/-- Between a field and the next one there are a comma and a space. -/
@[simp] theorem joinFields_cons_cons {next : List Char} :
    joinFields (field :: next :: fields) = field ++ ',' :: ' ' :: joinFields (next :: fields) := by
  simp [joinFields]

/-- Whatever does not part fields comes from one of them. -/
theorem mem_joinFields (comma : char ≠ ',') (space : char ≠ ' ') :
    char ∈ joinFields fields ↔ ∃ field ∈ fields, char ∈ field := by
  induction fields with
  | nil => simp [joinFields]
  | cons field fields ih =>
    cases fields with
    | nil => simp
    | cons next fields => simp [ih, comma, space]

/-- A character that parts nothing is the next one of the first field. -/
theorem splitFields_cons (apart : ¬ (char = ',' ∧ rest.head? = some ' '))
    (split : splitFields rest = field :: fields) :
    splitFields (char :: rest) = (char :: field) :: fields := by
  rw [splitFields, split]
  rintro others rfl rfl
  exact apart ⟨rfl, rfl⟩

/-- A text that nothing parts is one field. -/
theorem splitFields_undivided (undivided : Undivided field) : splitFields field = [field] := by
  -- No character of the text is a comma with a space behind it.
  induction field with
  | nil => rfl
  | cons char field ih =>
    obtain ⟨apart, others⟩ := undivided_cons.mp undivided
    exact splitFields_cons apart (ih others)

/-- What stands in front of the first comma and space is the first field. -/
theorem splitFields_append (undivided : Undivided field) :
    splitFields (field ++ ',' :: ' ' :: rest) = field :: splitFields rest := by
  induction field with
  | nil => rfl
  | cons char field ih =>
    obtain ⟨apart, others⟩ := undivided_cons.mp undivided
    refine splitFields_cons (fun parted => apart ⟨parted.1, ?_⟩) (ih others)
    -- A comma at the end of the field has another comma behind it, not a space.
    cases field with
    | nil => simp at parted
    | cons next field => simpa using parted.2

/-- Fields that make up a line, and that nothing parts any further. -/
structure Parted (line : List Char) (fields : List (List Char)) : Prop where
  present : fields ≠ []
  join : joinFields fields = line
  undivided : ∀ field ∈ fields, Undivided field

/-- A line that is made up of fields is cut into them again. -/
theorem splitFields_joinFields (present : fields ≠ [])
    (undivided : ∀ field ∈ fields, Undivided field) : splitFields (joinFields fields) = fields := by
  induction fields with
  | nil => exact absurd rfl present
  | cons field fields ih =>
    obtain ⟨first, others⟩ := List.forall_mem_cons.mp undivided
    cases fields with
    | nil => simpa using splitFields_undivided first
    | cons next fields =>
      rw [joinFields_cons_cons, splitFields_append first, ih (by simp) others]

/-- What a line is cut into makes it up. -/
theorem parted_splitFields (line : List Char) : Parted line (splitFields line) := by
  -- The induction follows the cuts.
  induction line using splitFields.induct with
  | case1 =>
    exact ⟨List.cons_ne_nil _ _, rfl, by decide⟩
  | case2 rest parted =>
    obtain ⟨field, fields, split⟩ := List.exists_cons_of_ne_nil parted.present
    have join := parted.join
    rw [splitFields]
    refine ⟨List.cons_ne_nil _ _, ?_, List.forall_mem_cons.mpr ⟨by decide, parted.undivided⟩⟩
    rw [split] at join ⊢
    rw [joinFields_cons_cons, join, List.nil_append]
  | case3 char rest apart field fields split parted =>
    rw [split] at parted
    obtain ⟨first, others⟩ := List.forall_mem_cons.mp parted.undivided
    have begins : joinFields ((char :: field) :: fields) = char :: rest := by
      rw [joinFields, List.intercalate_cons_cons_left, ← parted.join, joinFields]
    have unparted : ¬ (char = ',' ∧ rest.head? = some ' ') := by
      rintro ⟨comma, space⟩
      obtain ⟨following, tail⟩ := List.head?_eq_some_iff.mp space
      exact apart following comma tail
    -- The first field begins as the rest of the line does, so not with a space behind a comma.
    have longer : ¬ (char = ',' ∧ field.head? = some ' ') := by
      rintro ⟨comma, space⟩
      obtain ⟨following, rfl⟩ := List.head?_eq_some_iff.mp space
      rw [← parted.join, joinFields, List.intercalate_cons_cons_left] at unparted
      exact unparted ⟨comma, rfl⟩
    rw [splitFields_cons unparted split]
    exact ⟨List.cons_ne_nil _ _, begins,
      List.forall_mem_cons.mpr ⟨undivided_cons.mpr ⟨longer, first⟩, others⟩⟩
  | case4 char rest apart split parted => exact absurd split parted.present

/-- A line is parted into the fields that it is cut into, and in no other way. -/
theorem parted_iff {line : List Char} : Parted line fields ↔ splitFields line = fields := by
  constructor
  · rintro ⟨present, rfl, undivided⟩
    exact splitFields_joinFields present undivided
  · rintro rfl
    exact parted_splitFields line

end Fields

end ArrivalManager
