import ArrivalManager.Proofs.Text.Numeral
import ArrivalManager.Proofs.Text.Utf8
import ArrivalManager.Replay.Record

/-! Records are written in lines of fields, and a file is read as the records that are listed in it. -/

namespace ArrivalManager

/-- A text that can be a field of a line. -/
structure Plain (field : List Char) : Prop where
  undivided : Undivided field
  whole : '\n' ∉ field

/-- A number can be a field of a line. -/
theorem Numeral.plain {text : List Char} (numeral : Numeral text) : Plain text := by
  refine ⟨numeral.undivided, fun feed => ?_⟩
  exact absurd (numeral.chars '\n' feed) (by decide)

/-- A line that holds no record: a blank one, or one that begins with a number sign. -/
def Comment (line : List Char) : Prop := (∀ char ∈ line, isBlank char) ∨ line.head? = some '#'

/-- The lines that are passed over are the comments. -/
theorem Record.isComment_iff {line : List Char} : Record.isComment line ↔ Comment line := by
  simp [Record.isComment, Comment, List.all_eq_true]

/-- Taking a carriage return off the end of a comment leaves a comment. -/
theorem comment_dropCarriageReturn {line : List Char} (comment : Comment line) :
    Comment (dropCarriageReturn line) := by
  rcases dropCarriageReturn_cases line with same | longer
  · rwa [same]
  · rw [longer] at comment
    rcases comment with blank | sign
    · exact .inl fun char member => blank char (List.mem_append_left _ member)
    · -- The number sign is not what is taken off.
      refine .inr ?_
      cases front : dropCarriageReturn line with
      | nil => simp [front] at sign
      | cons char rest => simpa [front] using sign

namespace Record

/-- How a feeder fix is written in a field, with its estimate in the next one. -/
inductive ShowsFix : Option (String × Int) → List Char → List Char → Prop where
  /-- A dash stands for no fix, whatever the next field says. -/
  | missing {next : List Char} (plain : Plain next) : ShowsFix none ['-'] next
  | named {name : String} {estimate : Int} {next : List Char} (other : name.toList ≠ ['-'])
    (plain : Plain name.toList) (read : readSigned 64 next = .ok estimate) :
    ShowsFix (some (name, estimate)) name.toList next

/-- How a record is written in twelve fields. -/
inductive Shows (record : Record) : List (List Char) → Prop where
  | fields {time fix fixEstimate landing latitude longitude altitude groundSpeed : List Char}
    (readTime : readSigned 64 time = .ok record.time)
    (callsign : Plain record.callsign.toList)
    (typeCode : Plain record.typeCode.toList)
    (origin : Plain record.origin.toList)
    (destination : Plain record.destination.toList)
    (shownFix : ShowsFix record.fix fix fixEstimate)
    (readLanding : readSigned 64 landing = .ok record.landing)
    (readLatitude : readReal latitude = .ok record.position.coordinate.latitude)
    (readLongitude : readReal longitude = .ok record.position.coordinate.longitude)
    (readAltitude : readSigned 32 altitude = .ok record.position.altitudeFt)
    (readGroundSpeed : readReal groundSpeed = .ok record.position.groundSpeedKt) :
    Shows record [time, record.callsign.toList, record.typeCode.toList, record.origin.toList,
      record.destination.toList, fix, fixEstimate, landing, latitude, longitude, altitude, groundSpeed]

/-- Twelve fields, with a number wherever there must be one; without a fix its estimate can be any text. -/
def WellFormed : List (List Char) → Prop
  | [time, _, _, _, _, fix, fixEstimate, landing, latitude, longitude, altitude, groundSpeed] =>
    (∃ value, readSigned 64 time = .ok value)
    ∧ (fix ≠ ['-'] → ∃ value, readSigned 64 fixEstimate = .ok value)
    ∧ (∃ value, readSigned 64 landing = .ok value)
    ∧ (∃ value, readReal latitude = .ok value)
    ∧ (∃ value, readReal longitude = .ok value)
    ∧ (∃ value, readSigned 32 altitude = .ok value)
    ∧ ∃ value, readReal groundSpeed = .ok value
  | _ => False

/-- The lines of a file, with the records that they hold, one after the other. -/
inductive Lists : List (List Char) → List Record → Prop where
  | nil : Lists [] []
  | comment {line : List Char} {lines : List (List Char)} {records : List Record} (whole : '\n' ∉ line)
    (skipped : Comment line) (others : Lists lines records) : Lists (line :: lines) records
  | record {record : Record} {fields lines : List (List Char)} {records : List Record}
    (shown : record.Shows fields) (others : Lists lines records) :
    Lists (joinFields fields :: lines) (record :: records)

variable {record : Record} {fix fixEstimate line : List Char} {fields lines : List (List Char)}
  {records : List Record} {shown : Option (String × Int)}

/-- The fields of a fix can be fields of a line. -/
theorem ShowsFix.plain (shows : ShowsFix shown fix fixEstimate) : Plain fix ∧ Plain fixEstimate := by
  cases shows with
  | missing plain =>
    exact ⟨⟨by decide, by decide⟩, plain⟩
  | named other plain read => exact ⟨plain, (readSigned_numeral read).plain⟩

/-- The fields of a record can be fields of a line. -/
theorem Shows.plain (shows : record.Shows fields) : ∀ field ∈ fields, Plain field := by
  cases shows with
  | fields readTime callsign typeCode origin destination shownFix readLanding readLatitude readLongitude
      readAltitude readGroundSpeed =>
    simp only [List.forall_mem_cons]
    exact ⟨(readSigned_numeral readTime).plain, callsign, typeCode, origin, destination, shownFix.plain.1,
      shownFix.plain.2, (readSigned_numeral readLanding).plain, (readReal_numeral readLatitude).plain,
      (readReal_numeral readLongitude).plain, (readSigned_numeral readAltitude).plain,
      (readReal_numeral readGroundSpeed).plain, by simp⟩

/-- The fields of a record are those of the line that they make up. -/
theorem Shows.parted (shows : record.Shows fields) : Parted (joinFields fields) fields := by
  refine ⟨?_, rfl, fun field member => (shows.plain field member).undivided⟩
  cases shows with
  | fields => exact List.cons_ne_nil _ _

/-- The line of a record has no line feed in it. -/
theorem Shows.whole (shows : record.Shows fields) : '\n' ∉ joinFields fields := by
  rw [mem_joinFields (by decide) (by decide)]
  rintro ⟨field, member, feed⟩
  exact (shows.plain field member).whole feed

/-- The line of a record begins with a character of its time, and ends with one of its ground speed. -/
theorem Shows.numerals (shows : record.Shows fields) :
    ∃ first last, isNumeral first ∧ isNumeral last
      ∧ (joinFields fields).head? = some first ∧ (joinFields fields).getLast? = some last := by
  -- The first and the last field are numbers, and no number is empty.
  cases shows with
  | fields readTime callsign typeCode origin destination shownFix readLanding readLatitude readLongitude
      readAltitude readGroundSpeed =>
    have begins := readSigned_numeral readTime
    have ends := readReal_numeral readGroundSpeed
    obtain ⟨first, time, rfl⟩ := List.exists_cons_of_ne_nil begins.nonempty
    obtain ⟨speed, last, rfl⟩ := (List.eq_nil_or_concat _).resolve_left ends.nonempty
    refine ⟨first, last, begins.chars first (by simp), ends.chars last (by simp), ?_, ?_⟩
    · simp
    · simp [List.getLast?_append, List.getLast?_cons]

/-- The line of a record is not passed over. -/
theorem Shows.not_comment (shows : record.Shows fields) : ¬ Comment (joinFields fields) := by
  -- A character of a number is neither white space nor a number sign.
  obtain ⟨first, -, numeral, -, begins, -⟩ := shows.numerals
  rintro (blank | sign)
  · have visible := isBlank_eq_false numeral
    simp [blank first (List.mem_of_head? begins)] at visible
  · rw [begins] at sign
    cases sign
    exact absurd numeral (by decide)

/-- The line of a record is read as it is, whatever ends it. -/
theorem Shows.readLine (shows : record.Shows fields) (ending : LineEnd) :
    Layout.readLine (joinFields fields, ending) = joinFields fields := by
  obtain ⟨-, last, -, numeral, -, ends⟩ := shows.numerals
  have ended : (joinFields fields).getLast? ≠ some '\r' := by
    rw [ends]
    rintro ⟨⟩
    exact absurd numeral (by decide)
  cases ending with
  | lineFeed => exact dropCarriageReturn_eq_self ended
  | carriageReturn => rfl

/-- A signed number is read from a field as it is read from text. -/
theorem readInteger_eq_ok {bits : Nat} {field : List Char} {value : Int} :
    readInteger bits field = .ok value ↔ readSigned bits field = .ok value := mapError_eq_ok

/-- A real number is read from a field as it is read from text. -/
theorem readNumber_eq_ok {field : List Char} {value : Float} :
    readNumber field = .ok value ↔ readReal field = .ok value := mapError_eq_ok

/-- Every text is that of a name. -/
theorem exists_toList (text : List Char) : ∃ name : String, name.toList = text :=
  ⟨String.ofList text, String.toList_ofList⟩

/-- A feeder fix is read from the fields in which it is written. -/
theorem readFix_eq_ok (plain : Plain fix) (next : Plain fixEstimate) :
    readFix fix fixEstimate = .ok shown ↔ ShowsFix shown fix fixEstimate := by
  -- The estimate is only read behind a field that is no dash.
  unfold readFix
  constructor
  · intro read
    split at read
    · rename_i dash
      cases read
      rw [dash]
      exact .missing next
    · rename_i other
      obtain ⟨estimate, parsed, given⟩ := bind_eq_ok.mp read
      rw [← pure_eq_ok.mp given]
      obtain ⟨name, rfl⟩ := exists_toList fix
      rw [String.ofList_toList]
      exact .named other plain (readInteger_eq_ok.mp parsed)
  · intro shows
    cases shows with
    | missing => rfl
    | named other plain read =>
      rw [if_neg other, readInteger_eq_ok.mpr read, String.ofList_toList]
      rfl

/-- Fields that can be read show the record that is read from them. -/
theorem Shows.ofRead {timeText callsign typeCode origin destination landingText latitudeText
      longitudeText altitudeText groundSpeedText : List Char}
    {time landing altitude : Int} {latitude longitude groundSpeed : Float}
    (plain : ∀ field ∈ [timeText, callsign, typeCode, origin, destination, fix, fixEstimate, landingText,
      latitudeText, longitudeText, altitudeText, groundSpeedText], Plain field)
    (readTime : readSigned 64 timeText = .ok time) (shownFix : ShowsFix shown fix fixEstimate)
    (readLanding : readSigned 64 landingText = .ok landing)
    (readLatitude : readReal latitudeText = .ok latitude)
    (readLongitude : readReal longitudeText = .ok longitude)
    (readAltitude : readSigned 32 altitudeText = .ok altitude)
    (readGroundSpeed : readReal groundSpeedText = .ok groundSpeed) :
    Shows ⟨time, String.ofList callsign, String.ofList typeCode, String.ofList origin,
        String.ofList destination, shown, landing, ⟨⟨latitude, longitude⟩, altitude, groundSpeed⟩⟩
      [timeText, callsign, typeCode, origin, destination, fix, fixEstimate, landingText, latitudeText,
        longitudeText, altitudeText, groundSpeedText] := by
  -- Each of the texts is that of the name that is read from it.
  obtain ⟨callsign, rfl⟩ := exists_toList callsign
  obtain ⟨typeCode, rfl⟩ := exists_toList typeCode
  obtain ⟨origin, rfl⟩ := exists_toList origin
  obtain ⟨destination, rfl⟩ := exists_toList destination
  simp only [List.forall_mem_cons] at plain
  obtain ⟨-, plainCallsign, plainType, plainOrigin, plainDestination, -⟩ := plain
  simp only [String.ofList_toList]
  exact .fields readTime plainCallsign plainType plainOrigin plainDestination shownFix readLanding
    readLatitude readLongitude readAltitude readGroundSpeed

/-- The fields of a line can be fields of a line. -/
theorem plain_splitFields (whole : '\n' ∉ line) : ∀ field ∈ splitFields line, Plain field := by
  have parted := parted_splitFields line
  intro field member
  refine ⟨parted.undivided field member, fun feed => whole ?_⟩
  rw [← parted.join, mem_joinFields (by decide) (by decide)]
  exact ⟨field, member, feed⟩

/-- A record is read from a line exactly if the fields of the line are those of the record. -/
theorem ofLine_eq_ok (whole : '\n' ∉ line) :
    ofLine line = .ok record ↔ record.Shows (splitFields line) := by
  have plain := plain_splitFields whole
  unfold ofLine
  constructor
  · intro read
    split at read
    · rename_i fix fixEstimate _ _ _ _ _ split
      rw [split] at plain ⊢
      have plainFix := plain fix (by simp)
      have plainEstimate := plain fixEstimate (by simp)
      -- The readings succeed one after the other, and each gives a value of the record.
      simp only [bind_eq_ok, pure_eq_ok, readInteger_eq_ok, readNumber_eq_ok,
        readFix_eq_ok plainFix plainEstimate] at read
      obtain ⟨time, readTime, shown, shows, landing, readLanding, latitude, readLatitude, longitude,
        readLongitude, altitude, readAltitude, groundSpeed, readGroundSpeed, rfl⟩ := read
      exact .ofRead plain readTime shows readLanding readLatitude readLongitude readAltitude
        readGroundSpeed
    · cases read
  · intro shows
    generalize splitFields line = fields at shows plain
    cases shows with
    | fields readTime callsign typeCode origin destination shownFix readLanding readLatitude readLongitude
        readAltitude readGroundSpeed =>
      have readShown := (readFix_eq_ok shownFix.plain.1 shownFix.plain.2).mpr shownFix
      simp only [bind_eq_ok, pure_eq_ok, readInteger_eq_ok, readNumber_eq_ok, String.ofList_toList]
      exact ⟨_, readTime, _, readShown, _, readLanding, _, readLatitude, _, readLongitude, _,
        readAltitude, _, readGroundSpeed, rfl⟩

/-- Fields are those of a record exactly if they are well formed. -/
theorem wellFormed_iff (plain : ∀ field ∈ fields, Plain field) :
    WellFormed fields ↔ ∃ record : Record, record.Shows fields := by
  constructor
  · intro formed
    unfold WellFormed at formed
    split at formed
    · rename_i fix fixEstimate _ _ _ _ _
      obtain ⟨⟨_, readTime⟩, estimated, ⟨_, readLanding⟩, ⟨_, readLatitude⟩, ⟨_, readLongitude⟩,
        ⟨_, readAltitude⟩, ⟨_, readGroundSpeed⟩⟩ := formed
      -- Only a field that is no dash needs an estimate that can be read.
      have plainFix := plain fix (by simp)
      have plainEstimate := plain fixEstimate (by simp)
      have shows : ∃ shown, ShowsFix shown fix fixEstimate := by
        by_cases dash : fix = ['-']
        · rw [dash]
          exact ⟨none, .missing plainEstimate⟩
        · obtain ⟨estimate, read⟩ := estimated dash
          obtain ⟨name, rfl⟩ := exists_toList fix
          exact ⟨some (name, estimate), .named dash plainFix read⟩
      obtain ⟨shown, shows⟩ := shows
      exact ⟨_, .ofRead plain readTime shows readLanding readLatitude readLongitude readAltitude
        readGroundSpeed⟩
    · cases formed
  · rintro ⟨record, shows⟩
    cases shows with
    | fields readTime callsign typeCode origin destination shownFix readLanding readLatitude readLongitude
        readAltitude readGroundSpeed =>
      refine ⟨⟨_, readTime⟩, fun other => ?_, ⟨_, readLanding⟩, ⟨_, readLatitude⟩, ⟨_, readLongitude⟩,
        ⟨_, readAltitude⟩, ⟨_, readGroundSpeed⟩⟩
      generalize record.fix = shown at shownFix
      cases shownFix with
      | missing => exact absurd rfl other
      | named _ _ read => exact ⟨_, read⟩

/-- On a comment nothing is listed. -/
theorem lists_cons_of_comment (whole : '\n' ∉ line) (comment : Comment line) :
    Lists (line :: lines) records ↔ Lists lines records := by
  refine ⟨fun listed => ?_, .comment whole comment⟩
  cases listed with
  | comment _ _ others => exact others
  | record shows _ => exact absurd comment shows.not_comment

/-- On any other line there is listed the record that its fields show. -/
theorem lists_cons_of_not_comment (kept : ¬ Comment line) :
    Lists (line :: lines) records
      ↔ ∃ record : Record, record.Shows (splitFields line)
        ∧ ∃ others, Lists lines others ∧ record :: others = records := by
  constructor
  · intro listed
    cases listed with
    | comment _ skipped _ => exact absurd skipped kept
    | record shows listed =>
      rw [parted_iff.mp shows.parted]
      exact ⟨_, shows, _, listed, rfl⟩
  · rintro ⟨record, shows, others, listed, rfl⟩
    -- The line is made up of what it is cut into.
    have listing := Lists.record shows listed
    rwa [(parted_splitFields line).join] at listing

/-- The lines that are no comments are read as the records that are listed. -/
theorem mapM_ofLine_eq_ok (whole : ∀ line ∈ lines, '\n' ∉ line) :
    (lines.filter fun line => ¬ isComment line).mapM ofLine = .ok records ↔ Lists lines records := by
  -- The induction takes the lines from the front, as the reading does.
  induction lines generalizing records with
  | nil =>
    constructor
    · intro read
      cases read
      exact .nil
    · intro listed
      cases listed
      rfl
  | cons line lines ih =>
    obtain ⟨first, others⟩ := List.forall_mem_cons.mp whole
    by_cases comment : Comment line
    · have skipped : (line :: lines).filter (fun line => ¬ isComment line)
          = lines.filter fun line => ¬ isComment line := by simp [isComment_iff.mpr comment]
      rw [skipped, ih others, lists_cons_of_comment first comment]
    · have kept : (line :: lines).filter (fun line => ¬ isComment line)
          = line :: lines.filter fun line => ¬ isComment line := by
        simp [mt isComment_iff.mp comment]
      rw [kept, List.mapM_cons, lists_cons_of_not_comment comment]
      simp only [bind_eq_ok, pure_eq_ok, ofLine_eq_ok first, ih others]

/-- There are records listed on lines exactly if each line that is no comment is well formed. -/
theorem exists_lists_iff (whole : ∀ line ∈ lines, '\n' ∉ line) :
    (∃ records, Lists lines records)
      ↔ ∀ line ∈ lines, ¬ Comment line → WellFormed (splitFields line) := by
  induction lines with
  | nil => simpa using ⟨[], Lists.nil⟩
  | cons line lines ih =>
    obtain ⟨first, others⟩ := List.forall_mem_cons.mp whole
    rw [List.forall_mem_cons, ← ih others, wellFormed_iff (plain_splitFields first)]
    by_cases comment : Comment line
    · simp only [lists_cons_of_comment first comment, comment, not_true, false_implies, true_and]
    · simp only [lists_cons_of_not_comment comment, comment, not_false_eq_true, true_implies]
      constructor
      · rintro ⟨_, record, shows, records, listed, _⟩
        exact ⟨⟨record, shows⟩, records, listed⟩
      · rintro ⟨⟨record, shows⟩, records, listed⟩
        exact ⟨_, record, shows, records, listed, rfl⟩

/-- What is listed on lines has no line feed in it. -/
theorem Lists.whole (listed : Lists lines records) : ∀ line ∈ lines, '\n' ∉ line := by
  induction listed with
  | nil => simp
  | comment whole _ _ ih => exact List.forall_mem_cons.mpr ⟨whole, ih⟩
  | record shows _ ih => exact List.forall_mem_cons.mpr ⟨shows.whole, ih⟩

/-- What is listed on lines is also listed on them as they are read, and not on an empty last one. -/
theorem Lists.readLines {rows : List (List Char × LineEnd)} {last : List Char}
    (listed : Lists (rows.map (·.1) ++ [last]) records) :
    Lists (rows.map Layout.readLine ++ if last = [] then [] else [last]) records := by
  -- A comment stays one without its last character, and the line of a record keeps all of them.
  induction rows generalizing records with
  | nil =>
    by_cases empty : last = []
    · cases listed with
      | comment _ _ others => simpa [empty] using others
      | record shows _ =>
        -- An empty line is blank, so it is not that of a record.
        exact absurd (by rw [empty]; exact .inl (by simp)) shows.not_comment
    · simpa [empty] using listed
  | cons row rows ih =>
    obtain ⟨line, ending⟩ := row
    cases listed with
    | comment whole skipped others =>
      cases ending with
      | carriageReturn => exact .comment whole skipped (ih others)
      | lineFeed =>
        exact .comment (not_mem_dropCarriageReturn whole) (comment_dropCarriageReturn skipped) (ih others)
    | record shows others =>
      have same := shows.readLine ending
      rw [List.map_cons, List.cons_append]
      exact same ▸ .record shows (ih others)

/-- What is listed on the lines of a text is read from the text. -/
theorem Lists.ofText_eq_ok {layout : Layout} (listed : Lists layout.lines records) :
    ofText layout.text = .ok records := by
  have read : Lists (textLines layout.text) records := by
    rw [Layout.textLines_text listed.whole]
    exact listed.readLines
  exact (mapM_ofLine_eq_ok read.whole).mpr read

/-- A clean text is read line by line. -/
theorem ofText_clean {layout : Layout} (clean : layout.Clean) :
    ofText layout.text = (layout.lines.filter fun line => ¬ isComment line).mapM ofLine := by
  have same : (textLines layout.text).filter (fun line => ¬ isComment line)
      = layout.lines.filter fun line => ¬ isComment line := by
    rw [Layout.textLines_text clean.whole, clean.map_readLine, Layout.lines]
    -- An empty last line is not read, but it is blank.
    by_cases empty : layout.last = []
    · simp [empty, isComment]
    · simp only [empty, if_false]
  rw [ofText, same]

/-- The bytes of a text are read as the text. -/
theorem ofBytes_utf8Bytes (text : List Char) : ofBytes (utf8Bytes text) = ofText text := by
  rw [ofBytes, decodeUtf8_utf8Bytes]
  rfl

/--
A file is read as the records that are listed on its lines, one after the other, among any comments.

Nothing else is read from its lines, and all of the file is rejected exactly if a line that is no
comment does not have twelve fields with a number wherever there must be one. Every text has such lines,
by `Layout.exists_clean`.
-/
theorem ofBytes_reads (layout : Layout) :
    (∀ records, Lists layout.lines records → ofBytes (utf8Bytes layout.text) = .ok records)
    ∧ (layout.Clean →
      (∀ records, ofBytes (utf8Bytes layout.text) = .ok records → Lists layout.lines records)
      ∧ ((∃ fault, ofBytes (utf8Bytes layout.text) = .error fault)
        ↔ ∃ line ∈ layout.lines, ¬ Comment line
          ∧ ∃ fields, Parted line fields ∧ ¬ WellFormed fields)) := by
  rw [ofBytes_utf8Bytes]
  refine ⟨fun records listed => listed.ofText_eq_ok, fun clean => ?_⟩
  rw [ofText_clean clean]
  refine ⟨fun records => (mapM_ofLine_eq_ok clean.whole).mp, ?_⟩
  -- What is not read as any records is rejected.
  have rejected :
      (∃ fault, (layout.lines.filter fun line => ¬ isComment line).mapM ofLine = .error fault)
        ↔ ¬ ∃ records, Lists layout.lines records := by
    simp only [← mapM_ofLine_eq_ok clean.whole]
    cases (layout.lines.filter fun line => ¬ isComment line).mapM ofLine <;> simp
  rw [rejected, exists_lists_iff clean.whole]
  simp [parted_iff]

/-- A record with a feeder fix, whose texts hold a comma at the end, a space in front, and nothing. -/
def sampleNamed : Record :=
  { time := 600
    callsign := "QFA1,"
    typeCode := " B738"
    origin := ""
    destination := "YSSY"
    fix := some ("RIVET", 2400)
    landing := 3600
    position := ⟨⟨-nearestReal ['3', '3', '5'] (-1), nearestReal ['1', '5', '1', '2', '5'] (-2)⟩, 35000,
      nearestReal ['4', '5'] 1⟩ }

/-- A record without a feeder fix. -/
def sampleUnfixed : Record :=
  { time := -60
    callsign := "VOZ2"
    typeCode := "B789"
    origin := "YMML"
    destination := "YSSY"
    fix := none
    landing := 1800
    position := ⟨⟨notANumber, infinity⟩, -50, 0.0⟩ }

/-- A file with two records, in lines that end in both ways, and with comments around them. -/
def sampleFile : Layout :=
  { rows := [
      ("# time, callsign, type".toList, .lineFeed),
      ("600, QFA1,,  B738, , YSSY, RIVET, 2400, 3600, -33.5, 151.25, +35000, 4.5e2".toList,
        .carriageReturn),
      (" \t".toList, .carriageReturn),
      ("-60, VOZ2, B789, YMML, YSSY, -, # none, 1800, NaN, inf, -50, 0".toList, .lineFeed)]
    last := "#".toList }

/-- The same file, with a last line that has too few fields. -/
def sampleTruncated : Layout := { sampleFile with last := "600, QFA1".toList }

/-- The fields of the record with a feeder fix. -/
theorem shows_sampleNamed :
    sampleNamed.Shows (["600", "QFA1,", " B738", "", "YSSY", "RIVET", "2400", "3600", "-33.5", "151.25",
      "+35000", "4.5e2"].map String.toList) := by
  refine .fields rfl ?_ ?_ ?_ ?_ (.named (by decide) ?_ rfl) rfl rfl rfl rfl rfl
  all_goals exact ⟨by decide +kernel, by decide +kernel⟩

/-- The fields of the record without one. -/
theorem shows_sampleUnfixed :
    sampleUnfixed.Shows (["-60", "VOZ2", "B789", "YMML", "YSSY", "-", "# none", "1800", "NaN", "inf",
      "-50", "0"].map String.toList) := by
  refine .fields rfl ?_ ?_ ?_ ?_ (.missing ?_) rfl rfl rfl rfl rfl
  all_goals exact ⟨by decide +kernel, by decide +kernel⟩

/-- The records of a file are read among its comments, and a truncated line discards them all. -/
theorem ofBytes_reads_sampleFile :
    ofBytes (utf8Bytes sampleFile.text) = .ok [sampleNamed, sampleUnfixed]
      ∧ ∃ fault, ofBytes (utf8Bytes sampleTruncated.text) = .error fault := by
  have listed : Lists sampleFile.lines [sampleNamed, sampleUnfixed] := by
    refine .comment (by decide) (.inr rfl) (.record shows_sampleNamed ?_)
    refine .comment (by decide) (.inl (by simp [isBlank])) (.record shows_sampleUnfixed ?_)
    exact .comment (by decide) (.inr rfl) .nil
  have clean : sampleTruncated.Clean :=
    ⟨by decide +kernel, by simp [sampleTruncated, sampleFile]⟩
  have last : "600, QFA1".toList ∈ sampleTruncated.lines :=
    List.mem_append_right _ (List.mem_singleton_self _)
  -- The last line is neither blank nor marked, and has two fields.
  have marked : ¬ Comment "600, QFA1".toList := by
    rintro (blank | sign)
    · exact absurd (blank '6' (by decide)) (by decide)
    · cases sign
  have rejected := ((ofBytes_reads sampleTruncated).2 clean).2.mpr
    ⟨_, last, marked, _, parted_splitFields _, id⟩
  exact ⟨(ofBytes_reads sampleFile).1 _ listed, rejected⟩

end Record

end ArrivalManager
