import ImportDispatch.Proofs.Calendar.Reading
import ImportDispatch.Proofs.Wire.Records
import ImportDispatch.Wire.Requests
/-!
# Requests, written and decoded again

A request is written with all its fields, its times in the form of the wire and its amount as a whole number, and each
of these is read back.  For a time that takes a condition, which every time that was decoded meets: a leap second stands
at the end of a minute.  So whatever was decoded, from an object or from a list, with fields left out or times written
loosely, comes back unchanged once it is written (`Decoder.requests_readAgain`), and what is written is written again in
the same way.
-/
namespace ImportDispatch

/-! ## Whole numbers -/

namespace Json

theorem le_foldl_digits : ∀ (digits : Text) (n : Nat),
    n ≤ digits.foldl (fun n c => 10 * n + Decimal.digitValue c) n
  | [], n => Nat.le_refl n
  | c :: digits, n => by
    have := le_foldl_digits digits (10 * n + Decimal.digitValue c)
    rw [List.foldl_cons]
    omega

/-- As long as the number fits a word, a fold that takes each digit which keeps it so takes them all. -/
theorem foldl_fitting {step : Nat × Nat → Char → Nat × Nat}
    (hstep : ∀ n c, 10 * n + Decimal.digitValue c ≤ Word.largest → step (n, 0) c = (10 * n + Decimal.digitValue c, 0)) :
    ∀ (digits : Text) (n : Nat), digits.foldl (fun n c => 10 * n + Decimal.digitValue c) n ≤ Word.largest →
      digits.foldl step (n, 0) = (digits.foldl (fun n c => 10 * n + Decimal.digitValue c) n, 0)
  | [], _, _ => rfl
  | c :: digits, n, h => by
    have hnext := (le_foldl_digits digits (10 * n + Decimal.digitValue c)).trans h
    rw [List.foldl_cons, List.foldl_cons, hstep n c hnext, foldl_fitting hstep digits _ h]

theorem leadingWord_eq {digits : Text} (h : Decimal.valueOf digits ≤ Word.largest) :
    leadingWord digits = (Decimal.valueOf digits, 0) := by
  refine foldl_fitting (fun n c hnext => ?_) digits 0 h
  simp only [hnext, decide_true, Bool.and_true, if_true]

theorem quantity?_ofInt {n : Int} (h : Word.holdsSigned n = true) : (Numeral.ofInt n).quantity? = some (.whole n) := by
  rw [Word.holdsSigned_iff] at h
  have hword : Decimal.valueOf (Decimal.ofNat n.natAbs) ≤ Word.largest := by
    rw [Decimal.valueOf_ofNat, Word.largest]
    omega
  simp only [Numeral.quantity?, Numeral.ofInt, leadingWord_eq hword, Decimal.valueOf_ofNat]
  by_cases hneg : n < 0
  · have hzero : n.natAbs ≠ 0 := by omega
    have hvalue : -(n.natAbs : Int) = n := by omega
    have hleast : Word.leastSigned ≤ n := h.1
    rw [hvalue]
    simp [hneg, hzero, hleast]
  · have hvalue : (n.natAbs : Int) = n := by omega
    rw [hvalue]
    simp [hneg]

end Json

theorem Decoder.integer_int (amount : Int64) : Decoder.integer (.int amount.toInt) = .ok amount := by
  have hholds := Word.holdsSigned_toInt amount
  simp only [Decoder.integer, Json.int, Json.quantity?_ofInt hholds, hholds, if_true, Int64.ofInt_toInt]

/-! ## Lists -/

namespace Decoder

variable {α : Type} {item : Decoder α} {encode : α → Json}

theorem items_map : ∀ {xs : List α}, (∀ x ∈ xs, item (encode x) = .ok x) → items item (xs.map encode) = .ok xs
  | [], _ => rfl
  | x :: xs, h => by
    have hrest := items_map fun y hy => h y (List.mem_cons_of_mem x hy)
    rw [List.map_cons, items, h x List.mem_cons_self, hrest]
    rfl

end Decoder

theorem Json.sortedItems_eq_map : ∀ items : List Json, sortedItems items = items.map sorted
  | [] => by rw [sortedItems, List.map_nil]
  | item :: items => by rw [sortedItems, sortedItems_eq_map items, List.map_cons]

/-! ## Records without times -/

section
variable {members : List (Text × Json)}

theorem ImportSpec.decode_object {spec : ImportSpec} {written : List (Text × Json)}
    (hwritten : spec.encode = .object written) (h : members.Perm written) : decode (.object members) = .ok spec := by
  cases hwritten
  refine Decoder.record_of_perm h rfl (by decide) ?_ ?_
  · simp only [List.forall_mem_cons, List.map_cons, List.map_nil]
    exact ⟨⟨_, rfl, rfl⟩, ⟨_, rfl, rfl⟩, ⟨_, rfl, rfl⟩, ⟨_, rfl, rfl⟩, ⟨_, rfl, rfl⟩, ⟨_, rfl, rfl⟩, ⟨_, rfl, rfl⟩,
      ⟨_, rfl, rfl⟩, ⟨_, rfl, rfl⟩, ⟨_, rfl, rfl⟩, ⟨_, rfl, rfl⟩, ⟨_, rfl, rfl⟩, ⟨_, rfl, rfl⟩, List.forall_mem_nil _⟩
  · intro source hhas
    simp only [FieldSource.Has, List.forall_mem_cons, List.map_cons, List.map_nil] at hhas
    obtain ⟨h0, h1, h2, h3, h4, h5, h6, h7, h8, h9, h10, h11, h12, -⟩ := hhas
    rw [FieldSource.required_eq (h0 0), FieldSource.required_eq (h1 1), FieldSource.withDefault_eq (h2 2),
      FieldSource.withDefault_eq (h3 3), FieldSource.withDefault_eq (h4 4), FieldSource.withDefault_eq (h5 5),
      FieldSource.withDefault_eq (h6 6), FieldSource.withDefault_eq (h7 7), FieldSource.withDefault_eq (h8 8),
      FieldSource.withDefault_eq (h9 9), FieldSource.withDefault_eq (h10 10), FieldSource.withDefault_eq (h11 11),
      FieldSource.withDefault_eq (h12 12)]
    rfl

theorem Frequency.decode_object {frequency : Frequency}
    (h : members.Perm [("unit".toList, .string frequency.unit), ("amount".toList, .int frequency.amount.toInt)]) :
    decode (.object members) = .ok frequency := by
  have hinteger := Decoder.integer_int frequency.amount
  refine Decoder.record_of_perm h rfl (by decide) ?_ ?_
  · simp only [List.forall_mem_cons]
    exact ⟨⟨_, rfl, rfl⟩, ⟨_, rfl, Field.check_of hinteger⟩, List.forall_mem_nil _⟩
  · intro source hhas
    simp only [FieldSource.Has, List.forall_mem_cons] at hhas
    obtain ⟨hunit, hamount, -⟩ := hhas
    rw [FieldSource.required_eq (hunit 0), FieldSource.required_eq (hamount 1), hinteger]
    rfl

theorem Driver.decode_object {driver : Driver}
    (h : members.Perm [("name".toList, .string driver.name), ("className".toList, .string driver.className)]) :
    decode (.object members) = .ok driver := by
  refine Decoder.record_of_perm h rfl (by decide) ?_ ?_
  · simp only [List.forall_mem_cons]
    exact ⟨⟨_, rfl, rfl⟩, ⟨_, rfl, rfl⟩, List.forall_mem_nil _⟩
  · intro source hhas
    simp only [FieldSource.Has, List.forall_mem_cons] at hhas
    obtain ⟨hname, hclass, -⟩ := hhas
    rw [FieldSource.required_eq (hname 0), FieldSource.required_eq (hclass 1)]
    rfl

theorem Database.decode_object {database : Database} {drivers : List Json}
    (hdrivers : Decoder.items Driver.decode drivers = .ok database.drivers)
    (h : members.Perm [("name".toList, .string database.name), ("drivers".toList, .array drivers)]) :
    decode (.object members) = .ok database := by
  have hlist : Decoder.list Driver.decode (.array drivers) = .ok database.drivers := hdrivers
  refine Decoder.record_of_perm h rfl (by decide) ?_ ?_
  · simp only [List.forall_mem_cons]
    exact ⟨⟨_, rfl, rfl⟩, ⟨_, rfl, Field.check_of hlist⟩, List.forall_mem_nil _⟩
  · intro source hhas
    simp only [FieldSource.Has, List.forall_mem_cons] at hhas
    obtain ⟨hname, hlist', -⟩ := hhas
    rw [FieldSource.required_eq (hname 0), FieldSource.withDefault_eq (hlist' 1), hlist]
    rfl

theorem ImportJob.decode_object {job : ImportJob} {spec : Json} (hspec : ImportSpec.decode spec = .ok job.spec)
    (h : members.Perm [("name".toList, .string job.name), ("appPath".toList, .string job.appDir),
      ("sqoopImport".toList, spec)]) : decode (.object members) = .ok job := by
  refine Decoder.record_of_perm h rfl (by decide) ?_ ?_
  · simp only [List.forall_mem_cons]
    exact ⟨⟨_, rfl, rfl⟩, ⟨_, rfl, rfl⟩, ⟨_, rfl, Field.check_of hspec⟩, List.forall_mem_nil _⟩
  · intro source hhas
    simp only [FieldSource.Has, List.forall_mem_cons] at hhas
    obtain ⟨hname, happ, hspec', -⟩ := hhas
    rw [FieldSource.required_eq (hname 0), FieldSource.withDefault_eq (happ 1), FieldSource.required_eq (hspec' 2),
      hspec]
    rfl

/-! ## Records with times -/

theorem Decoder.time_wireText {t : LocalTime} (h : t.LeapAtEnd) : Decoder.time (.string t.wireText) = .ok t := by
  rw [Decoder.time, LocalTime.ofText_wireText h]
  rfl

theorem Schedule.decode_object {schedule : Schedule} {frequency : Json} (hstart : schedule.startTime.LeapAtEnd)
    (hend : schedule.endTime.LeapAtEnd) (hfrequency : Frequency.decode frequency = .ok schedule.frequency)
    (h : members.Perm [("startTime".toList, .string schedule.startTime.wireText),
      ("endTime".toList, .string schedule.endTime.wireText), ("timezone".toList, .string schedule.timezone),
      ("frequency".toList, frequency)]) : decode (.object members) = .ok schedule := by
  have hstart := Decoder.time_wireText hstart
  have hend := Decoder.time_wireText hend
  refine Decoder.record_of_perm h rfl (by decide) ?_ ?_
  · simp only [List.forall_mem_cons]
    exact ⟨⟨_, rfl, Field.check_of hstart⟩, ⟨_, rfl, Field.check_of hend⟩, ⟨_, rfl, rfl⟩,
      ⟨_, rfl, Field.check_of hfrequency⟩, List.forall_mem_nil _⟩
  · intro source hhas
    simp only [FieldSource.Has, List.forall_mem_cons] at hhas
    obtain ⟨hstart', hend', hzone, hfrequency', -⟩ := hhas
    rw [FieldSource.required_eq (hstart' 0), FieldSource.required_eq (hend' 1), FieldSource.required_eq (hzone 2),
      FieldSource.required_eq (hfrequency' 3), hstart, hend, hfrequency]
    rfl

theorem ScheduledJob.decode_object {job : ScheduledJob} {spec schedule : Json}
    (hspec : ImportSpec.decode spec = .ok job.spec) (hschedule : Schedule.decode schedule = .ok job.schedule)
    (h : members.Perm [("name".toList, .string job.name), ("appPath".toList, .string job.appDir),
      ("sqoopImport".toList, spec), ("schedule".toList, schedule)]) : decode (.object members) = .ok job := by
  refine Decoder.record_of_perm h rfl (by decide) ?_ ?_
  · simp only [List.forall_mem_cons]
    exact ⟨⟨_, rfl, rfl⟩, ⟨_, rfl, rfl⟩, ⟨_, rfl, Field.check_of hspec⟩, ⟨_, rfl, Field.check_of hschedule⟩,
      List.forall_mem_nil _⟩
  · intro source hhas
    simp only [FieldSource.Has, List.forall_mem_cons] at hhas
    obtain ⟨hname, happ, hspec', hschedule', -⟩ := hhas
    rw [FieldSource.required_eq (hname 0), FieldSource.withDefault_eq (happ 1), FieldSource.required_eq (hspec' 2),
      FieldSource.required_eq (hschedule' 3), hspec, hschedule]
    rfl

end

/-! ## Written and decoded -/

/-- A value is decoded from the form it is written in, with the members of every object in the order of the declaration
or in the order of their keys. -/
def Decoder.Reads {α : Type} (decode : Decoder α) (encode : α → Json) (x : α) : Prop :=
  decode (encode x) = .ok x ∧ decode (encode x).sorted = .ok x

theorem Decoder.reads_record {α : Type} {decode : Decoder α} {encode : α → Json} {x : α}
    {members : List (String × Json)} (hencode : encode x = .record members)
    (hnodup : (members.map fun m => m.1.toList).Nodup)
    (hwritten : ∀ ms : List (Text × Json), ms.Perm (members.map fun m => (m.1.toList, m.2)) →
      decode (.object ms) = .ok x)
    (hsorted : ∀ ms : List (Text × Json), ms.Perm (members.map fun m => (m.1.toList, m.2.sorted)) →
      decode (.object ms) = .ok x) : Reads decode encode x := by
  obtain ⟨ms, heq, hperm⟩ := Json.sorted_record hnodup
  rw [Reads, hencode, heq]
  exact ⟨hwritten _ (.refl _), hsorted ms hperm⟩

theorem ImportSpec.reads_encode (spec : ImportSpec) : Decoder.Reads decode encode spec :=
  Decoder.reads_record rfl (show (type.fields.map Field.name).Nodup by decide) (fun _ => decode_object rfl)
    (fun _ => decode_object rfl)

theorem Frequency.reads_encode (frequency : Frequency) : Decoder.Reads decode encode frequency :=
  Decoder.reads_record rfl (show (type.fields.map Field.name).Nodup by decide) (fun _ => decode_object)
    (fun _ => decode_object)

theorem Driver.reads_encode (driver : Driver) : Decoder.Reads decode encode driver :=
  Decoder.reads_record rfl (show (type.fields.map Field.name).Nodup by decide) (fun _ => decode_object)
    (fun _ => decode_object)

theorem Decoder.reads_list {α : Type} {item : Decoder α} {encode : α → Json} (h : ∀ x, Reads item encode x)
    (xs : List α) : Reads (list item) (fun xs => .array (xs.map encode)) xs := by
  refine ⟨items_map fun x _ => (h x).1, ?_⟩
  rw [Json.sorted, Json.sortedItems_eq_map, List.map_map]
  exact items_map fun x _ => (h x).2

theorem Database.reads_encode (database : Database) : Decoder.Reads decode encode database := by
  obtain ⟨hwritten, hsorted⟩ := Decoder.reads_list Driver.reads_encode database.drivers
  refine Decoder.reads_record rfl (show (type.fields.map Field.name).Nodup by decide) (fun _ => decode_object hwritten)
    (fun _ h => ?_)
  rw [Json.sorted] at hsorted
  exact decode_object hsorted h

theorem ImportJob.reads_encode (job : ImportJob) : Decoder.Reads decode encode job := by
  obtain ⟨hwritten, hsorted⟩ := job.spec.reads_encode
  exact Decoder.reads_record rfl (show (type.fields.map Field.name).Nodup by decide) (fun _ => decode_object hwritten)
    (fun _ => decode_object hsorted)

theorem Schedule.reads_encode {schedule : Schedule} (hstart : schedule.startTime.LeapAtEnd)
    (hend : schedule.endTime.LeapAtEnd) : Decoder.Reads decode encode schedule := by
  obtain ⟨hwritten, hsorted⟩ := schedule.frequency.reads_encode
  exact Decoder.reads_record rfl (show (type.fields.map Field.name).Nodup by decide)
    (fun _ => decode_object hstart hend hwritten) (fun _ => decode_object hstart hend hsorted)

theorem ScheduledJob.reads_encode {job : ScheduledJob} (hstart : job.schedule.startTime.LeapAtEnd)
    (hend : job.schedule.endTime.LeapAtEnd) : Decoder.Reads decode encode job := by
  obtain ⟨hspec, hspec'⟩ := job.spec.reads_encode
  obtain ⟨hschedule, hschedule'⟩ := Schedule.reads_encode hstart hend
  exact Decoder.reads_record rfl (show (type.fields.map Field.name).Nodup by decide)
    (fun _ => decode_object hspec hschedule) (fun _ => decode_object hspec' hschedule')

/-! ## Times that were decoded -/

theorem Decoder.leapAtEnd_of_time {j : Json} {t : LocalTime} (h : Decoder.time j = .ok t) : t.LeapAtEnd := by
  rw [Decoder.time.eq_def] at h
  split at h
  · exact LocalTime.leapAtEnd_of_ofText (Attempt.mapError_eq_ok h)
  · cases h

theorem Schedule.leapAtEnd_of_decode {j : Json} {schedule : Schedule} (h : decode j = .ok schedule) :
    schedule.startTime.LeapAtEnd ∧ schedule.endTime.LeapAtEnd := by
  obtain ⟨source, h⟩ := Decoder.exists_of_record h
  obtain ⟨startTime, hstart, h⟩ := Attempt.bind_eq_ok h
  obtain ⟨endTime, hend, h⟩ := Attempt.bind_eq_ok h
  obtain ⟨_, -, h⟩ := Attempt.bind_eq_ok h
  obtain ⟨_, -, h⟩ := Attempt.bind_eq_ok h
  cases h
  obtain ⟨_, hstart⟩ := FieldSource.required_ok hstart
  obtain ⟨_, hend⟩ := FieldSource.required_ok hend
  exact ⟨Decoder.leapAtEnd_of_time hstart, Decoder.leapAtEnd_of_time hend⟩

theorem ScheduledJob.leapAtEnd_of_decode {j : Json} {job : ScheduledJob} (h : decode j = .ok job) :
    job.schedule.startTime.LeapAtEnd ∧ job.schedule.endTime.LeapAtEnd := by
  obtain ⟨source, h⟩ := Decoder.exists_of_record h
  obtain ⟨_, -, h⟩ := Attempt.bind_eq_ok h
  obtain ⟨_, -, h⟩ := Attempt.bind_eq_ok h
  obtain ⟨_, -, h⟩ := Attempt.bind_eq_ok h
  obtain ⟨schedule, hschedule, h⟩ := Attempt.bind_eq_ok h
  cases h
  obtain ⟨_, hschedule⟩ := FieldSource.required_ok hschedule
  exact Schedule.leapAtEnd_of_decode hschedule

/-- Whatever a value of either shape is decoded to is decoded again from the form it is written in. -/
def Decoder.ReadsAgain {α : Type} (decode : Decoder α) (encode : α → Json) : Prop :=
  ∀ source x, decode source = .ok x → Reads decode encode x

/-- **Writing undoes decoding, for every type that clients send.** -/
theorem Decoder.requests_readAgain :
    ReadsAgain ImportSpec.decode ImportSpec.encode ∧ ReadsAgain ImportJob.decode ImportJob.encode ∧
      ReadsAgain ScheduledJob.decode ScheduledJob.encode ∧ ReadsAgain Schedule.decode Schedule.encode ∧
        ReadsAgain Registry.decode Registry.encode := by
  refine ⟨fun _ spec _ => spec.reads_encode, fun _ job _ => job.reads_encode, fun _ job h => ?_, fun _ schedule h => ?_,
    fun _ registry _ => Decoder.reads_list Database.reads_encode registry⟩
  · obtain ⟨hstart, hend⟩ := ScheduledJob.leapAtEnd_of_decode h
    exact ScheduledJob.reads_encode hstart hend
  · obtain ⟨hstart, hend⟩ := Schedule.leapAtEnd_of_decode h
    exact Schedule.reads_encode hstart hend

/-- A specification that comes as a list, cut off behind the fields that have to be there. -/
def listedSpec : Json := .array [.string "jdbc:mysql://db:3306/sales".toList, .string "orders".toList]

/-- A schedule that comes as a list, from a leap second in the year 12016 on, with blanks and too fine a fraction. -/
def listedSchedule : Json := .array [
  .string "+12016-12-31T23:59:60.25".toList, .string " +12017- 1-1T0:00 : 7.1234567891".toList, .string "UTC".toList,
  .object [
    ("note".toList, .null), ("amount".toList, .int (-9223372036854775808)), ("unit".toList, .string "Days".toList)]]

def leapSchedule : Schedule where
  startTime := ⟨3669591, 86399, 1250000000, by decide, by decide, by decide, by decide⟩
  endTime := ⟨3669592, 7, 123456789, by decide, by decide, by decide, by decide⟩
  timezone := "UTC".toList
  frequency := ⟨"Days".toList, -9223372036854775808⟩

def leapJob : ScheduledJob where
  name := "nightly".toList
  spec := { jdbcUri := "jdbc:mysql://db:3306/sales".toList, table := "orders".toList }
  schedule := leapSchedule

theorem Decoder.requests_readAgain_listed :
    Reads ImportSpec.decode ImportSpec.encode leapJob.spec ∧
    Reads ImportJob.decode ImportJob.encode { name := leapJob.name, spec := leapJob.spec } ∧
    Reads ScheduledJob.decode ScheduledJob.encode leapJob ∧ Reads Schedule.decode Schedule.encode leapSchedule ∧
    Reads Registry.decode Registry.encode [{ name := "derby".toList }] :=
  ⟨requests_readAgain.1 listedSpec _ (by decide +kernel),
    requests_readAgain.2.1 (.array [.string "nightly".toList, .string [], listedSpec]) _ (by decide +kernel),
    requests_readAgain.2.2.1 (.array [.string "nightly".toList, .string [], listedSpec, listedSchedule]) _
      (by decide +kernel),
    requests_readAgain.2.2.2.1 listedSchedule _ (by decide +kernel),
    requests_readAgain.2.2.2.2 (.array [.object [("name".toList, .string "derby".toList)]]) _ (by decide +kernel)⟩

end ImportDispatch
