import ImportDispatch.Proofs.Import.NormalForm
import ImportDispatch.Proofs.Text.Pieces
import Mathlib.Data.List.Forall2
/-!
# What the normal form changes

`NormalForm` says what a request in normal form looks like; this module says what becomes of a request on its way there
(`normal_changes`).  An address keeps its dialect and all of its characters but the separators of the other dialect.  A
schema moves into the table where Oracle wants it.  A driver is added that was not set, the first one of the registry
that the new address names.  The two flags that a mode sets follow the mode.  A name has underscores for its spaces.
Of a recurring request the unit gets small letters, and the user is filled in.  All else stays as it was.
-/
namespace ImportDispatch

/-! ## Names -/

/-- The text `new` is `name` with an underscore for every space. -/
structure Underscored (name new : Text) : Prop where
  no_space : ' ' ∉ new
  places : List.Forall₂ (fun c d => d = if c = ' ' then '_' else c) name new

theorem underscored_normalName (name : Text) : Underscored name (normalName name) := by
  constructor
  · intro h
    obtain ⟨c, -, hc⟩ := List.mem_map.1 h
    by_cases hspace : c = ' '
    · rw [if_pos hspace] at hc
      exact absurd hc (by decide)
    · rw [if_neg hspace] at hc
      exact hspace hc
  · rw [normalName, List.forall₂_map_right_iff, List.forall₂_same]
    exact fun _ _ => rfl

/-! ## Separators -/

/-- The text `t` is `s` with `new` for every `old`: between these nothing has changed, and no `old` is left. -/
structure Respelled (old new s t : Text) : Prop where
  gone : ¬old <:+: t
  between : ∃ pieces, s = Text.join old pieces ∧ t = Text.join new pieces ∧ ∀ piece ∈ pieces, ¬old <:+: piece

namespace Text

/-- Replacement leaves alone what is between the parts that it replaces. -/
theorem exists_pieces_replace {old : Text} (hold : old ≠ []) (new s : Text) : ∃ pieces,
    s = join old pieces ∧ replace old new s = join new pieces ∧ ∀ piece ∈ pieces, ¬old <:+: piece := by
  have hpieces : ∃ first others, s = join old (first :: others) ∧ replace old new s = join new (first :: others) ∧
      ∀ piece ∈ first :: others, ¬old <:+: piece := by
    refine replace_induction hold (motive := fun s t => ∃ first others, s = join old (first :: others) ∧
      t = join new (first :: others) ∧ ∀ piece ∈ first :: others, ¬old <:+: piece) ?_ ?_ ?_ s
    · exact ⟨[], [], rfl, rfl, by simpa using hold⟩
    · rintro s ⟨first, others, hs, ht, hnone⟩
      refine ⟨[], first :: others, ?_, ?_, List.forall_mem_cons.2 ⟨by simpa using hold, hnone⟩⟩
      · rw [join, List.nil_append, ← hs]
      · rw [join, List.nil_append, ← ht]
    · rintro c s hkeep ⟨first, others, hs, ht, hnone⟩
      rw [List.forall_mem_cons] at hnone
      rw [join_cons] at hs ht
      refine ⟨c :: first, others, ?_, ?_, List.forall_mem_cons.2 ⟨?_, hnone.2⟩⟩
      · rw [join_cons, hs, List.cons_append]
      · rw [join_cons, ht, List.cons_append]
      · rw [List.infix_cons_iff]
        rintro (hfits | hinfix)
        · refine hkeep (hfits.trans ?_)
          rw [hs, ← List.cons_append]
          exact List.prefix_append _ _
        · exact hnone.1 hinfix
  obtain ⟨first, others, h⟩ := hpieces
  exact ⟨first :: others, h⟩

end Text

theorem respelled_slashes (jdbcUri : Text) :
    Respelled slashSeparator atSeparator jdbcUri (Text.replace slashSeparator atSeparator jdbcUri) :=
  ⟨no_slashes_left jdbcUri, Text.exists_pieces_replace (by decide) atSeparator jdbcUri⟩

theorem respelled_ats (jdbcUri : Text) :
    Respelled atSeparator slashSeparator jdbcUri (Text.replace atSeparator slashSeparator jdbcUri) :=
  ⟨no_ats_left jdbcUri, Text.exists_pieces_replace (by decide) slashSeparator jdbcUri⟩

/-! ## Drivers -/

/-- What a registry has for an address: the class of the first driver that it names, or nothing. -/
inductive Registry.Finds (registry : Registry) (jdbcUri : Text) : Text → Prop
  | first {front rest : List Driver} {driver : Driver}
    (split : registry.flatMap Database.drivers = front ++ driver :: rest) (named : driver.name <:+: jdbcUri)
    (before : ∀ earlier ∈ front, ¬earlier.name <:+: jdbcUri) : Finds registry jdbcUri driver.className
  | nothing (h : ∀ driver ∈ registry.flatMap Database.drivers, ¬driver.name <:+: jdbcUri) : Finds registry jdbcUri []

theorem Registry.finds_driverFor? (registry : Registry) (jdbcUri : Text) :
    registry.Finds jdbcUri ((registry.driverFor? jdbcUri).getD []) := by
  unfold driverFor?
  cases hfind : (registry.flatMap Database.drivers).find? fun driver => Text.occursIn driver.name jdbcUri with
  | none =>
    refine .nothing fun driver hdriver hnamed => ?_
    exact List.find?_eq_none.1 hfind driver hdriver (Text.occursIn_iff.2 hnamed)
  | some driver =>
    obtain ⟨hnamed, front, rest, hsplit, hbefore⟩ := List.find?_eq_some_iff_append.1 hfind
    refine .first hsplit (Text.occursIn_iff.1 hnamed) fun earlier hearlier hnamed => ?_
    have hnot := hbefore earlier hearlier
    rw [Text.occursIn_iff.2 hnamed] at hnot
    cases hnot

/-! ## Specifications -/

namespace ImportSpec

/-- What becomes of the schema and the table in Oracle's dialect. -/
def Folded (spec new : ImportSpec) : Prop :=
  if spec.schema ≠ [] ∧ '.' ∉ spec.table then new.table = spec.schema ++ '.' :: spec.table ∧ new.schema = []
  else new.table = spec.table ∧ new.schema = spec.schema

/-- What becomes of a specification on its way to the normal form, the user left aside. -/
structure ChangesTo (registry : Registry) (spec new : ImportSpec) : Prop where
  overwrites : spec.mode? = some .overwrite → new.incremental = false ∧ new.overwrite = true
  increments : spec.mode? = some .incremental → new.incremental = true ∧ new.overwrite = false
  flags_kept : spec.mode? ≠ some .overwrite → spec.mode? ≠ some .incremental →
    new.incremental = spec.incremental ∧ new.overwrite = spec.overwrite
  dialect_kept : isOracleAddress new.jdbcUri = isOracleAddress spec.jdbcUri
  oracle : isOracleAddress spec.jdbcUri = true →
    Respelled slashSeparator atSeparator spec.jdbcUri new.jdbcUri ∧ spec.Folded new ∧
      (new.schema = [] ∨ '.' ∈ new.table)
  other : isOracleAddress spec.jdbcUri = false →
    Respelled atSeparator slashSeparator spec.jdbcUri new.jdbcUri ∧ new.schema = spec.schema ∧ new.table = spec.table
  driver_kept : spec.driver ≠ [] → new.driver = spec.driver
  driver_found : spec.driver = [] → registry.Finds new.jdbcUri new.driver
  /-- The fields told of above, and the user, are all that can differ. -/
  rest_kept : new = { spec with
    incremental := new.incremental, overwrite := new.overwrite, jdbcUri := new.jdbcUri, schema := new.schema,
    table := new.table, driver := new.driver, username := new.username }

theorem folded_withSchemaInTable (spec : ImportSpec) : spec.Folded spec.withSchemaInTable := by
  unfold Folded withSchemaInTable
  by_cases h : spec.schema ≠ [] ∧ '.' ∉ spec.table
  · have hfolds : (!spec.schema.isEmpty && !spec.table.elem '.') = true := by simpa using h
    rw [if_pos h, if_pos hfolds]
    exact ⟨rfl, rfl⟩
  · have hstays : ¬(!spec.schema.isEmpty && !spec.table.elem '.') = true := by simpa using h
    rw [if_neg h, if_neg hstays]
    exact ⟨rfl, rfl⟩

theorem withDriver_finds (registry : Registry) (spec : ImportSpec) : ∃ driver,
    spec.withDriver registry = { spec with driver } ∧ (spec.driver ≠ [] → driver = spec.driver) ∧
      (spec.driver = [] → registry.Finds spec.jdbcUri driver) := by
  unfold withDriver
  by_cases hdriver : spec.driver = []
  · rw [if_pos (List.isEmpty_iff.2 hdriver)]
    exact ⟨_, rfl, fun h => absurd hdriver h, fun _ => registry.finds_driverFor? spec.jdbcUri⟩
  · rw [if_neg fun h => hdriver (List.isEmpty_iff.1 h)]
    exact ⟨spec.driver, rfl, fun _ => rfl, fun h => absurd h hdriver⟩

theorem changesTo_normal (registry : Registry) (spec : ImportSpec) :
    spec.ChangesTo registry (spec.normal registry) ∧ (spec.normal registry).username = spec.username := by
  obtain ⟨incremental, overwrite, hflags, hoverwrites, hincrements, hkept⟩ := withModeFlags_cases spec
  obtain ⟨driver, hdriver, hset, hfound⟩ := withDriver_finds registry spec.withModeFlags.inDialect
  rw [normal, hdriver]
  rw [hflags] at hset hfound ⊢
  unfold inDialect at hset hfound ⊢
  by_cases horacle : isOracleAddress spec.jdbcUri = true
  · have hfolded := folded_withSchemaInTable
      { spec with incremental, overwrite, jdbcUri := Text.replace slashSeparator atSeparator spec.jdbcUri }
    obtain ⟨table, schema, hfold, htable⟩ := withSchemaInTable_cases
      { spec with incremental, overwrite, jdbcUri := Text.replace slashSeparator atSeparator spec.jdbcUri }
    rw [if_pos horacle, hfold] at hset hfound ⊢
    rw [hfold] at hfolded
    exact ⟨⟨hoverwrites, hincrements, hkept, isOracleAddress_replace_slashes _,
      fun _ => ⟨respelled_slashes _, hfolded, htable⟩, fun hother => absurd horacle (by simp [hother]), hset, hfound,
      rfl⟩, rfl⟩
  · rw [if_neg horacle] at hset hfound ⊢
    exact ⟨⟨hoverwrites, hincrements, hkept, isOracleAddress_replace_ats _, fun h => absurd h horacle,
      fun _ => ⟨respelled_ats _, rfl, rfl⟩, hset, hfound, rfl⟩, rfl⟩

/-- Filling in the user changes nothing else. -/
theorem ChangesTo.withUsername {registry : Registry} {spec new : ImportSpec} (h : spec.ChangesTo registry new)
    (username : Text) : spec.ChangesTo registry (new.withUsername username) := by
  unfold ImportSpec.withUsername
  split
  · exact ⟨h.overwrites, h.increments, h.flags_kept, h.dialect_kept, h.oracle, h.other, h.driver_kept, h.driver_found,
      congrArg (fun s => { s with username }) h.rest_kept⟩
  · exact h

theorem username_withUsername (username : Text) (spec : ImportSpec) : (spec.withUsername username).username =
    if Text.isBlank spec.username then username else spec.username := by
  unfold withUsername
  split <;> rfl

end ImportSpec

/-! ## Requests -/

/-- What becomes of an import that runs once. -/
structure ImportJob.ChangesTo (registry : Registry) (job new : ImportJob) : Prop where
  name : Underscored job.name new.name
  spec : job.spec.ChangesTo registry new.spec
  username_kept : new.spec.username = job.spec.username
  rest_kept : new = { job with name := new.name, spec := new.spec }

/-- What becomes of a recurring import. -/
structure ScheduledJob.ChangesTo (registry : Registry) (username : Text) (job new : ScheduledJob) : Prop where
  name : Underscored job.name new.name
  spec : job.spec.ChangesTo registry new.spec
  username_filled : new.spec.username = if Text.isBlank job.spec.username then username else job.spec.username
  unit : new.schedule.frequency.unit = Text.lowercase job.schedule.frequency.unit
  rest_kept : new = { job with
    name := new.name
    spec := new.spec
    schedule := { job.schedule with
      frequency := { job.schedule.frequency with unit := new.schedule.frequency.unit } } }

/-- **What the normal form changes**, in an import that runs once and in a recurring one. -/
theorem normal_changes (registry : Registry) (username : Text) :
    (∀ job : ImportJob, job.ChangesTo registry (job.normal registry)) ∧
      ∀ job : ScheduledJob, job.ChangesTo registry username (job.normal registry username) := by
  constructor
  · intro job
    obtain ⟨hchanges, husername⟩ := job.spec.changesTo_normal registry
    exact ⟨underscored_normalName job.name, hchanges, husername, rfl⟩
  · intro job
    obtain ⟨hchanges, husername⟩ := job.spec.changesTo_normal registry
    refine ⟨underscored_normalName job.name, hchanges.withUsername username, ?_, rfl, rfl⟩
    rw [← husername]
    exact (job.spec.normal registry).username_withUsername username

/-- An import that replaces the one before, as a client sends it: the mode says so, and the flag is not set. -/
def overwritingJob : ImportJob where
  name := "nightly".toList
  spec := {
    jdbcUri := "jdbc:mysql://db:3306/sales".toList
    table := "orders".toList
    importMode := "overwrite".toList }

/-- The flags that a mode sets do not stay as they were. -/
theorem not_flags_kept : ¬∀ (registry : Registry) (job : ImportJob),
    (job.normal registry).spec.incremental = job.spec.incremental ∧
      (job.normal registry).spec.overwrite = job.spec.overwrite := by
  intro h
  have hflags := h [] overwritingJob
  revert hflags
  decide

end ImportDispatch
