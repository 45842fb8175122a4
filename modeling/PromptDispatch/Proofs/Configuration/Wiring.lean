import PromptDispatch.Configuration.Wiring
import PromptDispatch.Proofs.Binary64.Range
import PromptDispatch.Proofs.Dispatch.OnMachine

/-!
# Wiring what has been read

Every field of a configuration is checked when it is read, and its standard value
passes the check as well.  The checks are not all that wiring asks for: the prompts
to keep and the window of the throttle have upper bounds too, and what is kept has to
be loaded.  Within the bounds wiring fails exactly where loading breaks off, be what is
kept malformed or not; beyond them it always does.
-/

namespace PromptDispatch

/-! ## Fields -/

theorem Field.both_eq_ok_iff {α β : Type} {first : Except (List Field.Issue) α}
    {second : Except (List Field.Issue) β} {pair : α × β} :
    Field.both first second = .ok pair ↔ first = .ok pair.1 ∧ second = .ok pair.2 := by
  rcases pair with ⟨a, b⟩
  cases first <;> cases second <;> simp [Field.both]

namespace Configuration

variable {sources : Sources} {envName name : String}

/-- What holds of the standard value and of every value that passes the check holds of
the field. -/
theorem field_satisfies {α : Type} {post : α → Prop} {standard : α}
    {check : Json → Except Field.Cause α} (standardPasses : post standard)
    (checked : ∀ v a, check v = .ok a → post a) {a : α}
    (isRead : field sources envName name standard check = .ok a) : post a := by
  rw [field] at isRead
  split at isRead
  · exact Except.ok.inj isRead ▸ standardPasses
  · split at isRead
    · next passed => exact Except.ok.inj isRead ▸ checked _ _ passed
    · cases isRead

/-- What is checked of a value holds of it when it passes. -/
theorem of_checked {α : Type} {converted : Except Field.Cause α} {post : α → Prop}
    [DecidablePred post] {cause : α → Field.Cause} {a : α}
    (passed : (do
      let a ← converted
      if post a then return a else throw (cause a)) = .ok a) : post a := by
  obtain ⟨b, -, passed⟩ := bind_eq_ok_iff.mp passed
  by_cases holds : post b
  · rw [if_pos holds] at passed
    exact Except.ok.inj passed ▸ holds
  · rw [if_neg holds] at passed
    cases passed

theorem lt_of_wholeAbove {bound n : Int} {v : Json} (passed : wholeAbove bound v = .ok n) :
    bound < n :=
  of_checked passed

theorem le_of_wholeFrom {bound n : Int} {v : Json} (passed : wholeFrom bound v = .ok n) :
    bound ≤ n :=
  of_checked passed

theorem le_length_of_textFrom {least : Nat} {s : String} {v : Json}
    (passed : Field.textFrom least v = .ok s) : least ≤ s.length := by
  obtain ⟨t, -, passed⟩ := bind_eq_ok_iff.mp passed
  by_cases short : t.length < least
  · rw [if_pos short] at passed
    cases passed
  · rw [if_neg short] at passed
    exact Except.ok.inj passed ▸ Nat.not_lt.mp short

/-- What the checks of the fields say of a configuration. -/
structure Valid (c : Configuration) : Prop where
  entries : 0 < c.entries
  prompts : 0 < c.prompts
  throttleMillis : 0 ≤ c.throttleMillis
  defaultAgent : 1 ≤ c.defaultAgent.length

theorem valid_of_fields {c : Configuration} (isRead : fields sources = .ok c) : c.Valid := by
  rw [fields] at isRead
  generalize reading : Field.both _ _ = values at isRead
  cases values with
  | error issues => cases isRead
  | ok values =>
  obtain rfl := Except.ok.inj isRead
  simp only [Field.both_eq_ok_iff] at reading
  obtain ⟨-, -, -, entriesRead, promptsRead, throttleRead, agentRead, -⟩ := reading
  exact {
    entries := field_satisfies (by decide) (fun _ _ => lt_of_wholeAbove) entriesRead
    prompts := field_satisfies (by decide) (fun _ _ => lt_of_wholeAbove) promptsRead
    throttleMillis := field_satisfies (by decide) (fun _ _ => le_of_wholeFrom) throttleRead
    defaultAgent := field_satisfies (by decide) (fun _ _ => le_length_of_textFrom) agentRead }

/-- Every configuration that is read is valid. -/
theorem valid_of_read {disk : Disk} {environment : List (String × String)}
    {given : List (String × Json)} {c : Configuration}
    (isRead : Configuration.read disk environment given = .ok c) : c.Valid := by
  rw [Configuration.read] at isRead
  split at isRead
  · cases isRead
  · split at isRead
    · cases isRead
    · next configuration fieldsRead =>
      have valid := valid_of_fields fieldsRead
      split at isRead
      · exact Except.ok.inj isRead ▸ valid
      · split at isRead
        · obtain rfl := Except.ok.inj isRead
          exact ⟨valid.entries, valid.prompts, valid.throttleMillis, valid.defaultAgent⟩
        · cases isRead

end Configuration

/-! ## Registering -/

/-- Agents with names that are not taken are registered in order, and nothing else of
what lasts is touched. -/
theorem Session.registerAll_eq_ok {agents : List Agent} {s : Session}
    (free : (s.roster.names ++ agents.map (·.name)).Nodup) :
    ∃ after, Session.registerAll agents s = .ok after ∧
      after.roster.agents = s.roster.agents ++ agents ∧
      after.store = s.store ∧ after.archive = s.archive ∧ after.disk = s.disk := by
  induction agents generalizing s with
  | nil => exact ⟨s, rfl, (List.append_nil _).symm, rfl, rfl, rfl⟩
  | cons agent agents ih =>
      have unknown : s.roster.has agent.name = false := by
        rw [Roster.has, Option.isSome_eq_false_iff, Option.isNone_iff_eq_none, Roster.find?,
          List.find?_eq_none]
        intro other mem
        have different := (List.nodup_append.mp free).2.2 other.name (List.mem_map_of_mem mem)
          agent.name List.mem_cons_self
        simpa using different
      have registered : s.roster.register agent = .ok ⟨s.roster.agents ++ [agent]⟩ := by
        rw [Roster.register, unknown, if_neg Bool.false_ne_true]
      rw [Session.registerAll, Session.register, registered]
      rw [Roster.names, List.map_cons, List.append_cons, ← List.map_singleton,
        ← List.map_append] at free
      obtain ⟨after, isOk, roster, store, archive, disk⟩ := ih (s := Session.note
        { s with
          roster := ⟨s.roster.agents ++ [agent]⟩
          runs := Keyed.put agent.name 0 s.runs } .info .roster
          ("Registered agent: " ++ agent.name)) free
      exact ⟨after, isOk, by rw [roster]; exact (List.append_cons ..).symm, store, archive, disk⟩

namespace Configuration

/-- What wiring asks for beyond what the fields are checked for. -/
structure Wirable (c : Configuration) : Prop where
  prompts : c.prompts ≤ Store.Limits.mostPrompts
  throttleMillis : c.throttleMillis < 1000 * (Binary64.leastBeyond : Int)

/-- What is wired from a configuration, with the given agents, when the disk is as
given. -/
structure Wired (c : Configuration) (agents : List Agent) (disk : Disk) (s : Session)
    (d : Dispatcher) : Prop where
  entries : (s.store.limits.entries : Int) = c.entries
  prompts : (s.store.limits.prompts : Int) = c.prompts
  /-- no prompts are kept yet -/
  history : s.store.prompts = []
  archive : s.archive = c.archive
  /-- nothing is there when what is kept is malformed; otherwise the agents that are kept
  are there, each with the newest of its entries -/
  content : s.archive.Malformed disk ∧ s.store.agents = [] ∨
    ∃ kept, s.archive.Holds disk kept ∧ s.store.agents =
      kept.map fun entry => (entry.1, Store.newest s.store.limits.entries entry.2)
  roster : s.roster.agents = agents
  dispatcher : d = ⟨c.routes, c.defaultAgent⟩
  /-- no prompt has been let in yet -/
  throttle : s.throttle.accepted = none
  /-- the window is the number of seconds, but for half a unit in the last place -/
  window : ∃ rank : Fin Binary64.magnitudes, s.throttle.window = .finite false rank ∧
    |(Binary64.rankUnits rank : ℚ) / 2 ^ 1074 - c.throttleMillis / 1000| ≤
      (c.throttleMillis : ℚ) / 1000 / 2 ^ 53

section

variable {c : Configuration} (valid : c.Valid)
include valid

/-- The bounds of a valid configuration. -/
theorem make_limits_eq : ∃ limits : Store.Limits,
    Store.Limits.make c.entries c.prompts = .ok limits ∧
      (limits.entries : Int) = c.entries ∧ (limits.prompts : Int) = c.prompts := by
  have entries := valid.entries
  have prompts := valid.prompts
  rw [Store.Limits.make, dif_neg (by omega), dif_neg (by omega)]
  exact ⟨_, rfl, Int.toNat_of_nonneg (by omega), Int.toNat_of_nonneg (by omega)⟩

/-- The window of a configuration with a finite number of seconds. -/
theorem window_of_within (within : c.throttleMillis < 1000 * (Binary64.leastBeyond : Int)) :
    ∃ rank : Fin Binary64.magnitudes, c.window = .ok (.finite false rank) ∧
      |(Binary64.rankUnits rank : ℚ) / 2 ^ 1074 - c.throttleMillis / 1000| ≤
        (c.throttleMillis : ℚ) / 1000 / 2 ^ 53 := by
  have natural : (c.throttleMillis.toNat : ℤ) = c.throttleMillis :=
    Int.toNat_of_nonneg valid.throttleMillis
  have cast : (c.throttleMillis : ℚ) = (c.throttleMillis.toNat : ℕ) := by
    exact_mod_cast natural.symm
  rw [cast, window]
  rcases Nat.eq_zero_or_pos c.throttleMillis.toNat with zero | positive
  · refine ⟨⟨0, by decide⟩, by rw [zero, Binary64.ofRatio, if_pos rfl], ?_⟩
    rw [zero]
    have none : Binary64.rankUnits 0 = 0 := by decide
    simp [none]
  · have normal : (2 : ℚ) ^ (-1022 : ℤ) ≤ (c.throttleMillis.toNat : ℕ) / (1000 : ℕ) := by
      have atLeast : (1 : ℚ) ≤ (c.throttleMillis.toNat : ℕ) := by exact_mod_cast positive
      calc (2 : ℚ) ^ (-1022 : ℤ) ≤ 2 ^ (-10 : ℤ) := zpow_le_zpow_right₀ (by norm_num) (by decide)
        _ ≤ 1 / 1000 := by norm_num
        _ ≤ (c.throttleMillis.toNat : ℕ) / (1000 : ℕ) := by
            push_cast
            gcongr
    obtain ⟨rank, rounded, close⟩ := Binary64.ofRatio_within positive (by decide)
      (by omega) normal false
    rw [rounded]
    exact ⟨rank, rfl, by exact_mod_cast close⟩

omit valid in
/-- Beyond all finite numbers there is no window. -/
theorem window_of_beyond (beyond : 1000 * (Binary64.leastBeyond : Int) ≤ c.throttleMillis) :
    c.window =
      .error (.foreign "OverflowError" "integer division result too large for a float") := by
  have reached : Binary64.leastBeyond * 1000 ≤ c.throttleMillis.toNat := by
    generalize Binary64.leastBeyond = bound at beyond ⊢
    omega
  have positive : 0 < c.throttleMillis.toNat :=
    Nat.lt_of_lt_of_le (Nat.mul_pos Binary64.leastBeyond_pos (by decide)) reached
  have infinite := Binary64.ofRatio_of_beyond positive (by decide) reached false
  simp only [window, infinite]

/-- The store and the archive of a valid configuration. -/
theorem setUp_eq : ∃ limits : Store.Limits,
    (limits.entries : Int) = c.entries ∧ (limits.prompts : Int) = c.prompts ∧
    c.setUp = if Store.Limits.mostPrompts < limits.prompts then
        .error (.foreign "OverflowError" "Python int too large to convert to C ssize_t")
      else .ok (Store.empty limits, c.archive) := by
  obtain ⟨limits, made, entries, prompts⟩ := make_limits_eq valid
  refine ⟨limits, entries, prompts, ?_⟩
  rw [setUp, made]
  by_cases beyond : Store.Limits.mostPrompts < limits.prompts
  · simp only [bind, Except.bind, Setup.checkPrompts, if_pos beyond]
  · simp only [bind, Except.bind, Setup.checkPrompts, if_neg beyond]
    rfl

/-- Wiring never gets past too many prompts. -/
theorem wire_of_tooManyPrompts (beyond : Store.Limits.mostPrompts < c.prompts)
    (machine : Machine) (agents : List Agent) (disk : Disk) (clock : Binary64) :
    c.wire machine agents disk clock =
      .error (.foreign "OverflowError" "Python int too large to convert to C ssize_t") := by
  obtain ⟨limits, -, prompts, isSetUp⟩ := setUp_eq valid
  rw [if_pos (by omega)] at isSetUp
  rw [wire, isSetUp]
  rfl

end

/-! ## Loading when wired -/

/-- A fresh store is loaded with what the archive holds, with the newest entries of every
agent, or with nothing when that is malformed. -/
theorem load_empty {archive : Archive} {disk : Disk} (whole : ¬ archive.HasHalf disk)
    (limits : Store.Limits) :
    let loaded := (archive.load disk (Store.empty limits)).store
    loaded.limits = limits ∧ loaded.prompts = [] ∧
      (archive.Malformed disk ∧ loaded.agents = [] ∨
        ∃ kept, archive.Holds disk kept ∧ loaded.agents =
          kept.map fun entry => (entry.1, Store.newest limits.entries entry.2)) := by
  intro loaded
  by_cases persisted : archive.backend = .memory
  · have isEmpty : loaded = Store.empty limits := by
      simp only [loaded, Archive.load, if_pos persisted]
    have holds : archive.Holds disk [] := by
      rw [Archive.Holds, persisted]
    rw [isEmpty]
    exact ⟨rfl, rfl, .inr ⟨[], holds, rfl⟩⟩
  · rcases Archive.fetch_cases archive disk with
      ⟨left, -, -, ⟨kept, fetched, holds⟩ | ⟨bad, message, fetched⟩⟩
    · have isReplaced : loaded = (Store.empty limits).replace kept := by
        simp only [loaded, Archive.load, if_neg persisted, fetched]
      rw [isReplaced]
      exact ⟨rfl, rfl, .inr ⟨kept, holds, rfl⟩⟩
    · have isEmpty : loaded = Store.empty limits := by
        simp only [loaded, Archive.load, if_neg persisted, fetched]
      rw [isEmpty]
      exact ⟨rfl, rfl, .inl ⟨bad.resolve_right whole, rfl⟩⟩

section

variable {c : Configuration} (valid : c.Valid)
variable (withinPrompts : c.prompts ≤ Store.Limits.mostPrompts)
variable {agents : List Agent} (distinct : (agents.map (·.name)).Nodup)
variable (machine : Machine) (disk : Disk) (clock : Binary64)
include valid withinPrompts distinct

/-- What breaks loading off is what wiring fails with. -/
theorem wire_of_crash {crash : Archive.Crash}
    (crashed : c.archive.loadCrash? machine disk = some crash) :
    c.wire machine agents disk clock = .error crash.fault := by
  obtain ⟨limits, -, prompts, isSetUp⟩ := setUp_eq valid
  rw [if_neg (by omega)] at isSetUp
  have free : ((Session.fresh (Store.empty limits) c.archive disk
      Binary64.zero clock).roster.names ++ agents.map (·.name)).Nodup := distinct
  obtain ⟨registered, isOk, -, store, archive, sameDisk⟩ := Session.registerAll_eq_ok free
  have broken : registered.archive.loadCrash? machine registered.disk = some crash := by
    rw [archive, sameDisk]
    exact crashed
  rw [wire, isSetUp]
  simp only [bind, Except.bind, isOk, Session.loadOn_of_crash broken]

/-- Up to the window of the throttle wiring comes to a session where loading comes to an
end. -/
theorem wire_eq_window (passes : c.archive.loadCrash? machine disk = none) :
    ∃ limits : Store.Limits, ∃ s : Session,
      (limits.entries : Int) = c.entries ∧ (limits.prompts : Int) = c.prompts ∧
      s.roster.agents = agents ∧ s.archive = c.archive ∧
      s.store = (s.archive.load disk (Store.empty limits)).store ∧
      c.wire machine agents disk clock = c.window.map fun window =>
        ({ s with throttle := .fresh window }.report [c.readyNote s.roster.size],
          ⟨c.routes, c.defaultAgent⟩) := by
  obtain ⟨limits, entries, prompts, isSetUp⟩ := setUp_eq valid
  rw [if_neg (by omega)] at isSetUp
  have free : ((Session.fresh (Store.empty limits) c.archive disk
      Binary64.zero clock).roster.names ++ agents.map (·.name)).Nodup := distinct
  obtain ⟨registered, isOk, roster, store, archive, sameDisk⟩ := Session.registerAll_eq_ok free
  have passesToo : registered.archive.loadCrash? machine registered.disk = none := by
    rw [archive, sameDisk]
    exact passes
  refine ⟨limits, registered.load.1, entries, prompts, roster, archive, ?_, ?_⟩
  · have loadedStore : registered.load.1.store =
        (registered.archive.load registered.disk registered.store).store := rfl
    rw [loadedStore, sameDisk, store]
    rfl
  · rw [wire, isSetUp]
    simp only [bind, Except.bind, isOk, Session.loadOn_of_passes passesToo]
    cases c.window <;> rfl

/-- Within the bounds wiring succeeds where loading comes to an end. -/
theorem exists_wired (withinMillis : c.throttleMillis < 1000 * (Binary64.leastBeyond : Int))
    (passes : c.archive.loadCrash? machine disk = none) (whole : ¬ c.archive.HasHalf disk) :
    ∃ s d, c.wire machine agents disk clock = .ok (s, d) ∧ c.Wired agents disk s d := by
  obtain ⟨limits, s, entries, prompts, roster, archive, store, wired⟩ :=
    wire_eq_window valid withinPrompts distinct machine disk clock passes
  obtain ⟨rank, isWindow, close⟩ := window_of_within valid withinMillis
  rw [← archive] at whole
  obtain ⟨limits_eq, history, content⟩ := load_empty whole limits
  rw [← store] at limits_eq history content
  rw [isWindow] at wired
  refine ⟨_, _, wired, ?_⟩
  exact {
    entries := by rw [← entries, ← limits_eq]; rfl
    prompts := by rw [← prompts, ← limits_eq]; rfl
    history := history
    archive := archive
    content := by rw [← limits_eq] at content; exact content
    roster := roster
    dispatcher := rfl
    throttle := rfl
    window := ⟨rank, rfl, close⟩ }

end

/-- A configuration that was read can be wired exactly when the prompts to keep and the
window of the throttle are not beyond their upper bounds and loading does not break off.
Then everything is as configured, and the store has what the archive holds and its
bounds leave, or nothing when what the archive holds is malformed.  Otherwise wiring
fails with an overflow or with what broke loading off. -/
theorem wires_iff {origin : Disk} {environment : List (String × String)}
    {given : List (String × Json)} {c : Configuration}
    (isRead : Configuration.read origin environment given = .ok c) {agents : List Agent}
    (distinct : (agents.map (·.name)).Nodup) (machine : Machine) {disk : Disk}
    (whole : ¬ c.archive.HasHalf disk) (clock : Binary64) :
    ((∃ s d, c.wire machine agents disk clock = .ok (s, d)) ↔
      c.Wirable ∧ ∀ fault, ¬ Archive.Breaks machine c.archive disk fault) ∧
    (∀ s d, c.wire machine agents disk clock = .ok (s, d) → c.Wired agents disk s d) ∧
    (∀ fault, c.wire machine agents disk clock = .error fault →
      (¬ c.Wirable ∧ ∃ message, fault = .foreign "OverflowError" message) ∨
        Archive.Breaks machine c.archive disk fault) := by
  have valid := valid_of_read isRead
  by_cases withinPrompts : c.prompts ≤ Store.Limits.mostPrompts
  · rcases Archive.loadCrash?_cases machine c.archive disk with
      ⟨crash, crashed, breaks, -⟩ | ⟨passes, never⟩
    · rw [wire_of_crash valid withinPrompts distinct machine disk clock crashed]
      refine ⟨iff_of_false (by simp) fun both => both.2 _ breaks, by simp, ?_⟩
      rintro _ ⟨⟩
      exact .inr breaks
    by_cases withinMillis : c.throttleMillis < 1000 * (Binary64.leastBeyond : Int)
    · obtain ⟨s, d, isOk, wired⟩ :=
        exists_wired valid withinPrompts distinct machine disk clock withinMillis passes whole
      rw [isOk]
      refine ⟨iff_of_true ⟨s, d, rfl⟩ ⟨⟨withinPrompts, withinMillis⟩, never⟩, ?_, by simp⟩
      rintro _ _ ⟨⟩
      exact wired
    · obtain ⟨limits, s, -, -, -, -, -, wired⟩ :=
        wire_eq_window valid withinPrompts distinct machine disk clock passes
      have notWirable : ¬ c.Wirable := fun wirable => withinMillis wirable.throttleMillis
      rw [window_of_beyond (Int.not_lt.mp withinMillis)] at wired
      rw [wired]
      refine ⟨iff_of_false (by simp [Except.map]) fun both => notWirable both.1,
        by simp [Except.map], ?_⟩
      rintro _ ⟨⟩
      exact .inl ⟨notWirable, _, rfl⟩
  · have notWirable : ¬ c.Wirable := fun wirable => withinPrompts wirable.prompts
    rw [wire_of_tooManyPrompts valid (Int.not_le.mp withinPrompts)]
    refine ⟨iff_of_false (by simp) fun both => notWirable both.1, by simp, ?_⟩
    rintro _ ⟨⟩
    exact .inl ⟨notWirable, _, rfl⟩

theorem nodup_names_builtins (delay : Binary64) :
    ((Agent.builtins delay).map (·.name)).Nodup := by
  have names : (Agent.builtins delay).map (·.name) =
      ["frontend", "backend", "database", "devops", "docs"] := rfl
  rw [names]
  decide

/-- An environment that asks for little room and a file. -/
def fileEnvironment : List (String × String) :=
  [("CODEORBIT_MAX_ENTRIES", "1"), ("CODEORBIT_HISTORY_SIZE", "9223372036854775807"),
    ("CODEORBIT_RATE_LIMIT_MS", "250"), ("CONTEXT_PERSISTENCE", "file"),
    ("CONTEXT_FILE_PATH", "notes.json")]

/-- Two entries of one agent. -/
def fileSnapshot : Store.Snapshot := [("coder", [("plan", .int 1), ("draft", .arr [])])]

/-- A disk with a file of them. -/
def fileDisk : Disk := Disk.empty.put ["notes.json"] (.text fileSnapshot.toJson.line)

theorem holdsFile_fileDisk :
    Archive.HoldsFile fileDisk (.ofString "notes.json") fileSnapshot.agents := by
  have plain : fileSnapshot.toJson.IsPlain := by
    have withinDigits : 1 < 10 ^ Json.digitLimit := Nat.one_lt_pow (by decide) (by decide)
    simp [Store.Snapshot.toJson, fileSnapshot, Json.IsPlain, Json.FieldsPlain, Json.FieldPlain,
      Json.ArePlain, Keyed.keys, withinDigits]
  have unified : Text.unified fileSnapshot.toJson.line = fileSnapshot.toJson.line := by decide
  have found : fileDisk.find (.ofString "notes.json") = .ok (.text fileSnapshot.toJson.line) := rfl
  apply Archive.HoldsFile.snapshot found (.text _)
  rw [unified]
  exact Json.read_line plain

/-- What the environment asks for. -/
theorem read_fileEnvironment : ∃ c, Configuration.read fileDisk fileEnvironment [] = .ok c ∧
    c.entries = 1 ∧ c.prompts = 2 ^ 63 - 1 ∧ c.throttleMillis = 250 ∧ c.backend = .file ∧
    c.filePath = .ofString "notes.json" := by
  have told : (Configuration.read fileDisk fileEnvironment []).toOption.map (fun c =>
      (c.entries, c.prompts, c.throttleMillis, c.backend, c.filePath)) =
        some (1, 2 ^ 63 - 1, 250, .file, .ofString "notes.json") := by
    decide +kernel
  cases isRead : Configuration.read fileDisk fileEnvironment [] with
  | error trouble => rw [isRead] at told; cases told
  | ok c =>
      rw [isRead] at told
      have fields := Option.some.inj told
      simp only [Prod.mk.injEq] at fields
      exact ⟨c, rfl, fields⟩

/-- The greatest number of prompts is configured, and room for one entry: the newest one
of those in the file is loaded. -/
theorem wires_iff_fileEnvironment : ∃ c,
    Configuration.read fileDisk fileEnvironment [] = .ok c ∧
    ((Agent.builtins .zero).map (·.name)).Nodup ∧ ¬ c.archive.HasHalf fileDisk ∧ c.Wirable ∧
    ∃ s d, c.wire .standard (Agent.builtins .zero) fileDisk .zero = .ok (s, d) ∧
      c.Wired (Agent.builtins .zero) fileDisk s d ∧
      s.store.agents = [(some "coder", [(some "draft", .arr [])])] := by
  obtain ⟨c, isRead, entries, prompts, throttleMillis, backend, filePath⟩ := read_fileEnvironment
  have distinct := nodup_names_builtins .zero
  have archive_eq : c.archive = ⟨.file, .ofString "notes.json", c.databasePath⟩ := by
    rw [archive, backend, filePath]
  have holds : c.archive.Holds fileDisk fileSnapshot.agents := by
    rw [archive_eq]
    exact holdsFile_fileDisk
  have whole := holds.not_hasHalf
  obtain ⟨wires, wired, -⟩ := wires_iff isRead distinct .standard whole .zero
  have wirable : c.Wirable := by
    refine ⟨by rw [prompts]; decide, ?_⟩
    have positive := Binary64.leastBeyond_pos
    rw [throttleMillis]
    generalize Binary64.leastBeyond = bound at positive ⊢
    omega
  have never : ∀ fault, ¬ Archive.Breaks .standard c.archive fileDisk fault := by
    have passes : Archive.fileCrash? .standard fileDisk (.ofString "notes.json") = none :=
      Option.isNone_iff_eq_none.mp (by decide +kernel)
    intro fault breaks
    rw [archive_eq] at breaks
    rcases Archive.exists_loadCrash? breaks with ⟨left, crashed⟩
    cases passes.symm.trans crashed
  obtain ⟨s, d, isOk⟩ := wires.mpr ⟨wirable, never⟩
  have isWired := wired s d isOk
  have room : s.store.limits.entries = 1 := by
    have entries_eq := isWired.entries
    omega
  refine ⟨c, isRead, distinct, whole, wirable, s, d, isOk, isWired, ?_⟩
  rcases isWired.content with ⟨malformed, -⟩ | ⟨kept, holdsToo, agents_eq⟩
  · rw [isWired.archive] at malformed
    exact absurd malformed holds.not_malformed
  · rw [isWired.archive] at holdsToo
    rw [agents_eq, holdsToo.unique holds, room]
    rfl

/-- Every configuration that was read can be wired, on any machine. -/
def AlwaysWires : Prop :=
  ∀ (origin : Disk) (environment : List (String × String)) (given : List (String × Json))
    (c : Configuration), Configuration.read origin environment given = .ok c →
    ∀ (agents : List Agent), (agents.map (·.name)).Nodup →
    ∀ (machine : Machine) (disk : Disk) (clock : Binary64),
      ∃ s d, c.wire machine agents disk clock = .ok (s, d) ∧ c.Wired agents disk s d

/-- One prompt more than can be kept passes the check, and wiring fails. -/
theorem not_alwaysWires : ¬ AlwaysWires := by
  intro always
  have told : (Configuration.read .empty [("CODEORBIT_HISTORY_SIZE", "9223372036854775808")]
      []).toOption.map (·.prompts) = some (2 ^ 63) := by
    decide +kernel
  cases isRead : Configuration.read .empty
      [("CODEORBIT_HISTORY_SIZE", "9223372036854775808")] [] with
  | error trouble => rw [isRead] at told; cases told
  | ok c =>
      rw [isRead] at told
      have prompts : c.prompts = 2 ^ 63 := Option.some.inj told
      obtain ⟨s, d, isOk, -⟩ := always _ _ _ c isRead [] List.nodup_nil .standard .empty .zero
      rw [wire_of_tooManyPrompts (valid_of_read isRead) (by rw [prompts]; decide)] at isOk
      cases isOk

end Configuration

end PromptDispatch
