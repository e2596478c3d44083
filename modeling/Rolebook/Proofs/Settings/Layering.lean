import Rolebook.Settings.Load

/-!
# Layers of settings

A setting is what the settings file says, else what its variable says, else the default: this is the
law of the layers, here `Layered`, setting by setting. It is kept for all settings but those of the
pool of a database, since variables of the pool are looked at only where a variable names the
database (`Layer.heeded`). Where the file alone names it they go unheard, though nothing is wrong
with them, and `settings_are_layered_iff` says exactly when this breaks the law.
-/

namespace Rolebook.Settings

open Rolebook.Net (SocketAddress)
open Rolebook.Text (Bytes toUtf8)

/-! ## What the sources say -/

/-- What one source says of each setting, if anything. -/
structure Layer where
  bind : Option SocketAddress
  metricsBind : Option SocketAddress
  storage : Option Storage
  databaseUrl : Option String
  maxConnections : Option UInt32
  connectTimeout : Option UInt64
  acquireTimeout : Option UInt64
  seedDemo : Option Bool
  lowercaseCommands : Option Bool
deriving DecidableEq

/-- The source that says nothing. -/
def Layer.silent : Layer :=
  ⟨none, none, none, none, none, none, none, none, none⟩

/-- A text that may be there is read as a value, and there is a value only if there is a text. -/
inductive IsRead {α : Type} (read : String → Except Defect α) : Option String → Option α → Prop
  | absent : IsRead read none none
  | present {text : String} {value : α} (hRead : read text = .ok value) :
      IsRead read (some text) (some value)

theorem isRead_iff {α : Type} {read : String → Except Defect α} {text : Option String}
    {value : Option α} :
    (text.map fun text => (read text).toOption) = value.map some ↔ IsRead read text value := by
  constructor
  · intro hSame
    cases value with
    | none =>
        obtain rfl : text = none := Option.map_eq_none_iff.1 hSame
        exact .absent
    | some value =>
        obtain ⟨text, rfl, hValue⟩ := Option.map_eq_some_iff.1 hSame
        cases hRead : read text with
        | error defect => simp [hRead, Except.toOption] at hValue
        | ok other =>
            obtain rfl : other = value := by simpa [hRead, Except.toOption] using hValue
            exact .present hRead
  · rintro (_ | hRead)
    · rfl
    · simp [hRead, Except.toOption]

instance {α : Type} [DecidableEq α] {read : String → Except Defect α} {text : Option String}
    {value : Option α} :
    Decidable (IsRead read text value) :=
  decidable_of_iff _ isRead_iff

/-- The variables that are set are well written, each by itself, and this is what they say. -/
structure Layer.OfEnvironment (environment : Environment) (layer : Layer) : Prop where
  bind : IsRead readAddress (environment.text? "RBAC_ADMIN_BIND") layer.bind
  metricsBind : IsRead readAddress (environment.text? "RBAC_ADMIN_METRICS_BIND") layer.metricsBind
  storage : IsRead readStorage (environment.text? "RBAC_ADMIN_STORAGE") layer.storage
  databaseUrl : environment.text? "RBAC_ADMIN_POSTGRES_URL" = layer.databaseUrl
  maxConnections : IsRead readCount (environment.text? "RBAC_ADMIN_PG_MAX_CONNECTIONS")
    layer.maxConnections
  connectTimeout : IsRead readTime (environment.text? "RBAC_ADMIN_PG_CONNECT_TIMEOUT_MS")
    layer.connectTimeout
  acquireTimeout : IsRead readTime (environment.text? "RBAC_ADMIN_PG_ACQUIRE_TIMEOUT_MS")
    layer.acquireTimeout
  seedDemo : IsRead readSwitch (environment.text? "RBAC_ADMIN_SEED_DEMO") layer.seedDemo
  lowercaseCommands : IsRead readSwitch (environment.text? "RBAC_ADMIN_LOWERCASE_COMMANDS")
    layer.lowercaseCommands

/-- What is given in a file is well written, and this is what the file says. A file has no way to
say anything of timeouts. -/
structure Layer.OfOverrides (overrides : Overrides) (layer : Layer) : Prop where
  bind : IsRead readAddress overrides.bind layer.bind
  metricsBind : IsRead readAddress overrides.metricsBind layer.metricsBind
  storage : IsRead readStorage overrides.storage layer.storage
  databaseUrl : overrides.databaseUrl = layer.databaseUrl
  maxConnections : overrides.maxConnections = layer.maxConnections
  connectTimeout : layer.connectTimeout = none
  acquireTimeout : layer.acquireTimeout = none
  seedDemo : overrides.seedDemo = layer.seedDemo
  lowercaseCommands : overrides.lowercaseCommands = layer.lowercaseCommands

/-- The settings file is found and well written, and this is what it says. If no variable names a
file it is silent. -/
inductive Layer.OfFile (environment : Environment) (files : Files) : Layer → Prop
  | unnamed (hPath : environment.text? "RBAC_ADMIN_CONFIG" = none) :
      OfFile environment files .silent
  | found {path text : String} {overrides : Overrides} {layer : Layer}
      (hPath : environment.text? "RBAC_ADMIN_CONFIG" = some path)
      (hText : files.text path = .ok text)
      (hOverrides : Overrides.ofText? text = some overrides)
      (hLayer : layer.OfOverrides overrides) :
      OfFile environment files layer

/-! ## The law of the layers -/

/-- A setting, by what the upper layer says of it, what the lower one says, and the default. -/
def chosen {α : Type} (upper lower : Option α) (unset : α) : α :=
  upper.getD (lower.getD unset)

/-- The settings of a database are those of the uppermost layers that say something of them. -/
structure DatabaseLayered (file exported : Layer) (database : Database) : Prop where
  url : file.databaseUrl.or exported.databaseUrl = some database.url
  maxConnections : database.maxConnections =
    chosen file.maxConnections exported.maxConnections defaultMaxConnections
  connectTimeout : database.connectTimeout =
    chosen file.connectTimeout exported.connectTimeout defaultTimeout
  acquireTimeout : database.acquireTimeout =
    chosen file.acquireTimeout exported.acquireTimeout defaultTimeout

/-- Each setting is the one of the uppermost layer that says something of it. There is a database if
any layer names one. -/
structure Layered (file exported : Layer) (settings : Settings) : Prop where
  bind : settings.bind = chosen file.bind exported.bind default.bind
  metricsBind : settings.metricsBind =
    chosen file.metricsBind exported.metricsBind default.metricsBind
  storage : settings.storage = chosen file.storage exported.storage default.storage
  seedDemo : settings.seedDemo = chosen file.seedDemo exported.seedDemo default.seedDemo
  lowercaseCommands :
    settings.lowercaseCommands =
      chosen file.lowercaseCommands exported.lowercaseCommands default.lowercaseCommands
  database_iff : settings.database ≠ none ↔ file.databaseUrl ≠ none ∨ exported.databaseUrl ≠ none
  database : ∀ database, settings.database = some database → DatabaseLayered file exported database

/-- What the variables say as far as it is heard: of the pool only if they name the database. -/
def Layer.heeded (exported : Layer) : Layer :=
  match exported.databaseUrl with
  | some _ => exported
  | none => { exported with maxConnections := none, connectTimeout := none, acquireTimeout := none }

theorem Layer.heeded_of_named {exported : Layer} {url : String}
    (hNamed : exported.databaseUrl = some url) :
    exported.heeded = exported := by
  rw [heeded, hNamed]

theorem Layer.heeded_of_unnamed {exported : Layer} (hUnnamed : exported.databaseUrl = none) :
    exported.heeded =
      { exported with maxConnections := none, connectTimeout := none, acquireTimeout := none } := by
  rw [heeded, hUnnamed]

/-- The lower layer makes a difference: it says something other than the default, and the upper one
says nothing. -/
def Counts {α : Type} (upper lower : Option α) (unset : α) : Prop :=
  upper = none ∧ ∃ value, lower = some value ∧ value ≠ unset

/-- The file names the database, the variables do not, and one of those for the pool would make a
difference. -/
structure PoolUnheard (file exported : Layer) : Prop where
  named : file.databaseUrl ≠ none ∧ exported.databaseUrl = none
  counts : Counts file.maxConnections exported.maxConnections defaultMaxConnections ∨
    Counts file.connectTimeout exported.connectTimeout defaultTimeout ∨
    Counts file.acquireTimeout exported.acquireTimeout defaultTimeout

theorem chosen_eq_iff {α : Type} {upper lower : Option α} {unset : α} :
    chosen upper none unset = chosen upper lower unset ↔ ¬ Counts upper lower unset := by
  cases upper with
  | some value => simp [chosen, Counts]
  | none =>
      cases lower with
      | none => simp [chosen, Counts]
      | some value => simp [chosen, Counts, eq_comm]

/-- Settings in which all is right but that the variables of the pool may have gone unheard keep the
law unless these count. -/
theorem Layered.iff_of_heeded {file exported : Layer} {settings : Settings}
    (h : Layered file exported.heeded settings) :
    Layered file exported settings ↔ ¬ PoolUnheard file exported := by
  cases hVariables : exported.databaseUrl with
  | some url =>
      rw [Layer.heeded_of_named hVariables] at h
      exact iff_of_true h fun hUnheard => by simpa [hVariables] using hUnheard.named.2
  | none =>
      rw [Layer.heeded_of_unnamed hVariables] at h
      constructor
      · -- the settings of the pool are chosen without the variables, and with them: so these make
        -- no difference
        intro hLayered hUnheard
        obtain ⟨database, hDatabase⟩ :=
          Option.ne_none_iff_exists'.1 (h.database_iff.2 (.inl hUnheard.named.1))
        have hWithout := h.database database hDatabase
        have hWith := hLayered.database database hDatabase
        rcases hUnheard.counts with hCounts | hCounts | hCounts
        · exact chosen_eq_iff.1 (hWithout.maxConnections.symm.trans hWith.maxConnections) hCounts
        · exact chosen_eq_iff.1 (hWithout.connectTimeout.symm.trans hWith.connectTimeout) hCounts
        · exact chosen_eq_iff.1 (hWithout.acquireTimeout.symm.trans hWith.acquireTimeout) hCounts
      · intro hHeard
        refine ⟨h.bind, h.metricsBind, h.storage, h.seedDemo, h.lowercaseCommands,
          h.database_iff, ?_⟩
        intro database hDatabase
        have hNamed : file.databaseUrl ≠ none ∧ exported.databaseUrl = none := by
          refine ⟨?_, hVariables⟩
          simpa [hDatabase, hVariables] using h.database_iff
        have hWithout := h.database database hDatabase
        have hNone := not_or.1 fun hCounts => hHeard ⟨hNamed, hCounts⟩
        exact {
          url := hWithout.url
          maxConnections := hWithout.maxConnections.trans (chosen_eq_iff.2 hNone.1)
          connectTimeout := hWithout.connectTimeout.trans (chosen_eq_iff.2 (not_or.1 hNone.2).1)
          acquireTimeout := hWithout.acquireTimeout.trans (chosen_eq_iff.2 (not_or.1 hNone.2).2) }

/-! ## Loading -/

section Loading

variable {α : Type} {read : String → Except Defect α} {value : Option α} (name : String) (unset : α)

theorem fromText_of_isRead {text : Option String} (hRead : IsRead read text value) :
    fromText read name unset text = .ok (value.getD unset) := by
  cases hRead with
  | absent => rfl
  | present hText =>
      rw [fromText, hText]
      rfl

theorem fromVariable_of_isRead {environment : Environment}
    (hRead : IsRead read (environment.text? name) value) :
    fromVariable environment read name unset = .ok (value.getD unset) := by
  rw [← fromText_of_isRead name unset hRead]
  unfold fromVariable fromText
  cases environment.text? name <;> rfl

end Loading

/-- The settings that the variables make by themselves. -/
def Layer.settings (exported : Layer) : Settings where
  bind := exported.bind.getD default.bind
  metricsBind := exported.metricsBind.getD default.metricsBind
  storage := exported.storage.getD default.storage
  database := exported.databaseUrl.map fun url =>
    ⟨url, exported.maxConnections.getD defaultMaxConnections,
      exported.connectTimeout.getD defaultTimeout,
      exported.acquireTimeout.getD defaultTimeout⟩
  seedDemo := exported.seedDemo.getD default.seedDemo
  lowercaseCommands := exported.lowercaseCommands.getD default.lowercaseCommands

theorem Layer.OfEnvironment.settings_eq {environment : Environment} {exported : Layer}
    (h : exported.OfEnvironment environment) :
    ofEnvironment environment = .ok exported.settings := by
  have hDatabase : databaseOfEnvironment environment = .ok exported.settings.database := by
    rw [databaseOfEnvironment, h.databaseUrl]
    cases hUrl : exported.databaseUrl with
    | none => simp [Layer.settings, hUrl]
    | some url =>
        simp only [fromVariable_of_isRead _ _ h.maxConnections,
          fromVariable_of_isRead _ _ h.connectTimeout,
          fromVariable_of_isRead _ _ h.acquireTimeout, Layer.settings, hUrl]
        rfl
  rw [ofEnvironment, fromVariable_of_isRead _ _ h.metricsBind, fromVariable_of_isRead _ _ h.bind,
    fromVariable_of_isRead _ _ h.storage, hDatabase, fromVariable_of_isRead _ _ h.seedDemo,
    fromVariable_of_isRead _ _ h.lowercaseCommands]
  rfl

/-- A file that says nothing changes nothing. -/
theorem override_none (settings : Settings) : settings.override .none = .ok settings := by
  obtain ⟨bind, metricsBind, storage, _ | database, seedDemo, lowercaseCommands⟩ := settings <;> rfl

theorem Layer.silent_ofOverrides : Layer.silent.OfOverrides .none :=
  ⟨.absent, .absent, .absent, rfl, rfl, rfl, rfl, rfl, rfl⟩

theorem Layer.OfOverrides.override_eq {overrides : Overrides} {file : Layer}
    (h : file.OfOverrides overrides) (settings : Settings) :
    settings.override overrides = .ok
      { bind := file.bind.getD settings.bind
        metricsBind := file.metricsBind.getD settings.metricsBind
        storage := file.storage.getD settings.storage
        database := overrideDatabase settings.database overrides
        seedDemo := file.seedDemo.getD settings.seedDemo
        lowercaseCommands := file.lowercaseCommands.getD settings.lowercaseCommands } := by
  rw [override, fromText_of_isRead _ _ h.bind, fromText_of_isRead _ _ h.metricsBind,
    fromText_of_isRead _ _ h.storage,
    h.seedDemo, h.lowercaseCommands]
  rfl

section Database

variable {overrides : Overrides} {file : Layer} (h : file.OfOverrides overrides) (exported : Layer)

include h

theorem Layer.OfOverrides.database_iff :
    overrideDatabase exported.settings.database overrides ≠ none ↔
      file.databaseUrl ≠ none ∨ exported.databaseUrl ≠ none := by
  rw [overrideDatabase, h.databaseUrl]
  cases file.databaseUrl <;> simp [Layer.settings]

/-- The database that the variables make, with what a file says on top, has the settings that are
heard. -/
theorem Layer.OfOverrides.databaseLayered {database : Database}
    (hDatabase : overrideDatabase exported.settings.database overrides = some database) :
    DatabaseLayered file exported.heeded database := by
  rw [overrideDatabase, h.databaseUrl, h.maxConnections] at hDatabase
  cases hFile : file.databaseUrl with
  | none =>
      cases hVariables : exported.databaseUrl with
      | none => simp [hFile, Layer.settings, hVariables] at hDatabase
      | some url =>
          simp only [hFile, Layer.settings, hVariables, Option.map_some, Option.some.injEq]
            at hDatabase
          subst hDatabase
          rw [Layer.heeded_of_named hVariables]
          exact ⟨by rw [hFile, hVariables]; rfl, rfl, by rw [h.connectTimeout]; rfl,
            by rw [h.acquireTimeout]; rfl⟩
  | some url =>
      cases hVariables : exported.databaseUrl with
      | none =>
          -- a database of its own, for which the variables are not asked
          simp only [hFile, Layer.settings, hVariables, Option.map_none, Option.map_some,
            Option.some.injEq] at hDatabase
          subst hDatabase
          rw [Layer.heeded_of_unnamed hVariables]
          exact ⟨by rw [hFile]; rfl, rfl, by rw [h.connectTimeout]; rfl,
            by rw [h.acquireTimeout]; rfl⟩
      | some other =>
          simp only [hFile, Layer.settings, hVariables, Option.map_some, Option.some.injEq]
            at hDatabase
          subst hDatabase
          rw [Layer.heeded_of_named hVariables]
          exact ⟨by rw [hFile]; rfl, rfl, by rw [h.connectTimeout]; rfl,
            by rw [h.acquireTimeout]; rfl⟩

theorem Layer.OfOverrides.exists_layered :
    ∃ settings, exported.settings.override overrides = .ok settings ∧
      Layered file exported.heeded settings := by
  refine ⟨_, h.override_eq _, ?_⟩
  -- what is heard of the variables is all that they say outside the database
  have hHeeded : exported.heeded.bind = exported.bind ∧
      exported.heeded.metricsBind = exported.metricsBind ∧
      exported.heeded.storage = exported.storage ∧
      exported.heeded.databaseUrl = exported.databaseUrl ∧
      exported.heeded.seedDemo = exported.seedDemo ∧
      exported.heeded.lowercaseCommands = exported.lowercaseCommands := by
    unfold Layer.heeded
    split <;> exact ⟨rfl, rfl, rfl, rfl, rfl, rfl⟩
  obtain ⟨hBind, hMetricsBind, hStorage, hUrl, hSeedDemo, hLowercase⟩ := hHeeded
  constructor
  · rw [hBind]; rfl
  · rw [hMetricsBind]; rfl
  · rw [hStorage]; rfl
  · rw [hSeedDemo]; rfl
  · rw [hLowercase]; rfl
  · rw [hUrl]; exact h.database_iff exported
  · exact fun database hDatabase => h.databaseLayered exported hDatabase

end Database

/-- Where the variables that are set are well written, and so is the settings file if there is one,
there are settings, and they keep the law of the layers in all but this: if the file names the
database and the variables do not, what they say of its pool goes unheard. So the law is kept
exactly if no such variable counts. -/
theorem settings_are_layered_iff {environment : Environment} {files : Files} {exported file : Layer}
    (hVariables : exported.OfEnvironment environment) (hFile : file.OfFile environment files) :
    ∃ settings, load environment files = .ok settings ∧ Layered file exported.heeded settings ∧
      (Layered file exported settings ↔ ¬ PoolUnheard file exported) := by
  have hLoaded : ∃ settings, load environment files = .ok settings ∧
      Layered file exported.heeded settings := by
    unfold load
    rw [hVariables.settings_eq]
    cases hFile with
    | unnamed hPath =>
        obtain ⟨settings, hOverridden, hLayered⟩ := Layer.silent_ofOverrides.exists_layered exported
        rw [override_none] at hOverridden
        obtain rfl := Except.ok.inj hOverridden
        exact ⟨_, by rw [hPath]; rfl, hLayered⟩
    | found hPath hText hOverrides hLayer =>
        obtain ⟨settings, hOverridden, hLayered⟩ := hLayer.exists_layered exported
        refine ⟨settings, ?_, hLayered⟩
        rw [hPath]
        change applyFile files exported.settings _ = _
        rw [applyFile, hText]
        simpa only [hOverrides] using hOverridden
  obtain ⟨settings, hLoad, hLayered⟩ := hLoaded
  exact ⟨settings, hLoad, hLayered, hLayered.iff_of_heeded⟩

/-- Files of which one has this text, under any path. -/
def filesOf (text : String) : Files :=
  fun _ => .ok (toUtf8 text)

theorem text_filesOf {text : String} (hText : Text.ofUtf8? (toUtf8 text) = some text)
    (path : String) :
    (filesOf text).text path = .ok text := by
  simp only [Files.text, filesOf, hText]

/-- The variables name a database and set its pool, and the file names another one. -/
def namedTwice : Environment :=
  [("RBAC_ADMIN_BIND", toUtf8 "127.0.0.1:9000"),
    ("RBAC_ADMIN_POSTGRES_URL", toUtf8 "postgres://one/rbac"),
    ("RBAC_ADMIN_PG_MAX_CONNECTIONS", toUtf8 "3"),
    ("RBAC_ADMIN_PG_CONNECT_TIMEOUT_MS", toUtf8 " 250 "),
    ("RBAC_ADMIN_CONFIG", toUtf8 "settings.yaml")]

/-- The text of the file. -/
def namingText : String :=
  "storage: postgres\npostgres_url: postgres://other/rbac\nseed_demo: true\n"

/-- What these variables say. -/
def namedTwiceVariables : Layer :=
  { Layer.silent with
    bind := some (.short ⟨127, 0, 0, 1⟩ 9000)
    databaseUrl := some "postgres://one/rbac"
    maxConnections := some 3
    connectTimeout := some 250 }

/-- What the file says. -/
def namingFile : Layer :=
  { Layer.silent with
    storage := some .postgres
    databaseUrl := some "postgres://other/rbac"
    seedDemo := some true }

theorem settings_are_layered_iff_of_namedTwice :
    namedTwiceVariables.OfEnvironment namedTwice ∧
      namingFile.OfFile namedTwice (filesOf namingText) ∧
      ∃ settings, load namedTwice (filesOf namingText) = .ok settings ∧
        Layered namingFile namedTwiceVariables settings ∧
        settings.database = some ⟨"postgres://other/rbac", 3, 250, 5000⟩ := by
  have hVariables : namedTwiceVariables.OfEnvironment namedTwice := by
    constructor <;> decide +kernel
  have hFile : namingFile.OfFile namedTwice (filesOf namingText) := by
    have hPath : namedTwice.text? "RBAC_ADMIN_CONFIG" = some "settings.yaml" := by decide +kernel
    have hOverrides : Overrides.ofText? namingText =
        some ⟨none, none, some "postgres", some "postgres://other/rbac", none, some true,
          none⟩ := by decide +kernel
    refine .found hPath (text_filesOf (by decide +kernel) _) hOverrides ?_
    constructor <;> decide +kernel
  obtain ⟨settings, hLoad, -, hKept⟩ := settings_are_layered_iff hVariables hFile
  have hLayered := hKept.2 fun hUnheard => by simpa [namedTwiceVariables] using hUnheard.named.2
  refine ⟨hVariables, hFile, settings, hLoad, hLayered, ?_⟩
  obtain ⟨⟨url, maxConnections, connectTimeout, acquireTimeout⟩, hDatabase⟩ :=
    Option.ne_none_iff_exists'.1 (hLayered.database_iff.2 (.inl (by simp [namingFile])))
  obtain ⟨hUrl, rfl, rfl, rfl⟩ := hLayered.database _ hDatabase
  obtain rfl := Option.some.inj hUrl
  exact hDatabase

/-- A variable sets the size of the pool, but only the file names a database. -/
def poolAlone : Environment :=
  [("RBAC_ADMIN_PG_MAX_CONNECTIONS", toUtf8 "3"), ("RBAC_ADMIN_CONFIG", toUtf8 "settings.yaml")]

/-- What the variable says. -/
def poolVariables : Layer :=
  { Layer.silent with maxConnections := some 3 }

/-- What the file says. -/
def databaseFile : Layer :=
  { Layer.silent with databaseUrl := some "postgres://db/rbac" }

/-- Neither the file nor the default was to say how many connections there are at most: the variable
does, and goes unheard. -/
theorem pool_variable_is_unheard :
    poolVariables.OfEnvironment poolAlone ∧
      databaseFile.OfFile poolAlone (filesOf "postgres_url: postgres://db/rbac\n") ∧
      ∃ settings, load poolAlone (filesOf "postgres_url: postgres://db/rbac\n") = .ok settings ∧
        settings.database = some ⟨"postgres://db/rbac", 10, 5000, 5000⟩ ∧
        ¬ Layered databaseFile poolVariables settings := by
  have hVariables : poolVariables.OfEnvironment poolAlone := by constructor <;> decide +kernel
  have hLayer : databaseFile.OfOverrides { Overrides.none with
      databaseUrl := some "postgres://db/rbac" } := by
    constructor <;> decide +kernel
  have hOverrides : Overrides.ofText? "postgres_url: postgres://db/rbac\n" =
      some { Overrides.none with databaseUrl := some "postgres://db/rbac" } := by decide +kernel
  have hText : (filesOf "postgres_url: postgres://db/rbac\n").text "settings.yaml" =
      .ok "postgres_url: postgres://db/rbac\n" :=
    text_filesOf (by decide +kernel) "settings.yaml"
  have hPath : poolAlone.text? "RBAC_ADMIN_CONFIG" = some "settings.yaml" := by decide +kernel
  have hLoad : load poolAlone (filesOf "postgres_url: postgres://db/rbac\n") =
      .ok { default with database := some (.ofUrl "postgres://db/rbac") } := by
    unfold load
    rw [hVariables.settings_eq, hPath]
    change applyFile _ poolVariables.settings _ = _
    simp only [applyFile, hText, hOverrides, hLayer.override_eq]
    rfl
  refine ⟨hVariables, .found hPath hText hOverrides hLayer, _, hLoad, rfl, fun hLayered => ?_⟩
  have hPool := (hLayered.database _ rfl).maxConnections
  exact absurd hPool (by decide)

end Rolebook.Settings
