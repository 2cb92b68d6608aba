import Mathlib.Logic.Function.Basic
import StreamMux.Settings

/-!
# Settings from three layers

A file that is named has to be readable, whatever the environment says (`reads_iff`); what makes a
layer of its text may be any reader. Each field is then taken on its own: from its variable if that
can be read, else from the file, else it is the default (`layered_iff`). Only what results is
checked, field after field (`violation?_spec`). The result is `load_layered`. A file that would not
do alone is therefore mended by the environment, a variable that cannot be read counts for nothing
(`ofEnvironment_unread`), and a file that would do is spoilt by a variable.

Source: `Settings.load`, `Settings.readFile`, `Settings.violation?`, `Settings.Layer.above`,
`Settings.Layer.complete`, `Settings.Layer.ofEnvironment`.
-/
namespace StreamMux.Settings

variable {parse : LayerReader} {c : Settings} {file : Option (String × FileContent)} {layer : Layer}
  {lookup : String → Option String} {name text message : String}

/-! ### The file -/

/-- What reading the file comes to, if one is named. -/
inductive Reads (parse : LayerReader) :
    Option (String × FileContent) → Except SettingsError Layer → Prop
  | unnamed : Reads parse none (.ok {})
  | unreadable (path : String) (error : IoError) :
      Reads parse (some (path, .error error)) (.error (.unreadable path error))
  | undecodable (path : String) {bytes : ByteArray} (invalid : String.fromUTF8? bytes = none) :
      Reads parse (some (path, .ok bytes))
        (.error (.unreadable path (.other "stream did not contain valid UTF-8")))
  | malformed (path : String) {bytes : ByteArray} {text reason : String}
      (decoded : String.fromUTF8? bytes = some text) (wrong : parse text = .error reason) :
      Reads parse (some (path, .ok bytes)) (.error (.malformed { path, reason }))
  | holds (path : String) {bytes : ByteArray} {text : String} {layer : Layer}
      (decoded : String.fromUTF8? bytes = some text) (parsed : parse text = .ok layer) :
      Reads parse (some (path, .ok bytes)) (.ok layer)

/-- The layer of the file, which is empty if none is named. -/
def fileLayer (parse : LayerReader) :
    Option (String × FileContent) → Except SettingsError Layer
  | none => .ok {}
  | some (path, content) => readFile path content parse

theorem reads_fileLayer (parse : LayerReader) (file : Option (String × FileContent)) :
    Reads parse file (fileLayer parse file) := by
  match file with
  | none => exact .unnamed
  | some (path, .error error) => exact .unreadable path error
  | some (path, .ok bytes) =>
    rw [fileLayer, readFile]
    cases decoded : String.fromUTF8? bytes with
    | none => exact .undecodable path decoded
    | some text =>
      cases parsed : parse text with
      | error reason =>
        simp only [parsed]
        exact .malformed path decoded parsed
      | ok layer =>
        simp only [parsed]
        exact .holds path decoded parsed

theorem reads_iff {result : Except SettingsError Layer} :
    Reads parse file result ↔ result = fileLayer parse file := by
  constructor
  · intro reads
    cases reads with
    | unnamed => rfl
    | unreadable path error => rfl
    | undecodable path invalid => simp [fileLayer, readFile, invalid]
    | malformed path decoded wrong => simp [fileLayer, readFile, decoded, wrong]
    | holds path decoded parsed => simp [fileLayer, readFile, decoded, parsed]
  · rintro rfl
    exact reads_fileLayer parse file

theorem reads_cases (parse : LayerReader) (file : Option (String × FileContent)) :
    (∃ error, Reads parse file (.error error)) ∨ ∃ layer, Reads parse file (.ok layer) := by
  have reads := reads_fileLayer parse file
  cases held : fileLayer parse file with
  | error error =>
    rw [held] at reads
    exact .inl ⟨error, reads⟩
  | ok layer =>
    rw [held] at reads
    exact .inr ⟨layer, reads⟩

/-- A file is never blamed for what the settings come to. -/
theorem Reads.ne_invalid {error : SettingsError} (h : Reads parse file (.error error))
    (message : String) : error ≠ .invalid message := by
  rintro rfl
  cases h

/-! ### The layers -/

/-- Where the value of a field comes from. -/
inductive Comes {α : Type} (setting : Option String) (read : String → Option α) (file : Option α)
    (default : α) : α → Prop
  | overridden {text : String} {value : α} (set : setting = some text)
      (readable : read text = some value) : Comes setting read file default value
  | written {value : α} (unread : ∀ text, setting = some text → read text = none)
      (has : file = some value) : Comes setting read file default value
  | absent (unread : ∀ text, setting = some text → read text = none) (lacks : file = none) :
      Comes setting read file default default

theorem comes_iff {α : Type} {setting : Option String} {read : String → Option α}
    {file : Option α} {default value : α} :
    Comes setting read file default value ↔
      value = (setting.bind read <|> file).getD default := by
  constructor
  · intro comes
    cases comes with
    | overridden set readable => simp [set, readable]
    | written unread has =>
      cases setting with
      | none => simp [has]
      | some text => simp [unread text rfl, has]
    | absent unread lacks =>
      cases setting with
      | none => simp [lacks]
      | some text => simp [unread text rfl, lacks]
  · rintro rfl
    cases set : setting.bind read with
    | some value =>
      obtain ⟨text, set, readable⟩ := Option.bind_eq_some_iff.mp set
      exact .overridden set readable
    | none =>
      have unread : ∀ text, setting = some text → read text = none :=
        Option.bind_eq_none_iff.mp set
      cases has : file with
      | some value => exact .written unread rfl
      | none => exact .absent unread rfl

/-- Every field comes from the topmost layer that has it. -/
structure Layered (lookup : String → Option String) (layer : Layer) (c : Settings) : Prop where
  bindAddress : Comes (lookup "RSOCKET_BIND") SocketAddress.parse? layer.bindAddress
    { ip := .v4 [127, 0, 0, 1], port := 7878 } c.bindAddress
  maxConnections : Comes (lookup "RSOCKET_MAX_CONNECTIONS") (parseUnsigned? (2 ^ 64))
    layer.maxConnections 1000 c.maxConnections
  prefetch : Comes (lookup "RSOCKET_PREFETCH")
    (fun text => (parseUnsigned? (2 ^ 32) text).map UInt32.ofNat) layer.prefetch 64 c.prefetch
  setupTimeout : ∃ ms, c.setupTimeout = .ofMillis ms ∧
    Comes (lookup "RSOCKET_SETUP_TIMEOUT_MS") (parseUnsigned? (2 ^ 64)) layer.setupMillis 10000 ms

/-- The time to wait that a layer gives, or the default. -/
theorem Layer.complete_setupTimeout (a : Layer) :
    a.complete.setupTimeout = .ofMillis (a.setupMillis.getD 10000) := by
  rw [complete]
  cases a.setupMillis with
  | none => rfl
  | some ms => rfl

/-- All layers give the time to wait in whole milliseconds. -/
theorem Layered.whole (h : Layered lookup layer c) : ∃ ms, c.setupTimeout = .ofMillis ms :=
  h.setupTimeout.imp fun _ timed => timed.1

theorem layered_iff :
    Layered lookup layer c ↔ c = ((Layer.ofEnvironment lookup).above layer).complete := by
  have timed := ((Layer.ofEnvironment lookup).above layer).complete_setupTimeout
  constructor
  · rintro ⟨address, connections, prefetch, ms, whole, timeout⟩
    obtain ⟨_, _, _, _⟩ := c
    rw [comes_iff] at address connections prefetch timeout
    subst whole timeout
    simp only [Layer.complete, Layer.above, Layer.ofEnvironment, Option.bind_eq_bind,
      Option.map_bind, mk.injEq] at timed ⊢
    exact ⟨address, connections, prefetch, timed.symm⟩
  · rintro rfl
    refine ⟨?_, ?_, ?_, _, timed, comes_iff.mpr rfl⟩
    · exact comes_iff.mpr rfl
    · exact comes_iff.mpr rfl
    · simp only [Layer.complete, Layer.above, Layer.ofEnvironment, Option.bind_eq_bind,
        Option.map_bind]
      exact comes_iff.mpr rfl

/-! ### The check -/

/-- A server can work with the settings. -/
structure Fits (c : Settings) : Prop where
  maxConnections : 1 ≤ c.maxConnections
  prefetch : 1 ≤ c.prefetch.toNat ∧ c.prefetch.toNat ≤ 2 ^ 31 - 1
  setupTimeout : 1 ≤ c.setupTimeout.millis

/-- The first thing that is wrong with settings, and what is said about it. -/
inductive Objects (c : Settings) : String → Prop
  | connections (none : c.maxConnections = 0) : Objects c "max_connections must be at least 1"
  | prefetch (some : 1 ≤ c.maxConnections)
      (outside : c.prefetch.toNat = 0 ∨ 2 ^ 31 - 1 < c.prefetch.toNat) :
      Objects c "prefetch must be between 1 and 2147483647"
  | timeout (some : 1 ≤ c.maxConnections)
      (within : 1 ≤ c.prefetch.toNat ∧ c.prefetch.toNat ≤ 2 ^ 31 - 1)
      (none : c.setupTimeout.millis = 0) : Objects c "setup_timeout_ms must be positive"

theorem prefetch_outside_iff :
    c.prefetch = 0 ∨ maxRequestN < c.prefetch ↔
      c.prefetch.toNat = 0 ∨ 2 ^ 31 - 1 < c.prefetch.toNat :=
  or_congr UInt32.toNat_inj.symm UInt32.lt_iff_toNat_lt

theorem prefetch_message : "prefetch must be between 1 and " ++ toString maxRequestN.toNat =
    "prefetch must be between 1 and 2147483647" := by
  decide +kernel

/-- Whole milliseconds are no time at all if there is none of them. -/
theorem ofMillis_eq_zero_iff (ms : Nat) : Duration.ofMillis ms = 0 ↔ ms = 0 := by
  constructor
  · intro same
    have millis := congrArg Duration.millis same
    rwa [Duration.millis_ofMillis] at millis
  · rintro rfl
    rfl

/-- The check finds the first thing that is wrong, or nothing. -/
theorem violation?_spec (whole : ∃ ms, c.setupTimeout = .ofMillis ms) :
    (c.violation? = none ∧ c.Fits) ∨
      ∃ message, c.violation? = some message ∧ c.Objects message := by
  obtain ⟨ms, whole⟩ := whole
  have millis : c.setupTimeout.millis = ms := by rw [whole, Duration.millis_ofMillis]
  unfold violation?
  split
  next none => exact .inr ⟨_, rfl, .connections none⟩
  next some =>
    have some : 1 ≤ c.maxConnections := Nat.pos_of_ne_zero some
    split
    next outside =>
      rw [prefetch_message]
      exact .inr ⟨_, rfl, .prefetch some (prefetch_outside_iff.mp outside)⟩
    next within =>
      have within : 1 ≤ c.prefetch.toNat ∧ c.prefetch.toNat ≤ 2 ^ 31 - 1 := by
        rw [prefetch_outside_iff] at within
        omega
      split
      next none =>
        rw [whole, ofMillis_eq_zero_iff] at none
        exact .inr ⟨_, rfl, .timeout some within (millis.trans none)⟩
      next long =>
        rw [whole, ofMillis_eq_zero_iff, ← millis] at long
        exact .inl ⟨rfl, some, within, Nat.pos_of_ne_zero long⟩

theorem Fits.violation? (h : c.Fits) : c.violation? = none := by
  obtain ⟨some, within, long⟩ := h
  have long : c.setupTimeout ≠ 0 := by
    intro none
    rw [none] at long
    contradiction
  rw [Settings.violation?, if_neg (by omega), if_neg, if_neg long]
  rw [prefetch_outside_iff]
  omega

theorem Objects.violation? (whole : ∃ ms, c.setupTimeout = .ofMillis ms) (h : c.Objects message) :
    c.violation? = some message := by
  cases h with
  | connections none => rw [Settings.violation?, if_pos none]
  | prefetch some outside =>
    rw [Settings.violation?, if_neg (by omega), if_pos (prefetch_outside_iff.mpr outside),
      prefetch_message]
  | timeout some within none =>
    obtain ⟨ms, whole⟩ := whole
    rw [whole, Duration.millis_ofMillis] at none
    rw [Settings.violation?, if_neg (by omega), if_neg, if_pos]
    · rw [whole, ofMillis_eq_zero_iff, none]
    · rw [prefetch_outside_iff]
      omega

/-! ### Loading -/

theorem load_eq (parse : LayerReader) (file : Option (String × FileContent))
    (environment : Layer) :
    load file environment parse = do
      let layer ← fileLayer parse file
      let settings := (environment.above layer).complete
      settings.validate
      return settings := by
  cases file with
  | none => rfl
  | some named => rfl

theorem load_of_error {error : SettingsError} (h : Reads parse file (.error error))
    (environment : Layer) : load file environment parse = .error error := by
  rw [load_eq, ← reads_iff.mp h]
  rfl

/-- What the layers give is loaded if it passes the check. -/
theorem load_of_layers (reads : Reads parse file (.ok layer)) (layered : Layered lookup layer c) :
    load file (.ofEnvironment lookup) parse = c.validate.map fun _ => c := by
  rw [load_eq, ← reads_iff.mp reads]
  simp only [bind, Except.bind, ← layered_iff.mp layered]
  cases c.validate with
  | error problem => rfl
  | ok => rfl

theorem load_of_none (reads : Reads parse file (.ok layer)) (layered : Layered lookup layer c)
    (sound : c.violation? = none) : load file (.ofEnvironment lookup) parse = .ok c := by
  rw [load_of_layers reads layered, validate, sound]
  rfl

theorem load_of_some (reads : Reads parse file (.ok layer)) (layered : Layered lookup layer c)
    (wrong : c.violation? = some message) :
    load file (.ofEnvironment lookup) parse = .error (.invalid message) := by
  rw [load_of_layers reads layered, validate, wrong]
  rfl

/-- What the settings come to that the layers give. -/
theorem load_cases (reads : Reads parse file (.ok layer)) (layered : Layered lookup layer c) :
    (load file (.ofEnvironment lookup) parse = .ok c ∧ c.Fits) ∨
      ∃ message, load file (.ofEnvironment lookup) parse = .error (.invalid message) ∧
        c.Objects message := by
  rcases violation?_spec (layered.whole) with ⟨sound, fits⟩ | ⟨message, wrong, objects⟩
  · exact .inl ⟨load_of_none reads layered sound, fits⟩
  · exact .inr ⟨message, load_of_some reads layered wrong, objects⟩

theorem load_ok_iff (reads : Reads parse file (.ok layer)) (layered : Layered lookup layer c) :
    load file (.ofEnvironment lookup) parse = .ok c ↔ c.Fits := by
  refine ⟨fun loaded => ?_, fun fits => load_of_none reads layered fits.violation?⟩
  rcases load_cases reads layered with ⟨_, fits⟩ | ⟨message, refused, _⟩
  · exact fits
  · rw [loaded] at refused
    contradiction

theorem load_invalid_iff (reads : Reads parse file (.ok layer)) (layered : Layered lookup layer c)
    (message : String) :
    load file (.ofEnvironment lookup) parse = .error (.invalid message) ↔ c.Objects message := by
  refine ⟨fun refused => ?_, fun objects =>
    load_of_some reads layered (objects.violation? (layered.whole))⟩
  rcases load_cases reads layered with ⟨loaded, _⟩ | ⟨other, same, objects⟩
  · rw [loaded] at refused
    contradiction
  · rw [refused] at same
    cases same
    exact objects

/-- Loading fails for the file exactly if the file cannot be read. -/
theorem load_error_iff {error : SettingsError} :
    Reads parse file (.error error) ↔
      load file (.ofEnvironment lookup) parse = .error error ∧
        ∀ message, error ≠ .invalid message := by
  refine ⟨fun reads => ⟨load_of_error reads _, reads.ne_invalid⟩, fun ⟨failed, other⟩ => ?_⟩
  rcases reads_cases parse file with ⟨found, reads⟩ | ⟨layer, reads⟩
  · rw [load_of_error reads] at failed
    cases failed
    exact reads
  · rcases load_cases reads (layered_iff.mpr rfl) with ⟨loaded, _⟩ | ⟨message, refused, _⟩
    · rw [failed] at loaded
      contradiction
    · rw [failed] at refused
      cases refused
      exact absurd rfl (other message)

/-! ### Variables -/

/-- The text cannot be read as the field that the variable is for. -/
inductive Unread : String → String → Prop
  | address {text : String} (fails : SocketAddress.parse? text = none) :
      Unread "RSOCKET_BIND" text
  | connections {text : String} (fails : parseUnsigned? (2 ^ 64) text = none) :
      Unread "RSOCKET_MAX_CONNECTIONS" text
  | prefetch {text : String} (fails : parseUnsigned? (2 ^ 32) text = none) :
      Unread "RSOCKET_PREFETCH" text
  | timeout {text : String} (fails : parseUnsigned? (2 ^ 64) text = none) :
      Unread "RSOCKET_SETUP_TIMEOUT_MS" text

/-- A variable that cannot be read counts for nothing. -/
theorem ofEnvironment_unread (h : Unread name text) (lookup : String → Option String) :
    Layer.ofEnvironment (Function.update lookup name (some text)) =
      Layer.ofEnvironment (Function.update lookup name none) := by
  cases h with
  | address fails => simpa [Layer.ofEnvironment] using fails
  | connections fails => simpa [Layer.ofEnvironment] using fails
  | prefetch fails => simpa [Layer.ofEnvironment] using fails
  | timeout fails => simpa [Layer.ofEnvironment] using fails

/-- A variable that can be read decides its field. -/
theorem Comes.eq_of_read {α : Type} {setting : Option String} {read : String → Option α}
    {given : Option α} {default value decided : α} (h : Comes setting read given default value)
    (set : setting = some text) (readable : read text = some decided) : value = decided := by
  rw [comes_iff.mp h, set, Option.bind_some, readable]
  rfl

/-- The environment decides every field that is checked, and keeps its bounds. -/
structure Mends (lookup : String → Option String) : Prop where
  maxConnections : ∃ text n, lookup "RSOCKET_MAX_CONNECTIONS" = some text ∧
    parseUnsigned? (2 ^ 64) text = some n ∧ 1 ≤ n
  prefetch : ∃ text n, lookup "RSOCKET_PREFETCH" = some text ∧
    parseUnsigned? (2 ^ 32) text = some n ∧ 1 ≤ n ∧ n ≤ 2 ^ 31 - 1
  setupTimeout : ∃ text n, lookup "RSOCKET_SETUP_TIMEOUT_MS" = some text ∧
    parseUnsigned? (2 ^ 64) text = some n ∧ 1 ≤ n

theorem Mends.fits (h : Mends lookup) (layered : Layered lookup layer c) : c.Fits := by
  obtain ⟨⟨a, connections, setA, readA, some⟩, ⟨b, prefetch, setB, readB, within⟩,
    ⟨t, timeout, setT, readT, long⟩⟩ := h
  have connections := layered.maxConnections.eq_of_read setA readA
  have prefetch := layered.prefetch.eq_of_read setB (by rw [readB]; rfl)
  obtain ⟨ms, whole, timed⟩ := layered.setupTimeout
  have timeout := timed.eq_of_read setT readT
  refine ⟨?_, ?_, ?_⟩
  · rwa [connections]
  · rwa [prefetch, UInt32.toNat_ofNat_of_lt' (Nat.lt_of_le_of_lt within.2 (by decide))]
  · rwa [whole, timeout, Duration.millis_ofMillis]

/-- A variable decides no other field than its own. -/
theorem Layered.withPrefetch (h : Layered lookup layer c) {value : UInt32}
    (readable : (parseUnsigned? (2 ^ 32) text).map UInt32.ofNat = some value) :
    Layered (Function.update lookup "RSOCKET_PREFETCH" (some text)) layer
      { c with prefetch := value } where
  bindAddress := h.bindAddress
  maxConnections := h.maxConnections
  prefetch := .overridden (Function.update_self ..) readable
  setupTimeout := h.setupTimeout

/-- Settings that are right are spoilt by a prefetch of 0. -/
theorem load_spoilt (loaded : load file (.ofEnvironment lookup) parse = .ok c) :
    load file (.ofEnvironment (Function.update lookup "RSOCKET_PREFETCH" (some "0"))) parse =
      .error (.invalid "prefetch must be between 1 and 2147483647") := by
  rcases reads_cases parse file with ⟨found, reads⟩ | ⟨layer, reads⟩
  · rw [load_of_error reads] at loaded
    contradiction
  · obtain ⟨d, layered⟩ : ∃ d, Layered lookup layer d := ⟨_, layered_iff.mpr rfl⟩
    rcases load_cases reads layered with ⟨_, fits⟩ | ⟨message, refused, _⟩
    · have zero : (parseUnsigned? (2 ^ 32) "0").map UInt32.ofNat = some 0 := by decide
      exact (load_invalid_iff reads (layered.withPrefetch zero) _).mpr
        (.prefetch fits.maxConnections (.inl rfl))
    · rw [loaded] at refused
      contradiction

/-- Whatever makes a layer of the text of a file: loading settings fails for the file exactly if one
is named that cannot be read, whatever the environment says. Otherwise each field is on its own what
its variable says if that can be read, else what the file says, else the default; the settings that
this gives are loaded exactly if they keep the bounds, and else the first violation is told. So
variables mend any file that can be read, those that cannot be read count for nothing, and one alone
can spoil what is right. -/
theorem load_layered (parse : LayerReader) (file : Option (String × FileContent))
    (lookup : String → Option String) :
    (∃ result, ∀ other, Reads parse file other ↔ other = result) ∧
    (∀ error, Reads parse file (.error error) ↔
      load file (.ofEnvironment lookup) parse = .error error ∧
        ∀ message, error ≠ .invalid message) ∧
    (∀ layer, Reads parse file (.ok layer) → ∃ c, (∀ d, Layered lookup layer d ↔ d = c) ∧
      (load file (.ofEnvironment lookup) parse = .ok c ↔ c.Fits) ∧
      (∀ message, load file (.ofEnvironment lookup) parse = .error (.invalid message) ↔
        c.Objects message) ∧
      (c.Fits ∨ ∃ message, c.Objects message) ∧
      (Mends lookup → load file (.ofEnvironment lookup) parse = .ok c)) ∧
    (∀ name text, Unread name text →
      load file (.ofEnvironment (Function.update lookup name (some text))) parse =
        load file (.ofEnvironment (Function.update lookup name none)) parse) ∧
    ∀ c, load file (.ofEnvironment lookup) parse = .ok c →
      load file (.ofEnvironment (Function.update lookup "RSOCKET_PREFETCH" (some "0"))) parse =
        .error (.invalid "prefetch must be between 1 and 2147483647") := by
  refine ⟨⟨fileLayer parse file, fun _ => reads_iff⟩, fun _ => load_error_iff,
    fun layer reads => ?_, fun name text unread => ?_, fun _ => load_spoilt⟩
  · obtain ⟨c, same⟩ : ∃ c, ∀ d, Layered lookup layer d ↔ d = c := ⟨_, fun _ => layered_iff⟩
    have layered := (same c).mpr rfl
    have decided : c.Fits ∨ ∃ message, c.Objects message := by
      rcases load_cases reads layered with ⟨_, fits⟩ | ⟨message, _, objects⟩
      · exact .inl fits
      · exact .inr ⟨message, objects⟩
    exact ⟨c, same, load_ok_iff reads layered, load_invalid_iff reads layered, decided,
      fun mends => (load_ok_iff reads layered).mpr (mends.fits layered)⟩
  · rw [ofEnvironment_unread unread]

/-- A file that allows no connection is refused by itself. With a variable that allows five, and one
for the prefetch that is no number, it is loaded; a prefetch of 0 is refused again. -/
theorem load_layered_of_mended :
    let file : Option (String × FileContent) := some ("settings.yaml",
      .ok "network:\n  max_connections: 0\nconnection:\n  prefetch: 8\n".toUTF8)
    let lookup (name : String) : Option String :=
      if name = "RSOCKET_MAX_CONNECTIONS" then some "5"
      else if name = "RSOCKET_PREFETCH" then some "eight"
      else none
    Reads Layer.ofText file (.ok { maxConnections := some 0, prefetch := some 8 }) ∧
    load file {} = .error (.invalid "max_connections must be at least 1") ∧
    Unread "RSOCKET_PREFETCH" "eight" ∧
    load file (.ofEnvironment lookup) = .ok { maxConnections := 5, prefetch := 8 } ∧
    load file (.ofEnvironment (Function.update lookup "RSOCKET_PREFETCH" (some "0"))) =
      .error (.invalid "prefetch must be between 1 and 2147483647") := by
  intro file lookup
  let text := "network:\n  max_connections: 0\nconnection:\n  prefetch: 8\n"
  have decoded : String.fromUTF8? text.toUTF8 = some text := by decide +kernel
  have parsed : Layer.ofText? text = some { maxConnections := some 0, prefetch := some 8 } := by
    decide +kernel
  have reads : Reads Layer.ofText file (.ok { maxConnections := some 0, prefetch := some 8 }) :=
    .holds _ decoded (by rw [Layer.ofText, parsed])
  have word : parseUnsigned? (2 ^ 32) "eight" = none := by decide
  obtain ⟨_, _, layers, _, spoilt⟩ := load_layered Layer.ofText file lookup
  obtain ⟨c, same, loads, _⟩ := layers _ reads
  have given : Layered lookup { maxConnections := some 0, prefetch := some 8 }
      { maxConnections := 5, prefetch := 8 } :=
    { bindAddress := .absent nofun rfl
      maxConnections := .overridden rfl (by decide)
      prefetch := .written (by rintro _ ⟨⟩; rw [word]; rfl) rfl
      setupTimeout := ⟨10000, rfl, .absent nofun rfl⟩ }
  obtain rfl := (same _).mp given
  have loaded := loads.mpr ⟨by decide, by decide, by decide⟩
  refine ⟨reads, ?_, .prefetch word, loaded, spoilt _ loaded⟩
  -- Without variables only the number of connections in the file counts.
  obtain ⟨_, _, layers, _, _⟩ := load_layered Layer.ofText file fun _ => none
  obtain ⟨c, same, _, refused, _⟩ := layers _ reads
  have alone : Layered (fun _ => none) { maxConnections := some 0, prefetch := some 8 }
      { maxConnections := 0, prefetch := 8 } :=
    ⟨.absent nofun rfl, .written nofun rfl, .written nofun rfl, 10000, rfl,
      .absent nofun rfl⟩
  obtain rfl := (same _).mp alone
  exact (refused _).mpr (.connections rfl)

end StreamMux.Settings
