import PlantGrowth.Session.Run
import PlantGrowth.Proofs.PlainText

/-!
# When a session grows a plant

A session comes to a plant by three steps that can fail: the configuration is loaded, the flags are
set in it, and its colours are read.  The first never stops it, since the standard configuration
takes the place of one that cannot be loaded.  A preset brings colours that can be read, and no
flag sets a colour by itself.  So it is the preset alone that decides if one is named, and the
colours of the file if none is.
-/

namespace PlantGrowth

/-! ## Names of presets -/

namespace Preset

/-- The text is the name of the preset, with blanks around it and letters of either case. -/
def Named (p : Preset) (text : String) : Prop :=
  ∃ before name after, text.toList = before ++ name ++ after ∧
    (∀ c ∈ before, Text.isBlank c = true) ∧ (∀ c ∈ after, Text.isBlank c = true) ∧
      name.map Char.toLower = p.name.toList.map Char.toLower

theorem key_not_blank : ∀ p ∈ all, ∀ c ∈ key p.name, Text.isBlank c = false := by
  have hall : (all.all fun p => (key p.name).all fun c => !Text.isBlank c) = true := by
    decide +kernel
  intro p hp c hc
  have hkey := List.all_eq_true.mp hall p hp
  exact (Bool.not_eq_true' _).mp (List.all_eq_true.mp hkey c hc)

theorem named_iff {p : Preset} (hp : p ∈ all) {text : String} :
    p.Named text ↔ (Text.trim text.toList).map Char.toLower = key p.name := by
  constructor
  · rintro ⟨before, name, after, htext, hbefore, hafter, hname⟩
    have hplain : ∀ c ∈ name, Text.isBlank c = false := by
      intro c hc
      by_contra hblank
      rw [Bool.not_eq_false] at hblank
      have hmem : c.toLower ∈ key p.name := by
        rw [key, ← hname]
        exact List.mem_map_of_mem hc
      rw [Text.toLower_of_isBlank hblank] at hmem
      exact absurd (key_not_blank p hp c hmem) (by simp [hblank])
    rw [htext, Text.trim_append_of_plain hbefore hplain hafter]
    exact hname
  · intro hname
    obtain ⟨before, after, htext, hbefore, hafter⟩ := (Text.trimsTo_trim text.toList).split
    exact ⟨before, _, after, htext, hbefore, hafter, hname⟩

theorem mem_of_find? {p : Preset} {text : String} (h : find? text = some p) : p ∈ all := by
  rw [find?] at h
  exact List.mem_of_find?_eq_some h

theorem find?_isSome_iff {text : String} :
    (find? text).isSome = true ↔ ∃ p ∈ all, p.Named text := by
  rw [find?, List.find?_isSome]
  constructor
  · rintro ⟨p, hp, hkey⟩
    exact ⟨p, hp, (named_iff hp).mpr (beq_iff_eq.mp hkey).symm⟩
  · rintro ⟨p, hp, hnamed⟩
    exact ⟨p, hp, beq_iff_eq.mpr ((named_iff hp).mp hnamed).symm⟩

end Preset

/-! ## Colours -/

namespace Config

/-- The texts of the colours in the order in which they are read. -/
def colorTexts (c : Config) : List String :=
  [c.render.baseColor, c.render.tipColor, c.render.leafColor]

/-- The first text that is no colour. -/
def badColor? (c : Config) : Option String :=
  c.colorTexts.find? fun text => (Color.ofText? text : Option (Vec3 Float32)).isNone

variable {c : Config}

theorem badColor?_eq_none_iff :
    c.badColor? = none ↔
      ∀ text ∈ c.colorTexts, (Color.ofText? text : Option (Vec3 Float32)).isSome = true := by
  simp [badColor?, Option.isSome_iff_ne_none]

/-- A configuration makes a request, or the first text that is no colour is reported. -/
theorem request_cases (c : Config) :
    (∃ r, c.request = .ok r) ∧ c.badColor? = none ∨
      ∃ text, c.request = .error (.invalidColor text) ∧ c.badColor? = some text := by
  unfold request palette
  cases hbase : (Color.ofText? c.render.baseColor : Option (Vec3 Float32)) with
  | none =>
      refine Or.inr ⟨c.render.baseColor, ?_, by simp [badColor?, colorTexts, hbase]⟩
      rw [color_eq_error_iff.mpr ⟨hbase, rfl⟩]
      rfl
  | some base =>
      rw [color_eq_ok_iff.mpr hbase]
      cases htip : (Color.ofText? c.render.tipColor : Option (Vec3 Float32)) with
      | none =>
          refine Or.inr ⟨c.render.tipColor, ?_, by simp [badColor?, colorTexts, hbase, htip]⟩
          rw [color_eq_error_iff.mpr ⟨htip, rfl⟩]
          rfl
      | some tip =>
          rw [color_eq_ok_iff.mpr htip]
          cases hleaf : (Color.ofText? c.render.leafColor : Option (Vec3 Float32)) with
          | none =>
              refine Or.inr ⟨c.render.leafColor, ?_,
                by simp [badColor?, colorTexts, hbase, htip, hleaf]⟩
              rw [color_eq_error_iff.mpr ⟨hleaf, rfl⟩]
              rfl
          | some leaf =>
              rw [color_eq_ok_iff.mpr hleaf]
              exact Or.inl ⟨⟨_, rfl⟩, by simp [badColor?, colorTexts, hbase, htip, hleaf]⟩

theorem exists_request_iff : (∃ r, c.request = .ok r) ↔ c.badColor? = none := by
  rcases c.request_cases with ⟨hok, hnone⟩ | ⟨text, herror, hsome⟩
  · simp [hok, hnone]
  · simp [herror, hsome]

theorem request_eq_error_iff {e : ConfigError} :
    c.request = .error e ↔ ∃ text, c.badColor? = some text ∧ e = .invalidColor text := by
  rcases c.request_cases with ⟨⟨r, hok⟩, hnone⟩ | ⟨text, herror, hsome⟩
  · simp [hok, hnone]
  · simp [herror, hsome, eq_comm]

end Config

theorem Preset.colorTexts_accepted : ∀ p ∈ all, ∀ text ∈ [p.baseColor, p.tipColor, p.leafColor],
    (Color.channels? text).isSome = true := by
  decide +kernel

/-- A preset brings its own colours, which can be read. -/
theorem Preset.badColor?_applyTo {p : Preset} (hp : p ∈ all) (c : Config) :
    (p.applyTo c).badColor? = none := by
  rw [Config.badColor?_eq_none_iff]
  intro text htext
  rw [Color.ofText?, Option.isSome_map]
  exact Preset.colorTexts_accepted p hp text htext

theorem Config.badColor?_standard : standard.badColor? = none :=
  Preset.badColor?_applyTo List.mem_cons_self _

theorem Flags.badColor?_overlay (f : Flags) (c : Config) : (f.overlay c).badColor? = c.badColor? :=
  rfl

/-! ## Sessions -/

namespace Session

variable {flags : Flags} {place : ConfigPlace}

theorem config_of_none (hpreset : flags.preset = none) (place : ConfigPlace) :
    config flags place = .ok (flags.overlay place.opening.config) := by
  simp only [config, Flags.applyTo, hpreset]
  rfl

theorem config_of_known {name : String} {p : Preset} (hpreset : flags.preset = some name)
    (hfind : Preset.find? name = some p) :
    config flags place = .ok (flags.overlay (p.applyTo place.opening.config)) := by
  simp only [config, Flags.applyTo, hpreset, Config.withPreset, hfind]
  rfl

theorem config_of_unknown {name : String} (hpreset : flags.preset = some name)
    (hfind : Preset.find? name = none) : config flags place = .error (.unknownPreset name) := by
  simp only [config, Flags.applyTo, hpreset, Config.withPreset, hfind]
  rfl

/-- The flags name a preset that there is, or they name none and the colours of the configuration
can be read. -/
def Describes (flags : Flags) (c : Config) : Prop :=
  (∃ name, flags.preset = some name ∧ ∃ p ∈ Preset.all, p.Named name) ∨
    flags.preset = none ∧
      ∀ text ∈ c.colorTexts, (Color.ofText? text : Option (Vec3 Float32)).isSome = true

/-- Either a whole configuration with colours that can be read comes of flags and place, or there
is none with such colours. -/
theorem config_cases (flags : Flags) (place : ConfigPlace) :
    Describes flags place.opening.config ∧
        (∃ c, config flags place = .ok c ∧ c.badColor? = none) ∨
      ¬Describes flags place.opening.config ∧
        ∀ c, config flags place = .ok c → c.badColor? ≠ none := by
  cases hpreset : flags.preset with
  | none =>
      have hconfig := config_of_none hpreset place
      have hdescribes : Describes flags place.opening.config ↔
          (flags.overlay place.opening.config).badColor? = none := by
        rw [Flags.badColor?_overlay, Config.badColor?_eq_none_iff]
        simp [Describes, hpreset]
      rw [hdescribes, hconfig]
      by_cases hbad : (flags.overlay place.opening.config).badColor? = none
      · exact Or.inl ⟨hbad, _, rfl, hbad⟩
      · refine Or.inr ⟨hbad, ?_⟩
        rintro c ⟨⟩
        exact hbad
  | some name =>
      have hdescribes : Describes flags place.opening.config ↔
          (Preset.find? name).isSome = true := by
        rw [Preset.find?_isSome_iff]
        simp [Describes, hpreset]
      rw [hdescribes]
      cases hfind : Preset.find? name with
      | none =>
          rw [config_of_unknown hpreset hfind]
          exact Or.inr ⟨by simp, fun c hc => by simp at hc⟩
      | some p =>
          rw [config_of_known hpreset hfind]
          refine Or.inl ⟨rfl, _, rfl, ?_⟩
          exact Preset.badColor?_applyTo (Preset.mem_of_find? hfind) place.opening.config

theorem request_of_config {c : Config} (h : config flags place = .ok c) :
    request flags place = c.request := by
  rw [request, h]
  rfl

theorem exists_request_of_describes (h : Describes flags place.opening.config) :
    ∃ c r, config flags place = .ok c ∧ c.request = .ok r ∧ request flags place = .ok r := by
  rcases config_cases flags place with ⟨_, c, hconfig, hbad⟩ | ⟨hnot, _⟩
  · obtain ⟨r, hr⟩ := Config.exists_request_iff.mpr hbad
    exact ⟨c, r, hconfig, hr, (request_of_config hconfig).trans hr⟩
  · exact absurd h hnot

theorem request_ne_ok_of_not_describes (h : ¬Describes flags place.opening.config)
    (r : Request Float32) : request flags place ≠ .ok r := by
  rcases config_cases flags place with ⟨hdescribes, _⟩ | ⟨_, hbad⟩
  · exact absurd hdescribes h
  · cases hconfig : config flags place with
    | error e =>
        rw [request, hconfig]
        exact fun hr => nomatch hr
    | ok c =>
        rw [request_of_config hconfig]
        exact fun hr => hbad c hconfig (Config.exists_request_iff.mp ⟨r, hr⟩)

theorem runWith_of_error {s : Setting} {e : ConfigError} (h : config flags s.place = .error e) :
    (runWith flags s).exitCode = 2 ∧ (runWith flags s).log = [] := by
  simp only [runWith, h, and_self]

theorem runWith_of_ok {s : Setting} {c : Config} (h : config flags s.place = .ok c) :
    (runWith flags s).exitCode = (work c s.freshSeed).2 ∧
      (runWith flags s).log =
        (work c s.freshSeed).1.filter (LogFilter.choose s.filter (some c)).shows := by
  simp only [runWith, h, and_self]

/-- A session that comes to no plant ends with exit code 2, and its log goes no further than the
rules and the refusal. -/
theorem runWith_of_not_describes {s : Setting} (h : ¬Describes flags s.place.opening.config) :
    (runWith flags s).exitCode = 2 ∧
      ∀ line ∈ (runWith flags s).log, ∃ c, config flags s.place = .ok c ∧
        (line ∈ Report.rules c.grammar.rules ∨ ∃ e, line = Report.refusal e) := by
  cases hconfig : config flags s.place with
  | error e =>
      obtain ⟨hexit, hlog⟩ := runWith_of_error hconfig
      rw [hlog]
      exact ⟨hexit, fun _ hline => nomatch hline⟩
  | ok c =>
      obtain ⟨e, he⟩ : ∃ e, c.request = .error e := by
        cases hrequest : c.request with
        | error e => exact ⟨e, rfl⟩
        | ok r =>
            have hr := (request_of_config hconfig).trans hrequest
            exact absurd hr (request_ne_ok_of_not_describes h r)
      obtain ⟨hexit, hlog⟩ := runWith_of_ok hconfig
      simp only [work, he] at hexit hlog
      refine ⟨hexit, ?_⟩
      intro line hline
      rw [hlog] at hline
      have hmem := (List.mem_filter.mp hline).1
      rw [List.mem_append, List.mem_singleton] at hmem
      exact ⟨c, rfl, hmem.imp_right fun heq => ⟨e, heq⟩⟩

theorem runWith_of_request {s : Setting} {c : Config} {r : Request Float32}
    (hconfig : config flags s.place = .ok c) (hr : c.request = .ok r) :
    (runWith flags s).exitCode = 0 ∧
      (runWith flags s).log =
        (Report.rules c.grammar.rules ++ growth c r s.freshSeed).filter
          (LogFilter.choose s.filter (some c)).shows := by
  obtain ⟨hexit, hlog⟩ := runWith_of_ok hconfig
  simp only [work, hr] at hexit hlog
  exact ⟨hexit, hlog⟩

/-- A session comes to a plant exactly when its flags name a preset that there is, or name none and
the colours of the configuration that it has opened can be read.  Otherwise it ends with exit code
2 before anything is grown. -/
theorem grows_iff :
    (∀ (flags : Flags) (s : Setting),
      ((∃ r, request flags s.place = .ok r) ↔ Describes flags s.place.opening.config) ∧
      (Describes flags s.place.opening.config →
        ∃ c r, config flags s.place = .ok c ∧ c.request = .ok r ∧
          (runWith flags s).exitCode = 0 ∧
          (runWith flags s).log =
            (Report.rules c.grammar.rules ++ growth c r s.freshSeed).filter
              (LogFilter.choose s.filter (some c)).shows) ∧
      (¬Describes flags s.place.opening.config →
        (runWith flags s).exitCode = 2 ∧
          ∀ line ∈ (runWith flags s).log, ∃ c, config flags s.place = .ok c ∧
            (line ∈ Report.rules c.grammar.rules ∨ ∃ e, line = Report.refusal e)) ∧
      (∀ name, flags.preset = some name → (∃ p ∈ Preset.all, p.Named name) →
        ∃ r, request flags s.place = .ok r) ∧
      ∀ e, s.place.load = .error e →
        (∀ name, flags.preset = some name → ∃ p ∈ Preset.all, p.Named name) →
          ∃ r, request flags s.place = .ok r) ∧
      ∀ (c : Config) (e : ConfigError), c.request = .error e ↔
        ∃ text, c.badColor? = some text ∧ e = .invalidColor text := by
  refine ⟨?_, fun c e => Config.request_eq_error_iff⟩
  intro flags s
  have hgrows : Describes flags s.place.opening.config → ∃ r, request flags s.place = .ok r := by
    intro h
    obtain ⟨c, r, _, _, hr⟩ := exists_request_of_describes h
    exact ⟨r, hr⟩
  refine ⟨⟨?_, hgrows⟩, ?_, runWith_of_not_describes, ?_, ?_⟩
  · rintro ⟨r, hr⟩
    by_contra hnot
    exact request_ne_ok_of_not_describes hnot r hr
  · intro h
    obtain ⟨c, r, hconfig, hr, _⟩ := exists_request_of_describes h
    exact ⟨c, r, hconfig, hr, runWith_of_request hconfig hr⟩
  · intro name hpreset hknown
    exact hgrows (Or.inl ⟨name, hpreset, hknown⟩)
  · intro e hload hknown
    apply hgrows
    have hopening : s.place.opening.config = Config.standard := by
      rw [ConfigPlace.opening, hload]
    cases hpreset : flags.preset with
    | some name => exact Or.inl ⟨name, hpreset, hknown name hpreset⟩
    | none =>
        rw [hopening]
        exact Or.inr ⟨hpreset, Config.badColor?_eq_none_iff.mp Config.badColor?_standard⟩

theorem grows_iff_pine :
    let flags : Flags := { preset := some " Pine\t" }
    let s : Setting := ⟨[], .garbled, none, 7⟩
    let painted : Config :=
      { Config.standard with
        render := { Config.standard.render with tipColor := "green", leafColor := "red" } }
    (∃ p ∈ Preset.all, p.Named " Pine\t") ∧ s.place.load = .error .unreadable ∧
      (∃ r, request flags s.place = .ok r) ∧ (runWith flags s).exitCode = 0 ∧
        painted.request = .error (.invalidColor "green") := by
  intro flags s painted
  have hknown : ∃ p ∈ Preset.all, p.Named " Pine\t" := by
    have hmem : Preset.pine ∈ Preset.all := by simp [Preset.all]
    exact ⟨Preset.pine, hmem, (Preset.named_iff hmem).mpr (by decide +kernel)⟩
  have hload : s.place.load = .error .unreadable := rfl
  have hbad : painted.badColor? = some "green" := by
    simp only [Config.badColor?, Color.ofText?, Option.isNone_map]
    decide +kernel
  obtain ⟨hsession, hrefused⟩ := grows_iff
  obtain ⟨_, hgrown, _, hpreset, _⟩ := hsession flags s
  obtain ⟨_, _, _, _, hexit, _⟩ := hgrown (Or.inl ⟨_, rfl, hknown⟩)
  exact ⟨hknown, hload, hpreset _ rfl hknown, hexit, (hrefused _ _).mpr ⟨_, hbad, rfl⟩⟩

end Session

end PlantGrowth
