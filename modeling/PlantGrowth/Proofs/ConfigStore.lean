import PlantGrowth.Config.Store
import PlantGrowth.Proofs.ConfigText

/-!
# The place of a configuration as a store

A caller has a configuration of its own and keeps configurations in a place that others may change
at any time.  What it saves there stays until something is put in its stead: loading and reloading
change nothing that stands there, whatever they find, and give back what was saved last.  Where
nothing stands, loading puts the standard configuration.
-/

namespace PlantGrowth

theorem Config.standard_isNumeric : Config.standard.IsNumeric := by decide +kernel

/-! ## The place -/

namespace ConfigPlace

variable {place place' : ConfigPlace} {c : Config}

/-- Whether `c` is what comes back from a place, and so nothing new to one who has it. -/
structure Holds (place : ConfigPlace) (c : Config) : Prop where
  load_eq : place.load = .ok (c, place)
  beq_self : (c == c) = true
  reload_self : place.reload c = .ok none
  reload_eq : ∀ d, place.reload d = .ok (if c == d then none else some c)

theorem holds_of_read (hc : c.IsNumeric) (htaken : place.isTaken = true)
    (hread : place.read = .ok c) : place.Holds c := by
  have hbeq : (c == c) = true := (Config.beq_self_iff c).mpr hc
  have hreload : ∀ d, place.reload d = .ok (if c == d then none else some c) := by
    intro d
    rw [reload, hread]
    rfl
  refine ⟨?_, hbeq, ?_, hreload⟩
  · rw [load, if_pos htaken, hread]
    rfl
  · rw [hreload, if_pos hbeq]

theorem write?_eq_some {contents : String} (h : place.write? contents = some place') :
    place' = text contents := by
  cases place <;> cases h <;> rfl

theorem save_eq_ok (h : place.save c = .ok place') : place' = text c.print := by
  rw [save] at h
  split at h
  next hwrite =>
    cases h
    exact write?_eq_some hwrite
  next => cases h

theorem read_text (contents : String) : (text contents).read = Config.parse contents := rfl

theorem holds_of_save (hc : c.IsNumeric) (h : place.save c = .ok place') : place'.Holds c := by
  rw [save_eq_ok h]
  exact holds_of_read hc rfl ((read_text c.print).trans (Config.parse_print hc))

theorem save_taken (h : place.save c = .ok place') : place'.isTaken = true := by
  rw [save_eq_ok h]
  rfl

/-- What is loaded from a place where something stands leaves that as it is. -/
theorem load_taken (htaken : place.isTaken = true) (h : place.load = .ok (c, place')) :
    place' = place := by
  rw [load, if_pos htaken] at h
  cases hread : place.read with
  | error e =>
      rw [hread] at h
      cases h
  | ok found =>
      rw [hread] at h
      cases h
      rfl

/-- Where nothing stands, the standard configuration is put, or nothing can be. -/
theorem load_not_taken (htaken : place.isTaken = false) :
    (∃ place', place.load = .ok (Config.standard, place') ∧
      place.save Config.standard = .ok place') ∨ place.load = .error .unwritable := by
  cases place with
  | empty => exact Or.inl ⟨_, rfl, rfl⟩
  | blocked => exact Or.inr rfl
  | _ => cases htaken

end ConfigPlace

/-! ## The caller -/

/-- A caller with a configuration of its own, and the place where configurations are kept. -/
structure Desk where
  config : Config
  place : ConfigPlace

/-- What the caller can do, and what can be done to it and to the place. -/
inductive Deed where
  | save
  | load
  | reload
  /-- The caller gets a configuration from elsewhere. -/
  | adopt (c : Config)
  /-- Others put something else in the place, or remove what stands there. -/
  | edit (place : ConfigPlace)

/-- Whether a deed only looks at the place, or not even that. -/
def Deed.IsQuiet : Deed → Prop
  | save | edit _ => False
  | load | reload | adopt _ => True

namespace Desk

/-- What the caller is told, with the configuration that it is given, and how things stand
afterwards. -/
def step (d : Desk) : Deed → Except ConfigError (Option Config) × Desk
  | .save =>
    match d.place.save d.config with
    | .ok place => (.ok none, { d with place })
    | .error e => (.error e, d)
  | .load =>
    match d.place.load with
    | .ok (config, place) => (.ok (some config), { config, place })
    | .error e => (.error e, d)
  | .reload =>
    match d.place.reload d.config with
    | .ok (some config) => (.ok (some config), { d with config })
    | .ok none => (.ok none, d)
    | .error e => (.error e, d)
  | .adopt config => (.ok none, { d with config })
  | .edit place => (.ok none, { d with place })

/-- How things stand after some deeds. -/
def after (d : Desk) (deeds : List Deed) : Desk := deeds.foldl (fun d deed => (d.step deed).2) d

variable {d : Desk} {deed : Deed}

/-- A deed that fails changes nothing. -/
theorem step_of_error {e : ConfigError} (h : (d.step deed).1 = .error e) : (d.step deed).2 = d := by
  cases deed with
  | save =>
      rw [step] at h ⊢
      split at h
      · cases h
      · rfl
  | load =>
      rw [step] at h ⊢
      split at h
      · cases h
      · rfl
  | reload =>
      rw [step] at h ⊢
      split at h
      · cases h
      · cases h
      · rfl
  | adopt c => cases h
  | edit place => cases h

/-- A quiet deed leaves what stands in the place. -/
theorem step_place (hquiet : deed.IsQuiet) (htaken : d.place.isTaken = true) :
    (d.step deed).2.place = d.place := by
  cases deed with
  | save => exact hquiet.elim
  | load =>
      rw [step]
      split
      next hload => exact ConfigPlace.load_taken htaken hload
      next => rfl
  | reload =>
      rw [step]
      split <;> rfl
  | adopt c => rfl
  | edit place => exact hquiet.elim

theorem save_of_step {answer : Option Config} {saved : Desk}
    (h : d.step .save = (.ok answer, saved)) :
    ∃ place, d.place.save d.config = .ok place ∧ saved = { d with place } := by
  rw [step] at h
  split at h
  next place hsave => exact ⟨place, hsave, (Prod.mk.inj h).2.symm⟩
  next => cases (Prod.mk.inj h).1

theorem after_place {deeds : List Deed} (hquiet : ∀ deed ∈ deeds, deed.IsQuiet)
    (htaken : d.place.isTaken = true) : (d.after deeds).place = d.place := by
  induction deeds generalizing d with
  | nil => rfl
  | cons deed deeds ih =>
      have hplace := step_place (hquiet deed List.mem_cons_self) htaken
      exact (ih (fun other hother => hquiet other (List.mem_cons_of_mem deed hother))
        (hplace ▸ htaken)).trans hplace

/-- A place that was saved to gives the saved configuration back until something is saved or put
there again.  Loading and reloading never change what stands in the place, and when they fail they
change nothing at all.  Where nothing stands, loading puts the standard configuration there and
gives it, now and later, or says that nothing can be written. -/
theorem keeps_saved (start : Desk) (history : List Deed) :
    let d := start.after history
    (∀ saved, d.config.IsNumeric → d.step .save = (.ok none, saved) →
      ∀ quiet : List Deed, (∀ deed ∈ quiet, deed.IsQuiet) →
        (saved.after quiet).place.Holds d.config) ∧
    (∀ quiet : List Deed, (∀ deed ∈ quiet, deed.IsQuiet) → d.place.isTaken = true →
      (d.after quiet).place = d.place) ∧
    (∀ deed e, (d.step deed).1 = .error e → (d.step deed).2 = d) ∧
    (d.place.isTaken = false →
      (∃ place, d.step .load = (.ok (some Config.standard), ⟨Config.standard, place⟩) ∧
        place.contents? = some Config.standard.print ∧
        ∀ quiet : List Deed, (∀ deed ∈ quiet, deed.IsQuiet) →
          (after ⟨Config.standard, place⟩ quiet).place.Holds Config.standard) ∨
      d.step .load = (.error .unwritable, d)) := by
  intro d
  refine ⟨?_, fun quiet => after_place, fun deed e => step_of_error, ?_⟩
  · intro saved hconfig hsave quiet hquiet
    obtain ⟨place, hplace, rfl⟩ := save_of_step hsave
    have hholds := ConfigPlace.holds_of_save hconfig hplace
    rwa [after_place hquiet (ConfigPlace.save_taken hplace)]
  · intro htaken
    rcases ConfigPlace.load_not_taken htaken with ⟨place, hload, hsave⟩ | hload
    · left
      have hholds := ConfigPlace.holds_of_save Config.standard_isNumeric hsave
      refine ⟨place, ?_, ?_, ?_⟩
      · rw [step, hload]
      · rw [ConfigPlace.save_eq_ok hsave]
        rfl
      · intro quiet hquiet
        rwa [after_place hquiet (ConfigPlace.save_taken hsave)]
    · right
      rw [step, hload]

theorem keeps_saved_odd :
    let c : Config :=
      { Config.standard with
        grammar := ⟨"a \"quoted\" \\ back", "F='F'\nF=\r\t\u0000\u00ad\u0301", 4294967295⟩
        turtle :=
          { Config.standard.turtle with
            angle := ⟨0x80000000⟩, variance := Binary32.infinity, seed := some 7 } }
    let d := after ⟨Config.standard, .empty⟩ [.load, .edit .garbled, .adopt c]
    let saved : Desk := ⟨c, .text c.print⟩
    d.step .save = (.ok none, saved) ∧
      (saved.after [.reload, .adopt Config.standard, .load]).place.Holds c ∧
      (d.after [.load, .reload]).place = .garbled ∧ (d.step .load).2 = d ∧
      ∃ place, (step ⟨c, .empty⟩ .load).2 = ⟨Config.standard, place⟩ ∧
        place.Holds Config.standard := by
  intro c d saved
  have hquiet : ∀ deed ∈ [Deed.reload, .adopt Config.standard, .load], deed.IsQuiet := by
    simp [Deed.IsQuiet]
  have hlook : ∀ deed ∈ [Deed.load, .reload], deed.IsQuiet := by simp [Deed.IsQuiet]
  obtain ⟨hkeep, hstay, herror, -⟩ :=
    keeps_saved ⟨Config.standard, .empty⟩ [.load, .edit .garbled, .adopt c]
  obtain ⟨-, -, -, hempty⟩ := keeps_saved ⟨c, .empty⟩ []
  have hnumeric : d.config.IsNumeric := by decide +kernel
  refine ⟨rfl, hkeep saved hnumeric rfl _ hquiet, hstay _ hlook rfl,
    herror .load .unreadable rfl, ?_⟩
  rcases hempty rfl with ⟨place, hload, -, hholds⟩ | hload
  · exact ⟨place, congrArg Prod.snd hload, hholds [] (by simp)⟩
  · cases hload

end Desk

end PlantGrowth
