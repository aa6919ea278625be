import SchemaIntents.Proofs.Context.Construction
import SchemaIntents.Proofs.Log.Setup

/-! Where the version of a context comes from. One that is given has been checked; one that the
settings give is whatever the environment says. -/
namespace SchemaIntents

open Shape

namespace Settings

/-- The version that variables give to intents that state none. -/
def versionIn (environment : Environment) : String :=
  (envValue? environment "default_oiml_version").getD "0.1.0"

/-- A value that depends on a name only is found under that name. -/
theorem find?_filterMap_name {fs : List (Field Unit)} {o : String → Option Value} {f : Field Unit}
    (hf : f ∈ fs) : Value.find? f.name (fs.filterMap fun g => (o g.name).map (g.name, ·)) =
      o f.name := by
  cases ho : o f.name with
  | none =>
    refine Value.find?_eq_none fun hkey => ?_
    obtain ⟨e, he, hname⟩ := List.mem_map.mp hkey
    obtain ⟨g, -, hg⟩ := List.mem_filterMap.mp he
    obtain ⟨v, hv, rfl⟩ := Option.map_eq_some_iff.mp hg
    simp only at hname
    rw [hname, ho] at hv
    cases hv
  | some v =>
    induction fs with
    | nil => simp at hf
    | cons g fs ih =>
      by_cases hname : g.name = f.name
      · simp [hname, ho, Value.find?]
      · have hf' : f ∈ fs := (List.mem_cons.mp hf).resolve_left fun he => hname (he ▸ rfl)
        cases hg : o g.name <;> simp [hg, Value.find?, hname, ih hf']

theorem version_of_ofSources {environment : Environment} {s : Settings}
    (h : ofSources [] environment = .ok s) : s.version = versionIn environment := by
  have hf : .defaulted "default_oiml_version" "default_oiml_version" .anyText (.str "0.1.0") ∈
    form.fields := by
    simp [form]
  have hfound : Value.find? "default_oiml_version" (form.fields.filterMap fun f =>
      (given? [] environment f.name).map (f.name, ·)) =
        (envValue? environment "default_oiml_version").map .str := find?_filterMap_name hf
  unfold ofSources at h
  cases hi : Value.check schema (.obj (form.fields.filterMap fun f =>
      (given? [] environment f.name).map (f.name, ·))) (.model ()) with
  | error is => simp [hi, Except.map] at h
  | ok i =>
    obtain rfl : ofInstance i = s := by simpa [hi, Except.map] using h
    have hout := Instance.fieldOutcome_of_checker (n := ()) (by decide) hi hf
    simp only [fieldOutcome, textKeyed, Value.findAny?_text_keys, Field.defaulted, hfound] at hout
    simp only [ofInstance, versionIn]
    cases hv : envValue? environment "default_oiml_version" with
    | some v =>
      simp only [hv, Option.map_some] at hout
      have hchecked := Checked.under_eq_ok.mp hout
      rw [checker_text] at hchecked
      obtain ⟨t, ht, -, hfield⟩ := readWith_eq_ok.mp hchecked
      obtain rfl := Except.ok.inj ht
      rw [hfield]
      rfl
    | none =>
      simp only [hv, Option.map_none] at hout
      rw [← Except.ok.inj hout]
      rfl

/-- The version of settings that are loaded is that of the variables with those of the file in
force. -/
theorem version_of_load {environment : Environment} {f : Folder} {place : List String}
    {s : Settings} {g : Folder} (h : load [] environment f place = .ok (s, g)) :
    ∃ full, environmentWith environment f place = .ok full ∧ s.version = versionIn full := by
  obtain ⟨full, hfull, hs, -⟩ := load_eq_ok.mp h
  exact ⟨full, hfull, version_of_ofSources hs⟩

end Settings

namespace Context

theorem version_of_ofArguments {settings : Except Settings.Fault Settings}
    {arguments : List (String × Value)} {c : Context} (h : ofArguments settings arguments = .ok c) :
    match Value.find? "oiml_version" arguments with
    | some _ => Pattern.version.accepts c.version = true
    | none => ∃ s, settings = .ok s ∧ c.version = s.version := by
  obtain ⟨s, known, options, i, -, hi, rfl, hsettings⟩ := ofArguments_eq_ok h
  have hf : .defaulted "oiml_version" "oiml_version" (.formed .version) (.str s.version) ∈
      (schema s .context).fields := by
    simp [schema]
  have hout := Instance.fieldOutcome_of_checker (names_nodup s .context) hi hf
  have hgiven : Value.find? "oiml_version" (Value.put "options" options
      (Value.put "existing_entities" known arguments)) = Value.find? "oiml_version" arguments := by
    rw [Value.find?_put_of_ne (by decide), Value.find?_put_of_ne (by decide)]
  simp only [fieldOutcome, textKeyed, Value.findAny?_text_keys, Field.defaulted, hgiven] at hout
  cases hv : Value.find? "oiml_version" arguments with
  | some v =>
    simp only [hv] at hout ⊢
    have hchecked := Checked.under_eq_ok.mp hout
    rw [checker_text] at hchecked
    obtain ⟨t, -, haccepted, hfield⟩ := readWith_eq_ok.mp hchecked
    have haccepts : Pattern.version.accepts t = true := (textFault?_formed.mp haccepted).2
    simp only [ofInstance, hfield]
    exact haccepts
  | none =>
    simp only [hv] at hout ⊢
    refine ⟨s, hsettings hv, ?_⟩
    simp only [ofInstance, ← Except.ok.inj hout]
    rfl

end Context
end SchemaIntents
