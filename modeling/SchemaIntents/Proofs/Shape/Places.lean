import SchemaIntents.Proofs.Shape.Alteration
import SchemaIntents.Proofs.Shape.Rereading

/-! Places in a value. Along the steps of a place checking goes from the shape of the whole to the
shape of what lies there, and what that comes to decides what the whole comes to. -/
namespace SchemaIntents

namespace Value

/-- What lies at a place of a value. -/
def at? : Value → Location → Option Value
  | v, [] => some v
  | .obj es, .key k :: place => (find? k es).bind (·.at? place)
  | .list vs, .index (.ofNat i) :: place => vs[i]?.bind (·.at? place)
  | _, _ :: _ => none

/-- The value with another one at a place. -/
def replace : Value → Location → Value → Value
  | _, [], u => u
  | .obj es, .key k :: place, u =>
    match find? k es with
    | some v => .obj (put k (v.replace place u) es)
    | none => .obj es
  | .list vs, .index (.ofNat i) :: place, u => .list (vs.modify i (·.replace place u))
  | v, _ :: _, _ => v

theorem replace_key {k : String} {es : List (String × Value)} {v : Value} (h : find? k es = some v)
    (place : Location) (u : Value) :
    (Value.obj es).replace (.key k :: place) u = .obj (put k (v.replace place u) es) := by
  rw [replace, h]

theorem replace_index {i : Nat} (vs : List Value) (place : Location) (u : Value) :
    (Value.list vs).replace (.index i :: place) u = .list (vs.modify i (·.replace place u)) := rfl

theorem at?_key {k : String} {es : List (String × Value)} {u : Value} {place : Location}
    (h : (Value.obj es).at? (.key k :: place) = some u) :
    ∃ v, find? k es = some v ∧ v.at? place = some u := by
  simpa [at?, Option.bind_eq_some_iff] using h

theorem at?_index {p : Int} {vs : List Value} {u : Value} {place : Location}
    (h : (Value.list vs).at? (.index p :: place) = some u) :
    ∃ (i : Nat) (v : Value), p = i ∧ vs[i]? = some v ∧ v.at? place = some u := by
  cases p with
  | ofNat i => exact ⟨i, by simpa [at?, Option.bind_eq_some_iff] using h⟩
  | negSucc i => simp [at?] at h

theorem of_at?_key {k : String} {v u : Value} {place : Location}
    (h : v.at? (.key k :: place) = some u) :
    ∃ es w, v = .obj es ∧ find? k es = some w ∧ w.at? place = some u := by
  cases v with
  | obj es =>
    obtain ⟨w, hw, hu⟩ := at?_key h
    exact ⟨es, w, rfl, hw, hu⟩
  | _ => simp [at?] at h

theorem of_at?_index {n : Nat} {v u : Value} {place : Location}
    (h : v.at? (.index n :: place) = some u) :
    ∃ vs w, v = .list vs ∧ vs[n]? = some w ∧ w.at? place = some u := by
  cases v with
  | list vs =>
    obtain ⟨i, w, hi, hw, hu⟩ := at?_index h
    obtain rfl := Int.ofNat.inj hi
    exact ⟨vs, w, rfl, hw, hu⟩
  | _ => simp [at?] at h

end Value

variable {ν : Type} {schema : Schema ν}

/-- Going from a value that is read as a shape along the steps of a place, one comes to a value that
is read as another shape. Issues with it lie at a location that has the tags on the way between the
steps. -/
inductive Leads (schema : Schema ν) :
    Shape ν → Value → Location → Shape ν → Value → Location → Prop
  | here (s : Shape ν) (v : Value) : Leads schema s v [] s v []
  | some {s t : Shape ν} {v u : Value} {place loc : Location} :
      Leads schema s v place t u loc → Leads schema (.optional s) v place t u loc
  | item {least i : Nat} {s t : Shape ν} {vs : List Value} {v u : Value} {place loc : Location} :
      vs[i]? = Option.some v → Leads schema s v place t u loc →
      Leads schema (.list least s) (.list vs) (.index i :: place) t u (.index i :: loc)
  | entry {k : String} {s t : Shape ν} {es : List (String × Value)} {v u : Value}
      {place loc : Location} :
      Value.find? k es = Option.some v → Leads schema s v place t u loc →
      Leads schema (.table s) (.obj es) (.key k :: place) t u (.key (Text.mended k) :: loc)
  | field {k : String} {n : ν} {f : Field ν} {t : Shape ν}
      {es : List (String × Value)} {v u : Value} {place loc : Location} :
      f ∈ (schema n).fields → k = f.wire ∨ k = f.name ∧ Value.find? f.wire es = none →
      Value.find? k es = Option.some v → Leads schema f.shape v place t u loc →
      Leads schema (.model n) (.obj es) (.key k :: place) t u (.key k :: loc)
  | chosen {tag c : String} {choices : List (String × ν)} {n : ν} {t : Shape ν}
      {es : List (String × Value)} {u : Value} {place loc : Location} :
      Value.find? tag es = Option.some (.str c) →
        Shape.choice? (.str c) choices = Option.some (c, n) →
      Leads schema (.model n) (.obj es) place t u loc →
      Leads schema (.tagged tag choices) (.obj es) place t u (.key c :: loc)

theorem Leads.at? {s t : Shape ν} {v u : Value} {place loc : Location}
    (h : Leads schema s v place t u loc) : v.at? place = Option.some u := by
  induction h with
  | here s v => cases v <;> rfl
  | some _ ih => exact ih
  | item hv _ ih => simpa [Value.at?, hv] using ih
  | entry hv _ ih => simpa [Value.at?, hv] using ih
  | field _ _ hv _ ih => simpa [Value.at?, hv] using ih
  | chosen _ _ _ ih => exact ih

/-- An issue seen from the start of a location. -/
def Issue.inside (loc : Location) (i : Issue) : Issue :=
  { i with location := loc ++ i.location }

/-- What a part comes to decides what the whole comes to: if it is one instance, the whole is one
too, and the issues of the part are all there are. -/
structure Carries (part whole : Checked ν) (loc : Location) (j i : Instance ν) : Prop where
  ok : part = .ok j → whole = .ok i
  error : ∀ issues, part = .error issues → whole = .error (issues.map (·.inside loc))

namespace Carries

variable {part whole : Checked ν} {loc : Location} {i j : Instance ν}

theorem refl (part : Checked ν) (i : Instance ν) : Carries part part [] i i where
  ok h := h
  error issues h := by simpa [Issue.inside] using h

theorem under (h : Carries part whole loc j i) (step : Step) :
    Carries part (whole.under step) (step :: loc) j i where
  ok hp := by rw [h.ok hp, Checked.under_ok]
  error issues hp := by simp [h.error issues hp, Issue.inside, Issue.under]

/-- One of several outcomes decides what is made of all of them. -/
theorem collect {make : List (Instance ν) → Checked ν} {before after : List (Checked ν)}
    {old : Checked ν} (hall : (Checked.collect (before ++ old :: after)).bind make = .ok i) :
    ∃ k, old = .ok k ∧ ∀ {part new loc j}, Carries part new loc j k →
      Carries part ((Checked.collect (before ++ new :: after)).bind make) loc j i := by
  induction before generalizing make with
  | nil =>
    simp only [List.nil_append, Checked.collect] at hall ⊢
    cases old with
    | error here => cases hc : Checked.collect after <;> simp [hc, Except.bind] at hall
    | ok k =>
      cases hc : Checked.collect after with
      | error later => simp [hc, Except.bind] at hall
      | ok later =>
        rw [hc] at hall
        refine ⟨k, rfl, fun h => ⟨fun hp => ?_, fun issues hp => ?_⟩⟩
        · rw [h.ok hp, hall]
        · rw [h.error issues hp]
          rfl
  | cons c before ih =>
    cases c with
    | error here =>
      simp only [List.cons_append, Checked.collect] at hall
      cases hc : Checked.collect (before ++ old :: after) <;> simp [hc, Except.bind] at hall
    | ok first =>
      have step (new : Checked ν) : (Checked.collect ((.ok first :: before) ++ new :: after)).bind
          make = (Checked.collect (before ++ new :: after)).bind fun is => make (first :: is) := by
        simp only [List.cons_append, Checked.collect]
        cases Checked.collect (before ++ new :: after) <;> rfl
      simp only [step] at hall ⊢
      exact ih hall

end Carries

namespace Shape

open Checked Value

variable {i : Instance ν} {l : Nat} {s : Shape ν}

/-- One item decides what a list comes to. -/
theorem carries_item {least n : Nat} {vs : List Value} {v : Value} (hv : vs[n]? = some v)
    (hi : (Value.list vs).checker schema l (.list least s) = .ok i) :
    ∃ k, v.checker schema l s = .ok k ∧ ∀ {part f loc j},
      Carries part ((f v).checker schema l s) loc j k →
      Carries part ((Value.list (vs.modify n f)).checker schema l (.list least s))
        (.index n :: loc) j i := by
  obtain ⟨hn, hget⟩ := List.getElem?_eq_some_iff.mp hv
  have hlen : (vs.take n).length = n := List.length_take_of_le (Nat.le_of_lt hn)
  have split (f : Value → Value) :
      (Value.list (vs.modify n f)).checker schema l (.list least s) =
        (collect (((vs.take n).zipIdx.map fun w => (w.1.checker schema l s).under (.index w.2)) ++
          ((f v).checker schema l s).under (.index n) ::
            ((vs.drop (n + 1)).zipIdx (n + 1)).map fun w =>
              (w.1.checker schema l s).under (.index w.2))).bind fun is =>
          if is.length < least then fail (.tooFewItems least is.length) else .ok (.list is) := by
    rw [checker_list_list, checkList, checkItems_eq, List.modify_eq_take_cons_drop hn, hget,
      List.zipIdx_append, List.zipIdx_cons, List.map_append, List.map_cons, Nat.zero_add, hlen]
    cases collect _ <;> rfl
  rw [← List.modify_id n vs, split] at hi
  obtain ⟨k, hk, hnew⟩ := Carries.collect hi
  exact ⟨k, under_eq_ok.mp hk, fun h => split _ ▸ hnew (h.under _)⟩

/-- One entry decides what a table comes to. -/
theorem carries_entry {es : List (String × Value)} {k : String} {v : Value}
    (hv : find? k es = some v) (hi : (Value.obj es).checker schema l (.table s) = .ok i) :
    ∃ m, v.checker schema l s = .ok m ∧ ∀ {part v' loc j},
      Carries part (v'.checker schema l s) loc j m →
      Carries part ((Value.obj (put k v' es)).checker schema l (.table s))
        (.key (Text.mended k) :: loc) j i := by
  obtain ⟨before, after, hes, hput⟩ := put_of_find? hv
  have split (v : Value) : (Value.obj (before ++ (k, v) :: after)).checker schema l (.table s) =
      (collect ((textKeyed before).map (entryOutcome schema l s) ++
        (v.checker schema l s).under (.key (Text.mended k)) ::
          (textKeyed after).map (entryOutcome schema l s))).bind fun is =>
        .ok (.table ((before.map (·.1) ++ k :: after.map (·.1)).zip is)) := by
    have keys (es : List (String × Value)) :
        ((textKeyed es).map fun e => (e.1, e.2.checker schema)).map (fun e => keyText e.1) =
          es.map (·.1) := by
      simp [textKeyed, Function.comp_def, keyText, Scalar.readText]
    have here : entryOutcome schema l s (.str k, v) =
        (v.checker schema l s).under (.key (Text.mended k)) := rfl
    rw [checker_obj_table, checkTable, checkEntries_eq, keys]
    simp only [textKeyed, List.map_append, List.map_cons, here]
    cases collect _ <;> rfl
  rw [hes, split] at hi
  obtain ⟨m, hm, hnew⟩ := Carries.collect hi
  refine ⟨m, under_eq_ok.mp hm, fun h => ?_⟩
  rw [hput, split]
  exact hnew (h.under _)

/-- A field that a mapping spells in one way comes to the entry there. -/
theorem fieldOutcome_of_spelled {f : Field ν} {k : String} {es : List (String × Value)} {v : Value}
    (hk : k = f.wire ∨ k = f.name ∧ find? f.wire es = none) (hv : find? k es = some v) :
    fieldOutcome schema l (textKeyed es) f =
      (v.checker schema (l - f.level) f.shape).under (.key k) := by
  rcases hk with rfl | ⟨rfl, hwire⟩
  · exact fieldOutcome_of_find? hv
  · simp only [fieldOutcome, textKeyed, findAny?_text_keys, hwire, hv]

/-- A field stays spelled as it is when its entry is written anew. -/
theorem spelled_put {f : Field ν} {k : String} {es : List (String × Value)} {v v' : Value}
    (hk : k = f.wire ∨ k = f.name ∧ find? f.wire es = none) (hv : find? k es = some v) :
    k = f.wire ∨ k = f.name ∧ find? f.wire (put k v' es) = none := by
  refine hk.imp_right fun ⟨hname, hwire⟩ => ⟨hname, ?_⟩
  rw [find?_put_of_ne (fun h => by simp [h, hv] at hwire), hwire]

/-- The two spellings of a field are those of no other. -/
theorem spellings_ne (hs : schema.Faithful) (hnames : ∀ n, ((schema n).fields.map (·.name)).Nodup)
    {n : ν}
    {f g : Field ν} (hf : f ∈ (schema n).fields) (hg : g ∈ (schema n).fields)
      (hne : g.wire ≠ f.wire)
    {k : String} (hk : k = f.wire ∨ k = f.name) : g.wire ≠ k ∧ g.name ≠ k := by
  rcases hk with rfl | rfl
  · exact ⟨hne, fun h => hne (hs.names n g hg f hf h.symm).symm⟩
  · refine ⟨fun h => hne (hs.names n f hf g hg h), fun h => hne ?_⟩
    rw [List.inj_on_of_nodup_map (hnames n) hg hf h]

/-- What is made of the values of a mapping's fields: an instance, if no rule is against it. -/
def ruled (schema : Schema ν) (n : ν) (es : List (String × Value)) (values : List (Instance ν)) :
    Checked ν :=
  match (schema n).rule.bind (ruleFault? schema · (instanceOf schema n (textKeyed es) values)) with
  | some fault => fail (.invalid fault)
  | none => .ok (instanceOf schema n (textKeyed es) values)

theorem ruled_congr {n : ν} {es es' : List (String × Value)} (h : es.map (·.1) = es'.map (·.1)) :
    ruled schema n es = ruled schema n es' := by
  funext values
  simp only [ruled, instanceOf, spellings_congr h]

/-- Without strangers the fields of a mapping are all that counts. -/
theorem checker_of_strangers_eq_nil {n : ν} {es : List (String × Value)}
    (hlevel : (schema n).level ≤ l)
    (h : strangers schema n (textKeyed es) = []) : (Value.obj es).checker schema l (.model n) =
      (collect ((schema n).fields.map
        (fieldOutcome schema (l - (schema n).level) (textKeyed es)))).bind (ruled schema n es) := by
  rw [checker_obj_model, checkModel, if_neg (Nat.not_lt.mpr hlevel),
    checkFields_eq (isTornRecord_of_strangers_eq_nil h), h]
  cases collect _ with
  | ok values => rfl
  | error issues => simp [Except.bind]

/-- One field decides what a model comes to. -/
theorem carries_field (hs : schema.Faithful) (hnames : ∀ n, ((schema n).fields.map (·.name)).Nodup)
    {n : ν} {f : Field ν} {k : String} {es : List (String × Value)} {v : Value}
    (hf : f ∈ (schema n).fields) (hk : k = f.wire ∨ k = f.name ∧ find? f.wire es = none)
    (hv : find? k es = some v) (hi : (Value.obj es).checker schema l (.model n) = .ok i) :
    ∃ m, v.checker schema (l - (schema n).level - f.level) f.shape = .ok m ∧
      ∀ {part v' loc j}, Carries part (v'.checker schema (l - (schema n).level - f.level) f.shape)
        loc j m →
        Carries part ((Value.obj (put k v' es)).checker schema l (.model n))
          (.key k :: loc) j i := by
  obtain ⟨hlevel, hfits⟩ := checkModel_eq_ok.mp (checker_obj_model l n es ▸ hi)
  obtain ⟨-, -, hnone, -, -⟩ := checkFields_eq_ok.mp hfits
  obtain ⟨before, after, hfields⟩ := List.append_of_mem hf
  have hwires := hs.wires n
  rw [hfields, List.map_append, List.map_cons, List.nodup_middle, List.nodup_cons,
    ← List.map_append] at hwires
  have split {es' : List (String × Value)} {v' : Value} (hkeys : es'.map (·.1) = es.map (·.1))
      (hk' : k = f.wire ∨ k = f.name ∧ find? f.wire es' = none) (hv' : find? k es' = some v')
      (hsame : ∀ key ≠ k, find? key es' = find? key es) :
      (Value.obj es').checker schema l (.model n) =
        (collect (before.map (fieldOutcome schema (l - (schema n).level) (textKeyed es)) ++
          (v'.checker schema (l - (schema n).level - f.level) f.shape).under (.key k) ::
            after.map (fieldOutcome schema (l - (schema n).level) (textKeyed es)))).bind
              (ruled schema n es) := by
    have others (gs : List (Field ν)) (hgs : ∀ g ∈ gs, g ∈ before ++ after) :
        gs.map (fieldOutcome schema (l - (schema n).level) (textKeyed es')) =
          gs.map (fieldOutcome schema (l - (schema n).level) (textKeyed es)) := by
      refine List.map_congr_left fun g hg => ?_
      have hgm : g ∈ (schema n).fields := by
        rw [hfields]
        exact List.perm_middle.mem_iff.mpr (List.mem_cons_of_mem f (hgs g hg))
      have hgne : g.wire ≠ f.wire := fun h => hwires.1 (h ▸ List.mem_map_of_mem (hgs g hg))
      obtain ⟨hwire, hname⟩ := spellings_ne hs hnames hf hgm hgne (hk'.imp_right And.left)
      exact fieldOutcome_congr (hsame _ hwire) (hsame _ hname)
    rw [checker_of_strangers_eq_nil hlevel ((strangers_congr hkeys).trans hnone), ruled_congr hkeys,
      hfields, List.map_append, List.map_cons, fieldOutcome_of_spelled hk' hv',
      others before fun g => List.mem_append_left after,
      others after fun g => List.mem_append_right before]
  rw [split rfl hk hv fun _ _ => rfl] at hi
  obtain ⟨m, hm, hnew⟩ := Carries.collect hi
  refine ⟨m, under_eq_ok.mp hm, fun {_ v' _ _} h => ?_⟩
  have hthere : k ∈ es.map (·.1) := List.mem_map_of_mem (mem_of_find? hv)
  rw [split (by rw [keys_put, if_pos hthere]) (spelled_put hk hv) (find?_put_self k v' es)
    fun key hkey => find?_put_of_ne hkey v' es]
  exact hnew (h.under _)

end Shape

/-- In every choice by a tag the chosen model has the tag as a field that is spelled in one way. -/
def Shape.hasTags (schema : Schema ν) : Shape ν → Bool
  | .list _ s | .table s | .optional s => s.hasTags schema
  | .tagged tag choices => choices.all fun c =>
      (schema c.2).fields.any fun f => f.wire == tag && f.name == tag
  | _ => true

/-- A schema whose fields are told apart by either spelling, and whose tags have but one. -/
structure Schema.Spelled (schema : Schema ν) : Prop where
  faithful : schema.Faithful
  names : ∀ n, ((schema n).fields.map (·.name)).Nodup
  tags : ∀ n, ∀ f ∈ (schema n).fields, f.shape.hasTags schema = true

namespace Leads

open Value Shape

/-- A change of a mapping leaves the fields alone that are spelled in one way only, such as tags. -/
def KeepsTags (schema : Schema ν) (n : ν) (es es' : List (String × Value)) : Prop :=
  ∀ f ∈ (schema n).fields, f.name = f.wire → find? f.wire es' = find? f.wire es

theorem replace_ne_null {u u' : Value} {v : Value} {place : Location}
    (h : v.at? place = Option.some u) (hu : u' ≠ .null) : v.replace place u' ≠ .null := by
  cases place with
  | nil => simpa [replace] using hu
  | cons step place =>
    cases v with
    | obj es =>
      cases step with
      | key k =>
        obtain ⟨w, hw, -⟩ := at?_key h
        simp [replace_key hw]
      | index i => simp [Value.at?] at h
    | list vs =>
      cases step with
      | key k => simp [Value.at?] at h
      | index i => cases i <;> simp [replace]
    | _ => simp [Value.at?] at h

/-- A mapping stays one, and its tags stay, whatever is replaced inside it by a mapping with the
same tags. -/
theorem replace_obj {m n : ν} {es es₀ es' : List (String × Value)} {place loc : Location}
    (h : Leads schema (.model n) (.obj es₀) place (.model m) (.obj es) loc)
    (hkeep : KeepsTags schema m es es') :
    ∃ es₁, (Value.obj es₀).replace place (.obj es') = .obj es₁ ∧
      ∀ f ∈ (schema n).fields, f.name = f.wire → ∀ t, find? f.wire es₀ = Option.some (.str t) →
        find? f.wire es₁ = Option.some (.str t) := by
  cases h with
  | here => exact ⟨es', rfl, fun f hf hname t ht => (hkeep f hf hname).trans ht⟩
  | @field k _ _ _ _ v _ place _ _ _ hv hrest =>
    refine ⟨_, replace_key hv place _, fun f _ _ t ht => ?_⟩
    by_cases hk : f.wire = k
    · -- nothing lies inside a tag
      have hplace := hrest.at?
      subst hk
      obtain rfl := Option.some.inj (hv.symm.trans ht)
      cases place with
      | nil => simp [Value.at?] at hplace
      | cons step place => simp [Value.at?] at hplace
    · rw [find?_put_of_ne hk, ht]

/-- What a mapping that is read as a model comes to decides what the whole comes to. -/
theorem carries (hs : schema.Spelled) {m : ν} {s : Shape ν} {v : Value} {es : List (String × Value)}
    {place loc : Location} (h : Leads schema s v place (.model m) (.obj es) loc)
    (hst : s.hasTags schema = true) {l : Nat} {i : Instance ν} (hi : v.checker schema l s = .ok i) :
    ∃ k j, (Value.obj es).checker schema k (.model m) = .ok j ∧ ∀ es', KeepsTags schema m es es' →
      Carries ((Value.obj es').checker schema k (.model m))
        ((v.replace place (.obj es')).checker schema l s) loc j i := by
  generalize ht : Shape.model m = t at h
  generalize hu : Value.obj es = u at h
  induction h generalizing l i with
  | here s v =>
    subst ht hu
    exact ⟨l, i, hi, fun es' _ => .refl _ i⟩
  | @some s t v u place loc hrest ih =>
    subst ht hu
    have hne : v ≠ .null := fun h => by
      have := hrest.at?
      cases place <;> simp [h, Value.at?] at this
    obtain ⟨k, j, hj, hall⟩ := ih hst (by rwa [checker_optional hne] at hi) rfl rfl
    refine ⟨k, j, hj, fun es' hkeep => ?_⟩
    rw [checker_optional (replace_ne_null hrest.at? (by simp))]
    exact hall es' hkeep
  | @item least n s t vs v u place loc hv _ ih =>
    subst ht hu
    obtain ⟨x, hx, hstep⟩ := carries_item hv hi
    obtain ⟨k, j, hj, hall⟩ := ih hst hx rfl rfl
    refine ⟨k, j, hj, fun es' hkeep => ?_⟩
    rw [replace_index]
    exact hstep (hall es' hkeep)
  | @entry k s t es₀ v u place loc hv _ ih =>
    subst ht hu
    obtain ⟨x, hx, hstep⟩ := carries_entry hv hi
    obtain ⟨k', j, hj, hall⟩ := ih hst hx rfl rfl
    refine ⟨k', j, hj, fun es' hkeep => ?_⟩
    rw [replace_key hv]
    exact hstep (hall es' hkeep)
  | @field k n f t es₀ v u place loc hf hk hv _ ih =>
    subst ht hu
    obtain ⟨x, hx, hstep⟩ := carries_field hs.faithful hs.names hf hk hv hi
    obtain ⟨k', j, hj, hall⟩ := ih (hs.tags n f hf) hx rfl rfl
    refine ⟨k', j, hj, fun es' hkeep => ?_⟩
    rw [replace_key hv]
    exact hstep (hall es' hkeep)
  | @chosen tag c choices n t es₀ u place loc htag hc hrest ih =>
    subst ht hu
    have hmem : (c, n) ∈ choices := List.mem_of_find?_eq_some hc
    simp only [hasTags, List.all_eq_true, List.any_eq_true, Bool.and_eq_true, beq_iff_eq] at hst
    obtain ⟨f, hf, hwire, hname⟩ := hst _ hmem
    have byTag {es₁ : List (String × Value)} (h : find? tag es₁ = Option.some (.str c)) :
        (Value.obj es₁).checker schema l (.tagged tag choices) =
          ((Value.obj es₁).checker schema l (.model n)).under (.key c) := by
      simp only [checker_obj_tagged, h, hc]
    rw [byTag htag] at hi
    obtain ⟨k, j, hj, hall⟩ := ih rfl (Checked.under_eq_ok.mp hi) rfl rfl
    refine ⟨k, j, hj, fun es' hkeep => ?_⟩
    obtain ⟨es₁, hes₁, htags⟩ := replace_obj hrest hkeep
    have hcarries := hall es' hkeep
    rw [hes₁] at hcarries ⊢
    rw [byTag (hwire ▸ htags f hf (hname.trans hwire.symm) c (hwire ▸ htag))]
    exact hcarries.under _

end Leads

end SchemaIntents
