import SchemaIntents.Proofs.Shape.Strangers

/-! Which mappings in a value are read as models: all but those that stand as they are and tables,
and where these can lie. -/
namespace SchemaIntents

variable {ν : Type} {schema : Schema ν} {k : String} {es : List (String × Value)}

open Shape Checked Value

/-- Whether what is read as a shape may hold mappings that are read as no model: values that stand
as they are, or a table. -/
def Shape.isOpen : Shape ν → Bool
  | any | mapping | table _ => true
  | _ => false

/-- A mapping at a place is read as a model, or it is inside of what stands as it is, or it is a
table. -/
inductive Charted (schema : Schema ν) (s : Shape ν) (v : Value) (es : List (String × Value)) :
    Location → Prop
  | model {n : ν} {place loc : Location} :
      Leads schema s v place (.model n) (.obj es) loc → Charted schema s v es place
  | inside {t : Shape ν} {u : Value} {place loc : Location} (rest : Location) :
      t.isOpen = true → (∀ e, t = .table e → rest = []) → Leads schema s v place t u loc →
      Charted schema s v es (place ++ rest)

/-- What is found from one value on is found from another one that leads to it. -/
theorem Charted.lift {s s' : Shape ν} {v v' : Value} {place : Location} (steps : Location)
    (hlift : ∀ {t u place loc}, Leads schema s v place t u loc →
      ∃ loc', Leads schema s' v' (steps ++ place) t u loc')
    (h : Charted schema s v es place) : Charted schema s' v' es (steps ++ place) := by
  cases h with
  | model h =>
    obtain ⟨loc', h'⟩ := hlift h
    exact .model h'
  | inside rest ht hrest h =>
    obtain ⟨loc', h'⟩ := hlift h
    rw [← List.append_assoc]
    exact .inside rest ht hrest h'

/-- Only where values stand as they are a plain shape takes mappings or lists. -/
theorem Shape.isOpen_of_isPlain {l : Nat} {s : Shape ν} {v : Value} {i : Instance ν}
    (hs : s.isPlain = true) (h : v.checker schema l s = .ok i)
    (hv : (∃ es, v = .obj es) ∨ ∃ vs, v = .list vs) : s = .any ∨ s = .mapping := by
  cases s with
  | any => exact .inl rfl
  | mapping => exact .inr rfl
  | oneOf words =>
    obtain ⟨t, -, rfl, -⟩ := checker_oneOf_eq_ok.mp h
    simp at hv
  | text | flag | whole | real | scalar =>
    rcases hv with ⟨es, rfl⟩ | ⟨vs, rfl⟩ <;>
      simp [checker, checkParts, readWith, ofReader, Scalar.readText, Scalar.readFlag,
        Scalar.readWhole, Scalar.readReal, isScalar, fail] at h
  | _ => simp [isPlain] at hs

theorem Charted.whole {t : Shape ν} {v : Value} {place : Location} (ht : t = .any ∨ t = .mapping) :
    Charted schema t v es place := by
  rcases ht with rfl | rfl
  · exact .inside place rfl (by simp) (.here _ v)
  · exact .inside place rfl (by simp) (.here _ v)

section Steps

variable {l : Nat} {s : Shape ν} {i : Instance ν} {place : Location}

/-- A mapping is charted at a key if the entry there is. -/
theorem charted_key (hs : schema.Spelled) (hclosed : ∀ n, (schema n).closed = true)
    {es₀ : List (String × Value)} {u : Value} (hfs : s.isFaithful schema = true)
    (hi : (Value.obj es₀).checker schema l s = .ok i) (hu : find? k es₀ = some u)
    (hstep : ∀ {l s i}, s.isFaithful schema = true → u.checker schema l s = .ok i →
      Charted schema s u es place) : Charted schema s (.obj es₀) es (.key k :: place) := by
  have := hs.faithful.toWhole
  have of_model (n : ν) (hm : (Value.obj es₀).checker schema l (.model n) = .ok i) :
      Charted schema (.model n) (.obj es₀) es (.key k :: place) := by
    obtain ⟨-, hfits⟩ := checkModel_eq_ok.mp (checker_obj_model l n es₀ ▸ hm)
    obtain ⟨-, -, hnone, -, -⟩ := checkFields_eq_ok.mp hfits
    obtain ⟨f, hf, hk⟩ := (strangers_eq_nil_iff (hclosed n)).mp hnone _ (mem_of_find? hu)
    obtain ⟨x, hx, -⟩ := carries_field hs.faithful hs.names hf hk hu hm
    exact (hstep (hs.faithful.shapes n f hf) hx).lift [.key k] fun h => ⟨_, .field hf hk hu h⟩
  induction s with
  | optional s ih =>
    rw [checker_optional (by simp)] at hi
    exact (ih hfs hi).lift [] fun h => ⟨_, h.some⟩
  | model n => exact of_model n hi
  | tagged tag choices =>
    obtain ⟨t, n, htag, hc, hm⟩ := checker_tagged hi
    exact (of_model n hm).lift [] fun h => ⟨_, .chosen htag hc h⟩
  | table s =>
    obtain ⟨x, hx, -⟩ := carries_entry hu hi
    exact (hstep (s := s) hfs hx).lift [.key k] fun h => ⟨_, .entry hu h⟩
  | list least s => simp [checker, checkParts, parts, fail] at hi
  | path | names => simp [isFaithful] at hfs
  | _ => exact .whole (isOpen_of_isPlain rfl hi (.inl ⟨es₀, rfl⟩))

/-- A list is charted at a position if the item there is. -/
theorem charted_index {vs : List Value} {p : Nat} {u : Value} (hfs : s.isFaithful schema = true)
    (hi : (Value.list vs).checker schema l s = .ok i) (hu : vs[p]? = some u)
    (hstep : ∀ {l s i}, s.isFaithful schema = true → u.checker schema l s = .ok i →
      Charted schema s u es place) : Charted schema s (.list vs) es (.index p :: place) := by
  induction s with
  | optional s ih =>
    rw [checker_optional (by simp)] at hi
    exact (ih hfs hi).lift [] fun h => ⟨_, h.some⟩
  | list least s =>
    obtain ⟨x, hx, -⟩ := carries_item hu hi
    exact (hstep (s := s) hfs hx).lift [.index p] fun h => ⟨_, .item hu h⟩
  | model | tagged | table => simp [checker, checkParts, parts, fail] at hi
  | path | names => simp [isFaithful] at hfs
  | _ => exact .whole (isOpen_of_isPlain rfl hi (.inr ⟨vs, rfl⟩))

end Steps

/-- Every mapping in a value that fits a shape of closed models is charted. -/
theorem charted (hs : schema.Spelled) (hclosed : ∀ n, (schema n).closed = true)
    {l : Nat} {s : Shape ν}
    {v : Value} {i : Instance ν} {place : Location} (hfs : s.isFaithful schema = true)
    (hi : v.checker schema l s = .ok i) (hat : v.at? place = some (.obj es)) :
    Charted schema s v es place := by
  induction place generalizing s v l i with
  | nil =>
    obtain rfl : v = .obj es := by simpa [Value.at?] using hat
    induction s with
    | optional s ih =>
      rw [checker_optional (by simp)] at hi
      exact (ih hfs hi).lift [] fun h => ⟨_, h.some⟩
    | model n => exact .model (.here _ _)
    | tagged tag choices =>
      obtain ⟨t, n, htag, hc, hm⟩ := checker_tagged hi
      exact .model (.chosen htag hc (.here _ _))
    | table s => exact .inside [] rfl (fun _ _ => rfl) (.here _ _)
    | list least s => simp [checker, checkParts, parts, fail] at hi
    | path | names => simp [isFaithful] at hfs
    | _ => exact .whole (isOpen_of_isPlain rfl hi (.inl ⟨es, rfl⟩))
  | cons step place ih =>
    cases v with
    | obj es₀ =>
      cases step with
      | key k =>
        obtain ⟨u, hu, hat⟩ := at?_key hat
        exact charted_key hs hclosed hfs hi hu fun hfs hi => ih hfs hi hat
      | index p => simp [Value.at?] at hat
    | list vs =>
      cases step with
      | key k => simp [Value.at?] at hat
      | index p =>
        obtain ⟨p, u, rfl, hu, hat⟩ := at?_index hat
        exact charted_index hfs hi hu fun hfs hi => ih hfs hi hat
    | _ => simp [Value.at?] at hat

/-! ### Where values stand as they are -/

/-- Whether all mappings in what is read as a shape are read as models of a sort. -/
def Shape.isClosed (sort : ν → Bool) : Shape ν → Bool
  | any | mapping | table _ => false
  | list _ s | optional s => s.isClosed sort
  | model n => sort n
  | tagged _ choices => choices.all fun c => sort c.2
  | _ => true

theorem Shape.isClosed_of_isOpen (sort : ν → Bool) {t : Shape ν} (h : t.isOpen = true) :
    t.isClosed sort = false := by
  cases t <;> simp_all [isOpen, isClosed]

/-- The fields of a model in which values may stand as they are, if they do not in the models of a
sort. -/
def openFields (schema : Schema ν) (sort : ν → Bool) (n : ν) : List (Field ν) :=
  (schema n).fields.filter fun f => !f.shape.isClosed sort

namespace Leads

variable {sort : ν → Bool} {s t : Shape ν} {v u : Value} {place loc : Location} {n : ν}

/-- Models of a closed sort lead only to such models. -/
theorem isClosed (hsort : ∀ n, sort n = true → openFields schema sort n = [])
    (h : Leads schema s v place t u loc) (hs : s.isClosed sort = true) :
      t.isClosed sort = true := by
  induction h with
  | here => exact hs
  | some _ ih => exact ih hs
  | item _ _ ih => exact ih hs
  | entry => simp [Shape.isClosed] at hs
  | @field _ n f _ _ _ _ _ _ hf _ _ _ ih =>
    have hempty := List.filter_eq_nil_iff.mp (hsort n hs) f hf
    exact ih (by simpa using hempty)
  | @chosen _ c _ n _ _ _ _ _ _ hc _ ih =>
    rw [Shape.isClosed, List.all_eq_true] at hs
    exact ih (hs (c, n) (List.mem_of_find?_eq_some hc))

theorem of_optional (ht : t.isOpen = true) (h : Leads schema (.optional s) v place t u loc) :
    Leads schema s v place t u loc := by
  cases h with
  | here => simp [isOpen] at ht
  | some h => exact h

/-- A model that leads to what stands as it is does so through one of its open fields. -/
theorem of_model (hsort : ∀ n, sort n = true → openFields schema sort n = []) (ht : t.isOpen = true)
    (h : Leads schema (.model n) v place t u loc) :
    ∃ f ∈ openFields schema sort n, ∃ k w rest loc', (k = f.wire ∨ k = f.name) ∧
      place = .key k :: rest ∧ Leads schema f.shape w rest t u loc' := by
  cases h with
  | here => simp [isOpen] at ht
  | @field k _ f _ _ w _ rest loc' hf hk _ hrest =>
    refine ⟨f, List.mem_filter.mpr ⟨hf, ?_⟩, k, w, rest, loc', hk.imp_right And.left, rfl, hrest⟩
    cases hopen : f.shape.isClosed sort with
    | false => rfl
    | true =>
      have hclosed := hrest.isClosed hsort hopen
      simp [isClosed_of_isOpen sort ht] at hclosed

theorem of_tagged {tag : String} {choices : List (String × ν)} (ht : t.isOpen = true)
    (h : Leads schema (.tagged tag choices) v place t u loc) :
    ∃ c ∈ choices, ∃ loc', Leads schema (.model c.2) v place t u loc' := by
  cases h with
  | here => simp [isOpen] at ht
  | @chosen _ c _ n _ _ _ _ loc' _ hc h => exact ⟨(c, n), List.mem_of_find?_eq_some hc, loc', h⟩

theorem of_table (h : Leads schema (.table s) v place t u loc) :
    (place = [] ∧ t = .table s) ∨
      ∃ k w rest loc', place = .key k :: rest ∧ Leads schema s w rest t u loc' := by
  cases h with
  | here => exact .inl ⟨rfl, rfl⟩
  | @entry k _ _ _ w _ rest loc' _ h => exact .inr ⟨k, w, rest, loc', rfl, h⟩

theorem place_of_any (h : Leads schema .any v place t u loc) : place = [] := by
  cases h
  rfl

theorem place_of_mapping (h : Leads schema .mapping v place t u loc) : place = [] := by
  cases h
  rfl

end Leads
end SchemaIntents
