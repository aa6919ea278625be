import SchemaIntents.Proofs.Context.Arguments
import SchemaIntents.Proofs.Document.Author
import SchemaIntents.Proofs.Document.Interruption
import SchemaIntents.Proofs.Document.Tracking
import SchemaIntents.Proofs.Json.Wholeness

/-! What keeps a document from being resolved. Of what a document says apart from its intents, only
four things do once it fits its model: a number that is too long to be written, a list or mapping
that stands too deep or a text with halves of pairs, where the document has to be told from others
by its content, and an agent as its author that is named by no text. -/
namespace SchemaIntents

namespace Json

/-- What may be wrong with a value where its canonical text is written with some room. -/
structure FaultOf (room : Nat) (v : Value) (fault : Option CanonicalFault) : Prop where
  eq_none_iff : fault = none ↔ v.hasLongNumber = false ∧ v.nesting ≤ room
  of_some : ∀ f, fault = some f →
    f = .tooManyDigits ∧ v.hasLongNumber = true ∨ f = .tooDeep ∧ room < v.nesting

/-- A collection is at fault where there is no room for it, else where a part of it is. -/
theorem FaultOf.inside {v : Value} {parts : List Value} {nested : Nat}
    (hlong : v.hasLongNumber = parts.any Value.hasLongNumber) (hnesting : v.nesting = nested + 1)
    (hparts : ∀ room, nested ≤ room ↔ ∀ p ∈ parts, p.nesting ≤ room)
    (ih : ∀ p ∈ parts, ∀ room, FaultOf room p (canonicalFault? room p)) (room : Nat) :
    FaultOf room v (faultInside room fun left => parts.findSome? (canonicalFault? left)) := by
  cases room with
  | zero => constructor <;> simp [faultInside, hnesting]
  | succ left =>
    constructor
    · rw [faultInside, List.findSome?_eq_none_iff, hlong, hnesting, Nat.succ_le_succ_iff, hparts,
        List.any_eq_false, ← forall₂_and]
      exact forall₂_congr fun p hp => by simpa using (ih p hp left).eq_none_iff
    · intro f hf
      obtain ⟨p, hp, hfault⟩ := List.exists_of_findSome?_eq_some hf
      refine ((ih p hp left).of_some f hfault).imp (fun ⟨hf, hlongPart⟩ => ⟨hf, ?_⟩)
        fun ⟨hf, hdeep⟩ => ⟨hf, ?_⟩
      · rw [hlong, List.any_eq_true]
        exact ⟨p, hp, hlongPart⟩
      · rw [hnesting, Nat.succ_lt_succ_iff]
        exact Nat.lt_of_not_le fun hle => Nat.not_le.mpr hdeep ((hparts left).mp hle p hp)

/-- A value from JSON has a canonical text unless a number in it is too long, or a list or mapping
in it stands too deep. -/
theorem faultOf_canonicalFault? {v : Value} (hv : v.IsJson) (room : Nat) :
    FaultOf room v (canonicalFault? room v) := by
  induction hv generalizing room with
  | @list items _ ih =>
    have hfault : canonicalFault? room (.list items) =
        faultInside room fun left => items.findSome? (canonicalFault? left) := by
      simp only [canonicalFault?, itemsFault?_eq, List.findSome?_map, Function.id_comp]
    rw [hfault]
    refine .inside ?_ rfl (fun _ => Value.nestingAll_le) ih room
    rw [Value.hasLongNumber, Value.hasLongItem_eq]
  | @obj entries _ ih =>
    have hmem (p : Value) : p ∈ (sortBy textAtMost entries).map (·.2) ↔ ∃ e ∈ entries, e.2 = p := by
      simp only [List.mem_map, (sortBy_perm entries).mem_iff]
    have hfault : canonicalFault? room (.obj entries) = faultInside room fun left =>
        ((sortBy textAtMost entries).map (·.2)).findSome? (canonicalFault? left) := by
      simp only [canonicalFault?, entryFaults_eq, sortBy_map, List.findSome?_map]
      rfl
    rw [hfault]
    refine .inside ?_ rfl (fun room => ?_) (fun p hp room => ?_) room
    · rw [Value.hasLongNumber, Value.hasLongEntry_eq, ← (sortBy_perm entries).any_eq, List.any_map]
      rfl
    · rw [Value.nestingEntries_le]
      simp only [hmem, forall_exists_index, and_imp, forall_apply_eq_imp_iff₂]
    · obtain ⟨e, he, rfl⟩ := (hmem p).mp hp
      exact ih e he room
  | int n =>
    constructor
    · simp [canonicalFault?, numberFault?, Value.hasLongNumber, Value.nesting]
    · intro f hf
      simp only [canonicalFault?, numberFault?, Option.ite_none_right_eq_some] at hf
      exact .inl ⟨(Option.some.inj hf.2).symm, hf.1⟩
  | _ => constructor <;> simp [canonicalFault?, Value.hasLongNumber, Value.nesting]

end Json

namespace Document

variable {s : Settings} {q : Request} {v : Value} {d : Document} {now : DateTime}

/-- A request whose members have the types that are asked for, for a project that has a name. -/
structure Request.IsTyped (q : Request) : Prop where
  projectId : ∃ t, t ≠ "" ∧ q.projectId = .str t
  intentId : q.intentId = .null ∨ ∃ t, q.intentId = .str t
  known : q.known = .null ∨ ∃ names, q.known = .texts names
  model : q.model = .null ∨ ∃ t, q.model = .str t

/-- Whether the model that wrote a document is named by something that is no text. -/
def isMisnamed (v : Value) : Bool :=
  match authorName v with
  | .str _ => false
  | name => name.truthy

/-- Why a document that needs an identity of its own has none. -/
def identityFault? (q : Request) (v : Value) : Option Json.CanonicalFault :=
  if q.intentId.truthy then none
  else
    match identity q.room v with
    | .ok _ => none
    | .error f => some f

/-- What is found wrong with a name that has to be without halves of pairs. -/
def tornIssues (key : String) : Value → List Issue
  | .str t => if Text.isTorn t then [⟨.undecodableText, [.key key]⟩] else []
  | _ => []

/-- What is found wrong with a context: with the names that its request gives, and with the model
that wrote its document. -/
def contextIssues (q : Request) (v : Value) : List Issue :=
  tornIssues "intent_id" q.intentId ++ tornIssues "project_id" q.projectId ++
    if !q.model.truthy && isMisnamed v then [⟨.notText, [.key "model"]⟩] else []

/-- What a request and the data of a document bring about where its context is made. -/
def contentFault? (q : Request) (v : Value) : Option Fault :=
  match identityFault? q v with
  | some f => some (.canonical f)
  | none => if contextIssues q v = [] then none else some (.context (.issues (contextIssues q v)))

theorem isTorn_hex (bs : List UInt8) : Text.isTorn (Digest.hex bs) = false := by
  have digits : ∀ b < 256, Text.halfMark ∉ Nat.toDigits 16 b := by decide +kernel
  have zero : Text.halfMark ≠ '0' := by decide
  simp only [Digest.hex, Text.isTorn_ofList, List.contains_eq_mem, decide_eq_false_iff_not,
    List.mem_flatMap, not_exists, not_and]
  intro b _
  have hb := digits b.toNat b.toNat_lt
  split <;> simp [hb, zero]

/-- An identity is there unless something is wrong with the canonical text, which for data from JSON
can be three things; halves of pairs come last. -/
theorem identity_cases (hv : v.IsJson) (room : Nat) :
    (∃ id, Text.IsProper id ∧ identity room v = .ok id ∧
      v.hasLongNumber = false ∧ v.nesting ≤ room ∧ v.isWhole = true) ∨
    ∃ f, identity room v = .error f ∧ (f = .tooManyDigits ∧ v.hasLongNumber = true ∨
      f = .tooDeep ∧ room < v.nesting ∨
      (∃ h, f = .unencodable h) ∧ v.hasLongNumber = false ∧ v.nesting ≤
        room ∧ v.isWhole = false) := by
  obtain ⟨hnone, hsome⟩ := Json.faultOf_canonicalFault? hv room
  have hwhole : v.isWhole = (Text.release? (Json.canonical v).toList).isSome := by
    rw [Text.isSome_release?, Bool.eq_iff_iff, Json.holdsOn_canonical hv]
  rw [identity]
  cases hfault : Json.canonicalFault? room v with
  | some f => exact .inr ⟨f, rfl, (hsome f hfault).imp_right .inl⟩
  | none =>
    obtain ⟨hlong, hdeep⟩ := hnone.mp hfault
    rw [hwhole]
    cases hreleased : Text.release? (Json.canonical v).toList with
    | none =>
      simp only [Text.Utf8.write, hreleased]
      exact .inr ⟨_, rfl, .inr (.inr ⟨⟨_, rfl⟩, hlong, hdeep, rfl⟩)⟩
    | some text =>
      simp only [Text.Utf8.write, hreleased]
      have constant : Text.isTorn "sha256:" = false := by decide
      exact .inl ⟨_, ⟨by simp [constant, isTorn_hex], by simp⟩, rfl, hlong, hdeep, rfl⟩

/-- A document from JSON has its identity for lack of three things only. -/
theorem identityFault?_of_isJson (hv : v.IsJson) (q : Request) :
    (identityFault? q v = none ↔ q.intentId.truthy = true ∨
      v.hasLongNumber = false ∧ v.nesting ≤ q.room ∧ v.isWhole = true) ∧
    ∀ f, identityFault? q v = some f →
      f = .tooManyDigits ∧ v.hasLongNumber = true ∨ f = .tooDeep ∧ q.room < v.nesting ∨
        (∃ h, f = .unencodable h) ∧ v.hasLongNumber = false ∧ v.nesting ≤
          q.room ∧ v.isWhole = false := by
  rw [identityFault?]
  by_cases hid : q.intentId.truthy = true
  · simp [hid]
  · rw [if_neg hid]
    rcases identity_cases hv q.room with ⟨id, -, hok, hfits⟩ | ⟨f, herror, hf⟩
    · simp [hok, hfits]
    · rw [herror]
      refine ⟨iff_of_false (by simp) fun h => ?_, fun g hg => Option.some.inj hg ▸ hf⟩
      obtain ⟨hlong, hdeep, hwhole⟩ := h.resolve_left hid
      rcases hf with ⟨-, h⟩ | ⟨-, h⟩ | ⟨-, -, -, h⟩
      · simp [hlong] at h
      · exact Nat.not_le.mpr h hdeep
      · simp [hwhole] at h

/-- A document that is read from plain data. -/
theorem ofValue_eq_ok : ofValue v = .ok d ↔ Intent.parse .document v = .ok d.whole ∧ d.raw = v := by
  rw [ofValue]
  cases Intent.parse .document v with
  | error issues => simp [Except.map]
  | ok whole =>
    simp only [Except.map, Except.ok.injEq]
    constructor
    · rintro rfl
      exact ⟨rfl, rfl⟩
    · rintro ⟨rfl, rfl⟩
      rfl

/-- A document that fits its model is written in a version of the language. -/
theorem accepts_version (h : Intent.Accepted .document d.whole) :
    Pattern.version.accepts d.version = true := by
  obtain ⟨v, l, hwhole⟩ := h
  have hfield : .defaulted "version" "version" (.formed .version) (.str "0.1.0") ∈
      (Intent.schema .document).fields := by
    simp [Intent.schema, Intent.document]
  rcases Instance.field_cases (Intent.names_nodup .document) hwhole hfield with
    ⟨w, -, hw⟩ | ⟨t, ht, hi⟩
  · rw [Field.defaulted, Shape.formed, Shape.checker_text] at hw
    obtain ⟨t, -, hfault, hi⟩ := Shape.readWith_eq_ok.mp hw
    have hversion : d.version = t := by
      rw [version, Intent.Part.text, show Intent.Part.get d.whole "version" = _ from hi]
      rfl
    rw [hversion]
    exact (Shape.textFault?_formed.mp hfault).2
  · obtain rfl := Option.some.inj ht
    rw [version, Intent.Part.text, show Intent.Part.get d.whole "version" = _ from hi]
    decide

/-- A document that has no identity has no context. -/
theorem context_of_unidentified {f : Json.CanonicalFault} (hid : q.intentId.truthy = false)
    (hf : identity q.room d.raw = .error f) : context (.ok s) q d = .error (.canonical f) := by
  simp [context, bind, Except.bind, pure, Except.pure, hid, hf, throw, throwThe,
    MonadExceptOf.throw]

/-- A document with an identity has the context that its arguments make. -/
theorem context_of_identifies {id : Value} (hid : Identifies q d id) :
    context (.ok s) q d = (Context.ofArguments (.ok s) (arguments s q d id)).mapError .context := by
  by_cases h : q.intentId.truthy = true
  · rw [Identifies, if_pos h] at hid
    subst hid
    simp only [context, arguments, bind, Except.bind, pure, Except.pure, h, if_true]
    split
    case h_1 made => rw [made, Except.mapError]
    case h_2 made =>
      rw [made]
      rfl
  · rw [Identifies, if_neg h] at hid
    obtain ⟨text, htext, rfl⟩ := hid
    simp only [context, arguments, bind, Except.bind, pure, Except.pure, h, htext, if_false,
      Bool.false_eq_true]
    split
    case h_1 made => rw [made, Except.mapError]
    case h_2 made =>
      rw [made]
      rfl

/-- The model that a context is told of: by its request, else by its document, else by settings. -/
def toldModel (s : Settings) (q : Request) (v : Value) : Value :=
  firstOf q.model (firstOf (authorName v) ((s.model.map Value.str).getD .null))

/-- The model that a context is told of is a text or null, unless only a document that misnames it
tells of one. -/
theorem modelIssues_toldModel (hq : q.IsTyped) (s : Settings) :
    Context.modelIssues (toldModel s q v) =
      if !q.model.truthy && isMisnamed v then [⟨.notText, []⟩] else [] := by
  have hother : Context.modelIssues ((s.model.map Value.str).getD .null) = [] := by
    cases s.model <;> rfl
  rw [toldModel]
  by_cases h : q.model.truthy = true
  · simp [firstOf, h, Context.modelIssues_eq_nil.mpr hq.model]
  · rw [firstOf, if_neg h, isMisnamed]
    cases hname : authorName v with
    | str t =>
      by_cases ht : (Value.str t).truthy = true
      · simp [firstOf, ht, Context.modelIssues]
      · simp [firstOf, ht, hother]
    | null => simp [firstOf, hother, Value.truthy]
    | _ =>
      simp only [h, Bool.not_false, Bool.true_and]
      split
      · rename_i ht
        rw [firstOf, if_pos ht]
        rfl
      · rename_i ht
        rw [firstOf, if_neg ht, hother]

theorem someTextIssues_under {t : String} (ht : t ≠ "") (key : String) :
    (Shape.someTextIssues t).map (·.under (.key key)) = tornIssues key (.str t) := by
  cases htorn : Text.isTorn t <;>
    simp [tornIssues, Shape.someTextIssues, Shape.textFault?, htorn, ht, Issue.under]

/-- A document has an identity unless it needs one of its own and has none. Halves of pairs are only
in one that is given. -/
theorem exists_identifies (hq : q.IsTyped) (hv : d.raw.IsJson) (h : identityFault? q d.raw = none) :
    ∃ id, Identifies q d (.str id) ∧
      (Shape.someTextIssues id).map (·.under (.key "intent_id")) =
        tornIssues "intent_id" q.intentId := by
  by_cases hid : q.intentId.truthy = true
  · rcases hq.intentId with hnull | ⟨t, ht⟩
    · simp [hnull, Value.truthy] at hid
    · refine ⟨t, by rw [Identifies, if_pos hid, ht], ?_⟩
      rw [ht, someTextIssues_under (by simpa [ht, Value.truthy] using hid)]
  · rcases identity_cases hv q.room with ⟨id, hproper, hok, -⟩ | ⟨f, herror, -⟩
    · refine ⟨id, by rw [Identifies, if_neg hid]; exact ⟨id, hok, rfl⟩, ?_⟩
      have hgiven : tornIssues "intent_id" q.intentId = [] := by
        rcases hq.intentId with hnull | ⟨t, ht⟩
        · rw [hnull]
          rfl
        · obtain rfl : t = "" := by simpa [ht, Value.truthy] using hid
          rw [ht]
          rfl
      simp [hgiven, Shape.someTextIssues, Shape.textFault?_some.mpr hproper]
    · simp [identityFault?, hid, herror] at h

theorem isJson_firstOf {first other : Value} (hfirst : first.IsJson) (hother : other.IsJson) :
    (firstOf first other).IsJson := by
  rw [firstOf]
  split
  · exact hfirst
  · exact hother

theorem isJson_toldModel (hq : q.IsTyped) (hv : v.IsJson) (s : Settings) :
    (toldModel s q v).IsJson := by
  refine isJson_firstOf ?_ (isJson_firstOf (isJson_authorName hv) ?_)
  · rcases hq.model with hnull | ⟨t, ht⟩
    · exact hnull ▸ .null
    · exact ht ▸ .str t
  · cases s.model
    · exact .null
    · exact .str _

/-- A document with an identity has a context, unless something is found wrong with what is stated
of it. -/
theorem context_of_identity (hq : q.IsTyped) (hv : v.IsJson) (h : ofValue v = .ok d) {id : String}
    (hid : Identifies q d (.str id))
    (hgiven : (Shape.someTextIssues id).map (·.under (.key "intent_id")) =
      tornIssues "intent_id" q.intentId) :
    (contextIssues q v = [] → ∃ c, context (.ok s) q d = .ok c) ∧
    (contextIssues q v ≠ [] →
      context (.ok s) q d = .error (.context (.issues (contextIssues q v)))) := by
  obtain ⟨hparse, -⟩ := ofValue_eq_ok.mp h
  obtain ⟨project, hproject, hname⟩ := hq.projectId
  have hissues : Context.statedIssues id project (toldModel s q v) = contextIssues q v := by
    rw [Context.statedIssues, contextIssues, hgiven, someTextIssues_under hproject, hname,
      modelIssues_toldModel hq s]
    split <;> rfl
  obtain ⟨hnone, hsome⟩ := Context.ofArguments_of_stated s id project
    (accepts_version (Intent.accepted_of_parse hparse)) (isJson_toldModel hq hv s) hq.known
  rw [hissues] at hnone hsome
  have harguments : arguments s q d (.str id) =
      Context.stated id project d.version (toldModel s q v) q.known := by
    rw [arguments, authorModel_eq hv hparse, hname, firstOf,
      if_pos (by simpa [Value.truthy] using hproject)]
    rfl
  rw [context_of_identifies hid, harguments]
  refine ⟨fun hnil => ?_, fun hne => by rw [hsome hne, Except.mapError]⟩
  obtain ⟨c, hc⟩ := hnone hnil
  exact ⟨c, by rw [hc, Except.mapError]⟩

/-- What is wrong with the context of a document is what its request and its data bring about. -/
theorem context_eq_error_iff (hq : q.IsTyped) (hv : v.IsJson) (h : ofValue v = .ok d) (f : Fault) :
    context (.ok s) q d = .error f ↔ contentFault? q v = some f := by
  obtain ⟨-, rfl⟩ := ofValue_eq_ok.mp h
  rw [contentFault?]
  cases hfault : identityFault? q d.raw with
  | some fault =>
    have hfound := hfault
    rw [identityFault?] at hfound
    split at hfound
    · cases hfound
    · split at hfound
      · cases hfound
      · rename_i hid _ _ herror
        obtain rfl := Option.some.inj hfound
        rw [context_of_unidentified (Bool.eq_false_iff.mpr hid) herror]
        simp
  | none =>
    obtain ⟨id, hid, hgiven⟩ := exists_identifies hq hv hfault
    obtain ⟨hnone, hsome⟩ := context_of_identity (s := s) hq hv h hid hgiven
    by_cases hissues : contextIssues q d.raw = []
    · obtain ⟨c, hc⟩ := hnone hissues
      simp [hc, hissues]
    · rw [hsome hissues, if_neg hissues, Except.error.injEq, Option.some.injEq]

/-- How a document from JSON fares with a request whose members have their types. One that does not
fit its model is reported as such. One that does has a context unless its request and its data bring
about something else, and breaks off later only with an intent that is misused after those before it
are resolved. For lack of an identity that is a number that is too long, a list or mapping that
stands too deep, or a text with halves of pairs. -/
theorem resolve_eq_error_iff (s : Settings) (now : DateTime) (hq : q.IsTyped) (hv : v.IsJson) :
    (∀ issues, ofValue v = .error issues →
      (resolveValue (.ok s) q now v).result = .error (.malformed (malformed issues)) ∧
      ∀ e ∈ (malformed issues).diagnostics, e.code = "IR010" ∧ e.severity = .error) ∧
    ((identityFault? q v = none ↔ q.intentId.truthy = true ∨
      v.hasLongNumber = false ∧ v.nesting ≤ q.room ∧ v.isWhole = true) ∧
    ∀ f, identityFault? q v = some f →
      f = .tooManyDigits ∧ v.hasLongNumber = true ∨ f = .tooDeep ∧ q.room < v.nesting ∨
        (∃ h, f = .unencodable h) ∧ v.hasLongNumber = false ∧ v.nesting ≤ q.room ∧
          v.isWhole = false) ∧
    ∀ d, ofValue v = .ok d →
      (∀ f, context (.ok s) q d = .error f ↔ contentFault? q v = some f) ∧
      (∀ f, (resolveValue (.ok s) q now v).result = .error f ↔
        contentFault? q v = some f ∨
        ∃ c m, context (.ok s) q d = .ok c ∧ f = .misused m ∧
          ∃ i u r, d.intents[i]? = some u ∧ Runs now c 0 (d.intents.take i) r ∧
            (Resolution.of (c.withKnown (knownBefore c.known r.placed i)) now (.plain u)).result =
              .error (.misused m)) := by
  refine ⟨?_, identityFault?_of_isJson hv q, ?_⟩
  · intro issues hissues
    refine ⟨by rw [resolveValue, hissues], ?_⟩
    intro e he
    obtain ⟨i, -, rfl⟩ := List.mem_map.mp he
    exact ⟨rfl, rfl⟩
  · intro d hd
    refine ⟨context_eq_error_iff hq hv hd, fun f => ?_⟩
    have hresolve : resolveValue (.ok s) q now v = resolve (.ok s) q now d := by
      rw [resolveValue, hd]
    rw [hresolve, resolve, ← context_eq_error_iff (s := s) hq hv hd]
    cases hc : context (.ok s) q d with
    | error g => simp [eq_comm]
    | ok c =>
      -- from here on only an intent can keep the document from its end
      simp only [Run.map, ← resolveIn_eq_error, Except.ok.injEq, reduceCtorEq, false_or]
      cases hr : (resolveIn c now d).result with
      | ok r =>
        refine iff_of_false (by simp) ?_
        rintro ⟨_, m, rfl, -, hm⟩
        cases hr.symm.trans hm
      | error m =>
        constructor
        · intro hf
          exact ⟨c, m, rfl, (Except.error.inj hf).symm, hr⟩
        · rintro ⟨_, m', rfl, rfl, hm⟩
          rw [Except.error.inj (hr.symm.trans hm)]

/-- A document that an agent with a number for a name wrote. -/
def misnamed : Value := .obj [
  ("version", .str "0.1.0"),
  ("provenance", .obj [
    ("created_by", .obj [("type", .str "agent"), ("name", .int 5)])]),
  ("intents", .list [.obj []])]

theorem misnamed_identified (q : Request) (hroom : q.room = Json.depthLimit) :
    identityFault? q misnamed = none := by
  have hlong : Value.isLongNumber 5 = false := Value.isLongNumber_of_lt (by decide)
  have hjson : misnamed.IsJson := by simp [misnamed]
  refine (identityFault?_of_isJson hjson q).1.mpr (.inr ⟨?_, by rw [hroom]; decide, by decide⟩)
  simp [misnamed, Value.hasLongNumber, Value.hasLongEntry, Value.hasLongItem, hlong]

/-- It fits its model and is not resolved, except for a request that says which model wrote it. -/
theorem resolve_eq_error_iff_misnamed :
    let q : Request := { projectId := .str "project" }
    let now : DateTime := ⟨⟨2024, 1, 2⟩, 12, 0, 0, 0, none⟩
    ∃ d, ofValue misnamed = .ok d ∧
      (resolveValue (.ok Context.plainSettings) q now misnamed).result =
        .error (.context (.issues [⟨.notText, [.key "model"]⟩])) ∧
      ∃ c, context (.ok Context.plainSettings) { q with model := .str "model" } d = .ok c := by
  intro q now
  have hq : q.IsTyped := ⟨⟨"project", by decide, rfl⟩, .inl rfl, .inl rfl, .inl rfl⟩
  have hq' : Request.IsTyped { q with model := .str "model" } :=
    ⟨⟨"project", by decide, rfl⟩, .inl rfl, .inl rfl, .inr ⟨"model", rfl⟩⟩
  have hjson : misnamed.IsJson := by simp [misnamed]
  obtain ⟨d, hd⟩ : ∃ d, ofValue misnamed = .ok d := ⟨_, rfl⟩
  obtain ⟨-, -, hfits⟩ := resolve_eq_error_iff Context.plainSettings now hq hjson
  obtain ⟨-, -, hfits'⟩ := resolve_eq_error_iff Context.plainSettings now hq' hjson
  have hfault : contentFault? q misnamed =
      some (.context (.issues [⟨.notText, [.key "model"]⟩])) := by
    rw [contentFault?, misnamed_identified q rfl]
    rfl
  refine ⟨d, hd, ((hfits d hd).2 _).mpr (.inl hfault), ?_⟩
  cases hc : context (.ok Context.plainSettings) { q with model := .str "model" } d with
  | ok c => exact ⟨c, rfl⟩
  | error f =>
    have hf := ((hfits' d hd).1 f).mp hc
    have hnone : contextIssues { q with model := .str "model" } misnamed = [] := by decide
    rw [contentFault?, misnamed_identified _ rfl, if_pos hnone] at hf
    cases hf

end Document
end SchemaIntents
