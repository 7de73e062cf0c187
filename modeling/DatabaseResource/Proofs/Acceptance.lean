import DatabaseResource.Proofs.Fields
import DatabaseResource.Proofs.Writing

/-!
# Which objects are requests

Which objects are read as a request, and as which one, by the values that the members known to a
request have (`read_object_iff`). Order and white space do not matter, nor do other members.
-/

namespace DatabaseResource

theorem RequestType.ofText_eq_iff {t : RequestType} {s : String} :
    ofText s = t ↔ t.text = s ∧ (t = create ↔ s = "Create") ∧ (t = update ↔ s = "Update") ∧
      (t = delete ↔ s = "Delete") := by
  constructor
  · rintro rfl
    refine ⟨text_ofText s, ?_⟩
    unfold ofText
    split
    next h => simp [h]
    next hcreate =>
      split
      next h => simp [h]
      next hupdate =>
        split
        next h => simp [h]
        next hdelete => simp [hcreate, hupdate, hdelete]
  · rintro ⟨rfl, hcreate, hupdate, hdelete⟩
    cases t with
    | create | update | delete => rfl
    | other text =>
      have hother : text ≠ "Create" ∧ text ≠ "Update" ∧ text ≠ "Delete" := by
        simpa [RequestType.text] using And.intro hcreate (And.intro hupdate hdelete)
      simp [ofText, RequestType.text, hother]

namespace Request

open Json (Doc Denotes)

/-- The values of the members that a request knows, by field, are those of a request. -/
structure Suits (said : Field → List Doc) : Prop where
  once : ∀ f, (said f).length ≤ 1
  strings : ∀ f ∈ [Field.requestType, .requestId, .stackId, .logicalResourceId],
    ∃ s, said f = [.text (some s)]
  url : ∃ s url, said .responseUrl = [.text (some s)] ∧ Url.read s = .ok url
  resourceType : said .resourceType = [] ∨ ∃ s, said .resourceType = [.text (some s)]
  optional : ∀ f ∈ [Field.physicalResourceId, .serviceToken],
    said f = [] ∨ said f = [.null] ∨ ∃ s, said f = [.text (some s)]
  /-- What is kept as it is has its limits. -/
  kept : ∀ f ∈ [Field.resourceProperties, .oldResourceProperties],
    ∀ v ∈ said f, (v.valueIn? Draft.levels).isSome

/-- What a request says is what the values say. -/
structure Says (said : Field → List Doc) (r : Request) : Prop where
  requestType : ∃ s, said .requestType = [.text (some s)] ∧ r.requestType.text = s ∧
    (r.requestType = .create ↔ s = "Create") ∧ (r.requestType = .update ↔ s = "Update") ∧
    (r.requestType = .delete ↔ s = "Delete")
  requestId : said .requestId = [.text (some r.requestId)]
  responseUrl : ∃ s, said .responseUrl = [.text (some s)] ∧ Url.read s = .ok r.responseUrl
  stackId : said .stackId = [.text (some r.stackId)]
  logicalResourceId : said .logicalResourceId = [.text (some r.logicalResourceId)]
  resourceType : said .resourceType = [] ∧ r.resourceType = "" ∨
    said .resourceType = [.text (some r.resourceType)]
  physicalResourceId :
    (said .physicalResourceId = [] ∨ said .physicalResourceId = [.null]) ∧
      r.physicalResourceId = none ∨
    ∃ s, said .physicalResourceId = [.text (some s)] ∧ r.physicalResourceId = some s
  serviceToken :
    (said .serviceToken = [] ∨ said .serviceToken = [.null]) ∧ r.serviceToken = none ∨
    ∃ s, said .serviceToken = [.text (some s)] ∧ r.serviceToken = some s
  resourceProperties : said .resourceProperties = [] ∧ r.resourceProperties = .null ∨
    ∃ v, said .resourceProperties = [v] ∧ v.valueIn? Draft.levels = some r.resourceProperties
  oldResourceProperties :
    (said .oldResourceProperties = [] ∨ said .oldResourceProperties = [.null]) ∧
      r.oldResourceProperties = none ∨
    ∃ v kept, said .oldResourceProperties = [v] ∧ v ≠ .null ∧
      v.valueIn? Draft.levels = some kept ∧ r.oldResourceProperties = some kept

/-! ### What drafts say -/

theorem toOption_eq_some_iff {ε α : Type} {x : Except ε α} {a : α} :
    x.toOption = some a ↔ x = .ok a := by
  cases x <;> simp [Except.toOption]

/-- A draft says a request as its fields do. -/
theorem toRequest?_eq_some_iff {d : Draft} {r : Request} : d.toRequest? = some r ↔
    d.requestType = some r.requestType ∧ d.requestId = some r.requestId ∧
    d.responseUrl = some r.responseUrl ∧ d.stackId = some r.stackId ∧
    d.logicalResourceId = some r.logicalResourceId ∧
    d.resourceType.getD "" = r.resourceType ∧
    d.physicalResourceId.getD none = r.physicalResourceId ∧
    d.serviceToken.getD none = r.serviceToken ∧
    d.resourceProperties.getD .null = r.resourceProperties ∧
    d.oldResourceProperties.getD none = r.oldResourceProperties := by
  unfold Draft.toRequest?
  cases r
  simp only [Option.bind_eq_bind, Option.bind_eq_some_iff, Option.some.injEq, mk.injEq]
  constructor
  · rintro ⟨_, h₁, _, h₂, _, h₃, _, h₄, _, h₅, rfl, rfl, rfl, rfl, rfl, h⟩
    exact ⟨h₁, h₂, h₃, h₄, h₅, h⟩
  · rintro ⟨h₁, h₂, h₃, h₄, h₅, h⟩
    exact ⟨_, h₁, _, h₂, _, h₃, _, h₄, _, h₅, rfl, rfl, rfl, rfl, rfl, h⟩

/-- What a field with a default is, by the values that are said of it. -/
theorem kept_of_said {α : Type} {vs : List Doc} {keep : Doc → Option α} {field : Option α}
    {default kept : α}
    (hsaid : vs = [] ∧ field = none ∨ ∃ v k, vs = [v] ∧ keep v = some k ∧ field = some k)
    (hkept : field.getD default = kept) :
    vs = [] ∧ kept = default ∨ ∃ v, vs = [v] ∧ keep v = some kept := by
  subst hkept
  rcases hsaid with ⟨hvs, rfl⟩ | ⟨v, k, hvs, hkeep, rfl⟩
  · exact .inl ⟨hvs, rfl⟩
  · exact .inr ⟨v, hvs, hkeep⟩

/-- A value that is optional is absent, `null`, or there. -/
theorem optional_iff {α : Type} {vs : List Doc} {keep : Doc → Option α} {kept : Option α} :
    (vs = [] ∧ kept = none ∨ ∃ v, vs = [v] ∧ v.orNull? keep = some kept) ↔
      (vs = [] ∨ vs = [.null]) ∧ kept = none ∨
        ∃ v a, vs = [v] ∧ v ≠ .null ∧ keep v = some a ∧ kept = some a := by
  constructor
  · rintro (⟨hvs, rfl⟩ | ⟨v, rfl, hkeep⟩)
    · exact .inl ⟨.inl hvs, rfl⟩
    · rcases Doc.orNull?_eq_some_iff.mp hkeep with ⟨rfl, rfl⟩ | ⟨hnull, a, ha, rfl⟩
      · exact .inl ⟨.inr rfl, rfl⟩
      · exact .inr ⟨v, a, rfl, hnull, ha, rfl⟩
  · rintro (⟨hvs | hvs, rfl⟩ | ⟨v, a, hvs, hnull, ha, rfl⟩)
    · exact .inl ⟨hvs, rfl⟩
    · exact .inr ⟨.null, hvs, rfl⟩
    · exact .inr ⟨v, hvs, Doc.orNull?_eq_some_iff.mpr (.inr ⟨hnull, a, ha, rfl⟩)⟩

/-- An optional string. -/
theorem optional_text_iff {vs : List Doc} {kept : Option String} :
    (vs = [] ∧ kept = none ∨ ∃ v, vs = [v] ∧ v.orNull? Doc.text? = some kept) ↔
      (vs = [] ∨ vs = [.null]) ∧ kept = none ∨
        ∃ s, vs = [.text (some s)] ∧ kept = some s := by
  refine optional_iff.trans (or_congr Iff.rfl ?_)
  constructor
  · rintro ⟨v, s, rfl, -, hs, hkept⟩
    exact ⟨s, by rw [Doc.text?_eq_some_iff.mp hs], hkept⟩
  · rintro ⟨s, hvs, hkept⟩
    exact ⟨.text (some s), s, hvs, nofun, rfl, hkept⟩

/-- What a draft says whose fields have been said by values. -/
theorem says_of_draft {said : Field → List Doc} {r : Request} {d : Draft}
    (hsaid : ∀ f, f.collect? none (said f) = some (d.get f)) (hr : d.toRequest? = some r) :
    Says said r := by
  have hfield (f : Field) := Field.collect?_none_eq_some_iff.mp (hsaid f)
  have hkept {f : Field} {k : f.Kept} (h : d.get f = some k) :
      ∃ v, said f = [v] ∧ f.keep? v = some k := by
    rcases hfield f with ⟨-, hnone⟩ | ⟨v, k', hv, hkeep, hsome⟩
    · rw [h] at hnone
      cases hnone
    · rw [h] at hsome
      cases hsome
      exact ⟨v, hv, hkeep⟩
  have htext {f : Field} {s : String} {v : Doc} (hv : said f = [v]) (hs : v.text? = some s) :
      said f = [.text (some s)] := by
    rw [hv, Doc.text?_eq_some_iff.mp hs]
  obtain ⟨h₁, h₂, h₃, h₄, h₅, h₆, h₇, h₈, h₉, h₁₀⟩ := toRequest?_eq_some_iff.mp hr
  constructor
  case requestType =>
    obtain ⟨v, hv, hkeep⟩ := hkept (f := .requestType) h₁
    obtain ⟨s, hs, htype⟩ := Option.map_eq_some_iff.mp hkeep
    exact ⟨s, htext hv hs, RequestType.ofText_eq_iff.mp htype⟩
  case requestId =>
    obtain ⟨v, hv, hkeep⟩ := hkept (f := .requestId) h₂
    exact htext hv hkeep
  case responseUrl =>
    obtain ⟨v, hv, hkeep⟩ := hkept (f := .responseUrl) h₃
    obtain ⟨s, hs, hurl⟩ := Option.bind_eq_some_iff.mp hkeep
    exact ⟨s, htext hv hs, toOption_eq_some_iff.mp hurl⟩
  case stackId =>
    obtain ⟨v, hv, hkeep⟩ := hkept (f := .stackId) h₄
    exact htext hv hkeep
  case logicalResourceId =>
    obtain ⟨v, hv, hkeep⟩ := hkept (f := .logicalResourceId) h₅
    exact htext hv hkeep
  case resourceType =>
    rcases kept_of_said (hfield .resourceType) h₆ with habsent | ⟨v, hv, hkeep⟩
    · exact .inl habsent
    · exact .inr (htext hv hkeep)
  case physicalResourceId =>
    exact optional_text_iff.mp (kept_of_said (hfield .physicalResourceId) h₇)
  case serviceToken => exact optional_text_iff.mp (kept_of_said (hfield .serviceToken) h₈)
  case resourceProperties => exact kept_of_said (hfield .resourceProperties) h₉
  case oldResourceProperties =>
    exact optional_iff.mp (kept_of_said (hfield .oldResourceProperties) h₁₀)

/-- Conversely, the draft that the values say. -/
theorem Says.exists_draft {said : Field → List Doc} {r : Request} (h : Says said r) :
    ∃ d : Draft, (∀ f, f.collect? none (said f) = some (d.get f)) ∧ d.toRequest? = some r := by
  let field (f : Field) : Option f.Kept := (said f).head?.bind f.keep?
  have hrequired {f : Field} {v : Doc} {k : f.Kept} (hf : said f = [v])
      (hk : f.keep? v = some k) : f.collect? none (said f) = some (field f) ∧ field f = some k := by
    simp [field, hf, Field.collect?, hk]
  have hdefault {f : Field} {default k : f.Kept}
      (h : said f = [] ∧ k = default ∨ ∃ v, said f = [v] ∧ f.keep? v = some k) :
      f.collect? none (said f) = some (field f) ∧ (field f).getD default = k := by
    rcases h with ⟨hf, rfl⟩ | ⟨v, hf, hk⟩
    · simp [field, hf, Field.collect?]
    · simp [field, hf, Field.collect?, hk]
  obtain ⟨s, hs, htype⟩ := h.requestType
  obtain ⟨s', hs', hurl⟩ := h.responseUrl
  have hresourceType : said .resourceType = [] ∧ r.resourceType = "" ∨
      ∃ v, said .resourceType = [v] ∧ v.text? = some r.resourceType :=
    h.resourceType.imp_right fun hv => ⟨_, hv, rfl⟩
  have h₁ := hrequired (f := .requestType) (k := r.requestType) hs
    (congrArg some (RequestType.ofText_eq_iff.mpr htype))
  have h₂ := hrequired (f := .requestId) (k := r.requestId) h.requestId rfl
  have h₃ := hrequired (f := .responseUrl) (k := r.responseUrl) hs' (toOption_eq_some_iff.mpr hurl)
  have h₄ := hrequired (f := .stackId) (k := r.stackId) h.stackId rfl
  have h₅ := hrequired (f := .logicalResourceId) (k := r.logicalResourceId) h.logicalResourceId rfl
  have h₆ := hdefault (f := .resourceType) (k := r.resourceType) hresourceType
  have h₇ := hdefault (f := .physicalResourceId) (k := r.physicalResourceId)
    (optional_text_iff.mpr h.physicalResourceId)
  have h₈ := hdefault (f := .serviceToken) (k := r.serviceToken)
    (optional_text_iff.mpr h.serviceToken)
  have h₉ := hdefault (f := .resourceProperties) (k := r.resourceProperties) h.resourceProperties
  have h₁₀ := hdefault (f := .oldResourceProperties) (k := r.oldResourceProperties)
    (optional_iff.mpr h.oldResourceProperties)
  refine ⟨.ofFields field, fun f => ?_, ?_⟩
  · rw [Draft.get_ofFields]
    cases f with
    | requestType => exact h₁.1
    | requestId => exact h₂.1
    | responseUrl => exact h₃.1
    | stackId => exact h₄.1
    | logicalResourceId => exact h₅.1
    | resourceType => exact h₆.1
    | physicalResourceId => exact h₇.1
    | serviceToken => exact h₈.1
    | resourceProperties => exact h₉.1
    | oldResourceProperties => exact h₁₀.1
  · exact toRequest?_eq_some_iff.mpr
      ⟨h₁.2, h₂.2, h₃.2, h₄.2, h₅.2, h₆.2, h₇.2, h₈.2, h₉.2, h₁₀.2⟩

namespace Says

variable {said said' : Field → List Doc} {r r' : Request}

/-- The values determine the request. -/
theorem unique (h : Says said r) (h' : Says said r') : r = r' := by
  obtain ⟨d, hsaid, hr⟩ := h.exists_draft
  obtain ⟨d', hsaid', hr'⟩ := h'.exists_draft
  have hdrafts : d = d' := Draft.ext_get fun f =>
    Option.some.inj ((hsaid f).symm.trans (hsaid' f))
  rw [hdrafts, hr'] at hr
  exact (Option.some.inj hr).symm

theorem once (h : Says said r) (f : Field) : (said f).length ≤ 1 := by
  obtain ⟨d, hsaid, -⟩ := h.exists_draft
  rcases Field.collect?_none_eq_some_iff.mp (hsaid f) with ⟨hv, -⟩ | ⟨v, k, hv, -⟩ <;> simp [hv]

/-- The order of values does not matter. -/
theorem perm (hsame : ∀ f, (said f).Perm (said' f)) (h : Says said r) : Says said' r := by
  have heq : said = said' := by
    funext f
    have hlength := h.once f
    have hperm := hsame f
    generalize said f = vs at hlength hperm
    match vs, hlength with
    | [], _ => exact (List.nil_perm.mp hperm).symm
    | [v], _ => exact (List.singleton_perm.mp hperm)
  exact heq ▸ h

theorem suits (h : Says said r) : Suits said := by
  constructor
  case once => exact h.once
  case strings =>
    obtain ⟨s, hs, -⟩ := h.requestType
    simp only [List.forall_mem_cons, List.not_mem_nil, false_imp_iff, implies_true, and_true]
    exact ⟨⟨s, hs⟩, ⟨_, h.requestId⟩, ⟨_, h.stackId⟩, ⟨_, h.logicalResourceId⟩⟩
  case url =>
    obtain ⟨s, hs, hurl⟩ := h.responseUrl
    exact ⟨s, _, hs, hurl⟩
  case resourceType => exact h.resourceType.imp And.left fun hs => ⟨_, hs⟩
  case optional =>
    have hoptional {vs : List Doc} {kept : Option String}
        (h : (vs = [] ∨ vs = [.null]) ∧ kept = none ∨
          ∃ s, vs = [.text (some s)] ∧ kept = some s) :
        vs = [] ∨ vs = [.null] ∨ ∃ s, vs = [.text (some s)] := by
      rcases h with ⟨hnone | hnull, -⟩ | ⟨s, hs, -⟩
      · exact .inl hnone
      · exact .inr (.inl hnull)
      · exact .inr (.inr ⟨s, hs⟩)
    simp only [List.forall_mem_cons, List.not_mem_nil, false_imp_iff, implies_true, and_true]
    exact ⟨hoptional h.physicalResourceId, hoptional h.serviceToken⟩
  case kept =>
    simp only [List.forall_mem_cons, List.not_mem_nil, false_imp_iff, implies_true, and_true]
    constructor
    · rcases h.resourceProperties with ⟨hnone, -⟩ | ⟨v, hv, hkept⟩
      · simp [hnone]
      · simp [hv, hkept]
    · rcases h.oldResourceProperties with ⟨hnone | hnull, -⟩ | ⟨v, kept, hv, -, hkept, -⟩
      · simp [hnone]
      · simp [hnull, Doc.valueIn?]
      · simp [hv, hkept]

end Says

/-- Values that suit a request say one. -/
theorem Suits.exists_request {said : Field → List Doc} (h : Suits said) : ∃ r, Says said r := by
  have hstrings := h.strings
  have hoptional := h.optional
  have hkept := h.kept
  simp only [List.forall_mem_cons, List.not_mem_nil, false_imp_iff, implies_true, and_true]
    at hstrings hoptional hkept
  obtain ⟨⟨requestType, h₁⟩, ⟨requestId, h₂⟩, ⟨stackId, h₄⟩, logicalResourceId, h₅⟩ := hstrings
  obtain ⟨s, url, hs, hurl⟩ := h.url
  have hone (f : Field) : said f = [] ∨ ∃ v, said f = [v] := by
    have hlength := h.once f
    match said f, hlength with
    | [], _ => exact .inl rfl
    | [v], _ => exact .inr ⟨v, rfl⟩
  obtain ⟨resourceType, h₆⟩ : ∃ kept, said .resourceType = [] ∧ kept = "" ∨
      said .resourceType = [.text (some kept)] := by
    rcases h.resourceType with habsent | ⟨s, hs⟩
    · exact ⟨"", .inl ⟨habsent, rfl⟩⟩
    · exact ⟨s, .inr hs⟩
  have htext {f : Field}
      (h : said f = [] ∨ said f = [.null] ∨ ∃ s, said f = [.text (some s)]) :
      ∃ kept : Option String, (said f = [] ∨ said f = [.null]) ∧ kept = none ∨
        ∃ s, said f = [.text (some s)] ∧ kept = some s := by
    rcases h with hnone | hnull | ⟨s, hs⟩
    · exact ⟨none, .inl ⟨.inl hnone, rfl⟩⟩
    · exact ⟨none, .inl ⟨.inr hnull, rfl⟩⟩
    · exact ⟨some s, .inr ⟨s, hs, rfl⟩⟩
  obtain ⟨physicalResourceId, h₇⟩ := htext hoptional.1
  obtain ⟨serviceToken, h₈⟩ := htext hoptional.2
  obtain ⟨resourceProperties, h₉⟩ : ∃ kept, said .resourceProperties = [] ∧ kept = .null ∨
      ∃ v, said .resourceProperties = [v] ∧ v.valueIn? Draft.levels = some kept := by
    rcases hone .resourceProperties with habsent | ⟨v, hv⟩
    · exact ⟨.null, .inl ⟨habsent, rfl⟩⟩
    · obtain ⟨kept, hvalue⟩ := Option.isSome_iff_exists.mp (hkept.1 v (by simp [hv]))
      exact ⟨kept, .inr ⟨v, hv, hvalue⟩⟩
  obtain ⟨oldResourceProperties, h₁₀⟩ : ∃ kept,
      (said .oldResourceProperties = [] ∨ said .oldResourceProperties = [.null]) ∧ kept = none ∨
      ∃ v value, said .oldResourceProperties = [v] ∧ v ≠ .null ∧
        v.valueIn? Draft.levels = some value ∧ kept = some value := by
    rcases hone .oldResourceProperties with habsent | ⟨v, hv⟩
    · exact ⟨none, .inl ⟨.inl habsent, rfl⟩⟩
    · by_cases hnull : v = .null
      · exact ⟨none, .inl ⟨.inr (hnull ▸ hv), rfl⟩⟩
      · obtain ⟨value, hvalue⟩ := Option.isSome_iff_exists.mp (hkept.2 v (by simp [hv]))
        exact ⟨some value, .inr ⟨v, value, hv, hnull, hvalue, rfl⟩⟩
  exact ⟨⟨.ofText requestType, requestId, url, stackId, logicalResourceId, resourceType,
    physicalResourceId, serviceToken, resourceProperties, oldResourceProperties⟩,
    ⟨requestType, h₁, RequestType.ofText_eq_iff.mp rfl⟩, h₂, ⟨s, hs, hurl⟩, h₄, h₅, h₆, h₇, h₈,
    h₉, h₁₀⟩

/-- A text that denotes an object is read as the request that the values of its members say. -/
theorem read_eq_ok_iff {text : String} {members : List (String × Doc)} {r : Request}
    (h : Denotes text (.object (members.map fun m => (some m.1, m.2)))) :
    Request.read text = .ok r ↔ Says (said members) r := by
  rw [← toOption_eq_some_iff, toOption_read h, Option.bind_eq_some_iff]
  simp only [foldlM_hear?_eq_some_iff, Draft.get_empty]
  constructor
  · rintro ⟨d, hsaid, hr⟩
    exact says_of_draft hsaid hr
  · exact Says.exists_draft

/-- **Which objects are requests.** A text that denotes an object is read as a request exactly if
the values of the members that a request knows suit it, and it is read as the request that they say.
Texts that give each field the same values are read as the same. -/
theorem read_object_iff (text : String) (members : List (String × Doc))
    (h : Denotes text (.object (members.map fun m => (some m.1, m.2)))) :
    ((∃ r, Request.read text = .ok r) ↔ Suits (said members)) ∧
    (∀ r, Request.read text = .ok r ↔ Says (said members) r) ∧
    ∀ (text' : String) (members' : List (String × Doc)),
      Denotes text' (.object (members'.map fun m => (some m.1, m.2))) →
      (∀ f, (said members f).Perm (said members' f)) →
      (Request.read text').toOption = (Request.read text).toOption := by
  refine ⟨?_, fun r => read_eq_ok_iff h, fun text' members' h' hsame => ?_⟩
  · simp only [read_eq_ok_iff h]
    constructor
    · rintro ⟨r, hr⟩
      exact hr.suits
    · exact Suits.exists_request
  · ext r
    rw [toOption_eq_some_iff, toOption_eq_some_iff, read_eq_ok_iff h, read_eq_ok_iff h']
    constructor
    · exact fun hr => hr.perm fun f => (hsame f).symm
    · exact fun hr => hr.perm hsame

/-! ### A request in two texts -/

/-- The members of a request to create something. -/
def createMembers : List (String × String) :=
  [("RequestType", "Create"), ("RequestId", "request"), ("ResponseURL", "https://[::1]/"),
    ("StackId", "stack"), ("LogicalResourceId", "Database")]

def createText : String :=
  String.ofList (Json.writeObject (createMembers.map fun m =>
    Json.writeMember m.1 (Json.writeString m.2)))

/-- A member that a request does not know, and which is an object. -/
def strangeMember : String × Doc × List Char :=
  ("Extra", .object [(some "Nested", .text (some ""))],
    Json.writeObject [Json.writeMember "Nested" (Json.writeString "")])

/-- The strange member, and then those of the request from the last one on. -/
def reorderedMembers : List (String × Doc × List Char) :=
  strangeMember :: createMembers.reverse.map fun m =>
    (m.1, .text (some m.2), Json.writeString m.2)

def reorderedText : String :=
  String.ofList ('\n' :: Json.writeObject (reorderedMembers.map fun m =>
    Json.writeMember m.1 m.2.2))

theorem createText_denotes : Denotes createText
    (.object ((createMembers.map fun m => (m.1, .text (some m.2))).map
      fun m => (some m.1, m.2))) := by
  have hobject := (Json.writes_strings createMembers).denotes
  simpa [createText, Function.comp_def] using hobject

theorem reorderedText_denotes : Denotes reorderedText
    (.object ((reorderedMembers.map fun m => (m.1, m.2.1)).map fun m => (some m.1, m.2))) := by
  have hmembers : ∀ m ∈ reorderedMembers, Json.Writes m.2.2 m.2.1 := by
    intro m hm
    rcases List.mem_cons.mp hm with rfl | hm
    · exact Json.writes_strings [("Nested", "")]
    · obtain ⟨m, -, rfl⟩ := List.mem_map.mp hm
      exact Json.writes_string m.2
  have hspace : Json.Writes ('\n' :: Json.writeObject (reorderedMembers.map fun m =>
      Json.writeMember m.1 m.2.2)) (.object (reorderedMembers.map fun m => (some m.1, m.2.1))) :=
    fun rest => .space rfl (Json.writes_object hmembers rest)
  simpa [reorderedText, Function.comp_def] using hspace.denotes

theorem createMembers_suit : Suits (said (createMembers.map fun m => (m.1, .text (some m.2)))) where
  once f := by cases f <;> decide
  strings := by
    simp only [List.forall_mem_cons, List.not_mem_nil, false_imp_iff, implies_true, and_true]
    exact ⟨⟨_, rfl⟩, ⟨_, rfl⟩, ⟨_, rfl⟩, ⟨_, rfl⟩⟩
  url := by
    have hurl : (Url.read "https://[::1]/").isOk = true := by decide +kernel
    cases hread : Url.read "https://[::1]/" with
    | error flaw =>
      rw [hread] at hurl
      cases hurl
    | ok url => exact ⟨_, url, rfl, hread⟩
  resourceType := .inl rfl
  optional := by
    simp only [List.forall_mem_cons, List.not_mem_nil, false_imp_iff, implies_true, and_true]
    exact ⟨.inl rfl, .inl rfl⟩
  kept := by
    simp only [List.forall_mem_cons, List.not_mem_nil, false_imp_iff, implies_true, and_true]
    exact ⟨fun v hv => absurd hv List.not_mem_nil, fun v hv => absurd hv List.not_mem_nil⟩

/-- The text of a create is read, and so is the one with its members the other way round. -/
theorem read_createText :
    (∃ r, Request.read createText = .ok r ∧ r.requestType = .create ∧ r.resourceType = "") ∧
      (Request.read reorderedText).toOption = (Request.read createText).toOption := by
  obtain ⟨haccepted, hmeans, hsame⟩ := read_object_iff createText _ createText_denotes
  refine ⟨?_, hsame reorderedText _ reorderedText_denotes fun f => ?_⟩
  · obtain ⟨r, hr⟩ := haccepted.mpr createMembers_suit
    have hmeaning := (hmeans r).mp hr
    refine ⟨r, hr, ?_, ?_⟩
    · obtain ⟨s, hs, -, hcreate, -⟩ := hmeaning.requestType
      have hsaid : [Doc.text (some "Create")] = [.text (some s)] := hs
      cases hsaid
      exact hcreate.mpr rfl
    · rcases hmeaning.resourceType with ⟨-, hdefault⟩ | hs
      · exact hdefault
      · have hsaid : [] = [Doc.text (some r.resourceType)] := hs
        cases hsaid
  · cases f <;> exact .refl _

end Request

end DatabaseResource
